/-!
# The documents

A topology is published in four JSON documents. They are asked for in the order given here: the
geometry places the cells, the topology connects them, and the two tree documents lay the trees over
them.
-/

namespace CellNet

/-- The documents of a topology. -/
inductive Document where
  | geometry
  | topology
  | blackTree
  | stackedTree
deriving DecidableEq, Repr

namespace Document

/-- The name a document is published under. -/
def name : Document → String
  | .geometry => "geometry"
  | .topology => "topology"
  | .blackTree => "black_tree"
  | .stackedTree => "stack_treed"

/-- What a document is called in messages. -/
def label : Document → String
  | .geometry => "geometry"
  | .topology => "topology"
  | .blackTree => "black tree"
  | .stackedTree => "stacked tree"

/-- All documents, in the order they are asked for. -/
def all : List Document := [.geometry, .topology, .blackTree, .stackedTree]

end Document

end CellNet
