/-!
# Grid layout

A layout turns grid positions into canvas coordinates: columns run right and rows run down from an
origin, `scale` apart. Rows and columns fit in 64-bit words and are rounded to floats first.
-/

namespace CellNet

/-- Where the grid begins, how far cells lie apart, and how large they are drawn. -/
structure Layout where
  originX : Float := 50
  originY : Float := 50
  scale : Float := 50
  radius : Float := 10

/-- A place on the canvas. -/
structure Point where
  x : Float
  y : Float

namespace Layout

/-- The float nearest to a row or column. -/
def ofGrid (n : Nat) : Float := (UInt64.ofNat n).toFloat

/-- The centre of the cell at a row and column. -/
def position (layout : Layout) (row col : Nat) : Point where
  x := layout.originX + ofGrid col * layout.scale
  y := layout.originY + ofGrid row * layout.scale

/-- The lower right corner of a canvas with the origin's margin on every side. -/
def canvas (layout : Layout) (maxRow maxCol : Nat) : Point :=
  let last := layout.position maxRow maxCol
  ⟨last.x + layout.originX, last.y + layout.originY⟩

end Layout

end CellNet
