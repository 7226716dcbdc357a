import CellNet.Load
import Mathlib.Data.List.Nodup

/-!
# Where a load ends

**Theorem (`load_ends_at_first_failure`).** Whatever is answered about the documents, a load asks
for them in their order, each once, and goes on as long as the answers let it: the geometry has to
be read and to place a cell, the topology has to be read, and a tree document has to be read or not
to be found. A load that all answers let pass asks for every document that is not left out, and
gives a topology. Any other ends at the first answer that does not let it pass, and its error names
the document of that answer and tells what was wrong with it.

Each stage either goes on or fails (`startWith_cases`, `connect_cases`, `overlay_cases`), and what
it does depends on the answer about its own document only. So the stages are put together by one
relation (`Runs`), which holds the documents a load has still to ask for against what comes of it.
-/

namespace CellNet

/-! ## The documents of a load -/

/-- Whether a document is asked for. -/
def LoadOptions.asksFor (options : LoadOptions) : Document → Bool
  | .geometry | .topology => true
  | .blackTree => options.blackTrees
  | .stackedTree => options.stackedTrees

/-- The documents a load asks for if nothing ends it, in order. -/
def LoadOptions.documents (options : LoadOptions) : List Document :=
  Document.all.filter options.asksFor

/-- A text can be read as a document. -/
def Document.Reads : Document → String → Prop
  | .geometry, text => ∃ geometry, Geometry.read? text = some geometry
  | .topology, text | .blackTree, text | .stackedTree, text =>
    ∃ records, CellRecords.read? text = some records

namespace Load

variable {answer : Document → Except SourceError String} {options : LoadOptions}
  {document : Document} {error : LoadError} {kind : TreeKind}

theorem documents_eq (options : LoadOptions) :
    options.documents = .geometry :: .topology :: (overlays options).map treeDocument := by
  rcases options with ⟨_ | _, _ | _⟩ <;> rfl

theorem nodup_documents (options : LoadOptions) : options.documents.Nodup :=
  List.Nodup.filter _ (by decide)

theorem reads_treeDocument {text : String} : (treeDocument kind).Reads text ↔
    ∃ records, CellRecords.read? text = some records := by
  cases kind <;> rfl

/-! ## What is answered about a document -/

/-- A document was published, and this is what it says. -/
def Publishes {α : Type} (answer : Document → Except SourceError String) (document : Document)
    (read : String → Option α) (value : α) : Prop :=
  ∃ text, answer document = .ok text ∧ read text = some value

/-- A document is not there. -/
def IsMissing (answer : Document → Except SourceError String) (document : Document) : Prop :=
  ∃ reason, answer document = .error reason ∧ reason.isNotFound

/-- What is answered about a document lets a load go on. -/
def Passes (answer : Document → Except SourceError String) : Document → Prop
  | .geometry => ∃ geometry, Publishes answer .geometry Geometry.read? geometry ∧ geometry.cells ≠ ∅
  | .topology => ∃ records, Publishes answer .topology CellRecords.read? records
  | .blackTree =>
    (∃ records, Publishes answer .blackTree CellRecords.read? records) ∨ IsMissing answer .blackTree
  | .stackedTree =>
    (∃ records, Publishes answer .stackedTree CellRecords.read? records) ∨
      IsMissing answer .stackedTree

/-- The geometry was published and places no cell. -/
def PlacesNothing (answer : Document → Except SourceError String) : Prop :=
  ∃ geometry, Publishes answer .geometry Geometry.read? geometry ∧ geometry.cells = ∅

/-- What is answered about a document ends a load with an error. -/
inductive Fails (answer : Document → Except SourceError String) : LoadError → Prop
  | nothingToShow (h : PlacesNothing answer) : Fails answer .nothingToShow
  | fetch {document : Document} {reason : SourceError} (hanswer : answer document = .error reason)
      (hneeded : ∀ kind, document = treeDocument kind → ¬ reason.isNotFound) :
      Fails answer (.fetch document reason)
  | malformed {document : Document} {text : String} (hanswer : answer document = .ok text)
      (hread : ¬ document.Reads text) : Fails answer (.malformed document (complaint text))

/-- An error tells what was answered about its document. -/
structure Explains (error : LoadError) (answer : Document → Except SourceError String) : Prop where
  nothingToShow : error = .nothingToShow ↔ error.document = .geometry ∧ PlacesNothing answer
  fetch : ∀ reason, error = .fetch error.document reason ↔ answer error.document = .error reason
  malformed : (∃ detail, error = .malformed error.document detail) ↔
    ∃ text, answer error.document = .ok text ∧ ¬ error.document.Reads text
  /-- A tree document that is not there is no reason. -/
  needed : ∀ kind reason, error = .fetch (treeDocument kind) reason → ¬ reason.isNotFound

theorem Publishes.unique {α : Type} {read : String → Option α} {value other : α}
    (h : Publishes answer document read value) (h' : Publishes answer document read other) :
    value = other := by
  obtain ⟨text, hanswer, hread⟩ := h
  obtain ⟨text', hanswer', hread'⟩ := h'
  cases hanswer.symm.trans hanswer'
  exact Option.some.inj (hread.symm.trans hread')

theorem passes_treeDocument : Passes answer (treeDocument kind) ↔
    (∃ records, Publishes answer (treeDocument kind) CellRecords.read? records) ∨
      IsMissing answer (treeDocument kind) := by
  cases kind <;> rfl

/-- What lets a load go on was read, or is a tree document that is not there. -/
theorem Passes.reads_or (h : Passes answer document) :
    (∃ text, answer document = .ok text ∧ document.Reads text) ∨
      (∃ kind, document = treeDocument kind) ∧ IsMissing answer document := by
  have hpublished : ∀ {document}, (∃ records, Publishes answer document CellRecords.read? records) →
      ∃ text, answer document = .ok text ∧ ∃ records, CellRecords.read? text = some records := by
    rintro document ⟨records, text, hanswer, hread⟩
    exact ⟨text, hanswer, records, hread⟩
  cases document with
  | geometry =>
    obtain ⟨geometry, ⟨text, hanswer, hread⟩, -⟩ := h
    exact Or.inl ⟨text, hanswer, geometry, hread⟩
  | topology => exact Or.inl (hpublished h)
  | blackTree => exact h.imp hpublished (⟨⟨.black, rfl⟩, ·⟩)
  | stackedTree => exact h.imp hpublished (⟨⟨.stacked, rfl⟩, ·⟩)

theorem Fails.not_passes (h : Fails answer error) : ¬ Passes answer error.document := by
  intro hpasses
  cases h with
  | nothingToShow h =>
    obtain ⟨geometry, hpublishes, hempty⟩ := h
    obtain ⟨other, hother, hplaces⟩ := hpasses
    exact hplaces (hpublishes.unique hother ▸ hempty)
  | fetch hanswer hneeded =>
    rcases hpasses.reads_or with ⟨text, htext, -⟩ | ⟨⟨kind, hkind⟩, reason, hreason, hmissing⟩
    · cases hanswer.symm.trans htext
    · cases hanswer.symm.trans hreason
      exact hneeded kind hkind hmissing
  | malformed hanswer hread =>
    rcases hpasses.reads_or with ⟨text, htext, hreads⟩ | ⟨-, reason, hreason, -⟩
    · cases hanswer.symm.trans htext
      exact hread hreads
    · cases hanswer.symm.trans hreason

/-- An error that ends a load is the one its document gives rise to. -/
theorem Fails.explains (h : Fails answer error) : Explains error answer := by
  cases h with
  | nothingToShow h =>
    obtain ⟨geometry, ⟨text, hanswer, hread⟩, -⟩ := id h
    refine ⟨by simp [LoadError.document, h], fun reason => ?_, ?_,
      fun kind reason hfetch => by cases hfetch⟩
    · simp [LoadError.document, hanswer]
    · simp [LoadError.document, hanswer, Document.Reads, hread]
  | fetch hanswer hneeded =>
    refine ⟨?_, fun reason => ?_, ?_, fun kind reason hfetch => ?_⟩
    · simp only [LoadError.document, reduceCtorEq, false_iff, not_and]
      rintro rfl ⟨geometry, ⟨text, htext, -⟩, -⟩
      cases hanswer.symm.trans htext
    · simp [LoadError.document, hanswer]
    · simp [LoadError.document, hanswer]
    · cases hfetch
      exact hneeded kind rfl
  | malformed hanswer hread =>
    refine ⟨?_, fun reason => ?_, ?_, fun kind reason hfetch => by cases hfetch⟩
    · simp only [LoadError.document, reduceCtorEq, false_iff, not_and]
      rintro rfl ⟨geometry, ⟨text, htext, hgeometry⟩, -⟩
      cases hanswer.symm.trans htext
      exact hread ⟨geometry, hgeometry⟩
    · simp [LoadError.document, hanswer]
    · simpa [LoadError.document, hanswer] using hread

/-! ## The stages -/

theorem receive_cases {α : Type} (answer : Document → Except SourceError String)
    (document : Document) (read : String → Option α) :
    (∃ value, Publishes answer document read value ∧
      receive document read (answer document) = .ok value) ∨
    (∃ text, answer document = .ok text ∧ read text = none ∧
      receive document read (answer document) = .error (.malformed document (complaint text))) ∨
    ∃ reason, answer document = .error reason ∧
      receive document read (answer document) = .error (.fetch document reason) := by
  cases hanswer : answer document with
  | error reason => exact Or.inr (Or.inr ⟨reason, rfl, rfl⟩)
  | ok text =>
    rw [receive]
    cases hread : read text with
    | none => exact Or.inr (Or.inl ⟨text, rfl, hread, rfl⟩)
    | some value => exact Or.inl ⟨value, ⟨text, hanswer, hread⟩, rfl⟩

theorem startWith_cases (answer : Document → Except SourceError String) :
    (∃ geometry, Publishes answer .geometry Geometry.read? geometry ∧ geometry.cells ≠ ∅ ∧
      startWith (answer .geometry) = .ok (.ofGeometry geometry)) ∨
    ∃ error, startWith (answer .geometry) = .error error ∧ Fails answer error ∧
      error.document = .geometry := by
  rw [startWith]
  rcases receive_cases answer .geometry Geometry.read? with
    ⟨geometry, hpublishes, hreceive⟩ | ⟨text, hanswer, hread, hreceive⟩ |
    ⟨reason, hanswer, hreceive⟩ <;> rw [hreceive]
  · by_cases hempty : geometry.cells = ∅
    · exact Or.inr ⟨.nothingToShow, by simp [bind, Except.bind, hempty],
        .nothingToShow ⟨geometry, hpublishes, hempty⟩, rfl⟩
    · exact Or.inl ⟨geometry, hpublishes, hempty, by simp [bind, Except.bind, hempty]⟩
  · exact Or.inr ⟨_, rfl, .malformed hanswer (by simp [Document.Reads, hread]), rfl⟩
  · exact Or.inr ⟨_, rfl, .fetch hanswer fun kind => by cases kind <;> simp [treeDocument], rfl⟩

theorem connect_cases (answer : Document → Except SourceError String) (topo : Topology) :
    (∃ records, Publishes answer .topology CellRecords.read? records ∧
      connect topo (answer .topology) = .ok (topo.addNeighbors records)) ∨
    ∃ error, connect topo (answer .topology) = .error error ∧ Fails answer error ∧
      error.document = .topology := by
  rw [connect]
  rcases receive_cases answer .topology CellRecords.read? with
    ⟨records, hpublishes, hreceive⟩ | ⟨text, hanswer, hread, hreceive⟩ |
    ⟨reason, hanswer, hreceive⟩ <;> rw [hreceive]
  · exact Or.inl ⟨records, hpublishes, rfl⟩
  · exact Or.inr ⟨_, rfl, .malformed hanswer (by simp [Document.Reads, hread]), rfl⟩
  · exact Or.inr ⟨_, rfl, .fetch hanswer fun kind => by cases kind <;> simp [treeDocument], rfl⟩

/-- A tree document lays trees over a topology, is not there, or ends a load. -/
theorem overlay_cases (answer : Document → Except SourceError String) (topo : Topology)
    (kind : TreeKind) :
    (∃ records, Publishes answer (treeDocument kind) CellRecords.read? records ∧
      overlay topo kind (answer (treeDocument kind)) = .ok (topo.addTrees kind records)) ∨
    (IsMissing answer (treeDocument kind) ∧
      overlay topo kind (answer (treeDocument kind)) = .ok topo) ∨
    ∃ error, overlay topo kind (answer (treeDocument kind)) = .error error ∧ Fails answer error ∧
      error.document = treeDocument kind := by
  rw [overlay]
  rcases receive_cases answer (treeDocument kind) CellRecords.read? with
    ⟨records, hpublishes, hreceive⟩ | ⟨text, hanswer, hread, hreceive⟩ |
    ⟨reason, hanswer, hreceive⟩ <;> rw [hreceive]
  · exact Or.inl ⟨records, hpublishes, rfl⟩
  · exact Or.inr (Or.inr ⟨_, rfl, .malformed hanswer (by simp [reads_treeDocument, hread]), rfl⟩)
  · by_cases hmissing : reason.isNotFound
    · exact Or.inr (Or.inl ⟨⟨reason, hanswer, hmissing⟩, if_pos hmissing⟩)
    · exact Or.inr (Or.inr ⟨_, if_neg hmissing, .fetch hanswer fun _ _ => hmissing, rfl⟩)

/-! ## From stage to stage -/

/-- What comes of a load that has still to ask for some documents, and for which of them it asks. -/
inductive Runs (answer : Document → Except SourceError String) :
    List Document → Except LoadError Topology → List Document → Prop
  | done (topo : Topology) : Runs answer [] (.ok topo) []
  | ends {documents : List Document} {error : LoadError} (h : Fails answer error) :
      Runs answer (error.document :: documents) (.error error) [error.document]
  | goesOn {document : Document} {documents requested : List Document}
      {outcome : Except LoadError Topology} (h : Passes answer document)
      (hrest : Runs answer documents outcome requested) :
      Runs answer (document :: documents) outcome (document :: requested)

theorem run_addOverlays_cons (answer : Document → Except SourceError String) (kind : TreeKind)
    (kinds : List TreeKind) (topo : Topology) (requested : List Document) :
    (addOverlays (recording answer) (kind :: kinds) topo).run requested =
      match overlay topo kind (answer (treeDocument kind)) with
      | .error error => (.error error, requested ++ [treeDocument kind])
      | .ok topo => (addOverlays (recording answer) kinds topo).run
          (requested ++ [treeDocument kind]) := by
  rw [addOverlays]
  show (match overlay topo kind (answer (treeDocument kind)) with
    | .error error => pure (.error error)
    | .ok topo => addOverlays (recording answer) kinds topo : StateM _ _) _ = _
  cases overlay topo kind (answer (treeDocument kind)) <;> rfl

theorem withRequests_eq (answer : Document → Except SourceError String) (options : LoadOptions) :
    withRequests answer options =
      match startWith (answer .geometry) with
      | .error error => (.error error, [.geometry])
      | .ok topo =>
        match connect topo (answer .topology) with
        | .error error => (.error error, [.geometry, .topology])
        | .ok topo => (addOverlays (recording answer) (overlays options) topo).run
            [.geometry, .topology] := by
  show (match startWith (answer .geometry) with
    | .error error => pure (.error error)
    | .ok topo => do
      match connect topo (← recording answer .topology) with
      | .error error => return .error error
      | .ok topo => addOverlays (recording answer) (overlays options) topo :
      StateM _ _) [.geometry] = _
  cases startWith (answer .geometry) with
  | error error => rfl
  | ok topo =>
    show (match connect topo (answer .topology) with
      | .error error => pure (.error error)
      | .ok topo => addOverlays (recording answer) (overlays options) topo :
      StateM _ _) [.geometry, .topology] =
      match connect topo (answer .topology) with
      | .error error => (.error error, [.geometry, .topology])
      | .ok topo => (addOverlays (recording answer) (overlays options) topo).run
          [.geometry, .topology]
    cases connect topo (answer .topology) <;> rfl

/-- The tree documents are asked for in turn. -/
theorem runs_addOverlays (answer : Document → Except SourceError String)
    (kinds : List TreeKind) (topo : Topology) (before : List Document) :
    ∃ requested outcome,
      (addOverlays (recording answer) kinds topo).run before = (outcome, before ++ requested) ∧
      Runs answer (kinds.map treeDocument) outcome requested := by
  induction kinds generalizing topo before with
  | nil => exact ⟨[], .ok topo, by rw [List.append_nil]; rfl, .done topo⟩
  | cons kind kinds ih =>
    have hgoesOn : ∀ next, overlay topo kind (answer (treeDocument kind)) = .ok next →
        Passes answer (treeDocument kind) → ∃ requested outcome,
        (addOverlays (recording answer) (kind :: kinds) topo).run before =
          (outcome, before ++ requested) ∧
        Runs answer ((kind :: kinds).map treeDocument) outcome requested := by
      intro next hnext hpasses
      obtain ⟨requested, outcome, hrun, hruns⟩ := ih next (before ++ [treeDocument kind])
      refine ⟨treeDocument kind :: requested, outcome, ?_, .goesOn hpasses hruns⟩
      rw [run_addOverlays_cons, hnext]
      exact hrun.trans (by rw [List.append_assoc]; rfl)
    rcases overlay_cases answer topo kind with
      ⟨records, hpublishes, hnext⟩ | ⟨hmissing, hnext⟩ | ⟨error, herror, hfails, hdocument⟩
    · exact hgoesOn _ hnext (passes_treeDocument.2 (Or.inl ⟨records, hpublishes⟩))
    · exact hgoesOn _ hnext (passes_treeDocument.2 (Or.inr hmissing))
    · refine ⟨[treeDocument kind], .error error, ?_, ?_⟩
      · rw [run_addOverlays_cons, herror]
      · rw [List.map_cons, ← hdocument]
        exact .ends hfails

theorem runs_withRequests (answer : Document → Except SourceError String)
    (options : LoadOptions) :
    Runs answer options.documents (withRequests answer options).1
      (withRequests answer options).2 := by
  rw [documents_eq, withRequests_eq]
  rcases startWith_cases answer with ⟨geometry, hpublishes, hplaces, hstart⟩ |
    ⟨error, herror, hfails, hdocument⟩
  · have hgeometry : Passes answer .geometry := ⟨geometry, hpublishes, hplaces⟩
    simp only [hstart]
    rcases connect_cases answer (.ofGeometry geometry) with ⟨records, hrecords, hconnect⟩ |
      ⟨error, herror, hfails, hdocument⟩
    · have htopology : Passes answer .topology := ⟨records, hrecords⟩
      obtain ⟨requested, outcome, hrun, hruns⟩ := runs_addOverlays answer
        (overlays options) ((Topology.ofGeometry geometry).addNeighbors records)
        [.geometry, .topology]
      simp only [hconnect, hrun]
      exact .goesOn hgeometry (.goesOn htopology hruns)
    · simp only [herror]
      refine .goesOn hgeometry ?_
      rw [← hdocument]
      exact .ends hfails
  · simp only [herror]
    rw [← hdocument]
    exact .ends hfails

/-! ## What a run through documents has done -/

namespace Runs

variable {documents requested : List Document} {outcome : Except LoadError Topology}

theorem inOrder (h : Runs answer documents outcome requested) : requested <+: documents := by
  induction h with
  | done topo => exact List.prefix_rfl
  | ends h => exact List.prefix_append [_] _
  | goesOn h hrest ih => exact (List.prefix_cons_inj _).2 ih

theorem ok_iff (h : Runs answer documents outcome requested) :
    (∃ topo, outcome = .ok topo) ↔ ∀ document ∈ documents, Passes answer document := by
  induction h with
  | done topo => simp
  | ends h => simp [h.not_passes]
  | goesOn h hrest ih => simpa [h] using ih

theorem eq_of_ok (h : Runs answer documents outcome requested) {topo : Topology}
    (hok : outcome = .ok topo) : requested = documents := by
  induction h with
  | done topo => rfl
  | ends h => cases hok
  | goesOn h hrest ih => rw [ih hok]

/-- A load that ends with an error ends at the first answer that does not let it pass. -/
theorem eq_of_error (h : Runs answer documents outcome requested)
    (herror : outcome = .error error) : ∃ passed, requested = passed ++ [error.document] ∧
      (∀ document ∈ passed, Passes answer document) ∧ Fails answer error := by
  induction h with
  | done topo => cases herror
  | ends h =>
    cases herror
    exact ⟨[], rfl, by simp, h⟩
  | goesOn h hrest ih =>
    obtain ⟨passed, rfl, hpassed, hfails⟩ := ih herror
    exact ⟨_ :: passed, rfl, by simpa [h] using hpassed, hfails⟩

/-- A load ends at once if what is answered about its next document does not let it pass. -/
theorem error_of_not_passes (h : Runs answer (document :: documents) outcome requested)
    (hnot : ¬ Passes answer document) :
    ∃ error, outcome = .error error ∧ error.document = document ∧ Fails answer error := by
  cases h with
  | ends h => exact ⟨_, rfl, rfl, h⟩
  | goesOn h hrest => exact absurd h hnot

end Runs

/-- **A load ends at the first failure** and names it, and a load without one asks for every
document that is not left out. -/
theorem load_ends_at_first_failure (answer : Document → Except SourceError String)
    (options : LoadOptions) :
    let outcome := (withRequests answer options).1
    let requested := (withRequests answer options).2
    requested <+: options.documents ∧ requested.Nodup ∧
    ((∃ topo, outcome = .ok topo) ↔ ∀ document ∈ options.documents, Passes answer document) ∧
    (∀ topo, outcome = .ok topo → requested = options.documents) ∧
    (outcome = .error .nothingToShow ↔ PlacesNothing answer) ∧
    ∀ error, outcome = .error error →
      (∃ passed, requested = passed ++ [error.document] ∧
        ∀ document ∈ passed, Passes answer document) ∧
      ¬ Passes answer error.document ∧ Explains error answer := by
  intro outcome requested
  have hruns : Runs answer options.documents outcome requested := runs_withRequests answer options
  refine ⟨hruns.inOrder, (nodup_documents options).sublist hruns.inOrder.sublist, hruns.ok_iff,
    fun topo => hruns.eq_of_ok, ⟨fun herror => ?_, fun hnothing => ?_⟩, fun error herror => ?_⟩
  · obtain ⟨-, -, -, hfails⟩ := hruns.eq_of_error herror
    exact (hfails.explains.nothingToShow.1 rfl).2
  · rw [documents_eq] at hruns
    obtain ⟨error, herror, hdocument, hfails⟩ :=
      hruns.error_of_not_passes (Fails.nothingToShow hnothing).not_passes
    rw [herror, hfails.explains.nothingToShow.2 ⟨hdocument, hnothing⟩]
  · obtain ⟨passed, hrequested, hpassed, hfails⟩ := hruns.eq_of_error herror
    exact ⟨⟨passed, hrequested, hpassed⟩, hfails.not_passes, hfails.explains⟩

end Load

end CellNet
