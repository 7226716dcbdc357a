import CellNet.Markup
import CellNet.Text.Split
import Mathlib.Data.List.Basic
import Mathlib.Data.List.TakeWhile
import Mathlib.Tactic.Tauto

/-!
# Reading markup back

What is written with markup in it is read here as a viewer reads it. What stands between a `<` and
the next `>` is a tag; its text up to the first blank is its name, and behind that come the
attributes, each with its value between quotes; entities in a value stand for characters.

* `unescape_escape` — the entities of an escaped text give back the text.
* `pieces_tag` — a tag is read with the text up to the next one.
* `readsAs_markup` — a tag is read back from its markup, whatever its values are.
* `ReadsAs.append`, `ReadsAs.join` — what is written piece by piece is read piece by piece.
* `readsAs_ofList` — a text that is given character by character is read by computing.
* `count_eq_length_tags` — there is one tag for each `<`.

The reader is stricter than a viewer: no value may hold a `<` or `>`, and no text between tags a
`<`. So what it reads back is there for every viewer.
-/

namespace CellNet.Markup

/-! ## Entities -/

/-- Puts characters in the place of the five entities. -/
def unescape : List Char → List Char
  | '&' :: 'a' :: 'm' :: 'p' :: ';' :: rest => '&' :: unescape rest
  | '&' :: 'l' :: 't' :: ';' :: rest => '<' :: unescape rest
  | '&' :: 'g' :: 't' :: ';' :: rest => '>' :: unescape rest
  | '&' :: 'q' :: 'u' :: 'o' :: 't' :: ';' :: rest => '"' :: unescape rest
  | '&' :: '#' :: '3' :: '9' :: ';' :: rest => '\'' :: unescape rest
  | c :: rest => c :: unescape rest
  | [] => []

theorem unescape_cons {c : Char} (h : c ≠ '&') (rest : List Char) :
    unescape (c :: rest) = c :: unescape rest := by
  conv_lhs => unfold unescape
  split <;> simp_all

theorem unescape_entity_append (c : Char) (rest : List Char) :
    unescape (entity c ++ rest) = c :: unescape rest := by
  unfold entity
  split
  · simp [unescape]
  · simp [unescape]
  · simp [unescape]
  · simp [unescape]
  · simp [unescape]
  · rename_i hamp _ _ _ _
    exact unescape_cons hamp rest

/-- Escaping is undone. -/
theorem unescape_escape (text : String) : unescape (escape text).toList = text.toList := by
  rw [escape, String.toList_ofList]
  induction text.toList with
  | nil => rfl
  | cons c cs ih => rw [List.flatMap_cons, unescape_entity_append, ih]

theorem notMem_entity {mark : Char} (h : mark = '<' ∨ mark = '>' ∨ mark = '"') (c : Char) :
    mark ∉ entity c := by
  unfold entity
  split
  · rcases h with rfl | rfl | rfl <;> decide
  · rcases h with rfl | rfl | rfl <;> decide
  · rcases h with rfl | rfl | rfl <;> decide
  · rcases h with rfl | rfl | rfl <;> decide
  · rcases h with rfl | rfl | rfl <;> decide
  · intro hc
    obtain rfl := List.mem_singleton.1 hc
    simp_all

/-- An escaped text has none of the characters that begin or end a tag or a value. -/
theorem notMem_escape {mark : Char} (h : mark = '<' ∨ mark = '>' ∨ mark = '"') (text : String) :
    mark ∉ (escape text).toList := by
  rw [escape, String.toList_ofList, List.mem_flatMap]
  intro hmem
  obtain ⟨c, -, hc⟩ := hmem
  exact notMem_entity h c hc

/-- A text is plain when none of its characters needs an entity. -/
def Plain (text : String) : Prop := ∀ c ∈ text.toList, entity c = [c]

theorem escape_of_plain {text : String} (h : Plain text) : escape text = text := by
  rw [escape, List.flatMap_congr h, List.flatMap_singleton', String.ofList_toList]

theorem plain_ofList {text : String} {chars : List Char} (h : text = String.ofList chars)
    (hchars : chars.all fun c => entity c = [c]) : Plain text := by
  rw [Plain, h, String.toList_ofList]
  simpa using hchars

theorem plain_append {a b : String} (ha : Plain a) (hb : Plain b) : Plain (a ++ b) := by
  intro c hc
  rw [String.toList_append, List.mem_append] at hc
  rcases hc with hc | hc
  · exact ha c hc
  · exact hb c hc

/-! ## Tags -/

/-- A tag: its name, and its attributes with their values. -/
structure Tag where
  name : String
  attributes : List (String × String) := []
deriving DecidableEq, Repr

def Tag.attribute? (tag : Tag) (name : String) : Option String := tag.attributes.lookup name

/-- The texts of the tags of a text. -/
def tagTexts : List Char → List (List Char)
  | [] => []
  | c :: rest => if c = '<' then rest.takeWhile (· ≠ '>') :: tagTexts rest else tagTexts rest

/-- What stands between the end of the tag and the next tag. -/
def textBehind (rest : List Char) : List Char :=
  ((rest.dropWhile (· ≠ '>')).drop 1).takeWhile (· ≠ '<')

/-- The texts of the tags of a text, each with what stands between it and the next. -/
def pieces : List Char → List (List Char × List Char)
  | [] => []
  | c :: rest =>
    if c = '<' then (rest.takeWhile (· ≠ '>'), textBehind rest) :: pieces rest else pieces rest

theorem map_fst_pieces (text : List Char) : (pieces text).map Prod.fst = tagTexts text := by
  induction text with
  | nil => rfl
  | cons c cs ih =>
    by_cases hc : c = '<'
    · simp [pieces, tagTexts, hc, ih]
    · simp [pieces, tagTexts, hc, ih]

/-- Reads attributes and values that take turns; an attribute stands between a blank and an equals
sign. -/
def readAttributes : List (List Char) → List (String × String)
  | key :: value :: rest =>
    (String.ofList (key.drop 1).dropLast, String.ofList (unescape value)) :: readAttributes rest
  | _ => []

def readTag (text : List Char) : Tag where
  name := String.ofList (text.takeWhile (· ≠ ' '))
  attributes := readAttributes (Text.parts '"' (text.dropWhile (· ≠ ' ')))

/-- The tags of a text, closing ones included. -/
def tags (text : String) : List Tag := (tagTexts text.toList).map readTag

/-- There is one tag for each `<`. -/
theorem count_eq_length_tags (text : String) : text.toList.count '<' = (tags text).length := by
  rw [tags, List.length_map]
  induction text.toList with
  | nil => rfl
  | cons c cs ih =>
    by_cases hc : c = '<'
    · simp [tagTexts, hc, ih]
    · simp [tagTexts, hc, ih]

/-! ## Reading a tag -/

theorem forall_ne_of_notMem {mark : Char} {text : List Char} (h : mark ∉ text) :
    ∀ c ∈ text, decide (c ≠ mark) = true := by
  intro c hc
  have hne : c ≠ mark := by
    rintro rfl
    exact h hc
  simp [hne]

theorem parts_ne_nil (sep : Char) (text : List Char) : Text.parts sep text ≠ [] := by
  cases text with
  | nil => simp [Text.parts]
  | cons c cs =>
    rw [Text.parts]
    split
    · simp
    · split_ifs <;> simp

theorem parts_append {sep : Char} {a : List Char} (h : sep ∉ a) (b : List Char) :
    Text.parts sep (a ++ sep :: b) = a :: Text.parts sep b := by
  induction a with
  | nil =>
    rw [List.nil_append, Text.parts]
    cases hb : Text.parts sep b with
    | nil => exact absurd hb (parts_ne_nil sep b)
    | cons part rest => simp
  | cons c cs ih =>
    rw [List.mem_cons, not_or] at h
    rw [List.cons_append, Text.parts, ih h.2]
    simp [Ne.symm h.1]

theorem toList_attr (name value : String) :
    (attr name value).toList = (' ' :: name.toList ++ ['=']) ++ '"' :: (value.toList ++ ['"']) := by
  simp [attr]

/-- A tag as it is written. -/
def Tag.markup (tag : Tag) : String :=
  "<" ++ tag.name ++ String.join (tag.attributes.map fun a => attr a.1 (escape a.2)) ++ ">"

/-- A name in a tag has no character that would end it. -/
def ProperName (name : String) : Prop :=
  ∀ c ∈ name.toList, c ≠ '<' ∧ c ≠ '>' ∧ c ≠ '"' ∧ c ≠ ' '

theorem properName_ofList {name : String} {chars : List Char} (h : name = String.ofList chars)
    (hchars : chars.all fun c => c ≠ '<' ∧ c ≠ '>' ∧ c ≠ '"' ∧ c ≠ ' ') : ProperName name := by
  rw [ProperName, h, String.toList_ofList]
  simpa using hchars

theorem ProperName.notMem {name : String} (h : ProperName name) :
    '<' ∉ name.toList ∧ '>' ∉ name.toList ∧ '"' ∉ name.toList ∧ ' ' ∉ name.toList := by
  refine ⟨?_, ?_, ?_, ?_⟩
  · intro hc
    exact (h _ hc).1 rfl
  · intro hc
    exact (h _ hc).2.1 rfl
  · intro hc
    exact (h _ hc).2.2.1 rfl
  · intro hc
    exact (h _ hc).2.2.2 rfl

/-- The tag and its attributes have proper names. -/
def Tag.Proper (tag : Tag) : Prop :=
  ProperName tag.name ∧ ∀ a ∈ tag.attributes, ProperName a.1

/-- Attributes as they are written, each behind a blank. -/
def attributesText (attributes : List (String × String)) : List Char :=
  attributes.flatMap fun a => (attr a.1 (escape a.2)).toList

theorem Tag.toList_markup (tag : Tag) :
    tag.markup.toList = '<' :: (tag.name.toList ++ attributesText tag.attributes ++ ['>']) := by
  simp [Tag.markup, attributesText, String.toList_join, List.flatMap_map]

theorem notMem_attributesText {mark : Char} (h : mark = '<' ∨ mark = '>')
    {attributes : List (String × String)} (hproper : ∀ a ∈ attributes, ProperName a.1) :
    mark ∉ attributesText attributes := by
  intro hmem
  obtain ⟨⟨name, value⟩, ha, hmark⟩ := List.mem_flatMap.1 hmem
  have hname : mark ∉ name.toList := by
    rcases h with rfl | rfl
    · exact (hproper _ ha).notMem.1
    · exact (hproper _ ha).notMem.2.1
  have hvalue : mark ∉ (escape value).toList := notMem_escape (by tauto) value
  rcases h with rfl | rfl <;> simp_all [toList_attr]

theorem readAttributes_attributesText {attributes : List (String × String)}
    (h : ∀ a ∈ attributes, ProperName a.1) :
    readAttributes (Text.parts '"' (attributesText attributes)) = attributes := by
  induction attributes with
  | nil => rfl
  | cons first others ih =>
    obtain ⟨name, value⟩ := first
    obtain ⟨hname, hothers⟩ := List.forall_mem_cons.1 h
    have htext : attributesText ((name, value) :: others) =
        (' ' :: name.toList ++ ['=']) ++ '"' ::
          ((escape value).toList ++ '"' :: attributesText others) := by
      simp [attributesText, toList_attr]
    have hkey : '"' ∉ ' ' :: name.toList ++ ['='] := by
      simp [hname.notMem.2.2.1]
    have hvalue : '"' ∉ (escape value).toList := notMem_escape (by simp) value
    rw [htext, parts_append hkey, parts_append hvalue, readAttributes, ih hothers,
      unescape_escape]
    simp

theorem readTag_text {tag : Tag} (h : tag.Proper) :
    readTag (tag.name.toList ++ attributesText tag.attributes) = tag := by
  obtain ⟨name, attributes⟩ := tag
  obtain ⟨hname, hattributes⟩ := h
  have hblank := forall_ne_of_notMem hname.notMem.2.2.2
  have hbehind : (attributesText attributes).takeWhile (· ≠ ' ') = [] ∧
      (attributesText attributes).dropWhile (· ≠ ' ') = attributesText attributes := by
    cases attributes with
    | nil => simp [attributesText]
    | cons first others => simp [attributesText, toList_attr]
  rw [readTag, List.takeWhile_append_of_pos hblank, List.dropWhile_append_of_pos hblank,
    hbehind.1, hbehind.2, readAttributes_attributesText hattributes]
  simp

theorem Tag.Proper.notMem {tag : Tag} (h : tag.Proper) :
    '<' ∉ tag.name.toList ++ attributesText tag.attributes ∧
      '>' ∉ tag.name.toList ++ attributesText tag.attributes := by
  rw [List.mem_append, not_or, List.mem_append, not_or]
  exact ⟨⟨h.1.notMem.1, notMem_attributesText (by simp) h.2⟩,
    h.1.notMem.2.1, notMem_attributesText (by simp) h.2⟩

/-! ## Reading a text -/

theorem pieces_text {text : List Char} (h : '<' ∉ text) (rest : List Char) :
    pieces (text ++ rest) = pieces rest := by
  induction text with
  | nil => rfl
  | cons c cs ih =>
    rw [List.mem_cons, not_or] at h
    rw [List.cons_append, pieces, if_neg (Ne.symm h.1), ih h.2]

/-- A tag ends where it is closed, and the text behind it where the next one begins. -/
theorem pieces_tag {text : List Char} (hopen : '<' ∉ text) (hclose : '>' ∉ text)
    (rest : List Char) :
    pieces ('<' :: (text ++ '>' :: rest)) = (text, rest.takeWhile (· ≠ '<')) :: pieces rest := by
  have hafter : pieces (text ++ '>' :: rest) = pieces rest := by
    rw [pieces_text hopen, pieces, if_neg (by decide)]
  have htext := forall_ne_of_notMem hclose
  have hbehind : textBehind (text ++ '>' :: rest) = rest.takeWhile (· ≠ '<') := by
    rw [textBehind, List.dropWhile_append_of_pos htext, List.dropWhile_cons_of_neg (by simp),
      List.drop_one, List.tail_cons]
  rw [pieces, if_pos rfl, hafter, hbehind, List.takeWhile_append_of_pos htext]
  simp

theorem tagTexts_text {text : List Char} (h : '<' ∉ text) (rest : List Char) :
    tagTexts (text ++ rest) = tagTexts rest := by
  rw [← map_fst_pieces, pieces_text h, map_fst_pieces]

theorem tagTexts_tag {text : List Char} (hopen : '<' ∉ text) (hclose : '>' ∉ text)
    (rest : List Char) : tagTexts ('<' :: (text ++ '>' :: rest)) = text :: tagTexts rest := by
  rw [← map_fst_pieces, pieces_tag hopen hclose, List.map_cons, map_fst_pieces]

/-- Whether the text ends inside a tag. -/
def endsInTag : List Char → Bool
  | [] => false
  | c :: rest => endsInTag rest || (c = '<' && '>' ∉ rest)

theorem tagTexts_append {text : List Char} (h : endsInTag text = false) (rest : List Char) :
    tagTexts (text ++ rest) = tagTexts text ++ tagTexts rest := by
  induction text with
  | nil => rfl
  | cons c cs ih =>
    rw [endsInTag, Bool.or_eq_false_iff] at h
    obtain ⟨hcs, hlast⟩ := h
    by_cases hc : c = '<'
    · have hclosed : '>' ∈ cs := by
        simpa [hc] using hlast
      have htake : (cs ++ rest).takeWhile (· ≠ '>') = cs.takeWhile (· ≠ '>') := by
        have hshort : ¬ (cs.takeWhile (· ≠ '>')).length = cs.length := by
          intro hall
          rw [← (List.takeWhile_prefix _).eq_of_length hall] at hclosed
          simpa using List.mem_takeWhile_imp hclosed
        rw [List.takeWhile_append, if_neg hshort]
      simp only [List.cons_append, tagTexts, if_pos hc, ih hcs, htake]
    · simp only [List.cons_append, tagTexts, if_neg hc, ih hcs]

/-- The tags of the text are these, whatever stands behind it. -/
def ReadsAs (text : String) (found : List Tag) : Prop :=
  ∀ rest, tags (text ++ rest) = found ++ tags rest

theorem ReadsAs.tags_eq {text : String} {found : List Tag} (h : ReadsAs text found) :
    tags text = found := by
  have hrest := h ""
  rw [String.append_empty] at hrest
  simpa [tags, tagTexts] using hrest

theorem ReadsAs.append {a b : String} {as bs : List Tag} (ha : ReadsAs a as)
    (hb : ReadsAs b bs) : ReadsAs (a ++ b) (as ++ bs) := by
  intro rest
  rw [String.append_assoc, ha, hb, List.append_assoc]

theorem ReadsAs.join {α : Type*} {items : List α} {text : α → String} {found : α → List Tag}
    (h : ∀ item ∈ items, ReadsAs (text item) (found item)) :
    ReadsAs (String.join (items.map text)) (items.flatMap found) := by
  induction items with
  | nil =>
    intro rest
    simp [String.join]
  | cons item items ih =>
    obtain ⟨hitem, hitems⟩ := List.forall_mem_cons.1 h
    have hjoin : String.join ((item :: items).map text) =
        text item ++ String.join (items.map text) := by
      rw [← String.toList_inj]
      simp [String.toList_join]
    rw [hjoin, List.flatMap_cons]
    exact hitem.append (ih hitems)

/-- A text between tags. -/
theorem readsAs_text {text : String} (h : '<' ∉ text.toList) : ReadsAs text [] := by
  intro rest
  rw [tags, String.toList_append, tagTexts_text h]
  rfl

theorem notMem_ofList {text : String} {chars : List Char} (h : text = String.ofList chars)
    {c : Char} (hc : c ∉ chars) : c ∉ text.toList := by
  rw [h, String.toList_ofList]
  exact hc

theorem readsAs_escape (text : String) : ReadsAs (escape text) [] :=
  readsAs_text (notMem_escape (by simp) text)

theorem readsAs_markup {tag : Tag} (h : tag.Proper) : ReadsAs tag.markup [tag] := by
  intro rest
  obtain ⟨hopen, hclose⟩ := h.notMem
  have htext : (tag.markup ++ rest).toList =
      '<' :: ((tag.name.toList ++ attributesText tag.attributes) ++ '>' :: rest.toList) := by
    simp [Tag.toList_markup]
  rw [tags, htext, tagTexts_tag hopen hclose, List.map_cons, readTag_text h]
  rfl

/-- A text given by its characters is read by computing. -/
theorem readsAs_ofList {text : String} {chars : List Char} {found : List Tag}
    (h : text = String.ofList chars) (hclosed : endsInTag chars = false)
    (hfound : (tagTexts chars).map readTag = found) : ReadsAs text found := by
  intro rest
  rw [tags, String.toList_append, h, String.toList_ofList, tagTexts_append hclosed,
    List.map_append, hfound]
  rfl

end CellNet.Markup
