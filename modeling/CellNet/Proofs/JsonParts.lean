import CellNet.Json.Record
import Mathlib.Data.List.Induction

/-!
# Parts of a JSON value

Where a part lies in a value is told by a **path**: into the field of a record, or under the key of
a map (`Step`, `Leads`). Where members repeat a key, the last one holds. What a value gives at the
end of a path is what can be read there (`At`). None of this mentions how records and maps are read.

**Records** (`fields?`). What is read as a field is the part at the step into the field, and nothing
if there is no such part.

**Maps** (`map?`). A map that was read has the entries the value gives under its keys, and whatever
is found under a key can be read (`Tabulates`).

Maps of maps, and maps behind fields, are read off these two by joining paths (`Tabulates.part`,
`Tabulates.of_optional`, `Tabulates.of_required`).
-/

namespace CellNet.Json

variable {κ α β : Type} {value part : Json} {members : List (Literal × Json)} {names : List String}
  {name : String} {index : Nat}

/-! ## Paths -/

/-- The value of a field, by the name of the field or by its place in an array. -/
inductive Field (name : String) (index : Nat) : Json → Json → Prop
  | named {members : List (Literal × Json)} {key : Literal} {part : Json}
      (hmem : (key, part) ∈ members) (hkey : key.text? = some name) :
      Field name index (.object members) part
  | placed {items : List Json} {part : Json} (hitem : items[index]? = some part) :
      Field name index (.array items) part

/-- The value of the last member under a key. -/
def Entry (isKey : Literal → Prop) (value part : Json) : Prop :=
  ∃ before key after, value = .object (before ++ (key, part) :: after) ∧ isKey key ∧
    ∀ member ∈ after, ¬ isKey member.1

/-- A way from a value to a part of it. -/
inductive Step where
  | field (name : String) (index : Nat)
  /-- The entry under a text. -/
  | text (key : String)
  /-- The entry under a number. -/
  | number (key : Nat)

/-- The part a step leads to. -/
def Step.Leads : Step → Json → Json → Prop
  | .field name index => Field name index
  | .text key => Entry fun literal => literal.text? = some key
  | .number key => Entry fun literal => literal.nat? = some key

/-- The part a path leads to. -/
def Leads : List Step → Json → Json → Prop
  | [], value, part => value = part
  | step :: path, value, part => ∃ next, step.Leads value next ∧ Leads path next part

/-- What is given at the end of a path. -/
def At (read : Json → Option α) (path : List Step) (value : Json) (a : α) : Prop :=
  ∃ part, Leads path value part ∧ read part = some a

theorem leads_append {path rest : List Step} :
    Leads (path ++ rest) value part ↔ ∃ next, Leads path value next ∧ Leads rest next part := by
  induction path generalizing value with
  | nil => simp [Leads]
  | cons step path ih =>
    simp only [List.cons_append, Leads, ih]
    constructor
    · rintro ⟨next, hstep, last, hpath, hrest⟩
      exact ⟨last, ⟨next, hstep, hpath⟩, hrest⟩
    · rintro ⟨last, ⟨next, hstep, hpath⟩, hrest⟩
      exact ⟨next, hstep, last, hpath, hrest⟩

theorem at_append {read : Json → Option α} {path rest : List Step} {a : α} :
    At read (path ++ rest) value a ↔ ∃ next, Leads path value next ∧ At read rest next a := by
  simp only [At, leads_append]
  constructor
  · rintro ⟨part, ⟨next, hpath, hrest⟩, hread⟩
    exact ⟨next, hpath, part, hrest, hread⟩
  · rintro ⟨next, hpath, part, hrest, hread⟩
    exact ⟨part, ⟨next, hpath, hrest⟩, hread⟩

theorem at_field {read : Json → Option α} {a : α} :
    At read [.field name index] value a ↔ ∃ part, Field name index value part ∧
      read part = some a := by
  simp [At, Leads, Step.Leads]

/-! ## Fields of records -/

theorem map_eq_of_mapM {f : α → Option β} {as : List α} {bs : List β}
    (h : as.mapM f = some bs) : as.map f = bs.map some := by
  induction as generalizing bs with
  | nil =>
    obtain rfl := Option.some.inj h
    rfl
  | cons a as ih =>
    rw [List.mapM_cons] at h
    obtain ⟨b, hb, h⟩ := Option.bind_eq_some_iff.1 h
    obtain ⟨rest, hrest, h⟩ := Option.bind_eq_some_iff.1 h
    obtain rfl := Option.some.inj h
    rw [List.map_cons, List.map_cons, hb, ih hrest]

theorem mem_of_keyedMembers? {keyed : List (String × Json)}
    (h : keyedMembers? members = some keyed) :
    (name, part) ∈ keyed ↔ ∃ key, (key, part) ∈ members ∧ key.text? = some name := by
  have hsome : (name, part) ∈ keyed ↔ some (name, part) ∈ keyed.map some := by simp
  rw [hsome, ← map_eq_of_mapM h, List.mem_map]
  simp only [Option.map_eq_some_iff, Prod.mk.injEq, Prod.exists]
  constructor
  · rintro ⟨key, value, hmem, text, htext, rfl, rfl⟩
    exact ⟨key, hmem, htext⟩
  · rintro ⟨key, hmem, htext⟩
    exact ⟨key, part, hmem, name, htext, rfl, rfl⟩

theorem field_of_namedField? {keyed : List (String × Json)} {field : Option Json}
    (h : namedField? keyed name = some field) : field = some part ↔ (name, part) ∈ keyed := by
  have hmem : (name, part) ∈ keyed ↔ (name, part) ∈ keyed.filter (·.1 = name) := by simp
  rw [namedField?] at h
  rw [hmem]
  split at h
  · next hnone =>
    obtain rfl := Option.some.inj h
    rw [hnone]
    simp
  · next key found hsingle =>
    obtain rfl := Option.some.inj h
    have hfound : (key, found) ∈ keyed.filter (·.1 = name) := by simp [hsingle]
    have hkey : key = name := by simpa using (List.mem_filter.1 hfound).2
    rw [hsingle, hkey]
    simp [eq_comm]
  · cases h

theorem getElem?_of_positionalFields? {items : List Json} {fields : List (Option Json)}
    (h : positionalFields? names items = some fields) (hindex : index < names.length) :
    fields[index]? = some items[index]? := by
  induction names generalizing items fields index with
  | nil => cases hindex
  | cons name names ih =>
    cases items with
    | nil =>
      obtain ⟨rest, hrest, rfl⟩ := Option.map_eq_some_iff.1 h
      cases index with
      | zero => rfl
      | succ index => simpa using ih hrest (Nat.lt_of_succ_lt_succ hindex)
    | cons item items =>
      obtain ⟨rest, hrest, rfl⟩ := Option.map_eq_some_iff.1 h
      cases index with
      | zero => rfl
      | succ index => simpa using ih hrest (Nat.lt_of_succ_lt_succ hindex)

/-- What is read as a field is the part that the step into the field leads to. -/
theorem field_iff {fields : List (Option Json)} {field : Option Json}
    (h : value.fields? names = some fields) (hname : names[index]? = some name)
    (hfield : fields[index]? = some field) : field = some part ↔ Field name index value part := by
  cases value with
  | array items =>
    have hitem := getElem?_of_positionalFields? h (List.getElem?_eq_some_iff.1 hname).1
    obtain rfl := Option.some.inj (hfield.symm.trans hitem)
    constructor
    · exact .placed
    · rintro ⟨⟩
      assumption
  | object members =>
    obtain ⟨keyed, hkeyed, hfields⟩ := Option.bind_eq_some_iff.1 h
    have hread : (names.map (namedField? keyed))[index]? = (fields.map some)[index]? := by
      rw [map_eq_of_mapM hfields]
    rw [List.getElem?_map, List.getElem?_map, hname, hfield] at hread
    rw [field_of_namedField? (Option.some.inj hread), mem_of_keyedMembers? hkeyed]
    constructor
    · rintro ⟨key, hmem, hkey⟩
      exact .named hmem hkey
    · rintro ⟨⟩
      exact ⟨_, ‹_›, ‹_›⟩
  | _ => cases h

section

variable {isKey : Literal → Prop} {key : Literal} {last : Json}

theorem not_entry_nil : ¬ Entry isKey (.object []) part := by
  rintro ⟨before, key, after, hvalue, -⟩
  simp at hvalue

/-- The last member decides if it is under the key. -/
theorem entry_concat : Entry isKey (.object (members ++ [(key, last)])) part ↔
    (isKey key ∧ part = last) ∨ (¬ isKey key ∧ Entry isKey (.object members) part) := by
  constructor
  · rintro ⟨before, found, after, hvalue, hkey, hlast⟩
    have hmembers := Json.object.inj hvalue
    cases after using List.reverseRecOn with
    | nil =>
      obtain ⟨-, hpair⟩ := List.append_inj' hmembers rfl
      obtain ⟨rfl, rfl⟩ := Prod.mk.inj (List.singleton_inj.1 hpair)
      exact Or.inl ⟨hkey, rfl⟩
    | append_singleton after member =>
      rw [← List.cons_append, ← List.append_assoc] at hmembers
      obtain ⟨rfl, hpair⟩ := List.append_inj' hmembers rfl
      obtain rfl := List.singleton_inj.1 hpair
      exact Or.inr ⟨hlast (key, last) (by simp), before, found, after, rfl, hkey,
        fun member hmem => hlast member (List.mem_append_left _ hmem)⟩
  · rintro (⟨hkey, rfl⟩ | ⟨hkey, before, found, after, hvalue, hfound, hlast⟩)
    · exact ⟨members, key, [], rfl, hkey, by simp⟩
    · refine ⟨before, found, after ++ [(key, last)], ?_, hfound, ?_⟩
      · rw [Json.object.inj hvalue, List.append_assoc, List.cons_append]
      · intro member hmem
        rcases List.mem_append.1 hmem with hmem | hmem
        · exact hlast member hmem
        · obtain rfl := List.mem_singleton.1 hmem
          exact hkey

end

variable [Ord κ] [Std.TransOrd κ]

/-- A map has exactly what a value gives under the keys, and everything there can be read. -/
structure Tabulates (entries : Std.ExtTreeMap κ α) (path : κ → List Step) (read : Json → Option α)
    (value : Json) : Prop where
  found : ∀ k a, entries[k]? = some a ↔ At read (path k) value a
  readable : ∀ k part, Leads (path k) value part → ∃ a, read part = some a

section

variable {key : Literal → Option κ} {step : κ → Step} {read : Json → Option α}
  {entries : Std.ExtTreeMap κ α}

theorem map?_concat_iff {literal : Literal} {last : Json} :
    map? key read (.object (members ++ [(literal, last)])) = some entries ↔
      ∃ before k a, map? key read (.object members) = some before ∧ key literal = some k ∧
        read last = some a ∧ before.insert k a = entries := by
  rw [map?, List.foldlM_append]
  simp only [List.foldlM_cons, List.foldlM_nil, Option.bind_eq_bind, Option.bind_eq_some_iff,
    Option.pure_def, Option.some.injEq, map?]
  constructor
  · rintro ⟨before, hbefore, _, ⟨k, hk, a, ha, rfl⟩, rfl⟩
    exact ⟨before, k, a, hbefore, hk, ha, rfl⟩
  · rintro ⟨before, k, a, hbefore, hk, ha, rfl⟩
    exact ⟨before, hbefore, _, ⟨k, hk, a, ha, rfl⟩, rfl⟩

/-- A map that was read has the last entry under each key. -/
theorem entries_of_map? [Std.LawfulEqOrd κ] (h : map? key read value = some entries) (k : κ) :
    (∀ a, entries[k]? = some a ↔
      ∃ part, Entry (fun literal => key literal = some k) value part ∧ read part = some a) ∧
    ∀ part, Entry (fun literal => key literal = some k) value part → ∃ a, read part = some a := by
  cases value with
  | object members =>
    induction members using List.reverseRecOn generalizing entries with
    | nil =>
      obtain rfl := Option.some.inj h
      simp [not_entry_nil]
    | append_singleton members member ih =>
      obtain ⟨literal, last⟩ := member
      obtain ⟨before, name, a, hbefore, hname, ha, rfl⟩ := map?_concat_iff.1 h
      simp only [entry_concat, hname, Option.some.injEq, Std.ExtTreeMap.getElem?_insert,
        Std.compare_eq_iff_eq]
      by_cases hk : name = k
      · simp [hk, ha]
      · simpa [hk] using ih hbefore
  | _ => cases h

theorem tabulates_of_map? [Std.LawfulEqOrd κ]
    (hstep : ∀ k, (step k).Leads = Entry fun literal => key literal = some k)
    (h : map? key read value = some entries) :
    Tabulates entries (fun k => [step k]) read value := by
  constructor
  · intro k a
    simpa [At, Leads, hstep] using (entries_of_map? h k).1 a
  · intro k part hleads
    exact (entries_of_map? h k).2 part (by simpa [Leads, hstep] using hleads)

/-! ## Joining paths -/

namespace Tabulates

variable {path : κ → List Step}

theorem empty (h : ∀ k part, ¬ Leads (path k) value part) :
    Tabulates (∅ : Std.ExtTreeMap κ α) path read value where
  found k a := by simp [At, h]
  readable k part hleads := absurd hleads (h k part)

theorem isSome_iff (h : Tabulates entries path read value) (k : κ) :
    (entries[k]?).isSome ↔ ∃ part, Leads (path k) value part := by
  rw [Option.isSome_iff_exists]
  constructor
  · rintro ⟨a, ha⟩
    obtain ⟨part, hleads, -⟩ := (h.found k a).1 ha
    exact ⟨part, hleads⟩
  · rintro ⟨part, hleads⟩
    obtain ⟨a, ha⟩ := h.readable k part hleads
    exact ⟨a, (h.found k a).2 ⟨part, hleads, ha⟩⟩

/-- Whatever can be read behind an entry is read there. -/
theorem at_append_iff (h : Tabulates entries path read value) {get : Json → Option β}
    {rest : List Step} {b : β} {has : α → Prop}
    (hrest : ∀ part a, read part = some a → (At get rest part b ↔ has a)) (k : κ) :
    At get (path k ++ rest) value b ↔ ∃ a, entries[k]? = some a ∧ has a := by
  rw [at_append]
  constructor
  · rintro ⟨part, hleads, hat⟩
    obtain ⟨a, ha⟩ := h.readable k part hleads
    exact ⟨a, (h.found k a).2 ⟨part, hleads, ha⟩, (hrest part a ha).1 hat⟩
  · rintro ⟨a, hentry, hhas⟩
    obtain ⟨part, hleads, ha⟩ := (h.found k a).1 hentry
    exact ⟨part, hleads, (hrest part a ha).2 hhas⟩

/-- Maps behind the entries of a map. -/
theorem nested {ι : Type} [Ord ι] [Std.TransOrd ι] {maps : α → Std.ExtTreeMap ι β}
    {rest : ι → List Step} {get : Json → Option β} (h : Tabulates entries path read value)
    (hmaps : ∀ part a, read part = some a → Tabulates (maps a) rest get part) (k : κ) :
    Tabulates ((entries[k]?.map maps).getD ∅) (fun i => path k ++ rest i) get value where
  found i b := by
    rw [h.at_append_iff fun part a ha => ((hmaps part a ha).found i b).symm]
    cases entries[k]? <;> simp
  readable i part hleads := by
    obtain ⟨next, hnext, hpart⟩ := leads_append.1 hleads
    obtain ⟨a, ha⟩ := h.readable k next hnext
    exact (hmaps next a ha).readable i part hpart

theorem of_field {field : Json} (h : Tabulates entries path read field)
    (hfield : ∀ part, some field = some part ↔ Field name index value part) :
    Tabulates entries (fun k => .field name index :: path k) read value := by
  have hleads : ∀ k part, Leads (.field name index :: path k) value part ↔
      Leads (path k) field part := by
    intro k part
    simp [Leads, Step.Leads, ← hfield]
  constructor
  · intro k a
    simp only [h.found, At, hleads]
  · intro k part hpart
    exact h.readable k part ((hleads k part).1 hpart)

theorem of_optional {field : Option Json} {readAll : Json → Option (Std.ExtTreeMap κ α)}
    (h : optional ∅ readAll field = some entries)
    (hfield : ∀ part, field = some part ↔ Field name index value part)
    (hall : ∀ part, readAll part = some entries → Tabulates entries path read part) :
    Tabulates entries (fun k => .field name index :: path k) read value := by
  cases field with
  | none =>
    obtain rfl := Option.some.inj h
    refine empty fun k part hleads => ?_
    obtain ⟨next, hnext, -⟩ := hleads
    cases (hfield next).2 hnext
  | some field => exact (hall field h).of_field hfield

end Tabulates

end

end CellNet.Json
