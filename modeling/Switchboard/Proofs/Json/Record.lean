import Mathlib.Data.List.Basic
import Mathlib.Tactic.Common
import Switchboard.Json.Record
import Switchboard.Proofs.Ordered

/-!
# What the reading of a record keeps

A record with free fields is read field by field: every field that is given adds
its own entry to the canonical form, and no field has a say in the entry of
another.
-/

namespace Switchboard.Json.Shape

variable {fields : List (String × Presence × Shape)} {members entries : List (String × Json)}

/-! ## Field by field -/

/-- A free field that is missing or null adds nothing, and one that does not read
spoils the record. -/
theorem readNamed_free_cons
    (name : String) (shape : Shape) (rest : List (String × Presence × Shape))
    (members : List (String × Json)) :
    readNamed (free name shape :: rest) members =
      (readNamed rest members).bind fun tail =>
        (optional (read shape) (Table.find? members name)).map fun value =>
          entry name .free (value.getD .null) ++ tail := by
  rw [free, readNamed]
  cases readNamed rest members with
  | none => rfl
  | some tail =>
      cases Table.find? members name with
      | none => rfl
      | some value =>
          cases value with
          | null => rfl
          | _ =>
              simp only [optional]
              generalize read shape _ = reading
              cases reading <;> rfl

theorem names_of_entry
    {name : String} {presence : Presence} {value : Json} {key : String}
    (h : key ∈ (entry name presence value).map Prod.fst) : key = name := by
  cases presence <;> cases value <;> simp_all [entry]

/-- Whatever a field adds to the reading of the rest, it adds under its name. -/
theorem exists_of_readNamed_cons
    {field : String × Presence × Shape} {rest : List (String × Presence × Shape)}
    (h : readNamed (field :: rest) members = some entries) :
    ∃ head tail, readNamed rest members = some tail ∧ entries = head ++ tail ∧
      ∀ key ∈ head.map Prod.fst, key = field.1 := by
  obtain ⟨name, presence, shape⟩ := field
  rw [readNamed] at h
  obtain ⟨tail, htail, h⟩ := Option.bind_eq_some_iff.mp h
  split at h
  next => cases h
  next =>
    obtain ⟨value, -, hvalue⟩ := Option.bind_eq_some_iff.mp h
    cases hvalue
    exact ⟨[(name, value)], tail, htail, rfl, by simp⟩
  next =>
    cases h
    exact ⟨_, tail, htail, rfl, fun other hother => names_of_entry hother⟩
  next =>
    cases h
    exact ⟨_, tail, htail, rfl, fun other hother => names_of_entry hother⟩
  next =>
    obtain ⟨value, -, hvalue⟩ := Option.bind_eq_some_iff.mp h
    cases hvalue
    exact ⟨_, tail, htail, rfl, fun other hother => names_of_entry hother⟩

/-- The canonical form has no keys but the names of fields. -/
theorem names_of_readNamed
    (h : readNamed fields members = some entries) {key : String}
    (hkey : key ∈ entries.map Prod.fst) : key ∈ fields.map Prod.fst := by
  induction fields generalizing entries with
  | nil =>
      rw [readNamed, Option.some.injEq] at h
      simp [← h] at hkey
  | cons field rest ih =>
      obtain ⟨head, tail, htail, rfl, hhead⟩ := exists_of_readNamed_cons h
      rw [List.map_append, List.mem_append] at hkey
      rcases hkey with hkey | hkey
      · simp [hhead key hkey]
      · exact List.mem_cons_of_mem _ (ih htail hkey)

/-- The entry of a free field depends on no other field of the record. -/
theorem find?_of_readNamed_free_cons
    {name : String} {shape : Shape} {rest : List (String × Presence × Shape)}
    (h : readNamed (free name shape :: rest) members = some entries)
    (hfresh : name ∉ rest.map Prod.fst) :
    ∃ value, optional (read shape) (Table.find? members name) = some value ∧
      Table.find? (Table.ofList entries) name =
        Table.find? (Table.ofList (entry name .free (value.getD .null))) name := by
  rw [readNamed_free_cons] at h
  obtain ⟨tail, htail, h⟩ := Option.bind_eq_some_iff.mp h
  obtain ⟨value, hvalue, rfl⟩ := Option.map_eq_some_iff.mp h
  have hother : name ∉ tail.map Prod.fst := fun hmem => hfresh (names_of_readNamed htail hmem)
  exact ⟨value, hvalue, Table.find?_ofList_append_of_notMem _ hother⟩

/-! ## Records with free fields only -/

/-- A record with free fields alone reads if each of them is missing, null or
reads by itself. -/
theorem readNamed_free_isSome
    {fields : List (String × Shape)} :
    (readNamed (fields.map fun field => free field.1 field.2) members).isSome ↔
      ∀ field ∈ fields, (optional (read field.2) (Table.find? members field.1)).isSome := by
  induction fields with
  | nil => simp [readNamed]
  | cons field rest ih =>
      rw [List.map_cons, readNamed_free_cons, List.forall_mem_cons, ← ih]
      cases readNamed (rest.map fun field => free field.1 field.2) members with
      | none => simp
      | some tail => simp

theorem readNamed_free_eq_some
    {fields : List (String × Shape)} {reading : String × Shape → Option Json}
    (hreads : ∀ field ∈ fields,
      optional (read field.2) (Table.find? members field.1) = some (reading field))
    (hsolid : ∀ field ∈ fields, reading field ≠ some .null) :
    readNamed (fields.map fun field => free field.1 field.2) members =
      some (fields.filterMap fun field => (reading field).map fun value => (field.1, value)) := by
  induction fields with
  | nil => rfl
  | cons field rest ih =>
      have hfirst := hreads field List.mem_cons_self
      have hvalue := hsolid field List.mem_cons_self
      have hrest := ih (fun other hother => hreads other (List.mem_cons_of_mem _ hother))
        (fun other hother => hsolid other (List.mem_cons_of_mem _ hother))
      rw [List.map_cons, readNamed_free_cons, hrest, hfirst]
      cases hread : reading field with
      | none => simp [entry, hread]
      | some value =>
          have hentry : entry field.1 .free value = [(field.1, value)] := by
            cases value with
            | null => exact absurd hread hvalue
            | _ => rfl
          simp [hentry, hread]

/-! ## Shapes without null -/

mutual

/-- Whether null is no canonical form of the shape. -/
def solid : Shape → Bool
  | .any | .tags => false
  | .either alternatives => allSolid alternatives
  | _ => true

/-- `solid` for every shape of a list. -/
def allSolid : List Shape → Bool
  | [] => true
  | shape :: rest => shape.solid && allSolid rest

end

mutual

theorem read_ne_null :
    ∀ {shape : Shape} {j value : Json}, shape.solid = true → shape.read j = some value →
      value ≠ .null
  | .any, _, _, hsolid, _ | .tags, _, _, hsolid, _ => by simp [solid] at hsolid
  | .flag, _, _, _, h | .integer32, _, _, _, h | .natural32, _, _, _, h | .text, _, _, _, h => by
      rw [read] at h
      obtain ⟨read, -, rfl⟩ := Option.map_eq_some_iff.mp h
      simp [ofNat]
  | .word allowed, _, _, _, h => by
      rw [read] at h
      split at h
      · split at h
        · cases h
          simp
        · cases h
      · cases h
  | .list item, _, _, _, h => by
      rw [read] at h
      split at h
      · obtain ⟨items, -, rfl⟩ := Option.map_eq_some_iff.mp h
        simp
      · cases h
  | .record positional fields, j, _, _, h => by
      cases j with
      | object members =>
          rw [read] at h
          obtain ⟨entries, -, rfl⟩ := Option.map_eq_some_iff.mp h
          simp [ofMembers]
      | array items =>
          simp only [read] at h
          split at h
          · obtain ⟨entries, -, rfl⟩ := Option.map_eq_some_iff.mp h
            simp [ofMembers]
          · cases h
      | _ => simp [read] at h
  | .either alternatives, _, _, hsolid, h => by
      rw [solid] at hsolid
      rw [read] at h
      exact readFirst_ne_null hsolid h

theorem readFirst_ne_null :
    ∀ {alternatives : List Shape} {j value : Json}, allSolid alternatives = true →
      readFirst alternatives j = some value → value ≠ .null
  | [], _, _, _, h => by simp [readFirst] at h
  | shape :: rest, _, _, hsolid, h => by
      rw [allSolid, Bool.and_eq_true] at hsolid
      rw [readFirst] at h
      split at h
      next hread =>
        cases h
        exact read_ne_null hsolid.1 hread
      next => exact readFirst_ne_null hsolid.2 h

end

/-! ## The canonical form of a field -/

theorem find?_entry {name : String} {value : Option Json} (h : value ≠ some .null) :
    Table.find? (Table.ofList (entry name .free (value.getD .null))) name = value := by
  cases value with
  | none => rfl
  | some value =>
      have hentry : entry name .free value = [(name, value)] := by
        cases value with
        | null => exact absurd rfl h
        | _ => rfl
      rw [Option.getD_some, hentry]
      exact Table.find?_insert_self name value []

theorem optional_ne_null
    {shape : Shape} {field value : Option Json} (hsolid : shape.solid = true)
    (h : optional shape.read field = some value) : value ≠ some .null := by
  rcases field with _ | _ | _ | _ | _ | _ | _ | _
  case none | some.null =>
    cases h
    simp
  all_goals
    obtain ⟨result, hresult, rfl⟩ := Option.map_eq_some_iff.mp h
    simpa using read_ne_null hsolid hresult

theorem optional_of_readNamed_free_cons
    {name : String} {shape : Shape} {rest : List (String × Presence × Shape)}
    (h : readNamed (free name shape :: rest) members = some entries)
    (hfresh : name ∉ rest.map Prod.fst) (hsolid : shape.solid = true) :
    optional shape.read (Table.find? members name) =
      some (Table.find? (Table.ofList entries) name) := by
  obtain ⟨value, hvalue, hfind⟩ := find?_of_readNamed_free_cons h hfresh
  rw [hvalue, hfind, find?_entry (optional_ne_null hsolid hvalue)]

/-- What the canonical form has under the name of a free field is the reading of that field. -/
theorem optional_of_readNamed_free
    {name : String} {shape : Shape}
    (h : readNamed fields members = some entries) (hnodup : (fields.map Prod.fst).Nodup)
    (hmem : free name shape ∈ fields) (hsolid : shape.solid = true) :
    optional shape.read (Table.find? members name) =
      some (Table.find? (Table.ofList entries) name) := by
  induction fields generalizing entries with
  | nil => cases hmem
  | cons field rest ih =>
      rw [List.map_cons, List.nodup_cons] at hnodup
      rcases List.mem_cons.mp hmem with rfl | hrest
      · exact optional_of_readNamed_free_cons h hnodup.1 hsolid
      · obtain ⟨head, tail, htail, rfl, hhead⟩ := exists_of_readNamed_cons h
        have hother : name ∉ head.map Prod.fst := by
          intro hname
          rw [← hhead name hname] at hnodup
          exact hnodup.1 (List.mem_map_of_mem hrest)
        rw [Table.find?_ofList_append_of_notMem_left tail hother]
        exact ih htail hnodup.2 hrest

end Switchboard.Json.Shape
