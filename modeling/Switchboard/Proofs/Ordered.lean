import Mathlib.Data.List.Induction
import Mathlib.Data.List.Nodup
import Mathlib.Data.List.Sort
import Mathlib.Data.String.Basic
import Mathlib.Tactic.Common
import Switchboard.Ordered

/-!
# What ordered lists hold

Sorting neither loses nor invents an element and brings equal contents into one
order, and a table made from entries with distinct keys holds exactly these entries.
-/

namespace Switchboard

section Distinct

variable {α : Type} [DecidableEq α] (before : α → α → Bool)

theorem mem_insertDistinct {x y : α} {sorted : List α} :
    y ∈ insertDistinct before x sorted ↔ y = x ∨ y ∈ sorted := by
  induction sorted with
  | nil => simp [insertDistinct]
  | cons z rest ih =>
      rw [insertDistinct]
      by_cases heq : x = z
      · simp [heq]
      · by_cases hbefore : before x z = true
        · simp [heq, hbefore]
        · simp [heq, hbefore, ih, or_left_comm]

theorem mem_distinctSorted {y : α} {xs : List α} :
    y ∈ distinctSorted before xs ↔ y ∈ xs := by
  have hfold : ∀ sorted : List α,
      y ∈ xs.foldl (fun sorted x => insertDistinct before x sorted) sorted ↔
        y ∈ xs ∨ y ∈ sorted := by
    induction xs with
    | nil => simp
    | cons x rest ih =>
        intro sorted
        rw [List.foldl_cons, ih, mem_insertDistinct, List.mem_cons]
        rw [or_left_comm, or_assoc]
  rw [distinctSorted, hfold]
  simp

section Order

variable [LinearOrder α] {before : α → α → Bool} (hbefore : ∀ x y, before x y = true ↔ x < y)
include hbefore

theorem pairwise_insertDistinct {x : α} {sorted : List α} (h : sorted.Pairwise (· < ·)) :
    (insertDistinct before x sorted).Pairwise (· < ·) := by
  induction sorted with
  | nil => exact List.pairwise_singleton _ _
  | cons y rest ih =>
      obtain ⟨hfirst, hrest⟩ := List.pairwise_cons.mp h
      rw [insertDistinct]
      by_cases heq : x = y
      · rw [if_pos heq]
        exact h
      · rw [if_neg heq]
        by_cases hlt : before x y = true
        · rw [if_pos hlt]
          refine List.pairwise_cons.mpr ⟨?_, h⟩
          intro z hz
          rcases List.mem_cons.mp hz with rfl | hz
          · exact (hbefore x z).mp hlt
          · exact lt_trans ((hbefore x y).mp hlt) (hfirst z hz)
        · rw [if_neg hlt]
          refine List.pairwise_cons.mpr ⟨?_, ih hrest⟩
          intro z hz
          rcases (mem_insertDistinct before).mp hz with rfl | hz
          · exact lt_of_le_of_ne (not_lt.mp (mt (hbefore z y).mpr hlt)) (Ne.symm heq)
          · exact hfirst z hz

theorem pairwise_distinctSorted (xs : List α) :
    (distinctSorted before xs).Pairwise (· < ·) := by
  induction xs using List.reverseRecOn with
  | nil => exact List.Pairwise.nil
  | append_singleton xs x ih =>
      rw [distinctSorted, List.foldl_append]
      exact pairwise_insertDistinct hbefore ih

/-- The sorted list depends on nothing but what it holds. -/
theorem distinctSorted_congr {xs ys : List α} (h : ∀ x, x ∈ xs ↔ x ∈ ys) :
    distinctSorted before xs = distinctSorted before ys := by
  apply (pairwise_distinctSorted hbefore xs).eq_of_mem_iff (pairwise_distinctSorted hbefore ys)
  intro x
  rw [mem_distinctSorted, mem_distinctSorted, h]

end Order

end Distinct

namespace Table

variable {α : Type}

theorem ofList_append_singleton (entries : List (String × α)) (entry : String × α) :
    ofList (entries ++ [entry]) = insert entry.1 entry.2 (ofList entries) := by
  simp [ofList]

/-- Entries under other keys do not displace an entry. -/
theorem find?_ofList_append_of_notMem
    (entries : List (String × α)) {later : List (String × α)} {key : String}
    (h : key ∉ later.map Prod.fst) :
    find? (ofList (entries ++ later)) key = find? (ofList entries) key := by
  induction later using List.reverseRecOn with
  | nil => rw [List.append_nil]
  | append_singleton later entry ih =>
      rw [List.map_append, List.mem_append, not_or] at h
      obtain ⟨hlater, hentry⟩ := h
      have hne : key ≠ entry.1 := by simpa using hentry
      rw [← List.append_assoc, ofList_append_singleton, find?_insert_of_ne hne, ih hlater]

theorem find?_ofList_append_of_notMem_left
    {entries : List (String × α)} (later : List (String × α)) {key : String}
    (h : key ∉ entries.map Prod.fst) :
    find? (ofList (entries ++ later)) key = find? (ofList later) key := by
  induction later using List.reverseRecOn with
  | nil =>
      rw [List.append_nil]
      exact find?_ofList_append_of_notMem [] h
  | append_singleton later entry ih =>
      rw [← List.append_assoc, ofList_append_singleton, ofList_append_singleton]
      by_cases heq : key = entry.1
      · rw [heq, find?_insert_self, find?_insert_self]
      · rw [find?_insert_of_ne heq, find?_insert_of_ne heq, ih]

/-- With distinct keys no entry displaces another. -/
theorem find?_ofList_eq_some_iff
    {entries : List (String × α)} (h : (entries.map Prod.fst).Nodup) (key : String) (value : α) :
    find? (ofList entries) key = some value ↔ (key, value) ∈ entries := by
  induction entries using List.reverseRecOn with
  | nil => simp [ofList]
  | append_singleton entries entry ih =>
      obtain ⟨last, stored⟩ := entry
      rw [List.map_append, List.nodup_append] at h
      obtain ⟨hnodup, -, hfresh⟩ := h
      rw [ofList_append_singleton, List.mem_append, List.mem_singleton]
      by_cases heq : key = last
      · subst heq
        have habsent : (key, value) ∉ entries := fun hmem =>
          hfresh key (List.mem_map_of_mem hmem) key (by simp) rfl
        rw [find?_insert_self]
        simp [habsent, eq_comm]
      · rw [find?_insert_of_ne heq, ih hnodup]
        simp [heq]

/-- Of fields with distinct keys those with a value are held. -/
theorem find?_ofList_filterMap
    {fields : List (String × Option α)} (h : (fields.map Prod.fst).Nodup)
    {key : String} {value : Option α} (hmem : (key, value) ∈ fields) :
    find? (ofList (fields.filterMap fun field => field.2.map (Prod.mk field.1))) key = value := by
  have hkeys : ∀ fields : List (String × Option α), List.Sublist
      ((fields.filterMap fun field => field.2.map (Prod.mk field.1)).map Prod.fst)
      (fields.map Prod.fst) := by
    intro fields
    induction fields with
    | nil => exact List.Sublist.refl _
    | cons field rest ih =>
        obtain ⟨name, stored⟩ := field
        cases stored with
        | none => exact ih.cons name
        | some stored => exact ih.cons_cons name
  apply Option.ext
  intro stored
  rw [find?_ofList_eq_some_iff ((hkeys fields).nodup h), List.mem_filterMap]
  constructor
  · rintro ⟨⟨name, found⟩, hfound, hsome⟩
    obtain ⟨_, rfl, hpair⟩ := Option.map_eq_some_iff.mp hsome
    cases hpair
    exact congrArg Prod.snd (List.inj_on_of_nodup_map h hmem hfound rfl)
  · rintro rfl
    exact ⟨(key, some stored), hmem, rfl⟩

theorem mem_insert
    {key : String} {value : α} {table : Table α} {entry : String × α}
    (h : entry ∈ insert key value table) : entry = (key, value) ∨ entry ∈ table := by
  induction table with
  | nil => exact Or.inl (List.mem_singleton.mp h)
  | cons first rest ih =>
      obtain ⟨k, v⟩ := first
      rw [insert] at h
      split_ifs at h with heq hlt
      · exact (List.mem_cons.mp h).imp_right (List.mem_cons_of_mem _)
      · exact List.mem_cons.mp h
      · rcases List.mem_cons.mp h with rfl | h
        · exact Or.inr List.mem_cons_self
        · exact (ih h).imp_right (List.mem_cons_of_mem _)

theorem increasing_cons_iff {key : String} {value : α} {rest : Table α} :
    Increasing ((key, value) :: rest) ↔ (∀ entry ∈ rest, key < entry.1) ∧ Increasing rest := by
  simp [Increasing, keys, List.pairwise_cons]

theorem Increasing.insert {table : Table α} (h : Increasing table) (key : String) (value : α) :
    Increasing (Table.insert key value table) := by
  induction table with
  | nil => simp [Table.insert, Increasing, keys]
  | cons first rest ih =>
      obtain ⟨k, v⟩ := first
      obtain ⟨hfirst, hrest⟩ := increasing_cons_iff.mp h
      rw [Table.insert]
      split_ifs with heq hlt
      · subst heq
        exact increasing_cons_iff.mpr ⟨hfirst, hrest⟩
      · refine increasing_cons_iff.mpr ⟨?_, h⟩
        intro entry hentry
        rcases List.mem_cons.mp hentry with rfl | hentry
        · exact hlt
        · exact hlt.trans (hfirst entry hentry)
      · refine increasing_cons_iff.mpr ⟨?_, ih hrest⟩
        intro entry hentry
        rcases mem_insert hentry with rfl | hentry
        · exact lt_of_le_of_ne (not_lt.mp hlt) (Ne.symm heq)
        · exact hfirst entry hentry

theorem Increasing.find?_eq_some_iff
    {table : Table α} (h : Increasing table) (key : String) (value : α) :
    find? table key = some value ↔ (key, value) ∈ table := by
  induction table with
  | nil => simp
  | cons first rest ih =>
      obtain ⟨k, v⟩ := first
      obtain ⟨hfirst, hrest⟩ := increasing_cons_iff.mp h
      rw [find?, List.mem_cons, Prod.mk.injEq]
      by_cases heq : key = k
      · have habsent : (key, value) ∉ rest := fun hmem => (hfirst _ hmem).ne heq.symm
        simp [heq ▸ habsent, heq, eq_comm]
      · simp [heq, ih hrest]

/-- A table is determined by what it has under each key. -/
theorem Increasing.ext
    {table other : Table α} (h : Increasing table) (hother : Increasing other)
    (heq : ∀ key, find? table key = find? other key) : table = other := by
  have hmem : ∀ entry, entry ∈ table ↔ entry ∈ other := by
    rintro ⟨key, value⟩
    rw [← h.find?_eq_some_iff, ← hother.find?_eq_some_iff, heq]
  have hirrefl : Std.Irrefl fun first second : String × α => first.1 < second.1 :=
    ⟨fun _ => lt_irrefl _⟩
  have hantisymm : Std.Antisymm fun first second : String × α => first.1 < second.1 :=
    ⟨fun _ _ hlt hgt => absurd hlt (lt_asymm hgt)⟩
  exact (List.pairwise_map.mp h).eq_of_mem_iff (List.pairwise_map.mp hother) hmem

end Table

end Switchboard
