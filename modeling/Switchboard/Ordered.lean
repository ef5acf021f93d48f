/-!
# Ordered lists: distinct elements and tables by key

Two collections keep their elements in a fixed order, so that equal contents
have equal representations: lists of distinct elements in increasing order, and
tables that list their entries by increasing key.  The lookup laws say what
inserting and erasing an entry does to every key.  A list that only drops its
repetitions keeps the order in which its elements first occur.
-/

namespace Switchboard

/-- Puts `x` in its place in an increasing list, unless it is already there. -/
def insertDistinct {α : Type} [DecidableEq α] (before : α → α → Bool) (x : α) : List α → List α
  | [] => [x]
  | y :: rest =>
      if x = y then y :: rest
      else if before x y then x :: y :: rest
      else y :: insertDistinct before x rest

/-- The elements of a list in increasing order, each once. -/
def distinctSorted {α : Type} [DecidableEq α] (before : α → α → Bool) (xs : List α) : List α :=
  xs.foldl (fun sorted x => insertDistinct before x sorted) []

theorem pairwise_idxOf_eraseDups_filter {α : Type} [DecidableEq α] (xs : List α)
    (keep : α → Bool) :
    (xs.filter keep).eraseDups.Pairwise fun x y => xs.idxOf x < xs.idxOf y := by
  -- What the first element removes from the rest joins the test, so the test is general.
  induction xs generalizing keep with
  | nil => exact List.Pairwise.nil
  | cons x rest ih =>
      have hlater : ∀ keep : α → Bool, keep x = false →
          (rest.filter keep).eraseDups.Pairwise fun y z =>
            (x :: rest).idxOf y < (x :: rest).idxOf z := by
        intro keep hx
        apply (ih keep).imp_of_mem
        intro y z hy hz hlt
        have hother : ∀ {y : α}, y ∈ (rest.filter keep).eraseDups → (x == y) = false := by
          rintro y hy
          rw [beq_eq_false_iff_ne]
          rintro rfl
          simp [hx] at hy
        simp only [List.idxOf_cons, hother hy, hother hz, cond_false]
        omega
      by_cases hkeep : keep x = true
      · rw [List.filter_cons_of_pos hkeep, List.eraseDups_cons, List.filter_filter]
        refine List.pairwise_cons.mpr ⟨?_, hlater _ (by simp)⟩
        intro y hy
        have hother : (x == y) = false := by
          rw [beq_eq_false_iff_ne]
          rintro rfl
          simp at hy
        simp [List.idxOf_cons, hother]
      · rw [List.filter_cons_of_neg hkeep]
        exact hlater keep (by simpa using hkeep)

/-- Without repetitions, the elements of a list stand in the order of their first places. -/
theorem pairwise_idxOf_eraseDups {α : Type} [DecidableEq α] (xs : List α) :
    xs.eraseDups.Pairwise fun x y => xs.idxOf x < xs.idxOf y := by
  have h := pairwise_idxOf_eraseDups_filter xs fun _ => true
  rwa [List.filter_eq_self.mpr fun _ _ => rfl] at h

/-- Entries by key.  Tables built from the empty one by `insert` and `erase`
list their keys in increasing code point order, each once. -/
abbrev Table (α : Type) := List (String × α)

namespace Table

variable {α : Type}

/-- The value stored under a key. -/
def find? : Table α → String → Option α
  | [], _ => none
  | (k, v) :: rest, key => if key = k then some v else find? rest key

/-- Stores a value under a key, replacing what was there. -/
def insert (key : String) (value : α) : Table α → Table α
  | [] => [(key, value)]
  | (k, v) :: rest =>
      if key = k then (key, value) :: rest
      else if key < k then (key, value) :: (k, v) :: rest
      else (k, v) :: insert key value rest

/-- Removes what is stored under a key. -/
def erase (key : String) (table : Table α) : Table α :=
  table.filter fun entry => entry.1 ≠ key

/-- A table of the given entries; of several with one key the last stays. -/
def ofList (entries : List (String × α)) : Table α :=
  entries.foldl (fun table entry => insert entry.1 entry.2 table) []

/-- The keys, in the order of the table. -/
def keys (table : Table α) : List String := table.map (·.1)

/-- The keys increase strictly. -/
def Increasing (table : Table α) : Prop := (keys table).Pairwise (· < ·)

@[simp] theorem find?_nil (key : String) : find? ([] : Table α) key = none := rfl

theorem find?_insert_self (key : String) (value : α) (table : Table α) :
    find? (insert key value table) key = some value := by
  induction table with
  | nil => simp [insert, find?]
  | cons entry rest ih =>
      obtain ⟨k, v⟩ := entry
      by_cases heq : key = k
      · simp [insert, find?, heq]
      · by_cases hlt : key < k
        · simp [insert, find?, heq, hlt]
        · simp [insert, find?, heq, hlt, ih]

theorem find?_insert_of_ne {key other : String} (h : other ≠ key) (value : α) (table : Table α) :
    find? (insert key value table) other = find? table other := by
  induction table with
  | nil => simp [insert, find?, h]
  | cons entry rest ih =>
      obtain ⟨k, v⟩ := entry
      by_cases heq : key = k
      · subst heq
        simp [insert, find?, h]
      · by_cases hlt : key < k
        · simp [insert, find?, heq, hlt, h]
        · simp [insert, find?, heq, hlt, ih]

theorem find?_erase_self (key : String) (table : Table α) :
    find? (erase key table) key = none := by
  induction table with
  | nil => rfl
  | cons entry rest ih =>
      obtain ⟨k, v⟩ := entry
      by_cases heq : k = key
      · simpa [erase, heq] using ih
      · have hne : key ≠ k := fun h => heq h.symm
        simpa [erase, heq, find?, hne] using ih

theorem find?_erase_of_ne {key other : String} (h : other ≠ key) (table : Table α) :
    find? (erase key table) other = find? table other := by
  induction table with
  | nil => rfl
  | cons entry rest ih =>
      obtain ⟨k, v⟩ := entry
      by_cases heq : k = key
      · subst heq
        simpa [erase, find?, h] using ih
      · by_cases hother : other = k
        · simp [erase, heq, find?, hother]
        · simpa [erase, heq, find?, hother] using ih

end Table

end Switchboard
