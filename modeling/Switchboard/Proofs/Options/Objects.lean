import Mathlib.Data.List.Permutation
import Mathlib.Data.List.Sort
import Mathlib.Tactic.Common
import Switchboard.Options.Merge
import Switchboard.Proofs.Json.Text
import Switchboard.Proofs.Ordered

/-!
# Merging objects in any order and grouping

Values whose numbers are whole merge commutatively and associatively.  Of two values of
different kinds the one of the later kind stays, so that only values of one kind need care:
arrays become sets, objects merge under each key, and of all others the later text stays.
-/

namespace Switchboard.Options

open Json (textLe)

/-! ## Unions of arrays -/

theorem mem_dropRepeats {items : List Json} (h : ∀ x ∈ items, x.Whole) (a : Json) :
    a ∈ dropRepeats items ↔ a ∈ items := by
  fun_induction dropRepeats items with
  | case1 => rfl
  | case2 => rfl
  | case3 x y rest hagrees ih =>
      obtain ⟨hx, hy, hrest⟩ : x.Whole ∧ y.Whole ∧ ∀ z ∈ rest, z.Whole := by simpa using h
      rw [ih (by simpa using ⟨hx, hrest⟩), ← (hx.agrees_iff hy).mp hagrees]
      simp
  | case4 x y rest hagrees ih =>
      rw [List.mem_cons, ih fun z hz => h z (List.mem_cons_of_mem _ hz), ← List.mem_cons]

theorem pairwise_dropRepeats
    {items : List Json} (h : ∀ x ∈ items, x.Whole)
    (hsorted : items.Pairwise fun a b => textLe a b = true) :
    (dropRepeats items).Pairwise fun a b => textLe a b = true ∧ a ≠ b := by
  fun_induction dropRepeats items with
  | case1 => exact List.Pairwise.nil
  | case2 => exact List.pairwise_singleton _ _
  | case3 x y rest hagrees ih =>
      exact ih (fun z hz => h z (by grind))
        (hsorted.sublist ((List.sublist_cons_self y rest).cons_cons x))
  | case4 x y rest hagrees ih =>
      have hlater : ∀ z ∈ y :: rest, z.Whole := fun z hz => h z (List.mem_cons_of_mem _ hz)
      obtain ⟨hx, hy⟩ : x.Whole ∧ y.Whole := ⟨h x (by simp), h y (by simp)⟩
      obtain ⟨hfirst, hrest⟩ := List.pairwise_cons.mp hsorted
      refine List.pairwise_cons.mpr ⟨?_, ih hlater hrest⟩
      intro z hz
      rw [mem_dropRepeats hlater] at hz
      refine ⟨hfirst z hz, ?_⟩
      rintro rfl
      -- the neighbour would stand between two equal values
      rcases List.mem_cons.mp hz with rfl | hz
      · exact hagrees ((hx.agrees_iff hy).mpr rfl)
      · have heq := Json.textLe_antisymm hx hy (hfirst y List.mem_cons_self)
          ((List.pairwise_cons.mp hrest).1 x hz)
        exact hagrees ((hx.agrees_iff hy).mpr heq)

section Union

variable {left right : List Json} (hleft : ∀ x ∈ left, x.Whole) (hright : ∀ x ∈ right, x.Whole)
include hleft hright

theorem mergeSort_whole : ∀ x ∈ (left ++ right).mergeSort textLe, x.Whole := by
  intro x hx
  rw [List.mem_mergeSort, List.mem_append] at hx
  exact hx.elim (hleft x) (hright x)

theorem mem_unite (a : Json) : a ∈ unite left right ↔ a ∈ left ∨ a ∈ right := by
  rw [unite, mem_dropRepeats (mergeSort_whole hleft hright), List.mem_mergeSort, List.mem_append]

theorem unite_whole : ∀ x ∈ unite left right, x.Whole := fun x hx =>
  ((mem_unite hleft hright x).mp hx).elim (hleft x) (hright x)

theorem pairwise_unite :
    (unite left right).Pairwise fun a b => textLe a b = true ∧ a ≠ b := by
  apply pairwise_dropRepeats (mergeSort_whole hleft hright)
  apply List.pairwise_mergeSort
  · intro a b c
    exact Json.textLe_trans
  · intro a b
    simpa using Json.textLe_total a b

/-- A union is determined by what it holds. -/
theorem unite_congr
    {left' right' : List Json} (hleft' : ∀ x ∈ left', x.Whole) (hright' : ∀ x ∈ right', x.Whole)
    (h : ∀ x, x ∈ left ∨ x ∈ right ↔ x ∈ left' ∨ x ∈ right') :
    unite left right = unite left' right' := by
  have hmem : ∀ x, x ∈ unite left right ↔ x ∈ unite left' right' := by
    intro x
    rw [mem_unite hleft hright, mem_unite hleft' hright', h]
  have hsorted := pairwise_unite hleft hright
  have hsorted' := pairwise_unite hleft' hright'
  apply List.Perm.eq_of_pairwise _ hsorted hsorted'
  · have hnodup := hsorted.imp fun h => h.2
    have hnodup' := hsorted'.imp fun h => h.2
    exact (List.perm_ext_iff_of_nodup hnodup hnodup').mpr hmem
  · intro a b ha hb hab hba
    exact Json.textLe_antisymm (unite_whole hleft hright a ha) (unite_whole hleft' hright' b hb)
      hab.1 hba.1

end Union

theorem unite_comm
    {left right : List Json} (hleft : ∀ x ∈ left, x.Whole) (hright : ∀ x ∈ right, x.Whole) :
    unite left right = unite right left :=
  unite_congr hleft hright hright hleft fun _ => or_comm

theorem unite_assoc
    {left middle right : List Json} (hleft : ∀ x ∈ left, x.Whole)
    (hmiddle : ∀ x ∈ middle, x.Whole) (hright : ∀ x ∈ right, x.Whole) :
    unite (unite left middle) right = unite left (unite middle right) := by
  apply unite_congr (unite_whole hleft hmiddle) hright hleft (unite_whole hmiddle hright)
  intro x
  rw [mem_unite hleft hmiddle, mem_unite hmiddle hright, or_assoc]

/-! ## Merging by keys -/

theorem mergeMembers_cons
    (left : List (String × Json)) (key : String) (value : Json) (rest : List (String × Json)) :
    ∃ merged, Option.merge merge (Table.find? left key) (some value) = some merged ∧
      mergeMembers left ((key, value) :: rest) =
        mergeMembers (Table.insert key merged left) rest := by
  rw [mergeMembers]
  rcases Table.find? left key with _ | existing
  · exact ⟨value, rfl, rfl⟩
  · exact ⟨merge existing value, rfl, rfl⟩

/-- Under each key stands what the two tables have there, merged. -/
theorem find?_mergeMembers
    {left right : List (String × Json)} (h : Table.Increasing right) (key : String) :
    Table.find? (mergeMembers left right) key =
      Option.merge merge (Table.find? left key) (Table.find? right key) := by
  induction right generalizing left with
  | nil => rw [mergeMembers, Table.find?_nil, Option.merge_none_right]
  | cons entry rest ih =>
      obtain ⟨first, value⟩ := entry
      obtain ⟨hfirst, hrest⟩ := Table.increasing_cons_iff.mp h
      obtain ⟨merged, hmerged, heq⟩ := mergeMembers_cons left first value rest
      rw [heq, ih hrest, Table.find?]
      by_cases hkey : key = first
      · subst hkey
        have habsent : Table.find? rest key = none := by
          rw [Option.eq_none_iff_forall_ne_some]
          intro other hother
          exact lt_irrefl key (hfirst _ ((hrest.find?_eq_some_iff key other).mp hother))
        rw [Table.find?_insert_self, habsent, Option.merge_none_right, if_pos rfl, hmerged]
      · rw [Table.find?_insert_of_ne hkey, if_neg hkey]

theorem increasing_mergeMembers
    {left : List (String × Json)} (h : Table.Increasing left) (right : List (String × Json)) :
    Table.Increasing (mergeMembers left right) := by
  induction right generalizing left with
  | nil => rwa [mergeMembers]
  | cons entry rest ih =>
      obtain ⟨merged, -, heq⟩ := mergeMembers_cons left entry.1 entry.2 rest
      exact heq ▸ ih (h.insert entry.1 merged)

/-! ## Values of different kinds -/

/-- The value with the later text. -/
def later (a b : Json) : Json := if textLe b a then a else b

theorem later_cases (a b : Json) : later a b = a ∨ later a b = b := by
  rw [later]
  split_ifs with h
  · exact Or.inl rfl
  · exact Or.inr rfl

theorem later_comm {a b : Json} (ha : a.Whole) (hb : b.Whole) : later a b = later b a := by
  rw [later, later]
  by_cases hba : textLe b a = true
  · by_cases hab : textLe a b = true
    · rw [if_pos hba, if_pos hab, Json.textLe_antisymm ha hb hab hba]
    · rw [if_pos hba, if_neg hab]
  · rw [if_neg hba, if_pos ((Json.textLe_total a b).resolve_right hba)]

theorem later_assoc (a b c : Json) : later (later a b) c = later a (later b c) := by
  by_cases hba : textLe b a = true <;> by_cases hcb : textLe c b = true
  · have hca := Json.textLe_trans hcb hba
    simp [later, hba, hcb, hca]
  · simp [later, hba, hcb]
  · simp [later, hba, hcb]
  · have hab := (Json.textLe_total a b).resolve_right hba
    have hca : ¬textLe c a = true := fun h => hcb (Json.textLe_trans h hab)
    simp [later, hba, hcb, hca]

theorem later_of_grade_lt {a b : Json} (ha : a.Whole) (hb : b.Whole) (h : a.grade < b.grade) :
    later a b = b := by
  rw [later, if_neg]
  simp [(Json.noLater_of_grade_lt ha hb h).2]

theorem later_whole {a b : Json} (ha : a.Whole) (hb : b.Whole) : (later a b).Whole := by
  rcases later_cases a b with h | h <;> rwa [h]

/-- Only two arrays and two objects are combined.  Of any other two values the one with the
later text stays, as it does of two truth values. -/
theorem merge_eq_later {a b : Json} (h : a.grade = b.grade → a.grade ≠ 2 ∧ a.grade ≠ 7) :
    merge a b = later a b := by
  unfold merge
  split
  · exact absurd rfl (h rfl).2
  · exact absurd rfl (h rfl).1
  · rename_i p q
    rcases p with _ | _ <;> rcases q with _ | _ <;> rfl
  · rfl

theorem merge_arrays (xs ys : List Json) :
    merge (.array xs) (.array ys) = .array (unite xs ys) := by
  simp [merge]

theorem merge_members (ms ns : List (String × Json)) :
    merge (.object ms) (.object ns) = .object (mergeMembers ms ns) := by
  simp [merge]

theorem exists_array_of_grade {a : Json} (h : a.grade = 2) : ∃ items, a = .array items := by
  rcases a with _ | ⟨_ | _⟩ | _ | _ | _ | items | _ <;> simp [Json.grade] at h
  exact ⟨items, rfl⟩

theorem exists_object_of_grade {a : Json} (h : a.grade = 7) : ∃ members, a = .object members := by
  rcases a with _ | ⟨_ | _⟩ | _ | _ | _ | _ | members <;> simp [Json.grade] at h
  exact ⟨members, rfl⟩

/-- Two values are both arrays, or both objects, with smaller values under their common keys,
or they are not combined. -/
theorem pair_induction {P : Json → Json → Prop}
    (arrays : ∀ xs ys, (Json.array xs).Whole → (Json.array ys).Whole → P (.array xs) (.array ys))
    (objects : ∀ ms ns, (Json.object ms).Whole → (Json.object ns).Whole →
      (∀ key x y, Table.find? ms key = some x → Table.find? ns key = some y → P x y) →
      P (.object ms) (.object ns))
    (others : ∀ a b, a.Whole → b.Whole → (a.grade = b.grade → a.grade ≠ 2 ∧ a.grade ≠ 7) → P a b)
    {a b : Json} (ha : a.Whole) (hb : b.Whole) : P a b := by
  induction ha generalizing b with
  | @array xs items_whole _ =>
      by_cases hgrade : b.grade = 2
      · obtain ⟨ys, rfl⟩ := exists_array_of_grade hgrade
        exact arrays xs ys (.array items_whole) hb
      · exact others _ _ (.array items_whole) hb fun heq => absurd heq.symm hgrade
  | @object ms increasing members_whole ih =>
      by_cases hgrade : b.grade = 7
      · obtain ⟨ns, rfl⟩ := exists_object_of_grade hgrade
        refine objects ms ns (.object increasing members_whole) hb ?_
        intro key x y hx hy
        exact ih (key, x) ((increasing.find?_eq_some_iff key x).mp hx)
          ((Json.whole_object_iff.mp hb).2 key y hy)
      · exact others _ _ (.object increasing members_whole) hb fun heq => absurd heq.symm hgrade
  | null => exact others _ _ .null hb fun _ => by decide
  | bool value => exact others _ _ (.bool value) hb fun _ => by rcases value with _ | _ <;> decide
  | integer value => exact others _ _ (.integer value) hb fun _ => by simp [Json.grade]
  | string value => exact others _ _ (.string value) hb fun _ => by simp [Json.grade]

theorem merge_of_grade_lt {a b : Json} (ha : a.Whole) (hb : b.Whole) (h : a.grade < b.grade) :
    merge a b = b := by
  rw [merge_eq_later fun heq => absurd heq h.ne, later_of_grade_lt ha hb h]

theorem merge_of_grade_gt {a b : Json} (ha : a.Whole) (hb : b.Whole) (h : b.grade < a.grade) :
    merge a b = a := by
  rw [merge_eq_later fun heq => absurd heq h.ne', later_comm ha hb, later_of_grade_lt hb ha h]

theorem grade_merge {a b : Json} (ha : a.Whole) (hb : b.Whole) :
    (merge a b).grade = max a.grade b.grade := by
  rcases lt_trichotomy a.grade b.grade with hlt | heq | hgt
  · rw [merge_of_grade_lt ha hb hlt, max_eq_right hlt.le]
  · rw [← heq, max_self]
    by_cases harray : a.grade = 2
    · obtain ⟨xs, rfl⟩ := exists_array_of_grade harray
      obtain ⟨ys, rfl⟩ := exists_array_of_grade heq.symm
      rw [merge_arrays, Json.grade, Json.grade]
    by_cases hobject : a.grade = 7
    · obtain ⟨ms, rfl⟩ := exists_object_of_grade hobject
      obtain ⟨ns, rfl⟩ := exists_object_of_grade heq.symm
      rw [merge_members, Json.grade, Json.grade]
    rw [merge_eq_later fun _ => ⟨harray, hobject⟩]
    rcases later_cases a b with hlater | hlater <;> rw [hlater]
    exact heq.symm
  · rw [merge_of_grade_gt ha hb hgt, max_eq_left hgt.le]

/-! ## The laws of merging -/

theorem merge_whole {a b : Json} (ha : a.Whole) (hb : b.Whole) : (merge a b).Whole := by
  refine pair_induction (P := fun a b => (merge a b).Whole) ?arrays ?objects ?others ha hb
  case arrays =>
      intro xs ys hxs hys
      rw [merge_arrays]
      exact Json.whole_array_iff.mpr
        (unite_whole (Json.whole_array_iff.mp hxs) (Json.whole_array_iff.mp hys))
  case objects =>
      intro ms ns hms hns ih
      obtain ⟨hms, hleft⟩ := Json.whole_object_iff.mp hms
      obtain ⟨hns, hright⟩ := Json.whole_object_iff.mp hns
      rw [merge_members]
      refine Json.whole_object_iff.mpr ⟨increasing_mergeMembers hms ns, ?_⟩
      intro key value hvalue
      rw [find?_mergeMembers hns] at hvalue
      rcases hx : Table.find? ms key with _ | x <;> rcases hy : Table.find? ns key with _ | y <;>
        rw [hx, hy] at hvalue
      · cases hvalue
      · exact hright key value (hy.trans hvalue)
      · exact hleft key value (hx.trans hvalue)
      · exact Option.some.inj hvalue ▸ ih key x y hx hy
  case others =>
      intro a b ha hb hkind
      rw [merge_eq_later hkind]
      exact later_whole ha hb

theorem merge_comm {a b : Json} (ha : a.Whole) (hb : b.Whole) : merge a b = merge b a := by
  refine pair_induction (P := fun a b => merge a b = merge b a) ?arrays ?objects ?others ha hb
  case arrays =>
      intro xs ys hxs hys
      rw [merge_arrays, merge_arrays,
        unite_comm (Json.whole_array_iff.mp hxs) (Json.whole_array_iff.mp hys)]
  case objects =>
      intro ms ns hms hns ih
      obtain ⟨hms, -⟩ := Json.whole_object_iff.mp hms
      obtain ⟨hns, -⟩ := Json.whole_object_iff.mp hns
      rw [merge_members, merge_members]
      congr 1
      apply (increasing_mergeMembers hms ns).ext (increasing_mergeMembers hns ms)
      intro key
      rw [find?_mergeMembers hns, find?_mergeMembers hms]
      rcases hx : Table.find? ms key with _ | x <;> rcases hy : Table.find? ns key with _ | y
      · rfl
      · rfl
      · rfl
      · exact congrArg some (ih key x y hx hy)
  case others =>
      intro a b ha hb hkind
      rw [merge_eq_later hkind, merge_eq_later fun heq => heq ▸ hkind heq.symm, later_comm ha hb]

/-- Unless three values are of one kind, the later kinds decide. -/
theorem merge_assoc_of_grade_ne
    {a b c : Json} (ha : a.Whole) (hb : b.Whole) (hc : c.Whole)
    (h : ¬(a.grade = b.grade ∧ b.grade = c.grade)) :
    merge (merge a b) c = merge a (merge b c) := by
  have hab := grade_merge ha hb
  have hbc := grade_merge hb hc
  rcases lt_trichotomy a.grade b.grade with hlt | heq | hgt
  · rw [merge_of_grade_lt ha hb hlt, merge_of_grade_lt ha (merge_whole hb hc) (by omega)]
  · rcases lt_trichotomy b.grade c.grade with hlt' | heq' | hgt'
    · rw [merge_of_grade_lt hb hc hlt', merge_of_grade_lt ha hc (by omega),
        merge_of_grade_lt (merge_whole ha hb) hc (by omega)]
    · exact absurd ⟨heq, heq'⟩ h
    · rw [merge_of_grade_gt hb hc hgt', merge_of_grade_gt (merge_whole ha hb) hc (by omega)]
  · rw [merge_of_grade_gt ha hb hgt]
    rcases lt_or_ge b.grade c.grade with hlt' | hge'
    · rw [merge_of_grade_lt hb hc hlt']
    · rw [merge_of_grade_gt ha hc (by omega),
        merge_of_grade_gt ha (merge_whole hb hc) (by omega)]

theorem merge_assoc {a b c : Json} (ha : a.Whole) (hb : b.Whole) (hc : c.Whole) :
    merge (merge a b) c = merge a (merge b c) := by
  revert c
  refine pair_induction
    (P := fun a b => ∀ {c}, c.Whole → merge (merge a b) c = merge a (merge b c))
    ?arrays ?objects ?others ha hb
  case arrays =>
      intro xs ys hxs hys c hc
      by_cases hgrade : c.grade = 2
      · obtain ⟨zs, rfl⟩ := exists_array_of_grade hgrade
        rw [merge_arrays, merge_arrays, merge_arrays, merge_arrays, unite_assoc]
        · exact Json.whole_array_iff.mp hxs
        · exact Json.whole_array_iff.mp hys
        · exact Json.whole_array_iff.mp hc
      · exact merge_assoc_of_grade_ne hxs hys hc fun h => hgrade h.2.symm
  case objects =>
      intro ms ns hms hns ih c hc
      by_cases hgrade : c.grade = 7
      · obtain ⟨ls, rfl⟩ := exists_object_of_grade hgrade
        obtain ⟨hms, -⟩ := Json.whole_object_iff.mp hms
        obtain ⟨hns, -⟩ := Json.whole_object_iff.mp hns
        obtain ⟨hls, hlast⟩ := Json.whole_object_iff.mp hc
        rw [merge_members, merge_members, merge_members, merge_members]
        congr 1
        apply (increasing_mergeMembers (increasing_mergeMembers hms ns) ls).ext
          (increasing_mergeMembers hms (mergeMembers ns ls))
        intro key
        rw [find?_mergeMembers hls, find?_mergeMembers hns,
          find?_mergeMembers (increasing_mergeMembers hns ls), find?_mergeMembers hls]
        rcases hx : Table.find? ms key with _ | x <;> rcases hy : Table.find? ns key with _ | y <;>
          rcases hz : Table.find? ls key with _ | z <;> try rfl
        exact congrArg some (ih key x y hx hy (hlast key z hz))
      · exact merge_assoc_of_grade_ne hms hns hc fun h => hgrade h.2.symm
  case others =>
      intro a b ha hb hkind c hc
      by_cases hgrade : a.grade = b.grade ∧ b.grade = c.grade
      · obtain ⟨heq, heq'⟩ := hgrade
        have hab : (merge a b).grade = a.grade := by rw [grade_merge ha hb]; omega
        have hbc : (merge b c).grade = b.grade := by rw [grade_merge hb hc]; omega
        rw [merge_eq_later fun _ => hab ▸ hkind heq, merge_eq_later fun _ => hkind heq,
          merge_eq_later (b := merge b c) fun _ => hkind heq,
          merge_eq_later fun _ => heq ▸ hkind heq, later_assoc]
      · exact merge_assoc_of_grade_ne ha hb hc hgrade

/-! ## Lists of options -/

theorem foldl_merge {a b : Json} {options : List Json} (ha : a.Whole) (hb : b.Whole)
    (h : ∀ option ∈ options, option.Whole) :
    options.foldl merge (merge a b) = merge a (options.foldl merge b) := by
  induction options generalizing b with
  | nil => rfl
  | cons option rest ih =>
      obtain ⟨hoption, hrest⟩ := List.forall_mem_cons.mp h
      rw [List.foldl_cons, List.foldl_cons, merge_assoc ha hb hoption,
        ih (merge_whole hb hoption) hrest]

theorem isObject_merge {a b : Json} (ha : a.isObject = true) (hb : b.isObject = true) :
    (merge a b).isObject = true := by
  rcases a with _ | _ | _ | _ | _ | _ | ms <;> cases ha
  rcases b with _ | _ | _ | _ | _ | _ | ns <;> cases hb
  rw [merge_members]
  rfl

/-- What merging keeps holds of merged options if it holds of every object among them. -/
theorem forall_mergeObjects {P : Json → Prop} (hmerge : ∀ a b, P a → P b → P (merge a b))
    {options : List Json} (h : ∀ option ∈ options, option.isObject = true → P option) :
    ∀ merged ∈ mergeObjects options, P merged := by
  intro merged hmerged
  have hobjects : ∀ option ∈ options.filter Json.isObject, P option := by
    intro option hoption
    obtain ⟨hmem, hobject⟩ := List.mem_filter.mp hoption
    exact h option hmem hobject
  rw [mergeObjects] at hmerged
  rcases hfilter : options.filter Json.isObject with _ | ⟨first, rest⟩ <;>
    rw [hfilter] at hmerged hobjects
  · cases hmerged
  · obtain ⟨hfirst, hrest⟩ := List.forall_mem_cons.mp hobjects
    rw [← Option.some.inj hmerged]
    exact List.foldlRecOn (motive := P) rest merge hfirst
      fun a ha option hoption => hmerge a option ha (hrest option hoption)

theorem mergeObjects_whole {options : List Json} (h : ∀ option ∈ options, option.Whole) :
    ∀ merged ∈ mergeObjects options, merged.Whole :=
  forall_mergeObjects (fun _ _ => merge_whole) fun option hoption _ => h option hoption

/-- What a merged part contributes is the part. -/
theorem mergeObjects_toList (options : List Json) :
    mergeObjects (mergeObjects options).toList = mergeObjects options := by
  rcases h : mergeObjects options with _ | merged
  · rfl
  · have hobject := forall_mergeObjects (fun _ _ => isObject_merge) (fun _ _ => id) merged h
    simp [mergeObjects, hobject]

theorem mergeObjects_append
    {first second : List Json} (hfirst : ∀ option ∈ first, option.Whole)
    (hsecond : ∀ option ∈ second, option.Whole) :
    mergeObjects (first ++ second) =
      Option.merge merge (mergeObjects first) (mergeObjects second) := by
  have hwhole := mergeObjects_whole hfirst
  have hlater : ∀ option ∈ second.filter Json.isObject, option.Whole :=
    fun option hoption => hsecond option (List.mem_of_mem_filter hoption)
  rw [mergeObjects] at hwhole
  rw [mergeObjects, mergeObjects, mergeObjects, List.filter_append]
  rcases hleft : first.filter Json.isObject with _ | ⟨a, as⟩
  · rw [List.nil_append, Option.merge_none_left]
  rcases hright : second.filter Json.isObject with _ | ⟨b, bs⟩
  · rw [List.append_nil, Option.merge_none_right]
  · rw [hleft] at hwhole
    rw [hright] at hlater
    obtain ⟨hb, hbs⟩ := List.forall_mem_cons.mp hlater
    simp only [List.cons_append, List.foldl_append, List.foldl_cons, Option.merge_some_some]
    rw [foldl_merge (hwhole _ rfl) hb hbs]

theorem mergeObjects_append_comm
    {first second : List Json} (hfirst : ∀ option ∈ first, option.Whole)
    (hsecond : ∀ option ∈ second, option.Whole) :
    mergeObjects (first ++ second) = mergeObjects (second ++ first) := by
  rw [mergeObjects_append hfirst hsecond, mergeObjects_append hsecond hfirst]
  rcases h : mergeObjects first with _ | left <;> rcases h' : mergeObjects second with _ | right
  · rfl
  · rfl
  · rfl
  · exact congrArg some
      (merge_comm (mergeObjects_whole hfirst left h) (mergeObjects_whole hsecond right h'))

theorem mergeObjects_perm
    {options permuted : List Json} (h : options.Perm permuted)
    (hwhole : ∀ option ∈ options, option.Whole) :
    mergeObjects permuted = mergeObjects options := by
  have happend : ∀ {first second : List Json}, (∀ x ∈ first ++ second, x.Whole) →
      mergeObjects (first ++ second) =
        Option.merge merge (mergeObjects first) (mergeObjects second) := by
    intro first second h
    obtain ⟨hfirst, hsecond⟩ := List.forall_mem_append.mp h
    exact mergeObjects_append hfirst hsecond
  induction h with
  | nil => rfl
  | @cons option options permuted h ih =>
      have hsame := ih fun x hx => hwhole x (List.mem_cons_of_mem _ hx)
      have hwhole' : ∀ x ∈ [option] ++ permuted, x.Whole :=
        fun x hx => hwhole x ((h.cons option).mem_iff.mpr hx)
      calc
        mergeObjects ([option] ++ permuted) =
            Option.merge merge (mergeObjects [option]) (mergeObjects permuted) := happend hwhole'
        _ = Option.merge merge (mergeObjects [option]) (mergeObjects options) := by rw [hsame]
        _ = mergeObjects ([option] ++ options) := (happend hwhole).symm
  | swap first second rest =>
      have hpair : mergeObjects ([first] ++ [second]) = mergeObjects ([second] ++ [first]) := by
        apply mergeObjects_append_comm
        · exact fun x hx => hwhole x (by grind)
        · exact fun x hx => hwhole x (by grind)
      have hwhole' : ∀ x ∈ [first, second] ++ rest, x.Whole :=
        fun x hx => hwhole x ((List.Perm.swap second first rest).mem_iff.mp hx)
      calc
        mergeObjects ([first, second] ++ rest) =
            Option.merge merge (mergeObjects [first, second]) (mergeObjects rest) :=
          happend hwhole'
        _ = Option.merge merge (mergeObjects [second, first]) (mergeObjects rest) :=
          congrArg (Option.merge merge · _) hpair
        _ = mergeObjects ([second, first] ++ rest) := (happend hwhole).symm
  | trans h h' ih ih' =>
      rw [ih' fun x hx => hwhole x (h.mem_iff.mpr hx), ih hwhole]

/-- Values whose numbers are whole merge commutatively and associatively.  So the objects among
options merge into the same value in every order, and in whichever two parts they are merged
first. -/
theorem objects_merge_in_any_grouping
    {left middle right : Json} (hleft : left.Whole) (hmiddle : middle.Whole) (hright : right.Whole)
    {options : List Json} (hoptions : ∀ option ∈ options, option.Whole) :
    merge left right = merge right left ∧
      merge (merge left middle) right = merge left (merge middle right) ∧
      (∀ permuted, options.Perm permuted → mergeObjects permuted = mergeObjects options) ∧
      ∀ first second, options.Perm (first ++ second) →
        mergeObjects ((mergeObjects first).toList ++ (mergeObjects second).toList) =
          mergeObjects options := by
  refine ⟨merge_comm hleft hright, merge_assoc hleft hmiddle hright, ?_, ?_⟩
  · intro permuted h
    exact mergeObjects_perm h hoptions
  · intro first second h
    have hparts : ∀ option ∈ first ++ second, option.Whole :=
      fun option hoption => hoptions option (h.mem_iff.mpr hoption)
    obtain ⟨hfirst, hsecond⟩ := List.forall_mem_append.mp hparts
    have htoList : ∀ {part : List Json}, (∀ option ∈ part, option.Whole) →
        ∀ merged ∈ (mergeObjects part).toList, merged.Whole :=
      fun hpart merged hmerged => mergeObjects_whole hpart merged (Option.mem_toList.mp hmerged)
    rw [mergeObjects_append (htoList hfirst) (htoList hsecond), mergeObjects_toList,
      mergeObjects_toList, ← mergeObjects_append hfirst hsecond]
    exact mergeObjects_perm h hoptions

/-- Options that differ in the kinds of their members, and one value without members. -/
def mixedOptions : List Json :=
  [.object [("edits", .array [.integer 3, .string "a"]), ("resolve", .bool true)],
    .null,
    .object [("edits", .array [.null, .integer 3]),
      ("resolve", .object [("lazy", .integer (-1))])],
    .object [("edits", .string "none"), ("resolve", .null)]]

theorem mixedOptions_whole : ∀ option ∈ mixedOptions, option.Whole := by
  have hkeys : "edits" < "resolve" := by decide
  simp only [mixedOptions, List.forall_mem_cons]
  refine ⟨?_, .null, ?_, ?_, by simp⟩
  · refine .object (by simpa [Table.Increasing, Table.keys] using hkeys) ?_
    simpa using ⟨.array (by simpa using ⟨.integer 3, .string "a"⟩), .bool true⟩
  · refine .object (by simpa [Table.Increasing, Table.keys] using hkeys) ?_
    have hlazy : (Json.object [("lazy", .integer (-1))]).Whole :=
      .object (by simp [Table.Increasing, Table.keys]) (by simpa using .integer (-1))
    simpa using ⟨.array (by simpa using ⟨.null, .integer 3⟩), hlazy⟩
  · refine .object (by simpa [Table.Increasing, Table.keys] using hkeys) ?_
    simpa using ⟨.string "none", .null⟩

/-- The array under the first key and the object under the second stay, and the arrays under the
first key are united. -/
theorem mixedOptions_merged :
    (∀ option ∈ mixedOptions, option.Whole) ∧
      mergeObjects mixedOptions.reverse =
        some (.object [("edits", .array [.string "a", .integer 3, .null]),
          ("resolve", .object [("lazy", .integer (-1))])]) ∧
      mergeObjects ((mergeObjects (mixedOptions.take 2)).toList ++
          (mergeObjects (mixedOptions.drop 2)).toList) =
        mergeObjects mixedOptions := by
  have hmerged : mergeObjects mixedOptions =
      some (.object [("edits", .array [.string "a", .integer 3, .null]),
        ("resolve", .object [("lazy", .integer (-1))])]) := by
    cbv
  obtain ⟨-, -, hperm, hparts⟩ :=
    objects_merge_in_any_grouping (.bool true) .null (.integer 3) mixedOptions_whole
  refine ⟨mixedOptions_whole, ?_, ?_⟩
  · rw [hperm _ (List.reverse_perm _).symm, hmerged]
  · exact hparts _ _ (List.Perm.of_eq (List.take_append_drop 2 _).symm)

end Switchboard.Options
