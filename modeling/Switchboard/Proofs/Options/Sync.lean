import Mathlib.Order.Bounds.Basic
import Mathlib.Tactic.Common
import Switchboard.Proofs.Options.Merge

/-!
# What joint sync options tell

The joint sync options of some handlers ask for exactly what one of them asks for, and for the
largest kind of change.  They are read back as what they were written from, so options may be
joined in parts, and the parts joined again.
-/

namespace Switchboard.Options

/-! ## What options ask for -/

/-- A number, whatever its value. -/
def IsNumber (option : Json) : Prop := (∃ n, option = .integer n) ∨ ∃ x, option = .fraction x

/-- Documents are to be announced when they are opened and closed. -/
def Opens (option : Json) : Prop := IsNumber option ∨ Sets "openClose" option

/-- A kind of change, on its own or in an object, that fits a signed word of 64 bits. -/
def HasKind (option : Json) (kind : Int) : Prop :=
  (option = .integer kind ∨ option.member? "change" = some (.integer kind)) ∧
    -9223372036854775808 ≤ kind ∧ kind ≤ 9223372036854775807

/-- Saves are to be announced. -/
def Saves (option : Json) : Prop :=
  Sets "save" option ∨ ∃ wishes, option.member? "save" = some (.object wishes)

/-- Saves are to be announced with the text. -/
def SavesText (option : Json) : Prop :=
  ∃ wishes, option.member? "save" = some (.object wishes) ∧ Sets "includeText" (.object wishes)

theorem integer64?_eq_some_iff (value : Json) (kind : Int) :
    value.integer64? = some kind ↔
      value = .integer kind ∧ -9223372036854775808 ≤ kind ∧ kind ≤ 9223372036854775807 := by
  rcases value with _ | _ | n | _ | _ | _ | _ <;> simp [Json.integer64?, Json.integerWithin?]
  omega

/-- The kind of change that an option contributes, if it contributes one. -/
def kind? (option : Json) : Option Int :=
  if option.isObject then (option.member? "change").bind Json.integer64? else option.integer64?

theorem kind?_eq_some_iff (option : Json) (kind : Int) :
    kind? option = some kind ↔ HasKind option kind := by
  rcases option with _ | _ | n | _ | _ | _ | members <;>
    simp [kind?, HasKind, Json.isObject, Json.member?, Option.bind_eq_some_iff,
      integer64?_eq_some_iff]

/-! ## Sums of options -/

namespace SyncTotal

theorem isSome_joinSave (first second : Option Bool) :
    (joinSave first second).isSome = true ↔ first.isSome = true ∨ second.isSome = true := by
  rcases first with _ | first <;> rcases second with _ | second <;> simp [joinSave]

theorem joinSave_eq_some_true_iff (first second : Option Bool) :
    joinSave first second = some true ↔ first = some true ∨ second = some true := by
  rcases first with _ | first <;> rcases second with _ | second <;> simp [joinSave]

theorem isSome_saveOf (option : Json) : (saveOf option).isSome = true ↔ Saves option := by
  rw [saveOf, Saves, Sets]
  rcases option.member? "save" with _ | ⟨_ | ⟨_ | _⟩ | _ | _ | _ | _ | _⟩ <;> simp

theorem saveOf_eq_some_true_iff (option : Json) : saveOf option = some true ↔ SavesText option := by
  rw [saveOf, SavesText]
  rcases option.member? "save" with _ | ⟨_ | ⟨_ | _⟩ | _ | _ | _ | _ | _⟩ <;> simp [flag_iff]

section Add

variable (total : SyncTotal) (option : Json)

theorem openClose_add :
    (total.add option).openClose = true ↔ total.openClose = true ∨ Opens option := by
  rcases option with _ | _ | _ | _ | _ | _ | members <;>
    simp [add, Opens, IsNumber, flag_iff, Sets, Json.member?]

theorem willSave_add :
    (total.add option).willSave = true ↔ total.willSave = true ∨ Sets "willSave" option := by
  rcases option with _ | _ | _ | _ | _ | _ | members <;>
    simp [add, flag_iff, Sets, Json.member?]

theorem willSaveWaitUntil_add :
    (total.add option).willSaveWaitUntil = true ↔
      total.willSaveWaitUntil = true ∨ Sets "willSaveWaitUntil" option := by
  rcases option with _ | _ | _ | _ | _ | _ | members <;>
    simp [add, flag_iff, Sets, Json.member?]

theorem isSome_save_add :
    (total.add option).save.isSome = true ↔ total.save.isSome = true ∨ Saves option := by
  rw [← isSome_saveOf]
  rcases option with _ | _ | _ | _ | _ | _ | members <;>
    simp [add, isSome_joinSave, saveOf, Json.member?]

theorem save_add_eq_some_true_iff :
    (total.add option).save = some true ↔ total.save = some true ∨ SavesText option := by
  rw [← saveOf_eq_some_true_iff]
  rcases option with _ | _ | _ | _ | _ | _ | members <;>
    simp [add, joinSave_eq_some_true_iff, saveOf, Json.member?]

theorem change_add (h : 0 ≤ total.change) :
    (total.add option).change = max total.change ((kind? option).getD 0) := by
  rcases option with _ | _ | _ | _ | _ | _ | members <;>
    simp [add, kind?, Json.isObject, Json.integer64?, Json.integerWithin?, h]

end Add

/-- A total has what some of the options ask for, and nothing else. -/
structure Collects (options : List Json) (total : SyncTotal) : Prop where
  openClose : total.openClose = true ↔ ∃ option ∈ options, Opens option
  change : IsGreatest {kind | kind = 0 ∨ ∃ option ∈ options, HasKind option kind} total.change
  willSave : total.willSave = true ↔ ∃ option ∈ options, Sets "willSave" option
  willSaveWaitUntil :
    total.willSaveWaitUntil = true ↔ ∃ option ∈ options, Sets "willSaveWaitUntil" option
  save : total.save.isSome = true ↔ ∃ option ∈ options, Saves option
  saveText : total.save = some true ↔ ∃ option ∈ options, SavesText option

namespace Collects

theorem nil : Collects [] {} := by
  constructor <;> simp

variable {options : List Json} {total : SyncTotal}

theorem change_nonneg (h : Collects options total) : 0 ≤ total.change :=
  h.change.2 (Or.inl rfl)

theorem change_le (h : Collects options total) : total.change ≤ 9223372036854775807 := by
  rcases h.change.1 with hzero | ⟨option, -, -, -, hle⟩
  · rw [hzero]
    decide
  · exact hle

theorem append_singleton (h : Collects options total) (option : Json) :
    Collects (options ++ [option]) (total.add option) := by
  have hsplit : ∀ asks : Json → Prop,
      (∃ x ∈ options ++ [option], asks x) ↔ (∃ x ∈ options, asks x) ∨ asks option := by
    intro asks
    simp [or_and_right, exists_or]
  constructor
  case openClose => rw [openClose_add, h.openClose, hsplit]
  case willSave => rw [willSave_add, h.willSave, hsplit]
  case willSaveWaitUntil => rw [willSaveWaitUntil_add, h.willSaveWaitUntil, hsplit]
  case save => rw [isSome_save_add, h.save, hsplit]
  case saveText => rw [save_add_eq_some_true_iff, h.saveText, hsplit]
  case change =>
    rw [change_add total option h.change_nonneg]
    have hkinds : {kind | kind = 0 ∨ ∃ x ∈ options ++ [option], HasKind x kind} =
        {kind | kind = 0 ∨ ∃ x ∈ options, HasKind x kind} ∪ {kind | kind? option = some kind} := by
      ext kind
      rw [Set.mem_ofPred_eq, hsplit, ← or_assoc, ← kind?_eq_some_iff]
      rfl
    rw [hkinds]
    rcases hkind : kind? option with _ | kind
    · have hnone : {kind : Int | (none : Option Int) = some kind} = ∅ := by simp
      rw [hnone, Set.union_empty, Option.getD_none, max_eq_left h.change_nonneg]
      exact h.change
    · have hsingle : {other | some kind = some other} = {kind} := by
        ext other
        simp [eq_comm]
      rw [hsingle, Option.getD_some]
      exact h.change.union isGreatest_singleton

theorem foldl_add (options : List Json) : Collects options (options.foldl add {}) := by
  induction options using List.reverseRecOn with
  | nil => exact nil
  | append_singleton options option ih =>
      rw [List.foldl_append]
      exact ih.append_singleton option

end Collects

/-! ## Sums written and read back -/

/-- The members of the options that a total is written as, with those that have no value. -/
def fields (total : SyncTotal) : List (String × Option Json) :=
  [("openClose", some (.bool total.openClose)), ("change", some (.integer total.change)),
    ("willSave", if total.willSave then some (.bool true) else none),
    ("willSaveWaitUntil", if total.willSaveWaitUntil then some (.bool true) else none),
    ("save", total.save.map fun text => .ofMembers [("includeText", .bool text)])]

theorem toJson_eq_fields (total : SyncTotal) :
    total.toJson =
      .ofMembers (total.fields.filterMap fun field => field.2.map (Prod.mk field.1)) := by
  obtain ⟨openClose, change, willSave, willSaveWaitUntil, save⟩ := total
  rcases willSave with _ | _ <;> rcases willSaveWaitUntil with _ | _ <;>
    rcases save with _ | _ <;> rfl

theorem member?_toJson
    {total : SyncTotal} {name : String} {value : Option Json}
    (h : (name, value) ∈ total.fields) : total.toJson.member? name = value := by
  rw [toJson_eq_fields]
  exact Table.find?_ofList_filterMap (by simp [fields]) h

variable (total : SyncTotal)

theorem member?_openClose : total.toJson.member? "openClose" = some (.bool total.openClose) :=
  member?_toJson (by simp [fields])

theorem member?_change : total.toJson.member? "change" = some (.integer total.change) :=
  member?_toJson (by simp [fields])

theorem member?_willSave :
    total.toJson.member? "willSave" = if total.willSave then some (.bool true) else none :=
  member?_toJson (by simp [fields])

theorem member?_willSaveWaitUntil :
    total.toJson.member? "willSaveWaitUntil" =
      if total.willSaveWaitUntil then some (.bool true) else none :=
  member?_toJson (by simp [fields])

theorem member?_save :
    total.toJson.member? "save" =
      total.save.map fun text => .object [("includeText", .bool text)] :=
  member?_toJson (by simp [fields]; rfl)

theorem flag_toJson_willSave : flag "willSave" total.toJson = total.willSave := by
  rw [Bool.eq_iff_iff, flag_iff, Sets, member?_willSave]
  simp

theorem flag_toJson_willSaveWaitUntil :
    flag "willSaveWaitUntil" total.toJson = total.willSaveWaitUntil := by
  rw [Bool.eq_iff_iff, flag_iff, Sets, member?_willSaveWaitUntil]
  simp

theorem saveOf_toJson : saveOf total.toJson = total.save := by
  rw [saveOf, member?_save]
  rcases total.save with _ | _ | _ <;> rfl

/-- A total is read as it was written. -/
theorem asked?_toJson (h : 0 ≤ total.change) (h' : total.change ≤ 9223372036854775807) :
    asked? total.toJson = some total := by
  have hopen : flag "openClose" total.toJson = total.openClose := by
    rw [flag, member?_openClose]
    rfl
  have hchange : ((total.toJson.member? "change").bind Json.integer64?).getD 0 = total.change := by
    rw [member?_change, Option.bind_some,
      (integer64?_eq_some_iff _ total.change).mpr ⟨rfl, by omega, h'⟩, Option.getD_some]
  have hasked : asked? total.toJson =
      some
        { openClose := flag "openClose" total.toJson
          change := ((total.toJson.member? "change").bind Json.integer64?).getD 0
          willSave := flag "willSave" total.toJson
          willSaveWaitUntil := flag "willSaveWaitUntil" total.toJson
          save := saveOf total.toJson } := rfl
  rw [hasked, hopen, hchange, flag_toJson_willSave, flag_toJson_willSaveWaitUntil, saveOf_toJson]

/-! ## Sums of sums -/

theorem empty_join {total : SyncTotal} (h : 0 ≤ total.change) : join {} total = total := by
  obtain ⟨openClose, change, willSave, willSaveWaitUntil, save⟩ := total
  simp [join, joinSave, max_eq_right h]

theorem join_empty {total : SyncTotal} (h : 0 ≤ total.change) : total.join {} = total := by
  obtain ⟨openClose, change, willSave, willSaveWaitUntil, save⟩ := total
  simp [join, joinSave_none, max_eq_left h]

theorem joinSave_assoc (first second third : Option Bool) :
    joinSave (joinSave first second) third = joinSave first (joinSave second third) := by
  rcases first with _ | first <;> rcases second with _ | second <;> rcases third with _ | third <;>
    simp [joinSave, Bool.or_assoc]

theorem join_assoc (first second third : SyncTotal) :
    (first.join second).join third = first.join (second.join third) := by
  simp only [join, SyncTotal.mk.injEq]
  exact ⟨Bool.or_assoc _ _ _, max_assoc _ _ _, Bool.or_assoc _ _ _, Bool.or_assoc _ _ _,
    joinSave_assoc _ _ _⟩

theorem join_foldl_add (first second : SyncTotal) (options : List Json) :
    options.foldl add (first.join second) = first.join (options.foldl add second) := by
  induction options generalizing second with
  | nil => rfl
  | cons option rest ih =>
      have hadd : (first.join second).add option = first.join (second.add option) := by
        rw [add_eq, add_eq second]
        rcases asked? option with _ | asked
        · rfl
        · exact join_assoc first second asked
      rw [List.foldl_cons, List.foldl_cons, hadd, ih]

/-- A total continues to grow like one that starts with nothing. -/
theorem foldl_add_eq_join {total : SyncTotal} (h : 0 ≤ total.change) (options : List Json) :
    options.foldl add total = total.join (options.foldl add {}) := by
  rw [← join_foldl_add, join_empty h]

/-- Totals written as options are joined like the options they were made of. -/
theorem foldl_add_toJson
    {first second : List Json} {left right : SyncTotal}
    (hleft : Collects first left) (hright : Collects second right) :
    [left.toJson, right.toJson].foldl add {} = left.join right := by
  rw [List.foldl_cons, List.foldl_cons, List.foldl_nil, add_eq, add_eq {},
    asked?_toJson left hleft.change_nonneg hleft.change_le,
    asked?_toJson right hright.change_nonneg hright.change_le]
  exact congrArg (join · right) (empty_join hleft.change_nonneg)

end SyncTotal

/-! ## Joint options -/

/-- The joint options of some options have what some of them ask for, and nothing else. -/
structure JointSync (options : List Json) (merged : Json) : Prop where
  openClose : ∃ opens, merged.member? "openClose" = some (.bool opens) ∧
    (opens = true ↔ ∃ option ∈ options, Opens option)
  change : ∃ kind, merged.member? "change" = some (.integer kind) ∧
    IsGreatest {kind | kind = 0 ∨ ∃ option ∈ options, HasKind option kind} kind
  willSave : ∀ value, merged.member? "willSave" = some value ↔
    value = .bool true ∧ ∃ option ∈ options, Sets "willSave" option
  willSaveWaitUntil : ∀ value, merged.member? "willSaveWaitUntil" = some value ↔
    value = .bool true ∧ ∃ option ∈ options, Sets "willSaveWaitUntil" option
  save : (∃ wishes, merged.member? "save" = some wishes) ↔ ∃ option ∈ options, Saves option
  saveText : ∀ wishes, merged.member? "save" = some wishes →
    ∃ text, wishes.member? "includeText" = some (.bool text) ∧
      (text = true ↔ ∃ option ∈ options, SavesText option)

theorem SyncTotal.Collects.jointSync
    {options : List Json} {total : SyncTotal} (h : Collects options total) :
    JointSync options total.toJson := by
  constructor
  case openClose => exact ⟨_, member?_openClose total, h.openClose⟩
  case change => exact ⟨_, member?_change total, h.change⟩
  case willSave =>
    intro value
    rw [member?_willSave, ← h.willSave, Option.ite_none_right_eq_some, Option.some_inj, and_comm,
      eq_comm]
  case willSaveWaitUntil =>
    intro value
    rw [member?_willSaveWaitUntil, ← h.willSaveWaitUntil, Option.ite_none_right_eq_some,
      Option.some_inj, and_comm, eq_comm]
  case save =>
    rw [member?_save, ← h.save, ← Option.isSome_iff_exists, Option.isSome_map]
  case saveText =>
    intro wishes hwishes
    rw [member?_save] at hwishes
    obtain ⟨text, htext, rfl⟩ := Option.map_eq_some_iff.mp hwishes
    refine ⟨text, rfl, ?_⟩
    rw [← h.saveText, htext, Option.some_inj]

theorem mergeSync_of_ne_nil {options : List Json} (h : options ≠ []) :
    mergeSync options = some (options.foldl SyncTotal.add {}).toJson := by
  rw [mergeSync, List.isEmpty_eq_false_iff.mpr h]
  rfl

/-- Sync options may be joined in any order, and in parts.  Joined, they have exactly what some of
them ask for, with the largest kind of change. -/
theorem sync_options_join (options : List Json) :
    (∀ permuted, options.Perm permuted → mergeSync permuted = mergeSync options) ∧
      (mergeSync options = none ↔ options = []) ∧
      (options ≠ [] → ∃ merged, mergeSync options = some merged ∧ JointSync options merged ∧
        ∀ others, others ≠ [] → ∃ joined, mergeSync others = some joined ∧
          mergeSync [merged, joined] = mergeSync (options ++ others)) := by
  refine ⟨fun permuted h => (mergeSync_perm h).symm, ?_, ?_⟩
  · simp [mergeSync]
  · intro hne
    have hcollects := SyncTotal.Collects.foldl_add options
    refine ⟨_, mergeSync_of_ne_nil hne, hcollects.jointSync, ?_⟩
    intro others hothers
    refine ⟨_, mergeSync_of_ne_nil hothers, ?_⟩
    rw [mergeSync_of_ne_nil (List.cons_ne_nil _ _),
      mergeSync_of_ne_nil (List.append_ne_nil_of_left_ne_nil hne others), List.foldl_append,
      SyncTotal.foldl_add_eq_join hcollects.change_nonneg,
      SyncTotal.foldl_add_toJson hcollects (SyncTotal.Collects.foldl_add others)]

/-- Options of four handlers: a kind of change on its own, one that is none, and two objects with
wishes about saves. -/
def assortedSync : List Json :=
  [.integer 1, .string "full", .object [("change", .integer (-3)), ("save", .bool true)],
    .object [("save", .object [("includeText", .bool true)]), ("willSave", .bool true)]]

/-- Joined in two parts, of which the first writes a bare number as an object. -/
theorem assortedSync_joined :
    assortedSync.Perm assortedSync.reverse ∧
      mergeSync assortedSync.reverse =
        some (.object [("change", .integer 1), ("openClose", .bool true),
          ("save", .object [("includeText", .bool true)]), ("willSave", .bool true)]) ∧
      ∃ left right, mergeSync (assortedSync.take 2) = some left ∧
        mergeSync (assortedSync.drop 2) = some right ∧
        mergeSync [left, right] = mergeSync assortedSync := by
  have hperm : assortedSync.Perm assortedSync.reverse := (List.reverse_perm assortedSync).symm
  obtain ⟨hpermuted, -, -⟩ := sync_options_join assortedSync
  obtain ⟨-, -, hparts⟩ := sync_options_join (assortedSync.take 2)
  obtain ⟨left, hleft, -, hjoin⟩ := hparts (by decide)
  obtain ⟨right, hright, hjoined⟩ := hjoin (assortedSync.drop 2) (by decide)
  refine ⟨hperm, ?_, left, right, hleft, hright, hjoined⟩
  rw [hpermuted _ hperm]
  decide +kernel

end Switchboard.Options
