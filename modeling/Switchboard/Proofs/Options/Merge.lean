import Mathlib.Data.List.Perm.Basic
import Mathlib.Data.String.Basic
import Mathlib.Tactic.Common
import Switchboard.Options.Merge
import Switchboard.Proofs.Ordered

/-!
# Combining options in any order

Commands are united as sets.  Sync options are joined field by field, by
disjunctions and maxima, so they may be joined in any order.  These are all the
options that several handlers of an advertised capability have combined.
-/

namespace Switchboard.Options

/-- An object whose member under the name is true. -/
def Sets (name : String) (option : Json) : Prop := option.member? name = some (.bool true)

theorem flag_iff (name : String) (option : Json) : flag name option = true ↔ Sets name option := by
  rw [flag, Sets]
  rcases option.member? name with _ | ⟨_ | value | _ | _ | _ | _ | _⟩ <;> simp [Json.bool?]

/-! ## Commands -/

/-- United commands depend on nothing but what is listed and whether the flag for progress is
set. -/
theorem mergeCommands_congr
    {options others : List Json}
    (hcommands : ∀ command, (∃ option ∈ options, command ∈ listedCommands option) ↔
      ∃ option ∈ others, command ∈ listedCommands option)
    (hprogress : options.any (flag "workDoneProgress") = others.any (flag "workDoneProgress")) :
    mergeCommands options = mergeCommands others := by
  have hsorted : distinctSorted (fun a b => decide (a < b)) (options.flatMap listedCommands) =
      distinctSorted (fun a b => decide (a < b)) (others.flatMap listedCommands) := by
    apply distinctSorted_congr
    · intro a b
      exact decide_eq_true_iff
    · intro command
      rw [List.mem_flatMap, List.mem_flatMap, hcommands]
  rw [mergeCommands, mergeCommands, hsorted, hprogress]

/-- Neither the order of the options nor their repetition matters. -/
theorem mergeCommands_eq_of_mem_iff
    {options others : List Json} (h : ∀ option, option ∈ options ↔ option ∈ others) :
    mergeCommands options = mergeCommands others := by
  apply mergeCommands_congr
  · intro command
    simp only [h]
  · rw [Bool.eq_iff_iff, List.any_eq_true, List.any_eq_true]
    simp only [h]

theorem mergeCommands_perm {options permuted : List Json} (h : options.Perm permuted) :
    mergeCommands options = mergeCommands permuted :=
  mergeCommands_eq_of_mem_iff fun _ => h.mem_iff

/-! ## Document synchronization -/

namespace SyncTotal

/-- Two totals joined field by field. -/
def join (total other : SyncTotal) : SyncTotal :=
  { openClose := total.openClose || other.openClose
    change := max total.change other.change
    willSave := total.willSave || other.willSave
    willSaveWaitUntil := total.willSaveWaitUntil || other.willSaveWaitUntil
    save := joinSave total.save other.save }

/-- What a number or an object asks for. -/
def asked? (option : Json) : Option SyncTotal :=
  match option with
  | .integer _ | .fraction _ =>
      some { openClose := true, change := option.integer64?.getD 0 }
  | .object members =>
      let option := Json.object members
      some
        { openClose := flag "openClose" option
          change := ((option.member? "change").bind Json.integer64?).getD 0
          willSave := flag "willSave" option
          willSaveWaitUntil := flag "willSaveWaitUntil" option
          save := saveOf option }
  | _ => none

theorem joinSave_none (wish : Option Bool) : joinSave wish none = wish := by
  cases wish <;> rfl

theorem joinSave_right_comm (first second third : Option Bool) :
    joinSave (joinSave first second) third = joinSave (joinSave first third) second := by
  cases first with
  | none =>
      cases second <;> cases third <;> simp [joinSave, Bool.or_comm]
  | some wish =>
      cases second <;> cases third <;> simp [joinSave, Bool.or_right_comm]

theorem join_right_comm (total first second : SyncTotal) :
    (total.join first).join second = (total.join second).join first := by
  simp only [join, SyncTotal.mk.injEq]
  exact ⟨Bool.or_right_comm _ _ _, max_right_comm _ _ _, Bool.or_right_comm _ _ _,
    Bool.or_right_comm _ _ _, joinSave_right_comm _ _ _⟩

theorem add_eq (total : SyncTotal) (option : Json) :
    total.add option = (asked? option).elim total total.join := by
  cases option with
  | integer value => simp [add, asked?, join, joinSave_none]
  | fraction value => simp [add, asked?, join, joinSave_none]
  | _ => rfl

theorem add_right_comm (total : SyncTotal) (first second : Json) :
    (total.add first).add second = (total.add second).add first := by
  rw [add_eq, add_eq total first, add_eq (total.add second), add_eq total second]
  cases asked? first with
  | none => rfl
  | some left =>
      cases asked? second with
      | none => rfl
      | some right => exact join_right_comm total left right

end SyncTotal

theorem mergeSync_perm {options permuted : List Json} (h : options.Perm permuted) :
    mergeSync options = mergeSync permuted := by
  have htotal : options.foldl SyncTotal.add {} = permuted.foldl SyncTotal.add {} := by
    apply h.foldl_eq'
    intro first _ second _ total
    exact SyncTotal.add_right_comm total first second
  rw [mergeSync, mergeSync, htotal, h.isEmpty_eq]

/-- The shared capabilities that are advertised. -/
theorem shared_cases :
    ∀ capability ∈ Capability.all, capability.ownership = .multi → capability.serverField.isSome →
      capability = .textDocumentSync ∨ capability = .executeCommand := by
  decide +kernel

theorem reduce_perm
    {capability : Capability} {field : String} (hfield : capability.serverField = some field)
    (hshared : capability.ownership = .multi)
    {options permuted : List Json} (h : options.Perm permuted) :
    reduce capability options = reduce capability permuted := by
  rcases shared_cases capability (Capability.mem_all capability) hshared (by simp [hfield]) with
    rfl | rfl
  · exact mergeSync_perm h
  · exact congrArg some (mergeCommands_perm h)

end Switchboard.Options
