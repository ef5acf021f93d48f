import Mathlib.Data.List.Basic
import Mathlib.Tactic.Common
import Switchboard.Options.Advertised
import Switchboard.Proofs.Options.Merge
import Switchboard.Proofs.Text.Bytes

/-!
# What united commands tell

The united command options of some handlers list every command that one of them lists, once and
in the order of bytes, and report progress when one of them does.  Malformed lists and entries
contribute nothing.  United options are read back as what they were written from, so options may
be united in parts, and the parts united again.
-/

namespace Switchboard.Options

/-! ## The members of a command list -/

/-- A list of strings reads as itself. -/
theorem mapM_text (texts : List String) :
    (texts.map Json.string).mapM (fun item => item.text?.map Json.string) =
      some (texts.map Json.string) := by
  induction texts with
  | nil => rfl
  | cons text rest ih =>
      rw [List.map_cons, List.mapM_cons, ih]
      rfl

/-- The members of a command list in protocol form, with the flag for progress. -/
def commandMembers (commands : List String) (progress : Bool) : List (String × Json) :=
  ("commands", .ofTexts commands) ::
    if progress then [("workDoneProgress", .bool true)] else []

theorem commandMembers_nodup (commands : List String) (progress : Bool) :
    ((commandMembers commands progress).map Prod.fst).Nodup := by
  cases progress <;> simp [commandMembers]

theorem find?_commands (commands : List String) (progress : Bool) :
    Table.find? (Table.ofList (commandMembers commands progress)) "commands" =
      some (.ofTexts commands) :=
  (Table.find?_ofList_eq_some_iff (commandMembers_nodup commands progress) _ _).mpr
    List.mem_cons_self

theorem find?_workDoneProgress (commands : List String) (progress : Bool) :
    Table.find? (Table.ofList (commandMembers commands progress)) "workDoneProgress" =
      if progress then some (.bool true) else none := by
  have hlookup := Table.find?_ofList_eq_some_iff (commandMembers_nodup commands progress)
    "workDoneProgress"
  apply Option.ext
  intro value
  rw [hlookup]
  cases progress <;> simp [commandMembers, eq_comm]

theorem listedCommands_commandMembers (commands : List String) (progress : Bool) :
    listedCommands (.ofMembers (commandMembers commands progress)) = commands := by
  have htexts : (commands.map Json.string).filterMap Json.text? = commands := by
    rw [List.filterMap_map]
    exact List.filterMap_some
  unfold listedCommands Json.ofMembers
  rw [Json.member?_object, find?_commands]
  exact htexts

theorem advertised_commandMembers (commands : List String) (progress : Bool) :
    advertised .executeCommand (.ofMembers (commandMembers commands progress)) =
      some (.ofMembers (commandMembers commands progress)) := by
  have hlist : Json.Shape.read (.list .text) (.ofTexts commands) = some (.ofTexts commands) := by
    simp only [Json.Shape.read, Json.ofTexts, Json.items?, mapM_text, Option.map_some]
  have hflag : Json.Shape.read .flag (.bool true) = some (.bool true) := by
    simp only [Json.Shape.read, Json.bool?, Option.map_some]
  have hfields : Json.Shape.readNamed
      [Json.Shape.needed "commands" (.list .text), Options.progress]
      (Table.ofList (commandMembers commands progress)) =
        some (commandMembers commands progress) := by
    simp only [Json.Shape.needed, Options.progress, Json.Shape.free, Json.Shape.readNamed,
      find?_commands, find?_workDoneProgress, hlist]
    cases progress with
    | false => rfl
    | true =>
        simp only [if_true, hflag]
        rfl
  change (Json.Shape.read (.record false _) (.object _)) = _
  simp only [Json.Shape.read]
  rw [hfields]
  rfl

theorem mergeCommands_eq (options : List Json) :
    mergeCommands options =
      .ofMembers (commandMembers
        (distinctSorted (fun a b => decide (a < b)) (options.flatMap listedCommands))
        (options.any (flag "workDoneProgress"))) := rfl

theorem find?_commandMembers_of_ne
    (commands : List String) (progress : Bool) {name : String}
    (hcommands : name ≠ "commands") (hprogress : name ≠ "workDoneProgress") :
    Table.find? (Table.ofList (commandMembers commands progress)) name = none := by
  apply Option.eq_none_iff_forall_ne_some.mpr
  intro value
  rw [Ne, Table.find?_ofList_eq_some_iff (commandMembers_nodup commands progress)]
  cases progress <;> simp [commandMembers, hcommands, hprogress]

/-! ## Unions of unions -/

/-- An object whose list of commands has the given one among its entries. -/
def Lists (command : String) (option : Json) : Prop :=
  ∃ entries, option.member? "commands" = some (.array entries) ∧ .string command ∈ entries

theorem mem_listedCommands_iff {command : String} {option : Json} :
    command ∈ listedCommands option ↔ Lists command option := by
  have htext : ∀ entry : Json, entry.text? = some command ↔ entry = .string command := by
    intro entry
    cases entry <;> simp [Json.text?]
  rw [listedCommands, Lists, List.mem_filterMap]
  rcases option.member? "commands" with _ | ⟨_ | _ | _ | _ | _ | entries | _⟩ <;>
    simp [Json.items?, htext]

/-- Merged options list what any of the options lists. -/
theorem mem_listedCommands_mergeCommands {options : List Json} {command : String} :
    command ∈ listedCommands (mergeCommands options) ↔
      ∃ option ∈ options, command ∈ listedCommands option := by
  rw [mergeCommands_eq, listedCommands_commandMembers, mem_distinctSorted, List.mem_flatMap]

theorem flag_mergeCommands (options : List Json) :
    flag "workDoneProgress" (mergeCommands options) = options.any (flag "workDoneProgress") := by
  rw [mergeCommands_eq, flag, Json.ofMembers, Json.member?_object, find?_workDoneProgress]
  cases options.any (flag "workDoneProgress") <;> rfl

/-- Options may be united group by group, and the results once more. -/
theorem mergeCommands_map_mergeCommands (groups : List (List Json)) :
    mergeCommands (groups.map mergeCommands) = mergeCommands groups.flatten := by
  apply mergeCommands_congr
  · intro command
    simp only [List.mem_map, List.mem_flatten, exists_exists_and_eq_and,
      mem_listedCommands_mergeCommands]
    tauto
  · rw [List.any_map, List.any_flatten]
    congr 1
    exact funext flag_mergeCommands

/-! ## United options -/

/-- The united options of some options list what some of them list, each command once and by
increasing bytes, report progress if some of them do, and say nothing else. -/
structure CommandUnion (options : List Json) (merged : Json) : Prop where
  commands : ∃ commands, merged.member? "commands" = some (.ofTexts commands) ∧
    (commands.Pairwise fun a b => a.toUTF8.toList < b.toUTF8.toList) ∧
    ∀ command, command ∈ commands ↔ ∃ option ∈ options, Lists command option
  progress : ∀ value, merged.member? "workDoneProgress" = some value ↔
    value = .bool true ∧ ∃ option ∈ options, Sets "workDoneProgress" option
  nothingElse : ∀ name, name ≠ "commands" → name ≠ "workDoneProgress" → merged.member? name = none

theorem commandUnion (options : List Json) : CommandUnion options (mergeCommands options) := by
  rw [mergeCommands_eq]
  constructor
  case commands =>
    refine ⟨_, find?_commands _ _, ?_, ?_⟩
    · have hsorted : (distinctSorted (fun a b => decide (a < b))
          (options.flatMap listedCommands)).Pairwise (· < ·) :=
        pairwise_distinctSorted (fun _ _ => decide_eq_true_iff) _
      exact hsorted.imp fun h => (Text.toUTF8_lt_iff _ _).mpr h
    · intro command
      simp only [mem_distinctSorted, List.mem_flatMap, mem_listedCommands_iff]
  case progress =>
    intro value
    rw [Json.ofMembers, Json.member?_object, find?_workDoneProgress, Option.ite_none_right_eq_some,
      Option.some_inj, List.any_eq_true, and_comm, eq_comm]
    simp only [flag_iff]
  case nothingElse =>
    intro name hcommands hprogress
    exact find?_commandMembers_of_ne _ _ hcommands hprogress

/-- Command options may be united in any order, repeated, and in parts.  United, they list exactly
what some of them list. -/
theorem commands_unite (options : List Json) :
    CommandUnion options (mergeCommands options) ∧
      (∀ others, (∀ option, option ∈ others ↔ option ∈ options) →
        mergeCommands others = mergeCommands options) ∧
      ∀ others, mergeCommands [mergeCommands options, mergeCommands others] =
        mergeCommands (options ++ others) := by
  refine ⟨commandUnion options, fun others h => mergeCommands_eq_of_mem_iff h, ?_⟩
  intro others
  have hgroups := mergeCommands_map_mergeCommands [options, others]
  rwa [List.flatten_cons, List.flatten_cons, List.flatten_nil, List.append_nil] at hgroups

/-- Options of four handlers: two lists that overlap, one of them with an entry that is no string,
a list that is none, and a flag for progress in something that is no object. -/
def assortedCommands : List Json :=
  [.object [("commands", .array [.string "😀", .integer 1, .string "a"])],
    .object [("commands", .array [.string "～", .string "a"]), ("workDoneProgress", .bool true)],
    .object [("commands", .string "b")], .array [.bool true]]

/-- United after they were repeated and reversed, and in two parts.  The tilde comes before the
face by its bytes, though not by 16-bit units. -/
theorem assortedCommands_united :
    (∀ option, option ∈ assortedCommands.reverse ++ assortedCommands ↔
        option ∈ assortedCommands) ∧
      mergeCommands (assortedCommands.reverse ++ assortedCommands) =
        .object [("commands", .array [.string "a", .string "～", .string "😀"]),
          ("workDoneProgress", .bool true)] ∧
      mergeCommands [mergeCommands (assortedCommands.take 1),
          mergeCommands (assortedCommands.drop 1)] =
        mergeCommands assortedCommands := by
  have hsame : ∀ option, option ∈ assortedCommands.reverse ++ assortedCommands ↔
      option ∈ assortedCommands := by
    intro option
    rw [List.mem_append, List.mem_reverse, or_self]
  obtain ⟨-, hrepeated, -⟩ := commands_unite assortedCommands
  obtain ⟨-, -, hparts⟩ := commands_unite (assortedCommands.take 1)
  refine ⟨hsame, ?_, hparts (assortedCommands.drop 1)⟩
  rw [hrepeated _ hsame]
  decide +kernel

end Switchboard.Options
