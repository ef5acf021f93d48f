import Switchboard.Capability
import Switchboard.Json.Printer

/-!
# Combining options

Several handlers that share a capability are advertised with one options value.
Commands are united, sync options are joined, and any other objects are merged
member by member.  No result depends on the order of the handlers.
-/

namespace Switchboard.Options

/-! ## Objects in general -/

/-- Removes repetitions that stand next to each other. -/
def dropRepeats : List Json → List Json
  | [] => []
  | [x] => [x]
  | x :: y :: rest =>
      if x.agrees y then dropRepeats (x :: rest) else x :: dropRepeats (y :: rest)

/-- The items of two arrays, in the order of their texts, each once. -/
def unite (left right : List Json) : List Json :=
  dropRepeats ((left ++ right).mergeSort Json.textLe)

mutual

/-- Two values combined: objects member by member, arrays by union, truth
values by disjunction.  Of any other two values the one with the later text
stays. -/
def merge (left right : Json) : Json :=
  match left, right with
  | .object ms, .object ns => .object (mergeMembers ms ns)
  | .array xs, .array ys => .array (unite xs ys)
  | .bool a, .bool b => .bool (a || b)
  | a, b => if Json.textLe b a then a else b

/-- The members of the second table merged into the first. -/
def mergeMembers (left : List (String × Json)) : List (String × Json) → List (String × Json)
  | [] => left
  | (key, value) :: rest =>
      let value := match Table.find? left key with
        | some existing => merge existing value
        | none => value
      mergeMembers (Table.insert key value left) rest

end

/-- The objects among some options merged into one, if there are any. -/
def mergeObjects (options : List Json) : Option Json :=
  match options.filter Json.isObject with
  | [] => none
  | first :: rest => some (rest.foldl merge first)

/-! ## Commands -/

/-- The command names an options value lists. -/
def listedCommands (option : Json) : List String :=
  (((option.member? "commands").bind Json.items?).getD []).filterMap Json.text?

/-- Whether a member of an options value is true. -/
def flag (name : String) (option : Json) : Bool :=
  ((option.member? name).bind Json.bool?).getD false

/-- The union of the command lists, sorted, with the flag for progress if some
options set it. -/
def mergeCommands (options : List Json) : Json :=
  let commands := distinctSorted (fun a b => decide (a < b)) (options.flatMap listedCommands)
  let progress := if options.any (flag "workDoneProgress")
    then [("workDoneProgress", Json.bool true)] else []
  .ofMembers (("commands", .ofTexts commands) :: progress)

/-! ## Document synchronization -/

/-- The joint sync options of some handlers. -/
structure SyncTotal where
  openClose : Bool := false
  change : Int := 0
  willSave : Bool := false
  willSaveWaitUntil : Bool := false
  /-- Whether saves are announced, and if so whether with the text. -/
  save : Option Bool := none
  deriving DecidableEq, Repr

namespace SyncTotal

/-- Whether options announce saves, and if so whether with the text. -/
def saveOf (option : Json) : Option Bool :=
  match option.member? "save" with
  | some (.bool true) => some false
  | some (.object members) => some (flag "includeText" (.object members))
  | _ => none

/-- Two wishes about saves combined. -/
def joinSave : Option Bool → Option Bool → Option Bool
  | none, wish => wish
  | wish, none => wish
  | some a, some b => some (a || b)

/-- The total with one more options value.  A number is a kind of change, with
open and close notifications; anything but a number or an object is ignored. -/
def add (total : SyncTotal) (option : Json) : SyncTotal :=
  match option with
  | .integer _ | .fraction _ =>
      { total with
        openClose := true
        change := max total.change (option.integer64?.getD 0) }
  | .object members =>
      let option := Json.object members
      { openClose := total.openClose || flag "openClose" option
        change := max total.change (((option.member? "change").bind Json.integer64?).getD 0)
        willSave := total.willSave || flag "willSave" option
        willSaveWaitUntil := total.willSaveWaitUntil || flag "willSaveWaitUntil" option
        save := joinSave total.save (saveOf option) }
  | _ => total

/-- A total as sync options. -/
def toJson (total : SyncTotal) : Json :=
  .ofMembers
    ([("openClose", .bool total.openClose), ("change", .integer total.change)] ++
      (if total.willSave then [("willSave", .bool true)] else []) ++
      (if total.willSaveWaitUntil then [("willSaveWaitUntil", .bool true)] else []) ++
      (total.save.toList.map fun includeText =>
        ("save", Json.ofMembers [("includeText", .bool includeText)])))

end SyncTotal

/-- The joint sync options, unless there are none to join. -/
def mergeSync (options : List Json) : Option Json :=
  if options.isEmpty then none else some (options.foldl SyncTotal.add {}).toJson

/-! ## By capability -/

/-- The options of several handlers of a capability combined into one value. -/
def reduce (capability : Capability) (options : List Json) : Option Json :=
  match capability with
  | .executeCommand => some (mergeCommands options)
  | .textDocumentSync => mergeSync options
  | _ => mergeObjects options

end Switchboard.Options
