import Switchboard.Json.Basic

/-!
# Records and shapes

How typed values are read from JSON.  A record is an object with named fields,
of which unknown ones are ignored, or an array with exactly its fields in the
order of their declaration.  A `Shape` describes a family of values; reading a
value through a shape gives its canonical form, which keeps only the fields the
shape knows.
-/

namespace Switchboard.Json

/-! ## Fields of a record -/

/-- The field values of a record: by name from an object, by place from an
array of exactly as many items. -/
def fields? (names : List String) : Json → Option (List (Option Json))
  | .object members => some (names.map (Table.find? members))
  | .array items => if items.length = names.length then some (items.map some) else none
  | _ => none

/-- The field values of a record that was read as written: a name that occurs
twice spoils the record, and an array may stop after the first `least` fields. -/
def writtenFields? (names : List String) (least : Nat) : Json → Option (List (Option Json))
  | .object members =>
      if names.any fun name => 2 ≤ (members.filter fun entry => entry.1 == name).length then none
      else some (names.map (Table.find? members))
  | .array items =>
      if least ≤ items.length ∧ items.length ≤ names.length then
        some (items.map some ++ List.replicate (names.length - items.length) none)
      else none
  | _ => none

/-- Reads a field that has to be there. -/
def required {α : Type} (read : Json → Option α) (field : Option Json) : Option α :=
  field.bind read

/-- Reads a field that may be missing or null. -/
def optional {α : Type} (read : Json → Option α) : Option Json → Option (Option α)
  | none => some none
  | some .null => some none
  | some value => (read value).map some

/-- Reads a field that may be missing but not null. -/
def defaulted {α : Type} (fallback : α) (read : Json → Option α) : Option Json → Option α
  | none => some fallback
  | some value => read value

/-! ## Shapes -/

/-- How a record treats a field. -/
inductive Presence where
  /-- The field has to be there. -/
  | needed
  /-- The field may be missing or null, and is then left out. -/
  | free
  /-- The field may be missing or null, and is then written as null. -/
  | kept
  /-- As `free`, and an array may also stop before the field. -/
  | lenient
  deriving DecidableEq, Repr

/-- A family of JSON values. -/
inductive Shape where
  /-- Any value; null stands for none. -/
  | any
  /-- A truth value. -/
  | flag
  /-- A whole number of 32 bits, signed. -/
  | integer32
  /-- A whole number of 32 bits, unsigned. -/
  | natural32
  /-- A string. -/
  | text
  /-- One of the given strings, or an object with it as the one key and null as
  the value. -/
  | word (allowed : List String)
  /-- The tags a client knows: a list of numbers in a record, or a truth value,
  where true stands for the empty list and false for none. -/
  | tags
  /-- An array of values of one shape. -/
  | list (item : Shape)
  /-- A record; `positional` when it may also be written as an array. -/
  | record (positional : Bool) (fields : List (String × Presence × Shape))
  /-- The first shape that reads the value. -/
  | either (alternatives : List Shape)
  deriving Repr

/-- The word that a value stands for. -/
def word? : Json → Option String
  | .string s => some s
  | .object [(key, .null)] => some key
  | _ => none

namespace Shape

/-- A field in the canonical form; null is left out where the field is free. -/
def entry (name : String) : Presence → Json → List (String × Json)
  | .free, .null | .lenient, .null => []
  | _, value => [(name, value)]

/-- The record form of a list of tags. -/
def tagList (tags : List Int) : Json := .object [("valueSet", .array (tags.map .integer))]

/-- Reads the tags a client knows. -/
def readTags : Json → Option Json
  | .bool false => some .null
  | .bool true => some (tagList [])
  | .object members => do
      return tagList (← listOf? integer32? (← Table.find? members "valueSet"))
  | .array [listed] => (listOf? integer32? listed).map tagList
  | _ => none

mutual

/-- The canonical form of a value, if it has the shape. -/
def read : Shape → Json → Option Json
  | .any, j => some j
  | .flag, j => j.bool?.map .bool
  | .integer32, j => j.integer32?.map .integer
  | .natural32, j => j.natural32?.map .ofNat
  | .text, j => j.text?.map .string
  | .tags, j => readTags j
  | .word allowed, j =>
      match j.word? with
      | some s => if s ∈ allowed then some (.string s) else none
      | none => none
  | .list item, j =>
      match j.items? with
      | some items => (items.mapM (read item)).map .array
      | none => none
  | .record positional fields, j =>
      match j with
      | .object members => (readNamed fields members).map .ofMembers
      | .array items => if positional then (readPlaced fields items).map .ofMembers else none
      | _ => none
  | .either alternatives, j => readFirst alternatives j

/-- The known fields of an object. -/
def readNamed : List (String × Presence × Shape) → List (String × Json) →
    Option (List (String × Json))
  | [], _ => some []
  | (name, presence, shape) :: rest, members => do
      let tail ← readNamed rest members
      match presence, Table.find? members name with
      | .needed, none => none
      | .needed, some value => return (name, ← read shape value) :: tail
      | presence, none => return entry name presence .null ++ tail
      | presence, some .null => return entry name presence .null ++ tail
      | presence, some value => return entry name presence (← read shape value) ++ tail

/-- The fields of a record written as an array. -/
def readPlaced : List (String × Presence × Shape) → List Json → Option (List (String × Json))
  | [], [] => some []
  | [], _ :: _ => none
  | (_, presence, _) :: rest, [] => if presence = .lenient then readPlaced rest [] else none
  | (name, presence, shape) :: rest, value :: values => do
      let tail ← readPlaced rest values
      match presence, value with
      | .needed, value => return (name, ← read shape value) :: tail
      | presence, .null => return entry name presence .null ++ tail
      | presence, value => return entry name presence (← read shape value) ++ tail

/-- The reading of the first alternative that fits. -/
def readFirst : List Shape → Json → Option Json
  | [], _ => none
  | shape :: rest, j =>
      match read shape j with
      | some value => some value
      | none => readFirst rest j

end

/-- A record that is written as an object only. -/
def object (fields : List (String × Presence × Shape)) : Shape := .record false fields

/-- A record that may also be written as an array. -/
def struct (fields : List (String × Presence × Shape)) : Shape := .record true fields

/-- A field that may be missing or null. -/
def free (name : String) (shape : Shape) : String × Presence × Shape := (name, .free, shape)

/-- A field that has to be there. -/
def needed (name : String) (shape : Shape) : String × Presence × Shape := (name, .needed, shape)

/-- A field that may be missing or null, and before which an array may stop. -/
def lenient (name : String) (shape : Shape) : String × Presence × Shape := (name, .lenient, shape)

/-- A field that is written as null when it is absent. -/
def kept (name : String) (shape : Shape) : String × Presence × Shape := (name, .kept, shape)

/-- Whether a value has the shape. -/
def admits (shape : Shape) (j : Json) : Bool := (shape.read j).isSome

end Shape

end Switchboard.Json
