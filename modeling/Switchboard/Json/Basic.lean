import Switchboard.Binary64
import Switchboard.Ordered

/-!
# JSON values

The values that messages, options and client capabilities are made of.  Whole
numbers and binary fractions are kept apart, and the members of an object form
a table.  A value read from a text first keeps the members as they were written;
`canonical` turns them into tables.  Equality of values is decidable; `agrees` is
the coarser comparison under which the two zeros are one number.
-/

namespace Switchboard

/-- A JSON value.  Object members are listed as a table, by increasing key. -/
inductive Json where
  | null
  | bool (value : Bool)
  | integer (value : Int)
  | fraction (value : Binary64)
  | string (value : String)
  | array (items : List Json)
  | object (members : List (String × Json))
  deriving Repr, Inhabited

namespace Json

/-! ## Equality -/

mutual

/-- Structural equality as a test. -/
def same : Json → Json → Bool
  | .null, .null => true
  | .bool a, .bool b => a == b
  | .integer a, .integer b => a == b
  | .fraction a, .fraction b => decide (a = b)
  | .string a, .string b => a == b
  | .array xs, .array ys => sameItems xs ys
  | .object ms, .object ns => sameMembers ms ns
  | _, _ => false

/-- Structural equality of two lists of values. -/
def sameItems : List Json → List Json → Bool
  | [], [] => true
  | x :: xs, y :: ys => same x y && sameItems xs ys
  | _, _ => false

/-- Structural equality of two lists of members. -/
def sameMembers : List (String × Json) → List (String × Json) → Bool
  | [], [] => true
  | (k, x) :: ms, (l, y) :: ns => k == l && same x y && sameMembers ms ns
  | _, _ => false

end

mutual

theorem same_iff : ∀ a b : Json, same a b = true ↔ a = b
  | .null, b => by cases b <;> simp [same]
  | .bool _, b => by cases b <;> simp [same]
  | .integer _, b => by cases b <;> simp [same]
  | .fraction _, b => by cases b <;> simp [same]
  | .string _, b => by cases b <;> simp [same]
  | .array xs, b => by
      cases b with
      | array ys => simp [same, sameItems_iff xs ys]
      | _ => simp [same]
  | .object ms, b => by
      cases b with
      | object ns => simp [same, sameMembers_iff ms ns]
      | _ => simp [same]

theorem sameItems_iff : ∀ xs ys : List Json, sameItems xs ys = true ↔ xs = ys
  | [], ys => by cases ys <;> simp [sameItems]
  | x :: xs, ys => by
      cases ys with
      | nil => simp [sameItems]
      | cons y ys => simp [sameItems, same_iff x y, sameItems_iff xs ys]

theorem sameMembers_iff : ∀ ms ns : List (String × Json), sameMembers ms ns = true ↔ ms = ns
  | [], ns => by cases ns <;> simp [sameMembers]
  | (k, x) :: ms, ns => by
      cases ns with
      | nil => simp [sameMembers]
      | cons entry ns =>
          obtain ⟨l, y⟩ := entry
          simp [sameMembers, same_iff x y, sameMembers_iff ms ns]

end

instance : DecidableEq Json := fun a b => decidable_of_iff _ (same_iff a b)

mutual

/-- The value with every negative zero replaced by zero. -/
def unsigned : Json → Json
  | .fraction x => if x.significand = 0 then .fraction ⟨false, 0, 0⟩ else .fraction x
  | .array items => .array (unsignedItems items)
  | .object members => .object (unsignedMembers members)
  | other => other

/-- `unsigned` on every item. -/
def unsignedItems : List Json → List Json
  | [] => []
  | x :: xs => unsigned x :: unsignedItems xs

/-- `unsigned` on every member. -/
def unsignedMembers : List (String × Json) → List (String × Json)
  | [] => []
  | (k, x) :: ms => (k, unsigned x) :: unsignedMembers ms

end

/-- Whether two values are equal as data: numbers compare by value, so the two
zeros agree. -/
def agrees (a b : Json) : Bool := decide (a.unsigned = b.unsigned)

/-! ## Construction and access -/

/-- An object with the given members; of several with one key the last stays. -/
def ofMembers (members : List (String × Json)) : Json := .object (Table.ofList members)

mutual

/-- The value with the members of every object as a table. -/
def canonical : Json → Json
  | .array items => .array (canonicalItems items)
  | .object members => .ofMembers (canonicalMembers members)
  | other => other

/-- `canonical` on every item. -/
def canonicalItems : List Json → List Json
  | [] => []
  | x :: xs => canonical x :: canonicalItems xs

/-- `canonical` on every member. -/
def canonicalMembers : List (String × Json) → List (String × Json)
  | [] => []
  | (k, x) :: ms => (k, canonical x) :: canonicalMembers ms

end

/-- An array of strings. -/
def ofTexts (texts : List String) : Json := .array (texts.map .string)

/-- A natural number. -/
def ofNat (n : Nat) : Json := .integer n

/-- A string, or null for none. -/
def ofText? : Option String → Json
  | none => .null
  | some text => .string text

/-- The member of an object under a key; other values have no members. -/
def member? : Json → String → Option Json
  | .object members, key => Table.find? members key
  | _, _ => none

/-- The truth value, if it is one. -/
def bool? : Json → Option Bool
  | .bool b => some b
  | _ => none

/-- The string, if it is one. -/
def text? : Json → Option String
  | .string s => some s
  | _ => none

/-- The items, if it is an array. -/
def items? : Json → Option (List Json)
  | .array items => some items
  | _ => none

/-- Whether the value is an object. -/
def isObject : Json → Bool
  | .object _ => true
  | _ => false

/-- The whole number, if it is one from `low` to `high`. -/
def integerWithin? (low high : Int) : Json → Option Int
  | .integer n => if low ≤ n ∧ n ≤ high then some n else none
  | _ => none

/-- The whole number, if it fits a signed word of 32 bits. -/
def integer32? : Json → Option Int := integerWithin? (-2147483648) 2147483647

/-- The whole number, if it fits a signed word of 64 bits. -/
def integer64? : Json → Option Int :=
  integerWithin? (-9223372036854775808) 9223372036854775807

/-- The whole number, if it fits an unsigned word of 32 bits. -/
def natural32? (j : Json) : Option Nat := (integerWithin? 0 4294967295 j).map Int.toNat

/-- The items read one by one; one that does not read spoils the list. -/
def listOf? {α : Type} (read : Json → Option α) : Json → Option (List α)
  | .array items => items.mapM read
  | _ => none

@[simp] theorem member?_object (members : List (String × Json)) (key : String) :
    (Json.object members).member? key = Table.find? members key := rfl

/-- A text stands in a value at the end of a path of member names. -/
inductive TextAt : Json → List String → String → Prop where
  | here (text : String) : TextAt (.string text) [] text
  | member {j value : Json} {name : String} {path : List String} {text : String} :
      j.member? name = some value → TextAt value path text → TextAt j (name :: path) text

theorem textAt_iff {j : Json} {path : List String} {text : String} :
    TextAt j path text ↔ (path.foldlM member? j).bind text? = some text := by
  induction path generalizing j with
  | nil =>
      constructor
      · rintro ⟨⟩
        rfl
      · intro h
        cases j with
        | string own =>
            cases h
            exact .here text
        | _ => cases h
  | cons name path ih =>
      rw [List.foldlM_cons, Option.bind_eq_bind, Option.bind_assoc, Option.bind_eq_some_iff]
      constructor
      · rintro (_ | ⟨hvalue, htext⟩)
        exact ⟨_, hvalue, ih.mp htext⟩
      · rintro ⟨value, hvalue, htext⟩
        exact .member hvalue (ih.mpr htext)

end Json

end Switchboard
