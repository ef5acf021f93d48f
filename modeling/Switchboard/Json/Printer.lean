import Switchboard.Json.Basic

/-!
# The compact text of a JSON value

One text per value: no blanks, members in table order, characters outside ASCII
as they are, and only quotes, backslashes and control characters escaped.  The
order of these texts, character by character, decides between option values
that cannot be combined.
-/

namespace Switchboard.Json

/-- The hexadecimal figure of a number below sixteen, in lower case. -/
def hexFigure (n : Nat) : Char := Nat.digitChar n

/-- A character inside a quoted string. -/
def escaped (c : Char) : List Char :=
  if c = '"' then ['\\', '"']
  else if c = '\\' then ['\\', '\\']
  else if c = '\x08' then ['\\', 'b']
  else if c = '\t' then ['\\', 't']
  else if c = '\n' then ['\\', 'n']
  else if c = '\x0c' then ['\\', 'f']
  else if c = '\r' then ['\\', 'r']
  else if c.toNat < 32 then
    ['\\', 'u', '0', '0', hexFigure (c.toNat / 16), hexFigure (c.toNat % 16)]
  else [c]

/-- A quoted string. -/
def quotedText (s : String) : List Char := '"' :: (s.toList.flatMap escaped ++ ['"'])

mutual

/-- The compact text of a value. -/
def text : Json → List Char
  | .null => ['n', 'u', 'l', 'l']
  | .bool true => ['t', 'r', 'u', 'e']
  | .bool false => ['f', 'a', 'l', 's', 'e']
  | .integer n => (toString n).toList
  | .fraction x => x.text
  | .string s => quotedText s
  | .array items => '[' :: (itemsText items ++ [']'])
  | .object members => '\x7b' :: (membersText members ++ ['\x7d'])

/-- The items of an array, separated by commas. -/
def itemsText : List Json → List Char
  | [] => []
  | [x] => x.text
  | x :: rest => x.text ++ ',' :: itemsText rest

/-- The members of an object, separated by commas. -/
def membersText : List (String × Json) → List Char
  | [] => []
  | [(k, x)] => quotedText k ++ ':' :: x.text
  | (k, x) :: rest => quotedText k ++ ':' :: (x.text ++ ',' :: membersText rest)

end

/-- The compact text as a string. -/
def compress (j : Json) : String := String.ofList j.text

/-- Whether one text comes no later than another, character by character. -/
def noLater : List Char → List Char → Bool
  | [], _ => true
  | _ :: _, [] => false
  | a :: as, b :: bs => decide (a < b) || (a == b && noLater as bs)

/-- Whether the text of one value comes no later than the text of another. -/
def textLe (a b : Json) : Bool := noLater a.text b.text

end Switchboard.Json
