import Switchboard.Json.Basic

/-!
# Reading JSON text

A reader for JSON text over lists of characters.  Every function takes the text
still to read and returns what it read with the rest.  Containers may be nested
at most 127 deep.  Members are read as they are written; in the value a text
stands for, the last of several with one name stays.
-/

namespace Switchboard.Json.Parser

/-- Blanks between tokens. -/
def isBlank (c : Char) : Bool := c == ' ' || c == '\t' || c == '\n' || c == '\r'

/-- The value of a hexadecimal figure. -/
def hexValue? (c : Char) : Option Nat :=
  if '0' ≤ c ∧ c ≤ '9' then some (c.toNat - 48)
  else if 'a' ≤ c ∧ c ≤ 'f' then some (c.toNat - 87)
  else if 'A' ≤ c ∧ c ≤ 'F' then some (c.toNat - 55)
  else none

/-- The code unit written by four hexadecimal figures. -/
def codeUnit? (a b c d : Char) : Option Nat := do
  return ((← hexValue? a) * 16 + (← hexValue? b)) * 256 + (← hexValue? c) * 16 + (← hexValue? d)

/-- The character a one-letter escape stands for. -/
def shortEscape? (c : Char) : Option Char :=
  if c = '"' ∨ c = '\\' ∨ c = '/' then some c
  else if c = 'b' then some '\x08'
  else if c = 'f' then some '\x0c'
  else if c = 'n' then some '\n'
  else if c = 'r' then some '\r'
  else if c = 't' then some '\t'
  else none

/-- The character of two code units that form a surrogate pair. -/
def pairChar? (high low : Nat) : Option Char :=
  if 0xD800 ≤ high ∧ high < 0xDC00 ∧ 0xDC00 ≤ low ∧ low < 0xE000 then
    some (Char.ofNat (0x10000 + (high - 0xD800) * 1024 + (low - 0xDC00)))
  else none

/-- Reads the rest of a quoted string; `done` holds the characters read so far,
the last one first. -/
def stringBody (done : List Char) : List Char → Option (String × List Char)
  | '"' :: rest => some (String.ofList done.reverse, rest)
  | '\\' :: 'u' :: a :: b :: c :: d :: '\\' :: 'u' :: e :: f :: g :: h :: rest =>
      match codeUnit? a b c d, codeUnit? e f g h with
      | some high, some low =>
          match pairChar? high low with
          | some char => stringBody (char :: done) rest
          | none =>
              if 0xD800 ≤ high ∧ high < 0xE000 then none
              else stringBody (Char.ofNat high :: done) ('\\' :: 'u' :: e :: f :: g :: h :: rest)
      | _, _ => none
  | '\\' :: 'u' :: a :: b :: c :: d :: rest =>
      match codeUnit? a b c d with
      | some unit =>
          if 0xD800 ≤ unit ∧ unit < 0xE000 then none
          else stringBody (Char.ofNat unit :: done) rest
      | none => none
  | '\\' :: c :: rest =>
      match shortEscape? c with
      | some char => stringBody (char :: done) rest
      | none => none
  | c :: rest => if c = '\\' ∨ c.toNat < 32 then none else stringBody (c :: done) rest
  | [] => none
  termination_by cs => cs.length

/-- Takes decimal figures into a significand for as long as it stays below
`2 ^ 64`, and returns the figures that no longer fit. -/
def takeFigures (significand : Nat) : List Char → Nat × List Char
  | [] => (significand, [])
  | c :: rest =>
      let next := significand * 10 + (c.toNat - 48)
      if next < 18446744073709551616 then takeFigures next rest else (significand, c :: rest)

/-- Reads the exponent of a number, if there is one. -/
def exponentPart (cs : List Char) : Option (Int × List Char) :=
  match cs with
  | c :: rest =>
      if c = 'e' ∨ c = 'E' then
        let (minus, rest) := match rest with
          | '-' :: rest => (true, rest)
          | '+' :: rest => (false, rest)
          | rest => (false, rest)
        match rest.span Char.isDigit with
        | ([], _) => none
        | (figures, rest) =>
            let size : Int := (figures.foldl (fun n c => n * 10 + (c.toNat - 48)) 0 : Nat)
            some (if minus then -size else size, rest)
      else some (0, cs)
  | [] => some (0, [])

/-- The whole number with a given sign, or the nearest fraction when it leaves
the signed or unsigned range of 64 bits.  A negative zero is a fraction. -/
def wholeNumber? (negative : Bool) (significand : Nat) : Option Json :=
  if negative then
    if significand = 0 ∨ significand > 9223372036854775808 then
      (Binary64.ofDecimal true significand 0).map .fraction
    else some (.integer (-(significand : Int)))
  else some (.integer significand)

/-- Reads a number after its sign. -/
def number (negative : Bool) (cs : List Char) : Option (Json × List Char) :=
  match cs.span Char.isDigit with
  | ([], _) => none
  | ('0' :: _ :: _, _) => none
  | (figures, rest) =>
      let (significand, dropped) := takeFigures 0 figures
      match rest with
      | '.' :: rest =>
          match rest.span Char.isDigit with
          | ([], _) => none
          | (places, rest) => do
              let (significand, unused) := takeFigures significand places
              let shift : Int := (dropped.length : Int) - (places.length - unused.length : Nat)
              let (exponent, rest) ← exponentPart rest
              let value ← Binary64.ofDecimal negative significand (shift + exponent)
              return (.fraction value, rest)
      | c :: _ =>
          if c = 'e' ∨ c = 'E' then do
            let (exponent, rest) ← exponentPart rest
            let value ← Binary64.ofDecimal negative significand (dropped.length + exponent)
            return (.fraction value, rest)
          else whole significand dropped rest
      | [] => whole significand dropped rest
where
  /-- A number without fraction and exponent. -/
  whole (significand : Nat) (dropped rest : List Char) : Option (Json × List Char) :=
    if dropped.isEmpty then (wholeNumber? negative significand).map (·, rest)
    else (Binary64.ofDecimal negative significand dropped.length).map fun x => (.fraction x, rest)

/-- Reads elements separated by commas up to a closing character, with `first`
for the first of them.  The fuel bounds the number of elements. -/
def elements {α : Type} (element : List Char → Option (α × List Char)) (close : Char) :
    Nat → List Char → Option (List α × List Char)
  | 0, _ => none
  | fuel + 1, cs => do
      let (x, rest) ← element cs
      match rest.dropWhile isBlank with
      | c :: rest =>
          if c = close then return ([x], rest)
          else if c = ',' then do
            let (xs, rest) ← elements element close fuel rest
            return (x :: xs, rest)
          else none
      | [] => none

/-- Reads a container of at most `most` elements after its opening character. -/
def container {α : Type} (element : List Char → Option (α × List Char)) (close : Char)
    (most : Nat) (cs : List Char) : Option (List α × List Char) :=
  match cs.dropWhile isBlank with
  | c :: rest => if c = close then some ([], rest) else elements element close most (c :: rest)
  | [] => none

/-- Reads a member of an object, given how to read its value. -/
def member (value : List Char → Option (Json × List Char)) (cs : List Char) :
    Option ((String × Json) × List Char) :=
  match cs.dropWhile isBlank with
  | '"' :: rest => do
      let (name, rest) ← stringBody [] rest
      match rest.dropWhile isBlank with
      | ':' :: rest => do
          let (x, rest) ← value rest
          return ((name, x), rest)
      | _ => none
  | _ => none

/-- Reads a value that nests at most `depth` containers of at most `most` elements
each. -/
def value (most : Nat) : Nat → List Char → Option (Json × List Char)
  | depth, cs =>
      match cs.dropWhile isBlank with
      | 'n' :: 'u' :: 'l' :: 'l' :: rest => some (.null, rest)
      | 't' :: 'r' :: 'u' :: 'e' :: rest => some (.bool true, rest)
      | 'f' :: 'a' :: 'l' :: 's' :: 'e' :: rest => some (.bool false, rest)
      | '"' :: rest => (stringBody [] rest).map fun (s, rest) => (.string s, rest)
      | '-' :: rest => number true rest
      | '[' :: rest =>
          match depth with
          | 0 => none
          | depth + 1 =>
              (container (value most depth) ']' most rest).map fun (xs, rest) => (.array xs, rest)
      | '\x7b' :: rest =>
          match depth with
          | 0 => none
          | depth + 1 =>
              (container (member (value most depth)) '\x7d' most rest).map fun (ms, rest) =>
                (.object ms, rest)
      | cs => number false cs

end Parser

/-- The value written by a text, if the text is one JSON value and nothing else,
with the members of every object in the order of the text.  No container has more
elements than the text has characters. -/
def parseAsWritten? (s : String) : Option Json :=
  let text := s.toList
  match Parser.value text.length 127 text with
  | some (j, rest) => if rest.all Parser.isBlank then some j else none
  | none => none

/-- The value a text stands for. -/
def parse? (s : String) : Option Json := (parseAsWritten? s).map canonical

end Switchboard.Json
