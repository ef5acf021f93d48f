/-!
# Lines and positions

How a text falls into lines, and which character a position in UTF-16 code
units stands for.  Lines end at a line feed, a carriage return, the two
together, and at the other mandatory breaks of Unicode.
-/

namespace Switchboard.Text

/-- Whether a character ends a line. -/
def isBreak (c : Char) : Bool :=
  c == '\n' || c == '\r' || c == '\x0b' || c == '\x0c' || c == '\u0085' || c == '\u2028' ||
    c == '\u2029'

/-- The lines of a text, each with the break that ends it. -/
def lines : List Char → List (List Char)
  | [] => [[]]
  | '\r' :: '\n' :: rest => ['\r', '\n'] :: lines rest
  | c :: rest =>
      if isBreak c then [c] :: lines rest
      else match lines rest with
        | line :: others => (c :: line) :: others
        | [] => [[c]]

/-- The number of lines of a text. -/
def lineCount (text : List Char) : Nat := (lines text).length

/-- The number of UTF-16 code units of a character. -/
def units (c : Char) : Nat := if c.toNat < 0x10000 then 1 else 2

/-- The number of whole characters that fit into a number of code units. -/
def charsWithin : List Char → Nat → Nat
  | [], _ => 0
  | c :: rest, count => if units c ≤ count then 1 + charsWithin rest (count - units c) else 0

/-- A line without the line feeds and carriage returns at its end. -/
def trimEnd (line : List Char) : List Char :=
  (line.reverse.dropWhile fun c => c == '\n' || c == '\r').reverse

/-- A place in a text: a line and an offset in UTF-16 code units. -/
structure Position where
  line : Nat
  character : Nat
  deriving DecidableEq, Repr

/-- The number of characters before a position.  A position beyond a line's end
stands for that end, one beyond the last line for the end of the text, and one
inside a surrogate pair for the start of its character. -/
def charIndex (text : List Char) (position : Position) : Nat :=
  match (lines text)[position.line]? with
  | none => text.length
  | some line =>
      ((lines text).take position.line).flatten.length +
        charsWithin (trimEnd line) position.character

theorem lines_ne_nil (text : List Char) : lines text ≠ [] := by
  fun_induction lines text <;> simp_all

theorem flatten_lines (text : List Char) : (lines text).flatten = text := by
  fun_induction lines text <;> simp_all

end Switchboard.Text
