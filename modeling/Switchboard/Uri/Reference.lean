/-!
# URI references

A reader for the generic syntax of URI references in ASCII: scheme, authority,
path, query and fragment.  Only the scheme and the path are kept, since they are
all that document filters look at.
-/

namespace Switchboard.Uri

/-! ## Character classes -/

/-- An ASCII letter. -/
def isLetter (c : Char) : Bool := ('a' ≤ c ∧ c ≤ 'z') ∨ ('A' ≤ c ∧ c ≤ 'Z')

/-- An ASCII figure. -/
def isFigure (c : Char) : Bool := '0' ≤ c ∧ c ≤ '9'

/-- A hexadecimal figure. -/
def isHexFigure (c : Char) : Bool := isFigure c || ('a' ≤ c ∧ c ≤ 'f') || ('A' ≤ c ∧ c ≤ 'F')

/-- A character that never needs escaping. -/
def isUnreserved (c : Char) : Bool :=
  isLetter c || isFigure c || c == '-' || c == '.' || c == '_' || c == '~'

/-- A delimiter within a component. -/
def isSubDelimiter (c : Char) : Bool :=
  ['!', '$', '&', '\'', '(', ')', '*', '+', ',', ';', '='].contains c

/-- A character of a scheme. -/
def isSchemeChar (c : Char) : Bool := isLetter c || isFigure c || c == '+' || c == '-' || c == '.'

/-- A character of a registered name. -/
def isNameChar (c : Char) : Bool := isUnreserved c || isSubDelimiter c

/-- A character of the user information. -/
def isUserChar (c : Char) : Bool := isNameChar c || c == ':'

/-- A character of a first path segment without scheme. -/
def isSegmentChar (c : Char) : Bool := isNameChar c || c == '@'

/-- A character of a path. -/
def isPathChar (c : Char) : Bool := isNameChar c || c == ':' || c == '@' || c == '/'

/-- A character of a query or a fragment. -/
def isQueryChar (c : Char) : Bool := isPathChar c || c == '?'

/-! ## Scanning -/

/-- Takes the longest stretch of characters of a class and of percent escapes;
a percent sign without two hexadecimal figures is an error. -/
def scan (allowed : Char → Bool) : List Char → Option (List Char × List Char)
  | '%' :: a :: b :: rest =>
      if isHexFigure a && isHexFigure b then
        (scan allowed rest).map fun (taken, left) => ('%' :: a :: b :: taken, left)
      else none
  | c :: rest =>
      if c = '%' then none
      else if allowed c then (scan allowed rest).map fun (taken, left) => (c :: taken, left)
      else some ([], c :: rest)
  | [] => some ([], [])

/-- Drops an optional port: a colon and any number of figures. -/
def dropPort : List Char → List Char
  | ':' :: rest => rest.dropWhile isFigure
  | rest => rest

/-! ## Hosts written as addresses -/

/-- Splits a text at every occurrence of a character. -/
def splitAt (mark : Char) : List Char → List (List Char)
  | [] => [[]]
  | c :: rest =>
      if c = mark then [] :: splitAt mark rest
      else match splitAt mark rest with
        | piece :: pieces => (c :: piece) :: pieces
        | [] => [[c]]

/-- A decimal number from 0 to 255 without leading zeros. -/
def isOctet (cs : List Char) : Bool :=
  match cs with
  | [] => false
  | ['0'] => true
  | '0' :: _ => false
  | cs =>
      cs.all isFigure && decide (cs.length ≤ 3) &&
        decide (cs.foldl (fun n c => n * 10 + (c.toNat - 48)) 0 ≤ 255)

/-- Four octets joined by points. -/
def isFourOctets (cs : List Char) : Bool :=
  let parts := splitAt '.' cs
  parts.length == 4 && parts.all isOctet

/-- Up to four hexadecimal figures. -/
def isGroup (cs : List Char) : Bool :=
  !cs.isEmpty && decide (cs.length ≤ 4) && cs.all isHexFigure

/-- How many 16-bit groups the pieces of an address stand for; only the last
piece may hold four octets, which count as two groups. -/
def groupCount? (octetsAtEnd : Bool) : List (List Char) → Option Nat
  | [] => some 0
  | [last] =>
      if isGroup last then some 1
      else if octetsAtEnd && isFourOctets last then some 2
      else none
  | piece :: rest => if isGroup piece then (groupCount? octetsAtEnd rest).map (· + 1) else none

/-- The pieces of an address between single colons; an empty text has none. -/
def pieces (cs : List Char) : List (List Char) := if cs.isEmpty then [] else splitAt ':' cs

/-- Splits a text at its first double colon. -/
def splitElision : List Char → Option (List Char × List Char)
  | ':' :: ':' :: rest => some ([], rest)
  | c :: rest => (splitElision rest).map fun (left, right) => (c :: left, right)
  | [] => none

/-- An address of eight groups, or of at most seven with one `::` for the rest. -/
def isAddress (cs : List Char) : Bool :=
  match splitElision cs with
  | none => groupCount? true (pieces cs) == some 8
  | some (left, right) =>
      match groupCount? false (pieces left), groupCount? true (pieces right) with
      | some m, some n => decide (m + n ≤ 7)
      | _, _ => false

/-- Drops an address in brackets, if the text starts with a bracket. -/
def dropAddress? : List Char → Option (List Char)
  | '[' :: rest =>
      match rest.span (· != ']') with
      | (inside, ']' :: after) => if isAddress inside then some after else none
      | _ => none
  | _ => none

/-! ## The components -/

/-- Drops an authority after its two slashes. -/
def dropAuthority? (cs : List Char) : Option (List Char) := do
  let (scanned, rest) ← scan isUserChar cs
  match rest with
  | '@' :: host =>
      match host with
      | '[' :: _ => return dropPort (← dropAddress? host)
      | _ => do
          let (_, after) ← scan isNameChar host
          return dropPort after
  | _ =>
      if scanned.isEmpty then
        match rest with
        | '[' :: _ => return dropPort (← dropAddress? rest)
        | _ => return rest
      else
        match splitAt ':' scanned with
        | [_] => return rest
        | [_, port] => if port.all isFigure then return rest else none
        | _ => none

/-- Whether the text after the path is an optional query and an optional fragment. -/
def endsReference (cs : List Char) : Bool :=
  let afterQuery := match cs with
    | '?' :: rest => (scan isQueryChar rest).map Prod.snd
    | rest => some rest
  match afterQuery with
  | some ('#' :: rest) => (scan isQueryChar rest).map Prod.snd == some []
  | some [] => true
  | _ => false

/-- The path at the start of a text, if a query, a fragment or nothing follows. -/
def takePath? (cs : List Char) : Option (List Char) := do
  let (path, rest) ← scan isPathChar cs
  if endsReference rest then return path else none

/-- The path after an authority: empty, or starting with a slash. -/
def takeRootedPath? (cs : List Char) : Option (List Char) := do
  match ← takePath? cs with
  | [] => return []
  | '/' :: rest => return '/' :: rest
  | _ => none

/-- The path of a reference without scheme and authority: no colon in its first
segment. -/
def takeRelativePath? (cs : List Char) : Option (List Char) := do
  match ← scan isSegmentChar cs with
  | (_, ':' :: _) => none
  | _ => takePath? cs

/-- A reference's scheme, if it has one, and its path, both as written. -/
structure Reference where
  scheme : Option String
  path : String
  deriving DecidableEq, Repr

/-- Reads what follows the scheme and its colon, or a reference without scheme
that starts with an authority. -/
def takeHierarchy? : List Char → Option (List Char)
  | '/' :: '/' :: rest => do takeRootedPath? (← dropAuthority? rest)
  | cs => takePath? cs

/-- Reads a URI reference. -/
def Reference.parse? (text : String) : Option Reference :=
  let cs := text.toList
  match cs.span isSchemeChar with
  | (scheme, ':' :: rest) =>
      match scheme with
      | first :: _ =>
          if isLetter first then
            (takeHierarchy? rest).map fun path =>
              ⟨some (String.ofList scheme), String.ofList path⟩
          else none
      | [] => none
  | ([], '/' :: '/' :: _) => (takeHierarchy? cs).map fun path => ⟨none, String.ofList path⟩
  | _ => (takeRelativePath? cs).map fun path => ⟨none, String.ofList path⟩

/-- Whether a text is a URI reference. -/
def isReference (text : String) : Bool := (Reference.parse? text).isSome

end Switchboard.Uri
