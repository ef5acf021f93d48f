import Switchboard.Json.Parser
import Switchboard.Message

/-!
# Frames

Messages on a byte stream.  A frame is a block of header lines, one of which
gives the length of the body in bytes, a blank line, and the body, which is the
text of one message.
-/

namespace Switchboard

namespace Frame

/-- The bytes of a text. -/
def bytesOf (text : String) : List UInt8 := text.toUTF8.toList

/-- The text written by some bytes, if they are text. -/
def textOf? (bytes : List UInt8) : Option String := String.fromUTF8? ⟨bytes.toArray⟩

/-- Splits off the first line, with its line feed; nothing if no line is complete. -/
def takeLine : List UInt8 → Option (List UInt8 × List UInt8)
  | [] => none
  | b :: rest =>
      if b = 0x0a then some ([b], rest)
      else (takeLine rest).map fun (line, left) => (b :: line, left)

theorem takeLine_length {bytes line left : List UInt8} (h : takeLine bytes = some (line, left)) :
    left.length < bytes.length := by
  induction bytes generalizing line left with
  | nil => simp [takeLine] at h
  | cons b rest ih =>
      unfold takeLine at h
      split at h
      · simp only [Option.some.injEq, Prod.mk.injEq] at h
        simp [← h.2]
      · obtain ⟨⟨line', left'⟩, hrest, heq⟩ := Option.map_eq_some_iff.1 h
        simp only [Prod.mk.injEq] at heq
        have := ih hrest
        simp only [List.length_cons, ← heq.2]
        omega

/-- Reads a length: decimal figures, with an optional plus sign, below `2 ^ 64`. -/
def readLength? (cs : List Char) : Option Nat :=
  let figures := match cs with
    | '+' :: rest => rest
    | rest => rest
  if figures.isEmpty || !figures.all Char.isDigit then none
  else
    let n := figures.foldl (fun n c => n * 10 + (c.toNat - 48)) 0
    if n < 18446744073709551616 then some n else none

/-- Splits a header line at its first colon followed by a space. -/
def splitHeader : List Char → Option (List Char × List Char)
  | ':' :: ' ' :: rest => some ([], rest)
  | c :: rest => (splitHeader rest).map fun (name, value) => (c :: name, value)
  | [] => none

/-- What a header line says. -/
inductive Header where
  /-- The line that ends the header. -/
  | blank
  /-- The length of the body. -/
  | length (size : Nat)
  /-- Something that is of no interest. -/
  | other
  deriving DecidableEq, Repr

/-- Reads a header line with its end, which has to be a carriage return and a
line feed. -/
def readHeader? (line : List UInt8) : Option Header := do
  let text ← textOf? line
  match text.toList.reverse with
  | '\n' :: '\r' :: reversed =>
      match reversed.reverse with
      | [] => return .blank
      | cs =>
          let (name, value) ← splitHeader cs
          if (String.ofList name).toLower = "content-length" then
            return .length (← readLength? value)
          else return .other
  | _ => none

/-- What the bytes at hand begin with. -/
inductive Next where
  /-- More bytes are needed, at least `missing` of them.  Tells whether the stream
  may end here without fault. -/
  | incomplete (mayEnd : Bool) (missing : Nat)
  /-- The bytes are no frame. -/
  | malformed
  /-- The frame announces a body that no buffer can hold. -/
  | oversized
  /-- A frame with a message, and the bytes after it. -/
  | message (content : Message) (rest : List UInt8)
  deriving DecidableEq, Repr

/-- The least number of bytes that is too large for a buffer. -/
def bufferLimit : Nat := 9223372036854775808

/-- Reads the body of a frame. -/
def takeBody (size : Nat) (bytes : List UInt8) : Next :=
  let body := bytes.take size
  if bufferLimit ≤ size then .oversized
  else if body.length < size then .incomplete false (size - body.length)
  else
    match (textOf? body).bind fun text => (Json.parseAsWritten? text).bind Message.ofJson? with
    | some content => .message content (bytes.drop size)
    | none => .malformed

/-- Reads the rest of a frame, given the length found so far. -/
def takeFrom (size : Option Nat) (bytes : List UInt8) : Next :=
  match h : takeLine bytes with
  | none => .incomplete bytes.isEmpty 1
  | some (line, left) =>
      have : left.length < bytes.length := takeLine_length h
      match readHeader? line with
      | none => .malformed
      | some .blank =>
          match size with
          | some size => takeBody size left
          | none => .malformed
      | some (.length size) => takeFrom (some size) left
      | some .other => takeFrom size left
  termination_by bytes.length

/-- Reads the first frame of a stream. -/
def take (bytes : List UInt8) : Next := takeFrom none bytes

/-- The frame of a message. -/
def write (message : Message) : String :=
  let body := message.wireText
  "Content-Length: " ++ toString body.utf8ByteSize ++ "\r\n\r\n" ++ body

end Frame

end Switchboard
