/-!
# Percent escapes

Reading a text in which bytes may be written as a percent sign and two
hexadecimal figures.
-/

namespace Switchboard.Uri

/-- The value of a byte that is a hexadecimal figure. -/
def hexByte? (b : UInt8) : Option UInt8 :=
  if 0x30 ≤ b ∧ b ≤ 0x39 then some (b - 0x30)
  else if 0x41 ≤ b ∧ b ≤ 0x46 then some (b - 0x37)
  else if 0x61 ≤ b ∧ b ≤ 0x66 then some (b - 0x57)
  else none

/-- The bytes a text stands for.  A percent sign that is not followed by two
hexadecimal figures stands for itself. -/
def unescape : List UInt8 → List UInt8
  | b :: high :: low :: rest =>
      if b = 0x25 then
        match hexByte? high, hexByte? low with
        | some h, some l => (h * 16 + l) :: unescape rest
        | _, _ => b :: unescape (high :: low :: rest)
      else b :: unescape (high :: low :: rest)
  | b :: rest => b :: unescape rest
  | [] => []

/-- The text without its escapes, or as it is when that is no text. -/
def percentDecode (text : String) : String :=
  let bytes := unescape text.toUTF8.toList
  (String.fromUTF8? ⟨bytes.toArray⟩).getD text

end Switchboard.Uri
