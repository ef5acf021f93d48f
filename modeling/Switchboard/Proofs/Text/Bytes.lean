import Mathlib.Data.List.Basic
import Mathlib.Data.List.Lex
import Mathlib.Data.String.Basic
import Mathlib.Tactic.Common

/-!
# Texts as bytes

A text is written as the encodings of its characters, one after the other.  A character with a
greater code point has a greater encoding, and no encoding begins another, so texts are ordered
as their bytes are.  The characters of ASCII are bytes themselves.
-/

namespace Switchboard.Text

/-! ## Byte arrays as lists -/

theorem toList_loop (bytes : ByteArray) (i : Nat) (taken : List UInt8) :
    ByteArray.toList.loop bytes i taken = taken.reverse ++ bytes.data.toList.drop i := by
  fun_induction ByteArray.toList.loop bytes i taken with
  | case1 i taken hlt ih =>
      have hi : i < bytes.data.toList.length := by simpa using hlt
      rw [ih, List.drop_eq_getElem_cons hi]
      simp [ByteArray.get!, hlt]
  | case2 i taken hge =>
      rw [List.drop_eq_nil_of_le (by simpa using Nat.le_of_not_lt hge), List.append_nil]

theorem toList_eq_data (bytes : ByteArray) : bytes.toList = bytes.data.toList := by
  rw [ByteArray.toList, toList_loop, List.reverse_nil, List.nil_append, List.drop_zero]

/-- The bytes of a text are the encodings of its characters. -/
theorem toList_toUTF8 (text : String) :
    text.toUTF8.toList = text.toList.flatMap String.utf8EncodeChar := by
  rw [String.toUTF8_eq_toByteArray, ← String.utf8Encode_toList, toList_eq_data]
  exact List.toList_data_toByteArray

/-- A text is read back from its bytes. -/
theorem fromUTF8?_toUTF8 (text : String) :
    String.fromUTF8? ⟨text.toUTF8.toList.toArray⟩ = some text := by
  rw [toList_eq_data, Array.toArray_toList]
  exact dif_pos text.isValidUTF8

/-! ## The order of bytes -/

/-- The encoding of a character comes before that of a greater one, whatever follows. -/
theorem utf8EncodeChar_lt {c d : Char} (h : c < d) (left right : List UInt8) :
    String.utf8EncodeChar c ++ left < String.utf8EncodeChar d ++ right := by
  have hlt : c.val.toNat < d.val.toNat := h
  have hvalid : d.val.toNat < 0x110000 := by
    rcases d.valid with hlow | ⟨-, hhigh⟩
    · exact hlow.trans (by decide)
    · exact hhigh
  -- Either the greater character has the longer encoding, and then the greater first byte, or
  -- the first bytes that differ hold the highest digits that differ.
  simp only [String.utf8EncodeChar]
  split_ifs <;>
    simp only [List.cons_append, List.nil_append, List.cons_lt_cons_iff, UInt8.lt_iff_toNat_lt,
      ← UInt8.toNat_inj, UInt8.toNat_ofNat'] <;>
    simp (disch := omega) only [Nat.mod_eq_of_lt] <;>
    omega

theorem flatMap_utf8EncodeChar_lt {cs ds : List Char} (h : cs < ds) :
    cs.flatMap String.utf8EncodeChar < ds.flatMap String.utf8EncodeChar := by
  induction h with
  | @nil d rest =>
      obtain ⟨first, more, hcons⟩ := List.exists_cons_of_ne_nil (String.utf8EncodeChar_ne_nil (c := d))
      rw [List.flatMap_nil, List.flatMap_cons, hcons]
      exact List.Lex.nil
  | rel hlt => exact utf8EncodeChar_lt hlt _ _
  | cons _ ih => exact List.append_left_lt ih

/-- Texts are ordered by their bytes as they are by their characters. -/
theorem toUTF8_lt_iff (a b : String) : a.toUTF8.toList < b.toUTF8.toList ↔ a < b := by
  have hkept : ∀ a b : String, a < b → a.toUTF8.toList < b.toUTF8.toList := by
    intro a b h
    rw [toList_toUTF8, toList_toUTF8]
    exact flatMap_utf8EncodeChar_lt (String.lt_iff_toList_lt.mp h)
  constructor
  · intro h
    rcases lt_trichotomy a b with hlt | rfl | hgt
    · exact hlt
    · exact absurd h (List.lt_irrefl _)
    · exact absurd h (List.lt_asymm (hkept b a hgt))
  · exact hkept a b

/-! ## Characters of one byte -/

theorem toNat_toUInt8 {c : Char} (h : c.toNat < 128) : c.toUInt8.toNat = c.toNat := by
  have hlt : c.val.toNat < 256 := h.trans (by decide)
  rw [Char.toUInt8, UInt32.toNat_toUInt8, Nat.mod_eq_of_lt hlt]
  rfl

theorem toUInt8_inj {c d : Char} (hc : c.toNat < 128) (hd : d.toNat < 128)
    (h : c.toUInt8 = d.toUInt8) : c = d := by
  rw [← Char.toNat_inj, ← toNat_toUInt8 hc, ← toNat_toUInt8 hd, h]

theorem utf8EncodeChar_of_lt {c : Char} (h : c.toNat < 128) :
    String.utf8EncodeChar c = [c.toUInt8] := by
  have hle : c.val.toNat ≤ 127 := Nat.le_of_lt_succ h
  simp only [String.utf8EncodeChar, if_pos hle]
  rfl

/-- A text of such characters has one byte for each of them. -/
theorem toList_toUTF8_of_lt {text : String} (h : ∀ c ∈ text.toList, c.toNat < 128) :
    text.toUTF8.toList = text.toList.map Char.toUInt8 := by
  rw [toList_toUTF8, List.map_eq_flatMap]
  exact List.flatMap_congr fun c hc => utf8EncodeChar_of_lt (h c hc)

end Switchboard.Text
