import Mathlib.Data.List.Basic
import Mathlib.Tactic.Common
import Switchboard.Proofs.Text.Bytes
import Switchboard.Uri.Percent
import Switchboard.Uri.Reference

/-!
# Paths with percent escapes

A path is written in ASCII: a slash stands for itself, an unreserved character may stand for
itself, and any other byte is written as a percent sign with two hexadecimal figures.  Whatever is
written in this way is scanned to its end as a path, and read back as the bytes that were written.
-/

namespace Switchboard.Uri

/-! ## Characters that stand for themselves -/

theorem ne_of_isUnreserved {c d : Char} (h : isUnreserved c = true) (hd : isUnreserved d = false) :
    c ≠ d := by
  rintro rfl
  rw [h] at hd
  cases hd

theorem toNat_lt_of_isUnreserved {c : Char} (h : isUnreserved c = true) : c.toNat < 128 := by
  have hbound : ∀ last : Char, c ≤ last → c.toNat ≤ last.toNat := fun _ hle => hle
  simp only [isUnreserved, isLetter, isFigure, Bool.or_eq_true, decide_eq_true_eq, beq_iff_eq] at h
  rcases h with ((((((⟨-, h⟩ | ⟨-, h⟩) | ⟨-, h⟩) | rfl) | rfl) | rfl) | rfl)
  · exact (hbound _ h).trans_lt (by decide)
  · exact (hbound _ h).trans_lt (by decide)
  · exact (hbound _ h).trans_lt (by decide)
  all_goals decide

/-- A text of unreserved characters. -/
def Unreserved (text : String) : Prop := ∀ c ∈ text.toList, isUnreserved c = true

instance (text : String) : Decidable (Unreserved text) :=
  List.decidableBAll (fun c => isUnreserved c = true) text.toList

/-- A character that stands for itself in a path. -/
def IsPlain (c : Char) : Prop := isUnreserved c = true ∨ c = '/'

theorem IsPlain.toNat_lt {c : Char} (h : IsPlain c) : c.toNat < 128 := by
  rcases h with h | rfl
  · exact toNat_lt_of_isUnreserved h
  · decide

theorem IsPlain.ne_percent {c : Char} (h : IsPlain c) : c ≠ '%' := by
  rcases h with h | rfl
  · exact ne_of_isUnreserved h rfl
  · decide

theorem IsPlain.isPathChar {c : Char} (h : IsPlain c) : isPathChar c = true := by
  rcases h with h | rfl
  · simp [Uri.isPathChar, isNameChar, h]
  · decide

/-! ## Hexadecimal figures -/

/-- A character is the figure of a number below sixteen, in upper or lower case. -/
def IsFigureOf (n : Nat) (c : Char) : Prop :=
  "0123456789ABCDEF".toList[n]? = some c ∨ "0123456789abcdef".toList[n]? = some c

theorem figures_read :
    ∀ figures ∈ ["0123456789ABCDEF".toList, "0123456789abcdef".toList], ∀ n < 16,
      (figures[n]?.all fun c => isHexFigure c && decide (c.toNat < 128) &&
        hexByte? c.toUInt8 == some (UInt8.ofNat n)) = true := by
  decide +kernel

theorem IsFigureOf.reads {n : Nat} {c : Char} (h : IsFigureOf n c) :
    isHexFigure c = true ∧ c.toNat < 128 ∧ hexByte? c.toUInt8 = some (UInt8.ofNat n) := by
  have hreads : ∀ figures ∈ ["0123456789ABCDEF".toList, "0123456789abcdef".toList],
      figures.length = 16 → figures[n]? = some c →
        isHexFigure c = true ∧ c.toNat < 128 ∧ hexByte? c.toUInt8 = some (UInt8.ofNat n) := by
    intro figures hmem hlength hget
    have hlt : n < 16 := by
      rw [← hlength]
      exact (List.getElem?_eq_some_iff.mp hget).1
    have hall := figures_read figures hmem n hlt
    rw [hget, Option.all_some] at hall
    simpa [and_assoc] using hall
  rcases h with h | h
  · exact hreads _ (by simp) rfl h
  · exact hreads _ (by simp) rfl h

/-! ## Scanning -/

variable {allowed : Char → Bool} {cs rest : List Char}

theorem scan_nil : scan allowed [] = some ([], []) := by
  rw [scan]

theorem scan_cons {c : Char} (hpercent : c ≠ '%') :
    scan allowed (c :: rest) =
      if allowed c then (scan allowed rest).map fun (taken, left) => (c :: taken, left)
      else some ([], c :: rest) := by
  rw [scan, if_neg hpercent]
  rintro high low more rfl
  exact absurd rfl hpercent

theorem scan_escape {high low : Char} (hhigh : isHexFigure high = true)
    (hlow : isHexFigure low = true) :
    scan allowed ('%' :: high :: low :: rest) =
      (scan allowed rest).map fun (taken, left) => ('%' :: high :: low :: taken, left) := by
  rw [scan, hhigh, hlow]
  rfl

/-- Scanning stops at a character outside the class. -/
theorem scan_of_not_allowed {c : Char} (hpercent : c ≠ '%') (h : allowed c = false) :
    scan allowed (c :: rest) = some ([], c :: rest) := by
  rw [scan_cons hpercent, h]
  rfl

/-- Unreserved characters are scanned to where the scanning of what follows stops. -/
theorem scan_append_of_unreserved
    (hcs : ∀ c ∈ cs, isUnreserved c = true)
    (hallowed : ∀ c, isUnreserved c = true → allowed c = true)
    (hstop : scan allowed rest = some ([], rest)) : scan allowed (cs ++ rest) = some (cs, rest) := by
  induction cs with
  | nil => exact hstop
  | cons c cs ih =>
      have hc := hcs c List.mem_cons_self
      rw [List.cons_append, scan_cons (ne_of_isUnreserved hc rfl), hallowed c hc,
        ih fun other hother => hcs other (List.mem_cons_of_mem _ hother)]
      rfl

/-! ## Written paths -/

/-- The ways to write some bytes as a path. -/
inductive Escaped : List UInt8 → List Char → Prop where
  | nil : Escaped [] []
  /-- A slash or an unreserved character stands for itself. -/
  | plain {c : Char} {bytes : List UInt8} {text : List Char}
      (isPlain : IsPlain c) (more : Escaped bytes text) : Escaped (c.toUInt8 :: bytes) (c :: text)
  /-- Every byte but the slash may be written as an escape, with figures in either case. -/
  | escape {b : UInt8} {high low : Char} {bytes : List UInt8} {text : List Char}
      (ne_slash : b ≠ '/'.toUInt8) (highFigure : IsFigureOf (b.toNat / 16) high)
      (lowFigure : IsFigureOf (b.toNat % 16) low) (more : Escaped bytes text) :
      Escaped (b :: bytes) ('%' :: high :: low :: text)

namespace Escaped

variable {bytes : List UInt8} {text : List Char}

theorem toNat_lt (h : Escaped bytes text) : ∀ c ∈ text, c.toNat < 128 := by
  induction h with
  | nil => simp
  | plain isPlain _ ih => exact List.forall_mem_cons.mpr ⟨isPlain.toNat_lt, ih⟩
  | escape _ highFigure lowFigure _ ih =>
      obtain ⟨-, hhigh, -⟩ := highFigure.reads
      obtain ⟨-, hlow, -⟩ := lowFigure.reads
      simp only [List.forall_mem_cons]
      exact ⟨by decide, hhigh, hlow, ih⟩

/-- A written path is scanned to its end. -/
theorem scan_append (h : Escaped bytes text) (hstop : scan isPathChar rest = some ([], rest)) :
    scan isPathChar (text ++ rest) = some (text, rest) := by
  induction h with
  | nil => exact hstop
  | plain isPlain _ ih =>
      rw [List.cons_append, scan_cons isPlain.ne_percent, isPlain.isPathChar, ih]
      rfl
  | escape _ highFigure lowFigure _ ih =>
      obtain ⟨hhigh, -, -⟩ := highFigure.reads
      obtain ⟨hlow, -, -⟩ := lowFigure.reads
      rw [List.cons_append, List.cons_append, List.cons_append, scan_escape hhigh hlow, ih]
      rfl

/-- A path that starts with a slash is written with this slash in front. -/
theorem exists_cons_slash (h : Escaped ('/'.toUInt8 :: bytes) text) :
    ∃ more, text = '/' :: more := by
  generalize hfirst : '/'.toUInt8 :: bytes = all at h
  cases h with
  | nil => cases hfirst
  | @plain c _ more isPlain _ =>
      have hslash : '/' = c :=
        Text.toUInt8_inj (by decide) isPlain.toNat_lt (List.cons.inj hfirst).1
      exact ⟨more, by rw [hslash]⟩
  | escape ne_slash _ _ _ => exact absurd (List.cons.inj hfirst).1.symm ne_slash

end Escaped

/-! ## Reading back -/

theorem toUInt8_percent : '%'.toUInt8 = 0x25 := rfl

theorem unescape_cons {b : UInt8} (h : b ≠ '%'.toUInt8) (bytes : List UInt8) :
    unescape (b :: bytes) = b :: unescape bytes := by
  rw [toUInt8_percent] at h
  cases bytes with
  | nil => simp [unescape]
  | cons high bytes =>
      cases bytes with
      | nil => simp [unescape]
      | cons low bytes => rw [unescape, if_neg h]

theorem unescape_escape
    {b high low : UInt8} (hhigh : hexByte? high = some (UInt8.ofNat (b.toNat / 16)))
    (hlow : hexByte? low = some (UInt8.ofNat (b.toNat % 16))) (bytes : List UInt8) :
    unescape ('%'.toUInt8 :: high :: low :: bytes) = b :: unescape bytes := by
  have hvalue : UInt8.ofNat (b.toNat / 16) * 16 + UInt8.ofNat (b.toNat % 16) = b := by
    have hlt : b.toNat < 256 := b.toNat_lt
    rw [← UInt8.toNat_inj]
    simp only [UInt8.toNat_add, UInt8.toNat_mul, UInt8.toNat_ofNat', UInt8.reduceToNat]
    omega
  rw [toUInt8_percent, unescape, if_pos rfl, hhigh, hlow]
  simp only [hvalue]

theorem Escaped.unescape_map {bytes : List UInt8} {text : List Char} (h : Escaped bytes text) :
    unescape (text.map Char.toUInt8) = bytes := by
  induction h with
  | nil => simp [unescape]
  | plain isPlain _ ih =>
      have hpercent := mt (Text.toUInt8_inj isPlain.toNat_lt (by decide)) isPlain.ne_percent
      rw [List.map_cons, unescape_cons hpercent, ih]
  | escape _ highFigure lowFigure _ ih =>
      obtain ⟨-, -, hhigh⟩ := highFigure.reads
      obtain ⟨-, -, hlow⟩ := lowFigure.reads
      rw [List.map_cons, List.map_cons, List.map_cons, unescape_escape hhigh hlow, ih]

/-- A path is read back from all the ways to write its bytes. -/
theorem percentDecode_of_escaped
    {path written : String} (h : Escaped path.toUTF8.toList written.toList) :
    percentDecode written = path := by
  rw [percentDecode, Text.toList_toUTF8_of_lt h.toNat_lt, h.unescape_map,
    Text.fromUTF8?_toUTF8, Option.getD_some]

/-! ## A way to write every path -/

/-- The figure of a number below sixteen in upper case. -/
def figure (n : Nat) : Char := "0123456789ABCDEF".toList.getD n '0'

/-- A byte of a path: the character, if it stands for itself, or an escape. -/
def escapeByte (b : UInt8) : List Char :=
  let c := Char.ofUInt8 b
  if isUnreserved c || c == '/' then [c] else ['%', figure (b.toNat / 16), figure (b.toNat % 16)]

/-- A path with an escape for every byte that cannot stand for itself. -/
def escapePath (path : String) : String := .ofList (path.toUTF8.toList.flatMap escapeByte)

theorem isFigureOf_figure {n : Nat} (h : n < 16) : IsFigureOf n (figure n) := by
  left
  rw [figure, List.getD_eq_getElem?_getD, List.getElem?_eq_getElem h, Option.getD_some]

theorem escaped_escapeByte (b : UInt8) {bytes : List UInt8} {text : List Char}
    (h : Escaped bytes text) : Escaped (b :: bytes) (escapeByte b ++ text) := by
  have hlt : b.toNat < 256 := b.toNat_lt
  have hcode : (Char.ofUInt8 b).toUInt8 = b := UInt8.toUInt8_toUInt32 b
  simp only [escapeByte]
  split
  next hplain =>
    have hself : IsPlain (Char.ofUInt8 b) := by simpa [IsPlain] using hplain
    have hwritten := Escaped.plain hself h
    rwa [hcode] at hwritten
  next hother =>
    refine .escape ?_ (isFigureOf_figure (by omega)) (isFigureOf_figure (by omega)) h
    rintro rfl
    exact hother (by decide)

theorem escaped_escapePath (path : String) :
    Escaped path.toUTF8.toList (escapePath path).toList := by
  rw [escapePath, String.toList_ofList]
  induction path.toUTF8.toList with
  | nil => exact .nil
  | cons b bytes ih => exact escaped_escapeByte b ih

end Switchboard.Uri
