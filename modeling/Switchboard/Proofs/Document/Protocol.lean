import Mathlib.Data.List.TakeWhile
import Mathlib.Data.Nat.Find
import Mathlib.Tactic.Common
import Switchboard.Document.Basic

/-!
# Edits as the protocol defines them

The protocol counts a text's lines and columns in its own way, and this file says how
without the functions that the documents use.  A line ends at a line feed, at a carriage
return with a line feed, or at a carriage return alone, and nowhere else.  A column counts
UTF-16 code units and stops at the line's terminator.

Texts are taken apart from the front: a text is either a single line or a line with its
terminator and the rest, and what a position stands for follows this division.
-/

namespace Switchboard.Protocol

open Text (Position)

/-! ## Lines -/

/-- Whether a character stands inside a line and is no part of its terminator. -/
def inLine (c : Char) : Bool := c != '\n' && c != '\r'

/-- The first line of a text, without its terminator. -/
def lineContent (text : List Char) : List Char := text.takeWhile inLine

/-- What follows the first line and its terminator, if the line has one. -/
def afterLine (text : List Char) : Option (List Char) :=
  match text.dropWhile inLine with
  | [] => none
  | '\r' :: '\n' :: rest => some rest
  | _ :: rest => some rest

/-- The text from the start of a line on, if the text has that many lines. -/
def fromLine (text : List Char) : Nat → Option (List Char)
  | 0 => some text
  | line + 1 => (afterLine text).bind fun rest => fromLine rest line

/-! ## Positions -/

/-- The UTF-16 code units of a character: one within the basic plane, a pair of surrogates
beyond it. -/
def utf16 (c : Char) : List UInt16 :=
  if c.toNat < 0x10000 then [c.toNat.toUInt16]
  else
    [(0xD800 + (c.toNat - 0x10000) / 0x400).toUInt16,
      (0xDC00 + (c.toNat - 0x10000) % 0x400).toUInt16]

/-- The length of a text in UTF-16 code units. -/
def codeUnits (text : List Char) : Nat := (text.flatMap utf16).length

/-- The most characters of a line that a number of code units covers.  Beyond the line's end
that is the whole line, and inside a surrogate pair it is what comes before the pair. -/
def column (content : List Char) (character : Nat) : Nat :=
  Nat.findGreatest (fun count => codeUnits (content.take count) ≤ character) content.length

/-- The number of characters before a position. -/
def index (text : List Char) (position : Position) : Nat :=
  match fromLine text position.line with
  | none => text.length
  | some rest => text.length - rest.length + column (lineContent rest) position.character

/-! ## Changes -/

/-- The text after a change: the new text stands in place of what lies between the two
positions, and that is nothing where the range ends before it starts. -/
def changed (text : List Char) (change : ContentChange) : List Char :=
  match change.range with
  | none => change.text.toList
  | some range =>
      let start := index text range.start
      let replaced := index text range.stop - start
      text.take start ++ change.text.toList ++ (text.drop start).drop replaced

/-- The text after several changes, one after the other. -/
def edited (text : List Char) (changes : List ContentChange) : List Char :=
  changes.foldl changed text

/-! ## A text and its first line -/

/-- No line ends within a text. -/
def Unbroken (text : List Char) : Prop := ∀ c ∈ text, inLine c

/-- The terminators of a line, with the text that follows: a carriage return is a terminator
of its own only where no line feed comes after it. -/
inductive Terminator : List Char → List Char → Prop
  | lineFeed (rest : List Char) : Terminator ['\n'] rest
  | both (rest : List Char) : Terminator ['\r', '\n'] rest
  | carriageReturn (rest : List Char) (h : rest.head? ≠ some '\n') : Terminator ['\r'] rest

theorem Terminator.length_pos
    {terminator rest : List Char} (h : Terminator terminator rest) : 0 < terminator.length := by
  cases h <;> simp

theorem Terminator.eq_lineFeed_or_eq_carriageReturn
    {terminator rest : List Char} (h : Terminator terminator rest) :
    ∀ c ∈ terminator, c = '\n' ∨ c = '\r' := by
  cases h <;> simp

theorem Terminator.append
    {terminator rest more : List Char} (h : Terminator terminator rest)
    (hmore : ¬more.head? = some '\n') : Terminator terminator (rest ++ more) := by
  cases h with
  | lineFeed => exact .lineFeed _
  | both => exact .both _
  | carriageReturn _ hnext =>
      apply Terminator.carriageReturn
      cases rest with
      | nil => exact hmore
      | cons c later => exact hnext

/-- What stands at the front of a text that does not start inside a line. -/
theorem exists_terminator {c : Char} (hc : inLine c = false) (more : List Char) :
    ∃ terminator rest, c :: more = terminator ++ rest ∧ Terminator terminator rest := by
  by_cases hfeed : c = '\n'
  · exact ⟨['\n'], more, by rw [hfeed]; rfl, .lineFeed more⟩
  · have hreturn : c = '\r' := by simpa [inLine, hfeed] using hc
    subst hreturn
    by_cases hnext : more.head? = some '\n'
    · obtain ⟨rest, rfl⟩ := List.head?_eq_some_iff.mp hnext
      exact ⟨['\r', '\n'], rest, rfl, .both rest⟩
    · exact ⟨['\r'], more, rfl, .carriageReturn more hnext⟩

/-- A text is one line without a terminator, or a line with a terminator and the rest. -/
theorem line_cases (text : List Char) :
    Unbroken text ∨
      ∃ content terminator rest,
        text = content ++ (terminator ++ rest) ∧ Unbroken content ∧ Terminator terminator rest := by
  have hcontent : Unbroken (text.takeWhile inLine) := fun c hc => List.mem_takeWhile_imp hc
  have hjoin : text = text.takeWhile inLine ++ text.dropWhile inLine :=
    List.takeWhile_append_dropWhile.symm
  cases hmore : text.dropWhile inLine with
  | nil =>
      rw [hmore, List.append_nil] at hjoin
      exact .inl (hjoin ▸ hcontent)
  | cons c more =>
      have hc : inLine c = false := by
        have hne : text.dropWhile inLine ≠ [] := by simp [hmore]
        simpa [hmore] using List.head_dropWhile_not inLine hne
      obtain ⟨terminator, rest, hsplit, hterminator⟩ := exists_terminator hc more
      rw [hmore, hsplit] at hjoin
      exact .inr ⟨_, terminator, rest, hjoin, hcontent, hterminator⟩

/-- What holds of a single line, and of a line with the rest if it holds of the rest, holds of
every text. -/
theorem line_induction {motive : List Char → Prop}
    (unbroken : ∀ text, Unbroken text → motive text)
    (line : ∀ content terminator rest, Unbroken content → Terminator terminator rest →
      motive rest → motive (content ++ (terminator ++ rest)))
    (text : List Char) : motive text := by
  -- The rest is shorter than the text, for a terminator is not empty.
  induction hlength : text.length using Nat.strong_induction_on generalizing text with
  | h length ih =>
      rcases line_cases text with h | ⟨content, terminator, rest, rfl, hcontent, hterminator⟩
      · exact unbroken text h
      · have hpos := hterminator.length_pos
        simp only [List.length_append] at hlength
        exact line content terminator rest hcontent hterminator
          (ih rest.length (by omega) rest rfl)

variable {content terminator rest text : List Char}

theorem lineContent_of_unbroken (h : Unbroken text) : lineContent text = text :=
  List.takeWhile_eq_self_iff.mpr h

theorem afterLine_of_unbroken (h : Unbroken text) : afterLine text = none := by
  rw [afterLine, List.dropWhile_eq_nil_iff.mpr h]

theorem lineContent_append (hcontent : Unbroken content) (h : Terminator terminator rest) :
    lineContent (content ++ (terminator ++ rest)) = content := by
  rw [lineContent, List.takeWhile_append_of_pos hcontent]
  cases h <;> simp [inLine]

theorem afterLine_append (hcontent : Unbroken content) (h : Terminator terminator rest) :
    afterLine (content ++ (terminator ++ rest)) = some rest := by
  rw [afterLine, List.dropWhile_append_of_pos hcontent]
  cases h with
  | lineFeed => rfl
  | both => rfl
  | carriageReturn _ hnext =>
      cases rest with
      | nil => rfl
      | cons c more =>
          have hc : c ≠ '\n' := by simpa using hnext
          simp [inLine, hc]

/-- Nothing is lost in front of the first terminator. -/
theorem afterLine_append_of_unbroken (hcontent : Unbroken content) (more : List Char) :
    afterLine (content ++ more) = afterLine more := by
  rw [afterLine, List.dropWhile_append_of_pos hcontent, ← afterLine]

theorem length_lt_of_afterLine (h : afterLine text = some rest) : rest.length < text.length := by
  rcases line_cases text with hunbroken | ⟨content, terminator, rest', rfl, hcontent, hterminator⟩
  · rw [afterLine_of_unbroken hunbroken] at h
    cases h
  · obtain rfl : rest' = rest := by
      rw [afterLine_append hcontent hterminator] at h
      exact Option.some.inj h
    have hpos := hterminator.length_pos
    simp only [List.length_append]
    omega

/-! ## Positions in a text and in the rest after its first line -/

theorem length_fromLine_add_le {text rest : List Char} {line : Nat}
    (h : fromLine text line = some rest) : rest.length + line ≤ text.length := by
  induction line generalizing text with
  | zero => exact (congrArg List.length (Option.some.inj h)).symm.le
  | succ line ih =>
      obtain ⟨next, hnext, hrest⟩ := Option.bind_eq_some_iff.mp h
      have hlt := length_lt_of_afterLine hnext
      have hle := ih hrest
      omega

@[simp] theorem index_zero (text : List Char) (character : Nat) :
    index text ⟨0, character⟩ = column (lineContent text) character := by
  simp [index, fromLine]

theorem index_succ (h : afterLine text = some rest) (line character : Nat) :
    index text ⟨line + 1, character⟩ =
      (text.length - rest.length) + index rest ⟨line, character⟩ := by
  have hlt := length_lt_of_afterLine h
  simp only [index, fromLine, h, Option.bind_some]
  cases hfrom : fromLine rest line with
  | none => simp only []; omega
  | some next =>
      have hle := length_fromLine_add_le hfrom
      simp only []
      omega

theorem index_succ_append
    (hcontent : Unbroken content) (h : Terminator terminator rest) (line character : Nat) :
    index (content ++ (terminator ++ rest)) ⟨line + 1, character⟩ =
      (content ++ terminator).length + index rest ⟨line, character⟩ := by
  rw [index_succ (afterLine_append hcontent h), ← List.append_assoc, List.length_append,
    Nat.add_sub_cancel]

theorem index_succ_of_afterLine_eq_none (h : afterLine text = none) (line character : Nat) :
    index text ⟨line + 1, character⟩ = text.length := by
  simp [index, fromLine, h]

/-- The second line starts behind a text that no line ends within. -/
theorem length_lt_index_one (hcontent : Unbroken content) (hrest : rest ≠ []) :
    content.length < index (content ++ rest) ⟨1, 0⟩ := by
  have hpos := List.length_pos_iff.mpr hrest
  have hafter := afterLine_append_of_unbroken hcontent rest
  cases hnext : afterLine rest with
  | none =>
      rw [index_succ_of_afterLine_eq_none (hafter.trans hnext), List.length_append]
      omega
  | some next =>
      have hlt := length_lt_of_afterLine hnext
      rw [index_succ (hafter.trans hnext), List.length_append]
      omega

theorem index_le_length (text : List Char) (position : Position) :
    index text position ≤ text.length := by
  unfold index
  cases hfrom : fromLine text position.line with
  | none => exact Nat.le_refl _
  | some rest =>
      have hle := length_fromLine_add_le hfrom
      have hcolumn : column (lineContent rest) position.character ≤ (lineContent rest).length :=
        Nat.findGreatest_le _
      have hcontent : (lineContent rest).length ≤ rest.length :=
        (List.takeWhile_prefix inLine).length_le
      simp only []
      omega

/-- A line beyond the last one stands for the end of the text. -/
theorem index_of_length_lt {line : Nat} (h : text.length < line) (character : Nat) :
    index text ⟨line, character⟩ = text.length := by
  cases hfrom : fromLine text line with
  | none => simp [index, hfrom]
  | some next =>
      have hle := length_fromLine_add_le hfrom
      omega

end Switchboard.Protocol
