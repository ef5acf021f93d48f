import Mathlib.Data.List.DropRight
import Mathlib.Data.List.Induction
import Mathlib.Data.List.TakeWhile
import Mathlib.Tactic.Common
import Switchboard.Text.Lines

/-!
# The first line of a text

A text without breaks is one line; otherwise its first line ends with the first break, and
what a position stands for is read off the first line or off the rest of the text.  The
breaks are the line feed, the carriage return and those that only Unicode knows.
-/

namespace Switchboard.Text

/-- The breaks besides line feed and carriage return: vertical tab, form feed, next line,
line separator and paragraph separator. -/
def foreignBreaks : List Char := ['\x0b', '\x0c', '\u0085', '\u2028', '\u2029']

theorem isBreak_iff {c : Char} : isBreak c ↔ c = '\n' ∨ c = '\r' ∨ c ∈ foreignBreaks := by
  simp [isBreak, foreignBreaks, or_assoc]

/-! ## Lines -/

variable {text content line rest : List Char} {others : List (List Char)}

theorem lines_cons_of_not_isBreak
    {c : Char} (hc : isBreak c = false) (h : lines rest = line :: others) :
    lines (c :: rest) = (c :: line) :: others := by
  have hreturn : c ≠ '\r' := by rintro rfl; cases hc
  rw [lines]
  · rw [if_neg (by simp [hc]), h]
  · intro _ heq
    exact absurd heq hreturn

/-- Characters that break nothing go in front of the first line. -/
theorem lines_append_of_not_isBreak
    (hcontent : ∀ c ∈ content, isBreak c = false) (h : lines rest = line :: others) :
    lines (content ++ rest) = (content ++ line) :: others := by
  induction content with
  | nil => exact h
  | cons c content ih =>
      rw [List.forall_mem_cons] at hcontent
      exact lines_cons_of_not_isBreak hcontent.1 (ih hcontent.2)

theorem lines_of_not_isBreak (h : ∀ c ∈ text, isBreak c = false) : lines text = [text] := by
  have hlines : lines (text ++ []) = [text ++ []] := lines_append_of_not_isBreak h rfl
  simpa using hlines

theorem lines_cons_of_isBreak
    {c : Char} (hc : isBreak c) (hpair : c = '\r' → rest.head? ≠ some '\n') :
    lines (c :: rest) = [c] :: lines rest := by
  rw [lines]
  · rw [if_pos hc]
  · rintro next rfl rfl
    exact hpair rfl rfl

theorem lines_carriageReturn_lineFeed (rest : List Char) :
    lines ('\r' :: '\n' :: rest) = ['\r', '\n'] :: lines rest := by
  rw [lines]

theorem length_lines_le (text : List Char) : (lines text).length ≤ text.length + 1 := by
  fun_induction lines text with
  | case1 => simp
  | case2 rest ih => simp only [List.length_cons] at ih ⊢; omega
  | case3 c rest _ hc ih => simp only [List.length_cons] at ih ⊢; omega
  | case4 c rest _ hc line others hlines ih =>
      rw [hlines] at ih
      simp only [List.length_cons] at ih ⊢
      omega
  | case5 => simp

/-! ## Positions -/

theorem trimEnd_eq_rdropWhile (line : List Char) :
    trimEnd line = line.rdropWhile fun c => c == '\n' || c == '\r' := rfl

/-- A line is trimmed to what it holds if this ends in no line feed or carriage return. -/
theorem trimEnd_append_of_getLast?
    {ending : List Char} (hending : ∀ c ∈ ending, c = '\n' ∨ c = '\r')
    (hcontent : ∀ c ∈ content.getLast?, c ≠ '\n' ∧ c ≠ '\r') :
    trimEnd (content ++ ending) = content := by
  induction ending using List.reverseRecOn with
  | nil =>
      rw [List.append_nil]
      refine List.rdropWhile_eq_self_iff.mpr fun hne => ?_
      simpa using hcontent _ (List.getLast?_eq_some_getLast hne)
  | append_singleton ending c ih =>
      rw [List.forall_mem_append, List.forall_mem_singleton] at hending
      obtain ⟨hending, hc⟩ := hending
      rw [← List.append_assoc]
      exact (List.rdropWhile_concat_pos _ _ c (by simpa using hc)).trans (ih hending)

/-- Of a line with a terminator, what is in front of the terminator is left. -/
theorem trimEnd_append
    (hcontent : ∀ c ∈ content, isBreak c = false) (hend : ∀ c ∈ rest, c = '\n' ∨ c = '\r') :
    trimEnd (content ++ rest) = content := by
  apply trimEnd_append_of_getLast? hend
  intro c hc
  rw [← not_or]
  intro hbreak
  have hfalse := hcontent c (List.mem_of_getLast? hc)
  rw [isBreak_iff.mpr (hbreak.imp_right Or.inl)] at hfalse
  exact Bool.false_ne_true hfalse.symm

theorem charsWithin_zero (line : List Char) : charsWithin line 0 = 0 := by
  cases line with
  | nil => rfl
  | cons c rest =>
      have hunits : ¬ units c ≤ 0 := by unfold units; split <;> omega
      rw [charsWithin, if_neg hunits]

theorem charIndex_zero (h : lines text = line :: others) (character : Nat) :
    charIndex text ⟨0, character⟩ = charsWithin (trimEnd line) character := by
  simp [charIndex, h]

theorem charIndex_succ (h : lines text = line :: lines rest) (number character : Nat) :
    charIndex text ⟨number + 1, character⟩ =
      line.length + charIndex rest ⟨number, character⟩ := by
  have htext : text = line ++ rest := by
    rw [← flatten_lines text, h, List.flatten_cons, flatten_lines]
  have hlength : text.length = line.length + rest.length := by rw [htext, List.length_append]
  cases hline : (lines rest)[number]? with
  | none => simp [charIndex, h, hline, hlength]
  | some found => simp [charIndex, h, hline]; omega

theorem charIndex_origin (text : List Char) : charIndex text ⟨0, 0⟩ = 0 := by
  obtain ⟨line, others, h⟩ := List.exists_cons_of_ne_nil (lines_ne_nil text)
  rw [charIndex_zero h, charsWithin_zero]

/-- A line beyond the last one stands for the end of the text. -/
theorem charIndex_of_length_lines_le
    {number : Nat} (h : (lines text).length ≤ number) (character : Nat) :
    charIndex text ⟨number, character⟩ = text.length := by
  simp [charIndex, List.getElem?_eq_none h]

theorem charIndex_of_length_lt {number : Nat} (h : text.length < number) (character : Nat) :
    charIndex text ⟨number, character⟩ = text.length :=
  charIndex_of_length_lines_le ((length_lines_le text).trans h) character

end Switchboard.Text
