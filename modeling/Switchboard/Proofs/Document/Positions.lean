import Mathlib.Order.Bounds.Basic
import Mathlib.Tactic.Common
import Switchboard.Proofs.Document.Edits

/-!
# Positions and the characters they stand for

The index of a position is the greatest one within the position's line that its code units
reach, and later positions have no smaller indexes.

Documents find an index by way of others: those of lines, of characters and of code units in
the whole text.  Here each of these steps has a value only where its index lies within the
text, and all of them have one.
-/

namespace Switchboard

open Text (Position charIndex charsWithin lineCount lines trimEnd units)
open Protocol (codeUnits column)

namespace Text

/-! ## Lines within a text -/

/-- A text around one of its lines: the lines before, what the line holds, the line feeds and
carriage returns at its end, and the lines behind. -/
structure LineAt (text : List Char) (number : Nat) (before content ending after : List Char) :
    Prop where
  text_eq : text = before ++ (content ++ (ending ++ after))
  before_eq : before = ((lines text).take number).flatten
  line_eq : (lines text)[number]? = some (content ++ ending)
  ending_trimmed : ∀ c ∈ ending, c = '\n' ∨ c = '\r'
  content_kept : ∀ c ∈ content.getLast?, c ≠ '\n' ∧ c ≠ '\r'

theorem exists_lineAt {text : List Char} {number : Nat} (h : number < lineCount text) :
    ∃ before content ending after, LineAt text number before content ending after := by
  rw [lineCount] at h
  have hline : trimEnd (lines text)[number] ++
      (lines text)[number].rtakeWhile (fun c => c == '\n' || c == '\r') = (lines text)[number] :=
    List.rdropWhile_append_rtakeWhile
  refine ⟨((lines text).take number).flatten, trimEnd (lines text)[number],
    (lines text)[number].rtakeWhile fun c => c == '\n' || c == '\r',
    ((lines text).drop (number + 1)).flatten, ?_, rfl, ?_, ?_, ?_⟩
  · rw [← List.append_assoc (trimEnd _), hline, ← List.flatten_cons, List.getElem_cons_drop,
      ← List.flatten_append, List.take_append_drop, flatten_lines]
  · rw [hline, List.getElem?_eq_getElem h]
  · intro c hc
    simpa using List.mem_rtakeWhile_imp hc
  · intro c hc
    rw [trimEnd_eq_rdropWhile] at hc
    obtain ⟨hne, rfl⟩ := List.mem_getLast?_eq_getLast hc
    simpa using List.rdropWhile_last_not _ _ hne

namespace LineAt

variable {text before content ending after : List Char} {number : Nat}

theorem charIndex_eq (h : LineAt text number before content ending after) (character : Nat) :
    charIndex text ⟨number, character⟩ = before.length + charsWithin content character := by
  have hcontent := trimEnd_append_of_getLast? h.ending_trimmed h.content_kept
  simp only [charIndex, h.line_eq, hcontent, h.before_eq]

/-- The index of a position is the greatest in its line that the code units of the position
reach. -/
theorem isGreatest_charIndex
    (h : LineAt text number before content ending after) (character : Nat) :
    IsGreatest
      {index | before.length ≤ index ∧ index ≤ (before ++ content).length ∧
        codeUnits ((text.take index).drop before.length) ≤ character}
      (charIndex text ⟨number, character⟩) := by
  have hreached : ∀ count ≤ content.length,
      (text.take (before.length + count)).drop before.length = content.take count := by
    intro count hcount
    rw [h.text_eq, List.take_length_add_append, List.drop_left,
      List.take_append_of_le_length hcount]
  rw [h.charIndex_eq, List.length_append]
  have hle := Protocol.charsWithin_le_length content character
  constructor
  · refine ⟨Nat.le_add_right _ _, Nat.add_le_add_left hle _, ?_⟩
    rw [hreached _ hle]
    exact Protocol.codeUnits_take_charsWithin_le content character
  · rintro index ⟨hstart, hstop, hunits⟩
    obtain ⟨count, rfl⟩ := Nat.exists_eq_add_of_le hstart
    have hcount : count ≤ content.length := Nat.le_of_add_le_add_left hstop
    rw [hreached count hcount] at hunits
    by_contra hlt
    have hbeyond : character < codeUnits (content.take count) :=
      Protocol.lt_codeUnits_take (by omega) hcount
    exact absurd hunits (Nat.not_le.mpr hbeyond)

end LineAt

/-! ## Positions in order -/

theorem charIndex_of_lineCount_le {text : List Char} {position : Position}
    (h : lineCount text ≤ position.line) : charIndex text position = text.length :=
  charIndex_of_length_lines_le h position.character

theorem charIndex_le_length (text : List Char) (position : Position) :
    charIndex text position ≤ text.length := by
  rcases Nat.lt_or_ge position.line (lineCount text) with hlt | hge
  · obtain ⟨before, content, ending, after, h⟩ := exists_lineAt hlt
    have hle := Protocol.charsWithin_le_length content position.character
    have hlength := congrArg List.length h.text_eq
    rw [h.charIndex_eq]
    simp only [List.length_append] at hlength
    omega
  · exact (charIndex_of_lineCount_le hge).le

theorem charsWithin_mono (content : List Char) : Monotone (charsWithin content) := by
  intro first second h
  by_contra hlt
  have hbeyond := Protocol.lt_codeUnits_take (Nat.not_le.mp hlt)
    (Protocol.charsWithin_le_length content first)
  have hreached := Protocol.codeUnits_take_charsWithin_le content first
  omega

/-- What stands before a line takes in all lines before it. -/
theorem LineAt.length_le
    {text before content ending after before' content' ending' after' : List Char}
    {number later : Nat} (h : LineAt text number before content ending after)
    (h' : LineAt text later before' content' ending' after') (hlt : number < later) :
    (before ++ (content ++ ending)).length ≤ before'.length := by
  have hnext : before ++ (content ++ ending) = ((lines text).take (number + 1)).flatten := by
    rw [List.take_add_one, h.line_eq, h.before_eq]
    simp
  have hsplit : (lines text).take later =
      (lines text).take (number + 1) ++
        ((lines text).drop (number + 1)).take (later - (number + 1)) := by
    rw [← List.take_add]
    congr 1
    omega
  rw [hnext, h'.before_eq, hsplit, List.flatten_append, List.length_append]
  exact Nat.le_add_right _ _

/-- Later positions have no smaller indexes. -/
theorem charIndex_mono
    (text : List Char) {first second : Position}
    (h : first.line < second.line ∨ first.line = second.line ∧ first.character ≤ second.character) :
    charIndex text first ≤ charIndex text second := by
  rcases Nat.lt_or_ge second.line (lineCount text) with hsecond | hsecond
  · obtain ⟨before', content', ending', after', h'⟩ := exists_lineAt hsecond
    rw [h'.charIndex_eq]
    rcases h with hlt | ⟨heq, hle⟩
    · obtain ⟨before, content, ending, after, hfirst⟩ := exists_lineAt (hlt.trans hsecond)
      have hbefore := hfirst.length_le h' hlt
      have hle := Protocol.charsWithin_le_length content first.character
      rw [hfirst.charIndex_eq]
      simp only [List.length_append] at hbefore
      omega
    · rw [← heq] at h'
      rw [h'.charIndex_eq]
      exact Nat.add_le_add_left (charsWithin_mono content' hle) _
  · rw [charIndex_of_lineCount_le hsecond]
    exact charIndex_le_length text first

end Text

/-! ## Steps with bounds -/

namespace Indexed

/-- The index of the first character of a line; the line behind the last starts at the end. -/
def lineStart? (text : List Char) (number : Nat) : Option Nat :=
  if number ≤ lineCount text then some ((lines text).take number).flatten.length else none

/-- The length of a line without the line feeds and carriage returns at its end, by stepping back
from a length one character at a time. -/
def contentLength? (chars : List Char) : Nat → Option Nat
  | 0 => some 0
  | length + 1 => do
      let c ← chars[length]?
      if c = '\n' ∨ c = '\r' then contentLength? chars length else some (length + 1)

/-- The number of code units before a character, or of all at the end. -/
def unitsBefore? (text : List Char) (index : Nat) : Option Nat :=
  if index ≤ text.length then some (codeUnits (text.take index)) else none

/-- The index of the character that a code unit belongs to, or of the end behind the last. -/
def charOf? (text : List Char) (unit : Nat) : Option Nat :=
  if unit ≤ codeUnits text then some (column text unit) else none

/-- The index of a position by way of the code units of the whole text. -/
def charIndex? (text : List Char) (position : Position) : Option Nat :=
  if lineCount text ≤ position.line then some text.length
  else do
    let start ← lineStart? text position.line
    let line ← (lines text)[position.line]?
    let length ← contentLength? line line.length
    let first ← unitsBefore? text start
    let last ← unitsBefore? text (start + length)
    charOf? text (min (first + position.character) last)

/-- The text without what stands between two indexes. -/
def remove? (text : List Char) (start stop : Nat) : Option (List Char) :=
  if start ≤ stop ∧ stop ≤ text.length then some (text.take start ++ text.drop stop) else none

/-- The text with more put in at an index. -/
def insert? (text : List Char) (index : Nat) (more : List Char) : Option (List Char) :=
  if index ≤ text.length then some (text.take index ++ more ++ text.drop index) else none

/-- The text after a change, by removing what stands in the range and putting in the new text
where it started. -/
def change? (text : List Char) (change : ContentChange) : Option (List Char) :=
  match change.range with
  | none => some change.text.toList
  | some range => do
      let start ← charIndex? text range.start
      let stop ← charIndex? text range.stop
      let kept ← remove? text start (max start stop)
      insert? kept start change.text.toList

variable {text before content ending after : List Char} {number : Nat}

theorem codeUnits_append (first second : List Char) :
    codeUnits (first ++ second) = codeUnits first + codeUnits second := by
  simp [codeUnits]

theorem contentLength?_append
    (hending : ∀ c ∈ ending, c = '\n' ∨ c = '\r')
    (hcontent : ∀ c ∈ content.getLast?, c ≠ '\n' ∧ c ≠ '\r') :
    contentLength? (content ++ ending) (content ++ ending).length = some content.length := by
  have hback : ∀ count ≤ ending.length,
      contentLength? (content ++ ending) (content.length + count) = some content.length := by
    intro count
    induction count with
    | zero =>
        intro _
        rcases content.eq_nil_or_concat with rfl | ⟨content, c, rfl⟩
        · rfl
        · have hc : c ≠ '\n' ∧ c ≠ '\r' := hcontent c (by simp)
          simp [contentLength?, hc]
    | succ count ih =>
        intro hcount
        have hc : (content ++ ending)[content.length + count]? = some ending[count] := by
          simp [List.getElem?_append_right]
        rw [← Nat.add_assoc, contentLength?, hc]
        simp only [Option.bind_eq_bind, Option.bind_some]
        rw [if_pos (hending _ (List.getElem_mem _))]
        exact ih (by omega)
  rw [List.length_append]
  exact hback _ le_rfl

theorem charsWithin_append_right (before rest : List Char) (count : Nat) :
    charsWithin (before ++ rest) (codeUnits before + count) =
      before.length + charsWithin rest count := by
  induction before with
  | nil => simp [codeUnits]
  | cons c before ih =>
      rw [List.cons_append, charsWithin, if_pos (by rw [Protocol.codeUnits_cons]; omega),
        Protocol.codeUnits_cons, Nat.add_assoc, Nat.add_sub_cancel_left, ih, List.length_cons]
      omega

/-- As many characters fit into the code units of a line as of the text that starts with it. -/
theorem charsWithin_append_left (content rest : List Char) (count : Nat) :
    charsWithin (content ++ rest) (min count (codeUnits content)) = charsWithin content count := by
  induction content generalizing count with
  | nil => simp [codeUnits, Text.charsWithin_zero, charsWithin]
  | cons c content ih =>
      rw [List.cons_append, charsWithin, charsWithin, Protocol.codeUnits_cons]
      by_cases hfits : units c ≤ count
      · rw [if_pos (by omega), if_pos hfits, ← ih]
        congr 2
        omega
      · rw [if_neg (by omega), if_neg hfits]

/-- No step to the index of a position leaves the text. -/
theorem charIndex?_eq (text : List Char) (position : Position) :
    charIndex? text position = some (charIndex text position) := by
  rw [charIndex?]
  split_ifs with hline
  · rw [Text.charIndex_of_lineCount_le hline]
  · obtain ⟨before, content, ending, after, h⟩ := Text.exists_lineAt (Nat.not_le.mp hline)
    have hstart : lineStart? text position.line = some before.length := by
      rw [lineStart?, if_pos (Nat.not_le.mp hline).le, h.before_eq]
    have hlength := contentLength?_append h.ending_trimmed h.content_kept
    have hfirst : unitsBefore? text before.length = some (codeUnits before) := by
      rw [unitsBefore?, h.text_eq, if_pos (by simp), List.take_left]
    have hlast : unitsBefore? text (before.length + content.length) =
        some (codeUnits before + codeUnits content) := by
      rw [unitsBefore?, h.text_eq, if_pos (by simp), List.take_length_add_append, List.take_left,
        codeUnits_append]
    have htotal : codeUnits text =
        codeUnits before + (codeUnits content + codeUnits (ending ++ after)) := by
      rw [h.text_eq, codeUnits_append, codeUnits_append]
    have hindex : charOf? text
          (min (codeUnits before + position.character) (codeUnits before + codeUnits content)) =
        some (before.length + charsWithin content position.character) := by
      rw [charOf?, if_pos (by omega), Protocol.column_eq_charsWithin, Nat.add_min_add_left,
        h.text_eq, charsWithin_append_right, charsWithin_append_left]
    simp only [hstart, h.line_eq, hlength, hfirst, hlast, hindex, Option.bind_eq_bind,
      Option.bind_some, h.charIndex_eq]

theorem insert?_remove?
    {start stop : Nat} (hle : start ≤ stop) (hstop : stop ≤ text.length) (more : List Char) :
    (remove? text start stop).bind (fun kept => insert? kept start more) =
      some (text.take start ++ more ++ text.drop stop) := by
  have hlength : (text.take start).length = start := by
    rw [List.length_take]
    omega
  have hbound : start ≤ (text.take start ++ text.drop stop).length := by
    rw [List.length_append, hlength]
    exact Nat.le_add_right _ _
  rw [remove?, if_pos ⟨hle, hstop⟩, Option.bind_some, insert?, if_pos hbound,
    List.take_left' hlength, List.drop_left' hlength]

/-- Removing and putting in stay within the text, whatever the range. -/
theorem change?_eq (text : List Char) (change : ContentChange) :
    change? text change = some (change.apply text) := by
  obtain ⟨range, replacement⟩ := change
  rcases range with _ | range
  · rfl
  · have hstop := max_le (Text.charIndex_le_length text range.start)
      (Text.charIndex_le_length text range.stop)
    simp only [change?, charIndex?_eq, Option.bind_eq_bind, Option.bind_some]
    exact insert?_remove? (le_max_left _ _) hstop replacement.toList

theorem foldlM_change? (text : List Char) (changes : List ContentChange) :
    changes.foldlM change? text =
      some (changes.foldl (fun text change => change.apply text) text) := by
  induction changes generalizing text with
  | nil => rfl
  | cons change later ih => rw [List.foldlM_cons, change?_eq, List.foldl_cons, ← ih]; rfl

end Indexed

namespace Document

/-- A position behind the last line stands for the end of the text, and any other for the greatest
index of its line that its code units reach; later positions have no smaller indexes.  So every
change of a range replaces the characters between two indexes of the text that it finds, and no
step on the way there leaves a text. -/
theorem edits_between_exact_indexes (document : Document) :
    let text := document.text.toList
    (∀ position : Position,
      Indexed.charIndex? text position = some (charIndex text position) ∧
        (document.lineCount ≤ position.line → charIndex text position = text.length) ∧
        (position.line < document.lineCount →
          ∃ before content ending after,
            Text.LineAt text position.line before content ending after ∧
              IsGreatest
                {index | before.length ≤ index ∧ index ≤ (before ++ content).length ∧
                  codeUnits ((text.take index).drop before.length) ≤ position.character}
                (charIndex text position))) ∧
      (∀ first second : Position,
        first.line < second.line ∨ first.line = second.line ∧ first.character ≤ second.character →
          charIndex text first ≤ charIndex text second) ∧
      ∀ changes version,
        changes.foldlM Indexed.change? text =
            some (document.applyChanges changes version).text.toList ∧
          ∀ range replacement,
            let old := (document.applyChanges changes version).text.toList
            let start := charIndex old range.start
            let stop := max start (charIndex old range.stop)
            stop ≤ old.length ∧
              (document.applyChanges (changes ++ [⟨some range, replacement⟩]) version).text.toList =
                old.take start ++ replacement.toList ++ old.drop stop := by
  intro text
  refine ⟨?_, ?_, ?_⟩
  · intro position
    refine ⟨Indexed.charIndex?_eq text position, Text.charIndex_of_lineCount_le, ?_⟩
    intro hline
    obtain ⟨before, content, ending, after, h⟩ := Text.exists_lineAt hline
    exact ⟨before, content, ending, after, h, h.isGreatest_charIndex position.character⟩
  · intro first second h
    exact Text.charIndex_mono text h
  · intro changes version
    refine ⟨?_, ?_⟩
    · rw [toList_text_applyChanges]
      exact Indexed.foldlM_change? text changes
    · intro range replacement old start stop
      refine ⟨max_le (Text.charIndex_le_length old _) (Text.charIndex_le_length old _), ?_⟩
      rw [toList_text_applyChanges, List.foldl_append,
        ← toList_text_applyChanges document changes version]
      rfl

/-- The second position is inside a surrogate pair, and the range ends before it starts. -/
theorem emojiDocument_indexes :
    let document : Document := ⟨"a😀b\r\ncd", 1, "plaintext"⟩
    let text := document.text.toList
    (document.lineCount ≤ 2 ∧ charIndex text ⟨2, 0⟩ = 7) ∧
      (0 < document.lineCount ∧ charIndex text ⟨0, 2⟩ = 1 ∧
        ∃ before content ending after,
          Text.LineAt text 0 before content ending after ∧
            IsGreatest
              {index | before.length ≤ index ∧ index ≤ (before ++ content).length ∧
                codeUnits ((text.take index).drop before.length) ≤ 2}
              (charIndex text ⟨0, 2⟩)) ∧
      charIndex text ⟨0, 9⟩ ≤ charIndex text ⟨1, 0⟩ ∧
      (document.applyChanges [⟨some ⟨⟨1, 1⟩, ⟨0, 3⟩⟩, "!"⟩] 2).text.toList = "a😀b\r\nc!d".toList := by
  intro document text
  obtain ⟨hpositions, hordered, hchanges⟩ := edits_between_exact_indexes document
  have hcount : document.lineCount = 2 := by decide +kernel
  have hlast := (hpositions ⟨2, 0⟩).2.1 hcount.le
  have hfirst : 0 < document.lineCount := by omega
  have hinside := (hpositions ⟨0, 2⟩).2.2 hfirst
  have hchanged := ((hchanges [] 2).2 ⟨⟨1, 1⟩, ⟨0, 3⟩⟩ "!").2
  refine ⟨⟨hcount.le, hlast.trans (by decide +kernel)⟩, ⟨hfirst, by decide +kernel, hinside⟩,
    hordered _ _ (Or.inl (by decide)), ?_⟩
  exact hchanged.trans (by decide +kernel)

end Document

end Switchboard
