import Switchboard.Proofs.Text.Lines
import Switchboard.Proofs.Document.Protocol

/-!
# Edits of a document and edits of the protocol

Documents and the protocol agree on every position of a text whose only breaks are the
protocol's own, and so an edit of such a text means the same to both.

They do not agree on other texts.  A document ends a line at every break of Unicode, so from
the first foreign break on its lines are numbered higher, and an edit behind the break goes
to another place than the one its sender meant.
-/

namespace Switchboard

open Text (Position charIndex charsWithin foreignBreaks isBreak lines trimEnd units)

namespace Protocol

/-- No line of a text ends in a way that the protocol does not know. -/
def PlainBreaks (text : List Char) : Prop := ∀ c ∈ text, c ∉ foreignBreaks

-- The characters of the text are tested, and not those of all Unicode.
instance : DecidablePred PlainBreaks :=
  fun text => List.decidableBAll (fun c => c ∉ foreignBreaks) text

/-- Every change of a range finds a text without foreign breaks. -/
def PlainRanges (text : List Char) : List ContentChange → Prop
  | [] => True
  | change :: later =>
      (change.range.isSome → PlainBreaks text) ∧ PlainRanges (changed text change) later

/-! ## Columns -/

theorem length_utf16 (c : Char) : (utf16 c).length = units c := by
  unfold utf16 units
  split <;> rfl

theorem codeUnits_cons (c : Char) (text : List Char) :
    codeUnits (c :: text) = units c + codeUnits text := by
  rw [codeUnits, List.flatMap_cons, List.length_append, length_utf16, ← codeUnits]

theorem charsWithin_le_length (content : List Char) (character : Nat) :
    charsWithin content character ≤ content.length := by
  fun_induction charsWithin content character with
  | case1 => simp
  | case2 c rest character hfits ih => simp only [List.length_cons]; omega
  | case3 => simp

theorem codeUnits_take_charsWithin_le (content : List Char) (character : Nat) :
    codeUnits (content.take (charsWithin content character)) ≤ character := by
  fun_induction charsWithin content character with
  | case1 => simp [codeUnits]
  | case2 c rest character hfits ih =>
      rw [Nat.add_comm 1, List.take_succ_cons, codeUnits_cons]
      omega
  | case3 => simp [codeUnits]

theorem lt_codeUnits_take
    {content : List Char} {character count : Nat} (hcount : charsWithin content character < count)
    (hle : count ≤ content.length) : character < codeUnits (content.take count) := by
  fun_induction charsWithin content character generalizing count with
  | case1 => simp at hle; omega
  | case2 c rest character hfits ih =>
      obtain ⟨count, rfl⟩ := Nat.exists_eq_add_one_of_ne_zero (by omega : count ≠ 0)
      have hrest : character - units c < codeUnits (rest.take count) :=
        ih (by omega) (by simpa using hle)
      rw [List.take_succ_cons, codeUnits_cons]
      omega
  | case3 c rest character hfits =>
      obtain ⟨count, rfl⟩ := Nat.exists_eq_add_one_of_ne_zero (by omega : count ≠ 0)
      rw [List.take_succ_cons, codeUnits_cons]
      omega

theorem column_eq_charsWithin (content : List Char) (character : Nat) :
    column content character = charsWithin content character :=
  Nat.findGreatest_eq_iff.mpr
    ⟨charsWithin_le_length content character,
      fun _ => codeUnits_take_charsWithin_le content character,
      fun _ hcount hle => (lt_codeUnits_take hcount hle).not_ge⟩

/-! ## Positions in texts with plain breaks -/

variable {content terminator rest text : List Char}

theorem PlainBreaks.of_append_left {first second : List Char} (h : PlainBreaks (first ++ second)) :
    PlainBreaks first :=
  fun c hc => h c (List.mem_append_left _ hc)

theorem PlainBreaks.of_append_right {first second : List Char} (h : PlainBreaks (first ++ second)) :
    PlainBreaks second :=
  fun c hc => h c (List.mem_append_right _ hc)

theorem PlainBreaks.append {first second : List Char}
    (hfirst : PlainBreaks first) (hsecond : PlainBreaks second) : PlainBreaks (first ++ second) :=
  List.forall_mem_append.mpr ⟨hfirst, hsecond⟩

theorem PlainBreaks.not_isBreak (hplain : PlainBreaks content) (h : Unbroken content) :
    ∀ c ∈ content, isBreak c = false := by
  intro c hc
  have hline : c ≠ '\n' ∧ c ≠ '\r' := by simpa [inLine] using h c hc
  rw [← Bool.not_eq_true, Text.isBreak_iff]
  simpa [hline] using hplain c hc

theorem Terminator.lines_append (h : Terminator terminator rest) :
    lines (terminator ++ rest) = terminator :: lines rest := by
  cases h with
  | lineFeed => exact Text.lines_cons_of_isBreak (by decide) (fun heq => absurd heq (by decide))
  | both => exact Text.lines_carriageReturn_lineFeed rest
  | carriageReturn _ hnext => exact Text.lines_cons_of_isBreak (by decide) (fun _ => hnext)

/-- The documents end a first line without foreign breaks where the protocol does. -/
theorem lines_append
    (hplain : PlainBreaks content) (hcontent : Unbroken content) (h : Terminator terminator rest) :
    lines (content ++ (terminator ++ rest)) = (content ++ terminator) :: lines rest :=
  Text.lines_append_of_not_isBreak (hplain.not_isBreak hcontent) h.lines_append

/-- A position of a text with plain breaks is the same place for the documents and for the
protocol. -/
theorem charIndex_eq_index (hplain : PlainBreaks text) (position : Position) :
    charIndex text position = index text position := by
  induction text using line_induction generalizing position with
  | unbroken text h =>
      have hbreaks := hplain.not_isBreak h
      have hlines := Text.lines_of_not_isBreak hbreaks
      obtain ⟨_ | number, character⟩ := position
      · have htrim : trimEnd (text ++ []) = text := Text.trimEnd_append hbreaks (by simp)
        rw [List.append_nil] at htrim
        rw [Text.charIndex_zero hlines, htrim, index_zero, lineContent_of_unbroken h,
          column_eq_charsWithin]
      · rw [Text.charIndex_of_length_lines_le (by simp [hlines]),
          index_succ_of_afterLine_eq_none (afterLine_of_unbroken h)]
  | line content terminator rest hcontent hterminator ih =>
      -- Both end the first line at the same terminator, and the rest is a plain text again.
      have hlines := lines_append hplain.of_append_left hcontent hterminator
      obtain ⟨_ | number, character⟩ := position
      · have htrim := Text.trimEnd_append (hplain.of_append_left.not_isBreak hcontent)
          hterminator.eq_lineFeed_or_eq_carriageReturn
        rw [Text.charIndex_zero hlines, htrim, index_zero,
          lineContent_append hcontent hterminator, column_eq_charsWithin]
      · rw [Text.charIndex_succ hlines, index_succ_append hcontent hterminator,
          ih hplain.of_append_right.of_append_right]

/-! ## Changes -/

theorem apply_eq_changed {change : ContentChange} (h : change.range.isSome → PlainBreaks text) :
    change.apply text = changed text change := by
  obtain ⟨range, replacement⟩ := change
  cases range with
  | none => rfl
  | some range =>
      have hplain : PlainBreaks text := h rfl
      simp only [ContentChange.apply, changed, charIndex_eq_index hplain, List.drop_drop]
      congr 2
      omega

/-- A change brings in no breaks besides those of its text. -/
theorem PlainBreaks.changed {change : ContentChange} (hplain : PlainBreaks text)
    (hchange : PlainBreaks change.text.toList) : PlainBreaks (changed text change) := by
  unfold Protocol.changed
  cases change.range with
  | none => exact hchange
  | some range =>
      refine .append (.append ?_ hchange) ?_
      · exact fun c hc => hplain c (List.mem_of_mem_take hc)
      · exact fun c hc => hplain c (List.mem_of_mem_drop (List.mem_of_mem_drop hc))

theorem PlainBreaks.plainRanges {changes : List ContentChange} (hplain : PlainBreaks text)
    (hchanges : ∀ change ∈ changes, PlainBreaks change.text.toList) :
    PlainRanges text changes := by
  induction changes generalizing text with
  | nil => trivial
  | cons change later ih =>
      rw [List.forall_mem_cons] at hchanges
      exact ⟨fun _ => hplain, ih (hplain.changed hchanges.1) hchanges.2⟩

theorem foldl_apply_eq_edited {changes : List ContentChange} (h : PlainRanges text changes) :
    changes.foldl (fun text change => change.apply text) text = edited text changes := by
  induction changes generalizing text with
  | nil => rfl
  | cons change later ih =>
      rw [List.foldl_cons, apply_eq_changed h.1]
      exact ih h.2

/-! ## Texts with foreign breaks -/

theorem inLine_of_mem_foreignBreaks {c : Char} (hc : c ∈ foreignBreaks) :
    inLine c ∧ c ≠ '\r' ∧ c ≠ '\n' := by
  simp only [foreignBreaks, List.mem_cons, List.not_mem_nil, or_false] at hc
  rcases hc with rfl | rfl | rfl | rfl | rfl <;> decide

/-- Behind a foreign break the documents are a line ahead of the protocol. -/
theorem exists_charIndex_lt_index
    {c : Char} {first rest : List Char} (hplain : PlainBreaks first) (hc : c ∈ foreignBreaks)
    (hrest : rest ≠ []) :
    ∃ line,
      charIndex (first ++ c :: rest) ⟨line, 0⟩ < index (first ++ c :: rest) ⟨line, 0⟩ := by
  obtain ⟨hinside, hreturn, hfeed⟩ := inLine_of_mem_foreignBreaks hc
  induction first using line_induction with
  | unbroken first h =>
      refine ⟨1, ?_⟩
      have hbreak : lines (c :: rest) = [c] :: lines rest :=
        Text.lines_cons_of_isBreak (Text.isBreak_iff.mpr (.inr (.inr hc)))
          (fun heq => absurd heq hreturn)
      have hlines := Text.lines_append_of_not_isBreak (hplain.not_isBreak h) hbreak
      have hunbroken : Unbroken (first ++ [c]) :=
        List.forall_mem_append.mpr ⟨h, by simpa using hinside⟩
      have hindex := length_lt_index_one hunbroken hrest
      rw [List.append_assoc, List.singleton_append] at hindex
      rw [Text.charIndex_succ hlines, Text.charIndex_origin]
      exact hindex
  | line content terminator first hcontent hterminator ih =>
      obtain ⟨line, hline⟩ := ih hplain.of_append_right.of_append_right
      refine ⟨line + 1, ?_⟩
      have hlater : Terminator terminator (first ++ c :: rest) :=
        hterminator.append (by simpa using hfeed)
      rw [List.append_assoc, List.append_assoc,
        Text.charIndex_succ (lines_append hplain.of_append_left hcontent hlater),
        index_succ_append hcontent hlater]
      omega

/-- A change of everything between the starts of two lines. -/
def rewriting (line last : Nat) (replacement : String) : ContentChange :=
  ⟨some ⟨⟨line, 0⟩, ⟨last, 0⟩⟩, replacement⟩

theorem apply_rewriting {last : Nat} (h : text.length < last) (line : Nat) (replacement : String) :
    (rewriting line last replacement).apply text =
      text.take (charIndex text ⟨line, 0⟩) ++ replacement.toList := by
  have hdrop : text.drop (max (charIndex text ⟨line, 0⟩) text.length) = [] :=
    List.drop_eq_nil_of_le (Nat.le_max_right _ _)
  simp only [rewriting, ContentChange.apply, Text.charIndex_of_length_lt h, hdrop,
    List.append_nil]

theorem changed_rewriting {last : Nat} (h : text.length < last) (line : Nat) (replacement : String) :
    changed text (rewriting line last replacement) =
      text.take (index text ⟨line, 0⟩) ++ replacement.toList := by
  have hdrop : (text.drop (index text ⟨line, 0⟩)).drop (text.length - index text ⟨line, 0⟩) = [] :=
    List.drop_eq_nil_of_le (List.length_drop ▸ Nat.le_refl _)
  simp only [rewriting, changed, index_of_length_lt h, hdrop, List.append_nil]

theorem apply_rewriting_self {last : Nat} (h : text.length < last) (addition : String) :
    (rewriting last last addition).apply text = text ++ addition.toList := by
  rw [apply_rewriting h, Text.charIndex_of_length_lt h, List.take_length]

theorem changed_rewriting_self {last : Nat} (h : text.length < last) (addition : String) :
    changed text (rewriting last last addition) = text ++ addition.toList := by
  rw [changed_rewriting h, index_of_length_lt h, List.take_length]

/-- Where a line starts earlier for the documents than for the protocol, cutting the text off
at this line tells them apart. -/
theorem apply_rewriting_ne_changed {line last : Nat} (hlast : text.length < last)
    (hline : charIndex text ⟨line, 0⟩ < index text ⟨line, 0⟩) :
    (rewriting line last "").apply text ≠ changed text (rewriting line last "") := by
  intro heq
  rw [apply_rewriting hlast, changed_rewriting hlast] at heq
  have hlengths := congrArg List.length heq
  have hle := index_le_length text ⟨line, 0⟩
  simp only [List.length_append, List.length_take] at hlengths
  omega

/-- On a text with a foreign break the documents and the protocol come apart. -/
theorem exists_edited_ne (h : ¬ PlainBreaks text) :
    ∃ changes : List ContentChange, (∀ change ∈ changes, PlainBreaks change.text.toList) ∧
      changes.foldl (fun text change => change.apply text) text ≠ edited text changes := by
  have hfound : (text.find? fun c => c ∈ foreignBreaks).isSome := by
    simpa [PlainBreaks] using h
  obtain ⟨c, hfind⟩ := Option.isSome_iff_exists.mp hfound
  obtain ⟨hc, first, rest, htext, hfirst⟩ := List.find?_eq_some_iff_append.mp hfind
  -- A break at the end of a text starts a line without characters, which no edit can tell
  -- from the end.  So a character is added before the text is cut off behind the break.
  have hadded : text ++ "x".toList = first ++ c :: (rest ++ "x".toList) := by simp [htext]
  have hplain : PlainBreaks first := by simpa [PlainBreaks] using hfirst
  obtain ⟨line, hline⟩ : ∃ line,
      charIndex (text ++ "x".toList) ⟨line, 0⟩ < index (text ++ "x".toList) ⟨line, 0⟩ := by
    rw [hadded]
    exact exists_charIndex_lt_index hplain (by simpa using hc) (by simp)
  obtain ⟨last, hlast⟩ : ∃ last, text.length + 1 < last := ⟨_, Nat.lt_succ_self _⟩
  refine ⟨[rewriting last last "x", rewriting line last ""], ?_, ?_⟩
  · have hx : PlainBreaks "x".toList := by decide
    have hempty : PlainBreaks "".toList := by decide
    exact List.forall_mem_cons.mpr ⟨hx, List.forall_mem_singleton.mpr hempty⟩
  · have hshort : text.length < last := by omega
    simp only [edited, List.foldl_cons, List.foldl_nil, apply_rewriting_self hshort,
      changed_rewriting_self hshort]
    exact apply_rewriting_ne_changed (by simpa using hlast) hline

end Protocol

namespace Document

theorem toList_text_applyChanges
    (document : Document) (changes : List ContentChange) (version : Int) :
    (document.applyChanges changes version).text.toList =
      changes.foldl (fun text change => change.apply text) document.text.toList :=
  String.toList_ofList

/-- The changes of a document give the text that the protocol defines, as long as every change
of a range finds a text without foreign breaks.  With plain texts put in, this is always so
exactly for the documents that hold no foreign break themselves. -/
theorem applyChanges_follows_protocol (document : Document) :
    (∀ changes version, Protocol.PlainRanges document.text.toList changes →
      (document.applyChanges changes version).text.toList =
        Protocol.edited document.text.toList changes) ∧
    (Protocol.PlainBreaks document.text.toList ↔
      ∀ changes version, (∀ change ∈ changes, Protocol.PlainBreaks change.text.toList) →
        (document.applyChanges changes version).text.toList =
          Protocol.edited document.text.toList changes) := by
  have hfollows : ∀ changes version, Protocol.PlainRanges document.text.toList changes →
      (document.applyChanges changes version).text.toList =
        Protocol.edited document.text.toList changes := fun changes version hranges =>
    (document.toList_text_applyChanges changes version).trans
      (Protocol.foldl_apply_eq_edited hranges)
  refine ⟨hfollows, ?_, ?_⟩
  · intro hplain changes version hchanges
    exact hfollows changes version (hplain.plainRanges hchanges)
  · intro hall
    by_contra hforeign
    obtain ⟨changes, hchanges, hne⟩ := Protocol.exists_edited_ne hforeign
    have heq := hall changes document.version hchanges
    rw [toList_text_applyChanges] at heq
    exact hne heq

/-- A carriage return and a line feed get another line feed in front of them, and the text is
then cut off behind the new line. -/
theorem emojiDocument_follows_protocol :
    let document : Document := ⟨"a😀b\r\ncd", 1, "plaintext"⟩
    let changes : List ContentChange :=
      [⟨some ⟨⟨0, 3⟩, ⟨0, 4⟩⟩, "\n"⟩, ⟨some ⟨⟨1, 9⟩, ⟨7, 0⟩⟩, "!"⟩]
    Protocol.PlainBreaks document.text.toList ∧
      (∀ change ∈ changes, Protocol.PlainBreaks change.text.toList) ∧
      (document.applyChanges changes 2).text.toList =
        Protocol.edited document.text.toList changes ∧
      (document.applyChanges changes 2).text = "a😀\n!" := by
  have hplain : Protocol.PlainBreaks "a😀b\r\ncd".toList := by decide +kernel
  have hchanges : ∀ change ∈ ([⟨some ⟨⟨0, 3⟩, ⟨0, 4⟩⟩, "\n"⟩,
      ⟨some ⟨⟨1, 9⟩, ⟨7, 0⟩⟩, "!"⟩] : List ContentChange),
      Protocol.PlainBreaks change.text.toList := by
    decide +kernel
  exact ⟨hplain, hchanges,
    (applyChanges_follows_protocol ⟨"a😀b\r\ncd", 1, "plaintext"⟩).2.mp hplain _ 2 hchanges,
    by decide +kernel⟩

/-- The vertical tab starts a line for the document and none for the protocol, so that what was
meant for the second line replaces the end of the first. -/
theorem verticalTab_edit_displaced :
    let document : Document := ⟨"a\x0bb\nc", 0, "plaintext"⟩
    let change : ContentChange := ⟨some ⟨⟨1, 0⟩, ⟨1, 1⟩⟩, "X"⟩
    (document.applyChanges [change] 1).text = "a\x0bX\nc" ∧
      Protocol.edited document.text.toList [change] = "a\x0bb\nX".toList ∧
      (document.applyChanges [change] 1).text.toList ≠
        Protocol.edited document.text.toList [change] := by
  decide +kernel

end Document

end Switchboard
