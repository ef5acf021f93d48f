import Mathlib.Data.Char
import Mathlib.Data.List.TakeWhile
import Mathlib.Tactic.Common
import Switchboard.Json.Parser
import Switchboard.Json.Printer
import Switchboard.Proofs.Ordered

/-!
# What the compact texts tell

The texts of values are linearly ordered, and their first characters rank the kinds of
values: strings, numbers, arrays, then the words false, null and true, and last objects.
Values whose numbers are whole can be told apart by their texts.  For this one shows more,
namely that the text of a value in front of other text tells where it ends.
-/

namespace Switchboard.Json

/-! ## The order of texts -/

theorem noLater_cons_iff {a b : Char} {as bs : List Char} :
    noLater (a :: as) (b :: bs) = true ↔ a < b ∨ a = b ∧ noLater as bs = true := by
  simp [noLater]

theorem noLater_total (first second : List Char) :
    noLater first second = true ∨ noLater second first = true := by
  induction first generalizing second with
  | nil => exact Or.inl rfl
  | cons a as ih =>
      rcases second with _ | ⟨b, bs⟩
      · exact Or.inr rfl
      · rw [noLater_cons_iff, noLater_cons_iff]
        rcases lt_trichotomy a b with hlt | rfl | hgt
        · exact Or.inl (Or.inl hlt)
        · exact (ih bs).imp (fun h => Or.inr ⟨rfl, h⟩) fun h => Or.inr ⟨rfl, h⟩
        · exact Or.inr (Or.inl hgt)

theorem noLater_trans
    {first second third : List Char}
    (h : noLater first second = true) (h' : noLater second third = true) :
    noLater first third = true := by
  induction first generalizing second third with
  | nil => rfl
  | cons a as ih =>
      rcases second with _ | ⟨b, bs⟩
      · cases h
      rcases third with _ | ⟨c, cs⟩
      · cases h'
      rw [noLater_cons_iff] at h h' ⊢
      rcases h with hab | ⟨rfl, has⟩
      · rcases h' with hbc | ⟨rfl, -⟩
        · exact Or.inl (hab.trans hbc)
        · exact Or.inl hab
      · exact h'.imp_right fun hbs => ⟨hbs.1, ih has hbs.2⟩

theorem noLater_antisymm
    {first second : List Char}
    (h : noLater first second = true) (h' : noLater second first = true) : first = second := by
  induction first generalizing second with
  | nil =>
      rcases second with _ | ⟨b, bs⟩
      · rfl
      · cases h'
  | cons a as ih =>
      rcases second with _ | ⟨b, bs⟩
      · cases h
      rw [noLater_cons_iff] at h h'
      rcases h with hab | ⟨rfl, has⟩
      · rcases h' with hba | ⟨rfl, -⟩
        · exact absurd (hab.trans hba) (lt_irrefl a)
        · exact absurd hab (lt_irrefl _)
      · rcases h' with hba | ⟨-, hbs⟩
        · exact absurd hba (lt_irrefl a)
        · rw [ih has hbs]

/-! ## Strings -/

/-- Takes off the character that an escaped text starts with. -/
def unescape? : List Char → Option (Char × List Char)
  | '\\' :: 'u' :: a :: b :: c :: d :: rest =>
      (Parser.codeUnit? a b c d).map fun unit => (Char.ofNat unit, rest)
  | '\\' :: c :: rest => (Parser.shortEscape? c).map fun char => (char, rest)
  | c :: rest => some (c, rest)
  | [] => none

theorem codeUnit?_hexFigure :
    ∀ n < 32, Parser.codeUnit? '0' '0' (hexFigure (n / 16)) (hexFigure (n % 16)) = some n := by
  decide

theorem unescape?_escaped (c : Char) (rest : List Char) :
    unescape? (escaped c ++ rest) = some (c, rest) := by
  unfold escaped
  split_ifs with hquote hslash hback htab hfeed hform hreturn hcontrol
  · rw [hquote]; rfl
  · rw [hslash]; rfl
  · rw [hback]; rfl
  · rw [htab]; rfl
  · rw [hfeed]; rfl
  · rw [hform]; rfl
  · rw [hreturn]; rfl
  · simp [unescape?, codeUnit?_hexFigure c.toNat hcontrol]
  · simp [unescape?, hslash]

theorem escaped_append_ne_quote (c : Char) (rest more : List Char) :
    escaped c ++ rest ≠ '"' :: more := by
  intro h
  unfold escaped at h
  split_ifs at h with hquote <;> simp_all

/-- A quoted string tells where it ends. -/
theorem quotedText_append_inj
    {s t : String} {rest more : List Char}
    (h : quotedText s ++ rest = quotedText t ++ more) : s = t ∧ rest = more := by
  have hbody : ∀ cs ds : List Char,
      cs.flatMap escaped ++ '"' :: rest = ds.flatMap escaped ++ '"' :: more →
        cs = ds ∧ rest = more := by
    intro cs
    induction cs with
    | nil =>
        rintro (_ | ⟨d, ds⟩) heq
        · exact ⟨rfl, by simpa using heq⟩
        · rw [List.flatMap_cons, List.append_assoc] at heq
          exact absurd heq.symm (escaped_append_ne_quote _ _ _)
    | cons c cs ih =>
        rintro (_ | ⟨d, ds⟩) heq
        · rw [List.flatMap_cons, List.append_assoc] at heq
          exact absurd heq (escaped_append_ne_quote _ _ _)
        · rw [List.flatMap_cons, List.flatMap_cons, List.append_assoc, List.append_assoc] at heq
          have hfirst := congrArg unescape? heq
          rw [unescape?_escaped, unescape?_escaped] at hfirst
          obtain ⟨rfl, hlater⟩ := Prod.mk.inj (Option.some.inj hfirst)
          obtain ⟨rfl, hrest⟩ := ih ds hlater
          exact ⟨rfl, hrest⟩
  simp only [quotedText, List.cons_append, List.append_assoc, List.nil_append] at h
  obtain ⟨hchars, hrest⟩ := hbody _ _ (List.cons.inj h).2
  exact ⟨String.toList_injective hchars, hrest⟩

/-! ## Whole numbers -/

/-- A text does not go on with a figure. -/
def Stops (rest : List Char) : Prop := ∀ c ∈ rest.head?, c.isDigit = false

theorem stops_nil : Stops [] := by simp [Stops]

theorem stops_cons {c : Char} (h : c.isDigit = false) (rest : List Char) : Stops (c :: rest) := by
  simpa [Stops] using h

theorem toDigits_append_inj
    {m n : Nat} {rest more : List Char} (hrest : Stops rest) (hmore : Stops more)
    (h : Nat.toDigits 10 m ++ rest = Nat.toDigits 10 n ++ more) : m = n ∧ rest = more := by
  have hfigures : ∀ (k : Nat) {after : List Char}, Stops after →
      (Nat.toDigits 10 k ++ after).takeWhile Char.isDigit = Nat.toDigits 10 k := by
    intro k after hafter
    have hall : ∀ c ∈ Nat.toDigits 10 k, c.isDigit = true := fun c hc =>
      Nat.isDigit_of_mem_toDigits (by decide) (by decide) hc
    have hnone : after.takeWhile Char.isDigit = [] := by
      rcases after with _ | ⟨c, after⟩
      · rfl
      · rw [List.takeWhile_cons_of_neg]
        simpa [Stops] using hafter
    rw [List.takeWhile_append_of_pos hall, hnone, List.append_nil]
  have hsame : Nat.toDigits 10 m = Nat.toDigits 10 n := by
    rw [← hfigures m hrest, h, hfigures n hmore]
  rw [hsame] at h
  refine ⟨?_, List.append_cancel_left h⟩
  have hvalue := congrArg (fun figures => Nat.ofDigitChars 10 figures 0) hsame
  simpa only [Nat.ofDigitChars_ten_toDigits] using hvalue

theorem toList_toString_ofNat (n : Nat) :
    (toString (Int.ofNat n)).toList = Nat.toDigits 10 n :=
  Nat.toList_repr

theorem toList_toString_negSucc (n : Nat) :
    (toString (Int.negSucc n)).toList = '-' :: Nat.toDigits 10 (n + 1) := by
  have h : toString (Int.negSucc n) = "-" ++ Nat.repr (n + 1) := rfl
  rw [h, String.toList_append, Nat.toList_repr]
  rfl

theorem exists_toDigits_eq_cons (n : Nat) :
    ∃ c rest, Nat.toDigits 10 n = c :: rest ∧ c.isDigit = true := by
  obtain ⟨c, rest, h⟩ := List.exists_cons_of_ne_nil (Nat.toDigits_ne_nil : Nat.toDigits 10 n ≠ [])
  exact ⟨c, rest, h, Nat.isDigit_of_mem_toDigits (by decide) (by decide) (h ▸ List.mem_cons_self)⟩

/-- A whole number with other text behind it tells where it ends, unless figures go on. -/
theorem integer_append_inj
    {m n : Int} {rest more : List Char} (hrest : Stops rest) (hmore : Stops more)
    (h : (toString m).toList ++ rest = (toString n).toList ++ more) : m = n ∧ rest = more := by
  have hsign : ∀ k : Nat, ∀ after other : List Char,
      '-' :: after ≠ Nat.toDigits 10 k ++ other := by
    intro k after other heq
    obtain ⟨c, figures, hfigures, hc⟩ := exists_toDigits_eq_cons k
    rw [hfigures] at heq
    rw [← (List.cons.inj heq).1] at hc
    exact absurd hc (by decide)
  rcases m with m | m <;> rcases n with n | n
  · rw [toList_toString_ofNat, toList_toString_ofNat] at h
    exact (toDigits_append_inj hrest hmore h).imp_left (congrArg Int.ofNat)
  · rw [toList_toString_ofNat, toList_toString_negSucc] at h
    exact absurd h.symm (hsign m _ _)
  · rw [toList_toString_ofNat, toList_toString_negSucc] at h
    exact absurd h (hsign n _ _)
  · rw [toList_toString_negSucc, toList_toString_negSucc] at h
    obtain ⟨hvalue, hafter⟩ := toDigits_append_inj hrest hmore (List.cons.inj h).2
    exact ⟨congrArg Int.negSucc (Nat.succ_injective hvalue), hafter⟩

/-! ## Kinds of values -/

/-- A value whose numbers are whole.  As everywhere, the members of an object form a table. -/
inductive Whole : Json → Prop
  | null : Whole .null
  | bool (value : Bool) : Whole (.bool value)
  | integer (value : Int) : Whole (.integer value)
  | string (value : String) : Whole (.string value)
  | array {items : List Json} (items_whole : ∀ x ∈ items, Whole x) : Whole (.array items)
  | object {members : List (String × Json)} (increasing : Table.Increasing members)
      (members_whole : ∀ entry ∈ members, Whole entry.2) : Whole (.object members)

theorem whole_array_iff {items : List Json} :
    (Json.array items).Whole ↔ ∀ x ∈ items, x.Whole := by
  constructor
  · rintro (_ | _ | _ | _ | items_whole)
    exact items_whole
  · exact Whole.array

theorem whole_object_iff {members : List (String × Json)} :
    (Json.object members).Whole ↔
      Table.Increasing members ∧ ∀ key x, Table.find? members key = some x → x.Whole := by
  constructor
  · rintro (_ | _ | _ | _ | _ | ⟨increasing, members_whole⟩)
    refine ⟨increasing, ?_⟩
    intro key x hfind
    exact members_whole _ ((increasing.find?_eq_some_iff key x).mp hfind)
  · rintro ⟨increasing, hfind⟩
    refine Whole.object increasing ?_
    rintro ⟨key, x⟩ hentry
    exact hfind key x ((increasing.find?_eq_some_iff key x).mpr hentry)

/-- The place of a value among the kinds, as the order of the texts has it.  Each truth value is
a kind of its own. -/
def grade : Json → Nat
  | .string _ => 0
  | .integer _ | .fraction _ => 1
  | .array _ => 2
  | .bool false => 4
  | .null => 5
  | .bool true => 6
  | .object _ => 7

/-- The characters at which another kind of value begins. -/
def gradeMarks : List Char := ['-', '[', '\\', 'f', 'n', 't', '\x7b']

/-- The place of a value among the kinds, by the first character of its text. -/
def gradeOf (c : Char) : Nat := gradeMarks.countP fun mark => mark ≤ c

theorem gradeOf_mono {c d : Char} (h : c ≤ d) : gradeOf c ≤ gradeOf d := by
  apply List.countP_mono_left
  intro mark _ hmark
  rw [decide_eq_true_eq] at hmark ⊢
  exact hmark.trans h

theorem gradeOf_of_isDigit {c : Char} (h : c.isDigit = true) : gradeOf c = 1 := by
  have hbounds : '0' ≤ c ∧ c ≤ '9' := by simpa [Char.isDigit, Char.le_def] using h
  have hzero : gradeOf '0' = 1 := by decide
  have hnine : gradeOf '9' = 1 := by decide
  exact le_antisymm (hnine ▸ gradeOf_mono hbounds.2) (hzero ▸ gradeOf_mono hbounds.1)

theorem exists_text_eq_cons {a : Json} (h : a.Whole) :
    ∃ c rest, a.text = c :: rest ∧ gradeOf c = a.grade := by
  rcases h with _ | value | value | value | _ | _
  · exact ⟨_, _, rfl, by decide⟩
  · rcases value with _ | _
    · exact ⟨_, _, rfl, by decide⟩
    · exact ⟨_, _, rfl, by decide⟩
  · rcases value with value | value
    · obtain ⟨c, rest, hfigures, hc⟩ := exists_toDigits_eq_cons value
      exact ⟨c, rest, by rw [text, toList_toString_ofNat, hfigures], gradeOf_of_isDigit hc⟩
    · exact ⟨_, _, by rw [text, toList_toString_negSucc], (by decide : gradeOf '-' = 1)⟩
  · exact ⟨_, _, by rw [text, quotedText], (by decide : gradeOf '"' = 0)⟩
  · exact ⟨_, _, by rw [text], (by decide : gradeOf '[' = 2)⟩
  · exact ⟨_, _, by rw [text], (by decide : gradeOf '\x7b' = 7)⟩

/-- A value of a lower kind has the earlier text. -/
theorem noLater_of_grade_lt {a b : Json} (ha : a.Whole) (hb : b.Whole) (h : a.grade < b.grade) :
    textLe a b = true ∧ textLe b a = false := by
  obtain ⟨c, rest, hc, hgrade⟩ := exists_text_eq_cons ha
  obtain ⟨d, more, hd, hother⟩ := exists_text_eq_cons hb
  have hlt : c < d := by
    by_contra hnot
    have := gradeOf_mono (not_lt.mp hnot)
    omega
  rw [textLe, textLe, hc, hd]
  refine ⟨noLater_cons_iff.mpr (Or.inl hlt), ?_⟩
  rw [← Bool.not_eq_true, noLater_cons_iff]
  rintro (hgt | ⟨heq, -⟩)
  · exact lt_asymm hlt hgt
  · exact hlt.ne' heq

/-! ## Texts tell values apart -/

/-- The elements of a list written one after the other, with commas between them. -/
def separated {α : Type} (write : α → List Char) : List α → List Char
  | [] => []
  | [x] => write x
  | x :: rest => write x ++ ',' :: separated write rest

/-- What comes after the first element of a list, with other text behind the closing
character. -/
def afterFirst {α : Type} (write : α → List Char) (close : Char) (later : List α)
    (more : List Char) : List Char :=
  match later with
  | [] => close :: more
  | _ :: _ => ',' :: (separated write later ++ close :: more)

section Separated

variable {α : Type} {write : α → List Char} {close : Char}

theorem separated_cons_append (x : α) (later : List α) (more : List Char) :
    separated write (x :: later) ++ close :: more = write x ++ afterFirst write close later more := by
  rcases later with _ | ⟨y, later⟩ <;> simp [separated, afterFirst]

theorem stops_afterFirst (h : close.isDigit = false) (later : List α) (more : List Char) :
    Stops (afterFirst write close later more) := by
  rcases later with _ | ⟨y, later⟩
  · exact stops_cons h _
  · exact stops_cons (by decide) _

/-- Where every element tells where it ends, so does the list of them with its closing
character. -/
theorem separated_append_inj
    (hclose : close.isDigit = false ∧ close ≠ ',') {xs ys : List α} {rest more : List Char}
    (hfirst : ∀ x, x ∈ xs ∨ x ∈ ys → ∃ c after, write x = c :: after ∧ c ≠ close)
    (hends : ∀ x ∈ xs, ∀ y ∈ ys, ∀ rest more, Stops rest → Stops more →
      write x ++ rest = write y ++ more → x = y ∧ rest = more)
    (h : separated write xs ++ close :: rest = separated write ys ++ close :: more) :
    xs = ys ∧ rest = more := by
  induction xs generalizing ys with
  | nil =>
      rcases ys with _ | ⟨y, ys⟩
      · exact ⟨rfl, (List.cons.inj h).2⟩
      · obtain ⟨c, after, hc, hne⟩ := hfirst y (Or.inr List.mem_cons_self)
        rw [separated_cons_append, hc] at h
        exact absurd (List.cons.inj h).1.symm hne
  | cons x xs ih =>
      rcases ys with _ | ⟨y, ys⟩
      · obtain ⟨c, after, hc, hne⟩ := hfirst x (Or.inl List.mem_cons_self)
        rw [separated_cons_append, hc] at h
        exact absurd (List.cons.inj h).1 hne
      · rw [separated_cons_append, separated_cons_append] at h
        obtain ⟨rfl, hlater⟩ := hends x List.mem_cons_self y List.mem_cons_self _ _
          (stops_afterFirst hclose.1 xs rest) (stops_afterFirst hclose.1 ys more) h
        rcases xs with _ | ⟨x', xs⟩ <;> rcases ys with _ | ⟨y', ys⟩
        · exact ⟨rfl, (List.cons.inj hlater).2⟩
        · exact absurd (List.cons.inj hlater).1 hclose.2
        · exact absurd (List.cons.inj hlater).1.symm hclose.2
        · obtain ⟨hxs, hrest⟩ := ih
            (fun z hz => hfirst z (hz.imp (List.mem_cons_of_mem _) (List.mem_cons_of_mem _)))
            (fun z hz z' hz' => hends z (List.mem_cons_of_mem _ hz) z' (List.mem_cons_of_mem _ hz'))
            (List.cons.inj hlater).2
          exact ⟨by rw [hxs], hrest⟩

end Separated

theorem itemsText_eq_separated (items : List Json) : itemsText items = separated text items := by
  induction items with
  | nil => rfl
  | cons x rest ih => rcases rest with _ | ⟨y, rest⟩ <;> simp only [itemsText, separated, ih]

/-- The text of a member. -/
def memberText (entry : String × Json) : List Char := quotedText entry.1 ++ ':' :: entry.2.text

theorem membersText_eq_separated (members : List (String × Json)) :
    membersText members = separated memberText members := by
  induction members with
  | nil => rfl
  | cons entry rest ih =>
      obtain ⟨k, x⟩ := entry
      rcases rest with _ | ⟨other, rest⟩
      · rfl
      · rw [membersText, separated, ih]
        · simp [memberText]
        · simp
        · simp

theorem grade_eq_of_append_eq
    {a b : Json} (ha : a.Whole) (hb : b.Whole) {rest more : List Char}
    (h : a.text ++ rest = b.text ++ more) : a.grade = b.grade := by
  obtain ⟨c, after, hc, hfirst⟩ := exists_text_eq_cons ha
  obtain ⟨d, later, hd, hsecond⟩ := exists_text_eq_cons hb
  rw [hc, hd] at h
  rw [← hfirst, ← hsecond, (List.cons.inj h).1]

theorem exists_text_eq_cons_ne_bracket {a : Json} (ha : a.Whole) :
    ∃ c rest, a.text = c :: rest ∧ c ≠ ']' := by
  obtain ⟨c, rest, hc, hgrade⟩ := exists_text_eq_cons ha
  refine ⟨c, rest, hc, ?_⟩
  rintro rfl
  have hthree : gradeOf ']' = 3 := by decide
  rw [hthree] at hgrade
  rcases ha with _ | ⟨_ | _⟩ | _ | _ | _ | _ <;> simp [grade] at hgrade

/-- The text of a value tells where it ends, unless figures go on behind it. -/
theorem text_append_inj
    {a b : Json} (ha : a.Whole) (hb : b.Whole) {rest more : List Char}
    (hrest : Stops rest) (hmore : Stops more) (h : a.text ++ rest = b.text ++ more) :
    a = b ∧ rest = more := by
  have hgrade := grade_eq_of_append_eq ha hb h
  induction ha generalizing b rest more with
  | null =>
      rcases hb with _ | ⟨_ | _⟩ | _ | _ | _ | _ <;> simp [grade] at hgrade
      exact ⟨rfl, List.append_cancel_left h⟩
  | bool value =>
      rcases value with _ | _ <;> rcases hb with _ | ⟨_ | _⟩ | _ | _ | _ | _ <;>
        simp [grade] at hgrade
      · exact ⟨rfl, List.append_cancel_left h⟩
      · exact ⟨rfl, List.append_cancel_left h⟩
  | integer value =>
      rcases hb with _ | ⟨_ | _⟩ | other | _ | _ | _ <;> simp [grade] at hgrade
      exact (integer_append_inj hrest hmore h).imp_left (congrArg integer)
  | string value =>
      rcases hb with _ | ⟨_ | _⟩ | _ | other | _ | _ <;> simp [grade] at hgrade
      exact (quotedText_append_inj h).imp_left (congrArg string)
  | @array items items_whole ih =>
      rcases hb with _ | ⟨_ | _⟩ | _ | _ | @⟨others, others_whole⟩ | _ <;> simp [grade] at hgrade
      rw [text, text, List.cons_append, List.cons_append, List.append_assoc, List.append_assoc,
        itemsText_eq_separated, itemsText_eq_separated] at h
      have hfirst : ∀ x, x ∈ items ∨ x ∈ others → ∃ c after, x.text = c :: after ∧ c ≠ ']' :=
        fun x hx => exists_text_eq_cons_ne_bracket (hx.elim (items_whole x) (others_whole x))
      have hends : ∀ x ∈ items, ∀ y ∈ others, ∀ rest more, Stops rest → Stops more →
          x.text ++ rest = y.text ++ more → x = y ∧ rest = more := by
        intro x hx y hy rest more hrest hmore heq
        have hy := others_whole y hy
        exact ih x hx hy hrest hmore heq (grade_eq_of_append_eq (items_whole x hx) hy heq)
      obtain ⟨rfl, hrest⟩ :=
        separated_append_inj ⟨by decide, by decide⟩ hfirst hends (List.cons.inj h).2
      exact ⟨rfl, hrest⟩
  | @object members increasing members_whole ih =>
      rcases hb with _ | ⟨_ | _⟩ | _ | _ | _ | @⟨others, _, others_whole⟩ <;> simp [grade] at hgrade
      rw [text, text, List.cons_append, List.cons_append, List.append_assoc, List.append_assoc,
        membersText_eq_separated, membersText_eq_separated] at h
      have hfirst : ∀ x, x ∈ members ∨ x ∈ others →
          ∃ c after, memberText x = c :: after ∧ c ≠ '\x7d' :=
        fun x _ => ⟨'"', _, rfl, by decide⟩
      have hends : ∀ x ∈ members, ∀ y ∈ others, ∀ rest more, Stops rest → Stops more →
          memberText x ++ rest = memberText y ++ more → x = y ∧ rest = more := by
        rintro ⟨k, x⟩ hx ⟨l, y⟩ hy rest more hrest hmore heq
        rw [memberText, memberText, List.append_assoc, List.append_assoc] at heq
        obtain ⟨rfl, hvalues⟩ := quotedText_append_inj heq
        have heq := (List.cons.inj hvalues).2
        have hy := others_whole _ hy
        obtain ⟨rfl, hafter⟩ := ih _ hx hy hrest hmore heq
          (grade_eq_of_append_eq (members_whole _ hx) hy heq)
        exact ⟨rfl, hafter⟩
      obtain ⟨rfl, hrest⟩ :=
        separated_append_inj ⟨by decide, by decide⟩ hfirst hends (List.cons.inj h).2
      exact ⟨rfl, hrest⟩

theorem text_injective {a b : Json} (ha : a.Whole) (hb : b.Whole) (h : a.text = b.text) : a = b :=
  (text_append_inj ha hb stops_nil stops_nil (by rw [h])).1

theorem textLe_total (a b : Json) : textLe a b = true ∨ textLe b a = true :=
  noLater_total a.text b.text

theorem textLe_trans {a b c : Json} (h : textLe a b = true) (h' : textLe b c = true) :
    textLe a c = true :=
  noLater_trans h h'

theorem textLe_antisymm
    {a b : Json} (ha : a.Whole) (hb : b.Whole) (h : textLe a b = true) (h' : textLe b a = true) :
    a = b :=
  text_injective ha hb (noLater_antisymm h h')

/-! ## Agreement -/

theorem unsignedItems_eq (items : List Json) : unsignedItems items = items.map unsigned := by
  induction items with
  | nil => rfl
  | cons x rest ih => rw [unsignedItems, ih, List.map_cons]

theorem unsignedMembers_eq (members : List (String × Json)) :
    unsignedMembers members = members.map fun entry => (entry.1, entry.2.unsigned) := by
  induction members with
  | nil => rfl
  | cons entry rest ih => rw [unsignedMembers, ih, List.map_cons]

theorem Whole.unsigned_eq {a : Json} (h : a.Whole) : a.unsigned = a := by
  induction h with
  | array _ ih => rw [unsigned, unsignedItems_eq, List.map_congr_left ih, List.map_id']
  | @object members _ _ ih =>
      have hmembers : ∀ entry ∈ members, (entry.1, entry.2.unsigned) = entry :=
        fun entry hentry => Prod.ext rfl (ih entry hentry)
      rw [unsigned, unsignedMembers_eq, List.map_congr_left hmembers, List.map_id']
  | _ => rw [unsigned] <;> simp

theorem Whole.agrees_iff {a b : Json} (ha : a.Whole) (hb : b.Whole) : a.agrees b = true ↔ a = b := by
  rw [agrees, decide_eq_true_eq, ha.unsigned_eq, hb.unsigned_eq]

end Switchboard.Json
