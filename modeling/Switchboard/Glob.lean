/-!
# Path patterns

Patterns over slash-separated paths.  `?` stands for one character of a
component, `*` for a stretch within a component, `**` for whole components, and
a bracketed class for one character in (or, after `!`, out of) the class.  A
pattern is compiled to a list of tokens; a token leads from a path to the rests
it may leave, and a path matches when some choice of rests ends with nothing
left.  The verdict is computed for all suffixes of a path at once, from the last
token to the first, in time proportional to the tokens and the path.
-/

namespace Switchboard

namespace Glob

/-- What a character class lists. -/
inductive Span where
  | single (char : Char)
  | range (low high : Char)
  deriving DecidableEq, Repr

/-- A unit of a pattern. -/
inductive Token where
  /-- The character itself. -/
  | literal (char : Char)
  /-- One character other than a slash. -/
  | anyChar
  /-- Any stretch without a slash. -/
  | anyStretch
  /-- Any number of whole components. -/
  | anyComponents
  /-- A character in the class, other than a slash. -/
  | inClass (spans : List Span)
  /-- A character outside the class, other than a slash. -/
  | outOfClass (spans : List Span)
  deriving DecidableEq, Repr

/-- Why a pattern is malformed. -/
inductive Reason where
  | stars
  | recursiveStars
  | openClass
  deriving DecidableEq, Repr

/-- The wording of a reason. -/
def Reason.message : Reason → String
  | .stars => "wildcards are either regular `*` or recursive `**`"
  | .recursiveStars => "recursive wildcards must form a single path component"
  | .openClass => "invalid range pattern"

/-- The first fault of a malformed pattern, with its place in characters. -/
structure Fault where
  position : Nat
  reason : Reason
  deriving DecidableEq, Repr

/-! ## Character classes -/

/-- The spans listed in a class: a hyphen between two characters makes a range. -/
def spans : List Char → List Span
  | low :: '-' :: high :: rest => .range low high :: spans rest
  | c :: rest => .single c :: spans rest
  | [] => []

/-- Whether a span holds a character. -/
def Span.holds (c : Char) : Span → Bool
  | .single d => c == d
  | .range low high => decide (low ≤ c ∧ c ≤ high)

/-! ## Compiling -/

/-- Whether a `**` may start after the given character: at the start of the
pattern or after a slash. -/
def startsComponent : Option Char → Bool
  | none => true
  | some c => c == '/'

mutual

/-- The tokens of a pattern from a given place on; `before` is the character
before that place. -/
def compileFrom (position : Nat) (before : Option Char) : List Char → Except Fault (List Token)
  | [] => .ok []
  | '?' :: rest => (compileFrom (position + 1) (some '?') rest).map (.anyChar :: ·)
  | '*' :: '*' :: '*' :: _ => .error ⟨position + 2, .stars⟩
  | ['*', '*'] =>
      if startsComponent before then .ok [.anyComponents]
      else .error ⟨position - 1, .recursiveStars⟩
  | '*' :: '*' :: '/' :: rest =>
      if startsComponent before then
        (compileFrom (position + 3) (some '/') rest).map (.anyComponents :: ·)
      else .error ⟨position - 1, .recursiveStars⟩
  | '*' :: '*' :: _ :: _ =>
      if startsComponent before then .error ⟨position + 2, .recursiveStars⟩
      else .error ⟨position - 1, .recursiveStars⟩
  | '*' :: rest => (compileFrom (position + 1) (some '*') rest).map (.anyStretch :: ·)
  | ['['] => .error ⟨position, .openClass⟩
  | ['[', '!'] => .error ⟨position, .openClass⟩
  | '[' :: '!' :: c :: rest => compileClass position (position + 3) true [c] rest
  | '[' :: c :: rest => compileClass position (position + 2) false [c] rest
  | c :: rest => (compileFrom (position + 1) (some c) rest).map (.literal c :: ·)

/-- The tokens of a pattern from a given place within a class, which was opened
at `opened` and lists `body` so far, the last character first.  The first
character of a class belongs to it even when it is a closing bracket. -/
def compileClass (opened position : Nat) (negated : Bool) (body : List Char) :
    List Char → Except Fault (List Token)
  | [] => .error ⟨opened, .openClass⟩
  | ']' :: rest =>
      let listed := spans body.reverse
      let token := if negated then Token.outOfClass listed else Token.inClass listed
      (compileFrom (position + 1) (some ']') rest).map (token :: ·)
  | c :: rest => compileClass opened (position + 1) negated (c :: body) rest

end

/-- The tokens of a pattern, or its first fault. -/
def compile (pattern : String) : Except Fault (List Token) := compileFrom 0 none pattern.toList

/-! ## Matching -/

/-- The rests of a path after each of its slashes. -/
def afterSlashes : List Char → List (List Char)
  | [] => []
  | c :: rest => if c = '/' then rest :: afterSlashes rest else afterSlashes rest

/-- The rests of a path within its first component, the whole path first. -/
def withinComponent : List Char → List (List Char)
  | [] => [[]]
  | c :: rest => (c :: rest) :: (if c = '/' then [] else withinComponent rest)

/-- The rest after one character that passes a test. -/
def afterChar (test : Char → Bool) : List Char → List (List Char)
  | [] => []
  | c :: rest => if test c then [rest] else []

/-- The rests of a path that a token may leave. -/
def Token.rests : Token → List Char → List (List Char)
  | .literal d => afterChar (· == d)
  | .anyChar => afterChar (· != '/')
  | .inClass spans => afterChar fun c => c != '/' && spans.any (Span.holds c)
  | .outOfClass spans => afterChar fun c => c != '/' && !spans.any (Span.holds c)
  | .anyStretch => withinComponent
  | .anyComponents => fun path => path :: (afterSlashes path ++ [[]])

/-- Whether the tokens account for the whole path. -/
def accepts : List Token → List Char → Bool
  | [], path => path.isEmpty
  | token :: tokens, path => (token.rests path).any (accepts tokens)

/-! ## Verdicts on all suffixes -/

/-- The suffixes of a path, the longest first. -/
def suffixes : List Char → List (List Char)
  | [] => [[]]
  | c :: rest => (c :: rest) :: suffixes rest

/-- The verdicts on the suffixes of a path when one character that passes a test
goes before what `later` judges. -/
def charVerdicts (test : Char → Bool) : List Char → List Bool → List Bool
  | c :: rest, _ :: later => (test c && later.headD false) :: charVerdicts test rest later
  | _, _ => [false]

/-- The verdicts when a stretch without a slash goes before what `later` judges. -/
def stretchVerdicts : List Char → List Bool → List Bool
  | c :: rest, now :: later =>
      let tail := stretchVerdicts rest later
      (now || (c != '/' && tail.headD false)) :: tail
  | _, later => later

/-- Whether `later` favours a suffix that follows a slash, or the end. -/
def slashVerdicts : List Char → List Bool → List Bool
  | c :: rest, _ :: later =>
      let tail := slashVerdicts rest later
      ((c == '/' && later.headD false) || tail.headD false) :: tail
  | _, later => later

/-- The verdicts on the suffixes of a path when a token goes before what `later`
judges. -/
def Token.verdicts : Token → List Char → List Bool → List Bool
  | .literal d => charVerdicts (· == d)
  | .anyChar => charVerdicts (· != '/')
  | .inClass spans => charVerdicts fun c => c != '/' && spans.any (Span.holds c)
  | .outOfClass spans => charVerdicts fun c => c != '/' && !spans.any (Span.holds c)
  | .anyStretch => stretchVerdicts
  | .anyComponents => fun path later =>
      List.zipWith (fun now after => now || after) later (slashVerdicts path later)

/-- For every suffix of a path whether the tokens account for it. -/
def verdicts : List Token → List Char → List Bool
  | [], path => (suffixes path).map List.isEmpty
  | token :: tokens, path => token.verdicts path (verdicts tokens path)

theorem headD_map_suffixes (f : List Char → Bool) (path : List Char) :
    ((suffixes path).map f).headD false = f path := by
  cases path <;> simp [suffixes]

theorem charVerdicts_map (test : Char → Bool) (f : List Char → Bool) (path : List Char) :
    charVerdicts test path ((suffixes path).map f) =
      (suffixes path).map fun path => (afterChar test path).any f := by
  induction path with
  | nil => rfl
  | cons c rest ih =>
      simp only [suffixes, List.map_cons, charVerdicts, headD_map_suffixes, ih, List.cons.injEq,
        and_true]
      cases h : test c <;> simp [afterChar, h]

theorem stretchVerdicts_map (f : List Char → Bool) (path : List Char) :
    stretchVerdicts path ((suffixes path).map f) =
      (suffixes path).map fun path => (withinComponent path).any f := by
  induction path with
  | nil => simp [suffixes, stretchVerdicts, withinComponent]
  | cons c rest ih =>
      simp only [suffixes, List.map_cons, stretchVerdicts, ih, headD_map_suffixes,
        List.cons.injEq, and_true]
      by_cases h : c = '/'
      · simp [withinComponent, h]
      · simp [withinComponent, bne, beq_false_of_ne h, h]

theorem slashVerdicts_map (f : List Char → Bool) (path : List Char) :
    slashVerdicts path ((suffixes path).map f) =
      (suffixes path).map fun path => (afterSlashes path ++ [[]]).any f := by
  induction path with
  | nil => simp [suffixes, slashVerdicts, afterSlashes]
  | cons c rest ih =>
      simp only [suffixes, List.map_cons, slashVerdicts, ih, headD_map_suffixes,
        List.cons.injEq, and_true]
      by_cases h : c = '/' <;> simp [afterSlashes, h]

theorem Token.verdicts_map (token : Token) (f : List Char → Bool) (path : List Char) :
    token.verdicts path ((suffixes path).map f) =
      (suffixes path).map fun path => (token.rests path).any f := by
  cases token with
  | anyStretch => exact stretchVerdicts_map f path
  | anyComponents =>
      simp only [Token.verdicts, slashVerdicts_map, Token.rests, List.any_cons]
      induction suffixes path with
      | nil => rfl
      | cons suffix rest ih => simp
  | _ => exact charVerdicts_map _ f path

/-- The verdicts are those of `accepts`. -/
theorem verdicts_eq_map (tokens : List Token) (path : List Char) :
    verdicts tokens path = (suffixes path).map (accepts tokens) := by
  induction tokens with
  | nil => rfl
  | cons token tokens ih => simp only [verdicts, ih, Token.verdicts_map]; rfl

end Glob

/-- A compiled pattern with its source text. -/
structure Glob where
  source : String
  tokens : List Glob.Token
  deriving DecidableEq, Repr

namespace Glob

/-- Compiles a pattern. -/
def ofSource (source : String) : Except Fault Glob :=
  (compile source).map fun tokens => ⟨source, tokens⟩

/-- Whether a path matches the pattern. -/
def admits (glob : Glob) (path : String) : Bool := (verdicts glob.tokens path.toList).headD false

/-- A path matches when the tokens account for all of it. -/
theorem admits_eq_accepts (glob : Glob) (path : String) :
    glob.admits path = accepts glob.tokens path.toList := by
  rw [admits, verdicts_eq_map, headD_map_suffixes]

theorem source_ofSource {source : String} {glob : Glob} (h : ofSource source = .ok glob) :
    glob.source = source := by
  unfold ofSource at h
  cases hc : compile source with
  | error fault => simp [hc, Except.map] at h
  | ok tokens =>
      simp only [hc, Except.map, Except.ok.injEq] at h
      simp [← h]

end Glob

end Switchboard
