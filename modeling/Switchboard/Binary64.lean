/-!
# Finite binary floating point numbers

A finite number of the 64-bit binary format, held exactly as a sign, a
significand and a power of two.  The module rounds a quotient of natural
numbers to the nearest such number, and writes a number with the fewest decimal
digits that round back to it.
-/

namespace Switchboard

/-- The finite number `significand * 2 ^ exponent`, negated when `negative`. -/
structure Binary64 where
  negative : Bool
  significand : Nat
  exponent : Int
  deriving DecidableEq, Repr, Inhabited

namespace Binary64

/-- The integer nearest to `num / den`; a half goes to the even neighbour. -/
def roundQuotient (num den : Nat) : Nat :=
  let floor := num / den
  let rest := num % den
  if 2 * rest < den ∨ (2 * rest = den ∧ floor % 2 = 0) then floor else floor + 1

/-- A quotient times a power of two, as a quotient. -/
def shifted (num den : Nat) : Int → Nat × Nat
  | .ofNat k => (num * Nat.pow 2 k, den)
  | .negSucc k => (num, den * Nat.pow 2 (k + 1))

/-- The leading bit of a full significand, `2 ^ 52`. -/
def leadingBit : Nat := 4503599627370496

/-- The magnitude nearest to `num / den * 2 ^ power`, unless it is too large
for the format. -/
def nearest (num den : Nat) (power : Int) : Option (Nat × Int) :=
  if num = 0 then some (0, 0)
  else
    let guess : Int := (num.log2 : Int) - (den.log2 : Int)
    let (above, below) := shifted num den (-guess)
    let order : Int := if above < below then guess - 1 else guess
    let exponent : Int := max (order + power - 52) (-1074)
    let (top, bottom) := shifted num den (power - exponent)
    let rounded := roundQuotient top bottom
    let (significand, exponent) :=
      if rounded = 2 * leadingBit then (leadingBit, exponent + 1) else (rounded, exponent)
    if significand = 0 then some (0, 0)
    else if exponent > 971 then none
    else some (significand, exponent)

/-- The power of ten nearest to `10 ^ k`, for exponents the format can hold. -/
def tenTo (k : Nat) : Nat × Int := (nearest (Nat.pow 10 k) 1 0).getD (0, 0)

/-- A magnitude divided by a power of ten, in steps of at most `10 ^ 308`. -/
def scaleDown (magnitude : Nat × Int) (k : Nat) : Nat × Int :=
  if magnitude.1 = 0 then magnitude
  else
    let step := min k 308
    let ten := tenTo step
    let divided := (nearest magnitude.1 ten.1 (magnitude.2 - ten.2)).getD (0, 0)
    if h : k ≤ 308 then divided else scaleDown divided (k - 308)
  termination_by k
  decreasing_by omega

/-- The number written as a decimal significand and a power of ten.  The
significand is rounded first and scaled by one rounded power of ten. -/
def ofDecimal (negative : Bool) (significand : Nat) (power : Int) : Option Binary64 := do
  let start ← nearest significand 1 0
  let (m, q) ←
    if start.1 = 0 then some start
    else match power with
      | .ofNat k =>
          if k ≤ 308 then
            let ten := tenTo k
            nearest (start.1 * ten.1) 1 (start.2 + ten.2)
          else none
      | .negSucc k => some (scaleDown start (k + 1))
  return ⟨negative, m, q⟩

/-! ## Shortest decimal digits -/

/-- Whether `digits * 10 ^ power` lies among the reals that round to the
number with four times the magnitude `four * num / den`; `low` and `high` are
the ends of that range on the same scale. -/
def withinRange (ends : Bool) (low high : Nat × Nat) (digits : Nat × Nat) : Bool :=
  let below := compare (digits.1 * low.2) (low.1 * digits.2)
  let above := compare (digits.1 * high.2) (high.1 * digits.2)
  (below == .gt || (ends && below == .eq)) && (above == .lt || (ends && above == .eq))

/-- The power of ten of the leading digit of `num / den`. -/
def leadingPower (num den : Nat) : Int :=
  if den ≤ num then ((Nat.toDigits 10 (num / den)).length : Int) - 1
  else
    let zeros : Nat := ((List.range 400).find? fun k => den ≤ num * Nat.pow 10 (k + 1)).getD 0
    Int.negSucc zeros

/-- The value `digits * 10 ^ power` as a quotient. -/
def decimalQuotient (digits : Nat) : Int → Nat × Nat
  | .ofNat k => (digits * Nat.pow 10 k, 1)
  | .negSucc k => (digits, Nat.pow 10 (k + 1))

/-- The two neighbours of `num / den` on the grid of multiples of a power of ten. -/
def neighbours (num den : Nat) : Int → Nat × Nat
  | .ofNat k => (num / (den * Nat.pow 10 k), num / (den * Nat.pow 10 k) + 1)
  | .negSucc k => (num * Nat.pow 10 (k + 1) / den, num * Nat.pow 10 (k + 1) / den + 1)

/-- Whether the lower neighbour is the nearer one; a tie goes to the even one. -/
def lowerIsNearer (num den lower : Nat) (power : Int) : Bool :=
  let (top, bottom) := match power with
    | .ofNat k => (num, den * Nat.pow 10 k)
    | .negSucc k => (num * Nat.pow 10 (k + 1), den)
  let rest := top - lower * bottom
  2 * rest < bottom || (2 * rest == bottom && lower % 2 == 0)

/-- The shortest decimal digits, with their power of ten, that round back to
the magnitude `m * 2 ^ q`; of several the nearest. -/
def shortest (m : Nat) (q : Int) : Nat × Int :=
  let (num, den) := shifted (4 * m) 1 (q - 2)
  let high := shifted (4 * m + 2) 1 (q - 2)
  let low :=
    if m = leadingBit ∧ q > -1074 then shifted (4 * m - 1) 1 (q - 2)
    else shifted (4 * m - 2) 1 (q - 2)
  let ends := m % 2 == 0
  let lead := leadingPower num den
  let hit := (List.range 17).findSome? fun (places : Nat) =>
    let power := lead - (places : Int)
    let (lower, upper) := neighbours num den power
    let fits := fun digits => withinRange ends low high (decimalQuotient digits power)
    match fits lower, fits upper with
    | true, true => some (if lowerIsNearer num den lower power then lower else upper, power)
    | true, false => some (lower, power)
    | false, true => some (upper, power)
    | false, false => none
  hit.getD (0, 0)

/-- Drops the trailing zeros of a decimal significand. -/
def dropZeros : Nat → Nat × Int → Nat × Int
  | 0, value => value
  | fuel + 1, (digits, power) =>
      if digits ≠ 0 ∧ digits % 10 = 0 then dropZeros fuel (digits / 10, power + 1)
      else (digits, power)

/-- A decimal exponent as text; the sign is always written. -/
def exponentText (exponent : Int) : List Char :=
  (if exponent < 0 then '-' else '+') :: Nat.toDigits 10 exponent.natAbs

/-- A number as text: positional while the point falls within sixteen digits
or at most four zeros after the point, and with a signed exponent otherwise.  A
whole number keeps `.0`. -/
def text (x : Binary64) : List Char :=
  let sign := if x.negative then ['-'] else []
  if x.significand = 0 then sign ++ ['0', '.', '0']
  else
    let short := shortest x.significand x.exponent
    let (digits, power) := dropZeros 20 short
    let figures := Nat.toDigits 10 digits
    let point : Int := (figures.length : Int) + power
    if 0 ≤ power ∧ point ≤ 16 then
      sign ++ figures ++ List.replicate power.toNat '0' ++ ['.', '0']
    else if 0 < point ∧ point ≤ 16 then
      sign ++ figures.take point.toNat ++ '.' :: figures.drop point.toNat
    else if -5 < point ∧ point ≤ 0 then
      sign ++ '0' :: '.' :: List.replicate (-point).toNat '0' ++ figures
    else
      let exponent := exponentText (point - 1)
      match figures with
      | [figure] => sign ++ figure :: 'e' :: exponent
      | figure :: rest => sign ++ figure :: '.' :: rest ++ 'e' :: exponent
      | [] => []

end Binary64

end Switchboard
