import ClusterTrials.Binary64.Reading
/-!
# The shortest decimal that reads back

`shortest` gives, for a positive finite number, the decimal with the fewest digits among those that
round to the number, and of these the nearest. Grids of one to seventeen digits are tried in turn; on
each grid only the two neighbours of the exact value can lie in the interval of decimals that read
back. Everything is compared exactly, over the common denominator
`4 * unitsPerOne * decimalUnits`.
-/

namespace ClusterTrials.Binary64

/-- Which of two equally near decimals is taken. -/
inductive Tie
  | up
  | even
  deriving DecidableEq, Repr

/-- The decimal number `coefficient * 10 ^ exponent`. -/
structure Decimal where
  coefficient : Nat
  exponent : Int
  deriving DecidableEq, Repr

/-- The exponent of a power of ten that makes every binary number of interest at least one. -/
def decimalShift : Nat := 400

def decimalUnits : Nat := Nat.pow 10 decimalShift

/-- The position of the leading digit: the largest `e` with `10 ^ e ≤ x`. -/
def leadingExponent (x : Binary64) : Int :=
  (decimalLength (x.magnitude * decimalUnits / unitsPerOne) : Int) - 1 - decimalShift

/-- Whether `coefficient * grid / decimalUnits` rounds to `x`. -/
def readsBack (x : Binary64) (coefficient grid : Nat) : Bool :=
  let quarter := Nat.pow 2 x.scale * decimalUnits
  let below := if x.significand = leadingBit ∧ 0 < x.scale then 1 else 2
  let low := (4 * x.significand - below) * quarter
  let high := (4 * x.significand + 2) * quarter
  let candidate := 4 * coefficient * grid * unitsPerOne
  if x.significand % 2 = 0 then low ≤ candidate && candidate ≤ high
  else low < candidate && candidate < high

/-- The better of the two neighbours of `x` on a grid, if either reads back. -/
def onGrid (tie : Tie) (x : Binary64) (grid : Nat) : Option Nat :=
  let exact := x.magnitude * decimalUnits
  let step := grid * unitsPerOne
  let down := exact / step
  match x.readsBack down grid, x.readsBack (down + 1) grid with
  | true, false => some down
  | false, true => some (down + 1)
  | false, false => none
  | true, true =>
    let twice := 2 * (exact % step)
    if twice < step then some down
    else if step < twice then some (down + 1)
    else match tie with
      | .up => some (down + 1)
      | .even => if down % 2 = 0 then some down else some (down + 1)

def Decimal.strip (coefficient : Nat) (exponent : Int) : Decimal :=
  if h : 0 < coefficient ∧ coefficient % 10 = 0 then
    strip (coefficient / 10) (exponent + 1)
  else ⟨coefficient, exponent⟩
termination_by coefficient
decreasing_by exact Nat.div_lt_self h.1 (by decide)

/-- Tries the grids of `digits`, `digits + 1`, … places, at most `count` of them. -/
def shortestFrom (tie : Tie) (x : Binary64) (digits : Nat) : Nat → Decimal
  | 0 => ⟨0, 0⟩
  | count + 1 =>
    let exponent := x.leadingExponent + 1 - digits
    match x.onGrid tie (Nat.pow 10 (exponent + decimalShift).toNat) with
    | some coefficient => .strip coefficient exponent
    | none => shortestFrom tie x (digits + 1) count

def shortest (tie : Tie) (x : Binary64) : Decimal := shortestFrom tie x 1 17

end ClusterTrials.Binary64
