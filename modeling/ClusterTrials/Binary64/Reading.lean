import ClusterTrials.Binary64.Basic
import ClusterTrials.Rounding
/-!
# Reading decimal text as a binary number

`ofRatio` rounds a ratio of natural numbers to the nearest binary number, ties to an even
significand. `read?` accepts an optional sign followed by `inf`, `infinity` or `nan` in any case, or
by digits with an optional point and an optional exponent, with at least one digit before the
exponent.
-/

namespace ClusterTrials.Binary64

/-- The binary number nearest to `num / den`.

With `scale` chosen so that the rounded significand has 53 bits, or `scale = 0` below the normal
range, the significand added to `scale` exponent steps is the word: a significand that rounds up to
`2 ^ 53` carries into the exponent. -/
def ofRatio (negative : Bool) (num den : Nat) : Binary64 :=
  let units := num * unitsPerOne
  let scale := Nat.log2 (units / den) - 52
  let word := scale * leadingBit + roundHalfEven units (den * Nat.pow 2 scale)
  if word < 2047 * leadingBit then withSign negative word else infinity negative

/-- The number of decimal digits of `n`, with none for zero. -/
def decimalLength (n : Nat) : Nat :=
  if n = 0 then 0 else decimalLength (n / 10) + 1

/-- The binary number nearest to `coefficient * 10 ^ exponent`.

Values whose leading digit stands above `10 ^ 400` or below `10 ^ -400` are decided without
computing the power. -/
def ofDecimal (negative : Bool) (coefficient : Nat) (exponent : Int) : Binary64 :=
  if coefficient = 0 then withSign negative 0
  else
    let leading := exponent + decimalLength coefficient
    if 400 < leading then infinity negative
    else if leading < -400 then withSign negative 0
    else if 0 ≤ exponent then ofRatio negative (coefficient * Nat.pow 10 exponent.toNat) 1
    else ofRatio negative coefficient (Nat.pow 10 (-exponent).toNat)

def digitsValue (digits : List Char) : Nat :=
  digits.foldl (fun value c => 10 * value + (c.toNat - '0'.toNat)) 0

/-- Splits a leading `+` or `-` off; the flag tells whether it was `-`. -/
def splitSign : List Char → Bool × List Char
  | '-' :: rest => (true, rest)
  | '+' :: rest => (false, rest)
  | rest => (false, rest)

/-- Reads a whole exponent part: nothing, or `e` with an optional sign and digits. -/
def readExponent? : List Char → Option Int
  | [] => some 0
  | c :: rest =>
    if c = 'e' ∨ c = 'E' then
      let (negative, digits) := splitSign rest
      if digits.isEmpty || !digits.all Char.isDigit then none
      else
        let value : Int := digitsValue digits
        some (if negative then -value else value)
    else none

def readUnsigned? (text : List Char) : Option (Nat × Int) :=
  let whole := text.takeWhile Char.isDigit
  let rest := text.dropWhile Char.isDigit
  let (part, rest) := match rest with
    | '.' :: more => (more.takeWhile Char.isDigit, more.dropWhile Char.isDigit)
    | _ => ([], rest)
  if whole.isEmpty && part.isEmpty then none
  else (readExponent? rest).map fun exponent =>
    (digitsValue (whole ++ part), exponent - part.length)

def read? (text : List Char) : Option Binary64 :=
  let (negative, rest) := splitSign text
  let lower := rest.map Char.toLower
  if lower = "inf".toList ∨ lower = "infinity".toList then some (infinity negative)
  else if lower = "nan".toList then some nan
  else (readUnsigned? rest).map fun (coefficient, exponent) =>
    ofDecimal negative coefficient exponent

end ClusterTrials.Binary64
