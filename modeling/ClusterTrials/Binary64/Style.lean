import ClusterTrials.Binary64.Shortest
/-!
# Ways to write a number

A `NumberStyle` says how the shortest decimal of a number is laid out. Three are in use: `plain` for
messages, which never writes an exponent; `yaml` and `json` for configuration documents, which differ
in the sign of a positive exponent and in the words for numbers that are not finite.
-/

namespace ClusterTrials

structure NumberStyle where
  /-- Whether a number is written without exponent, by the place of its decimal point: the point
  follows that many digits of the coefficient. -/
  positional : Int → Bool
  /-- Whether a whole number ends in `.0`. -/
  pointZero : Bool
  /-- What stands before a positive exponent. -/
  exponentPlus : String
  tie : Binary64.Tie
  nan : String
  /-- The words for the infinite numbers, by sign. -/
  infinity : Bool → String

namespace NumberStyle

def plain : NumberStyle :=
  { positional := fun _ => true, pointZero := false, exponentPlus := "", tie := .up
    nan := "NaN", infinity := fun negative => if negative then "-inf" else "inf" }

/-- Positional from `0.00001` up to sixteen whole digits. -/
def yaml : NumberStyle :=
  { positional := fun point => -5 < point && point ≤ 16, pointZero := true, exponentPlus := ""
    tie := .even, nan := ".nan"
    infinity := fun negative => if negative then "-.inf" else ".inf" }

def json : NumberStyle :=
  { yaml with exponentPlus := "+", nan := "null", infinity := fun _ => "null" }

private def zeros (n : Nat) : String := String.ofList (List.replicate n '0')

def layOut (style : NumberStyle) (digits : String) (point : Int) : String :=
  let count := digits.length
  if style.positional point then
    if point ≤ 0 then s!"0.{zeros (-point).toNat}{digits}"
    else if count ≤ point.toNat then
      s!"{digits}{zeros (point.toNat - count)}" ++ (if style.pointZero then ".0" else "")
    else
      let cs := digits.toList
      String.ofList (cs.take point.toNat) ++ "." ++ String.ofList (cs.drop point.toNat)
  else
    let cs := digits.toList
    let lead := String.ofList (cs.take 1)
    let rest := String.ofList (cs.drop 1)
    let exponent := point - 1
    let sign := if exponent < 0 then "-" else style.exponentPlus
    lead ++ (if rest = "" then "" else "." ++ rest) ++ "e" ++ sign ++ toString exponent.natAbs

def write (style : NumberStyle) (x : Binary64) : String :=
  if x.isNaN then style.nan
  else if !x.isFinite then style.infinity x.signBit
  else
    let sign := if x.signBit then "-" else ""
    if x.magnitude = 0 then sign ++ "0" ++ (if style.pointZero then ".0" else "")
    else
      let decimal := x.shortest style.tie
      let digits := toString decimal.coefficient
      sign ++ style.layOut digits (decimal.exponent + digits.length)

end NumberStyle

end ClusterTrials
