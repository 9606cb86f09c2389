/-!
# Reading whole numbers

A row of digits in a given base, and unsigned decimal numbers with an upper bound and an optional `+`
before them.
-/

namespace ClusterTrials.Text

def digitValue (c : Char) : Nat :=
  if c.isDigit then c.toNat - '0'.toNat
  else if 'a' ≤ c ∧ c ≤ 'z' then c.toNat - 'a'.toNat + 10
  else if 'A' ≤ c ∧ c ≤ 'Z' then c.toNat - 'A'.toNat + 10
  else 36

/-- Reads a non-empty row of digits, the whole text. -/
def readDigits? (base : Nat) (text : List Char) : Option Nat :=
  if text.isEmpty then none
  else text.foldlM
    (fun value c => if digitValue c < base then some (base * value + digitValue c) else none) 0

/-- Reads a number below `bound` with an optional `+`. -/
def readUnsigned? (base bound : Nat) (text : List Char) : Option Nat :=
  let digits := match text with
    | '+' :: rest => rest
    | _ => text
  (readDigits? base digits).filter (· < bound)

end ClusterTrials.Text
