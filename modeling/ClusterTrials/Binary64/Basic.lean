/-!
# Binary floating point numbers of 64 bits

A number is kept as its 64 bits: a sign, an exponent field of eleven bits and a fraction of
fifty-two. Every finite number is a whole multiple of `2 ^ -1074`; `magnitude` is the absolute value
of that multiple, so exact statements about values are statements about natural numbers.
-/

namespace ClusterTrials

structure Binary64 where
  bits : UInt64
  deriving DecidableEq, Repr, Inhabited

namespace Binary64

/-- A magnitude counts units of `1 / unitsPerOne`. -/
def unitsPerOne : Nat := Nat.pow 2 1074

def leadingBit : Nat := 0x10000000000000

def signWeight : Nat := 0x8000000000000000

def word (x : Binary64) : Nat := x.bits.toNat

def exponentField (x : Binary64) : Nat := x.word / leadingBit % 2048

def fraction (x : Binary64) : Nat := x.word % leadingBit

/-- The sign bit, also set in the negative zero. -/
def signBit (x : Binary64) : Bool := decide (signWeight ≤ x.word)

def isFinite (x : Binary64) : Bool := decide (x.exponentField ≠ 2047)

def isNaN (x : Binary64) : Bool := !x.isFinite && decide (x.fraction ≠ 0)

/-- The fraction with its implicit leading bit. -/
def significand (x : Binary64) : Nat :=
  if x.exponentField = 0 then x.fraction else leadingBit + x.fraction

/-- The significand counts units of `2 ^ scale / unitsPerOne`. -/
def scale (x : Binary64) : Nat := x.exponentField - 1

/-- The absolute value of a finite number, in units of `1 / unitsPerOne`. -/
def magnitude (x : Binary64) : Nat := x.significand * Nat.pow 2 x.scale

/-- Whether the number is less than zero; neither zero nor a NaN is. -/
def isNegative (x : Binary64) : Bool :=
  x.signBit && !x.isNaN && decide (x.word ≠ signWeight)

def withSign (negative : Bool) (word : Nat) : Binary64 :=
  ⟨.ofNat (word + if negative then signWeight else 0)⟩

def zero : Binary64 := withSign false 0

def infinity (negative : Bool) : Binary64 := withSign negative (2047 * leadingBit)

def nan : Binary64 := withSign false (2047 * leadingBit + leadingBit / 2)

/-- The same number with every NaN made the one of `nan`. -/
def canonical (x : Binary64) : Binary64 := if x.isNaN then nan else x

end Binary64

end ClusterTrials
