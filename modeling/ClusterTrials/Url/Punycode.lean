/-!
# Punycode

How the labels of a host name are written with ASCII alone. The ASCII characters come first; the others
follow in the order of their code points, each as its distance from the one before in a number system
whose digits have changing weights.
-/

namespace ClusterTrials.Url.Punycode

/-- The digits are the letters and then the ten figures. -/
def digit (value : Nat) : Char :=
  if value < 26 then Char.ofNat ('a'.toNat + value) else Char.ofNat ('0'.toNat + (value - 26))

/-- The least value of the digit at a place that is not the last one. -/
def threshold (bias place : Nat) : Nat := min 26 (max 1 (place - bias))

theorem one_le_threshold (bias place : Nat) : 1 ≤ threshold bias place := by
  unfold threshold; omega

def digits (bias place distance : Nat) : List Char :=
  let least := threshold bias place
  if distance < least then [digit distance]
  else
    digit (least + (distance - least) % (36 - least)) ::
      digits bias (place + 36) ((distance - least) / (36 - least))
termination_by distance
decreasing_by
  have low := one_le_threshold bias place
  have high := Nat.div_le_self (distance - threshold bias place) (36 - threshold bias place)
  omega

private def damped (distance places : Nat) : Nat :=
  if 455 < distance then damped (distance / 35) (places + 36)
  else places + 36 * distance / (distance + 38)
termination_by distance
decreasing_by omega

/-- The bias after a distance that is the first one or not, with `count` characters written. -/
def nextBias (isFirst : Bool) (distance count : Nat) : Nat :=
  let halved := distance / (if isFirst then 700 else 2)
  damped (halved + halved / count) 0

structure Progress where
  written : List Char := []
  distance : Nat := 0
  bias : Nat := 72
  /-- How many characters have been written, those of ASCII included. -/
  count : Nat

/-- Passes one character of the text while those of the code point `code` are written. -/
def pass (basicCount code : Nat) (progress : Progress) (c : Char) : Progress :=
  if c.toNat < code then { progress with distance := progress.distance + 1 }
  else if c.toNat = code then
    { written := progress.written ++ digits progress.bias 36 progress.distance
      distance := 0
      bias := nextBias (progress.count = basicCount) progress.distance (progress.count + 1)
      count := progress.count + 1 }
  else progress

/-- Writes the characters of the given code points, which grow and start no lower than `next`. -/
def passAll (text : List Char) (basicCount : Nat) : List Nat → (next : Nat) → Progress → Progress
  | [], _, progress => progress
  | code :: codes, next, progress =>
    let progress :=
      { progress with distance := progress.distance + (code - next) * (progress.count + 1) }
    let progress := text.foldl (pass basicCount code) progress
    passAll text basicCount codes (code + 1) { progress with distance := progress.distance + 1 }

def encode (text : List Char) : List Char :=
  let basic := text.filter fun c => c.toNat < 0x80
  let codes := ((text.filter fun c => 0x80 ≤ c.toNat).map Char.toNat).mergeSort.eraseDups
  basic ++ (if basic.isEmpty then [] else ['-']) ++
    (passAll text basic.length codes 0x80 { count := basic.length }).written

/-! ## Reading -/

def digit? (c : Char) : Option Nat :=
  if 'a' ≤ c && c ≤ 'z' then some (c.toNat - 'a'.toNat)
  else if '0' ≤ c && c ≤ '9' then some (c.toNat - '0'.toNat + 26)
  else none

def weightLimit : Nat := 4294967296

/-- Reads the digits of a distance, from the given place on: the distance and how many digits it has. -/
def distance? (bias place weight : Nat) : List Char → Option (Nat × Nat)
  | [] => none
  | c :: rest => do
    let value ← digit? c
    let least := threshold bias place
    if value < least then some (value * weight, 1)
    else if weightLimit ≤ weight * (36 - least) then none
    else
      let (distance, count) ← distance? bias (place + 36) (weight * (36 - least)) rest
      some (value * weight + distance, count + 1)

/-- Puts characters into a text, each behind the distance from the last one. `code` is the code point and `place`
the place that the next one cannot come before. -/
def insertAll : (fuel : Nat) → (text : List Char) → (code place bias : Nat) → List Char → Option (List Char)
  | _, text, _, _, _, [] => some text
  | 0, _, _, _, _, _ => none
  | fuel + 1, text, code, place, bias, digits => do
    let (distance, count) ← distance? bias 36 1 digits
    let size := text.length + 1
    let code := code + (place + distance) / size
    let spot := (place + distance) % size
    if code.isValidChar then
      insertAll fuel (text.take spot ++ Char.ofNat code :: text.drop spot) code (spot + 1)
        (nextBias (place = 0) distance size) (digits.drop count)
    else none

/-- Reads the text of a label in small letters. The last hyphen parts the characters of ASCII from the digits. -/
def decode? (label : List Char) : Option (List Char) :=
  let digits := (label.reverse.takeWhile (· ≠ '-')).reverse
  let basic := (label.take (label.length - digits.length)).dropLast
  if digits.length < label.length && basic.isEmpty then none
  else insertAll (digits.length + 1) basic 0x80 0 72 digits

end ClusterTrials.Url.Punycode
