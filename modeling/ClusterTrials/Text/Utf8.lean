/-!
# Bytes as text

`decode?` reads bytes that are UTF-8 throughout, `decodePrefix` as far as they are. `decodeLossy` reads
any bytes: each longest run of bytes that starts a character without completing it becomes one `U+FFFD`,
as does each byte that starts none.
-/

namespace ClusterTrials.Text

def encode (text : String) : List UInt8 := text.toUTF8.toList

def decode? (bytes : List UInt8) : Option String := String.fromUTF8? ⟨bytes.toArray⟩

/-- The bytes still owed after a first byte, and the range that the next one must lie in. -/
structure Owed where
  count : Nat
  low : UInt8
  high : UInt8

/-- What a byte that is not ASCII promises, if it can start a character. -/
def owedAfter? (b : UInt8) : Option Owed :=
  if 0xC2 ≤ b ∧ b ≤ 0xDF then some ⟨1, 0x80, 0xBF⟩
  else if b = 0xE0 then some ⟨2, 0xA0, 0xBF⟩
  else if b = 0xED then some ⟨2, 0x80, 0x9F⟩
  else if 0xE1 ≤ b ∧ b ≤ 0xEF then some ⟨2, 0x80, 0xBF⟩
  else if b = 0xF0 then some ⟨3, 0x90, 0xBF⟩
  else if 0xF1 ≤ b ∧ b ≤ 0xF3 then some ⟨3, 0x80, 0xBF⟩
  else if b = 0xF4 then some ⟨3, 0x80, 0x8F⟩
  else none

/-- How many of the bytes continue a character of which `owed` is still missing. -/
def continued (owed : Owed) : List UInt8 → Nat
  | [] => 0
  | b :: rest =>
    if owed.low ≤ b ∧ b ≤ owed.high then
      match owed.count with
      | 0 | 1 => 1
      | count + 2 => continued ⟨count + 1, 0x80, 0xBF⟩ rest + 1
    else 0

private def payload (b : UInt8) : Nat := b.toNat % 64

def assemble : List UInt8 → Char
  | [a, b] => Char.ofNat ((a.toNat % 32) * 64 + payload b)
  | [a, b, c] => Char.ofNat ((a.toNat % 16) * 4096 + payload b * 64 + payload c)
  | [a, b, c, d] =>
    Char.ofNat ((a.toNat % 8) * 262144 + payload b * 4096 + payload c * 64 + payload d)
  | bytes => Char.ofNat ((bytes.headD 0).toNat)

def replacement : Char := Char.ofNat 0xFFFD

/-- The character that bytes begin with, and how many of them after the first belong to it. -/
def character? (b : UInt8) (rest : List UInt8) : Option (Char × Nat) :=
  if b < 0x80 then some (Char.ofNat b.toNat, 0)
  else (owedAfter? b).bind fun owed =>
    if continued owed rest = owed.count then
      some (assemble (b :: rest.take owed.count), owed.count)
    else none

/-- The first character, or replacement, and how many bytes after the first belong to it. -/
def decodeFirst (b : UInt8) (rest : List UInt8) : Char × Nat :=
  (character? b rest).getD (replacement, ((owedAfter? b).map (continued · rest)).getD 0)

def decodeLossyChars : List UInt8 → List Char
  | [] => []
  | b :: rest =>
    let (c, used) := decodeFirst b rest
    c :: decodeLossyChars (rest.drop used)
termination_by bytes => bytes.length
decreasing_by simp only [List.length_drop, List.length_cons]; omega

/-- The characters that bytes begin with, and the bytes from the first that belongs to none. -/
def decodePrefix : List UInt8 → List Char × List UInt8
  | [] => ([], [])
  | b :: rest =>
    match character? b rest with
    | none => ([], b :: rest)
    | some (c, used) =>
      let (chars, tail) := decodePrefix (rest.drop used)
      (c :: chars, tail)
termination_by bytes => bytes.length
decreasing_by simp only [List.length_drop, List.length_cons]; omega

def decodeLossy (bytes : List UInt8) : String := String.ofList (decodeLossyChars bytes)

end ClusterTrials.Text
