import ClusterTrials.Url.Escapes
import ClusterTrials.Url.Name
/-!
# Hosts in addresses

A host is a name or a number. Numbers have several written forms, all of which are read, and one that is
shown: four decimal bytes, or eight hexadecimal groups with the longest run of zeros left out.
-/

namespace ClusterTrials.Url

inductive Fault
  | noScheme
  | emptyHost
  | hostName
  | hostCharacter
  | shortNumber
  | longNumber
  | portNumber
  deriving DecidableEq, Repr

def Fault.message : Fault → String
  | .noScheme => "relative URL without a base"
  | .emptyHost => "empty host"
  | .hostName => "invalid international domain name"
  | .hostCharacter => "invalid domain character"
  | .shortNumber => "invalid IPv4 address"
  | .longNumber => "invalid IPv6 address"
  | .portNumber => "invalid port number"

inductive Host
  | name (text : List Char)
  /-- A number of 32 bits. -/
  | short (number : Nat)
  /-- Eight groups of 16 bits. -/
  | long (groups : List Nat)
  deriving DecidableEq, Repr

/-! ## Numbers of 32 bits -/

/-- Reads a number whose base its first characters tell. A bare sign of a base is zero. -/
def numeral? : List Char → Option Nat
  | '0' :: 'x' :: digits | '0' :: 'X' :: digits =>
    if digits.isEmpty then some 0 else Text.readDigits? 16 digits
  | '0' :: c :: digits => Text.readDigits? 8 (c :: digits)
  | digits => Text.readDigits? 10 digits

/-- The parts of a name, without the empty one that a dot at the end leaves. -/
def nameParts (name : List Char) : List (List Char) :=
  let parts := partsAt (· = '.') name
  if 1 < parts.length && parts.getLast? = some [] then parts.dropLast else parts

def endsInNumber (name : List Char) : Bool :=
  match (nameParts name).getLast? with
  | some part => !part.isEmpty && (part.all Char.isDigit || (numeral? part).isSome)
  | none => false

/-- Reads up to four numerals, all but the last of one byte each. -/
def shortNumber? (name : List Char) : Option Nat := do
  let numerals ← (nameParts name).mapM numeral?
  let last ← numerals.getLast?
  let bytes := numerals.dropLast
  if 3 < bytes.length || bytes.any (255 < ·) || Nat.pow 256 (4 - bytes.length) ≤ last then none
  else some (bytes.foldl (fun value b => 256 * value + b) 0 * Nat.pow 256 (4 - bytes.length) + last)

/-! ## Numbers of 128 bits -/

private def group? (digits : List Char) : Option Nat :=
  if digits.length ≤ 4 then Text.readDigits? 16 digits else none

private def decimalByte? (digits : List Char) : Option Nat :=
  if digits.head? = some '0' && digits.length ≠ 1 || !digits.all Char.isDigit then none
  else (Text.readDigits? 10 digits).filter (· < 256)

private def decimalGroups? (text : List Char) : Option (List Nat) := do
  match ← (partsAt (· = '.') text).mapM decimalByte? with
  | [a, b, c, d] => return [256 * a + b, 256 * c + d]
  | _ => none

private def groupsFrom? : List (List Char) → Option (List Nat)
  | [] => some []
  | [last] => if '.' ∈ last then decimalGroups? last else (group? last).map ([·])
  | part :: parts => do return (← group? part) :: (← groupsFrom? parts)

private def groups? (text : List Char) : Option (List Nat) :=
  if text.isEmpty then some [] else groupsFrom? (partsAt (· = ':') text)

private def splitAtGap : List Char → Option (List Char × List Char)
  | [] => none
  | ':' :: ':' :: rest => some ([], rest)
  | c :: rest => (splitAtGap rest).map fun (before, behind) => (c :: before, behind)

/-- Reads eight groups. Two colons in a row stand for the zeros that are left out. -/
def longNumber? (text : List Char) : Option (List Nat) := do
  match splitAtGap text with
  | none =>
    let groups ← groups? text
    if groups.length = 8 then some groups else none
  | some (before, behind) =>
    if '.' ∈ before then none
    else
      let first ← groups? before
      let second ← groups? behind
      let count := first.length + second.length
      if 7 < count then none else some (first ++ List.replicate (8 - count) 0 ++ second)

private def longestGap (groups : List Nat) : Nat × Nat :=
  (List.range groups.length).foldl
    (fun best start =>
      let length := ((groups.drop start).takeWhile (· = 0)).length
      if best.2 < length && 1 < length then (start, length) else best)
    (0, 0)

private def writeGroups (groups : List Nat) : List Char :=
  [':'].intercalate (groups.map (Nat.toDigits 16))

def writeLongNumber (groups : List Nat) : List Char :=
  match longestGap groups with
  | (_, 0) => writeGroups groups
  | (start, length) =>
    writeGroups (groups.take start) ++ [':', ':'] ++ writeGroups (groups.drop (start + length))

def writeShortNumber (number : Nat) : List Char :=
  ['.'].intercalate
    ([16777216, 65536, 256, 1].map fun weight => (toString (number / weight % 256)).toList)

namespace Host

private def ofBrackets (text : List Char) : Except Fault Host :=
  match text.getLast? with
  | some ']' =>
    match longNumber? text.dropLast with
    | some groups => .ok (.long groups)
    | none => .error .longNumber
  | _ => .error .longNumber

/-- Reads the host of an address whose hosts are looked up. -/
def ofText (text : List Char) : Except Fault Host :=
  match text with
  | '[' :: rest => ofBrackets rest
  | _ =>
    match Name.ofBytes? (unescape text) with
    | none => .error .hostName
    | some [] => .error .emptyHost
    | some plain =>
      if endsInNumber plain then
        match shortNumber? plain with
        | some number => .ok (.short number)
        | none => .error .shortNumber
      else .ok (.name plain)

/-- Reads the host of another address, which is taken as it is. -/
def ofForeignText (text : List Char) : Except Fault Host :=
  match text with
  | '[' :: rest => ofBrackets rest
  | _ =>
    if text.any (· ∈ "\x00 #/:<>?@[\\]^|".toList) then .error .hostCharacter
    else .ok (.name (escape [] text))

def write : Host → List Char
  | .name text => text
  | .short number => writeShortNumber number
  | .long groups => ['['] ++ writeLongNumber groups ++ [']']

end Host

end ClusterTrials.Url
