import ClusterTrials.Text.Number
import ClusterTrials.Text.Utf8
/-!
# Escapes in addresses

A character that may not stand in some part of an address is written as the bytes of its UTF-8 form, each
of them a percent sign and two hexadecimal digits. Controls and what is not ASCII are written so in every
part, and each part has more characters of its own.
-/

namespace ClusterTrials.Url

private def hexDigit (n : Nat) : Char := (Nat.toDigits 16 n).headD '0' |>.toUpper

def escapeByte (b : UInt8) : List Char := ['%', hexDigit (b.toNat / 16), hexDigit (b.toNat % 16)]

def isEscapedEverywhere (c : Char) : Bool := c.toNat < 0x20 || 0x7F ≤ c.toNat

/-- Escapes the text of a part that has the given characters of its own. -/
def escape (marked text : List Char) : List Char :=
  text.flatMap fun c =>
    if isEscapedEverywhere c || c ∈ marked then (Text.encode c.toString).flatMap escapeByte else [c]

def graveAccent : Char := '\x60'

def markedInFragment : List Char := [' ', '"', '<', '>', graveAccent]

def markedInPath : List Char := markedInFragment ++ ['#', '?', '\x7b', '\x7d']

def markedInCredentials : List Char :=
  markedInPath ++ ['/', ':', ';', '=', '@', '[', '\\', ']', '^', '|']

def markedInQuery : List Char := [' ', '"', '#', '<', '>']

/-- The bytes that a text with escapes stands for. A percent sign without two digits behind it stands for
itself. -/
def unescape : List Char → List UInt8
  | [] => []
  | '%' :: a :: b :: rest =>
    match Text.readDigits? 16 [a, b] with
    | some value => UInt8.ofNat value :: unescape rest
    | none => 0x25 :: unescape (a :: b :: rest)
  | c :: rest => Text.encode c.toString ++ unescape rest
termination_by text => text.length

end ClusterTrials.Url
