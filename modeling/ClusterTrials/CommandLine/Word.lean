import ClusterTrials.Text.Utf8
/-!
# Words of a command line

A word is any row of bytes. What it means is decided by the characters it begins with; most words are
text to their end.
-/

namespace ClusterTrials.CommandLine

structure Word where
  chars : List Char
  /-- The bytes behind the characters; none if the word is text. -/
  tail : List UInt8 := []
  deriving DecidableEq, Repr

namespace Word

def ofBytes (bytes : List UInt8) : Word :=
  let (chars, tail) := Text.decodePrefix bytes
  { chars, tail }

def ofString (text : String) : Word := { chars := text.toList }

def text? (word : Word) : Option String :=
  if word.tail.isEmpty then some (String.ofList word.chars) else none

def isEmpty (word : Word) : Bool := word.chars.isEmpty && word.tail.isEmpty

def split (word : Word) : Word × Option Word :=
  let name := word.chars.takeWhile (· ≠ '=')
  match word.chars.dropWhile (· ≠ '=') with
  | [] => (word, none)
  | _ :: value => ({ chars := name }, some { word with chars := value })

theorem text?_ofString (text : String) : (ofString text).text? = some text := by
  simp [ofString, text?]

end Word

end ClusterTrials.CommandLine
