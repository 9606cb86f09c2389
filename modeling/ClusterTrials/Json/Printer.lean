import ClusterTrials.Binary64.Style
import ClusterTrials.Tree
/-!
# Writing JSON texts

Objects and arrays are written with one member a line, two columns further in than what is around them.
-/

namespace ClusterTrials.Json

def escaped (c : Char) : String :=
  match c with
  | '"' => "\\\""
  | '\\' => "\\\\"
  | '\x08' => "\\b"
  | '\x0c' => "\\f"
  | '\n' => "\\n"
  | '\r' => "\\r"
  | '\t' => "\\t"
  | _ =>
    if c.toNat < 0x20 then
      let digits := Nat.toDigits 16 c.toNat
      "\\u" ++ String.ofList (List.replicate (4 - digits.length) '0' ++ digits)
    else c.toString

def writeText (text : String) : String := "\"" ++ String.join (text.toList.map escaped) ++ "\""

def newLine (indent : Nat) : String := "\n" ++ String.ofList (List.replicate indent ' ')

def bracketed (indent : Nat) (left right : String) (members : List String) : String :=
  if members.isEmpty then left ++ right
  else
    left ++ newLine (indent + 2) ++ ("," ++ newLine (indent + 2)).intercalate members ++
      newLine indent ++ right

mutual

def writeAt (indent : Nat) : Tree → String
  | .null => "null"
  | .boolean value => if value then "true" else "false"
  | .natural value => toString value
  | .number value => NumberStyle.json.write value
  | .text value => writeText value
  | .object fields => bracketed indent "\x7b" "\x7d" (members (indent + 2) fields)

def members (indent : Nat) : List (String × Tree) → List String
  | [] => []
  | (name, value) :: rest =>
    (writeText name ++ ": " ++ writeAt indent value) :: members indent rest

end

def write (fields : List (String × Tree)) : String := writeAt 0 (.object fields)

def writeTexts (texts : List String) : String := bracketed 0 "[" "]" (texts.map writeText)

end ClusterTrials.Json
