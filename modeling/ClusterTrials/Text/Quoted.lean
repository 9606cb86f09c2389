import ClusterTrials.Text.Unprintable
/-!
# Quoted text and written records

`quoted` puts a text between double quotes so that every character can be told from its neighbours:
the quote and the backslash are escaped, and so is each character that is not shown as itself.
`record` writes a named value with its fields.
-/

namespace ClusterTrials.Text

private def hexDigits (n : Nat) : String := String.ofList (Nat.toDigits 16 n)

def escapeChar (c : Char) : String :=
  match c with
  | '"' => "\\\""
  | '\\' => "\\\\"
  | '\n' => "\\n"
  | '\r' => "\\r"
  | '\t' => "\\t"
  | '\x00' => "\\0"
  | _ => if isShown c then c.toString else "\\u\x7b" ++ hexDigits c.toNat ++ "\x7d"

def quoted (text : String) : String :=
  "\"" ++ String.join (text.toList.map escapeChar) ++ "\""

def record (name : String) (fields : List (String × String)) : String :=
  name ++ " \x7b " ++ ", ".intercalate (fields.map fun (key, value) => key ++ ": " ++ value) ++ " \x7d"

def optional : Option Int → String
  | none => "None"
  | some n => "Some(" ++ toString n ++ ")"

def optionalQuoted : Option String → String
  | none => "None"
  | some text => "Some(" ++ quoted text ++ ")"

end ClusterTrials.Text
