import ClusterTrials.Binary64.Reading
import ClusterTrials.Text.Number
import ClusterTrials.Yaml.Node
/-!
# What scalars say

The same scalar can be read as a text, a flag or a number; who reads it decides. Quotes make a scalar a
text and nothing else, and a scalar in literal style is a flag or a number only if its tag says so.
-/

namespace ClusterTrials.Yaml

def coreTag (name : String) : TagPart := Text.encode ("tag:yaml.org,2002:" ++ name)

def isNullWord (text : String) : Bool := text ∈ ["null", "Null", "NULL", "~"]

def flag? (text : String) : Option Bool :=
  if text ∈ ["true", "True", "TRUE"] then some true
  else if text ∈ ["false", "False", "FALSE"] then some false
  else none

/-- Whether a text consists of digits, the first a superfluous zero, behind an optional sign. -/
def isPaddedNumber (text : List Char) : Bool :=
  let digits := match text with
    | '+' :: rest | '-' :: rest => rest
    | _ => text
  digits.length > 1 && digits.head? == some '0' && digits.all Char.isDigit

def markedBase? : List Char → Option (Nat × List Char)
  | '0' :: 'x' :: rest => some (16, rest)
  | '0' :: 'o' :: rest => some (8, rest)
  | '0' :: 'b' :: rest => some (2, rest)
  | _ => none

def startsWithSign (text : List Char) : Bool := text.head? = some '+' || text.head? = some '-'

def natural? (bound : Nat) (text : List Char) : Option Nat :=
  let digits := match text with
    | '+' :: rest => rest
    | _ => text
  match markedBase? digits with
  | some (base, rest) =>
    if startsWithSign rest then none else Text.readDigits? base rest |>.filter (· < bound)
  | none =>
    if isPaddedNumber text then none
    else Text.readDigits? 10 digits |>.filter (· < bound)

/-- Reads a negative number, or a zero behind a minus, that is no less than `-bound`. -/
def negative? (bound : Nat) (text : List Char) : Option Nat :=
  match text with
  | '-' :: digits =>
    match markedBase? digits with
    | some (base, rest) => Text.readDigits? base rest |>.filter (· ≤ bound)
    | none =>
      if isPaddedNumber text then none
      else Text.readDigits? 10 digits |>.filter (· ≤ bound)
  | _ => none

/-- Reads a number that may have a fraction. Numbers too large to be finite are refused, while the
infinite ones and the one that is no number have words of their own. -/
def number? (text : List Char) : Option Binary64 :=
  let digits := match text with
    | '+' :: rest => rest
    | _ => text
  if text.head? = some '+' && startsWithSign digits then none
  else if String.ofList digits ∈ [".inf", ".Inf", ".INF"] then some (.infinity false)
  else if String.ofList text ∈ ["-.inf", "-.Inf", "-.INF"] then some (.infinity true)
  else if String.ofList text ∈ [".nan", ".NaN", ".NAN"] then some .nan
  else (Binary64.read? digits).filter Binary64.isFinite

/-- Whether a scalar can be read as something else than a text: as what the tag of this name says. -/
def Scalar.isBare (scalar : Scalar) (tagName : String) : Bool :=
  scalar.style = .plain || (scalar.style = .literal && scalar.tag = some (coreTag tagName))

namespace Document

def scalar? (document : Document) (node : Node) : Option Scalar :=
  match document.target? node with
  | some (.scalar scalar) => some scalar
  | _ => none

def text? (document : Document) (node : Node) : Option String :=
  (document.scalar? node).map (·.text)

def readAs? {α : Type} (document : Document) (tagName : String) (read : String → Option α)
    (node : Node) : Option α := do
  let scalar ← document.scalar? node
  if scalar.isBare tagName then read scalar.text else none

def flag? (document : Document) : Node → Option Bool := document.readAs? "bool" Yaml.flag?

def natural? (document : Document) (bound : Nat) : Node → Option Nat :=
  document.readAs? "int" fun text => Yaml.natural? bound text.toList

def number? (document : Document) : Node → Option Binary64 :=
  document.readAs? "float" fun text => Yaml.number? text.toList

/-- Reads a text or its absence. A plain scalar is absent if it is empty or a word for null, unless it
has a tag; one that is tagged as null must be such a word. -/
def optionalText? (document : Document) (node : Node) : Option (Option String) := do
  let scalar ← document.scalar? node
  if scalar.style ≠ .plain then return some scalar.text
  else if scalar.tag = some (coreTag "null") then
    if isNullWord scalar.text then return none else failure
  else if scalar.tag.isSome then return some scalar.text
  else if scalar.text = "" || isNullWord scalar.text then return none
  else return some scalar.text

/-- The entries of a mapping, whose keys must all be scalars. Nothing at all is an empty mapping. -/
def fields? (document : Document) (node : Node) : Option (List (String × Node)) :=
  match document.target? node with
  | some (.mapping entries) =>
    entries.mapM fun (key, value) => (document.text? key).map (·, value)
  | some (.scalar scalar) =>
    if scalar.style = .plain && scalar.text = "" then some [] else none
  | _ => none

end Document

end ClusterTrials.Yaml
