import ClusterTrials.Text.Utf8
import ClusterTrials.Url.Name.Direction
import ClusterTrials.Url.Name.Folding
import ClusterTrials.Url.Name.Joiner
import ClusterTrials.Url.Punycode
/-!
# Names of hosts

A name is a row of labels with full stops between them. `Name.ofBytes?` gives the form in which it is looked up:
folded, and with ASCII alone. A label that comes in that form has to be the one that its own text has.
-/

namespace ClusterTrials.Url

def partsAt (isSeparator : Char → Bool) : List Char → List (List Char)
  | [] => [[]]
  | c :: rest =>
    if isSeparator c then [] :: partsAt isSeparator rest
    else match partsAt isSeparator rest with
      | part :: parts => (c :: part) :: parts
      | [] => [[c]]

namespace Name

def isForbidden (c : Char) : Bool :=
  c.toNat ≤ 0x20 || c.toNat = 0x7F || c ∈ "%#/:<>?@[\\]^|".toList

def isPlain (text : List Char) : Bool := text.all fun c => c.toNat < 0x80

structure Label where
  /-- What the label says. -/
  text : List Char
  /-- How it is looked up. -/
  plain : List Char
  deriving DecidableEq, Repr

namespace Label

def mark : List Char := "xn--".toList

/-- How long a text may be that has a plain form, and a plain form that has a text. -/
def textLimit : Nat := 1000

def plainLimit : Nat := 2000

/-- The text of a plain form, if folding leaves that text as it is. -/
def textOf? (form : List Char) : Option (List Char) := do
  if form.getLast?.all (· = '-') || plainLimit < form.length then none
  else
    let text ← Punycode.decode? form
    if folded? text = some text then some text else none

def isTooLong (text : List Char) : Bool := !isPlain text && textLimit < text.length

def isFit (text : List Char) : Bool :=
  !isTooLong text && !text.any isForbidden && !text.head?.any Text.isMark && joinersFit [] text

def ofText? (folded : List Char) : Option Label := do
  if mark.isPrefixOf folded then
    if !isPlain folded then none
    else
      let text ← textOf? (folded.drop mark.length)
      if isFit text then some { text, plain := folded } else none
  else if !isFit folded then none
  else some { text := folded, plain := if isPlain folded then folded else mark ++ Punycode.encode folded }

end Label

/-- The form in which a name is looked up, if it is one. -/
def ofBytes? (bytes : List UInt8) : Option (List Char) := do
  let folded ← folded? (← Text.decode? bytes).toList
  let labels ← (partsAt (· = '.') folded).mapM Label.ofText?
  if labels.any (turnsLeft ·.text) && !labels.all (keepsDirection ·.text) then none
  else some (['.'].intercalate (labels.map (·.plain)))

end Name

end ClusterTrials.Url
