/-!
# The text of a document before it is read

Which characters may stand in a document at all, which of them break lines, and one spelling for the
line breaks that are folded.
-/

namespace ClusterTrials.Yaml

/-- Tab, line feed, carriage return, next line, and everything else but the controls, the surrogates
and the last two code points of the basic plane. -/
def isAllowed (c : Char) : Bool :=
  let code := c.toNat
  code == 0x9 || code == 0xA || code == 0xD || (0x20 ≤ code && code ≤ 0x7E) || code == 0x85 ||
    (0xA0 ≤ code && code ≤ 0xFFFD) || 0x10000 ≤ code

def lineSeparator : Char := Char.ofNat 0x2028

def paragraphSeparator : Char := Char.ofNat 0x2029

def nextLine : Char := Char.ofNat 0x85

def byteOrderMark : Char := Char.ofNat 0xFEFF

/-- A line break in a text whose breaks have one spelling. -/
def isBreak (c : Char) : Bool := c == '\n' || c == lineSeparator || c == paragraphSeparator

def isSpace (c : Char) : Bool := c == ' ' || c == '\t'

def isSpaceOrBreak (c : Char) : Bool := isSpace c || isBreak c

def atGap : List Char → Bool
  | [] => true
  | c :: _ => isSpaceOrBreak c

/-- Writes a carriage return, a following line feed with it, and a next line as one line feed. The line
and paragraph separators are breaks too, but keep their spelling. -/
def unifyBreaks : List Char → List Char
  | [] => []
  | '\r' :: '\n' :: rest => '\n' :: unifyBreaks rest
  | '\r' :: rest => '\n' :: unifyBreaks rest
  | c :: rest => (if c = nextLine then '\n' else c) :: unifyBreaks rest

def source? (text : String) : Option (List Char) :=
  let chars := text.toList
  if chars.all isAllowed then some (unifyBreaks chars) else none

end ClusterTrials.Yaml
