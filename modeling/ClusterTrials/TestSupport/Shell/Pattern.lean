import ClusterTrials.TestSupport.Shell.Script
/-!
# Test support: patterns

A pattern is a row of characters, some of which stand for themselves whatever they are. Of the others, a
star fits any text, a question mark any character, and brackets one of those that they list.
-/

namespace ClusterTrials.TestSupport.Shell

abbrev PatternChar := Char × Bool

abbrev Pattern := List PatternChar

def inClass (name : String) (c : Char) : Bool :=
  match name with
  | "alpha" => c.isAlpha
  | "digit" => c.isDigit
  | "alnum" => c.isAlphanum
  | "upper" => c.isUpper
  | "lower" => c.isLower
  | "space" => c = ' ' || (9 ≤ c.toNat && c.toNat ≤ 13)
  | "blank" => c = ' ' || c = '\t'
  | "punct" => 0x21 ≤ c.toNat && c.toNat ≤ 0x7E && !c.isAlphanum
  | "print" => 0x20 ≤ c.toNat && c.toNat ≤ 0x7E
  | "graph" => 0x21 ≤ c.toNat && c.toNat ≤ 0x7E
  | "cntrl" => c.toNat < 0x20 || c.toNat = 0x7F
  | "xdigit" => c.isDigit || ('a' ≤ c && c ≤ 'f') || ('A' ≤ c && c ≤ 'F')
  | _ => false

inductive BracketItem
  | range (low high : Char)
  | named (name : String)
  deriving DecidableEq, Repr

def BracketItem.holds (c : Char) : BracketItem → Bool
  | .range low high => low ≤ c && c ≤ high
  | .named name => inClass name c

/-- The items up to the closing bracket, and what follows. A bracket that comes first is listed. -/
def bracketItems : (fuel : Nat) → (isFirst : Bool) → Pattern → Option (List BracketItem × Pattern)
  | 0, _, _ => none
  | _ + 1, _, [] => none
  | fuel + 1, isFirst, (c, isLiteral) :: rest =>
    if c = ']' && !isLiteral && !isFirst then some ([], rest)
    else
      let name := (rest.drop 1).takeWhile fun (d, _) => d ≠ ':'
      let isNamed := c = '[' && !isLiteral && rest.head?.any (·.1 = ':') &&
        ((rest.drop (name.length + 1)).take 2).map (·.1) = [':', ']']
      let (item, rest) :=
        if isNamed then
          (.named (String.ofList (name.map (·.1))), rest.drop (name.length + 3))
        else match rest with
          | ('-', false) :: (high, isHighLiteral) :: rest' =>
            if high = ']' && !isHighLiteral then (.range c c, rest) else (.range c high, rest')
          | _ => (.range c c, rest)
      (bracketItems fuel false rest).map fun (items, after) => (item :: items, after)

/-- Whether a character fits the brackets that a pattern opens, and what follows them. -/
def fitsBrackets (c : Char) (pattern : Pattern) : Option (Bool × Pattern) :=
  let (isNegated, inner) := match pattern with
    | ('!', false) :: rest => (true, rest)
    | rest => (false, rest)
  (bracketItems (inner.length + 1) true inner).map fun (items, after) =>
    (items.any (·.holds c) != isNegated, after)

def fits : (fuel : Nat) → Pattern → Bytes → Bool
  | 0, _, _ => false
  | _ + 1, [], text => text.isEmpty
  | fuel + 1, (c, isLiteral) :: pattern, text =>
    if c = '*' && !isLiteral then
      fits fuel pattern text || match text with
        | [] => false
        | _ :: rest => fits fuel ((c, isLiteral) :: pattern) rest
    else match text with
      | [] => false
      | d :: rest =>
        if c = '?' && !isLiteral then fits fuel pattern rest
        else match if c = '[' && !isLiteral then fitsBrackets d pattern else none with
          | some (isListed, after) => isListed && fits fuel after rest
          | none => c = d && fits fuel pattern rest

def Pattern.holds (pattern : Pattern) (text : Bytes) : Bool :=
  fits (pattern.length + text.length + 1) pattern text

def Pattern.isOpen (pattern : Pattern) : Bool :=
  pattern.any fun (c, isLiteral) => !isLiteral && (c = '*' || c = '?' || c = '[')

def Pattern.cutStart (pattern : Pattern) (longest : Bool) (text : Bytes) : Bytes :=
  let lengths := List.range (text.length + 1)
  match (if longest then lengths.reverse else lengths).find? fun n => pattern.holds (text.take n) with
  | some n => text.drop n
  | none => text

def Pattern.cutEnd (pattern : Pattern) (longest : Bool) (text : Bytes) : Bytes :=
  let lengths := List.range (text.length + 1)
  match (if longest then lengths else lengths.reverse).find? fun n => pattern.holds (text.drop n) with
  | some n => text.take n
  | none => text

end ClusterTrials.TestSupport.Shell
