import ClusterTrials.Json.Token.Lexer
/-!
# JSON documents and the texts that are written of them

A document is what a JSON text says, as far as a reader can tell. It is a row of tokens; each token is
spelled by the rules below, and blanks may stand between tokens and around them. None of the rules knows
how a text is read.
-/

namespace ClusterTrials.Json

inductive Document
  /-- Null or a truth value. -/
  | word
  /-- A number, and whether it has a finite value in 64 bits. -/
  | number (finite : Bool)
  /-- A text; none if one half of a pair of surrogates is missing. -/
  | text (value : Option String)
  | array (items : List Document)
  /-- Fields in the order that they are written in; a key may stand there several times. -/
  | object (fields : List (Option String × Document))

namespace Document

def separator (first : Bool) : List Token := if first then [] else [.comma]

mutual

def tokens : Document → List Token
  | .word => [.word]
  | .number finite => [.number finite]
  | .text value => [.text value]
  | .array items => .openArray :: itemTokens true items
  | .object fields => .openObject :: fieldTokens true fields

/-- The tokens of items, from the first or from a later one on, and of the end of their array. -/
def itemTokens (first : Bool) : List Document → List Token
  | [] => [.closeArray]
  | item :: items => separator first ++ (tokens item ++ itemTokens false items)

def fieldTokens (first : Bool) : List (Option String × Document) → List Token
  | [] => [.closeObject]
  | (name, value) :: fields =>
    separator first ++ .text name :: .colon :: (tokens value ++ fieldTokens false fields)

end

end Document

/-! ## Numbers -/

inductive DigitsThen (P : List Char → Prop) : List Char → Prop
  | stop {chars : List Char} (h : P chars) : DigitsThen P chars
  | digit {c : Char} {chars : List Char} (hc : c.isDigit = true) (rest : DigitsThen P chars) :
      DigitsThen P (c :: chars)

inductive SomeDigitsThen (P : List Char → Prop) : List Char → Prop
  | digit {c : Char} {chars : List Char} (hc : c.isDigit = true) (rest : DigitsThen P chars) :
      SomeDigitsThen P (c :: chars)

inductive IsExponent : List Char → Prop
  | none : IsExponent []
  | unsigned {mark : Char} {digits : List Char} (hmark : mark = 'e' ∨ mark = 'E')
      (h : SomeDigitsThen (· = []) digits) : IsExponent (mark :: digits)
  | signed {mark sign : Char} {digits : List Char} (hmark : mark = 'e' ∨ mark = 'E')
      (hsign : sign = '+' ∨ sign = '-') (h : SomeDigitsThen (· = []) digits) :
      IsExponent (mark :: sign :: digits)

/-- What follows the digits before the point. -/
inductive IsFraction : List Char → Prop
  | none {chars : List Char} (h : IsExponent chars) : IsFraction chars
  | point {chars : List Char} (h : SomeDigitsThen IsExponent chars) : IsFraction ('.' :: chars)

/-- A number without a sign; its digits begin with a zero only if that is the only one. -/
inductive IsUnsigned : List Char → Prop
  | zero {chars : List Char} (h : IsFraction chars) : IsUnsigned ('0' :: chars)
  | digits {c : Char} {chars : List Char} (hc : c.isDigit = true) (hzero : c ≠ '0')
      (h : DigitsThen IsFraction chars) : IsUnsigned (c :: chars)

inductive IsNumber : List Char → Prop
  | unsigned {chars : List Char} (h : IsUnsigned chars) : IsNumber chars
  | minus {chars : List Char} (h : IsUnsigned chars) : IsNumber ('-' :: chars)

/-! ## Texts -/

inductive Piece
  /-- A character that stands for itself. -/
  | plain (c : Char)
  /-- A backslash and a mark that stand for a character. -/
  | short (mark c : Char)
  /-- A backslash, the mark `u` and hexadecimal digits. -/
  | code (digits : List Char)
  deriving DecidableEq, Repr

def shortEscapes : List (Char × Char) :=
  [('"', '"'), ('\\', '\\'), ('/', '/'), ('b', '\x08'), ('f', '\x0c'), ('n', '\n'), ('r', '\r'),
    ('t', '\t')]

namespace Piece

def chars : Piece → List Char
  | .plain c => [c]
  | .short mark _ => ['\\', mark]
  | .code digits => '\\' :: 'u' :: digits

def IsValid : Piece → Prop
  | .plain c => c ≠ '"' ∧ c ≠ '\\' ∧ 0x20 ≤ c.toNat
  | .short mark c => (mark, c) ∈ shortEscapes
  | .code digits => digits.length = 4 ∧ ∀ d ∈ digits, Text.digitValue d < 16

def codeValue (digits : List Char) : Nat :=
  digits.foldl (fun value d => value * 16 + Text.digitValue d) 0

def isFirstHalf (code : Nat) : Bool := 0xD800 ≤ code && code ≤ 0xDBFF

def isSecondHalf (code : Nat) : Bool := 0xDC00 ≤ code && code ≤ 0xDFFF

def joined (first second : Nat) : Char :=
  Char.ofNat ((first - 0xD800) * 0x400 + (second - 0xDC00) + 0x10000)

/-- What pieces stand for, unless half of a pair of surrogates stands alone. -/
def value? : List Piece → Option (List Char)
  | [] => some []
  | .plain c :: rest | .short _ c :: rest => (value? rest).map (c :: ·)
  | .code digits :: rest =>
    let code := codeValue digits
    if isFirstHalf code then
      match rest with
      | .code second :: rest =>
        if isSecondHalf (codeValue second) then
          (value? rest).map (joined code (codeValue second) :: ·)
        else none
      | _ => none
    else if isSecondHalf code then none
    else (value? rest).map (Char.ofNat code :: ·)

end Piece

/-! ## Tokens and documents -/

/-- The characters that a token is spelled with. -/
inductive Token.IsSpelled : Token → List Char → Prop
  | openObject : IsSpelled .openObject ['{']
  | closeObject : IsSpelled .closeObject ['}']
  | openArray : IsSpelled .openArray ['[']
  | closeArray : IsSpelled .closeArray [']']
  | comma : IsSpelled .comma [',']
  | colon : IsSpelled .colon [':']
  | null : IsSpelled .word ['n', 'u', 'l', 'l']
  | yes : IsSpelled .word ['t', 'r', 'u', 'e']
  | no : IsSpelled .word ['f', 'a', 'l', 's', 'e']
  | number {chars : List Char} (h : IsNumber chars) :
      IsSpelled (.number ((Binary64.read? chars).any Binary64.isFinite)) chars
  | text (pieces : List Piece) (h : ∀ piece ∈ pieces, piece.IsValid) :
      IsSpelled (.text ((Piece.value? pieces).map String.ofList))
        ('"' :: (pieces.flatMap Piece.chars ++ ['"']))

def Token.isBroken : Token → Bool
  | .brokenText .. | .broken .. => true
  | _ => false

def IsBlank (c : Char) : Prop := c = ' ' ∨ c = '\t' ∨ c = '\n' ∨ c = '\r'

/-- Characters that tokens are written with, and blanks before, between and behind them. -/
inductive Written : List Token → List Char → Prop
  | done : Written [] []
  | blank {tokens : List Token} {c : Char} {chars : List Char} (hc : IsBlank c)
      (rest : Written tokens chars) : Written tokens (c :: chars)
  | token {token : Token} {tokens : List Token} {spelled chars : List Char}
      (h : token.IsSpelled spelled) (rest : Written tokens chars) :
      Written (token :: tokens) (spelled ++ chars)

/-- The text says what the document says. -/
def Document.IsWrittenIn (document : Document) (text : String) : Prop :=
  Written document.tokens text.toList

end ClusterTrials.Json
