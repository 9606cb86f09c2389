import ClusterTrials.Yaml.Source
import ClusterTrials.Yaml.Token
/-!
# Scalars in the text

Plain, quoted and block scalars, read one character at a time. In plain and quoted scalars the blanks
between two words are kept if they stay on one line; a single line break becomes a space, and of several
all but the first are kept.
-/

namespace ClusterTrials.Yaml

/-- Where a character stands. -/
structure Position where
  /-- How many bytes come before it. -/
  index : Nat := 0
  line : Nat := 0
  column : Nat := 0
  deriving DecidableEq, Repr

def Position.past (p : Position) (c : Char) : Position :=
  let index := p.index + c.utf8Size
  if isBreak c then { index, line := p.line + 1, column := 0 }
  else { index, line := p.line, column := p.column + 1 }

structure Scanned (α : Type) where
  value : α
  rest : List Char
  position : Position

/-- Whether three equal marks and a gap stand here, as at the start or end of a document. -/
def atDocumentMark : List Char → Bool
  | a :: b :: c :: rest => (a == '-' || a == '.') && a == b && b == c && atGap rest
  | _ => false

/-- A scalar under construction, with the blanks that follow its last word. Lists are reversed. -/
structure Folding where
  text : List Char := []
  spaces : List Char := []
  /-- Whether a line break was passed since the last word. -/
  broken : Bool := false
  firstBreak : List Char := []
  moreBreaks : List Char := []

namespace Folding

def addSpace (f : Folding) (c : Char) : Folding :=
  if f.broken then f else { f with spaces := c :: f.spaces }

def addBreak (f : Folding) (c : Char) : Folding :=
  if f.broken then { f with moreBreaks := c :: f.moreBreaks }
  else { f with spaces := [], broken := true, firstBreak := [c] }

/-- Settles the blanks after the last word. -/
def join (f : Folding) : Folding :=
  let blanks :=
    if !f.broken then f.spaces
    else if f.firstBreak = ['\n'] then
      if f.moreBreaks.isEmpty then [' '] else f.moreBreaks
    else f.moreBreaks ++ f.firstBreak
  { text := blanks ++ f.text }

def addChar (f : Folding) (c : Char) : Folding :=
  let joined := f.join
  { joined with text := c :: joined.text }

/-- Passes a line break that leaves nothing behind. -/
def escapeBreak (f : Folding) : Folding := { f.join with broken := true }

def result (f : Folding) : String := String.ofList f.text.reverse

end Folding

def endsPlain (inFlow : Bool) (c : Char) (rest : List Char) : Bool :=
  (c == ':' && atGap rest) || (inFlow && (c ∈ [',', '[', ']', '{', '}']))

/-- A colon that flow collections allow neither inside a plain scalar nor after it. -/
def isStrayColon (inFlow : Bool) (c : Char) (rest : List Char) : Bool :=
  inFlow && c == ':' && match rest with
    | d :: _ => d ∈ [',', '?', '[', ']', '{', '}']
    | [] => false

/-- Reads a plain scalar whose continuation lines are indented by at least `indent`. The folding that
is left tells whether the scalar was followed by a line break. -/
def scanPlain (inFlow : Bool) (indent : Nat) :
    List Char → Position → (afterBlank : Bool) → Folding → Option (Scanned Folding)
  | [], position, _, f => some ⟨f, [], position⟩
  | c :: rest, position, afterBlank, f =>
    if isSpace c then
      if f.broken && position.column < indent && c == '\t' then none
      else scanPlain inFlow indent rest (position.past c) true (f.addSpace c)
    else if isBreak c then
      scanPlain inFlow indent rest (position.past c) true (f.addBreak c)
    else if (afterBlank && !inFlow && position.column < indent) ||
        (position.column == 0 && atDocumentMark (c :: rest)) || (afterBlank && c == '#') then
      some ⟨f, c :: rest, position⟩
    else if isStrayColon inFlow c rest then none
    else if endsPlain inFlow c rest then some ⟨f, c :: rest, position⟩
    else scanPlain inFlow indent rest (position.past c) false (f.addChar c)

def scanSingleQuoted :
    List Char → Position → (quoteSeen : Bool) → Folding → Option (Scanned String)
  | [], position, quoteSeen, f => if quoteSeen then some ⟨f.join.result, [], position⟩ else none
  | c :: rest, position, quoteSeen, f =>
    if quoteSeen then
      if c == '\'' then scanSingleQuoted rest (position.past c) false (f.addChar c)
      else some ⟨f.join.result, c :: rest, position⟩
    else if position.column == 0 && atDocumentMark (c :: rest) then none
    else if c == '\'' then scanSingleQuoted rest (position.past c) true f
    else if isSpace c then scanSingleQuoted rest (position.past c) false (f.addSpace c)
    else if isBreak c then scanSingleQuoted rest (position.past c) false (f.addBreak c)
    else scanSingleQuoted rest (position.past c) false (f.addChar c)

inductive Escape
  | char (c : Char)
  /-- So many hexadecimal digits follow. -/
  | code (digits : Nat)

def escape? (c : Char) : Option Escape :=
  match c with
  | '0' => some (.char '\x00')
  | 'a' => some (.char '\x07')
  | 'b' => some (.char '\x08')
  | 't' => some (.char '\t')
  | '\t' => some (.char '\t')
  | 'n' => some (.char '\n')
  | 'v' => some (.char '\x0b')
  | 'f' => some (.char '\x0c')
  | 'r' => some (.char '\r')
  | 'e' => some (.char '\x1b')
  | ' ' => some (.char ' ')
  | '"' => some (.char '"')
  | '/' => some (.char '/')
  | '\\' => some (.char '\\')
  | 'N' => some (.char nextLine)
  | '_' => some (.char (Char.ofNat 0xA0))
  | 'L' => some (.char lineSeparator)
  | 'P' => some (.char paragraphSeparator)
  | 'x' => some (.code 2)
  | 'u' => some (.code 4)
  | 'U' => some (.code 8)
  | _ => none

def hexValue? (c : Char) : Option Nat :=
  if c.isDigit then some (c.toNat - '0'.toNat)
  else if 'a' ≤ c ∧ c ≤ 'f' then some (c.toNat - 'a'.toNat + 10)
  else if 'A' ≤ c ∧ c ≤ 'F' then some (c.toNat - 'A'.toNat + 10)
  else none

def charOf? (code : Nat) : Option Char :=
  if code.isValidChar then some (Char.ofNat code) else none

/-- How far an escape sequence has been read. -/
inductive Escaping
  | no
  | begun
  | digits (left value : Nat)

def scanDoubleQuoted :
    List Char → Position → Escaping → Folding → Option (Scanned String)
  | [], _, _, _ => none
  | c :: rest, position, .begun, f =>
    if isBreak c then scanDoubleQuoted rest (position.past c) .no f.escapeBreak
    else match escape? c with
      | none => none
      | some (.char d) => scanDoubleQuoted rest (position.past c) .no (f.addChar d)
      | some (.code count) => scanDoubleQuoted rest (position.past c) (.digits count 0) f
  | c :: rest, position, .digits left value, f =>
    match hexValue? c with
    | none => none
    | some digit =>
      let value := value * 16 + digit
      if left ≤ 1 then
        match charOf? value with
        | none => none
        | some d => scanDoubleQuoted rest (position.past c) .no (f.addChar d)
      else scanDoubleQuoted rest (position.past c) (.digits (left - 1) value) f
  | c :: rest, position, .no, f =>
    if position.column == 0 && atDocumentMark (c :: rest) then none
    else if c == '"' then some ⟨f.join.result, rest, position.past c⟩
    else if c == '\\' then scanDoubleQuoted rest (position.past c) .begun f
    else if isSpace c then scanDoubleQuoted rest (position.past c) .no (f.addSpace c)
    else if isBreak c then scanDoubleQuoted rest (position.past c) .no (f.addBreak c)
    else scanDoubleQuoted rest (position.past c) .no (f.addChar c)

/-- What becomes of the line breaks at the end of a block scalar. -/
inductive Chomping
  | strip
  | clip
  | keep
  deriving DecidableEq, Repr

/-- A block scalar under construction. Lists are reversed. -/
structure Block where
  folded : Bool
  chomping : Chomping
  /-- The indentation of the collection around it. -/
  outer : Int
  /-- The indentation of its lines; zero until it is known. -/
  indent : Nat
  deepest : Nat := 0
  inLine : Bool := false
  /-- Whether the last line started with a blank. -/
  blankLed : Bool := false
  text : List Char := []
  lineBreak : List Char := []
  moreBreaks : List Char := []

namespace Block

def result (b : Block) : String :=
  let text := match b.chomping with
    | .strip => b.text
    | .clip => b.lineBreak ++ b.text
    | .keep => b.moreBreaks ++ b.lineBreak ++ b.text
  String.ofList text.reverse

/-- The indentation of the lines, once the first of them was reached. -/
def settledIndent (b : Block) : Nat :=
  if b.indent = 0 then max (max b.deepest (b.outer + 1).toNat) 1 else b.indent

def startLine (b : Block) (c : Char) : Block :=
  let blank := isSpace c
  let before :=
    if b.folded && b.lineBreak == ['\n'] && !b.blankLed && !blank then
      if b.moreBreaks.isEmpty then [' '] else b.moreBreaks
    else b.moreBreaks ++ b.lineBreak
  { b with
    inLine := true, blankLed := blank, text := c :: before ++ b.text, lineBreak := []
    moreBreaks := [], deepest := 0 }

end Block

def scanBlockLines : List Char → Position → Block → Option (Scanned Block)
  | [], position, b => some ⟨b, [], position⟩
  | c :: rest, position, b =>
    if b.inLine then
      if isBreak c then
        scanBlockLines rest (position.past c) { b with inLine := false, lineBreak := [c] }
      else scanBlockLines rest (position.past c) { b with text := c :: b.text }
    else
      let shallow := b.indent == 0 || position.column < b.indent
      if c == ' ' && shallow then scanBlockLines rest (position.past c) b
      else
        let b := { b with deepest := max b.deepest position.column }
        if c == '\t' && shallow then none
        else if isBreak c then
          scanBlockLines rest (position.past c) { b with moreBreaks := c :: b.moreBreaks }
        else
          let b := { b with indent := b.settledIndent }
          if position.column == b.indent then
            scanBlockLines rest (position.past c) (b.startLine c)
          else some ⟨b, c :: rest, position⟩

/-- The rest of a line, and what follows it, if it holds nothing but blanks and a comment. -/
def scanLineEnd : List Char → Position → (inComment : Bool) → Option (Scanned Unit)
  | [], position, _ => some ⟨(), [], position⟩
  | c :: rest, position, inComment =>
    if isBreak c then some ⟨(), rest, position.past c⟩
    else if inComment || isSpace c then scanLineEnd rest (position.past c) inComment
    else if c == '#' then scanLineEnd rest (position.past c) true
    else none

/-- What stands right behind the indicator of a block scalar: a mark for its end and a digit for its
indentation, each at most once. -/
structure BlockHeader where
  chomping : Option Chomping := none
  increment : Option Nat := none

def BlockHeader.add? (header : BlockHeader) (c : Char) : Option BlockHeader :=
  if (c == '+' || c == '-') && header.chomping.isNone then
    some { header with chomping := some (if c == '+' then .keep else .strip) }
  else if c.isDigit && header.increment.isNone then
    some { header with increment := some (c.toNat - '0'.toNat) }
  else none

def scanHeader : List Char → Position → BlockHeader → Scanned BlockHeader
  | [], position, header => ⟨header, [], position⟩
  | c :: rest, position, header =>
    match header.add? c with
    | some header => scanHeader rest (position.past c) header
    | none => ⟨header, c :: rest, position⟩

def scanBlock (folded : Bool) (outer : Int) (text : List Char) (position : Position) :
    Option (Scanned String) := do
  let header := scanHeader text position {}
  guard (header.value.increment ≠ some 0)
  let line ← scanLineEnd header.rest header.position false
  let indent := match header.value.increment with
    | some increment => (max outer 0).toNat + increment
    | none => 0
  let chomping := header.value.chomping.getD .clip
  let block ← scanBlockLines line.rest line.position { folded, chomping, outer, indent }
  return ⟨block.value.result, block.rest, block.position⟩

end ClusterTrials.Yaml
