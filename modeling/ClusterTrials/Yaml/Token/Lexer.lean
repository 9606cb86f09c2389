import ClusterTrials.Yaml.Token.Scalar
/-!
# From text to tokens

A mapping key without a mark is only known as a key once its colon is seen, which must be on the same
line and within 1024 bytes. The lexer therefore remembers, for each collection that is open, where
a key may have started, and puts the key token, and the start of a block mapping, in front of what it
has already read. `Token.ofSource?` gives the tokens of a whole text.
-/

namespace ClusterTrials.Yaml

/-- Where a key without a mark may have started. -/
structure PossibleKey where
  possible : Bool := false
  /-- Whether nothing but a key can stand there. -/
  required : Bool := false
  /-- How many tokens come before it. -/
  token : Nat := 0
  position : Position := {}

structure Lexer where
  rest : List Char
  position : Position := {}
  /-- The indentation of the innermost block collection, and of those around it. -/
  indent : Int := -1
  outer : List Int := []
  /-- The possible key of the block context. -/
  blockKey : PossibleKey := {}
  /-- The possible keys of the open flow collections, the innermost first. -/
  flowKeys : List PossibleKey := []
  keyAllowed : Bool := true
  tokens : Array Token := #[]

namespace Lexer

def inFlow (l : Lexer) : Bool := !l.flowKeys.isEmpty

def column (l : Lexer) : Nat := l.position.column

def emit (l : Lexer) (t : Token) : Lexer := { l with tokens := l.tokens.push t }

def skip (l : Lexer) : Lexer :=
  match l.rest with
  | [] => l
  | c :: rest => { l with rest, position := l.position.past c }

def moveTo {α : Type} (l : Lexer) (s : Scanned α) : Lexer :=
  { l with rest := s.rest, position := s.position }

/-! ## Possible keys -/

def key (l : Lexer) : PossibleKey := l.flowKeys.headD l.blockKey

def setKey (l : Lexer) (k : PossibleKey) : Lexer :=
  match l.flowKeys with
  | [] => { l with blockKey := k }
  | _ :: keys => { l with flowKeys := k :: keys }

/-- Gives up a key whose colon is out of reach. -/
def PossibleKey.expire? (position : Position) (k : PossibleKey) : Option PossibleKey :=
  if k.possible && (k.position.line < position.line || k.position.index + 1024 < position.index) then
    if k.required then none else some { k with possible := false }
  else some k

def expireKeys? (l : Lexer) : Option Lexer := do
  let blockKey ← PossibleKey.expire? l.position l.blockKey
  let flowKeys ← l.flowKeys.mapM (PossibleKey.expire? l.position)
  return { l with blockKey, flowKeys }

def dropKey? (l : Lexer) : Option Lexer :=
  let k := l.key
  if k.possible && k.required then none else some (l.setKey { k with possible := false })

def saveKey? (l : Lexer) : Option Lexer :=
  if l.keyAllowed then do
    let required := !l.inFlow && l.indent == l.column
    let l ← l.dropKey?
    return l.setKey { possible := true, required, token := l.tokens.size, position := l.position }
  else some l

/-! ## Indentation -/

/-- Opens a block collection, before the token at `place`, if the column is deeper than the ones open. -/
def roll (l : Lexer) (column place : Nat) (t : Token) : Lexer :=
  if !l.inFlow && l.indent < column then
    { l with
      indent := column, outer := l.indent :: l.outer
      tokens := l.tokens.insertIdxIfInBounds place t }
  else l

/-- Closes the block collections that are deeper than a column. -/
def unrollTo (column : Int) : (outer : List Int) → (indent : Int) → Array Token →
    Int × List Int × Array Token
  | [], indent, tokens => (indent, [], tokens)
  | next :: outer, indent, tokens =>
    if column < indent then unrollTo column outer next (tokens.push .blockEnd)
    else (indent, next :: outer, tokens)

def unroll (l : Lexer) (column : Int) : Lexer :=
  if l.inFlow then l
  else
    let (indent, outer, tokens) := unrollTo column l.outer l.indent l.tokens
    { l with indent, outer, tokens }

/-! ## Between tokens -/

/-- Passes blanks, comments and line breaks. A tab is passed only where no key may start. -/
def scanGap (inFlow : Bool) :
    List Char → Position → (inComment keyAllowed : Bool) → Scanned Bool
  | [], position, _, keyAllowed => ⟨keyAllowed, [], position⟩
  | c :: rest, position, inComment, keyAllowed =>
    if isBreak c then scanGap inFlow rest (position.past c) false (keyAllowed || !inFlow)
    else if inComment || c == ' ' || (c == '\t' && (inFlow || !keyAllowed)) ||
        (c == byteOrderMark && position.column == 0) then
      scanGap inFlow rest (position.past c) inComment keyAllowed
    else if c == '#' then scanGap inFlow rest (position.past c) true keyAllowed
    else ⟨keyAllowed, c :: rest, position⟩

/-! ## Words -/

def isWordChar (c : Char) : Bool := c.isAlphanum || c == '-' || c == '_'

def takeWhile (l : Lexer) (p : Char → Bool) : List Char × Lexer :=
  let run := l.rest.takeWhile p
  (run, { l with rest := l.rest.dropWhile p, position := run.foldl Position.past l.position })

def skipSpaces (l : Lexer) : Lexer := (l.takeWhile isSpace).2

def skipChar? (l : Lexer) (c : Char) : Option Lexer :=
  if l.rest.head? = some c then some l.skip else none

def isUriChar (c : Char) : Bool := isWordChar c || c ∈ ";/?:@&=+$.!~*'()".toList

/-- How many bytes must follow a byte that is spelled out. -/
def followers? (b : UInt8) : Option Nat :=
  if b < 0x80 then some 0
  else if 0xC0 ≤ b ∧ b < 0xE0 then some 1
  else if 0xE0 ≤ b ∧ b < 0xF0 then some 2
  else if 0xF0 ≤ b ∧ b < 0xF8 then some 3
  else none

/-- The bytes of a part of a tag's name, where a percent sign and two digits spell a byte. Bytes that
begin a character must be followed by as many more as they announce, of which `owed` are still to come;
whether these make up a character does not matter. -/
def tagBytes? : (owed : Nat) → List Char → Option TagPart
  | owed, [] => if owed = 0 then some [] else none
  | owed, '%' :: a :: b :: rest => do
    let byte : UInt8 := .ofNat ((← hexValue? a) * 16 + (← hexValue? b))
    if owed = 0 then return byte :: (← tagBytes? (← followers? byte) rest)
    guard (0x80 ≤ byte ∧ byte < 0xC0)
    return byte :: (← tagBytes? (owed - 1) rest)
  | owed, c :: rest => do
    guard (owed = 0 ∧ c ≠ '%')
    return .ofNat c.toNat :: (← tagBytes? 0 rest)

/-- Takes a part of a tag's name, which ends before the first zero among its bytes. The flag tells whether
anything was written there at all. -/
def takeTagPart? (l : Lexer) (extra : List Char) : Option (TagPart × Bool × Lexer) := do
  let (run, l) := l.takeWhile fun c => isUriChar c || c == '%' || c ∈ extra
  return ((← tagBytes? 0 run).takeWhile (· ≠ 0), !run.isEmpty, l)

/-- Takes the handle of a tag: `!`, `!!` or a word between two such marks. A lone mark may also be
followed by a word, which is then no handle. -/
def takeHandle? (l : Lexer) : Option (List Char × Lexer) := do
  let l ← l.skipChar? '!'
  let (word, l) := l.takeWhile isWordChar
  match l.skipChar? '!' with
  | some l => return ('!' :: word ++ ['!'], l)
  | none => return ('!' :: word, l)

/-! ## The tokens -/

def takeNumber? (l : Lexer) : Option (Nat × Lexer) :=
  let (digits, l) := l.takeWhile Char.isDigit
  if digits.isEmpty || 9 < digits.length then none
  else some (digits.foldl (fun n c => 10 * n + (c.toNat - '0'.toNat)) 0, l)

def lexDirective? (l : Lexer) : Option Lexer := do
  let (name, l) := l.skip.takeWhile isWordChar
  guard (atGap l.rest)
  let l ← match String.ofList name with
    | "YAML" => do
      let (major, l) ← l.skipSpaces.takeNumber?
      let (minor, l) ← (← l.skipChar? '.').takeNumber?
      some (l.emit (.version major minor))
    | "TAG" => do
      let (handle, l) ← l.skipSpaces.takeHandle?
      guard (handle = ['!'] || (1 < handle.length && handle.getLast? = some '!'))
      guard (l.rest.head?.any isSpace)
      let (start, isWritten, l) ← l.skipSpaces.takeTagPart? [',', '[', ']']
      guard (isWritten && atGap l.rest)
      some (l.emit (.tagPrefix (String.ofList handle) start))
    | _ => none
  return l.moveTo (← scanLineEnd l.rest l.position false)

/-- What may follow the name of an anchor or an alias. -/
def endsName (rest : List Char) : Bool :=
  atGap rest || rest.head?.any fun c => c ∈ ['?', ':', ',', ']', '}', '%', '@', '`']

def lexName? (l : Lexer) (t : String → Token) : Option Lexer :=
  let (name, l) := l.skip.takeWhile isWordChar
  if name.isEmpty || !endsName l.rest then none else some (l.emit (t (String.ofList name)))

def lexTag? (l : Lexer) : Option Lexer := do
  let (handle, suffix, l) ←
    match l.rest with
    | '!' :: '<' :: _ => do
      let (suffix, isWritten, l) ← l.skip.skip.takeTagPart? [',', '[', ']']
      guard isWritten
      some (none, suffix, ← l.skipChar? '>')
    | _ => do
      let (handle, l) ← l.takeHandle?
      let (suffix, isWritten, l) ← l.takeTagPart? []
      if 1 < handle.length && handle.getLast? = some '!' then
        guard isWritten
        some (some (String.ofList handle), suffix, l)
      else match Text.encode (String.ofList (handle.drop 1)) ++ suffix with
        | [] => some (none, Text.encode "!", l)
        | suffix => some (some "!", suffix, l)
  guard (atGap l.rest || (l.inFlow && l.rest.head? = some ','))
  return l.emit (.tag handle suffix)

def beginScalar? (l : Lexer) : Option Lexer := do
  return { ← l.saveKey? with keyAllowed := false }

def lexPlain? (l : Lexer) : Option Lexer := do
  let l ← l.beginScalar?
  let s ← scanPlain l.inFlow (l.indent + 1).toNat l.rest l.position false {}
  return { (l.moveTo s).emit (.scalar s.value.result .plain) with keyAllowed := s.value.broken }

def lexSingleQuoted? (l : Lexer) : Option Lexer := do
  let l := (← l.beginScalar?).skip
  let s ← scanSingleQuoted l.rest l.position false {}
  return (l.moveTo s).emit (.scalar s.value .singleQuoted)

def lexDoubleQuoted? (l : Lexer) : Option Lexer := do
  let l := (← l.beginScalar?).skip
  let s ← scanDoubleQuoted l.rest l.position .no {}
  return (l.moveTo s).emit (.scalar s.value .doubleQuoted)

def lexBlockScalar? (l : Lexer) (folded : Bool) : Option Lexer := do
  let l := (← l.dropKey?).skip
  let s ← scanBlock folded l.indent l.rest l.position
  let style := if folded then .folded else .literal
  return { (l.moveTo s).emit (.scalar s.value style) with keyAllowed := true }

def lexFlowStart? (l : Lexer) (t : Token) : Option Lexer := do
  let l ← l.saveKey?
  return { l.skip.emit t with flowKeys := {} :: l.flowKeys, keyAllowed := true }

def lexFlowEnd? (l : Lexer) (t : Token) : Option Lexer := do
  let l ← l.dropKey?
  return { l.skip.emit t with flowKeys := l.flowKeys.drop 1, keyAllowed := false }

def lexFlowEntry? (l : Lexer) : Option Lexer := do
  let l ← l.dropKey?
  return { l.skip.emit .flowEntry with keyAllowed := true }

def lexBlockEntry? (l : Lexer) : Option Lexer := do
  guard (l.inFlow || l.keyAllowed)
  let l ← (l.roll l.column l.tokens.size .blockSequenceStart).dropKey?
  return { l.skip.emit .blockEntry with keyAllowed := true }

def lexKey? (l : Lexer) : Option Lexer := do
  guard (l.inFlow || l.keyAllowed)
  let l ← (l.roll l.column l.tokens.size .blockMappingStart).dropKey?
  return { l.skip.emit .key with keyAllowed := !l.inFlow }

def lexValue? (l : Lexer) : Option Lexer :=
  let k := l.key
  if k.possible then
    let l := { l with tokens := l.tokens.insertIdxIfInBounds k.token .key }
    let l := l.roll k.position.column k.token .blockMappingStart
    some { (l.setKey { k with possible := false }).skip.emit .value with keyAllowed := false }
  else do
    guard (l.inFlow || l.keyAllowed)
    let l := l.roll l.column l.tokens.size .blockMappingStart
    return { l.skip.emit .value with keyAllowed := !l.inFlow }

/-- Closes all block collections, as a document's end and a directive do. -/
def closeBlocks? (l : Lexer) : Option Lexer := do
  return { ← (l.unroll (-1)).dropKey? with keyAllowed := false }

def lexDocumentMark? (l : Lexer) (t : Token) : Option Lexer := do
  return (← l.closeBlocks?).skip.skip.skip.emit t

def lexStreamEnd? (l : Lexer) : Option Lexer := do
  return (← l.closeBlocks?).emit .streamEnd

def isIndicator (c : Char) : Bool := c ∈ "-?:,[]{}#&*!|>'\"%@`".toList

def startsPlain (inFlow : Bool) (c : Char) (rest : List Char) : Bool :=
  !(isSpaceOrBreak c || isIndicator c) || (c == '-' && !(rest.head?.any isSpace)) ||
    (!inFlow && (c == '?' || c == ':') && !atGap rest)

def step? (l : Lexer) : Option Lexer := do
  let gap := scanGap l.inFlow l.rest l.position false l.keyAllowed
  let l := { l.moveTo gap with keyAllowed := gap.value }
  let l ← l.expireKeys?
  let l := l.unroll l.column
  match l.rest with
  | [] => l.lexStreamEnd?
  | c :: rest =>
    if l.column == 0 && c == '%' then (← l.closeBlocks?).lexDirective?
    else if l.column == 0 && atDocumentMark l.rest then
      l.lexDocumentMark? (if c == '-' then .documentStart else .documentEnd)
    else if c == '[' then l.lexFlowStart? .flowSequenceStart
    else if c == '{' then l.lexFlowStart? .flowMappingStart
    else if c == ']' then l.lexFlowEnd? .flowSequenceEnd
    else if c == '}' then l.lexFlowEnd? .flowMappingEnd
    else if c == ',' then l.lexFlowEntry?
    else if c == '-' && atGap rest then l.lexBlockEntry?
    else if c == '?' && (l.inFlow || atGap rest) then l.lexKey?
    else if c == ':' && (l.inFlow || atGap rest) then l.lexValue?
    else if c == '*' then (← l.beginScalar?).lexName? .alias
    else if c == '&' then (← l.beginScalar?).lexName? .anchor
    else if c == '!' then (← l.beginScalar?).lexTag?
    else if c == '|' && !l.inFlow then l.lexBlockScalar? false
    else if c == '>' && !l.inFlow then l.lexBlockScalar? true
    else if c == '\'' then l.lexSingleQuoted?
    else if c == '"' then l.lexDoubleQuoted?
    else if startsPlain l.inFlow c rest then l.lexPlain?
    else none

/-- Reads tokens up to the end of the text. Each of them takes at least one character, so that one more
step than there are characters is enough. -/
def run? : (steps : Nat) → Lexer → Option (Array Token)
  | 0, _ => none
  | steps + 1, l => do
    let l ← l.step?
    if l.tokens.back? = some .streamEnd then return l.tokens else run? steps l

end Lexer

def Token.ofSource? (source : List Char) : Option (List Token) :=
  (Lexer.run? (source.length + 1) { rest := source }).map Array.toList

end ClusterTrials.Yaml
