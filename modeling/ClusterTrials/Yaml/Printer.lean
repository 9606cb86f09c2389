import ClusterTrials.Binary64.Style
import ClusterTrials.Tree
import ClusterTrials.Yaml.Source
import ClusterTrials.Yaml.Value
/-!
# Writing documents

`write` writes a tree as block mappings, each two columns further in than the one around it. A text is
written plainly if it reads back as that text; one with line feeds is a literal block, and what can stand
neither plainly nor in such a block is quoted. `styleFor` makes that choice.
-/

namespace ClusterTrials.Yaml

/-! ## The choice of a style -/

/-- Whether a plain scalar of this text would be read as something else than a text, or might be by
other readers. -/
def looksTyped (text : String) : Bool :=
  let chars := text.toList
  text = "" || isNullWord text || (flag? text).isSome || isPaddedNumber chars ||
    (natural? (Nat.pow 2 128) chars).isSome || (negative? (Nat.pow 2 127) chars).isSome || (number? chars).isSome

def isWritable (c : Char) : Bool :=
  let code := c.toNat
  code == 0xA || (0x20 ≤ code && code ≤ 0x7E) || (0xA0 ≤ code && code ≤ 0xFFFD && c != byteOrderMark) ||
    0x10000 ≤ code

def indicators : List Char :=
  ['#', ',', '[', ']', '{', '}', '&', '*', '!', '|', '>', '\'', '"', '%', '@', Char.ofNat 0x60]

def startsWithIndicator (text : List Char) : Bool :=
  ['-', '-', '-'].isPrefixOf text || ['.', '.', '.'].isPrefixOf text ||
    match text with
    | [] => false
    | c :: rest => c ∈ indicators || (c ∈ ['?', ':', '-'] && atGap rest)

/-- Whether a colon stands before a gap or a number sign behind one. -/
def hasInnerIndicator : (afterGap : Bool) → List Char → Bool
  | _, [] => false
  | afterGap, c :: rest =>
    (c == ':' && atGap rest) || (c == '#' && afterGap) || hasInnerIndicator (isSpaceOrBreak c) rest

def hasPair (first second : Char → Bool) : List Char → Bool
  | a :: b :: rest => (first a && second b) || hasPair first second (b :: rest)
  | _ => false

def isBlankChar (c : Char) : Bool := c == ' '

def isClean (text : List Char) : Bool := text.all isWritable && !hasPair isBlankChar isBreak text

def fitsPlain (text : List Char) : Bool :=
  isClean text && !text.any isBreak && text.head? != some ' ' && text.getLast? != some ' ' &&
    !startsWithIndicator text && !hasInnerIndicator false text

def fitsSingleQuotes (text : List Char) : Bool := isClean text && !hasPair isBreak isBlankChar text

def fitsLiteral (text : List Char) : Bool := isClean text && text.getLast? != some ' '

def styleFor (text : String) : ScalarStyle :=
  let chars := text.toList
  if '\n' ∈ chars then if fitsLiteral chars then .literal else .doubleQuoted
  else if fitsPlain chars && !looksTyped text then .plain
  else if fitsSingleQuotes chars then .singleQuoted
  else .doubleQuoted

/-! ## Scalars -/

def spaces (count : Nat) : String := String.ofList (List.replicate count ' ')

/-- Writes the characters between single quotes. A break is followed by the indentation. -/
def singleQuotedBody (indent : Nat) : (afterBreak : Bool) → List Char → String
  | afterBreak, [] => if afterBreak then spaces indent else ""
  | afterBreak, c :: rest =>
    if isBreak c then c.toString ++ singleQuotedBody indent true rest
    else
      (if afterBreak then spaces indent else "") ++ (if c == '\'' then "''" else c.toString) ++
        singleQuotedBody indent false rest

def hexPadded (width code : Nat) : String :=
  let digits := (Nat.toDigits 16 code).map Char.toUpper
  String.ofList (List.replicate (width - digits.length) '0' ++ digits)

def escapeLetter? (c : Char) : Option Char :=
  [('\x00', '0'), ('\x07', 'a'), ('\x08', 'b'), ('\t', 't'), ('\n', 'n'), ('\x0b', 'v'), ('\x0c', 'f'),
    ('\r', 'r'), ('\x1b', 'e'), ('"', '"'), ('\\', '\\'), (nextLine, 'N'), (lineSeparator, 'L'),
    (paragraphSeparator, 'P')].lookup c

def escaped (c : Char) : String :=
  match escapeLetter? c with
  | some letter => "\\" ++ letter.toString
  | none =>
    let code := c.toNat
    if isWritable c then c.toString
    else if code ≤ 0xFF then "\\x" ++ hexPadded 2 code
    else if code ≤ 0xFFFF then "\\u" ++ hexPadded 4 code
    else "\\U" ++ hexPadded 8 code

/-- What follows the mark of a literal block: its indentation, where the first line does not show it, and
what becomes of the line breaks at the end. -/
def literalHints (text : List Char) : String :=
  let indentation := if text.head?.any fun c => c == ' ' || isBreak c then "2" else ""
  let chomping := match text.reverse with
    | [] => "-"
    | [c] => if isBreak c then "+" else "-"
    | c :: d :: _ => if !isBreak c then "-" else if isBreak d then "+" else ""
  indentation ++ chomping

def literalBody (indent : Nat) : (afterBreak : Bool) → List Char → String
  | _, [] => ""
  | afterBreak, c :: rest =>
    if isBreak c then c.toString ++ literalBody indent true rest
    else (if afterBreak then spaces indent else "") ++ c.toString ++ literalBody indent false rest

def writeText (indent : Nat) (text : String) : String :=
  let chars := text.toList
  match styleFor text with
  | .plain => text
  | .singleQuoted => "'" ++ singleQuotedBody indent false chars ++ "'"
  | .literal => "|" ++ literalHints chars ++ "\n" ++ literalBody indent true chars
  | .doubleQuoted | .folded => "\"" ++ String.join (chars.map escaped) ++ "\""

/-! ## Trees -/

def endLine (line : String) : String :=
  if line.toList.getLast?.any isBreak then line else line ++ "\n"

mutual

/-- Writes what stands behind the colon of an entry of a mapping that is indented by `indent`. -/
def writeValue (indent : Nat) : Tree → String
  | .null => " null\n"
  | .boolean value => (if value then " true" else " false") ++ "\n"
  | .natural value => " " ++ toString value ++ "\n"
  | .number value => " " ++ NumberStyle.yaml.write value ++ "\n"
  | .text value => endLine (" " ++ writeText (indent + 2) value)
  | .object [] => " \x7b\x7d\n"
  | .object (field :: fields) => "\n" ++ writeFields (indent + 2) (field :: fields)

def writeFields (indent : Nat) : List (String × Tree) → String
  | [] => ""
  | (name, value) :: rest =>
    spaces indent ++ writeText indent name ++ ":" ++ writeValue indent value ++
      writeFields indent rest

end

def write (fields : List (String × Tree)) : String := writeFields 0 fields

end ClusterTrials.Yaml
