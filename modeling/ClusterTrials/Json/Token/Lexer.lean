import ClusterTrials.Binary64.Reading
import ClusterTrials.Json.Token
import ClusterTrials.Text.Number
/-!
# From text to tokens

`Token.ofText` reads one character at a time. What was begun is kept in a `Stage`; a character that cannot
go on with it either ends a number or breaks the token.
-/

namespace ClusterTrials.Json

inductive NumberStage
  | sign
  | zero
  | whole
  | point
  | fraction
  | exponent
  | exponentSign
  | exponentDigits
  deriving DecidableEq, Repr

namespace NumberStage

def isComplete : NumberStage → Bool
  | .zero | .whole | .fraction | .exponentDigits => true
  | _ => false

def next? (stage : NumberStage) (c : Char) : Option NumberStage :=
  let exponentFollows := c = 'e' || c = 'E'
  match stage with
  | .sign => if c = '0' then some .zero else if c.isDigit then some .whole else none
  | .zero => if c = '.' then some .point else if exponentFollows then some .exponent else none
  | .whole =>
    if c.isDigit then some .whole
    else if c = '.' then some .point
    else if exponentFollows then some .exponent
    else none
  | .point => if c.isDigit then some .fraction else none
  | .fraction =>
    if c.isDigit then some .fraction else if exponentFollows then some .exponent else none
  | .exponent =>
    if c = '+' || c = '-' then some .exponentSign
    else if c.isDigit then some .exponentDigits
    else none
  | .exponentSign | .exponentDigits => if c.isDigit then some .exponentDigits else none

end NumberStage

inductive Escaping
  | no
  | begun
  /-- So many hexadecimal digits are missing. -/
  | code (missing value : Nat)
  deriving DecidableEq, Repr

/-- A text under construction; its characters are reversed. -/
structure TextStage where
  chars : List Char := []
  escaping : Escaping := .no
  /-- The first half of a pair of surrogates that waits for the second. -/
  half : Option Nat := none
  /-- Whether half of a pair was missing somewhere. -/
  damaged : Bool := false
  deriving DecidableEq, Repr

namespace TextStage

def add (stage : TextStage) (c : Char) : TextStage :=
  { stage with chars := c :: stage.chars, escaping := .no }

/-- Notes that no second half follows. -/
def settle (stage : TextStage) : TextStage :=
  { stage with half := none, damaged := stage.damaged || stage.half.isSome }

def addCode (stage : TextStage) (code : Nat) : TextStage :=
  let isFirst := 0xD800 ≤ code && code ≤ 0xDBFF
  let isSecond := 0xDC00 ≤ code && code ≤ 0xDFFF
  match stage.half with
  | some first =>
    if isSecond then
      { stage.add (Char.ofNat ((first - 0xD800) * 0x400 + (code - 0xDC00) + 0x10000)) with
        half := none }
    else { stage.settle with escaping := .no }
  | none =>
    if isFirst then { stage with escaping := .no, half := some code }
    else if isSecond then { stage with escaping := .no, damaged := true }
    else stage.add (Char.ofNat code)

def token (stage : TextStage) : Token :=
  if stage.settle.damaged then .text none else .text (some (String.ofList stage.chars.reverse))

def broken (stage : TextStage) (reason : Malformed) : Token :=
  .brokenText (if stage.damaged then .grammar else reason) reason

end TextStage

def escape? (c : Char) : Option Char :=
  match c with
  | '"' => some '"'
  | '\\' => some '\\'
  | '/' => some '/'
  | 'b' => some '\x08'
  | 'f' => some '\x0c'
  | 'n' => some '\n'
  | 'r' => some '\r'
  | 't' => some '\t'
  | _ => none

inductive Stage
  | idle
  /-- These characters of a word are still to come. -/
  | word (missing : List Char)
  /-- The characters of a number, reversed. -/
  | number (stage : NumberStage) (chars : List Char)
  | text (stage : TextStage)
  deriving DecidableEq, Repr

/-- What a character does: it adds tokens and leads to a stage, or ends the reading. -/
inductive Step
  | on (tokens : List Token) (stage : Stage)
  | stop (tokens : List Token)
  deriving DecidableEq, Repr

def begin (c : Char) : Step :=
  match c with
  | ' ' | '\t' | '\n' | '\r' => .on [] .idle
  | '{' => .on [.openObject] .idle
  | '}' => .on [.closeObject] .idle
  | '[' => .on [.openArray] .idle
  | ']' => .on [.closeArray] .idle
  | ',' => .on [.comma] .idle
  | ':' => .on [.colon] .idle
  | '"' => .on [] (.text {})
  | 'n' => .on [] (.word ['u', 'l', 'l'])
  | 't' => .on [] (.word ['r', 'u', 'e'])
  | 'f' => .on [] (.word ['a', 'l', 's', 'e'])
  | '-' => .on [] (.number .sign ['-'])
  | _ =>
    match NumberStage.sign.next? c with
    | some stage => .on [] (.number stage [c])
    | none => .stop [.broken .grammar .grammar]

def numberToken (chars : List Char) : Token :=
  .number ((Binary64.read? chars.reverse).any Binary64.isFinite)

def textStep (stage : TextStage) (c : Char) : Step :=
  match stage.escaping with
  | .no =>
    if c = '"' then .on [stage.token] .idle
    else if c = '\\' then .on [] (.text { stage with escaping := .begun })
    else if c.toNat < 0x20 then .stop [stage.broken .grammar]
    else .on [] (.text (stage.settle.add c))
  | .begun =>
    if c = 'u' then .on [] (.text { stage with escaping := .code 4 0 })
    else match escape? c with
      | some d => .on [] (.text (stage.settle.add d))
      | none => .stop [stage.broken .grammar]
  | .code missing value =>
    let digit := Text.digitValue c
    if 16 ≤ digit then .stop [stage.broken .grammar]
    else
      let value := value * 16 + digit
      if missing ≤ 1 then .on [] (.text (stage.addCode value))
      else .on [] (.text { stage with escaping := .code (missing - 1) value })

def step (stage : Stage) (c : Char) : Step :=
  match stage with
  | .idle => begin c
  | .word missing =>
    match missing with
    | [last] => if c = last then .on [.word] .idle else .stop [.broken .grammar .grammar]
    | next :: more => if c = next then .on [] (.word more) else .stop [.broken .grammar .grammar]
    | [] => .stop [.broken .grammar .grammar]
  | .number stage chars =>
    match stage.next? c with
    | some stage => .on [] (.number stage (c :: chars))
    | none =>
      if !stage.isComplete || (stage = .zero && c.isDigit) then .stop [.broken .grammar .grammar]
      else match begin c with
        | .on tokens stage => .on (numberToken chars :: tokens) stage
        | .stop tokens => .stop (numberToken chars :: tokens)
  | .text stage => textStep stage c

def finish : Stage → List Token
  | .idle => []
  | .word _ => [.broken .cutShort .cutShort]
  | .number stage chars =>
    if stage.isComplete then [numberToken chars] else [.broken .cutShort .grammar]
  | .text stage => [stage.broken .cutShort]

def scan : Stage → List Char → List Token
  | stage, [] => finish stage
  | stage, c :: rest =>
    match step stage c with
    | .on tokens stage => tokens ++ scan stage rest
    | .stop tokens => tokens

/-- The tokens of a text, up to the first that is broken. -/
def Token.ofText (text : String) : List Token := scan .idle text.toList

end ClusterTrials.Json
