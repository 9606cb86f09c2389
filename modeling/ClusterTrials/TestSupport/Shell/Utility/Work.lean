import ClusterTrials.TestSupport.Shell.Lexer
import ClusterTrials.TestSupport.Shell.Session
/-!
# Test support: what a utility works on

A utility takes its arguments and what it works on: the files, what there is to read, and what it has written
so far. Names in its messages are written the way a shell would read them back.
-/

namespace ClusterTrials.TestSupport.Shell

structure Work where
  files : Files
  input : Bytes := []
  /-- What has been written, in order, and to which descriptor. -/
  written : List (Nat × Bytes) := []
  status : Nat := 0

abbrev Utility := Work → (arguments : List Bytes) → Work

namespace Work

def print (work : Work) (text : Bytes) : Work := { work with written := work.written ++ [(1, text)] }

def complainWith (work : Work) (status : Nat) (text : Bytes) : Work :=
  { work with written := work.written ++ [(2, text ++ ['\n'])], status }

def complain (work : Work) (text : Bytes) : Work := work.complainWith 1 text

def misusedWith (work : Work) (status : Nat) (name : String) (text : Bytes) : Work :=
  (work.complainWith status (toBytes (name ++ ": ") ++ text)).complainWith status
    (toBytes ("Try '" ++ name ++ " --help' for more information."))

def misused (work : Work) (name : String) (text : Bytes) : Work := work.misusedWith 1 name text

end Work

def reason : IoError → String
  | .system _ _ text => text
  | error => error.message

def shownName (name : Bytes) : Bytes := ['\''] ++ name ++ ['\'']

/-! ## Names in quotes -/

/-- Whether a character has no place in quotes of its own: it is none that can be shown. -/
def isHiddenByte (c : Char) : Bool := c.toNat < 0x20 || 0x7F ≤ c.toNat

def needsQuotes (name : Bytes) : Bool :=
  let isSpecial (c : Char) : Bool :=
    isHiddenByte c || c = graveAccent || c ∈ " !\"$&()*;<=>[^|'?\\:".toList
  name.isEmpty || name.any isSpecial || name.head? = some '#' || name.head? = some '~' ||
    name = ['\x7b'] || name = ['\x7d']

/-- What follows the quote that opens a text, up to the one that closes it. `isEscaping` tells whether a hidden
byte came before. -/
def quotedBody : (isEscaping : Bool) → Bytes → Bytes
  | _, [] => ['\'']
  | isEscaping, c :: rest =>
    if isHiddenByte c then
      let letter := [('\x07', 'a'), ('\x08', 'b'), ('\x0c', 'f'), ('\n', 'n'), ('\r', 'r'), ('\t', 't'),
        ('\x0b', 'v')].lookup c
      let digits := Nat.toDigits 8 (512 + c.toNat)
      (if isEscaping then [] else "'$'".toList) ++ '\\' :: (letter.map fun letter => [letter]).getD (digits.drop 1)
        ++ quotedBody true rest
    else if c = '\'' then "'\\''".toList ++ quotedBody false rest
    else (if isEscaping then "''".toList else []) ++ c :: quotedBody false rest

/-- A name as a shell would read it back, in quotes if it needs them or if it is to have them always. -/
def quotedName (always : Bool) (name : Bytes) : Bytes :=
  let isPlain (c : Char) : Bool := c.isAlphanum || c ∈ "%+,-./:]_\x7b\x7d '".toList
  if !always && !needsQuotes name then name
  else if '\'' ∈ name && name.all isPlain then '"' :: name ++ ['"']
  else '\'' :: quotedBody false name

/-! ## Options -/

structure Arguments where
  options : List (Char × Bytes) := []
  operands : List Bytes := []

def Arguments.has (arguments : Arguments) (letter : Char) : Bool :=
  arguments.options.any (·.1 = letter)

def Arguments.value? (arguments : Arguments) (letter : Char) : Option Bytes :=
  arguments.options.reverse.lookup letter

/-- The options that letters behind a hyphen name, and whether the next argument is the value of the last; or
else a letter that is none. -/
def readLetters (plain valued : List Char) : Bytes → Except Char (List (Char × Bytes) × Option Char)
  | [] => .ok ([], none)
  | c :: rest =>
    if c ∈ valued then .ok (if rest.isEmpty then ([], some c) else ([(c, rest)], none))
    else if c ∈ plain then do
      let (options, wanting) ← readLetters plain valued rest
      return ((c, []) :: options, wanting)
    else .error c

def Arguments.read (plain valued : List Char) : (wanting : Option Char) → List Bytes →
    Except Bytes Arguments
  | some letter, [] => .error (toBytes "option requires an argument -- " ++ shownName [letter])
  | none, [] => .ok {}
  | some letter, value :: rest => do
    let arguments ← read plain valued none rest
    return { arguments with options := (letter, value) :: arguments.options }
  | none, ['-', '-'] :: rest => .ok { operands := rest }
  | none, ('-' :: '-' :: name) :: _ =>
    .error (toBytes "unrecognized option " ++ shownName ('-' :: '-' :: name))
  | none, ('-' :: c :: letters) :: rest => do
    let (options, wanting) ← (readLetters plain valued (c :: letters)).mapError fun letter =>
      toBytes "invalid option -- " ++ shownName [letter]
    let arguments ← read plain valued wanting rest
    return { arguments with options := options ++ arguments.options }
  | none, operand :: rest => do
    let arguments ← read plain valued none rest
    return { arguments with operands := operand :: arguments.operands }

/-- Reads the options of a command of the shell itself, which end where the first operand is. -/
def Arguments.readFirst (plain valued : List Char) : (wanting : Option Char) → List Bytes →
    Except Bytes Arguments
  | some letter, [] => .error (toBytes "No arg for -" ++ [letter] ++ toBytes " option")
  | some letter, value :: rest => do
    let arguments ← readFirst plain valued none rest
    return { arguments with options := (letter, value) :: arguments.options }
  | none, ['-', '-'] :: rest => .ok { operands := rest }
  | none, ('-' :: c :: letters) :: rest => do
    let (options, wanting) ← (readLetters plain valued (c :: letters)).mapError fun letter =>
      toBytes "Illegal option -" ++ [letter]
    let arguments ← readFirst plain valued wanting rest
    return { arguments with options := options ++ arguments.options }
  | none, operands => .ok { operands }

def withOptions (name : String) (plain valued : String) (status : Nat)
    (run : Work → Arguments → Work) : Utility := fun work words =>
  match Arguments.read plain.toList valued.toList none words with
  | .ok arguments => run work arguments
  | .error text => work.misusedWith status name text

end ClusterTrials.TestSupport.Shell
