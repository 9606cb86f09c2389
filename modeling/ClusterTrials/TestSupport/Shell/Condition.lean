import ClusterTrials.TestSupport.Shell.Session
/-!
# Test support: conditions

The words of a condition compare texts and numbers and ask about files. They are read from the left: each
reader is told what kind of word stands first, and leaves off at the last word that it has used.
-/

namespace ClusterTrials.TestSupport.Shell

inductive ConditionWord
  | operand
  | unary (name : String)
  | binary (name : String)
  | negation
  | conjunction
  | disjunction
  | openParen
  | closeParen
  /-- There is no word. -/
  | missing
  deriving DecidableEq, Repr

def unaryNames : List String :=
  ["-r", "-w", "-x", "-e", "-f", "-d", "-c", "-b", "-p", "-u", "-g", "-k", "-s", "-t", "-z", "-n", "-h",
    "-O", "-G", "-L", "-S"]

def binaryNames : List String :=
  ["=", "!=", "<", ">", "-eq", "-ne", "-ge", "-gt", "-le", "-lt", "-nt", "-ot", "-ef"]

def ConditionWord.ofText (text : Bytes) : ConditionWord :=
  if text.head?.any Char.isAlphanum then .operand
  else
    let found := String.ofList text
    match found with
    | "!" => .negation
    | "-a" => .conjunction
    | "-o" => .disjunction
    | "(" => .openParen
    | ")" => .closeParen
    | _ =>
      if found ∈ unaryNames then .unary found
      else if found ∈ binaryNames then .binary found
      else .operand

def ConditionWord.first (words : List Bytes) : ConditionWord :=
  match words with
  | [] => .missing
  | word :: rest =>
    match ConditionWord.ofText word with
    | .unary name =>
      let isOperand := match rest with
        | [] => true
        | [_] => false
        | next :: _ => (ConditionWord.ofText next matches .binary _)
      if isOperand then .operand else .unary name
    | .openParen => if rest.isEmpty then .operand else .openParen
    | kind => kind

def asksFile (files : Files) (name : String) (path : Bytes) : Bool :=
  (files.find? (toText path)).any fun entry =>
    match name with
    | "-e" | "-r" | "-w" | "-O" | "-G" => true
    | "-f" => (entry matches .file _ _ | .utility _)
    | "-d" => entry = .directory
    | "-x" => (entry matches .file _ true | .utility _ | .directory)
    | "-s" =>
      match entry with
      | .file bytes _ => !bytes.isEmpty
      | .utility _ | .directory => true
      | _ => false
    | "-c" => entry = .sink
    | _ => false

def conditionNumber (text : Bytes) : Except Bytes Int :=
  match integer? readDecimal text with
  | some value => .ok value
  | none => .error (toBytes "Illegal number: " ++ text)

def holdsUnary (files : Files) (name : String) (text : Bytes) : Except Bytes Bool :=
  match name with
  | "-z" => .ok text.isEmpty
  | "-n" => .ok (!text.isEmpty)
  | "-t" => do
    let _ ← conditionNumber text
    return false
  | _ => .ok (asksFile files name text)

def holdsBinary (files : Files) (name : String) (a b : Bytes) : Except Bytes Bool :=
  let isLess (a b : Bytes) : Bool := List.lex a b fun c d => c.toNat < d.toNat
  let numbers (holds : Int → Int → Bool) : Except Bytes Bool := do
    return holds (← conditionNumber a) (← conditionNumber b)
  match name with
  | "=" => .ok (a = b)
  | "!=" => .ok (a ≠ b)
  | "<" => .ok (isLess a b)
  | ">" => .ok (isLess b a)
  | "-eq" => numbers (· = ·)
  | "-ne" => numbers (· ≠ ·)
  | "-ge" => numbers (· ≥ ·)
  | "-gt" => numbers (· > ·)
  | "-le" => numbers (· ≤ ·)
  | "-lt" => numbers (· < ·)
  | "-ef" =>
    let place? (text : Bytes) : Option (List String) :=
      if asksFile files "-e" text then (files.follow (toText text)).toOption else none
    .ok ((place? a).isSome && place? a = place? b)
  | _ => .ok false

private def lacksArgument {α : Type} (name : String) : Except Bytes α :=
  .error (toBytes (name ++ ": argument expected"))

mutual

def readAny (files : Files) : (fuel : Nat) → ConditionWord → List Bytes →
    Except Bytes (Bool × List Bytes)
  | 0, _, words => .ok (false, words)
  | fuel + 1, kind, words => do
    let (value, words) ← readEvery files fuel kind words
    if ConditionWord.first (words.drop 1) = .disjunction then
      let words := words.drop 2
      let (other, words) ← readAny files fuel (.first words) words
      return (value || other, words)
    else return (value, words)

def readEvery (files : Files) : (fuel : Nat) → ConditionWord → List Bytes →
    Except Bytes (Bool × List Bytes)
  | 0, _, words => .ok (false, words)
  | fuel + 1, kind, words => do
    let (value, words) ← readNot files fuel kind words
    if ConditionWord.first (words.drop 1) = .conjunction then
      let words := words.drop 2
      let (other, words) ← readEvery files fuel (.first words) words
      return (value && other, words)
    else return (value, words)

def readNot (files : Files) : (fuel : Nat) → ConditionWord → List Bytes →
    Except Bytes (Bool × List Bytes)
  | 0, _, words => .ok (false, words)
  | fuel + 1, kind, words => do
    if kind = .negation then
      let next := ConditionWord.first (words.drop 1)
      let (value, words) ← readNot files fuel next (if next = .missing then words else words.drop 1)
      return (!value, words)
    else readPart files fuel kind words

def readPart (files : Files) : (fuel : Nat) → ConditionWord → List Bytes →
    Except Bytes (Bool × List Bytes)
  | 0, _, words => .ok (false, words)
  | fuel + 1, kind, words => do
    match kind, words with
    | .missing, words => return (false, words)
    | .openParen, _ :: words =>
      let next := ConditionWord.first words
      if next = .closeParen then return (false, words)
      let (value, words) ← readAny files fuel next words
      let words := words.drop 1
      if ConditionWord.first words ≠ .closeParen then throw (toBytes "closing paren expected")
      return (value, words)
    | .unary name, _ :: words =>
      match words with
      | [] => lacksArgument name
      | text :: _ => return (← holdsUnary files name text, words)
    | _, first :: rest =>
      match ConditionWord.first rest with
      | .binary name =>
        match rest.drop 1 with
        | [] => lacksArgument name
        | second :: words => return (← holdsBinary files name first second, second :: words)
      | _ => return (!first.isEmpty, words)
    | _, [] => return (false, [])

end

def isComparison : List Bytes → Bool
  | [_, operator, _] => (ConditionWord.ofText operator matches .binary _)
  | _ => false

/-- Whether the words of a condition hold, or what is wrong with them. With three or four words a negation or
a pair of parentheses around the others goes first. -/
def holds (files : Files) : List Bytes → Except Bytes Bool
  | [] => .ok false
  | first :: rest => do
    let words := first :: rest
    let isShort := !isComparison words && (words.length = 3 || words.length = 4)
    if isShort && first = ['!'] then
      return !(← holds files rest)
    let inner := if isShort && first = ['('] && rest.getLast? = some [')'] then rest.dropLast else words
    let kind := if isComparison words then .operand else ConditionWord.first inner
    let (value, left) ← readAny files (8 * words.length + 16) kind inner
    match left with
    | word :: _ :: _ => throw ((if word.isEmpty then [] else word ++ [':', ' ']) ++ toBytes "unexpected operator")
    | _ => return value

end ClusterTrials.TestSupport.Shell
