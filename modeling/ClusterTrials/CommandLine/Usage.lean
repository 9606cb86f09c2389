import ClusterTrials.Binary64.Reading
import ClusterTrials.CommandLine.Word
import ClusterTrials.Text.Number
/-!
# Reading command lines

A `Level` says which flags and subcommands may stand at one level of a command line, and whether the
words of another command may follow. `readLevel` reads the words of a level up to its subcommand, has the
subcommand read, and only then settles what was still open. A flag that takes a value may have it attached
or as the next word; a next word that is itself a flag is no value.
-/

namespace ClusterTrials.CommandLine

/-- Why a command line does not ask for anything that can be done. -/
inductive UsageFault
  | unknownFlag
  | unknownCommand
  /-- A flag that may stand once stands twice. -/
  | repeated
  /-- A flag lacks its value. -/
  | valueMissing
  /-- A flag without value has one attached. -/
  | valueUnwanted
  /-- A value is not of the flag's type. -/
  | valueInvalid
  /-- A word that must be text is not. -/
  | notText
  /-- There is nothing at a level that needs a subcommand. -/
  | nothingGiven
  | commandMissing
  /-- The words of the command to run are missing. -/
  | wordsMissing
  | helpAsked
  | versionAsked
  deriving DecidableEq, Repr

/-- Asking for help or for the version is no failure; everything else is one. -/
def UsageFault.exitCode : UsageFault → Nat
  | .helpAsked | .versionAsked => 0
  | _ => 2

inductive ValueKind
  | text
  /-- A natural number below `2 ^ 32`. -/
  | count
  | seconds
  deriving DecidableEq, Repr

inductive Value
  | text (text : String)
  | count (count : UInt32)
  | seconds (seconds : Binary64)
  deriving DecidableEq, Repr

def Word.text (word : Word) : Except UsageFault String := word.text?.elim (.error .notText) .ok

/-- A minus is only allowed before a zero. -/
def readCount? (chars : List Char) : Option UInt32 :=
  match chars with
  | '-' :: digits => ((Text.readDigits? 10 digits).filter (· = 0)).map .ofNat
  | _ => (Text.readUnsigned? 10 UInt32.size chars).map .ofNat

def ValueKind.read (kind : ValueKind) (word : Word) : Except UsageFault Value :=
  match word.text?, kind with
  | none, _ => .error .notText
  | some written, .text => .ok (.text written)
  | some written, .count => (readCount? written.toList).elim (.error .valueInvalid) (.ok <| .count ·)
  | some written, .seconds =>
    (Binary64.read? written.toList).elim (.error .valueInvalid) (.ok <| .seconds ·)

inductive FlagKind
  /-- May stand any number of times, each of which counts. -/
  | counted
  /-- May stand once. -/
  | once
  /-- Takes a value. -/
  | setting (kind : ValueKind) (repeatable : Bool)
  | help
  | version
  deriving DecidableEq, Repr

structure Flag where
  /-- What stands behind two dashes. -/
  name : String
  /-- What stands behind one. -/
  short : Option Char := none
  kind : FlagKind
  deriving DecidableEq, Repr

structure Level where
  flags : List Flag
  commands : List String := []
  /-- Whether the words of another command follow, which may look like unknown flags. -/
  takesWords : Bool := false
  deriving Repr

namespace Level

def flag? (level : Level) (name : String) : Option Flag :=
  level.flags.find? fun flag => flag.name = name

def short? (level : Level) (c : Char) : Option Flag :=
  level.flags.find? fun flag => flag.short = some c

def command? (level : Level) (word : Word) : Option String :=
  word.text?.filter (· ∈ level.commands)

end Level

/-- One use of a flag. -/
structure Use where
  name : String
  value : Option Value := none
  deriving DecidableEq, Repr

/-- A flag whose value was to be the next word. -/
structure Pending where
  name : String
  kind : ValueKind
  repeatable : Bool
  value : Option Word := none
  deriving DecidableEq, Repr

structure Progress where
  /-- In the order they stand. -/
  uses : List Use := []
  pending : Option Pending := none
  deriving DecidableEq, Repr

namespace Progress

/-- Whether the next word is a value unless it is a flag. -/
def isAwaiting (progress : Progress) : Bool := progress.pending.any fun p => p.value.isNone

def hasUsed (progress : Progress) (name : String) : Bool :=
  progress.uses.any fun use => use.name = name

def useOnce (progress : Progress) (use : Use) : Except UsageFault Progress :=
  if progress.hasUsed use.name then .error .repeated
  else .ok { progress with uses := progress.uses ++ [use] }

def useValue (progress : Progress) (name : String) (kind : ValueKind) (repeatable : Bool)
    (word : Word) : Except UsageFault Progress := do
  if !repeatable && progress.hasUsed name then throw .repeated
  let value ← kind.read word
  return { progress with uses := progress.uses ++ [{ name, value := some value }] }

def resolve (progress : Progress) : Except UsageFault Progress :=
  match progress.pending with
  | none => .ok progress
  | some pending =>
    match pending.value with
    | none => .error .valueMissing
    | some word =>
      { progress with pending := none }.useValue pending.name pending.kind pending.repeatable word

def giveValue (progress : Progress) (word : Word) : Progress :=
  { progress with pending := progress.pending.map fun p => { p with value := some word } }

/-- Uses a flag that takes no value, or that has one attached or still to come. -/
def useFlag (progress : Progress) (flag : Flag) (attached : Option Word) :
    Except UsageFault Progress :=
  match flag.kind, attached with
  | .setting kind repeatable, some word => do
    (← progress.resolve).useValue flag.name kind repeatable word
  | .setting kind repeatable, none => do
    return { (← progress.resolve) with pending := some { name := flag.name, kind, repeatable } }
  | _, some _ => .error .valueUnwanted
  | .counted, none => do
    let progress ← progress.resolve
    return { progress with uses := progress.uses ++ [{ name := flag.name }] }
  | .once, none => do (← progress.resolve).useOnce { name := flag.name }
  | .help, none => do
    discard progress.resolve
    throw .helpAsked
  | .version, none => do
    discard progress.resolve
    throw .versionAsked

end Progress

/-- What a word does at its level. -/
inductive Effect
  | goOn (progress : Progress)
  /-- The word is a value or the first of the words that may follow. -/
  | plain
  deriving DecidableEq, Repr

def readLong (level : Level) (progress : Progress) (word : Word) : Except UsageFault Effect :=
  let (name, value) := word.split
  match name.text? with
  | none => .error .unknownFlag
  | some name =>
    match level.flag? name with
    | some flag => (progress.useFlag flag value).map .goOn
    | none => if level.takesWords then .ok .plain else .error .unknownFlag

/-- Reads the letters behind a dash. The value of the last one may be attached, also behind an equals
sign. -/
def readLetters (level : Level) (progress : Progress) (tail : List UInt8) :
    List Char → Except UsageFault Progress
  | [] => if tail.isEmpty then .ok progress else .error .unknownFlag
  | c :: rest =>
    match level.short? c with
    | none => .error .unknownFlag
    | some flag =>
      match flag.kind with
      | .setting .. =>
        let attached : Word := { chars := rest, tail }
        let value := if rest.head? = some '=' then { attached with chars := rest.drop 1 } else attached
        progress.useFlag flag (if attached.isEmpty then none else some value)
      | _ => do readLetters level (← progress.useFlag flag none) tail rest

def readShort (level : Level) (progress : Progress) (letters : Word) : Except UsageFault Effect :=
  let isKnown := letters.tail.isEmpty && letters.chars.all fun c => (level.short? c).isSome
  if level.takesWords && !isKnown then .ok .plain
  else (readLetters level progress letters.tail letters.chars).map .goOn

def readFlag (level : Level) (progress : Progress) (word : Word) : Except UsageFault Effect :=
  match word.chars with
  | '-' :: '-' :: rest => readLong level progress { word with chars := rest }
  | '-' :: rest =>
    let letters := { word with chars := rest }
    if letters.isEmpty then .ok .plain else readShort level progress letters
  | _ => .ok .plain

/-- Where the reading of a level stops. -/
inductive Stop
  | ended
  | command (name : String) (rest : List Word)
  | words (words : List Word)
  deriving DecidableEq, Repr

/-- The fault in a word that is neither flag nor value, where no words may follow. -/
def strayFault (level : Level) (afterDashes : Bool) (word : Word) : UsageFault :=
  if afterDashes && (level.command? word).isSome then .unknownFlag
  else if level.commands.isEmpty then .unknownFlag
  else .unknownCommand

def stopAtWords (level : Level) (afterDashes : Bool) (progress : Progress) :
    List Word → Except UsageFault (Progress × Stop)
  | [] => .ok (progress, .ended)
  | word :: rest =>
    if level.takesWords then do return (← progress.resolve, .words (word :: rest))
    else .error (strayFault level afterDashes word)

def dashes : Word := { chars := ['-', '-'] }

def scan (level : Level) : Progress → List Word → Except UsageFault (Progress × Stop)
  | progress, [] => .ok (progress, .ended)
  | progress, word :: rest =>
    let command := if progress.isAwaiting then none else level.command? word
    match command with
    | some name => .ok (progress, .command name rest)
    | none =>
      if word = dashes then stopAtWords level true progress rest
      else do
        match ← readFlag level progress word with
        | .goOn progress => scan level progress rest
        | .plain =>
          if progress.isAwaiting then scan level (progress.giveValue word) rest
          else stopAtWords level false progress (word :: rest)

structure Reading (α : Type) where
  uses : List Use
  words : List String := []
  command : Option α := none

def readLevel {α : Type} (level : Level) (command : String → List Word → Except UsageFault α)
    (words : List Word) : Except UsageFault (Reading α) := do
  let (progress, stop) ← scan level {} words
  match stop with
  | .command name rest =>
    let chosen ← command name rest
    return { uses := (← progress.resolve).uses, command := some chosen }
  | .words words =>
    return { uses := progress.uses, words := ← words.mapM Word.text }
  | .ended =>
    let uses := (← progress.resolve).uses
    if !level.commands.isEmpty then
      throw (if uses.isEmpty then .nothingGiven else .commandMissing)
    if level.takesWords then throw .wordsMissing
    return { uses }

end ClusterTrials.CommandLine
