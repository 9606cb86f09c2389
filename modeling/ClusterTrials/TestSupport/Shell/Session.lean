import ClusterTrials.TestSupport.Executable
import ClusterTrials.TestSupport.Shell.Arithmetic
import ClusterTrials.Process
/-!
# Test support: the state of a shell

What a shell knows, where what it writes goes, and how it comes to an end. What shells share that run one
within another - the files, what is read and what has been written - is taken over by `joined`.
-/

namespace ClusterTrials.TestSupport.Shell

open Process (Ending)

def toBytes (text : String) : Bytes := (Text.encode text).map fun b => Char.ofNat b.toNat

def ofBytes (bytes : List UInt8) : Bytes := bytes.map fun b => Char.ofNat b.toNat

def bytesOf (text : Bytes) : List UInt8 := text.map fun c => .ofNat c.toNat

def toText (bytes : Bytes) : String := Text.decodeLossy (bytesOf bytes)

def decimal (n : Nat) : Bytes := (toString n).toList

def joinedBy (separator : Bytes) (words : List Bytes) : Bytes := separator.intercalate words

structure Variable where
  value : Option Bytes
  isExported : Bool := false
  isReadOnly : Bool := false

inductive Route
  | out
  | err
  /-- What another command or the shell itself reads. -/
  | pipe (number : Nat)
  | file (names : List String)
  | nowhere
  deriving DecidableEq, Repr

inductive Jump
  | leaveLoops (count : Nat)
  | nextRound (count : Nat)
  | leaveFunction
  deriving DecidableEq, Repr

/-- The names of options and the letters that stand for them. The last two have none of their own. -/
def optionNames : List (String × Char) :=
  [("errexit", 'e'), ("noglob", 'f'), ("ignoreeof", 'I'), ("interactive", 'i'), ("monitor", 'm'),
    ("noexec", 'n'), ("stdin", 's'), ("xtrace", 'x'), ("verbose", 'v'), ("vi", 'V'), ("emacs", 'E'),
    ("noclobber", 'C'), ("allexport", 'a'), ("notify", 'b'), ("nounset", 'u'), ("privileged", 'p'),
    ("nolog", '1'), ("debug", '2')]

structure Options where
  letters : List Char := []

namespace Options

def has (options : Options) (letter : Char) : Bool := letter ∈ options.letters

def exitOnFailure (options : Options) : Bool := options.has 'e'

def refuseUnset (options : Options) : Bool := options.has 'u'

def keepPatterns (options : Options) : Bool := options.has 'f'

def trace (options : Options) : Bool := options.has 'x'

def exportAll (options : Options) : Bool := options.has 'a'

def keepFiles (options : Options) : Bool := options.has 'C'

def readOnly (options : Options) : Bool := options.has 'n'

def put (options : Options) (letter : Char) (isOn : Bool) : Options :=
  let others := options.letters.filter (· ≠ letter)
  { letters := if isOn then letter :: others else others }

def shown (options : Options) : Bytes :=
  ((optionNames.map (·.2)).filter fun letter => letter.isAlpha && options.has letter).reverse

end Options

structure Session where
  files : Files
  name : Bytes
  arguments : List Bytes := []
  assigned : List (Bytes × Variable) := []
  functions : List (Bytes × Script) := []
  options : Options := {}
  /-- What is run instead of dying from a signal. The number 0 stands for the end of the shell. -/
  traps : List (Nat × Bytes) := []
  /-- What is left to read. -/
  input : Bytes := []
  /-- What there is to read at other descriptors, and at which of them the shell reads now. -/
  inputs : List (Nat × Bytes) := []
  inputFrom : Option Nat := none
  routes : List (Nat × Route) := [(1, .out), (2, .err)]
  /-- What has been written, the last of it first. -/
  out : List Bytes := []
  err : List Bytes := []
  pipes : List (Nat × List Bytes) := []
  /-- The status of the last command. -/
  status : Nat := 0
  /-- The status of the last command whose output was taken. -/
  takenStatus : Nat := 0
  /-- The line of the command that runs, and its name if the shell itself runs it. -/
  line : Nat := 1
  /-- The line up to which the script has been read. -/
  readLine : Nat := 1
  running : Option Bytes := none
  /-- The numbers of the process and of those that it was started from. -/
  process : Nat := 4242
  ancestors : List Nat := []
  nextProcess : Nat := 4243
  /-- Whether the shell was split off from another one, under whose number it goes. -/
  isInner : Bool := false
  /-- Signals on their way to processes around this one. -/
  sent : List (Nat × Nat) := []
  lastAside : Option Nat := none
  /-- The statuses of processes that were not waited for. -/
  finished : List (Nat × Nat) := []
  loops : Nat := 0
  /-- How many functions run within each other. -/
  depth : Nat := 0
  /-- What the variables of a function stood for before. -/
  saved : Option (List (Bytes × Option Variable)) := none
  jump : Option Jump := none
  ending : Option Ending := none
  /-- The shell has ended from a mistake, which a command that is not special does not let through. -/
  isMistaken : Bool := false
  /-- Something was to be written, but nothing is open for it. -/
  isUnwritten : Bool := false
  /-- The permissions that new files do not get. -/
  mask : Nat := 18
  aliases : List (Bytes × Bytes) := []
  /-- Where the options of a script are read on: how much of the current word has been read. -/
  optionPlace : Nat := 0

namespace Session

def isStopped (shell : Session) : Bool := shell.ending.isSome || shell.jump.isSome

/-! ## Writing -/

def writeTo (shell : Session) (route : Route) (text : Bytes) : Session :=
  if text.isEmpty then shell
  else match route with
    | .out => { shell with out := text :: shell.out }
    | .err => { shell with err := text :: shell.err }
    | .nowhere => shell
    | .pipe number =>
      { shell with
        pipes := shell.pipes.map fun (other, written) =>
          if other = number then (other, text :: written) else (other, written) }
    | .file names =>
      match shell.files.entry? names with
      | some (.file bytes executable) =>
        { shell with files := shell.files.put names (.file (bytes ++ bytesOf text) executable) }
      | _ => shell

def write (shell : Session) (descriptor : Nat) (text : Bytes) : Session :=
  match shell.routes.lookup descriptor with
  | some route => shell.writeTo route text
  | none => if descriptor = 1 && !text.isEmpty then { shell with isUnwritten := true } else shell

def routed (shell : Session) (descriptor : Nat) (route : Route) : Session :=
  { shell with
    routes := (descriptor, route) :: shell.routes.filter fun (other, _) => other ≠ descriptor }

def closed (shell : Session) (descriptor : Nat) : Session :=
  { shell with routes := shell.routes.filter fun (other, _) => other ≠ descriptor }

def reading (shell : Session) (descriptor : Nat) (text : Bytes) : Session :=
  if descriptor = 0 then { shell with input := text, inputFrom := none }
  else
    { shell with
      inputs := (descriptor, text) :: shell.inputs.filter fun (other, _) => other ≠ descriptor }

def complain (shell : Session) (text : Bytes) : Session :=
  let place := shell.name ++ toBytes ": " ++ decimal shell.line ++ toBytes ": " ++
    (shell.running.map (· ++ toBytes ": ")).getD []
  shell.write 2 (place ++ text ++ ['\n'])

def fail (shell : Session) (text : Bytes) : Session :=
  { shell.complain text with status := 2, ending := some (.exited 2), isMistaken := true }

/-! ## Parameters -/

def valueOf? (shell : Session) (name : Bytes) : Option Bytes :=
  (shell.assigned.lookup name).bind (·.value)

def parameter? (shell : Session) (name : Bytes) : Option Bytes :=
  match name with
  | ['#'] => some (decimal shell.arguments.length)
  | ['$'] => some (decimal shell.process)
  | ['?'] => some (decimal shell.status)
  | ['!'] => shell.lastAside.map decimal
  | ['0'] => some shell.name
  | ['-'] => some shell.options.shown
  | ['*'] | ['@'] => if shell.arguments.isEmpty then none else some (joinedBy [' '] shell.arguments)
  | _ =>
    match Text.readDigits? 10 name with
    | some n => shell.arguments[n - 1]?
    | none => shell.valueOf? name

def setVariable (shell : Session) (name : Bytes) (given : Option Variable) : Session :=
  let others := shell.assigned.filter fun (other, _) => other ≠ name
  { shell with assigned := (given.map fun found => (name, found)).toList ++ others }

def assign (shell : Session) (name value : Bytes) : Session :=
  let known := (shell.assigned.lookup name).getD { value := none }
  let shell := if name = "OPTIND".toList then { shell with optionPlace := 0 } else shell
  if known.isReadOnly then shell.fail (name ++ toBytes ": is read only")
  else shell.setVariable name (some { known with
    value := some value
    isExported := known.isExported || shell.options.exportAll })

def exported (shell : Session) (name : Bytes) : Session :=
  shell.setVariable name
    (some { (shell.assigned.lookup name).getD { value := none } with isExported := true })

def separators (shell : Session) : Bytes := (shell.valueOf? "IFS".toList).getD [' ', '\t', '\n']

def searchPath (shell : Session) : List String :=
  match shell.valueOf? "PATH".toList with
  | some path => (toText path).splitOn ":"
  | none => []

/-! ## Endings -/

def statusOf : Ending → Nat
  | .exited code => code
  | .killed signal => 128 + signal

def finalEnding (shell : Session) : Ending := shell.ending.getD (.exited (shell.status % 256))

def joined (shell inner : Session) : Session :=
  { shell with
    files := { inner.files with workingDirectory := shell.files.workingDirectory }
    input := inner.input
    inputs := inner.inputs
    out := inner.out
    err := inner.err
    pipes := inner.pipes
    nextProcess := inner.nextProcess
    sent := inner.sent
    status := statusOf inner.finalEnding }

def drain (shell : Session) (number : Nat) : Session × Bytes :=
  let written := ((shell.pipes.lookup number).getD []).reverse.flatten
  ({ shell with pipes := shell.pipes.filter fun (other, _) => other ≠ number }, written)

def split (shell : Session) : Session :=
  { shell with
    isInner := true
    isMistaken := false
    traps := shell.traps.filter fun (_, action) => action.isEmpty
    finished := []
    jump := none
    ending := none }

/-- The state that a program is started in, of which it knows the variables that are exported. -/
def spawned (shell : Session) (name : Bytes) (arguments : List Bytes) : Session :=
  { files := shell.files
    name, arguments
    assigned := (shell.assigned.filter fun (_, found) => found.isExported && found.value.isSome).map
      fun (name, found) => (name, { found with isReadOnly := false })
    traps := shell.traps.filter fun (_, action) => action.isEmpty
    input := shell.input
    inputs := shell.inputs
    routes := shell.routes
    out := shell.out
    err := shell.err
    pipes := shell.pipes
    process := shell.nextProcess
    ancestors := shell.process :: shell.ancestors
    nextProcess := shell.nextProcess + 1
    sent := shell.sent
    mask := shell.mask }

/-- The variables that a shell starts with. Some of them do not come from around it. -/
def withDefaults (shell : Session) : Session :=
  let plain (name value : String) : Bytes × Variable := (toBytes name, { value := some (toBytes value) })
  let place := "/" ++ "/".intercalate shell.files.workingDirectory
  let own : List (Bytes × Variable) :=
    [plain "IFS" " \t\n", plain "OPTIND" "1", plain "PPID" (toString (shell.ancestors.headD 4241)),
      (toBytes "PWD", { value := some (toBytes place), isExported := true })]
  let usual : List (Bytes × Variable) :=
    [plain "PATH" (":".intercalate usualSearchPath), plain "PS1" "# ", plain "PS2" "> ", plain "PS4" "+ "]
  let isOwn (name : Bytes) : Bool := own.any (·.1 = name)
  let given := shell.assigned.filter fun (name, _) => !isOwn name
  let missing := usual.filter fun (name, _) => given.all (·.1 ≠ name)
  { shell with assigned := given ++ missing ++ own }

end Session

end ClusterTrials.TestSupport.Shell
