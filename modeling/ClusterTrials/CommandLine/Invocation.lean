import ClusterTrials.CommandLine.Usage
/-!
# What a command line asks for

`Invocation.ofWords` reads the words behind the program's name. Three flags may stand at any level; where
levels disagree, the innermost one that uses the flag counts.
-/

namespace ClusterTrials.CommandLine

structure ReclaimOptions where
  /-- The hosts to clean; if there are none, every private agent is cleaned. -/
  agents : List String := []
  frameworksGlob : Option String := none
  dryRun : Bool := false
  deriving DecidableEq, Repr

structure RetryOptions where
  attempts : Option UInt32 := none
  sleepSeconds : Option Binary64 := none
  /-- The program to run, and its arguments. -/
  words : List String
  deriving DecidableEq, Repr

inductive Command
  | agents (json : Bool)
  | gcFrameworks (options : ReclaimOptions)
  | retry (options : RetryOptions)
  | configShow (json : Bool)
  deriving DecidableEq, Repr

structure Invocation where
  verbosity : UInt8 := 0
  quiet : Bool := false
  /-- The configuration file to read instead of the usual one. -/
  configPath : Option String := none
  command : Command
  deriving DecidableEq, Repr

/-! ## Flags and levels -/

def verboseFlag : Flag := { name := "verbose", short := some 'v', kind := .counted }

def quietFlag : Flag := { name := "quiet", short := some 'q', kind := .once }

def configFlag : Flag := { name := "config", short := some 'c', kind := .setting .text false }

def commonFlags : List Flag :=
  [verboseFlag, quietFlag, configFlag, { name := "help", short := some 'h', kind := .help },
    { name := "version", short := some 'V', kind := .version }]

def jsonFlag : Flag := { name := "json", kind := .once }

def agentFlag : Flag := { name := "agent", short := some 'a', kind := .setting .text true }

def globFlag : Flag := { name := "frameworks-glob", kind := .setting .text false }

def dryRunFlag : Flag := { name := "dry-run", kind := .once }

def attemptsFlag : Flag := { name := "attempts", short := some 'a', kind := .setting .count false }

def sleepFlag : Flag :=
  { name := "sleep-seconds", short := some 's', kind := .setting .seconds false }

def helpCommand : String := "help"

def commandsBehind : List String → List String
  | [] => ["agents", "gc-frameworks", "retry", "config", helpCommand]
  | ["config"] => ["show", helpCommand]
  | _ => []

def rootLevel : Level := { flags := commonFlags, commands := commandsBehind [] }

def configLevel : Level := { flags := commonFlags, commands := commandsBehind ["config"] }

def listingLevel : Level := { flags := jsonFlag :: commonFlags }

def reclaimLevel : Level := { flags := [agentFlag, globFlag, dryRunFlag] ++ commonFlags }

def retryLevel : Level := { flags := [attemptsFlag, sleepFlag] ++ commonFlags, takesWords := true }

def helpFault (path : List String) : List Word → UsageFault
  | [] => .helpAsked
  | word :: rest =>
    match word.text? with
    | some name =>
      if name ∈ commandsBehind path then helpFault (path ++ [name]) rest else .unknownCommand
    | none => .unknownCommand

/-! ## From uses to options -/

def valuesOf (flag : Flag) (uses : List Use) : List Value :=
  (uses.filter fun use => use.name = flag.name).filterMap Use.value

def textsOf (flag : Flag) (uses : List Use) : List String :=
  (valuesOf flag uses).filterMap fun
    | .text text => some text
    | _ => none

def countOf (flag : Flag) (uses : List Use) : Option UInt32 :=
  (valuesOf flag uses).head?.bind fun
    | .count count => some count
    | _ => none

def secondsOf (flag : Flag) (uses : List Use) : Option Binary64 :=
  (valuesOf flag uses).head?.bind fun
    | .seconds seconds => some seconds
    | _ => none

def isUsed (flag : Flag) (uses : List Use) : Bool := uses.any fun use => use.name = flag.name

/-- What the flags that may stand at every level say at one of them. -/
structure Common where
  /-- How often more words were asked for, up to 255; none if never. -/
  verbosity : Option UInt8 := none
  quiet : Bool := false
  configPath : Option String := none
  deriving DecidableEq, Repr

namespace Common

def ofUses (uses : List Use) : Common :=
  let count := uses.countP fun use => use.name = verboseFlag.name
  { verbosity := if count = 0 then none else some (.ofNat (min count 255))
    quiet := isUsed quietFlag uses
    configPath := (textsOf configFlag uses).head? }

/-- What two levels say together, the inner of which counts where they disagree. -/
def outside (inner outer : Common) : Common :=
  { verbosity := inner.verbosity.or outer.verbosity
    quiet := inner.quiet || outer.quiet
    configPath := inner.configPath.or outer.configPath }

end Common

abbrev Chosen := Command × Common

def readCommand (level : Level) (toCommand : Reading Chosen → Command) (words : List Word) :
    Except UsageFault Chosen := do
  let reading ← readLevel level (fun _ _ => .error .unknownCommand) words
  return (toCommand reading, .ofUses reading.uses)

def readGroup (level : Level) (command : String → List Word → Except UsageFault Chosen)
    (words : List Word) : Except UsageFault Chosen := do
  let reading ← readLevel level command words
  match reading.command with
  | some (command, common) => return (command, common.outside (.ofUses reading.uses))
  | none => throw .commandMissing

def readConfigCommand (name : String) (words : List Word) : Except UsageFault Chosen :=
  if name = "show" then
    readCommand listingLevel (fun reading => .configShow (isUsed jsonFlag reading.uses)) words
  else .error (helpFault ["config"] words)

def readRootCommand (name : String) (words : List Word) : Except UsageFault Chosen :=
  if name = "agents" then
    readCommand listingLevel (fun reading => .agents (isUsed jsonFlag reading.uses)) words
  else if name = "gc-frameworks" then
    readCommand reclaimLevel
      (fun reading => .gcFrameworks
        { agents := textsOf agentFlag reading.uses
          frameworksGlob := (textsOf globFlag reading.uses).head?
          dryRun := isUsed dryRunFlag reading.uses })
      words
  else if name = "retry" then
    readCommand retryLevel
      (fun reading => .retry
        { attempts := countOf attemptsFlag reading.uses
          sleepSeconds := secondsOf sleepFlag reading.uses
          words := reading.words })
      words
  else if name = "config" then readGroup configLevel readConfigCommand words
  else .error (helpFault [] words)

/-- Reads the words behind the program's name. -/
def Invocation.ofWords (words : List Word) : Except UsageFault Invocation := do
  let (command, common) ← readGroup rootLevel readRootCommand words
  return {
    verbosity := common.verbosity.getD 0, quiet := common.quiet, configPath := common.configPath
    command }

end ClusterTrials.CommandLine
