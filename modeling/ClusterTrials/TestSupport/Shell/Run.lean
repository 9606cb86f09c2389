import ClusterTrials.TestSupport.Shell.BuiltIn
import ClusterTrials.TestSupport.Shell.Expansion
/-!
# Test support: running scripts

A shell runs a script command by command. `fuel` bounds how deep commands nest and how many lines a text
has, and `longestLoop` how often a loop goes round; a shell that runs out of either ends.
-/

namespace ClusterTrials.TestSupport.Shell

open Process (Ending)

structure Mode where
  /-- What depends on the command looks after its failure. -/
  isTested : Bool := false
  /-- The shell has nothing to do afterwards. -/
  isLast : Bool := false

def deepestCall : Nat := 1000

def longestLoop : Nat := 10000000

/-- Does something again and again, as long as it asks for it. The result is the last one that there was. -/
def repeated (act : Session → Session × Option Nat × Bool) : Nat → (result : Nat) → Session → Session
  | 0, _, shell => { shell with ending := some (.exited 2) }
  | count + 1, result, shell =>
    let (shell, latest, isAgain) := act shell
    let result := latest.getD result
    if isAgain then repeated act count result shell
    else if shell.isStopped then shell
    else { shell with status := result }

def forEach {α : Type} (act : Session → α → Session × Bool) : Session → List α → Session
  | shell, [] => shell
  | shell, item :: items =>
    let (shell, isAgain) := act shell item
    if isAgain then forEach act shell items else shell

namespace Session

/-! ## Endings -/

def leaveOnFailure (mode : Mode) (shell : Session) : Session :=
  if shell.options.exitOnFailure && !mode.isTested && shell.status ≠ 0 && !shell.isStopped then
    { shell with ending := some (.exited shell.status) }
  else shell

def tellDeath (shell : Session) (ending : Ending) : Session :=
  match ending with
  | .killed signal =>
    if signal = 2 || signal = 13 then shell else shell.write 2 (toBytes (deathText signal ++ "\n"))
  | .exited _ => shell

def afterRound (shell : Session) : Session × Bool :=
  if shell.ending.isSome then (shell, false)
  else match shell.jump with
    | none | some (.nextRound 1) => ({ shell with jump := none }, true)
    | some (.leaveLoops 1) => ({ shell with jump := none }, false)
    | some (.nextRound count) => ({ shell with jump := some (.nextRound (count - 1)) }, false)
    | some (.leaveLoops count) => ({ shell with jump := some (.leaveLoops (count - 1)) }, false)
    | some .leaveFunction => (shell, false)

/-! ## Redirections -/

def openFile (shell : Session) (path : Bytes) (isEmptied : Bool) : Except Bytes (Session × Route) :=
  let refuse (text : String) : Except Bytes (Session × Route) :=
    .error (toBytes "cannot create " ++ path ++ toBytes (": " ++ text))
  match shell.files.follow (toText path) with
  | .error error =>
    refuse (if error = .noSuchFile || error = .notDirectory then "Directory nonexistent" else reason error)
  | .ok names =>
    match shell.files.entry? names with
    | some .directory => refuse "Is a directory"
    | some (.utility _) => refuse "Text file busy"
    | some .sink => .ok (shell, .nowhere)
    | some (.stream descriptor) => .ok (shell, (shell.routes.lookup descriptor).getD .nowhere)
    | some (.file _ executable) =>
      if isEmptied then
        .ok ({ shell with files := shell.files.put names (.file [] executable) }, .file names)
      else .ok (shell, .file names)
    | none => .ok ({ shell with files := shell.files.put names (.file [] false) }, .file names)

def isDescriptor : Bytes → Bool
  | [c] => c.isDigit || c = '-'
  | _ => false

def redirectTo (shell : Session) (redirection : Redirection) (target : Bytes) : Except Bytes Session :=
  match redirection.mode with
  | .truncate | .clobber | .append => do
    let isThere := match shell.files.find? (toText target) with
      | some (.file ..) => true
      | _ => false
    if redirection.mode = .truncate && shell.options.keepFiles && isThere then
      throw (toBytes "cannot create " ++ target ++ toBytes ": File exists")
    let (shell, route) ← shell.openFile target (redirection.mode ≠ .append)
    return shell.routed redirection.descriptor route
  | .document => .ok (shell.reading redirection.descriptor target)
  | .read =>
    match contents { files := shell.files, input := shell.input } target with
    | .ok input => .ok (shell.reading redirection.descriptor input)
    | .error .directory => .ok (shell.reading redirection.descriptor [])
    | .error error =>
      let text :=
        if error = .noSuchFile || error = .notDirectory then "No such file" else reason error
      .error (toBytes "cannot open " ++ target ++ toBytes (": " ++ text))
  | .copyOut | .copyIn =>
    if target = ['-'] then
      .ok (if redirection.descriptor = 0 then shell.reading 0 []
        else shell.closed redirection.descriptor)
    else match target, shell.routes.lookup ((Text.readDigits? 10 target).getD 0) with
      | ['0'], _ => .ok shell
      | _, some route => .ok (shell.routed redirection.descriptor route)
      | _, none =>
        match shell.inputs.lookup ((Text.readDigits? 10 target).getD 0) with
        | none => .error (target ++ toBytes ": Bad file descriptor")
        | some input =>
          .ok (if redirection.descriptor = 0 then { shell with input, inputFrom := Text.readDigits? 10 target }
            else shell.reading redirection.descriptor input)

/-- Takes redirections back. What is left to read at a descriptor that was open before is kept. -/
def withoutRedirections (redirections : List Redirection) (before after : Session) : Session :=
  let isTouched (descriptor : Nat) : Bool := redirections.any (·.descriptor = descriptor)
  let after := match if isTouched 0 then after.inputFrom else none with
    | some descriptor => after.reading descriptor after.input
    | none => after
  let inputs := before.inputs.map fun (descriptor, text) =>
    (descriptor, if isTouched descriptor then text else (after.inputs.lookup descriptor).getD text)
  let after := { after with routes := before.routes, inputs }
  if isTouched 0 then { after with input := before.input, inputFrom := before.inputFrom } else after

/-! ## Programs -/

/-- Finds the program that a command names. A file that names no interpreter is left to a shell. -/
def programFor (shell : Session) (name : Bytes) : Except IoError Executable :=
  let text := toText name
  if name.isEmpty then .error .accessDenied
  else if '/' ∈ name then runnableAt shell.files true text else locate shell.files shell.searchPath text

/-- Tells that there is no program, or that it cannot be run. If a shell does not give itself up for it, it
has looked a name up before and knows no program by it. -/
def tellMissing (isExec : Bool) (shell : Session) (name : Bytes) (error : IoError) : Session :=
  let isMissing := error = .noSuchFile || error = .notDirectory
  let isNowhere := isMissing || error = .nameTooLong || error = .tooManyLevels ||
    (!isExec && '/' ∉ name)
  { shell.complain (name ++ toBytes (": " ++ (if isMissing then "not found" else reason error))) with
    status := if isNowhere then 127 else 126 }

def runUtility (shell : Session) (utility : Utility) (words : List Bytes) : Session :=
  let work := utility { files := shell.files, input := shell.input } words
  let shell := { shell with files := work.files, input := work.input }
  let shell := work.written.foldl (fun shell (descriptor, text) => shell.write descriptor text) shell
  { shell with status := work.status, ending := some (.exited work.status) }

def tellPlaces (shell : Session) (arguments : List Bytes) : Session :=
  let isProgram (path : String) : Bool := (executableAt shell.files path).isOk
  let names := if arguments.head? = some ['-', 'a'] then arguments.drop 1 else arguments
  let found := names.map fun name =>
    if '/' ∈ name then if isProgram (toText name) then [name] else []
    else
      let paths := (shell.searchPath.map fun directory => Config.joinPath directory (toText name)).filter isProgram
      (if arguments.head? = some ['-', 'a'] then paths else paths.take 1).map toBytes
  let status := if names.isEmpty || found.any (·.isEmpty) then 1 else 0
  { shell.write 1 (found.flatten.flatMap (· ++ ['\n'])) with status, ending := some (.exited status) }

def readShellOptions :
    (fuel : Nat) → Session → (hasText : Bool) → List Bytes → Session × Bool × List Bytes
  | 0, shell, hasText, words => (shell, hasText, words)
  | _, shell, hasText, [] => (shell, hasText, [])
  | fuel + 1, shell, hasText, word :: rest =>
    match word with
    | ['-'] | ['-', '-'] => (shell, hasText, rest)
    | sign :: letters =>
      if sign = '-' || sign = '+' then
        let (shell, rest) := setLetters (sign = '-') ['c', 'l'] shell letters rest
        readShellOptions fuel shell (hasText || 'c' ∈ letters) rest
      else (shell, hasText, word :: rest)
    | [] => (shell, hasText, word :: rest)

def takesAssignments : List Word → Bool
  | [.plain name] :: _ => toText name ∈ ["export", "readonly", "local"]
  | _ => false

def assignedFor (isExported : Bool) (shell : Session) (assignments : List (Bytes × Bytes)) : Session :=
  assignments.foldl
    (fun shell (name, value) =>
      let shell := shell.assign name value
      if shell.isStopped || !isExported then shell
      else shell.setVariable name (some { value := some value, isExported := true }))
    shell

def restored (shell : Session) (saved : List (Bytes × Option Variable)) : Session :=
  saved.reverse.foldl (fun shell (name, before) => shell.setVariable name before) shell

mutual

def traced : (fuel : Nat) → Session → List (Bytes × Bytes) → List Bytes → Session
  | 0, shell, _, _ => shell
  | fuel + 1, shell, assignments, words =>
    if shell.options.trace then
      let text := (shell.valueOf? "PS4".toList).getD []
      let start := match readPieces 1 (2 * text.length + 2) .document text with
        | .ok (word, _) =>
          (expandWhole (taken fuel) { shell with options := shell.options.put 'x' false } word).2
        | .error _ => text
      let shown := assignments.map (fun (name, value) => name ++ '=' :: value) ++ words
      shell.write 2 (start ++ joinedBy [' '] shown ++ ['\n'])
    else shell

def finish : (fuel : Nat) → Session → Session
  | 0, shell => shell
  | fuel + 1, shell =>
    match shell.traps.lookup 0, shell.finalEnding with
    | some action, .exited code =>
      let ended := runText fuel {}
        { shell with
          traps := shell.traps.filter fun (number, _) => number ≠ 0
          ending := none
          isMistaken := false
          jump := none
          status := code } action 1
      { ended with ending := ended.ending.or (some (.exited code)) }
    | _, _ => shell

def settle : (fuel : Nat) → Session → Session
  | 0, shell => shell
  | fuel + 1, shell =>
    if shell.isInner || shell.sent.isEmpty || shell.ending.isSome then shell
    else
      let own := shell.sent.filter fun (number, _) => number = shell.process
      let shell := { shell with sent := shell.sent.filter fun (number, _) => number ≠ shell.process }
      own.foldl
        (fun shell (_, signal) =>
          if shell.ending.isSome then shell
          else
            let (shell, actions) := shell.receive signal
            runActions fuel shell actions)
        shell

def runActions : (fuel : Nat) → Session → List Bytes → Session
  | 0, shell, _ => shell
  | fuel + 1, shell, actions =>
    actions.foldl
      (fun shell action =>
        if shell.ending.isSome then shell
        else
          let left := runText fuel {} shell action 1
          if left.jump matches some .leaveFunction then left else { left with status := shell.status })
      shell

def runInner : (fuel : Nat) → Mode → Session → Script → Session
  | 0, _, shell, _ => { shell with ending := some (.exited 2) }
  | fuel + 1, mode, shell, script =>
    finish fuel (run fuel { mode with isLast := true } shell.split script)

def taken : (fuel : Nat) → Taking
  | 0, shell, _, _ => (shell, [])
  | fuel + 1, shell, script, line =>
    let number := shell.pipes.length
    let inner := { shell.split with pipes := (number, []) :: shell.pipes }.routed 1 (.pipe number)
    let inner := finish fuel (runText fuel { isLast := true } inner script line)
    let (after, text) := (shell.joined inner).drain number
    let after := after.tellDeath inner.finalEnding
    (settle fuel { after with status := shell.status, takenStatus := after.status }, text)

def runText : (fuel : Nat) → Mode → Session → Bytes → (line : Nat) → Session
  | 0, _, shell, _, _ => { shell with ending := some (.exited 2) }
  | fuel + 1, mode, shell, text, line =>
    let tokens := checkedTokens (text.length + 1) line text
    if tokens.skipNewlines.left.isEmpty then shell.done else runLines fuel mode shell tokens

def runLines : (fuel : Nat) → Mode → Session → Tokens → Session
  | 0, _, shell, _ => { shell with ending := some (.exited 2) }
  | fuel + 1, mode, shell, tokens =>
    let tokens := tokens.skipNewlines
    if shell.isStopped || tokens.left.isEmpty then shell
    else match readCommandLine "" tokens with
      | .error fault => { shell with line := fault.line }.fail (toBytes ("Syntax error: " ++ fault.message))
      | .ok (script, isEnd, rest) =>
        let count := tokens.left.length - rest.left.length
        let readLine := ((tokens.left[count - 1]?).map (·.line)).getD shell.readLine
        let shell := run fuel { mode with isLast := mode.isLast && isEnd } { shell with readLine } script
        runLines fuel mode shell rest

def runShell : (fuel : Nat) → Session → (arguments : List Bytes) → Session
  | 0, shell, _ => { shell with ending := some (.exited 2) }
  | fuel + 1, shell, arguments =>
    let (shell, hasText, words) :=
      readShellOptions (arguments.length + 1) { shell.withDefaults with line := 0 } false arguments
    let readInput (shell : Session) : Session :=
      let text := shell.input
      let shell := { shell with input := [], options := shell.options.put 's' true }
      finish fuel (runText fuel {} shell text 1)
    if shell.isStopped then shell
    else match hasText, words with
      | true, [] => shell.fail (toBytes "-c requires an argument")
      | true, text :: rest =>
        finish fuel (runText fuel { isLast := true }
          { shell with name := rest.headD shell.name, arguments := rest.drop 1 } text 1)
      | false, [] => readInput shell
      | false, path :: rest =>
        if shell.options.has 's' then readInput { shell with arguments := path :: rest }
        else match contents { files := shell.files, input := shell.input } path with
        | .ok text =>
          finish fuel (runText fuel {} { shell with name := path, arguments := rest } text 1)
        | .error .directory => finish fuel { shell with ending := some (.exited 0) }
        | .error error =>
          let text :=
            if error = .noSuchFile || error = .notDirectory then "No such file" else reason error
          shell.fail (toBytes "cannot open " ++ path ++ toBytes (": " ++ text))

def execute : (fuel : Nat) → Session → Executable → (arguments : List Bytes) → Session
  | 0, shell, _, _ => { shell with ending := some (.exited 2) }
  | fuel + 1, shell, .utility name, arguments =>
    if name ∈ shellNames then runShell fuel shell arguments
    else if name = "env" then runInEnvironment fuel shell arguments
    else if name = "which" then shell.tellPlaces arguments
    else shell.runUtility ((utility? name).getD fun work _ => { work with status := 127 }) arguments
  | fuel + 1, shell, .file path bytes, arguments =>
    match interpreter? bytes with
    | none => runShell fuel { shell with name := toBytes path } (toBytes path :: arguments)
    | some (interpreter, option) =>
      match executableAt shell.files interpreter with
      | .ok program =>
        execute fuel { shell with name := toBytes interpreter } program
          ((option.map toBytes).toList ++ toBytes path :: arguments)
      | .error _ => { shell with status := 127, ending := some (.exited 127) }

def runInEnvironment : (fuel : Nat) → Session → (arguments : List Bytes) → Session
  | 0, shell, _ => { shell with ending := some (.exited 2) }
  | fuel + 1, shell, arguments =>
    match arguments with
    | ['-', 'i'] :: rest | ['-'] :: rest => runInEnvironment fuel { shell with assigned := [] } rest
    | ['-', 'u'] :: name :: rest => runInEnvironment fuel (shell.setVariable name none) rest
    | [] =>
      let lines := shell.assigned.flatMap fun (name, found) =>
        name ++ '=' :: found.value.getD [] ++ ['\n']
      { shell.write 1 lines with status := 0, ending := some (.exited 0) }
    | word :: rest =>
      match splitAssignment word with
      | (name, some value) =>
        runInEnvironment fuel
          (shell.setVariable name (some { value := some value, isExported := true })) rest
      | (_, none) =>
        let places := if (shell.valueOf? "PATH".toList).isSome then shell.searchPath else ["/bin", "/usr/bin"]
        match locate shell.files places (toText word) with
        | .ok program => execute fuel { shell with name := word } program rest
        | .error error =>
          let status := if error = .noSuchFile then 127 else 126
          let text := toBytes "env: " ++ shownName word ++ toBytes (": " ++ reason error ++ "\n")
          { shell.write 2 text with status, ending := some (.exited status) }

def start : (fuel : Nat) → Mode → Session → (name : Bytes) → (arguments : List Bytes) → Session
  | 0, _, shell, _, _ => { shell with ending := some (.exited 2) }
  | fuel + 1, mode, shell, name, arguments =>
    match shell.programFor name with
    | .error error =>
      let shell := tellMissing false shell name error
      if mode.isLast then { shell with ending := some (.exited shell.status) } else shell
    | .ok program =>
      let inner := execute fuel (shell.spawned name arguments) program arguments
      let after := shell.joined inner
      if mode.isLast && shell.traps.all (·.2.isEmpty) then { after with ending := some inner.finalEnding }
      else settle fuel (after.tellDeath inner.finalEnding)

def redirect : (fuel : Nat) → Session → List Redirection → Session × Bool
  | 0, shell, _ => (shell, false)
  | _ + 1, shell, [] => (shell, true)
  | fuel + 1, shell, redirection :: rest =>
    let (shell, target) := expandWhole (taken fuel) shell redirection.target
    let isCopy := redirection.mode = .copyOut || redirection.mode = .copyIn
    if shell.isStopped then
      if redirection.mode = .document && shell.isMistaken then
        ({ shell with ending := none, isMistaken := false }, false)
      else (shell, false)
    else if isCopy && !isDescriptor target then
      ({ shell with line := shell.readLine }.fail (toBytes "Syntax error: Bad fd number"), false)
    else match shell.redirectTo redirection target with
      | .ok shell => redirect fuel shell rest
      | .error text => ({ shell.complain text with status := 2 }, false)

def valuesOf : (fuel : Nat) → Session → List (Bytes × Word) → Session × List (Bytes × Bytes)
  | 0, shell, _ => (shell, [])
  | _ + 1, shell, [] => (shell, [])
  | fuel + 1, shell, (name, word) :: rest =>
    let (shell, value) := expandValue (taken fuel) shell word
    if shell.isStopped then (shell, [])
    else
      let before := shell.assigned.lookup name
      let (shell, values) := valuesOf fuel (shell.assign name value) rest
      (if before.any (·.isReadOnly) then shell else shell.setVariable name before, (name, value) :: values)

def fieldsOf : (fuel : Nat) → (isAssigning : Bool) → Session → List Word → Session × List Bytes
  | 0, _, shell, _ => (shell, [])
  | _ + 1, _, shell, [] => (shell, [])
  | fuel + 1, isAssigning, shell, word :: words =>
    let (shell, fields) := match if isAssigning then assignment? word else none with
      | some (name, value) =>
        let (shell, text) := expandValue (taken fuel) shell value
        (shell, [name ++ '=' :: text])
      | none => expandAll (taken fuel) shell [word]
    if shell.isStopped then (shell, [])
    else
      let (shell, more) := fieldsOf fuel isAssigning shell words
      (shell, fields ++ more)

/-- Runs a command by its words, with its assignments. If `isPlain` is set, functions are passed over. -/
def call : (fuel : Nat) → Mode → (isPlain : Bool) → Session → List (Bytes × Bytes) → (name : Bytes) →
    (arguments : List Bytes) → Session
  | 0, _, _, shell, _, _, _ => { shell with ending := some (.exited 2) }
  | fuel + 1, mode, isPlain, shell, assignments, name, arguments =>
    let text := toText name
    let isSpecial := text ∈ specialNames
    let saved := assignments.map fun (name, _) => (name, shell.assigned.lookup name)
    match if isPlain || isSpecial then none else shell.functions.lookup name with
    | some body =>
      if deepestCall ≤ shell.depth then
        shell.fail (toBytes s!"Maximum function recursion depth ({deepestCall}) reached")
      else
        let entered := { assignedFor true shell assignments with
          arguments, loops := 0, saved := some [], depth := shell.depth + 1 }
        let ended := run fuel { isTested := mode.isTested } entered body
        let left := if ended.jump matches some .leaveFunction then { ended with jump := none } else ended
        let left := (left.restored (left.saved.getD [])).restored saved
        { left with
          arguments := shell.arguments
          loops := shell.loops
          saved := shell.saved
          depth := shell.depth }
    | none =>
      if text ∈ builtInNames then
        let around := shell.running
        let entered := { assignedFor false shell assignments with
          running := if text = "command" then around else some name }
        if entered.isStopped then entered
        else
          let left := match text with
            | "eval" => runText fuel mode entered (joinedBy [' '] arguments) 1
            | "." => withArguments "" "" (fun shell given => runFile fuel shell given.operands) entered arguments
            | "exec" => replace fuel mode entered arguments
            | "command" => runCommand fuel mode entered arguments
            | _ =>
              let (left, actions) := runBuiltIn name entered arguments
              let after := runActions fuel { left with running := none } actions
              { after with running := left.running }
          let left :=
            if left.isUnwritten then
              { left.complain (name ++ toBytes ": I/O error") with
                isUnwritten := false
                status := if left.status = 0 then 1 else left.status }
            else left
          let left := { left with running := around }
          let left :=
            if left.isMistaken && !(isSpecial && !isPlain) then
              { left with isMistaken := false, ending := none, status := 2 }
            else left
          if isSpecial && !isPlain then left else left.restored saved
      else
        let left := start fuel mode (assignedFor true shell assignments) name arguments
        { left with assigned := shell.assigned }

def replace : (fuel : Nat) → Mode → Session → (words : List Bytes) → Session
  | 0, _, shell, _ => { shell with ending := some (.exited 2) }
  | _ + 1, _, shell, [] => shell.done
  | fuel + 1, mode, shell, name :: arguments =>
    let shell := { shell with traps := shell.traps.filter fun (_, action) => action.isEmpty }
    match shell.programFor name with
    | .error error =>
      let shell := tellMissing true shell name error
      { shell with ending := some (.exited shell.status) }
    | .ok _ =>
      let ended := start fuel { mode with isLast := true } shell name arguments
      { ended with ending := ended.ending.or (some (.exited ended.status)) }

def runFile : (fuel : Nat) → Session → (arguments : List Bytes) → Session
  | 0, shell, _ => { shell with ending := some (.exited 2) }
  | fuel + 1, shell, arguments =>
    match arguments with
    | [] => shell.done
    | path :: _ =>
      let found :=
        if '/' ∈ path then some path
        else (shell.searchPath.map fun directory =>
          toBytes (Config.joinPath directory (toText path))).find? fun path =>
            (shell.files.find? (toText path)).any (· ≠ .directory)
      match found with
      | none => shell.fail (path ++ toBytes ": not found")
      | some path =>
        match contents { files := shell.files, input := shell.input } path with
        | .ok text =>
          let left := runText fuel {} { shell with running := some path } text 1
          if left.jump matches some .leaveFunction then { left with jump := none } else left
        | .error error =>
          let text :=
            if error = .noSuchFile || error = .notDirectory then "No such file" else reason error
          shell.fail (toBytes "cannot open " ++ path ++ toBytes (": " ++ text))

def runCommand : (fuel : Nat) → Mode → Session → (arguments : List Bytes) → Session
  | 0, _, shell, _ => { shell with ending := some (.exited 2) }
  | fuel + 1, mode, shell, arguments =>
    match Arguments.readFirst ['p', 'v', 'V'] [] none arguments with
    | .error text => { shell with running := some "command".toList }.fail text
    | .ok given =>
      match given.operands with
      | [] => shell.done
      | name :: rest =>
        if given.has 'v' || given.has 'V' then describe (given.has 'V') shell [name]
        else call fuel mode true shell [] name rest

def runSimple : (fuel : Nat) → Mode → Session → List (Bytes × Word) → List Word → List Redirection →
    Session
  | 0, _, shell, _, _, _ => { shell with ending := some (.exited 2) }
  | fuel + 1, mode, shell, assignments, words, redirections =>
    let (shell, fields) := fieldsOf fuel (takesAssignments words) { shell with takenStatus := 0 } words
    if shell.isStopped then shell
    else
      let isSpecial := fields.head?.any fun name => toText name ∈ specialNames
      let close (after : Session) : Session := withoutRedirections redirections shell after
      let (redirected, isDone) := redirect fuel shell redirections
      if redirected.isStopped then close redirected
      else if !isDone then
        let left := close redirected
        if isSpecial then { left with ending := some (.exited 2) } else left
      else
        let (ready, values) := valuesOf fuel redirected assignments
        if ready.isStopped then close ready
        else
          let told := traced fuel { ready with routes := shell.routes } values fields
          let ready := { told with routes := ready.routes }
          match fields with
          | [] => close { assignedFor false ready values with status := ready.takenStatus }
          | name :: arguments =>
            let left := call fuel mode false ready values name arguments
            if name = "exec".toList && arguments.isEmpty then left else close left

def run : (fuel : Nat) → Mode → Session → Script → Session
  | 0, _, shell, _ => { shell with ending := some (.exited 2) }
  | fuel + 1, mode, shell, script =>
    if shell.isStopped || shell.options.readOnly then shell
    else match script with
    | .nothing => shell
    | .simple line assignments words redirections =>
      leaveOnFailure mode (runSimple fuel mode { shell with line } assignments words redirections)
    | .sequence first second =>
      run fuel mode (run fuel { mode with isLast := false } shell first) second
    | .next ifSuccess first second =>
      let shell := run fuel { isTested := true } shell first
      if !shell.isStopped && (shell.status = 0) = ifSuccess then run fuel mode shell second else shell
    | .negation script =>
      let shell := run fuel { isTested := true } shell script
      if shell.isStopped then shell else { shell with status := if shell.status = 0 then 1 else 0 }
    | .pipe first second =>
      let number := shell.pipes.length
      let inner := runInner fuel { isTested := mode.isTested }
        ({ shell with pipes := (number, []) :: shell.pipes }.routed 1 (.pipe number)) first
      let (between, text) := (shell.joined inner).drain number
      let reader := runInner fuel { isTested := mode.isTested }
        { between with input := text, inputFrom := none, status := shell.status } second
      let after := { between.joined reader with input := between.input }
      let told := (after.tellDeath inner.finalEnding).tellDeath reader.finalEnding
      leaveOnFailure mode (settle fuel told)
    | .aside script =>
      let number := shell.nextProcess
      let inner := runInner fuel {} { shell with nextProcess := number + 1, input := [] } script
      let after := { shell.joined inner with
        status := 0
        input := shell.input
        lastAside := some number
        finished := (number, statusOf inner.finalEnding) :: shell.finished }
      settle fuel after
    | .subshell line script =>
      let inner := runInner fuel { isTested := mode.isTested } { shell with line } script
      leaveOnFailure mode (settle fuel ((shell.joined inner).tellDeath inner.finalEnding))
    | .forEach line name items body =>
      let (shell, items) := match items with
        | some words => expandAll (taken fuel) { shell with line } words
        | none => (shell, shell.arguments)
      if shell.isStopped then shell
      else
        let around := shell.loops
        let round (shell : Session) (item : Bytes) : Session × Bool :=
          afterRound (run fuel { isTested := mode.isTested } (shell.assign name item) body)
        let left := Shell.forEach round { shell with loops := around + 1 } items
        { left with loops := around, status := if items.isEmpty then 0 else left.status }
    | .choice line subject branches =>
      let (shell, subject) := expandWhole (taken fuel) { shell with line } subject
      choose fuel mode shell subject branches
    | .conditional condition yes no =>
      let shell := run fuel { isTested := true } shell condition
      if shell.isStopped then shell
      else if shell.status = 0 then run fuel mode shell yes
      else match no with
        | .nothing => { shell with status := 0 }
        | _ => run fuel mode shell no
    | .loop whileSuccess condition body =>
      let around := shell.loops
      let round (shell : Session) : Session × Option Nat × Bool :=
        let (asked, isAgain) := afterRound (run fuel { isTested := true } shell condition)
        if !isAgain || (asked.status = 0) ≠ whileSuccess then (asked, none, false)
        else
          let (left, isAgain) := afterRound (run fuel { isTested := mode.isTested } asked body)
          (left, some left.status, isAgain)
      let left := repeated round longestLoop 0 { shell with loops := around + 1 }
      { left with loops := around }
    | .redirected line script redirections =>
      let shell := { shell with line }
      let (redirected, isDone) := redirect fuel shell redirections
      let left := if isDone then run fuel { isTested := mode.isTested } redirected script else redirected
      leaveOnFailure mode (withoutRedirections redirections shell left)
    | .definition name body =>
      { shell with
        functions := (name, body) :: shell.functions.filter fun (other, _) => other ≠ name
        status := 0 }

def choose : (fuel : Nat) → Mode → Session → Bytes → List (List Word × Script) → Session
  | 0, _, shell, _, _ => { shell with ending := some (.exited 2) }
  | _ + 1, _, shell, _, [] => { shell with status := 0 }
  | fuel + 1, mode, shell, subject, (patterns, script) :: branches =>
    let (shell, isFound) := patterns.foldl
      (fun (shell, isFound) word =>
        if isFound || shell.isStopped then (shell, isFound)
        else
          let (shell, pattern) := expandPattern (taken fuel) shell word
          (shell, pattern.holds subject))
      (shell, false)
    if shell.isStopped then shell
    else if isFound then
      match script with
      | .nothing => { shell with status := 0 }
      | _ => run fuel mode shell script
    else choose fuel mode shell subject branches

end

end Session

end ClusterTrials.TestSupport.Shell
