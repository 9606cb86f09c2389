import ClusterTrials.TestSupport.Shell.Reader
import ClusterTrials.TestSupport.Shell.Utility
/-!
# Test support: what a shell does itself

The commands that a shell does not start a program for, but for those that run others. A mistake in one of
the special ones ends the shell.
-/

namespace ClusterTrials.TestSupport.Shell

def builtInNames : List String :=
  specialNames ++
    ["[", "alias", "bg", "cd", "command", "echo", "false", "fg", "getopts", "hash", "jobs", "kill", "printf",
      "pwd", "read", "test", "true", "type", "ulimit", "umask", "unalias", "wait"]

/-! ## Signals -/

def harmlessSignals : List Nat := [17, 18, 19, 20, 21, 22, 23, 28]

def deathTexts : List String :=
  ["Hangup", "Interrupt", "Quit", "Illegal instruction", "Trace/breakpoint trap", "Aborted", "Bus error",
    "Floating point exception", "Killed", "User defined signal 1", "Segmentation fault",
    "User defined signal 2", "Broken pipe", "Alarm clock", "Terminated", "Stack fault", "Child exited",
    "Continued", "Stopped (signal)", "Stopped", "Stopped (tty input)", "Stopped (tty output)",
    "Urgent I/O condition", "CPU time limit exceeded", "File size limit exceeded",
    "Virtual timer expired", "Profiling timer expired", "Window changed", "I/O possible", "Power failure",
    "Bad system call"]

def deathText (signal : Nat) : String :=
  if signal = 0 then "Unknown signal 0"
  else (deathTexts[signal - 1]?).getD
    (if 34 ≤ signal then s!"Real-time signal {signal - 34}" else s!"Unknown signal {signal}")

def signalBound : Nat := 65

def signalText (signal : Nat) : String :=
  if 34 ≤ signal && signal < 50 then if signal = 34 then "RTMIN" else s!"RTMIN+{signal - 34}"
  else if 50 ≤ signal then if signal = 64 then "RTMAX" else s!"RTMAX-{64 - signal}"
  else ((Process.signalName? signal).filter (· ≠ "STKFLT")).getD (toString signal)

def signal? (text : Bytes) : Option Nat :=
  if !text.isEmpty && text.all Char.isDigit then (Text.readDigits? 10 text).filter (· < signalBound)
  else
    let name := String.ofList (text.map Char.toUpper)
    ((List.range signalBound).drop 1).find? fun signal => signalText signal = name

namespace Session

def withArguments (plain valued : String) (run : Session → Arguments → Session) (shell : Session)
    (words : List Bytes) : Session :=
  match Arguments.readFirst plain.toList valued.toList none words with
  | .ok arguments => run shell arguments
  | .error text => shell.fail text

def count? (text : Bytes) : Option Nat :=
  ((integer? readDecimal text).filter fun value => 0 ≤ value && value < 2147483648).map Int.toNat

def refuseNumber (shell : Session) (text : Bytes) : Session :=
  shell.fail (toBytes "Illegal number: " ++ text)

def done (shell : Session) : Session := { shell with status := 0 }

def print (shell : Session) (text : Bytes) : Session := shell.write 1 text

def receive (shell : Session) (signal : Nat) : Session × List Bytes :=
  match if signal = 9 then none else shell.traps.lookup signal with
  | some action => (shell, if action.isEmpty then [] else [action])
  | none =>
    if signal = 0 || signal ∈ harmlessSignals then (shell, [])
    else ({ shell with ending := some (.killed signal) }, [])

/-! ## The course of a script -/

def exitShell (shell : Session) (words : List Bytes) : Session :=
  match words with
  | [] => { shell with ending := some (.exited shell.status) }
  | word :: _ =>
    match count? word with
    | some code => { shell with status := code % 256, ending := some (.exited (code % 256)) }
    | none => shell.refuseNumber word

def returnFrom (shell : Session) (words : List Bytes) : Session :=
  match words with
  | [] => { shell with jump := some .leaveFunction }
  | word :: _ =>
    match count? word with
    | some code => { shell with status := code, jump := some .leaveFunction }
    | none => shell.refuseNumber word

def jumpBy (jump : Nat → Jump) (shell : Session) (words : List Bytes) : Session :=
  let word := words.headD ['1']
  match (count? word).filter (0 < ·) with
  | some count =>
    if shell.loops = 0 then shell.done
    else { shell with status := 0, jump := some (jump (min count shell.loops)) }
  | none => shell.refuseNumber word

def shift (shell : Session) (words : List Bytes) : Session :=
  let word := words.headD ['1']
  match count? word with
  | some count =>
    if shell.arguments.length < count then shell.fail (toBytes "can't shift that many")
    else { shell with arguments := shell.arguments.drop count, status := 0 }
  | none => shell.refuseNumber word

/-! ## Variables -/

def inQuotes (text : Bytes) : Bytes :=
  ['\''] ++ text.flatMap (fun c => if c = '\'' then "'\"'\"'".toList else [c]) ++ ['\'']

def listing (shell : Session) (start : String) (isListed : Variable → Bool) : Bytes :=
  let isAtMost (a b : Bytes × Variable) : Bool := !(List.lex b.1 a.1 fun c d => c.toNat < d.toNat)
  ((shell.assigned.filter fun (_, found) => isListed found).mergeSort isAtMost).flatMap
    fun (name, found) =>
      toBytes start ++ name ++ (found.value.map fun value => '=' :: inQuotes value).getD [] ++ ['\n']

def splitAssignment (word : Bytes) : Bytes × Option Bytes :=
  let name := word.takeWhile (· ≠ '=')
  (name, ((word.drop name.length).head?).map fun _ => word.drop (name.length + 1))

def declare (start : String) (mark : Variable → Variable) (isMarked : Variable → Bool) :
    Session → List Bytes → Session := withArguments "p" "" fun shell arguments =>
  if arguments.operands.isEmpty || arguments.has 'p' then
    shell.done.print (shell.listing start isMarked)
  else arguments.operands.foldl
    (fun shell word =>
      let (name, value) := splitAssignment word
      if shell.isStopped then shell
      else if !isName name then shell.fail (name ++ toBytes ": bad variable name")
      else
        let shell := match value with
          | some value => shell.assign name value
          | none => shell
        if shell.isStopped then shell
        else shell.setVariable name
          (some (mark ((shell.assigned.lookup name).getD { value := none }))))
    shell.done

def unset : Session → List Bytes → Session := withArguments "vf" "" fun shell arguments =>
  arguments.operands.foldl
    (fun shell word =>
      let (name, _) := splitAssignment word
      if shell.isStopped then shell
      else if (arguments.options.getLast?).any (·.1 = 'f') then
        { shell with functions := shell.functions.filter fun (other, _) => other ≠ name }
      else if !isName name then shell.fail (name ++ toBytes ": bad variable name")
      else if (shell.assigned.lookup name).any (·.isReadOnly) then
        shell.fail (name ++ toBytes ": is read only")
      else shell.setVariable name none)
    shell.done

def makeLocal (shell : Session) (words : List Bytes) : Session :=
  match shell.saved with
  | none => shell.fail (toBytes "not in a function")
  | some _ =>
    words.foldl
      (fun shell word =>
        let (name, value) := splitAssignment word
        if shell.isStopped then shell
        else if !isName name then shell.fail (name ++ toBytes ": bad variable name")
        else
          let saved := (shell.saved.getD []) ++ [(name, shell.assigned.lookup name)]
          let shell := { shell with saved := some saved }
          match value with
          | some value => shell.assign name value
          | none => shell)
      shell.done

/-! ## Options and traps -/

def setLetter (isOn : Bool) (shell : Session) (letter : Char) : Session :=
  if shell.isStopped then shell
  else if letter = 'm' && isOn then
    shell.complain (toBytes "can't access tty; job control turned off")
  else if letter.isAlpha && optionNames.any (·.2 = letter) then
    { shell with options := shell.options.put letter isOn }
  else shell.fail (toBytes "Illegal option -" ++ [letter])

def setNamed (isOn : Bool) (shell : Session) (name : Bytes) : Session :=
  match optionNames.lookup (toText name) with
  | some letter => { shell with options := shell.options.put letter isOn }
  | none => shell.fail (toBytes "Illegal option -o " ++ name)

def listOptions (isTable : Bool) (shell : Session) : Session :=
  let line (name : String) (letter : Char) : String :=
    let isOn := shell.options.has letter
    if isTable then
      name ++ String.ofList (List.replicate (16 - name.length) ' ') ++ (if isOn then "on\n" else "off\n")
    else (if isOn then "set -o " else "set +o ") ++ name ++ "\n"
  let title := if isTable then "Current option settings\n" else ""
  shell.print (toBytes (title ++ String.join (optionNames.map fun (name, letter) => line name letter)))

/-- Sets options by letters, of which one stands for the name that comes next, if there is one. The letters
that mean something else are passed over. Gives the words that are left, too. -/
def setLetters (isOn : Bool) (passed : List Char) : Session → (letters : Bytes) → (rest : List Bytes) →
    Session × List Bytes
  | shell, [], rest => (shell, rest)
  | shell, 'o' :: letters, name :: rest =>
    setLetters isOn passed (if shell.isStopped then shell else setNamed isOn shell name) letters rest
  | shell, 'o' :: letters, [] => setLetters isOn passed (listOptions isOn shell) letters []
  | shell, letter :: letters, rest =>
    setLetters isOn passed (if letter ∈ passed then shell else setLetter isOn shell letter) letters rest

def setFrom : (fuel : Nat) → Session → List Bytes → Session
  | 0, shell, _ | _, shell, [] => shell
  | fuel + 1, shell, word :: rest =>
    match word with
    | ['-'] =>
      let shell := { shell with options := (shell.options.put 'x' false).put 'v' false }
      if rest.isEmpty then shell else { shell with arguments := rest }
    | ['-', '-'] => { shell with arguments := rest }
    | sign :: letters =>
      if sign = '-' || sign = '+' then
        let (shell, rest) := setLetters (sign = '-') [] shell letters rest
        if shell.isStopped then shell else setFrom fuel shell rest
      else { shell with arguments := word :: rest }
    | [] => { shell with arguments := word :: rest }

def set (shell : Session) (words : List Bytes) : Session :=
  if words.isEmpty then shell.done.print (shell.listing "" fun found => found.value.isSome)
  else setFrom words.length shell.done words

def trapNumber? (text : Bytes) : Option Nat :=
  if toText text = "EXIT" then some 0 else signal? text

def trapName (number : Nat) : Bytes := toBytes (if number = 0 then "EXIT" else signalText number)

/-- Sets what is run for signals, or tells what is. A first word that is the number of a signal is no action. -/
def trap : Session → List Bytes → Session := withArguments "" "" fun shell arguments =>
  match arguments.operands with
  | [] =>
    shell.done.print (shell.traps.flatMap fun (number, action) =>
      toBytes "trap -- " ++ inQuotes action ++ [' '] ++ trapName number ++ ['\n'])
  | first :: rest =>
    let isNumber := first.all Char.isDigit && (trapNumber? first).isSome
    let isAction := !rest.isEmpty && !isNumber
    let action := if isAction && first ≠ ['-'] then some first else none
    (if isAction then rest else first :: rest).foldl
      (fun shell name =>
        if shell.status ≠ 0 then shell
        else match trapNumber? name with
          | none =>
            { shell.write 2 (toBytes "trap: " ++ name ++ toBytes ": bad trap\n") with status := 1 }
          | some number =>
            let others := shell.traps.filter fun (other, _) => other ≠ number
            let isBelow (other : Nat × Bytes) : Bool := other.1 < number
            { shell with
              traps := others.takeWhile isBelow ++ (action.map (number, ·)).toList ++
                others.dropWhile isBelow })
      shell.done

/-! ## Places and input -/

def place (shell : Session) : Bytes := toBytes ("/" ++ "/".intercalate shell.files.workingDirectory)

/-- Changes the working directory. A path that starts with a name is also looked for in other places, and the
one that it is found in is told. -/
def changeDirectory : Session → List Bytes → Session := withArguments "LP" "" fun shell arguments =>
  let first := arguments.operands.head?
  let isBack : Bool := first = some ['-']
  let target := match first with
    | none => (shell.valueOf? "HOME".toList).getD []
    | some word => if isBack then (shell.valueOf? "OLDPWD".toList).getD [] else word
  let start := toText (target.takeWhile (· ≠ '/'))
  let places :=
    if target.isEmpty || start ∈ ["", ".", ".."] then []
    else ((shell.valueOf? "CDPATH".toList).map fun value => (toText value).splitOn ":").getD []
  let path := if target.isEmpty then "." else toText target
  let paths : List (String × Bool) :=
    places.map (fun other => (Config.joinPath other path, !other.isEmpty)) ++ [(path, isBack)]
  match paths.find? fun (path, _) => shell.files.find? path = some .directory with
  | none => shell.fail (toBytes "can't cd to " ++ target)
  | some (path, isTold) =>
    let names := (shell.files.follow path).toOption.getD []
    let moved := { shell.done with files := { shell.files with workingDirectory := names } }
    let mark (shell : Session) (name : String) (value : Bytes) : Session :=
      (shell.assign name.toList value).exported name.toList
    let moved := mark (mark moved "OLDPWD" shell.place) "PWD" moved.place
    if isTold then moved.print (moved.place ++ ['\n']) else moved

/-- A line of the input as characters and whether they were protected by a backslash, whether it has an end,
and what follows. -/
def takeLine (isRaw : Bool) : Bytes → List (Char × Bool) × Bool × Bytes
  | [] => ([], false, [])
  | '\\' :: c :: rest =>
    if isRaw then
      if c = '\n' then ([('\\', false)], true, rest)
      else
        let (line, hasEnd, after) := takeLine isRaw (c :: rest)
        (('\\', false) :: line, hasEnd, after)
    else
      let (line, hasEnd, after) := takeLine isRaw rest
      (if c = '\n' then line else (c, true) :: line, hasEnd, after)
  | c :: rest =>
    if c = '\n' then ([], true, rest)
    else
      let (line, hasEnd, after) := takeLine isRaw rest
      ((c, false) :: line, hasEnd, after)

def shareLine (separators : Bytes) : (count : Nat) → List (Char × Bool) → List Bytes
  | 0, _ => []
  | count, line =>
    let isSeparator (c : Char × Bool) : Bool := !c.2 && c.1 ∈ separators
    let isWhite (c : Char × Bool) : Bool := isSeparator c && c.1 ∈ [' ', '\t', '\n']
    let line := line.dropWhile isWhite
    match count with
    | 0 => []
    | 1 => [((line.reverse.dropWhile isWhite).reverse).map (·.1)]
    | count + 1 =>
      let field := line.takeWhile (!isSeparator ·)
      let rest := (line.drop field.length).dropWhile isWhite
      let rest := if rest.head?.any isSeparator then rest.drop 1 else rest
      field.map (·.1) :: shareLine separators count rest

def read : Session → List Bytes → Session := withArguments "r" "p" fun shell arguments =>
  if arguments.operands.isEmpty then shell.fail (toBytes "arg count")
  else
    let (line, hasEnd, rest) := takeLine (arguments.has 'r') shell.input
    let values := shareLine shell.separators arguments.operands.length line
    let shell := { shell with input := rest, status := if hasEnd then 0 else 1 }
    (arguments.operands.zip values).foldl
      (fun shell (name, value) =>
        if shell.isStopped then shell
        else if !isName (splitAssignment name).1 then shell.fail (name ++ toBytes ": bad variable name")
        else shell.assign name value)
      shell

/-! ## Options of a script -/

/-- What a letter means among the options that a script takes: whether it is one, and whether it comes with
an argument. -/
def meaningOf (letter : Char) : Bytes → Option Bool
  | [] => none
  | c :: ':' :: rest => if c = letter then some true else meaningOf letter rest
  | c :: rest => if c = letter then some false else meaningOf letter rest

def takeOption (options name : Bytes) (shell : Session) (words : List Bytes) : Session :=
  let index := match (shell.valueOf? "OPTIND".toList).bind count? with
    | some index => if index = 0 || words.length + 1 < index then 1 else index
    | none => 1
  let isQuiet := options.head? = some ':'
  let finish (found : Char) (status index place : Nat) (shell : Session) : Session :=
    let shell := (shell.assign "OPTIND".toList (decimal index)).assign name [found]
    { shell with status, optionPlace := place }
  let ended (index : Nat) : Session := finish '?' 1 index 0 shell
  let argument (shell : Session) (value : Option Bytes) : Session :=
    match value with
    | some value => shell.assign "OPTARG".toList value
    | none => shell.setVariable "OPTARG".toList none
  let current := (words[index - 2]?).getD []
  let isInside := 1 < index && 0 < shell.optionPlace && shell.optionPlace < current.length
  let word := if isInside then current else (words[index - 1]?).getD []
  let behind := if isInside then index else index + 1
  let place := if isInside then shell.optionPlace else 1
  match word.drop place with
  | [] => ended index
  | letter :: after =>
    if word.head? ≠ some '-' then ended index
    else if !isInside && word = ['-', '-'] then ended behind
    else
      let left := if after.isEmpty then 0 else place + 1
      match meaningOf letter options with
      | none =>
        let told := if isQuiet then argument shell (some [letter])
          else argument (shell.write 2 (toBytes "Illegal option -" ++ [letter, '\n'])) none
        finish '?' 0 behind left told
      | some false => finish letter 0 behind left (argument shell (some []))
      | some true =>
        if !after.isEmpty then finish letter 0 behind 0 (argument shell (some after))
        else match words[behind - 1]? with
          | some value => finish letter 0 (behind + 1) 0 (argument shell (some value))
          | none =>
            if isQuiet then finish ':' 0 behind 0 (argument shell (some [letter]))
            else
              let text := toBytes "No arg for -" ++ [letter] ++ toBytes " option\n"
              finish '?' 0 behind 0 (argument (shell.write 2 text) none)

def takeOptions : Session → List Bytes → Session := withArguments "" "" fun shell arguments =>
  match arguments.operands with
  | options :: name :: words =>
    if !isName name then shell.fail (name ++ toBytes ": bad variable name")
    else takeOption options name shell (if words.isEmpty then shell.arguments else words)
  | _ => shell.fail (toBytes "Usage: getopts optstring var [arg...]")

/-! ## Processes -/

def killUsage : Bytes :=
  toBytes "Usage: kill [-s sigspec | -signum | -sigspec] [pid | job]... or\nkill -l [exitstatus]"

def sendTo (signal : Nat) (targets : List Bytes) (shell : Session) : Session × List Bytes :=
  targets.foldl
    (fun (shell, actions) target =>
      if shell.isStopped then (shell, actions)
      else if target.head? = some '%' then (shell.fail (toBytes "No such job: " ++ target), actions)
      else match count? target with
        | none => (shell.refuseNumber target, actions)
        | some number =>
          let isKnown := number = shell.process || number ∈ shell.ancestors ||
            (shell.finished.lookup number).isSome
          if isKnown && signal = 0 then (shell, actions)
          else if number = shell.process && !shell.isInner then
            let (shell, more) := shell.receive signal
            (shell, actions ++ more)
          else if number = shell.process || number ∈ shell.ancestors then
            ({ shell with sent := shell.sent ++ [(number, signal)] }, actions)
          else if (shell.finished.lookup number).isSome then (shell, actions)
          else ({ shell.complain (toBytes "No such process\n") with status := 1 }, actions))
    (shell.done, [])

def listSignals (shell : Session) (words : List Bytes) : Session :=
  match words with
  | [] =>
    shell.done.print ((List.range signalBound).flatMap fun signal => toBytes (signalText signal ++ "\n"))
  | word :: _ =>
    match count? word with
    | none => shell.refuseNumber word
    | some number =>
      let signal := if 128 < number then number - 128 else number
      if 0 < signal && signal < signalBound then shell.done.print (trapName signal ++ ['\n'])
      else shell.fail (toBytes "invalid signal number or exit status: " ++ word)

def kill (shell : Session) (words : List Bytes) : Session × List Bytes :=
  let usage : Session × List Bytes := (shell.fail killUsage, [])
  let send (signal : Nat) (targets : List Bytes) : Session × List Bytes :=
    if targets.isEmpty then usage else sendTo signal targets shell
  match words with
  | [] => usage
  | ['-', '-'] :: rest => send 15 rest
  | ['-', 's'] :: rest =>
    match rest with
    | [] => (shell.fail (toBytes "No arg for -s option"), [])
    | name :: targets =>
      match signal? name with
      | some signal => send signal (if targets.head? = some ['-', '-'] then targets.drop 1 else targets)
      | none => (shell.fail (toBytes "invalid signal number or name: " ++ name), [])
  | ['-', 'l'] :: rest => (shell.listSignals rest, [])
  | ('-' :: name) :: rest =>
    match signal? name with
    | some signal => send signal (if rest.head? = some ['-', '-'] then rest.drop 1 else rest)
    | none => (shell.fail (toBytes "Illegal option -" ++ name.take 1), [])
  | targets => send 15 targets

def wait : Session → List Bytes → Session := withArguments "" "" fun shell arguments =>
  arguments.operands.foldl
    (fun shell word =>
      if shell.isStopped then shell
      else match count? word with
        | some number => { shell with status := (shell.finished.lookup number).getD 127 }
        | none => shell.refuseNumber word)
    shell.done

/-- Tells the permissions that new files do not get, or sets them by an octal number. -/
def changeMask : Session → List Bytes → Session := withArguments "S" "" fun shell arguments =>
  match arguments.operands with
  | [] =>
    let digit (place : Nat) : Nat := shell.mask / Nat.pow 8 place % 8
    let granted (place : Nat) : String :=
      let left := 7 - digit place
      (if left / 4 = 1 then "r" else "") ++ (if left / 2 % 2 = 1 then "w" else "") ++
        (if left % 2 = 1 then "x" else "")
    let text :=
      if arguments.has 'S' then "u=" ++ granted 2 ++ ",g=" ++ granted 1 ++ ",o=" ++ granted 0
      else "0" ++ toString (digit 2) ++ toString (digit 1) ++ toString (digit 0)
    shell.done.print (toBytes (text ++ "\n"))
  | word :: _ =>
    if word.head?.any Char.isDigit then
      match Text.readDigits? 8 word with
      | some mask => { shell.done with mask := mask % 512 }
      | none => shell.refuseNumber word
    else
      let isClause (clause : Bytes) : Bool :=
        match clause.dropWhile (· ∈ ['u', 'g', 'o', 'a']) with
        | [] => true
        | operator :: rights =>
          operator ∈ ['+', '-', '='] && rights.all (· ∈ ['r', 'w', 'x', 'X', 's', 't', 'u', 'g', 'o'])
      if (word.splitOn ',').all isClause then shell.done else shell.fail (toBytes "Illegal mode: " ++ word)

/-! ## Aliases -/

def keepAliases (shell : Session) (words : List Bytes) : Session :=
  let shown (entry : Bytes × Bytes) : Bytes := entry.1 ++ ['='] ++ inQuotes entry.2 ++ ['\n']
  if words.isEmpty then shell.done.print (shell.aliases.flatMap shown)
  else words.foldl
    (fun shell word =>
      match splitAssignment word with
      | (name, some text) =>
        { shell with
          aliases := (shell.aliases.filter fun (other, _) => other ≠ name) ++ [(name, text)] }
      | (name, none) =>
        match shell.aliases.lookup name with
        | some text => shell.print (shown (name, text))
        | none =>
          { shell.write 2 (toBytes "alias: " ++ name ++ toBytes " not found\n") with status := 1 })
    shell.done

def dropAliases (shell : Session) (words : List Bytes) : Session :=
  if words = [['-', 'a']] then { shell.done with aliases := [] }
  else words.foldl
    (fun shell name =>
      if (shell.aliases.lookup name).isSome then
        { shell with aliases := shell.aliases.filter fun (other, _) => other ≠ name }
      else { shell.write 2 (toBytes "unalias: " ++ name ++ toBytes " not found\n") with status := 1 })
    shell.done

/-! ## Texts and conditions -/

def printFormat : Session → List Bytes → Session := withArguments "" "" fun shell arguments =>
  match arguments.operands with
  | [] => shell.fail (toBytes "usage: printf format [arg ...]")
  | text :: words =>
    let filling := fillFormat {} text words
    let shell := { shell with status := if filling.complaints.isEmpty then 0 else 1 }
    let shell := (filling.complaints.foldl complain shell).print filling.out
    match filling.fault with
    | some fault => shell.fail fault
    | none => shell

def test (name : Bytes) (shell : Session) (words : List Bytes) : Session :=
  let isBracket := name = ['[']
  if isBracket && words.getLast? ≠ some [']'] then shell.fail (toBytes "missing ]")
  else match holds shell.files (if isBracket then words.dropLast else words) with
    | .ok value => { shell with status := if value then 0 else 1 }
    | .error text => shell.fail text

/-! ## Names of commands -/

def whatIs? (shell : Session) (name : Bytes) : Option (String × Option Bytes) :=
  let text := toText name
  if text ∈ reservedWords then some ("a shell keyword", none)
  else if (shell.functions.lookup name).isSome then some ("a shell function", none)
  else if text ∈ specialNames then some ("a special shell builtin", none)
  else if text ∈ builtInNames then some ("a shell builtin", none)
  else if '/' ∈ name then
    if (executableAt shell.files text).isOk then some ("", some name) else none
  else
    (shell.searchPath.find? fun directory =>
      (executableAt shell.files (Config.joinPath directory text)).isOk).map fun directory =>
        ("", some (toBytes (Config.joinPath directory text)))

def describe (isLong : Bool) (shell : Session) (names : List Bytes) : Session :=
  names.foldl
    (fun shell name =>
      match shell.whatIs? name with
      | some (_, some path) => shell.print ((if isLong then name ++ toBytes " is " else []) ++ path ++ ['\n'])
      | some (kind, none) =>
        shell.print (name ++ (if isLong then toBytes (" is " ++ kind) else []) ++ ['\n'])
      | none =>
        { (if isLong then shell.print (name ++ toBytes ": not found\n") else shell) with status := 127 })
    shell.done

def findCommands : Session → List Bytes → Session := withArguments "rv" "" fun shell arguments =>
  arguments.operands.foldl
    (fun shell name =>
      if (shell.whatIs? name).isSome then shell
      else { shell.complain (name ++ toBytes ": not found") with status := 1 })
    shell.done

/-- Runs a command of the shell itself that runs no others, and gives what is to be run for a signal. -/
def runBuiltIn (name : Bytes) (shell : Session) (words : List Bytes) : Session × List Bytes :=
  let plain (shell : Session) : Session × List Bytes := (shell, [])
  match toText name with
  | "kill" => shell.kill words
  | ":" | "true" | "jobs" => plain shell.done
  | "times" => plain (shell.done.print (toBytes "0m0.000000s 0m0.000000s\n0m0.000000s 0m0.000000s\n"))
  | "bg" | "fg" => plain (shell.fail (toBytes "No current job"))
  | "alias" => plain (shell.keepAliases words)
  | "unalias" => plain (shell.dropAliases words)
  | "hash" => plain (shell.findCommands words)
  | "getopts" => plain (shell.takeOptions words)
  | "false" => plain { shell with status := 1 }
  | "exit" => plain (shell.exitShell words)
  | "return" => plain (shell.returnFrom words)
  | "break" => plain (jumpBy .leaveLoops shell words)
  | "continue" => plain (jumpBy .nextRound shell words)
  | "shift" => plain (shell.shift words)
  | "export" =>
    plain (declare "export " (fun found => { found with isExported := true }) (·.isExported) shell words)
  | "readonly" =>
    plain (declare "readonly " (fun found => { found with isReadOnly := true }) (·.isReadOnly) shell words)
  | "unset" => plain (shell.unset words)
  | "local" => plain (shell.makeLocal words)
  | "set" => plain (shell.set words)
  | "trap" => plain (shell.trap words)
  | "cd" => plain (shell.changeDirectory words)
  | "pwd" =>
    plain (withArguments "LP" "" (fun shell _ => shell.done.print (shell.place ++ ['\n'])) shell words)
  | "read" => plain (shell.read words)
  | "wait" => plain (shell.wait words)
  | "umask" => plain (shell.changeMask words)
  | "ulimit" =>
    plain (withArguments "HSatfdscmlpnvwr" "" (fun shell _ => shell.done.print (toBytes "unlimited\n"))
      shell words)
  | "echo" =>
    let withNewline := words.head? ≠ some ['-', 'n']
    plain (shell.done.print
      (echoText (some { zeroFirst := true }) withNewline (if withNewline then words else words.drop 1)))
  | "printf" => plain (shell.printFormat words)
  | "test" | "[" => plain (test name shell words)
  | "type" => plain (describe true shell words)
  | _ => plain { shell with status := 127 }

end Session

end ClusterTrials.TestSupport.Shell
