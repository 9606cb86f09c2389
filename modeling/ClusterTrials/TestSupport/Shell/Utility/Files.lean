import ClusterTrials.TestSupport.Shell.Utility.Text
/-!
# Test support: utilities for files

Programs that list, make, remove, copy and move what is in directories.
-/

namespace ClusterTrials.TestSupport.Shell

def pwd : Utility := fun work _ =>
  work.print (toBytes ("/" ++ "/".intercalate work.files.workingDirectory ++ "\n"))

def ls : Utility := withOptions "ls" "1aAd" "" 2 fun work arguments =>
  let operands := if arguments.operands.isEmpty then [['.']] else arguments.operands
  let found := operands.map fun operand => (operand, work.files.lookup (toText operand))
  let work := found.foldl
    (fun work (path, entry) =>
      match entry with
      | .error error =>
        work.complainWith 2
          (toBytes "ls: cannot access " ++ quotedName true path ++ toBytes (": " ++ reason error))
      | .ok _ => work)
    work
  let there := found.filterMap fun (path, entry) => entry.toOption.map (path, ·)
  let isListed (entry : FileEntry) : Bool := entry = .directory && !arguments.has 'd'
  let isAtMost (a b : Bytes) : Bool := !(List.lex b a fun c d => c.toNat < d.toNat)
  let plain := ((there.filter fun (_, entry) => !isListed entry).map (·.1)).mergeSort isAtMost
  let directories := ((there.filter fun (_, entry) => isListed entry).map (·.1)).mergeSort isAtMost
  let lines (names : List Bytes) : Bytes := names.flatMap (· ++ ['\n'])
  let below (path : Bytes) : Bytes :=
    let names := (((work.files.follow (toText path)).toOption.map work.files.namesBelow).getD []).map toBytes
    let names := if arguments.has 'a' then [['.'], ['.', '.']] ++ names else names
    let isShown (name : Bytes) : Bool :=
      arguments.has 'a' || arguments.has 'A' || name.head? ≠ some '.'
    lines ((names.filter isShown).mergeSort isAtMost)
  let titled (path : Bytes) : Bytes :=
    if operands.length = 1 then below path else path ++ [':', '\n'] ++ below path
  let blocks := (if plain.isEmpty then [] else [lines plain]) ++ directories.map titled
  if blocks.isEmpty then work else work.print (['\n'].intercalate blocks)

def eachOperand (name missing : String) (work : Work) (operands : List Bytes) (act : Work → Bytes → Work) :
    Work :=
  if operands.isEmpty then work.misused name (toBytes missing) else operands.foldl act work

def firstObstacle? (files : Files) (path : String) : Option String :=
  let parts := path.splitOn "/"
  ((List.range parts.length).map fun count => "/".intercalate (parts.take (count + 1))).find? fun start =>
    (files.find? start).any (· ≠ .directory)

def mkdir : Utility := withOptions "mkdir" "p" "m" 1 fun work arguments =>
  eachOperand "mkdir" "missing operand" work arguments.operands fun work path =>
    let refuseAt (path : Bytes) (text : String) : Work :=
      work.complain (toBytes "mkdir: cannot create directory " ++ quotedName true path ++ toBytes (": " ++ text))
    let text := toText (withoutSlashes path)
    match work.files.lookup text with
    | .ok .directory => if arguments.has 'p' then work else refuseAt path "File exists"
    | .ok _ => refuseAt path "File exists"
    | .error .notDirectory =>
      let obstacle := if arguments.has 'p' then firstObstacle? work.files text else none
      refuseAt ((obstacle.map toBytes).getD path) "Not a directory"
    | .error _ =>
      if arguments.has 'p' then { work with files := work.files.add text .directory }
      else match work.files.follow text with
        | .ok names => { work with files := work.files.put names .directory }
        | .error error => refuseAt path (reason error)

def rmdir : Utility := withOptions "rmdir" "" "" 1 fun work arguments =>
  eachOperand "rmdir" "missing operand" work arguments.operands fun work path =>
    let refuse (text : String) : Work :=
      work.complain (toBytes "rmdir: failed to remove " ++ quotedName true path ++ toBytes (": " ++ text))
    match work.files.follow (toText path), work.files.lookup (toText path) with
    | .ok names, .ok .directory =>
      if (work.files.namesBelow names).isEmpty then { work with files := work.files.removeAt names }
      else refuse "Directory not empty"
    | _, .ok _ => refuse "Not a directory"
    | _, .error error => refuse (reason error)

def rm : Utility := withOptions "rm" "frRiv" "" 1 fun work arguments =>
  if arguments.operands.isEmpty && arguments.has 'f' then work
  else eachOperand "rm" "missing operand" work arguments.operands fun work path =>
    let refuse (text : String) : Work :=
      work.complain (toBytes "rm: cannot remove " ++ quotedName true path ++ toBytes (": " ++ text))
    let isDeep := arguments.has 'r' || arguments.has 'R'
    match work.files.follow (toText path), work.files.lookup (toText path) with
    | .ok names, .ok entry =>
      if entry = .directory && !isDeep then refuse "Is a directory"
      else { work with files := work.files.removeAt names }
    | .error error, _ | _, .error error =>
      if arguments.has 'f' && error = .noSuchFile then work else refuse (reason error)

def touch : Utility := withOptions "touch" "acm" "dtr" 1 fun work arguments =>
  eachOperand "touch" "missing file operand" work arguments.operands fun work path =>
    match work.files.follow (toText path) with
    | .ok names =>
      if (work.files.entry? names).isSome || arguments.has 'c' then work
      else { work with files := work.files.put names (.file [] false) }
    | .error error =>
      let isOpened := error = .noSuchFile && (work.files.follow (toText (withoutSlashes path))).toOption.isSome
      let attempt := if isOpened then "touch: setting times of " else "touch: cannot touch "
      work.complain (toBytes attempt ++ quotedName true path ++ toBytes (": " ++ reason error))

/-- What a mode makes of whether a file can be executed. It is a number, or says who may do what from now on;
what the group and others may do stays if only the owner is named. -/
def executableBy? (mode : Bytes) (executable : Bool) : Option Bool :=
  let isOperator (c : Char) : Bool := c = '+' || c = '-' || c = '='
  let change (executable : Bool) (clause : Bytes) : Option Bool :=
    let who := clause.takeWhile fun c => c ∈ ['u', 'g', 'o', 'a']
    let isEveryone := who.isEmpty || 'a' ∈ who || ['u', 'g', 'o'].all (· ∈ who)
    match clause.drop who.length with
    | operator :: rights =>
      if !isOperator operator || !rights.all (· ∈ ['r', 'w', 'x', 'X', 's', 't']) then none
      else if 'x' ∈ rights then some (operator ≠ '-' || (executable && !isEveryone))
      else some (executable && (operator ≠ '=' || !isEveryone))
    | [] => none
  match Text.readDigits? 8 mode with
  | some number => some (number % 2 = 1 || number / 8 % 2 = 1 || number / 64 % 2 = 1)
  | none => (mode.splitOn ',').foldlM change executable

def chmod : Utility := fun work words =>
  let options := words.takeWhile fun word => word ∈ [['-', 'R'], ['-', 'f'], ['-', 'v'], ['-', 'c'], ['-', '-']]
  match words.drop options.length with
  | [] => work.misused "chmod" (toBytes "missing operand")
  | [mode] => work.misused "chmod" (toBytes "missing operand after " ++ quotedName true mode)
  | mode :: paths =>
    if (executableBy? mode false).isNone then
      work.misused "chmod" (toBytes "invalid mode: " ++ shownName mode)
    else paths.foldl
      (fun work path =>
        match work.files.follow (toText path), work.files.lookup (toText path) with
        | .ok names, .ok (.file bytes executable) =>
          let executable := (executableBy? mode executable).getD executable
          { work with files := work.files.put names (.file bytes executable) }
        | _, .ok _ => work
        | _, .error error =>
          work.complain
            (toBytes "chmod: cannot access " ++ quotedName true path ++ toBytes (": " ++ reason error)))
      work

/-! ### Copying and moving -/

def entriesBelow (files : Files) (place : List String) : List (List String × FileEntry) :=
  files.entries.filterMap fun (names, entry) =>
    if place.isPrefixOf names && names ≠ place then some (names.drop place.length, entry) else none

/-- What a copy is, where something may have been before. A file that is written again stays as executable as
it was. -/
def copyOf (before : Option FileEntry) : FileEntry → FileEntry
  | .file bytes executable =>
    match before with
    | some (.file _ wasExecutable) => .file bytes wasExecutable
    | _ => .file bytes executable
  | .sink | .stream _ => .file [] false
  | entry => entry

def replant (isMove : Bool) (files : Files) (origin names : List String) (entry : FileEntry) : Files :=
  let below := entriesBelow files origin
  let planted := if isMove then entry else copyOf (files.entry? names) entry
  let files := (if isMove then files.removeAt origin else files).put names planted
  below.foldl (fun files (rest, entry) => files.put (names ++ rest) entry) files

def transferOne (name : String) (isMove isDeep : Bool) (work : Work) (source target : Bytes) : Work :=
  let refuse (parts : List Bytes) : Work := work.complain (toBytes (name ++ ": ") ++ parts.flatten)
  let thing := quotedName true source
  let place := quotedName true target
  let failing (error : IoError) : Bytes := toBytes (": " ++ reason error)
  match work.files.follow (toText source), work.files.lookup (toText source) with
  | .error error, _ | _, .error error => refuse [toBytes "cannot stat ", thing, failing error]
  | .ok origin, .ok entry =>
    let isTree := entry = .directory
    let isSlashed := target.getLast? = some '/' && !isTree
    let blocked (error : IoError) : Work :=
      if isMove then refuse [toBytes "cannot move ", thing, toBytes " to ", place, failing error]
      else if isTree then refuse [toBytes "cannot create directory ", place, failing error]
      else refuse [toBytes "cannot create regular file ", place, failing error]
    if isTree && !isMove && !isDeep then
      refuse [toBytes "-r not specified; omitting directory ", thing]
    else match work.files.follow (toText (withoutSlashes target)) with
      | .error .notDirectory => refuse [toBytes "cannot stat ", place, failing .notDirectory]
      | .error error => blocked error
      | .ok names =>
        let done := { work with files := replant isMove work.files origin names entry }
        if names = origin then refuse [thing, toBytes " and ", place, toBytes " are the same file"]
        else if isTree && origin.isPrefixOf names then
          if isMove then refuse [toBytes "cannot move ", thing, toBytes " to a subdirectory of itself, ", place]
          else
            { refuse [toBytes "cannot copy a directory, ", thing, toBytes ", into itself, ", place] with
              files := work.files.put names .directory }
        else match work.files.entry? names with
          | none => if isSlashed then blocked .notDirectory else done
          | some .directory =>
            if !isTree then refuse [toBytes "cannot overwrite directory ", place, toBytes " with non-directory"]
            else if isMove && !(work.files.namesBelow names).isEmpty then
              blocked (.system 39 .other "Directory not empty")
            else done
          | some .sink | some (.stream _) => work
          | some _ =>
            if isTree then
              refuse [toBytes "cannot overwrite non-directory ", place, toBytes " with directory ", thing]
            else if isSlashed then refuse [toBytes "cannot stat ", place, failing .notDirectory]
            else done

def transfer (name : String) (isMove : Bool) : Utility := withOptions name "fprRavi" "" 1 fun work arguments =>
  match arguments.operands.reverse with
  | [] => work.misused name (toBytes "missing file operand")
  | [only] => work.misused name (toBytes "missing destination file operand after " ++ quotedName true only)
  | last :: sources =>
    let found := work.files.lookup (toText last)
    let isInto := found.toOption = some .directory
    let isDeep := arguments.has 'r' || arguments.has 'R' || arguments.has 'a'
    if 1 < sources.length && !isInto then
      let error := match found with
        | .ok _ => .notDirectory
        | .error error => error
      work.complain (toBytes (name ++ ": target ") ++ quotedName true last ++ toBytes (": " ++ reason error))
    else sources.reverse.foldl
      (fun work source =>
        let base := ((withoutSlashes source).reverse.takeWhile (· ≠ '/')).reverse
        let target := if isInto then withoutSlashes last ++ ['/'] ++ base else last
        transferOne name isMove isDeep work source target)
      work

def tee : Utility := withOptions "tee" "ai" "" 1 fun work arguments =>
  let text := work.input
  let work := { work with input := [] }.print text
  arguments.operands.foldl
    (fun work path =>
      let refuse (text : String) : Work :=
        work.complain (toBytes "tee: " ++ quotedName false path ++ toBytes (": " ++ text))
      match work.files.follow (toText path) with
      | .error error => refuse (reason error)
      | .ok names =>
        match work.files.entry? names with
        | some .directory => refuse "Is a directory"
        | some (.file bytes executable) =>
          let before := if arguments.has 'a' then bytes else []
          { work with files := work.files.put names (.file (before ++ bytesOf text) executable) }
        | some _ => work
        | none => { work with files := work.files.put names (.file (bytesOf text) false) })
    work

end ClusterTrials.TestSupport.Shell
