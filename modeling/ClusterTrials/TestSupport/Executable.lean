import ClusterTrials.TestSupport.Files
/-!
# Test support: finding executables

A program is named by a path or, without any slash, by a name that is looked up in the directories of a
search path. It is one of the machine's own or an executable file; such a file names the program that
interprets it in its first line, or else it is left to a shell.
-/

namespace ClusterTrials.TestSupport

inductive Executable
  /-- One of the machine's own programs. -/
  | utility (name : String)
  /-- An executable file. -/
  | file (path : String) (bytes : List UInt8)
  deriving DecidableEq, Repr

def usualSearchPath : List String :=
  ["/usr/local/sbin", "/usr/local/bin", "/usr/sbin", "/usr/bin", "/sbin", "/bin"]

def executableAt (files : Files) (path : String) : Except IoError Executable := do
  match ← files.lookup path with
  | .utility name => return .utility name
  | .file bytes true => return .file path bytes
  | _ => throw .accessDenied

def longestFirstLine : Nat := 255

/-- The interpreter that a file names in its first line, and the argument that is given to it there. If that
line is not looked at to its end, the name must be. -/
def interpreter? (bytes : List UInt8) : Option (String × Option String) :=
  match bytes with
  | 0x23 :: 0x21 :: _ =>
    let isGap (b : UInt8) : Bool := b = 0x20 || b = 0x09
    let start := (bytes.take (longestFirstLine + 1)).takeWhile (· ≠ 0x0A)
    let isCut := longestFirstLine < start.length
    let line := (start.take longestFirstLine).drop 2
    let rest := line.dropWhile isGap
    let path := rest.takeWhile fun b => !isGap b && b ≠ 0
    let argument := ((rest.drop path.length).takeWhile (· ≠ 0)).dropWhile isGap
    let argument := (argument.reverse.dropWhile isGap).reverse
    if path.isEmpty || (isCut && path.length = rest.length) then none
    else some (Text.decodeLossy path,
      if argument.isEmpty then none else some (Text.decodeLossy argument))
  | _ => none

def longestInterpretation : Nat := 5

def runFault? (files : Files) : (depth : Nat) → Executable → Option IoError
  | _, .utility _ => none
  | depth, .file _ bytes =>
    match interpreter? bytes with
    | none => some .notExecutable
    | some (interpreter, _) =>
      match depth with
      | 0 => some .tooManyLevels
      | depth + 1 =>
        match executableAt files interpreter with
        | .ok program => runFault? files depth program
        | .error error => some error

/-- The program at a path, provided that it can be run. A file that names no interpreter can, if a shell may
take it. -/
def runnableAt (files : Files) (byShell : Bool) (path : String) : Except IoError Executable := do
  let program ← executableAt files path
  match runFault? files longestInterpretation program with
  | none => return program
  | some error => if error = .notExecutable && byShell then return program else throw error

/-- Looks a name up in one directory after the other. A directory without it is passed over, and so is one
where it cannot be run; the latter is told if there is no other. -/
def searchIn (files : Files) (name : String) : (denied : Bool) → List String → Except IoError Executable
  | denied, [] => .error (if denied then .accessDenied else .noSuchFile)
  | denied, directory :: rest =>
    match runnableAt files true (Config.joinPath directory name) with
    | .ok program => .ok program
    | .error error =>
      if error ∈ [.accessDenied, .noSuchFile, .notDirectory] then
        searchIn files name (denied || error = .accessDenied) rest
      else .error error

def locate (files : Files) (searchPath : List String) (name : String) : Except IoError Executable :=
  if name = "" then .error .noSuchFile
  else if '/' ∈ name.toList then runnableAt files false name
  else if Files.longestName < name.utf8ByteSize then .error .nameTooLong
  else searchIn files name false searchPath

def pathParts (path : String) : List String :=
  let names := path.splitOn "/"
  (if isAbsolute path then ["/"] else if names.head? = some "." then ["."] else []) ++
    names.filter fun name => name ≠ "" && name ≠ "."

def isInstalled (files : Files) (searchPath : List String) (name : String) : Bool :=
  let parts := pathParts name
  if parts.length ≤ 1 then
    parts = [name] &&
      searchPath.any fun directory => (executableAt files (Config.joinPath directory name)).isOk
  else (executableAt files (if isAbsolute name then name else "/".intercalate parts)).isOk

end ClusterTrials.TestSupport
