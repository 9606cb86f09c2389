import ClusterTrials.Config.Loader
/-!
# Test support: a tree of files

What a system holds, each thing under the names that lead to it from the root. Paths are followed name by
name from the root or from the working directory; a name that does not lead on from where it stands leads
nowhere. The usual directories of a system are always there, as are its own programs and a few files.
-/

namespace ClusterTrials.TestSupport

inductive FileEntry
  | file (bytes : List UInt8) (executable : Bool)
  | directory
  /-- One of the machine's own programs. -/
  | utility (name : String)
  /-- A device that is empty and keeps nothing. -/
  | sink
  /-- What the process has open under a number. -/
  | stream (descriptor : Nat)
  deriving DecidableEq, Repr

def shellNames : List String := ["sh", "dash", "bash"]

def utilityNames : List String :=
  shellNames ++
    ["true", "false", "echo", "printf", "test", "[", "cat", "wc", "sleep", "env", "head", "tail", "seq",
      "basename", "dirname", "pwd", "ls", "mkdir", "rmdir", "rm", "touch", "cp", "mv", "tee", "sort",
      "uniq", "tr", "chmod", "which"]

def utilityDirectories : List (List String) := [["usr", "bin"], ["bin"]]

def systemDirectories : List (List String) :=
  [["boot"], ["dev"], ["dev", "fd"], ["etc"], ["home"], ["lib"], ["media"], ["mnt"], ["opt"], ["proc"],
    ["root"], ["run"], ["sbin"], ["srv"], ["sys"], ["tmp"], ["usr"], ["usr", "lib"], ["usr", "local"],
    ["usr", "local", "bin"], ["usr", "local", "sbin"], ["usr", "sbin"], ["usr", "share"], ["var"],
    ["var", "lib"], ["var", "log"], ["var", "tmp"]] ++ utilityDirectories

def systemFiles : List (List String × String) :=
  [(["etc", "hostname"], "localhost\n"),
    (["etc", "hosts"], "127.0.0.1\tlocalhost\n::1\tlocalhost ip6-localhost ip6-loopback\n"),
    (["etc", "passwd"], "root:x:0:0:root:/root:/bin/bash\ndaemon:x:1:1:daemon:/usr/sbin:/usr/sbin/nologin\n"),
    (["etc", "group"], "root:x:0:\ndaemon:x:1:\n")]

def systemFile? (names : List String) : Option FileEntry :=
  if names = [] || names ∈ systemDirectories then some .directory
  else if names.dropLast ∈ utilityDirectories then
    names.getLast?.bind fun name => if name ∈ utilityNames then some (.utility name) else none
  else match names with
    | ["dev", "null"] => some .sink
    | ["dev", "stdin"] | ["dev", "fd", "0"] => some (.stream 0)
    | ["dev", "stdout"] | ["dev", "fd", "1"] => some (.stream 1)
    | ["dev", "stderr"] | ["dev", "fd", "2"] => some (.stream 2)
    | _ => (systemFiles.lookup names).map fun text => .file (Text.encode text) false

structure Files where
  /-- Where the paths start that do not start at the root. -/
  workingDirectory : List String := ["tmp", "work"]
  /-- What was put into the system. -/
  entries : List (List String × FileEntry) := []
  deriving Repr

def isAbsolute (path : String) : Bool := path.toList.head? = some '/'

namespace Files

def entry? (files : Files) (names : List String) : Option FileEntry :=
  ((files.entries.lookup names).or (systemFile? names)).or
    (if names.isPrefixOf files.workingDirectory then some .directory else none)

def longestName : Nat := 255

def longestPath : Nat := 4095

private def step (files : Files) (names : List String) (name : String) :
    Except IoError (List String) :=
  match files.entry? names with
  | none => .error .noSuchFile
  | some .directory =>
    if name = "" || name = "." then .ok names
    else if name = ".." then .ok names.dropLast
    else if longestName < name.utf8ByteSize then .error .nameTooLong
    else .ok (names ++ [name])
  | some _ => .error .notDirectory

def origin (files : Files) (path : String) : List String :=
  if isAbsolute path then [] else files.workingDirectory

/-- The names that a path leads to. The last one need not be there, but the directory that it is in. -/
def follow (files : Files) (path : String) : Except IoError (List String) :=
  if path = "" || '\x00' ∈ path.toList then .error .noSuchFile
  else if longestPath < path.utf8ByteSize then .error .nameTooLong
  else (path.splitOn "/").foldlM files.step (files.origin path)

def lookup (files : Files) (path : String) : Except IoError FileEntry := do
  match files.entry? (← files.follow path) with
  | some entry => return entry
  | none => throw .noSuchFile

def find? (files : Files) (path : String) : Option FileEntry := (files.lookup path).toOption

def bytesOf : FileEntry → Except IoError (List UInt8)
  | .file bytes _ => .ok bytes
  | .directory => .error .directory
  | .utility _ => .ok [0x7F, 0x45, 0x4C, 0x46, 0xFF]
  | .sink | .stream _ => .ok []

def put (files : Files) (names : List String) (entry : FileEntry) : Files :=
  { files with entries := (names, entry) :: files.entries.filter fun (other, _) => other ≠ names }

def withParents (files : Files) (names : List String) : Files :=
  (List.range names.length).foldl
    (fun files count =>
      if (files.entry? (names.take count)).isSome then files
      else files.put (names.take count) .directory)
    files

def namesIn (files : Files) (path : String) : List String :=
  (path.splitOn "/").foldl
    (fun names name =>
      if name = "" || name = "." then names
      else if name = ".." then names.dropLast
      else names ++ [name])
    (files.origin path)

def add (files : Files) (path : String) (entry : FileEntry) : Files :=
  let names := files.namesIn path
  (files.withParents names).put names entry

def removeAt (files : Files) (names : List String) : Files :=
  { files with entries := files.entries.filter fun (other, _) => !names.isPrefixOf other }

def remove (files : Files) (path : String) : Files := files.removeAt (files.namesIn path)

def namesBelow (files : Files) (directory : List String) : List String :=
  let known := files.entries.map (·.1) ++ systemDirectories ++ systemFiles.map (·.1) ++
    utilityDirectories.flatMap fun place => utilityNames.map fun name => place ++ [name]
  (known.filterMap fun names =>
    if names.isEmpty || names.dropLast ≠ directory then none else names.getLast?).eraseDups

def state (files : Files) (path : String) : Config.PathState :=
  match files.find? path with
  | none => .missing
  | some entry =>
    match bytesOf entry with
    | .ok bytes => .holds bytes
    | .error error => .unreadable error

end Files

end ClusterTrials.TestSupport
