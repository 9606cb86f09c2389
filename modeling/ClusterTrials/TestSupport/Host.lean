import ClusterTrials.TestSupport.Shell.Run
/-!
# Test support: machines that run programs

A host is a tree of files and an environment. Running a program gives what it has left and the host
afterwards. Here every program ends: one that goes too deep is cut off.
-/

namespace ClusterTrials.TestSupport

open Process (Finished)

structure Host where
  files : Files := {}
  environment : List (String × List UInt8) := []
  deriving Repr

namespace Host

def deepestNesting : Nat := 100000

def searchPath (host : Host) : List String :=
  match host.environment.lookup "PATH" with
  | some path => (Text.decodeLossy path).splitOn ":"
  | none => usualSearchPath

def isInstalled (host : Host) (name : String) : Bool :=
  TestSupport.isInstalled host.files host.searchPath name

def session (host : Host) (name : String) : Shell.Session where
  files := host.files
  name := Shell.toBytes name
  assigned := host.environment.map fun (name, value) =>
    (Shell.toBytes name, { value := some (Shell.ofBytes value), isExported := true })

/-- Runs a program with arguments, in which no character may be the one that ends them for a process. -/
def run (host : Host) (name : String) (arguments : List String) : Except IoError (Finished × Host) := do
  if (name :: arguments).any fun word => '\x00' ∈ word.toList then throw .nulByte
  let program ← locate host.files host.searchPath name
  let shell := Shell.Session.execute deepestNesting (host.session name) program
    (arguments.map Shell.toBytes)
  return (
    { ending := shell.finalEnding
      stdout := Shell.bytesOf shell.out.reverse.flatten
      stderr := Shell.bytesOf shell.err.reverse.flatten },
    { host with files := { shell.files with workingDirectory := host.files.workingDirectory } })

end Host

end ClusterTrials.TestSupport
