import ClusterTrials.CommandLine.Usage
/-!
# What the program says about its use
-/

namespace ClusterTrials.CommandLine

def programName : String := "sdk-testing"

def programVersion : String := programName ++ " 0.1.0\n"

def usage : String := "\n".intercalate [
  "Usage: " ++ programName ++ " [-v]... [-q] [-c FILE] COMMAND",
  "",
  "  agents [--json]",
  "      List the private agents of the cluster",
  "  gc-frameworks [-a HOST]... [--frameworks-glob GLOB] [--dry-run]",
  "      Remove what frameworks have left on the private agents",
  "  retry [-a COUNT] [-s SECONDS] PROGRAM [ARGUMENT]...",
  "      Run a program until it succeeds",
  "  config show [--json]",
  "      Show the settings in effect",
  ""]

namespace UsageFault

def message : UsageFault → String
  | .unknownFlag => "unknown flag"
  | .unknownCommand => "unknown command"
  | .repeated => "a flag is given twice"
  | .valueMissing => "a flag lacks its value"
  | .valueUnwanted => "a flag takes no value"
  | .valueInvalid => "a value is not of the kind that the flag takes"
  | .notText => "a word is not text"
  | .nothingGiven | .commandMissing => "a command is missing"
  | .wordsMissing => "the program to run is missing"
  | .helpAsked => "help is asked for"
  | .versionAsked => "the version is asked for"

def answer : UsageFault → String
  | .helpAsked => usage
  | .versionAsked => programVersion
  | _ => ""

def complaint (fault : UsageFault) : String :=
  if fault.exitCode = 0 then "" else "error: " ++ fault.message ++ "\n\n" ++ usage

end UsageFault

end ClusterTrials.CommandLine
