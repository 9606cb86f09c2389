import ClusterTrials.Text.Quoted
/-!
# Failures of input and output

Each failure has a kind. It may also carry a text of its own, given when it was raised or by the
operating system together with a number.
-/

namespace ClusterTrials

inductive IoErrorKind
  | notFound
  | permissionDenied
  | connectionRefused
  | connectionReset
  | timedOut
  | brokenPipe
  | unexpectedEof
  | invalidInput
  | invalidData
  | isADirectory
  | notADirectory
  | writeZero
  | interrupted
  | invalidFilename
  | filesystemLoop
  | uncategorized
  | other
  deriving DecidableEq, Repr

namespace IoErrorKind

def name : IoErrorKind → String
  | .notFound => "NotFound"
  | .permissionDenied => "PermissionDenied"
  | .connectionRefused => "ConnectionRefused"
  | .connectionReset => "ConnectionReset"
  | .timedOut => "TimedOut"
  | .brokenPipe => "BrokenPipe"
  | .unexpectedEof => "UnexpectedEof"
  | .invalidInput => "InvalidInput"
  | .invalidData => "InvalidData"
  | .isADirectory => "IsADirectory"
  | .notADirectory => "NotADirectory"
  | .writeZero => "WriteZero"
  | .interrupted => "Interrupted"
  | .invalidFilename => "InvalidFilename"
  | .filesystemLoop => "FilesystemLoop"
  | .uncategorized => "Uncategorized"
  | .other => "Other"

def words : IoErrorKind → String
  | .notFound => "entity not found"
  | .permissionDenied => "permission denied"
  | .connectionRefused => "connection refused"
  | .connectionReset => "connection reset"
  | .timedOut => "timed out"
  | .brokenPipe => "broken pipe"
  | .unexpectedEof => "unexpected end of file"
  | .invalidInput => "invalid input parameter"
  | .invalidData => "invalid data"
  | .isADirectory => "is a directory"
  | .notADirectory => "not a directory"
  | .writeZero => "write zero"
  | .interrupted => "operation interrupted"
  | .invalidFilename => "invalid filename"
  | .filesystemLoop => "filesystem loop or indirection limit (e.g. symlink loop)"
  | .uncategorized => "uncategorized error"
  | .other => "other error"

end IoErrorKind

inductive IoError
  /-- Nothing is known but the kind. -/
  | bare (kind : IoErrorKind)
  /-- Raised with a text of its own. -/
  | raised (kind : IoErrorKind) (text : String)
  /-- Raised with one of the fixed texts. -/
  | fixed (kind : IoErrorKind) (text : String)
  /-- Reported by the operating system under a number. -/
  | system (code : Nat) (kind : IoErrorKind) (text : String)
  deriving DecidableEq, Repr

namespace IoError

def kind : IoError → IoErrorKind
  | .bare kind => kind
  | .raised kind _ => kind
  | .fixed kind _ => kind
  | .system _ kind _ => kind

def message : IoError → String
  | .bare kind => kind.words
  | .raised _ text => text
  | .fixed _ text => text
  | .system code _ text => s!"{text} (os error {code})"

def describe : IoError → String
  | .bare kind => "Kind(" ++ kind.name ++ ")"
  | .raised kind text => Text.record "Custom" [("kind", kind.name), ("error", Text.quoted text)]
  | .fixed kind text => Text.record "Error" [("kind", kind.name), ("message", Text.quoted text)]
  | .system code kind text =>
    Text.record "Os" [("code", toString code), ("kind", kind.name), ("message", Text.quoted text)]

def noSuchFile : IoError := .system 2 .notFound "No such file or directory"

def notExecutable : IoError := .system 8 .uncategorized "Exec format error"

def accessDenied : IoError := .system 13 .permissionDenied "Permission denied"

def notDirectory : IoError := .system 20 .notADirectory "Not a directory"

def directory : IoError := .system 21 .isADirectory "Is a directory"

def nameTooLong : IoError := .system 36 .invalidFilename "File name too long"

def tooManyLevels : IoError := .system 40 .filesystemLoop "Too many levels of symbolic links"

def notUtf8 : IoError := .fixed .invalidData "stream did not contain valid UTF-8"

def nulByte : IoError := .fixed .invalidInput "nul byte found in provided data"

end IoError

end ClusterTrials
