import ClusterTrials.TestSupport.Shell.Pattern
import ClusterTrials.TestSupport.Shell.Session
/-!
# Test support: expanding words

The pieces of a word become marks: characters, of which some may split the word, and the places where it is
split anyway. From these come the fields, and from a field that is a pattern the paths that fit it.
-/

namespace ClusterTrials.TestSupport.Shell

inductive Mark
  | char (c : Char) (isQuoted isSplitting : Bool)
  /-- Makes a field be there even if it is empty. -/
  | presence
  /-- Ends one field and starts the next. -/
  | boundary
  deriving DecidableEq, Repr

def quotedMarks (text : Bytes) : List Mark := text.map (.char · true false)

def valueMarks (isQuoted splits : Bool) (text : Bytes) : List Mark :=
  if isQuoted then quotedMarks text else text.map (.char · false splits)

def markText (marks : List Mark) : Bytes :=
  marks.filterMap fun
    | .char c _ _ => some c
    | _ => none

def markPattern (marks : List Mark) : Pattern :=
  marks.filterMap fun
    | .char c isQuoted _ => some (c, isQuoted)
    | _ => none

abbrev Taking := Session → (script : Bytes) → (line : Nat) → Session × Bytes

namespace Session

/-! ## Pieces -/

def joint (shell : Session) : Bytes := shell.separators.take 1

def argumentMarks (shell : Session) (isList isQuoted splits : Bool) : List Mark :=
  let asFields (mark : Bytes → List Mark) : List Mark :=
    [Mark.boundary].intercalate (shell.arguments.map mark)
  if !splits then quotedMarks (joinedBy shell.joint shell.arguments)
  else if !isQuoted then asFields (valueMarks false true)
  else if isList then asFields fun text => .presence :: quotedMarks text
  else quotedMarks (joinedBy shell.joint shell.arguments)

def withoutNewlines (text : Bytes) : Bytes := (text.reverse.dropWhile (· = '\n')).reverse

def evaluate (shell : Session) (text : Bytes) : Session × Bytes :=
  let result := do
    (← Expression.ofText text).evaluate (fun name => (shell.valueOf? name).getD []) []
  match result with
  | .ok (value, assigned) =>
    (assigned.reverse.foldl (fun shell (name, value) => shell.assign name (toString value).toList) shell,
      (toString value).toList)
  | .error fault => (shell.fail (fault.message text), [])

mutual

/-- The marks of a piece. If `splits` is set, what is put in may split the word; if `isPut` is set, the
piece belongs to something that is put in. -/
def expandPiece (take : Taking) (splits isPut : Bool) : Piece → Session → Session × List Mark
  | .plain text, shell => (shell, text.map (.char · false (splits && isPut)))
  | .quoted text, shell => (shell, .presence :: quotedMarks text)
  | .output script line isQuoted, shell =>
    let (shell, text) := take shell script (line.getD 1)
    (shell, valueMarks isQuoted splits (withoutNewlines (text.filter (· ≠ '\x00'))))
  | .arithmetic expression isQuoted, shell =>
    let (shell, marks) := expandPieces take false false expression shell
    if shell.isStopped then (shell, [])
    else
      let (shell, text) := shell.evaluate (markText marks)
      (shell, valueMarks isQuoted splits text)
  | .parameter name use word isQuoted, shell =>
    let isAll := name = ['@'] || name = ['*']
    let value? := shell.parameter? name
    let trimmed (cut : Bytes → Bytes) : List Mark :=
      valueMarks isQuoted splits
        (cut (if isAll then joinedBy shell.joint shell.arguments else value?.getD []))
    let marksOf (text : Bytes) : List Mark :=
      if isAll then shell.argumentMarks (name = ['@']) isQuoted splits
      else valueMarks isQuoted splits text
    let isMissing (ifEmpty : Bool) : Bool := value?.all fun text => ifEmpty && text.isEmpty
    let own : Session × List Mark := (shell, marksOf (value?.getD []))
    let refuse (text : Bytes) : Session × List Mark := (shell.fail text, [])
    let isRefused := value?.isNone && shell.options.refuseUnset && !isAll
    match use with
    | .unknown => refuse (toBytes "Bad substitution")
    | .orElse ifEmpty => if isMissing ifEmpty then expandPieces take splits true word shell else own
    | .instead ifEmpty =>
      if isMissing ifEmpty then (shell, []) else expandPieces take splits true word shell
    | .orAssign ifEmpty =>
      if isMissing ifEmpty then
        let (shell, marks) := expandPieces take false false word shell
        if shell.isStopped then (shell, [])
        else if !isName name then (shell.fail (name ++ toBytes ": bad variable name"), [])
        else (shell.assign name (markText marks), valueMarks isQuoted splits (markText marks))
      else own
    | .orFail ifEmpty =>
      if isMissing ifEmpty then
        let (shell, marks) := expandPieces take false false word shell
        let reason :=
          if !word.isEmpty then markText marks
          else toBytes (if ifEmpty then "parameter not set or null" else "parameter not set")
        if shell.isStopped then (shell, []) else (shell.fail (name ++ toBytes ": " ++ reason), [])
      else own
    | .value => if isRefused then refuse (name ++ toBytes ": parameter not set") else own
    | .length =>
      if isRefused then refuse (name ++ toBytes ": parameter not set")
      else
        let value := if isAll then joinedBy shell.joint shell.arguments else value?.getD []
        (shell, valueMarks isQuoted splits (decimal value.length))
    | .withoutStart longest =>
      if isRefused then refuse (name ++ toBytes ": parameter not set")
      else
        let (shell, marks) := expandPieces take false false word shell
        (shell, trimmed ((markPattern marks).cutStart longest))
    | .withoutEnd longest =>
      if isRefused then refuse (name ++ toBytes ": parameter not set")
      else
        let (shell, marks) := expandPieces take false false word shell
        (shell, trimmed ((markPattern marks).cutEnd longest))

def expandPieces (take : Taking) (splits isPut : Bool) : List Piece → Session → Session × List Mark
  | [], shell => (shell, [])
  | piece :: rest, shell =>
    let (shell, marks) := expandPiece take splits isPut piece shell
    if shell.isStopped then (shell, [])
    else
      let (shell, more) := expandPieces take splits isPut rest shell
      (shell, marks ++ more)

end

/-- Puts the home directory in for a tilde that starts a text and is followed by what ends its part of a
path, or by the name of the one user that every system has. `isLast` tells whether nothing follows the text;
in a list, the parts between colons are taken one by one. -/
def homeParts (home? : Option Bytes) (inList isLast : Bool) (text : Bytes) : Word :=
  let parts := if inList then text.splitOn ':' else [text]
  let isEnd (rest : Bytes) (isLastPart : Bool) : Bool :=
    if rest.isEmpty then !isLastPart || isLast else rest.head? = some '/'
  let part (text : Bytes) (isLastPart : Bool) : Word :=
    match text with
    | '~' :: 'r' :: 'o' :: 'o' :: 't' :: rest =>
      if isEnd rest isLastPart then [.quoted "/root".toList, .plain rest] else [.plain text]
    | '~' :: rest =>
      match home? with
      | some home => if isEnd rest isLastPart then [.quoted home, .plain rest] else [.plain text]
      | none => [.plain text]
    | _ => [.plain text]
  [Piece.plain [':']].intercalate (parts.mapIdx fun place text => part text (place + 1 = parts.length))

def withHome (shell : Session) (inList : Bool) (word : Word) : Word :=
  let home? := shell.valueOf? "HOME".toList
  match word with
  | .plain text :: rest => homeParts home? inList rest.isEmpty text ++ rest
  | _ => word

def expandWhole (take : Taking) (shell : Session) (word : Word) : Session × Bytes :=
  let (shell, marks) := expandPieces take false false (shell.withHome false word) shell
  (shell, markText marks)

def expandValue (take : Taking) (shell : Session) (word : Word) : Session × Bytes :=
  let (shell, marks) := expandPieces take false false (shell.withHome true word) shell
  (shell, markText marks)

/-! ## Fields -/

/-- The fields that are complete, the last of them first, and the one that is being made. `mayGoOn` tells
that a blank has ended the last one, so that a separator behind it ends nothing more. -/
structure Fields where
  complete : List Pattern := []
  current : Option Pattern := none
  mayGoOn : Bool := false

namespace Fields

def finish (fields : Fields) (mayGoOn : Bool) : Fields :=
  { complete := fields.current.toList ++ fields.complete
    mayGoOn := mayGoOn && (fields.current.isSome || fields.mayGoOn) }

def add (separators : Bytes) (fields : Fields) : Mark → Fields
  | .presence => { fields with current := some (fields.current.getD []) }
  | .boundary => fields.finish false
  | .char c isQuoted isSplitting =>
    if isSplitting && c ∈ separators then
      if c ∈ [' ', '\t', '\n'] then fields.finish true
      else if fields.current.isSome then fields.finish false
      else if fields.mayGoOn then { fields with mayGoOn := false }
      else { fields with complete := [] :: fields.complete }
    else { fields with current := some ((c, isQuoted) :: fields.current.getD []), mayGoOn := false }

def ofMarks (separators : Bytes) (marks : List Mark) : List Pattern :=
  ((marks.foldl (add separators) {}).finish false).complete.reverse.map List.reverse

end Fields

/-! ## Paths -/

def patternParts (pattern : Pattern) : List Pattern :=
  pattern.foldr
    (fun c parts =>
      if c.1 = '/' then [] :: parts
      else match parts with
        | part :: parts => (c :: part) :: parts
        | [] => [[c]])
    [[]]

/-- The paths that start with the one given and go on along the patterns. Names that start with a dot fit only
patterns that do. -/
def pathsAlong (files : Files) : (start : Bytes) → List Pattern → List Bytes
  | start, [] => [start]
  | start, part :: parts =>
    let next (name : Bytes) : Bytes := start ++ name ++ (if parts.isEmpty then [] else ['/'])
    let isThere (path : Bytes) : Bool := (files.find? (toText path)).isSome
    if part.isOpen then
      let names := match files.follow (if start.isEmpty then "." else toText start) with
        | .ok directory => [['.'], ['.', '.']] ++ (files.namesBelow directory).map toBytes
        | .error _ => []
      let isHidden (name : Bytes) : Bool := name.head? = some '.' && part.head?.any (·.1 ≠ '.')
      let fitting := names.filter fun name => !isHidden name && part.holds name
      (fitting.filter fun name => parts.isEmpty || isThere (next name)).flatMap fun name =>
        pathsAlong files (next name) parts
    else
      let path := next (part.map (·.1))
      if parts.isEmpty && !part.isEmpty && !isThere path then [] else pathsAlong files path parts

def isAtMost (a b : Bytes) : Bool := !(List.lex b a (fun c d => c.toNat < d.toNat))

/-- The paths that fit a field, or the field itself if it is no pattern or none fit. -/
def paths (shell : Session) (field : Pattern) : List Bytes :=
  let text := field.map (·.1)
  if shell.options.keepPatterns || !field.isOpen then [text]
  else match pathsAlong shell.files [] (patternParts field) with
    | [] => [text]
    | found => found.mergeSort isAtMost

def expandAll (take : Taking) : Session → List Word → Session × List Bytes
  | shell, [] => (shell, [])
  | shell, word :: words =>
    let (shell, marks) := expandPieces take true false (shell.withHome false word) shell
    if shell.isStopped then (shell, [])
    else
      let fields := (Fields.ofMarks shell.separators marks).flatMap shell.paths
      let (shell, more) := expandAll take shell words
      (shell, fields ++ more)

def expandPattern (take : Taking) (shell : Session) (word : Word) : Session × Pattern :=
  let (shell, marks) := expandPieces take false false (shell.withHome false word) shell
  (shell, markPattern marks)

end Session

end ClusterTrials.TestSupport.Shell
