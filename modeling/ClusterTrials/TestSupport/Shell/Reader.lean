import ClusterTrials.TestSupport.Shell.Lexer
/-!
# Test support: from tokens to scripts

Reserved words are recognized where a command may start. A text is read command by command, so that what
comes first has run before the rest is found to be no script. `fuel` bounds how deep the readers call each
other.
-/

namespace ClusterTrials.TestSupport.Shell

def reservedWords : List String :=
  ["!", "case", "do", "done", "elif", "else", "esac", "fi", "for", "if", "in", "then", "until", "while",
    "\x7b", "\x7d"]

/-- The commands of the shell itself that are special: no function takes their place, and a mistake in one of
them ends the shell. -/
def specialNames : List String :=
  ["break", ":", "continue", ".", "eval", "exec", "exit", "export", "readonly", "return", "set", "shift",
    "times", "trap", "unset", "local"]

def keyword? : Token → Option String
  | .word [.plain text] => (some (String.ofList text)).filter (· ∈ reservedWords)
  | _ => none

def endsList : Token → Bool
  | .branchEnd | .closeParen => true
  | token => (keyword? token).any (· ∈ ["do", "done", "elif", "else", "esac", "fi", "then", "\x7d"])

def Token.name (atCommand : Bool) : Token → String
  | .newline => "newline"
  | .semicolon => "\";\""
  | .background => "\"&\""
  | .branchEnd => "\";;\""
  | .andThen => "\"&&\""
  | .orElse => "\"||\""
  | .pipe => "\"|\""
  | .openParen => "\"(\""
  | .closeParen => "\")\""
  | .redirect .. => "redirection"
  | .fault _ => ""
  | token =>
    match if atCommand then keyword? token else none with
    | some reserved => "\"" ++ reserved ++ "\""
    | none => "word"

structure Tokens where
  left : List Placed
  lastLine : Nat

namespace Tokens

def unexpected (tokens : Tokens) (expected : String) (atCommand : Bool) : SyntaxFault :=
  let expectation := if expected = "" then "" else " (expecting " ++ expected ++ ")"
  match tokens.left with
  | [] => { line := tokens.lastLine, message := "end of file unexpected" ++ expectation }
  | ⟨.fault fault, _⟩ :: _ => fault
  | ⟨token, line⟩ :: _ => { line, message := token.name atCommand ++ " unexpected" ++ expectation }

def line (tokens : Tokens) : Nat := (tokens.left.head?.map (·.line)).getD tokens.lastLine

def next? (tokens : Tokens) : Option Token := tokens.left.head?.map (·.token)

def rest (tokens : Tokens) : Tokens := { tokens with left := tokens.left.drop 1 }

def skipNewlines (tokens : Tokens) : Tokens :=
  { tokens with left := tokens.left.dropWhile (·.token matches .newline) }

def keyword? (tokens : Tokens) : Option String := tokens.next?.bind Shell.keyword?

def expect (name : String) (tokens : Tokens) : Except SyntaxFault Tokens :=
  if tokens.keyword? = some name then .ok tokens.rest
  else .error (tokens.unexpected ("\"" ++ name ++ "\"") true)

end Tokens

abbrev Reading := Except SyntaxFault (Script × Tokens)

def assignment? : Word → Option (Bytes × Word)
  | .plain text :: rest =>
    let name := text.takeWhile isNamePart
    match text.drop name.length with
    | '=' :: value =>
      if isName name then some (name, if value.isEmpty then rest else .plain value :: rest) else none
    | _ => none
  | _ => none

def readRedirection? (tokens : Tokens) : Except SyntaxFault (Option (Redirection × Tokens)) :=
  match tokens.left with
  | ⟨.redirect descriptor .document text, _⟩ :: left =>
    .ok (some (⟨descriptor, .document, text⟩, { tokens with left }))
  | ⟨.redirect descriptor mode _, _⟩ :: ⟨.word target, _⟩ :: left =>
    .ok (some (⟨descriptor, mode, target⟩, { tokens with left }))
  | ⟨.redirect .., _⟩ :: left => .error (Tokens.unexpected { tokens with left } "" false)
  | _ => .ok none

def readRedirections : (fuel : Nat) → Tokens → Except SyntaxFault (List Redirection × Tokens)
  | 0, tokens => .ok ([], tokens)
  | fuel + 1, tokens => do
    match ← readRedirection? tokens with
    | some (redirection, tokens) =>
      let (more, tokens) ← readRedirections fuel tokens
      return (redirection :: more, tokens)
    | none => return ([], tokens)

structure SimpleParts where
  assignments : List (Bytes × Word) := []
  words : List Word := []
  redirections : List Redirection := []

def readSimple : (fuel : Nat) → SimpleParts → Tokens → Except SyntaxFault (SimpleParts × Tokens)
  | 0, parts, tokens => .ok (parts, tokens)
  | fuel + 1, parts, tokens => do
    match ← readRedirection? tokens with
    | some (redirection, tokens) =>
      readSimple fuel { parts with redirections := parts.redirections ++ [redirection] } tokens
    | none =>
      match tokens.next? with
      | some (.word word) =>
        match if parts.words.isEmpty then assignment? word else none with
        | some entry =>
          readSimple fuel { parts with assignments := parts.assignments ++ [entry] } tokens.rest
        | none => readSimple fuel { parts with words := parts.words ++ [word] } tokens.rest
      | _ => return (parts, tokens)

def readItems : List Placed → List Word × List Placed
  | ⟨.word word, _⟩ :: rest =>
    let (more, rest) := readItems rest
    (word :: more, rest)
  | tokens => ([], tokens)

def readPatterns : (fuel : Nat) → Tokens → Except SyntaxFault (List Word × Tokens)
  | 0, tokens => .error (tokens.unexpected "\")\"" false)
  | fuel + 1, tokens => do
    let word ← match tokens.next? with
      | some (.word word) => pure word
      | some (.fault fault) => throw fault
      | _ => pure []
    let after := tokens.rest
    match after.next? with
    | some .pipe =>
      let (more, left) ← readPatterns fuel after.rest
      return (word :: more, left)
    | some .closeParen => return ([word], after.rest)
    | _ => throw (after.unexpected "\")\"" false)

mutual

def readList : (fuel : Nat) → (mayBeEmpty : Bool) → Tokens → Reading
  | 0, _, tokens => .error (tokens.unexpected "" true)
  | fuel + 1, mayBeEmpty, tokens => do
    let tokens := tokens.skipNewlines
    if tokens.left.isEmpty || (mayBeEmpty && tokens.next?.any endsList) then return (.nothing, tokens)
    let (first, tokens) ← readChain fuel tokens
    let goOn (first : Script) : Reading := do
      let (second, tokens) ← readList fuel true tokens.rest
      match second with
      | .nothing => return (first, tokens)
      | _ => return (.sequence first second, tokens)
    match tokens.next? with
    | some .newline | some .semicolon => goOn first
    | some .background => goOn (.aside first)
    | _ => return (first, tokens)

def readChain : (fuel : Nat) → Tokens → Reading
  | 0, tokens => .error (tokens.unexpected "" true)
  | fuel + 1, tokens => do
    let (first, tokens) ← readNegation fuel tokens
    readChainFrom fuel first tokens

def readChainFrom : (fuel : Nat) → Script → Tokens → Reading
  | 0, _, tokens => .error (tokens.unexpected "" true)
  | fuel + 1, first, tokens =>
    let goOn (ifSuccess : Bool) : Reading := do
      let (second, tokens) ← readNegation fuel tokens.rest.skipNewlines
      readChainFrom fuel (.next ifSuccess first second) tokens
    match tokens.next? with
    | some .andThen => goOn true
    | some .orElse => goOn false
    | _ => .ok (first, tokens)

def readNegation : (fuel : Nat) → Tokens → Reading
  | 0, tokens => .error (tokens.unexpected "" true)
  | fuel + 1, tokens =>
    if tokens.keyword? = some "!" then do
      let (script, tokens) ← readPipe fuel tokens.rest
      return (.negation script, tokens)
    else readPipe fuel tokens

def readPipe : (fuel : Nat) → Tokens → Reading
  | 0, tokens => .error (tokens.unexpected "" true)
  | fuel + 1, tokens => do
    let (first, tokens) ← readCommand fuel tokens
    match tokens.next? with
    | some .pipe =>
      let (second, tokens) ← readPipe fuel tokens.rest.skipNewlines
      return (.pipe first second, tokens)
    | _ => return (first, tokens)

def readCommand : (fuel : Nat) → Tokens → Reading
  | 0, tokens => .error (tokens.unexpected "" true)
  | fuel + 1, tokens => do
    let line := tokens.line
    let finish (script : Script) (tokens : Tokens) : Reading := do
      let (redirections, tokens) ← readRedirections fuel tokens
      return (if redirections.isEmpty then script else .redirected line script redirections, tokens)
    match tokens.next? with
    | some .openParen =>
      let (script, tokens) ← readList fuel false tokens.rest
      match tokens.next? with
      | some .closeParen => finish (.subshell line script) tokens.rest
      | _ => throw (tokens.unexpected "\")\"" true)
    | some (.redirect ..) => readPlain fuel tokens
    | some (.word word) =>
      match Shell.keyword? (.word word) with
      | some "for" => do
        let (script, tokens) ← readFor fuel line tokens.rest
        finish script tokens
      | some "case" =>
        match tokens.rest.next? with
        | some (.word subject) =>
          let (branches, tokens) ← readBranches fuel (← tokens.rest.rest.skipNewlines.expect "in")
          finish (.choice line subject branches) tokens
        | _ => throw (tokens.rest.unexpected "word" false)
      | some "if" => do
        let (script, tokens) ← readConditional fuel tokens.rest
        finish script tokens
      | some "while" => do
        let (condition, tokens) ← readList fuel false tokens.rest
        let (body, tokens) ← readBody fuel tokens
        finish (.loop true condition body) tokens
      | some "until" => do
        let (condition, tokens) ← readList fuel false tokens.rest
        let (body, tokens) ← readBody fuel tokens
        finish (.loop false condition body) tokens
      | some "\x7b" =>
        let (script, tokens) ← readList fuel false tokens.rest
        finish script (← tokens.expect "\x7d")
      | some _ => throw (tokens.unexpected "" true)
      | none => readPlain fuel tokens
    | _ => throw (tokens.unexpected "" true)

def readPlain : (fuel : Nat) → Tokens → Reading
  | 0, tokens => .error (tokens.unexpected "" true)
  | fuel + 1, tokens => do
    let line := tokens.line
    let (parts, after) ← readSimple (tokens.left.length + 1) {} tokens
    let isDefinition := parts.words.length = 1 && parts.assignments.isEmpty &&
      parts.redirections.isEmpty && (after.next? matches some .openParen)
    if isDefinition then
      match after.rest.next?, parts.words with
      | some .closeParen, [[.plain name]] =>
        if !isName name || String.ofList name ∈ specialNames then
          throw { line := after.line, message := "Bad function name" }
        let (body, tokens) ← readCommand fuel after.rest.rest.skipNewlines
        return (.definition name body, tokens)
      | some .closeParen, _ => throw { line := after.line, message := "Bad function name" }
      | _, _ => throw (after.rest.unexpected "\")\"" false)
    else return (.simple line parts.assignments parts.words parts.redirections, after)

def readBody : (fuel : Nat) → Tokens → Reading
  | 0, tokens => .error (tokens.unexpected "" true)
  | fuel + 1, tokens => do
    let (body, tokens) ← readList fuel false (← tokens.expect "do")
    return (body, ← tokens.expect "done")

def readFor : (fuel line : Nat) → Tokens → Reading
  | 0, _, tokens => .error (tokens.unexpected "" true)
  | fuel + 1, line, tokens =>
    match tokens.next? with
    | some (.word [.plain name]) => do
      if !isName name then throw { line := tokens.line, message := "Bad for loop variable" }
      let tokens := tokens.rest.skipNewlines
      if tokens.keyword? = some "in" then
        let (items, left) := readItems tokens.rest.left
        let tokens := { tokens with left }
        match tokens.next? with
        | some .newline | some .semicolon =>
          let (body, tokens) ← readBody fuel tokens.rest.skipNewlines
          return (.forEach line name (some items) body, tokens)
        | _ => throw (tokens.unexpected "" false)
      else
        let tokens := if tokens.next? matches some .semicolon then tokens.rest else tokens
        let (body, tokens) ← readBody fuel tokens.skipNewlines
        return (.forEach line name none body, tokens)
    | _ => throw { line := tokens.line, message := "Bad for loop variable" }

def readConditional : (fuel : Nat) → Tokens → Reading
  | 0, tokens => .error (tokens.unexpected "" true)
  | fuel + 1, tokens => do
    let (condition, tokens) ← readList fuel false tokens
    let (yes, tokens) ← readList fuel false (← tokens.expect "then")
    if tokens.keyword? = some "elif" then
      let (no, tokens) ← readConditional fuel tokens.rest
      return (.conditional condition yes no, tokens)
    else if tokens.keyword? = some "else" then
      let (no, tokens) ← readList fuel false tokens.rest
      return (.conditional condition yes no, ← tokens.expect "fi")
    else return (.conditional condition yes .nothing, ← tokens.expect "fi")

def readBranches : (fuel : Nat) → Tokens → Except SyntaxFault (List (List Word × Script) × Tokens)
  | 0, tokens => .error (tokens.unexpected "" true)
  | fuel + 1, tokens => do
    let tokens := tokens.skipNewlines
    if tokens.keyword? = some "esac" then return ([], tokens.rest)
    let tokens := if tokens.next? matches some .openParen then tokens.rest else tokens
    let (patterns, tokens) ← readPatterns (tokens.left.length + 1) tokens
    let (script, tokens) ← readList fuel true tokens
    let tokens := tokens.skipNewlines
    if tokens.keyword? = some "esac" then return ([(patterns, script)], tokens.rest)
    match tokens.next? with
    | some .branchEnd =>
      let (more, tokens) ← readBranches fuel tokens.rest
      return ((patterns, script) :: more, tokens)
    | _ => throw (tokens.unexpected "\";;\"" true)

end

/-- The commands up to the end of the line, without the separator there. Otherwise something is expected. -/
def readLine (expected : String) : (fuel : Nat) → Tokens → Reading
  | 0, tokens => .error (tokens.unexpected "" true)
  | fuel + 1, tokens => do
    if tokens.left.isEmpty then return (.nothing, tokens)
    if tokens.next?.any endsList then throw (tokens.unexpected expected true)
    let (first, tokens) ← readChain (8 * tokens.left.length + 16) tokens
    let goOn (first : Script) : Reading :=
      match tokens.rest.next? with
      | none | some .newline => .ok (first, tokens.rest)
      | _ => do
        let (second, tokens) ← readLine expected fuel tokens.rest
        return (.sequence first second, tokens)
    match tokens.next? with
    | none | some .newline => return (first, tokens)
    | some .semicolon => goOn first
    | some .background => goOn (.aside first)
    | _ => throw (tokens.unexpected expected true)

def readCommandLine (expected : String) (tokens : Tokens) : Except SyntaxFault (Script × Bool × Tokens) := do
  let (script, tokens) ← readLine expected (tokens.left.length + 1) tokens
  return (script, tokens.left.isEmpty, tokens.rest)

/-! ## Scripts within words -/

mutual

/-- The scripts that a piece holds, and the lines that they start on if they are counted on. -/
def Piece.scripts : Piece → List (Bytes × Option Nat)
  | .output script line _ => [(script, line)]
  | .parameter _ _ word _ => scriptsIn word
  | .arithmetic expression _ => scriptsIn expression
  | .plain _ | .quoted _ => []

def scriptsIn : List Piece → List (Bytes × Option Nat)
  | [] => []
  | piece :: rest => piece.scripts ++ scriptsIn rest

end

/-- What is told about the fault of a script within parentheses: that they are closed too early. -/
def SyntaxFault.inParentheses (fault : SyntaxFault) : SyntaxFault :=
  let missing := "end of file unexpected"
  if fault.message.startsWith missing then
    { fault with message := "\")\" unexpected" ++ (fault.message.drop missing.length).toString }
  else fault

mutual

/-- The tokens of a text that starts on a line. A word whose script makes no sense makes none itself. -/
def checkedTokens : (fuel line : Nat) → Bytes → Tokens
  | 0, line, _ => { left := [], lastLine := line }
  | fuel + 1, line, text =>
    let (placed, lastLine) := tokensOf line text
    let checkWord (word : Word) : Option SyntaxFault :=
      (scriptsIn word).findSome? fun (script, line) =>
        let fault? := scriptFault? fuel (if line.isSome then "\")\"" else "")
          (checkedTokens fuel (line.getD 1) script)
        if line.isSome then fault?.map (·.inParentheses) else fault?
    let check : Token → Option SyntaxFault
      | .word word | .redirect _ _ word => checkWord word
      | .fault fault =>
        fault.within.bind fun (script, line) => scriptFault? fuel "\")\"" (checkedTokens fuel line script)
      | _ => none
    let left := placed.map fun token =>
      ((check token.token).map fun fault => ⟨.fault fault, fault.line⟩).getD token
    { left, lastLine }

def scriptFault? : (fuel : Nat) → (expected : String) → Tokens → Option SyntaxFault
  | 0, _, _ => none
  | fuel + 1, expected, tokens =>
    let tokens := tokens.skipNewlines
    if tokens.left.isEmpty then none
    else match readCommandLine expected tokens with
      | .error fault => some fault
      | .ok (_, _, rest) => scriptFault? fuel expected rest

end

end ClusterTrials.TestSupport.Shell
