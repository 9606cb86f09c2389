import ClusterTrials.TestSupport.Shell.Script
/-!
# Test support: words and operators of a script

The text is read from the left. A token is placed on the line that the text is at behind it; `lastLine` is
the one at the end of the text. `fuel` is no less than the length of the rest.
-/

namespace ClusterTrials.TestSupport.Shell

inductive Token
  | word (word : Word)
  | newline
  | semicolon
  | background
  | branchEnd
  | andThen
  | orElse
  | pipe
  | openParen
  | closeParen
  /-- The word that comes next is its target, unless it reads a text of the script, which is put in. -/
  | redirect (descriptor : Nat) (mode : RedirectMode) (document : Word)
  /-- Here the text stops making sense. -/
  | fault (fault : SyntaxFault)

structure Placed where
  token : Token
  line : Nat

def graveAccent : Char := '\x60'

def lineCount (text : Bytes) : Nat := text.countP (· = '\n')

def lineAt (lastLine : Nat) (rest : Bytes) : Nat := lastLine - lineCount rest

/-! ## Substitutions -/

def isWordEnd (c : Char) : Bool := c ∈ [' ', '\t', '\n', ';', '&', '|', '<', '>', '(', ')']

/-- The text up to the parenthesis that closes a script, and what follows. For each open parenthesis `choices`
tells how many choices stand open in it, whose branches have a parenthesis of their own. -/
def closeScript : (fuel : Nat) → (choices : List Nat) → (atStart : Bool) → Bytes → Option (Bytes × Bytes)
  | 0, _, _, _ => none
  | fuel + 1, choices, atStart, text =>
    let goOn (choices : List Nat) (atStart : Bool) (taken rest : Bytes) : Option (Bytes × Bytes) :=
      (closeScript fuel choices atStart rest).map fun (inner, after) => (taken ++ inner, after)
    match text with
    | [] => none
    | '\\' :: c :: rest => goOn choices false ['\\', c] rest
    | '(' :: rest => goOn (0 :: choices) true ['('] rest
    | ')' :: rest =>
      match choices with
      | 0 :: [] | [] => some ([], rest)
      | 0 :: choices => goOn choices false [')'] rest
      | choices => goOn choices true [')'] rest
    | '#' :: rest =>
      let comment := if atStart then rest.takeWhile (· ≠ '\n') else []
      goOn choices false ('#' :: comment) (rest.drop comment.length)
    | c :: rest =>
      if c = '\'' || c = '"' || c = graveAccent then
        let length :=
          if c = '\'' then (rest.takeWhile (· ≠ '\'')).length + 1
          else quotedLength (rest.length + 1) c rest
        goOn choices false (c :: rest.take length) (rest.drop length)
      else if isWordEnd c then goOn choices true [c] rest
      else if atStart then
        let word := text.takeWhile fun c => c.isAlpha
        let isWhole := ((text.drop word.length).head?).all isWordEnd
        let choices := match choices with
          | count :: outer =>
            if isWhole && word = "case".toList then (count + 1) :: outer
            else if isWhole && word = "esac".toList then (count - 1) :: outer
            else choices
          | [] => []
        if word.isEmpty then goOn choices false [c] rest
        else goOn choices false word (text.drop word.length)
      else goOn choices false [c] rest
where
  /-- The length of what stands between quotes, with the closing one. -/
  quotedLength : Nat → Char → Bytes → Nat
    | 0, _, _ => 0
    | fuel + 1, quote, text =>
      match text with
      | [] => 0
      | '\\' :: _ :: rest => 2 + quotedLength fuel quote rest
      | c :: rest => if c = quote then 1 else 1 + quotedLength fuel quote rest

def closeExpression : (depth : Nat) → Bytes → Option (Bytes × Bytes)
  | _, [] => none
  | 0, ')' :: ')' :: rest => some ([], rest)
  | depth, '(' :: rest =>
    (closeExpression (depth + 1) rest).map fun (inner, after) => ('(' :: inner, after)
  | depth, ')' :: rest =>
    (closeExpression (depth - 1) rest).map fun (inner, after) => (')' :: inner, after)
  | depth, c :: rest => (closeExpression depth rest).map fun (inner, after) => (c :: inner, after)

/-- The script between grave accents, without the backslashes that protect it, and what follows. -/
def closeGrave (isQuoted : Bool) : Bytes → Option (Bytes × Bytes)
  | [] => none
  | '\\' :: c :: rest =>
    let isProtected := c ∈ ['$', '\\', graveAccent] || (isQuoted && c = '"')
    (closeGrave isQuoted rest).map fun (inner, after) =>
      (if isProtected then c :: inner else '\\' :: c :: inner, after)
  | c :: rest =>
    if c = graveAccent then some ([], rest)
    else (closeGrave isQuoted rest).map fun (inner, after) => (c :: inner, after)

def isSpecial (c : Char) : Bool := c ∈ ['@', '*', '#', '?', '-', '$', '!', '0']

def readParameterName (text : Bytes) : Bytes × Bytes :=
  let name := match text with
    | c :: _ =>
      if isNameStart c then text.takeWhile isNamePart
      else if c.isDigit then text.takeWhile Char.isDigit
      else if isSpecial c then [c]
      else []
    | [] => []
  (name, text.drop name.length)

def readParameterUse : Bytes → ParameterUse × Bytes
  | ':' :: '-' :: rest => (.orElse true, rest)
  | '-' :: rest => (.orElse false, rest)
  | ':' :: '=' :: rest => (.orAssign true, rest)
  | '=' :: rest => (.orAssign false, rest)
  | ':' :: '?' :: rest => (.orFail true, rest)
  | '?' :: rest => (.orFail false, rest)
  | ':' :: '+' :: rest => (.instead true, rest)
  | '+' :: rest => (.instead false, rest)
  | '%' :: '%' :: rest => (.withoutEnd true, rest)
  | '%' :: rest => (.withoutEnd false, rest)
  | '#' :: '#' :: rest => (.withoutStart true, rest)
  | '#' :: rest => (.withoutStart false, rest)
  | '\x7d' :: rest => (.value, '\x7d' :: rest)
  | ':' :: _ :: rest => (.unknown, rest)
  | _ :: rest => (.unknown, rest)
  | [] => (.unknown, [])

/-! ## Words -/

inductive Surround
  | bare
  | doubleQuotes
  | braces (isQuoted : Bool)
  /-- A text without an end of its own, in which double quotes mean nothing. -/
  | document
  deriving DecidableEq, Repr

def Surround.isQuoted : Surround → Bool
  | .bare | .braces false => false
  | _ => true

def consText (isQuoted : Bool) (c : Char) : Word → Word
  | .plain more :: word => if isQuoted then .quoted [c] :: .plain more :: word else .plain (c :: more) :: word
  | .quoted (d :: more) :: word =>
    if isQuoted then .quoted (c :: d :: more) :: word else .plain [c] :: .quoted (d :: more) :: word
  | word => (if isQuoted then .quoted [c] else .plain [c]) :: word

/-- A word in double quotes, which is there even if it is empty, unless it stands for all arguments. -/
def quotedWord (inner : Word) : Word :=
  let isList := inner.any fun
    | .parameter ['@'] _ _ _ => true
    | _ => false
  if isList then inner else .quoted [] :: inner

mutual

def readDollar (lastLine : Nat) :
    (fuel : Nat) → (isQuoted : Bool) → Bytes → Except SyntaxFault (Piece × Bytes)
  | 0, _, _ => .error { line := lastLine, message := "" }
  | fuel + 1, isQuoted, text =>
    match text with
    | '(' :: '(' :: rest =>
      match closeExpression 0 rest with
      | some (inner, after) => do
        let (pieces, _) ← readPieces lastLine fuel .document inner
        return (.arithmetic pieces isQuoted, after)
      | none => throw { line := lastLine, message := "Missing '))'" }
    | '(' :: rest =>
      match closeScript (rest.length + 1) [0] true rest with
      | some (inner, after) => return (.output inner (some (lineAt lastLine rest)) isQuoted, after)
      | none =>
        throw ⟨lastLine, "end of file unexpected (expecting \")\")", some (rest, lineAt lastLine rest)⟩
    | '\x7b' :: '#' :: rest =>
      let (name, after) := readParameterName rest
      match name, after with
      | _ :: _, '\x7d' :: after => return (.parameter name .length [] isQuoted, after)
      | _, _ => readBraces lastLine fuel isQuoted ('#' :: rest)
    | '\x7b' :: rest => readBraces lastLine fuel isQuoted rest
    | c :: rest =>
      if isNameStart c then
        let more := rest.takeWhile isNamePart
        return (.parameter (c :: more) .value [] isQuoted, rest.drop more.length)
      else if c.isDigit || isSpecial c then return (.parameter [c] .value [] isQuoted, rest)
      else return (.quoted ['$'], c :: rest)
    | [] => return (.quoted ['$'], [])

def readBraces (lastLine : Nat) :
    (fuel : Nat) → (isQuoted : Bool) → Bytes → Except SyntaxFault (Piece × Bytes)
  | 0, _, _ => .error { line := lastLine, message := "" }
  | fuel + 1, isQuoted, text => do
    let (name, behind) := readParameterName text
    let (use, rest) := readParameterUse behind
    let isTrimming := use matches .withoutStart _ | .withoutEnd _
    let overlooked := lineCount behind - lineCount rest
    let (word, rest) ← readPieces (lastLine - overlooked) fuel (.braces (isQuoted && !isTrimming)) rest
    return (.parameter name (if name.isEmpty then .unknown else use) word isQuoted, rest)

def readPieces (lastLine : Nat) : (fuel : Nat) → Surround → Bytes → Except SyntaxFault (Word × Bytes)
  | 0, _, _ => .error { line := lastLine, message := "" }
  | fuel + 1, around, text =>
    let isQuoted := around.isQuoted
    let goOn (piece : Piece) (rest : Bytes) : Except SyntaxFault (Word × Bytes) := do
      let (word, rest) ← readPieces lastLine fuel around rest
      return (piece :: word, rest)
    let goOnText (c : Char) (isQuoted : Bool) (rest : Bytes) : Except SyntaxFault (Word × Bytes) := do
      let (word, rest) ← readPieces lastLine fuel around rest
      return (consText isQuoted c word, rest)
    match text with
    | [] =>
      match around with
      | .doubleQuotes | .braces true => throw { line := lastLine, message := "Unterminated quoted string" }
      | .braces false => throw { line := lastLine, message := "Missing '\x7d'" }
      | _ => return ([], [])
    | '\\' :: '\n' :: rest => readPieces lastLine fuel around rest
    | '\\' :: c :: rest =>
      let isEscape := !isQuoted || c ∈ ['$', '\\', graveAccent] ||
        (c = '"' && around ≠ .document) || (c = '\x7d' && around = .braces true)
      if isEscape then goOnText c true rest else goOnText '\\' true (c :: rest)
    | '\'' :: rest =>
      if isQuoted then goOnText '\'' true rest
      else
        let inner := rest.takeWhile (· ≠ '\'')
        match rest.drop inner.length with
        | _ :: after => goOn (.quoted inner) after
        | [] => throw { line := lastLine, message := "Unterminated quoted string" }
    | '"' :: rest =>
      match around with
      | .doubleQuotes => return ([], rest)
      | .document => goOnText '"' true rest
      | _ => do
        let (inner, rest) ← readPieces lastLine fuel .doubleQuotes rest
        let (word, rest) ← readPieces lastLine fuel around rest
        return (quotedWord inner ++ word, rest)
    | '$' :: rest => do
      let (piece, rest) ← readDollar lastLine fuel isQuoted rest
      goOn piece rest
    | c :: rest =>
      if c = graveAccent then
        match closeGrave isQuoted rest with
        | some (inner, after) => goOn (.output inner none isQuoted) after
        | none => throw { line := lastLine, message := "EOF in backquote substitution" }
      else if around = .bare && isWordEnd c then return ([], c :: rest)
      else if c = '\x7d' && (around matches .braces _) then return ([], rest)
      else goOnText c isQuoted rest

end

/-! ## Tokens -/

/-- A redirection without its descriptor, and whether the tabs before a text of the script are left out. -/
def readRedirect : Bytes → Option (Nat × RedirectMode × Bool × Bytes)
  | '>' :: '>' :: rest => some (1, .append, false, rest)
  | '>' :: '&' :: rest => some (1, .copyOut, false, rest)
  | '>' :: '|' :: rest => some (1, .clobber, false, rest)
  | '>' :: rest => some (1, .truncate, false, rest)
  | '<' :: '<' :: '-' :: rest => some (0, .document, true, rest)
  | '<' :: '<' :: rest => some (0, .document, false, rest)
  | '<' :: '&' :: rest => some (0, .copyIn, false, rest)
  | '<' :: '>' :: rest | '<' :: rest => some (0, .read, false, rest)
  | _ => none

structure Awaited where
  delimiter : Bytes
  isLiteral : Bool
  dropsTabs : Bool

def Awaited.ofWord (word : Word) (dropsTabs : Bool) : Awaited where
  delimiter := word.flatMap fun
    | .plain text | .quoted text => text
    | _ => []
  isLiteral := word.any fun
    | .quoted _ => true
    | _ => false
  dropsTabs := dropsTabs

def Awaited.lines (awaited : Awaited) : (fuel : Nat) → Bytes → Bytes × Bytes
  | 0, text => ([], text)
  | fuel + 1, text =>
    let line := text.takeWhile (· ≠ '\n')
    let rest := text.drop (line.length + 1)
    let line := if awaited.dropsTabs then line.dropWhile (· = '\t') else line
    if line = awaited.delimiter || text.isEmpty then ([], rest)
    else if text.all (· ≠ '\n') then (line, [])
    else
      let (more, after) := awaited.lines fuel rest
      (line ++ '\n' :: more, after)

/-- The fault of an awaited text that ends on a line. Quotes mean nothing in it. What goes on behind a line that
is not looked at is only missed at the end of everything, and so is the end of a script. -/
def awaitedFault (lastLine endLine : Nat) (fault : SyntaxFault) : SyntaxFault :=
  let isOverlooked := fault.line + 1 < endLine
  let message := if fault.message = "Unterminated quoted string" then "Missing '\x7d'" else fault.message
  { line := if isOverlooked then lastLine - 1 else if message.startsWith "Missing" then endLine else lastLine
    message }

def readAwaited (lastLine : Nat) : List Awaited → Bytes → Except SyntaxFault (List Word × Bytes)
  | [], text => .ok ([], text)
  | awaited :: others, text => do
    let (lines, rest) := awaited.lines (text.length + 1) text
    let endLine := lineAt lastLine rest
    let word ←
      if awaited.isLiteral then pure [.quoted lines]
      else
        let reading := readPieces (endLine - 1) (2 * lines.length + 2) .document lines
        (reading.map Prod.fst).mapError (awaitedFault lastLine endLine)
    let (words, rest) ← readAwaited lastLine others rest
    return (word :: words, rest)

structure Scan where
  tokens : List Placed := []
  awaited : List Awaited := []
  documents : List Word := []

def scan (lastLine : Nat) : (fuel : Nat) → Scan → Bytes → Scan
  | 0, state, _ => state
  | fuel + 1, state, text =>
    let goOn (token : Token) (rest : Bytes) : Scan :=
      scan lastLine fuel { state with tokens := ⟨token, lineAt lastLine rest⟩ :: state.tokens } rest
    let stop (fault : SyntaxFault) : Scan :=
      { state with tokens := ⟨.fault fault, fault.line⟩ :: state.tokens }
    let goOnRedirect (descriptor : Nat) (mode : RedirectMode) (dropsTabs : Bool) (rest : Bytes) : Scan :=
      if mode = .document then
        match readPieces lastLine (2 * rest.length + 2) .bare
            (rest.dropWhile fun c => c = ' ' || c = '\t') with
        | .ok ([], rest) => goOn (.redirect descriptor .read []) rest
        | .ok (word, rest) =>
          let awaited := state.awaited ++ [.ofWord word dropsTabs]
          let token : Placed := ⟨.redirect descriptor mode [], lineAt lastLine rest⟩
          scan lastLine fuel { state with tokens := token :: state.tokens, awaited } rest
        | .error fault => stop fault
      else goOn (.redirect descriptor mode []) rest
    match text with
    | [] => state
    | ' ' :: rest | '\t' :: rest => scan lastLine fuel state rest
    | '\\' :: '\n' :: rest => scan lastLine fuel state rest
    | '\n' :: rest =>
      let line := lineAt lastLine rest
      match readAwaited lastLine state.awaited rest with
      | .error fault => stop fault
      | .ok (documents, rest) =>
        scan lastLine fuel
          { tokens := ⟨.newline, line⟩ :: state.tokens
            awaited := []
            documents := documents.reverse ++ state.documents } rest
    | '#' :: rest => scan lastLine fuel state (rest.dropWhile (· ≠ '\n'))
    | ';' :: ';' :: rest => goOn .branchEnd rest
    | ';' :: rest => goOn .semicolon rest
    | '&' :: '&' :: rest => goOn .andThen rest
    | '&' :: rest => goOn .background rest
    | '|' :: '|' :: rest => goOn .orElse rest
    | '|' :: rest => goOn .pipe rest
    | '(' :: rest => goOn .openParen rest
    | ')' :: rest => goOn .closeParen rest
    | c :: rest =>
      match readRedirect text with
      | some (descriptor, mode, dropsTabs, rest) => goOnRedirect descriptor mode dropsTabs rest
      | none =>
        match if c.isDigit then readRedirect rest else none with
        | some (_, mode, dropsTabs, rest) =>
          goOnRedirect (c.toNat - '0'.toNat) mode dropsTabs rest
        | none =>
          match readPieces lastLine (2 * text.length + 2) .bare text with
          | .ok (word, rest) => goOn (.word word) rest
          | .error fault => stop fault

def placeDocuments : List Placed → List Word → List Placed
  | ⟨.redirect descriptor .document _, line⟩ :: rest, documents =>
    ⟨.redirect descriptor .document (documents.headD []), line⟩ :: placeDocuments rest (documents.drop 1)
  | token :: rest, documents => token :: placeDocuments rest documents
  | [], _ => []

/-- The tokens of a text that starts on the given line, and the line that it ends on. -/
def tokensOf (firstLine : Nat) (text : Bytes) : List Placed × Nat :=
  let lastLine := firstLine + lineCount text
  let state := scan lastLine (text.length + 1) {} text
  (placeDocuments state.tokens.reverse state.documents.reverse, lastLine)

end ClusterTrials.TestSupport.Shell
