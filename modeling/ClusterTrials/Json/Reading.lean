import ClusterTrials.Json.Token
/-!
# Reading values from tokens

A reader takes the tokens of one value and leaves the rest. The first thing that is wrong, from left to
right, is the fault: a value of another shape is one as soon as it begins, and the members before it have
been read by then. `items` and `fields` read arrays and objects member by member; `pass` takes a value of
any shape.
-/

namespace ClusterTrials.Json

abbrev Reader (α : Type) := List Token → Except Malformed (α × List Token)

/-- Why the tokens do not begin with a value of the shape that is wanted. -/
def mismatch : List Token → Malformed
  | [] => .cutShort
  | token :: _ =>
    match token with
    | .closeObject | .closeArray | .comma | .colon => .grammar
    | .broken read _ | .brokenText read _ => read
    | .number false | .text none => .grammar
    | .number true | .text (some _) | .word | .openObject | .openArray => .shape

def unmarked : List Token → Malformed
  | [] => .cutShort
  | _ :: _ => .grammar

def text : Reader String
  | .text (some value) :: rest => .ok (value, rest)
  | tokens => .error (mismatch tokens)

/-! ## Arrays -/

/-- Whether there is one more item: then the tokens begin with it; else they begin behind the array. -/
def moreItems (first : Bool) : Reader Bool
  | .closeArray :: rest => .ok (false, rest)
  | .comma :: rest => .ok (true, if first then .comma :: rest else rest)
  | tokens => if first && !tokens.isEmpty then .ok (true, tokens) else .error (unmarked tokens)

/-- Reads the items of an array, from behind its bracket or from behind an item. -/
def items {α : Type} (item : Reader α) : (steps : Nat) → (first : Bool) → Reader (List α)
  | 0, _, _ => .error .grammar
  | steps + 1, first, tokens => do
    let (more, tokens) ← moreItems first tokens
    if more then
      let (value, tokens) ← item tokens
      let (values, tokens) ← items item steps false tokens
      return (value :: values, tokens)
    else return ([], tokens)

def array {α : Type} (item : Reader α) : Reader (List α)
  | .openArray :: rest => items item (rest.length + 1) true rest
  | tokens => .error (mismatch tokens)

def endArray : Reader Unit
  | .closeArray :: rest => .ok ((), rest)
  | tokens => .error (unmarked tokens)

/-! ## Objects -/

def keyless : List Token → Malformed
  | [] => .cutShort
  | .brokenText read _ :: _ => read
  | _ :: _ => .grammar

def key : Reader String
  | .text (some value) :: rest => .ok (value, rest)
  | tokens => .error (keyless tokens)

def nextKey (first : Bool) : Reader (Option String)
  | .closeObject :: rest => .ok (none, rest)
  | tokens => do
    let tokens ← match first, tokens with
      | true, _ => pure tokens
      | false, .comma :: rest => pure rest
      | false, _ => throw (unmarked tokens)
    let (name, tokens) ← key tokens
    return (some name, tokens)

def colon : Reader Unit
  | .colon :: rest => .ok ((), rest)
  | tokens => .error (unmarked tokens)

/-- Reads the fields of an object, from behind its brace or from behind a field. For each key `field`
gives the reader of its value, which adds to what was read before, or refuses the key. -/
def fields {σ : Type} (field : σ → String → Except Malformed (Reader σ)) :
    (steps : Nat) → (first : Bool) → σ → Reader σ
  | 0, _, _, _ => .error .grammar
  | steps + 1, first, state, tokens => do
    let (name, tokens) ← nextKey first tokens
    match name with
    | none => return (state, tokens)
    | some name =>
      let value ← field state name
      let ((), tokens) ← colon tokens
      let (state, tokens) ← value tokens
      fields field steps false state tokens

def object {σ : Type} (field : σ → String → Except Malformed (Reader σ)) (start : σ) : Reader σ
  | .openObject :: rest => fields field (rest.length + 1) true start rest
  | tokens => .error (mismatch tokens)

/-! ## Values of any shape -/

/-- How closely a value is looked at that nobody asks for. -/
inductive Care
  /-- It is skipped. -/
  | none
  /-- Its texts and numbers must have values, and it may not lie or nest deeper than the limit; this many
  values are around it. -/
  | full (depth : Nat)
  deriving DecidableEq, Repr

/-- No value may have as many values around it, itself included. -/
def depthLimit : Nat := 128

inductive Bracket
  | array
  | object
  deriving DecidableEq, Repr

inductive Expected
  | value
  /-- A value, or the end of the array that has just begun. -/
  | valueOrEnd
  | key
  | keyOrEnd
  | colon
  /-- What follows a complete value. -/
  | commaOrEnd
  deriving DecidableEq, Repr

namespace Care

def allowsBracket (care : Care) (opened : List Bracket) : Bool :=
  match care with
  | .none => true
  | .full depth => depth + opened.length + 1 < depthLimit

def fault (care : Care) (read skipped : Malformed) : Malformed :=
  match care with
  | .none => skipped
  | .full _ => read

def allowsScalar (care : Care) : Token → Bool
  | .number finite => finite || care = .none
  | .text value => value.isSome || care = .none
  | _ => true

end Care

/-- Takes a value and what encloses it, up to the end of the outermost bracket. -/
def passFrom (care : Care) : List Bracket → Expected → List Token → Except Malformed (List Token)
  | [], .commaOrEnd, tokens => .ok tokens
  | _, _, [] => .error .cutShort
  | opened, expected, token :: rest =>
    match expected, token with
    | .value, .openArray | .valueOrEnd, .openArray =>
      if care.allowsBracket opened then passFrom care (.array :: opened) .valueOrEnd rest
      else .error .grammar
    | .value, .openObject | .valueOrEnd, .openObject =>
      if care.allowsBracket opened then passFrom care (.object :: opened) .keyOrEnd rest
      else .error .grammar
    | .value, .word | .valueOrEnd, .word | .value, .number _ | .valueOrEnd, .number _
    | .value, .text _ | .valueOrEnd, .text _ =>
      if care.allowsScalar token then passFrom care opened .commaOrEnd rest else .error .grammar
    | .value, .broken read skipped | .valueOrEnd, .broken read skipped
    | .value, .brokenText read skipped | .valueOrEnd, .brokenText read skipped
    | .key, .brokenText read skipped | .keyOrEnd, .brokenText read skipped =>
      .error (care.fault read skipped)
    | .key, .text _ | .keyOrEnd, .text _ =>
      if care.allowsScalar token then passFrom care opened .colon rest else .error .grammar
    | .colon, .colon => passFrom care opened .value rest
    | .valueOrEnd, .closeArray | .keyOrEnd, .closeObject =>
      passFrom care (opened.drop 1) .commaOrEnd rest
    | .commaOrEnd, .closeArray =>
      if opened.head? = some .array then passFrom care (opened.drop 1) .commaOrEnd rest
      else .error .grammar
    | .commaOrEnd, .closeObject =>
      if opened.head? = some .object then passFrom care (opened.drop 1) .commaOrEnd rest
      else .error .grammar
    | .commaOrEnd, .comma =>
      passFrom care opened (if opened.head? = some .array then .value else .key) rest
    | _, _ => .error .grammar

def pass (care : Care) : Reader Unit := fun tokens =>
  (passFrom care [] .value tokens).map ((), ·)

def whole {α : Type} (reader : Reader α) (tokens : List Token) : Except Malformed α := do
  let (value, rest) ← reader tokens
  if rest.isEmpty then return value else throw .grammar

end ClusterTrials.Json
