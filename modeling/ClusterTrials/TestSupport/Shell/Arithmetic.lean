import ClusterTrials.TestSupport.Shell.Script
import ClusterTrials.Text.Number
/-!
# Test support: arithmetic

Expressions over whole numbers of 64 bits, which wrap around. An operator binds as it does in the language
C. Names stand for the numbers that variables hold, none for zero.
-/

namespace ClusterTrials.TestSupport.Shell

inductive Expression
  | number (value : Int)
  | named (name : Bytes)
  | unary (operator : Char) (operand : Expression)
  | binary (operator : String) (first second : Expression)
  | conditional (condition yes no : Expression)
  /-- An assignment, through an operator or with none. -/
  | assign (name : Bytes) (operator : String) (value : Expression)
  deriving Inhabited

inductive ArithmeticFault
  | expectedOperand
  | expectedEnd
  | expectedParenthesis
  | expectedColon
  | divisionByZero
  /-- A variable holds no number. -/
  | noNumber (text : Bytes)

def wrapped (value : Int) : Int := value.bmod 18446744073709551616

def largest : Nat := 9223372036854775807

def isHeld (value : Int) : Bool := value.natAbs ≤ largest || value = -(largest : Int) - 1

/-- Reads a whole number, octal or hexadecimal if its first digits say so, and what follows. -/
def readNumber (text : Bytes) : Option (Nat × Bytes) :=
  let digitsIn (base : Nat) (text : Bytes) : Bytes := text.takeWhile (Text.digitValue · < base)
  match text with
  | '0' :: x :: rest =>
    let digits := digitsIn 16 rest
    if (x = 'x' || x = 'X') && !digits.isEmpty then
      (Text.readDigits? 16 digits).map (·, rest.drop digits.length)
    else
      let digits := digitsIn 8 text
      (Text.readDigits? 8 digits).map (·, text.drop digits.length)
  | _ =>
    let digits := digitsIn 10 text
    (Text.readDigits? 10 digits).map (·, text.drop digits.length)

def isBlankByte (c : Char) : Bool := c = ' ' || (9 ≤ c.toNat && c.toNat ≤ 13)

def integer? (readDigits : Bytes → Option (Nat × Bytes)) (text : Bytes) : Option Int :=
  let text := text.dropWhile isBlankByte
  let (sign, digits) := match text with
    | '-' :: rest => (-1, rest)
    | '+' :: rest => (1, rest)
    | rest => ((1 : Int), rest)
  match readDigits digits with
  | some (value, rest) =>
    if rest.all isBlankByte && isHeld (sign * value) then some (sign * value) else none
  | none => none

def readDecimal (text : Bytes) : Option (Nat × Bytes) :=
  let digits := text.takeWhile Char.isDigit
  (Text.readDigits? 10 digits).map (·, text.drop digits.length)

/-! ## Reading -/

def binaryOperators : List (List String) :=
  [["||"], ["&&"], ["|"], ["^"], ["&"], ["==", "!="], ["<=", ">=", "<", ">"], ["<<", ">>"], ["+", "-"],
    ["*", "/", "%"]]

def signs : List (String × Bytes) :=
  ["<<=", ">>=", "||", "&&", "==", "!=", "<=", ">=", "<<", ">>", "+=", "-=", "*=", "/=", "%=", "&=", "|=",
    "^=", "|", "^", "&", "<", ">", "+", "-", "*", "/", "%", "=", "!", "~", "(", ")", "?", ":"].map
      fun sign => (sign, sign.toList)

def nextSign? (text : Bytes) : Option (String × Bytes) :=
  match text.dropWhile isBlankByte with
  | [] => none
  | c :: rest =>
    if c.isAlphanum then none
    else (signs.find? fun (_, sign) => sign.isPrefixOf (c :: rest)).map fun (name, sign) =>
      (name, (c :: rest).drop sign.length)

def assigningSigns : List (String × String) :=
  [("=", ""), ("+=", "+"), ("-=", "-"), ("*=", "*"), ("/=", "/"), ("%=", "%"), ("<<=", "<<"), (">>=", ">>"),
    ("&=", "&"), ("|=", "|"), ("^=", "^")]

mutual

def readAssignment : (fuel : Nat) → Bytes → Except ArithmeticFault (Expression × Bytes)
  | 0, _ => .error .expectedOperand
  | fuel + 1, text => do
    let start := text.dropWhile isBlankByte
    let name := start.takeWhile isNamePart
    match if isName name then nextSign? (start.drop name.length) else none with
    | some (sign, rest) =>
      match assigningSigns.lookup sign with
      | some operator =>
        let (value, rest) ← readAssignment fuel rest
        return (.assign name operator value, rest)
      | none => readConditionalExpression fuel text
    | none => readConditionalExpression fuel text

def readConditionalExpression : (fuel : Nat) → Bytes → Except ArithmeticFault (Expression × Bytes)
  | 0, _ => .error .expectedOperand
  | fuel + 1, text => do
    let (condition, rest) ← readBinary fuel binaryOperators text
    match nextSign? rest with
    | some ("?", rest) =>
      let (yes, rest) ← readAssignment fuel rest
      match nextSign? rest with
      | some (":", rest) =>
        let (no, rest) ← readConditionalExpression fuel rest
        return (.conditional condition yes no, rest)
      | _ => throw .expectedColon
    | _ => return (condition, rest)

def readBinary : (fuel : Nat) → List (List String) → Bytes → Except ArithmeticFault (Expression × Bytes)
  | 0, _, _ => .error .expectedOperand
  | fuel + 1, [], text => readOperand fuel text
  | fuel + 1, operators :: tighter, text => do
    let (first, rest) ← readBinary fuel tighter text
    readBinaryFrom fuel operators tighter first rest

def readBinaryFrom : (fuel : Nat) → List String → List (List String) → Expression → Bytes →
    Except ArithmeticFault (Expression × Bytes)
  | 0, _, _, first, text => .ok (first, text)
  | fuel + 1, operators, tighter, first, text => do
    match nextSign? text with
    | some (sign, rest) =>
      if sign ∈ operators then
        let (second, rest) ← readBinary fuel tighter rest
        readBinaryFrom fuel operators tighter (.binary sign first second) rest
      else return (first, text)
    | none => return (first, text)

def readOperand : (fuel : Nat) → Bytes → Except ArithmeticFault (Expression × Bytes)
  | 0, _ => .error .expectedOperand
  | fuel + 1, text => do
    let start := text.dropWhile isBlankByte
    match start with
    | '(' :: rest =>
      let (inner, rest) ← readAssignment fuel rest
      match nextSign? rest with
      | some (")", rest) => return (inner, rest)
      | _ => throw .expectedParenthesis
    | c :: rest =>
      if c ∈ ['!', '~', '-', '+'] then
        let (operand, rest) ← readOperand fuel rest
        return (.unary c operand, rest)
      else if isNameStart c then
        let name := start.takeWhile isNamePart
        return (.named name, start.drop name.length)
      else match readNumber start with
        | some (value, rest) => return (.number (min value largest), rest)
        | none => throw .expectedOperand
    | [] => throw .expectedOperand

end

def Expression.ofText (text : Bytes) : Except ArithmeticFault Expression := do
  let (expression, rest) ← readAssignment (32 * text.length + 32) text
  if rest.all isBlankByte then return expression else throw .expectedEnd

/-! ## Values -/

def truth (holds : Bool) : Int := if holds then 1 else 0

private def bits (value : Int) : Nat := (value.emod 18446744073709551616).toNat

def combine (operator : String) (a b : Int) : Except ArithmeticFault Int :=
  match operator with
  | "+" => .ok (wrapped (a + b))
  | "-" => .ok (wrapped (a - b))
  | "*" => .ok (wrapped (a * b))
  | "/" => if b = 0 then .error .divisionByZero else .ok (wrapped (a.tdiv b))
  | "%" => if b = 0 then .error .divisionByZero else .ok (wrapped (a.tmod b))
  | "|" => .ok (wrapped (Nat.lor (bits a) (bits b)))
  | "^" => .ok (wrapped (Nat.xor (bits a) (bits b)))
  | "&" => .ok (wrapped (Nat.land (bits a) (bits b)))
  | "<<" => .ok (wrapped (a * (Nat.pow 2 (bits b % 64) : Nat)))
  | ">>" => .ok (wrapped (a.fdiv (Nat.pow 2 (bits b % 64) : Nat)))
  | "==" => .ok (truth (a = b))
  | "!=" => .ok (truth (a ≠ b))
  | "<=" => .ok (truth (a ≤ b))
  | ">=" => .ok (truth (a ≥ b))
  | "<" => .ok (truth (a < b))
  | ">" => .ok (truth (a > b))
  | _ => .ok b

abbrev Variables := List (Bytes × Int)

def Expression.evaluate (valueOf : Bytes → Bytes) : Variables → Expression →
    Except ArithmeticFault (Int × Variables)
  | assigned, .number value => .ok (wrapped value, assigned)
  | assigned, .named name => do return (← lookUp assigned name, assigned)
  | assigned, .unary operator operand => do
    let (value, assigned) ← operand.evaluate valueOf assigned
    return (match operator with
      | '!' => truth (value = 0)
      | '~' => wrapped (-value - 1)
      | '-' => wrapped (-value)
      | _ => value, assigned)
  | assigned, .binary operator first second => do
    let (a, assigned) ← first.evaluate valueOf assigned
    if (operator = "||" && a ≠ 0) || (operator = "&&" && a = 0) then
      return (truth (a ≠ 0), assigned)
    let (b, assigned) ← second.evaluate valueOf assigned
    if operator = "||" || operator = "&&" then return (truth (b ≠ 0), assigned)
    return (← combine operator a b, assigned)
  | assigned, .conditional condition yes no => do
    let (value, assigned) ← condition.evaluate valueOf assigned
    if value ≠ 0 then yes.evaluate valueOf assigned else no.evaluate valueOf assigned
  | assigned, .assign name operator value => do
    let (value, assigned) ← value.evaluate valueOf assigned
    let value ← if operator = "" then pure value
      else do combine operator (← lookUp assigned name) value
    return (value, (name, value) :: assigned)
where
  lookUp (assigned : Variables) (name : Bytes) : Except ArithmeticFault Int :=
    match assigned.lookup name with
    | some value => .ok value
    | none =>
      let text := valueOf name
      if text.isEmpty then .ok 0
      else match integer? readNumber text with
        | some value => .ok (wrapped value)
        | none => .error (.noNumber text)

def ArithmeticFault.message (text : Bytes) : ArithmeticFault → Bytes
  | .noNumber value => "Illegal number: ".toList ++ value
  | fault =>
    let what := match fault with
      | .expectedOperand => "expecting primary"
      | .expectedEnd => "expecting EOF"
      | .expectedParenthesis => "expecting ')'"
      | .expectedColon => "expecting ':'"
      | _ => "division by zero"
    ("arithmetic expression: " ++ what ++ ": \"").toList ++ text ++ ['"']

end ClusterTrials.TestSupport.Shell
