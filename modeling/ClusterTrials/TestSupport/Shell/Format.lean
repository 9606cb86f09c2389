import ClusterTrials.Binary64.Reading
import ClusterTrials.TestSupport.Shell.Session
/-!
# Test support: formats

Escape sequences, and how arguments are filled into a format. An escape sequence can also end the whole
text.
-/

namespace ClusterTrials.TestSupport.Shell

/-! ## Escape sequences -/

def escapeLetter? (c : Char) : Option Char :=
  [('a', '\x07'), ('b', '\x08'), ('e', '\x1b'), ('f', '\x0c'), ('n', '\n'), ('r', '\r'), ('t', '\t'),
    ('v', '\x0b'), ('\\', '\\')].lookup c

def isOctal (c : Char) : Bool := '0' ≤ c && c ≤ '7'

def octalChar (digits : Bytes) : Char :=
  Char.ofNat (((Text.readDigits? 8 digits).getD 0) % 256)

/-- Which escape sequences there are besides the letters and octal numbers of three digits. -/
structure EscapeRule where
  /-- An octal number may start with a zero more. -/
  zeroFirst : Bool := false
  /-- There are hexadecimal numbers, and an end in formats. -/
  isWide : Bool := false

def escape? (rule : EscapeRule) : Bytes → Option (Char × Bytes)
  | [] => none
  | c :: rest =>
    let octal (text : Bytes) : Char × Bytes :=
      let digits := (text.take 3).takeWhile isOctal
      (octalChar digits, text.drop digits.length)
    if rule.zeroFirst && c = '0' then some (octal rest)
    else if isOctal c then some (octal (c :: rest))
    else if rule.isWide && c = 'x' then
      let digits := (rest.take 2).takeWhile (Text.digitValue · < 16)
      (Text.readDigits? 16 digits).map fun value => (Char.ofNat value, rest.drop digits.length)
    else (escapeLetter? c).map (·, rest)

def unescape (rule : EscapeRule) : (fuel : Nat) → Bytes → Bytes × Bool
  | 0, _ => ([], false)
  | fuel + 1, text =>
    let goOn (c : Char) (rest : Bytes) : Bytes × Bool :=
      let (more, isEnd) := unescape rule fuel rest
      (c :: more, isEnd)
    match text with
    | [] => ([], false)
    | '\\' :: 'c' :: _ => ([], true)
    | '\\' :: rest =>
      match escape? rule rest with
      | some (c, rest) => goOn c rest
      | none => goOn '\\' rest
    | c :: rest => goOn c rest

/-- The words with blanks between them. If `escapes` is set, escape sequences are replaced. -/
def echoText (escapes : Option EscapeRule) (withNewline : Bool) (words : List Bytes) : Bytes :=
  let text := joinedBy [' '] words
  let (text, isEnd) := match escapes with
    | some rule => unescape rule (text.length + 1) text
    | none => (text, false)
  text ++ (if withNewline && !isEnd then ['\n'] else [])

/-! ## Directives -/

structure Directive where
  flags : Bytes := []
  width : Nat := 0
  precision : Option Nat := none

def Directive.padded (directive : Directive) (isNumber : Bool) (text : Bytes) : Bytes :=
  let missing := directive.width - text.length
  if '-' ∈ directive.flags then text ++ List.replicate missing ' '
  else if isNumber && '0' ∈ directive.flags && directive.precision.isNone then
    let sign := text.takeWhile fun c => c = '-' || c = '+' || c = ' '
    sign ++ List.replicate missing '0' ++ text.drop sign.length
  else List.replicate missing ' ' ++ text

def Directive.digits (directive : Directive) (base value : Nat) : Bytes :=
  let digits := if value = 0 && directive.precision = some 0 then [] else Nat.toDigits base value
  List.replicate (directive.precision.getD 0 - digits.length) '0' ++ digits

def Directive.signed (directive : Directive) (value : Int) : Bytes :=
  let sign :=
    if value < 0 then ['-']
    else if '+' ∈ directive.flags then ['+']
    else if ' ' ∈ directive.flags then [' ']
    else []
  directive.padded true (sign ++ directive.digits 10 value.natAbs)

def Directive.unsigned (directive : Directive) (letter : Char) (value : Nat) : Bytes :=
  let isAlternate := '#' ∈ directive.flags
  let text := match letter with
    | 'o' =>
      let digits := directive.digits 8 value
      if isAlternate && digits.head? ≠ some '0' then '0' :: digits else digits
    | 'x' => (if isAlternate && value ≠ 0 then ['0', 'x'] else []) ++ directive.digits 16 value
    | 'X' =>
      (if isAlternate && value ≠ 0 then ['0', 'X'] else []) ++
        (directive.digits 16 value).map Char.toUpper
    | _ => directive.digits 10 value
  directive.padded true text

def fixedText (places magnitude : Nat) : Bytes :=
  let scaled := roundHalfEven (magnitude * Nat.pow 10 places) Binary64.unitsPerOne
  let digits := Nat.toDigits 10 scaled
  let digits := List.replicate (places + 1 - digits.length) '0' ++ digits
  let whole := digits.take (digits.length - places)
  whole ++ (if places = 0 then [] else '.' :: digits.drop whole.length)

/-- The digits of a number, one more than the places asked for, and the exponent of the first one. -/
def leadingDigits (places magnitude : Nat) : Bytes × Int :=
  if magnitude = 0 then (List.replicate (places + 1) '0', 0)
  else
    let unit := Binary64.unitsPerOne
    let exponent : Int :=
      if unit ≤ magnitude then (Nat.toDigits 10 (magnitude / unit)).length - 1
      else
        let places := (Nat.toDigits 10 (unit / magnitude)).length - 1
        if unit ≤ magnitude * Nat.pow 10 places then -places else -places - 1
    let shift := (places : Int) - exponent
    let digits := Nat.toDigits 10
      (roundHalfEven (magnitude * Nat.pow 10 shift.toNat) (unit * Nat.pow 10 (-shift).toNat))
    if digits.length = places + 1 then (digits, exponent) else (digits.dropLast, exponent + 1)

def withoutZeros (text : Bytes) : Bytes :=
  if '.' ∈ text then
    let left := (text.reverse.dropWhile (· = '0')).reverse
    if left.getLast? = some '.' then left.dropLast else left
  else text

def scientificText (letter : Char) (digits : Bytes) (exponent : Int) : Bytes :=
  let power := Nat.toDigits 10 exponent.natAbs
  digits.take 1 ++ (if digits.length ≤ 1 then [] else '.' :: digits.drop 1) ++
    [letter, if exponent < 0 then '-' else '+'] ++ List.replicate (2 - power.length) '0' ++ power

/-- A number with six places unless the precision asks for others, in one of the three ways that a letter
stands for: with all digits, with an exponent, or in the shorter of these without zeros at the end. -/
def Directive.fraction (directive : Directive) (letter : Char) (value : Binary64) : Bytes :=
  let places := directive.precision.getD 6
  let power := if letter.isUpper then 'E' else 'e'
  let keepsZeros := '#' ∈ directive.flags
  let text :=
    if value.isNaN then "nan".toList
    else if !value.isFinite then "inf".toList
    else if letter.toLower = 'f' then fixedText places value.magnitude
    else if letter.toLower = 'e' then
      let (digits, exponent) := leadingDigits places value.magnitude
      scientificText power digits exponent
    else
      let places := max places 1 - 1
      let (digits, exponent) := leadingDigits places value.magnitude
      if -4 ≤ exponent && exponent ≤ places then
        let text := fixedText (places - exponent).toNat value.magnitude
        if keepsZeros then text else withoutZeros text
      else
        let digits :=
          if keepsZeros then digits
          else digits.take 1 ++ ((digits.drop 1).reverse.dropWhile (· = '0')).reverse
        scientificText power digits exponent
  let sign :=
    if value.signBit then ['-']
    else if '+' ∈ directive.flags then ['+']
    else if ' ' ∈ directive.flags then [' ']
    else []
  { directive with precision := none }.padded value.isFinite
    (sign ++ (if letter.isUpper then text.map Char.toUpper else text))

/-! ## Formats -/

/-- The arguments that are left, what has been written, and what is wrong with the arguments that were
used. -/
structure Filling where
  arguments : List Bytes
  out : Bytes := []
  complaints : List Bytes := []
  /-- Nothing more is written. -/
  isEnd : Bool := false
  /-- The format itself is wrong. -/
  fault : Option Bytes := none

namespace Filling

def write (filling : Filling) (text : Bytes) : Filling := { filling with out := filling.out ++ text }

def next (filling : Filling) : Bytes × Filling :=
  (filling.arguments.headD [], { filling with arguments := filling.arguments.drop 1 })

def complain (filling : Filling) (text : Bytes) : Filling :=
  { filling with complaints := filling.complaints ++ [text] }

def nextNumber (filling : Filling) (isUnsigned : Bool) : Int × Filling :=
  let (text, filling) := filling.next
  match text with
  | '\'' :: rest | '"' :: rest => (((rest.headD '\x00').toNat : Int), filling)
  | _ =>
    let start := text.dropWhile isBlankByte
    let (sign, digits) := match start with
      | '-' :: rest => ((-1 : Int), rest)
      | '+' :: rest => (1, rest)
      | rest => (1, rest)
    match readNumber digits with
    | some (value, rest) =>
      let value := sign * value
      if !isHeld value && !(isUnsigned && value.natAbs < 18446744073709551616) then
        (if isUnsigned then 18446744073709551615 else if value < 0 then -(largest : Int) - 1 else largest,
          filling.complain (text ++ toBytes ": Numerical result out of range"))
      else if rest.isEmpty then (value, filling)
      else (value, filling.complain (text ++ toBytes ": not completely converted"))
    | none =>
      (0, if text.isEmpty then filling else filling.complain (text ++ toBytes ": expected numeric value"))

def nextFraction (filling : Filling) : Binary64 × Filling :=
  let (text, filling) := filling.next
  match Binary64.read? text with
  | some value => (value, filling)
  | none =>
    (.zero, if text.isEmpty then filling else filling.complain (text ++ toBytes ": expected numeric value"))

def nextLength (filling : Filling) : Bytes → Int × Bytes × Filling
  | '*' :: rest =>
    let (value, filling) := filling.nextNumber false
    (value, rest, filling)
  | rest =>
    let digits := rest.takeWhile Char.isDigit
    (((Text.readDigits? 10 digits).getD 0 : Nat), rest.drop digits.length, filling)

def direct (filling : Filling) (text : Bytes) : Filling × Bytes :=
  let flags := text.takeWhile (· ∈ ['#', '-', '+', ' ', '0'])
  let (width, rest, filling) := filling.nextLength (text.drop flags.length)
  let flags := if width < 0 then '-' :: flags else flags
  let (precision, rest, filling) := match rest with
    | '.' :: rest =>
      let (precision, rest, filling) := filling.nextLength rest
      (if precision < 0 then none else some precision.toNat, rest, filling)
    | rest => (none, rest, filling)
  let directive : Directive := { flags, width := width.natAbs, precision }
  let cut (text : Bytes) : Bytes := (precision.map text.take).getD text
  match rest with
  | [] => ({ filling with fault := some (toBytes "missing format character") }, [])
  | letter :: after =>
    if letter ∈ ['d', 'i'] then
      let (value, filling) := filling.nextNumber false
      (filling.write (directive.signed value), after)
    else if letter ∈ ['o', 'u', 'x', 'X'] then
      let (value, filling) := filling.nextNumber true
      (filling.write (directive.unsigned letter (value.emod 18446744073709551616).toNat), after)
    else if letter ∈ ['f', 'F', 'e', 'E', 'g', 'G'] then
      let (value, filling) := filling.nextFraction
      (filling.write (directive.fraction letter value), after)
    else if letter = 's' then
      let (value, filling) := filling.next
      (filling.write (directive.padded false (cut value)), after)
    else if letter = 'c' then
      let (value, filling) := filling.next
      (filling.write (directive.padded false [value.headD '\x00']), after)
    else if letter = 'b' then
      let (value, filling) := filling.next
      let (value, isEnd) := unescape { zeroFirst := true } (value.length + 1) value
      let filling := filling.write (directive.padded false (cut value))
      ({ filling with isEnd }, after)
    else
      let start := '%' :: text.take (text.length - after.length)
      ({ filling with fault := some (start ++ toBytes ": invalid directive") }, [])

def pass (rule : EscapeRule) : (fuel : Nat) → Filling → Bytes → Filling
  | 0, filling, _ => filling
  | fuel + 1, filling, text =>
    if filling.isEnd || filling.fault.isSome then filling
    else match text with
      | [] => filling
      | '\\' :: rest =>
        if rule.isWide && rest.head? = some 'c' then { filling with isEnd := true }
        else match escape? rule rest with
        | some (c, rest) => pass rule fuel (filling.write [c]) rest
        | none => pass rule fuel (filling.write ['\\']) rest
      | '%' :: '%' :: rest => pass rule fuel (filling.write ['%']) rest
      | '%' :: rest =>
        let (filling, rest) := filling.direct rest
        pass rule fuel filling rest
      | c :: rest => pass rule fuel (filling.write [c]) rest

def passes (rule : EscapeRule) (text : Bytes) : (fuel : Nat) → Filling → Filling
  | 0, filling => filling
  | fuel + 1, filling =>
    let after := pass rule (text.length + 1) filling text
    let isDone := after.isEnd || after.fault.isSome || after.arguments.isEmpty ||
      after.arguments.length = filling.arguments.length
    if isDone then after else passes rule text fuel after

end Filling

def fillFormat (rule : EscapeRule) (text : Bytes) (arguments : List Bytes) : Filling :=
  Filling.passes rule text (arguments.length + 1) { arguments }

end ClusterTrials.TestSupport.Shell
