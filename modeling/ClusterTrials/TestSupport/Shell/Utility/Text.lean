import ClusterTrials.TestSupport.Shell.Condition
import ClusterTrials.TestSupport.Shell.Format
import ClusterTrials.TestSupport.Shell.Pattern
import ClusterTrials.TestSupport.Shell.Utility.Work
/-!
# Test support: utilities for texts

Programs that read texts and write them, and those that say something about words.
-/

namespace ClusterTrials.TestSupport.Shell

/-! ## Reading -/

def contents (work : Work) (path : Bytes) : Except IoError Bytes := do
  match ← work.files.lookup (toText path) with
  | .stream 0 => return work.input
  | entry => return ofBytes (← Files.bytesOf entry)

def operandText (work : Work) (operand : Bytes) : Except IoError Bytes :=
  if operand = ['-'] then .ok work.input else contents work operand

def linesOf (text : Bytes) : List Bytes :=
  text.foldr
    (fun c lines =>
      match lines with
      | line :: lines => if c = '\n' then [c] :: line :: lines else (c :: line) :: lines
      | [] => [[c]])
    []

def eachText (work : Work) (operands : List Bytes) (refuse : Bytes → IoError → Bytes)
    (use : Work → (operand text : Bytes) → Work) : Work :=
  (if operands.isEmpty then [['-']] else operands).foldl
    (fun work operand =>
      match operandText work operand with
      | .ok text => use (if operand = ['-'] then { work with input := [] } else work) operand text
      | .error error => work.complain (refuse operand error))
    work

def cat : Utility := withOptions "cat" "nEu" "" 1 fun work arguments =>
  let refuse (path : Bytes) (error : IoError) : Bytes :=
    toBytes "cat: " ++ quotedName false path ++ toBytes (": " ++ reason error)
  let number (lines : List Bytes) (count : Nat) : Bytes :=
    let digits := decimal count
    List.replicate (6 - digits.length) ' ' ++ digits ++ ['\t'] ++ lines.headD []
  let isPlain := !arguments.has 'n' && !arguments.has 'E'
  let (work, _) := (if arguments.operands.isEmpty then [['-']] else arguments.operands).foldl
    (fun ((work, count) : Work × Nat) operand =>
      match operandText work operand with
      | .error error => (work.complain (refuse operand error), count)
      | .ok text =>
        let work := if operand = ['-'] then { work with input := [] } else work
        if isPlain then (work.print text, count)
        else (linesOf text).foldl
          (fun (work, count) line =>
            let line := if arguments.has 'E' && line.getLast? = some '\n' then
                line.dropLast ++ ['$', '\n'] else line
            (work.print (if arguments.has 'n' then number [line] count else line), count + 1))
          (work, count))
    (work, 1)
  work

def wordCount (text : Bytes) : Nat :=
  (text.foldl
    (fun ((count, isInside) : Nat × Bool) c =>
      if isBlankByte c then (count, false) else (if isInside then count else count + 1, true))
    (0, false)).1

def wc : Utility := withOptions "wc" "lwcm" "" 1 fun work arguments =>
  let letters := ['l', 'w', 'm', 'c'].filter arguments.has
  let letters := if letters.isEmpty then ['l', 'w', 'c'] else letters
  let counts (text : Bytes) : List Nat := letters.map fun
    | 'l' => lineCount text
    | 'w' => wordCount text
    | _ => text.length
  let sizes := arguments.operands.filterMap fun operand => (operandText work operand).toOption
  let width :=
    if letters.length = 1 && arguments.operands.length ≤ 1 then 1
    else if arguments.operands.isEmpty || arguments.operands.contains ['-'] then 7
    else (decimal (sizes.foldl (fun total text => total + text.length) 0)).length
  let line (counts : List Nat) (name : Bytes) : Bytes :=
    let columns := counts.map fun count =>
      List.replicate (width - (decimal count).length) ' ' ++ decimal count
    joinedBy [' '] columns ++ (if name.isEmpty then [] else ' ' :: name) ++ ['\n']
  let refuse (path : Bytes) (error : IoError) : Bytes :=
    if path.isEmpty then toBytes "wc: invalid zero-length file name"
    else toBytes "wc: " ++ quotedName false path ++ toBytes (": " ++ reason error)
  let work := eachText work arguments.operands refuse fun work operand text =>
    work.print (line (counts text) (if arguments.operands.isEmpty then [] else operand))
  if arguments.operands.length ≤ 1 then work
  else
    let totals := sizes.foldl (fun totals text => List.zipWith (· + ·) totals (counts text))
      (letters.map fun _ => 0)
    work.print (line totals (toBytes "total"))

def endOf (isHead : Bool) (arguments : Arguments) (text : Bytes) : Except Bytes Bytes :=
  let count? (value : Bytes) : Option (Bool × Nat) :=
    match value with
    | '+' :: digits => (Text.readDigits? 10 digits).map (true, ·)
    | '-' :: digits => (Text.readDigits? 10 digits).map (false, ·)
    | digits => (Text.readDigits? 10 digits).map (false, ·)
  let cut {α : Type} (all : List α) (value : Bytes) : Option (List α) :=
    (count? value).map fun (isFrom, count) =>
      if isHead then
        if value.head? = some '-' then all.take (all.length - count) else all.take count
      else if isFrom then all.drop (count - 1)
      else all.drop (all.length - count)
  let invalid (what : String) (value : Bytes) : Bytes :=
    toBytes ("invalid number of " ++ what ++ ": ") ++ shownName value
  match arguments.value? 'c', arguments.value? 'n' with
  | some value, _ => (cut text value).elim (.error (invalid "bytes" value)) .ok
  | none, value? =>
    let value := value?.getD ['1', '0']
    ((cut (linesOf text) value).map List.flatten).elim (.error (invalid "lines" value)) .ok

def printEnd (name : String) (isHead : Bool) : Utility := fun work words =>
  let words := words.map fun
    | '-' :: c :: rest => if c.isDigit then ['-', 'n'] ++ c :: rest else '-' :: c :: rest
    | word => word
  withOptions name "q" "nc" 1
    (fun work arguments =>
      let refuse (path : Bytes) (error : IoError) : Bytes :=
        if error = .directory then
          toBytes (name ++ ": error reading ") ++ quotedName true path ++ toBytes (": " ++ reason error)
        else
          toBytes (name ++ ": cannot open ") ++ quotedName true path ++
            toBytes (" for reading: " ++ reason error)
      let isMany := 1 < arguments.operands.length && !arguments.has 'q'
      eachText work arguments.operands refuse fun work operand text =>
        match endOf isHead arguments text with
        | .error text => work.complain (toBytes (name ++ ": ") ++ text)
        | .ok part =>
          let gap := if work.written.any (·.1 = 1) then ['\n'] else []
          let title := if isMany then gap ++ toBytes "==> " ++ operand ++ toBytes " <==\n" else []
          work.print (title ++ part))
    work words

/-! ## Texts -/

def echo : Utility := fun work words =>
  let isOption (word : Bytes) : Bool :=
    word.head? = some '-' && 1 < word.length && (word.drop 1).all (· ∈ ['n', 'e', 'E'])
  let options := (words.takeWhile isOption).flatMap (·.drop 1)
  let escapes := options.foldl
    (fun escapes c => if c = 'e' then true else if c = 'E' then false else escapes) false
  work.print (echoText (if escapes then some { zeroFirst := true, isWide := true } else none)
    (!options.contains 'n') (words.dropWhile isOption))

def printf : Utility := fun work words =>
  match if words.head? = some ['-', '-'] then words.drop 1 else words with
  | [] => work.misused "printf" (toBytes "missing operand")
  | text :: arguments =>
    let filling := fillFormat { isWide := true } text arguments
    let work := (filling.complaints ++ filling.fault.toList).foldl
      (fun work complaint => work.complain (toBytes "printf: " ++ complaint)) work
    work.print filling.out

def condition (name : String) : Utility := fun work words =>
  let answer (words : List Bytes) : Work :=
    match holds work.files words with
    | .ok value => { work with status := if value then 0 else 1 }
    | .error text => work.complainWith 2 (toBytes (name ++ ": ") ++ text)
  if name ≠ "[" then answer words
  else if words.getLast? = some [']'] then answer words.dropLast
  else work.complainWith 2 (toBytes "[: missing ']'")

/-- A number with a fraction, as a whole number of parts of one over ten to the given power. -/
def fixedPoint? (text : Bytes) : Option (Int × Nat) :=
  let digits := text.dropWhile fun c => c = '+' || c = '-'
  let whole := digits.takeWhile (· ≠ '.')
  let fraction := (digits.drop (whole.length + 1))
  if 1 < text.length - digits.length || (whole ++ fraction).isEmpty then none
  else (Text.readDigits? 10 (whole ++ fraction)).map fun value =>
    (if text.head? = some '-' then -(value : Int) else value, fraction.length)

/-- Writes a whole number of parts, of which `10 ^ places` make one, with the given number of characters at
least. -/
def writeFixedPoint (places width : Nat) (value : Int) : Bytes :=
  let digits := Nat.toDigits 10 value.natAbs
  let digits := List.replicate (places + 1 - digits.length) '0' ++ digits
  let count := digits.length - places
  let body := digits.take count ++ (if places = 0 then [] else '.' :: digits.drop count)
  let sign := if value < 0 then ['-'] else []
  sign ++ List.replicate (width - body.length - sign.length) '0' ++ body

def seqOptionCount : List Bytes → Nat
  | ['-', 's'] :: _ :: rest => seqOptionCount rest + 2
  | ('-' :: c :: _) :: rest => if c = '.' || c.isDigit then 0 else seqOptionCount rest + 1
  | _ => 0

/-- Writes the numbers from the first to the last, which the options part from each other and bring to one
width. -/
def countUp (work : Work) (options : Arguments) (first step last : Int × Nat) : Work :=
  let places := max (max first.2 step.2) last.2
  let parts (number : Int × Nat) : Int := number.1 * Nat.pow 10 (places - number.2)
  let shown := max first.2 step.2
  let write (width : Nat) (value : Int) : Bytes :=
    writeFixedPoint shown width (value / (Nat.pow 10 (places - shown) : Nat))
  let width := if options.has 'w' then
      max (write 0 (parts first)).length (write 0 (parts last)).length else 0
  let distance := if step.1 < 0 then parts first - parts last else parts last - parts first
  let steps := (distance / ((parts step).natAbs : Int) + 1).toNat
  let texts := (List.range steps).map fun (n : Nat) => write width (parts first + parts step * (n : Int))
  if texts.isEmpty then work
  else work.print (((options.value? 's').getD ['\n']).intercalate texts ++ ['\n'])

def seq : Utility := fun work words =>
  let count := seqOptionCount words
  match Arguments.read ['w'] ['s'] none (words.take count) with
  | .error text => work.misused "seq" text
  | .ok options =>
    let operands := words.drop count
    if operands.isEmpty then work.misused "seq" (toBytes "missing operand")
    else if 3 < operands.length then
      work.misused "seq" (toBytes "extra operand " ++ shownName ((operands.drop 3).headD []))
    else match operands.find? fun operand => (fixedPoint? operand).isNone with
      | some operand => work.misused "seq" (toBytes "invalid floating point argument: " ++ shownName operand)
      | none =>
        match operands.filterMap fixedPoint? with
        | [last] => countUp work options (1, 0) (1, 0) last
        | [first, last] => countUp work options first (1, 0) last
        | [first, step, last] =>
          if step.1 = 0 then
            work.misused "seq"
              (toBytes "invalid Zero increment value: " ++ shownName ((operands.drop 1).headD []))
          else countUp work options first step last
        | _ => work

def withoutSlashes (path : Bytes) : Bytes :=
  let text := (path.reverse.dropWhile (· = '/')).reverse
  if text.isEmpty && !path.isEmpty then ['/'] else text

def basename : Utility := fun work words =>
  match words with
  | [] => work.misused "basename" (toBytes "missing operand")
  | path :: rest =>
    let path := withoutSlashes path
    let name := if path = ['/'] then path else (path.reverse.takeWhile (· ≠ '/')).reverse
    let ending := rest.headD []
    let name := if ending ≠ name && ending.isSuffixOf name then
        name.take (name.length - ending.length) else name
    work.print (name ++ ['\n'])

def dirname : Utility := fun work words =>
  if words.isEmpty then work.misused "dirname" (toBytes "missing operand")
  else words.foldl
    (fun work path =>
      let path := withoutSlashes path
      let before := path.take (path.length - (path.reverse.takeWhile (· ≠ '/')).length)
      work.print ((if path = ['/'] then path else if before.isEmpty then ['.'] else withoutSlashes before)
        ++ ['\n']))
    work

def sort : Utility := withOptions "sort" "rnu" "" 2 fun work arguments =>
  let refuse (path : Bytes) (error : IoError) : Bytes :=
    toBytes "sort: cannot read: " ++ quotedName false path ++ toBytes (": " ++ reason error)
  let texts := (if arguments.operands.isEmpty then [['-']] else arguments.operands).map fun operand =>
    (operand, operandText work operand)
  match texts.find? fun (_, text) => !text.isOk with
  | some (path, .error error) => work.complainWith 2 (refuse path error)
  | _ =>
    let lines := (texts.filterMap (·.2.toOption)).flatMap fun text => (linesOf text).map fun line =>
      if line.getLast? = some '\n' then line.dropLast else line
    let isBelow (a b : Bytes) : Bool := List.lex a b fun c d => c.toNat < d.toNat
    let value (line : Bytes) : Int :=
      let text := line.dropWhile isBlankByte
      let digits := (if text.head? = some '-' then text.drop 1 else text).takeWhile Char.isDigit
      let value : Int := ((Text.readDigits? 10 digits).getD 0 : Nat)
      if text.head? = some '-' then -value else value
    let isAtMost (a b : Bytes) : Bool :=
      let (a, b) := if arguments.has 'r' then (b, a) else (a, b)
      if arguments.has 'n' && value a ≠ value b then value a < value b else !isBelow b a
    let lines := lines.mergeSort isAtMost
    let lines := if arguments.has 'u' then lines.eraseDups else lines
    let work := if texts.any (·.1 = ['-']) then { work with input := [] } else work
    work.print (lines.flatMap (· ++ ['\n']))

def uniq : Utility := withOptions "uniq" "c" "" 1 fun work arguments =>
  let refuse (path : Bytes) (error : IoError) : Bytes :=
    toBytes "uniq: " ++ quotedName false path ++ toBytes (": " ++ reason error)
  eachText work (arguments.operands.take 1) refuse fun work _ text =>
    let runs := (linesOf text).foldr
      (fun line runs =>
        let line := if line.getLast? = some '\n' then line.dropLast else line
        match runs with
        | (other, count) :: rest => if other = line then (other, count + 1) :: rest else (line, 1) :: runs
        | [] => [(line, 1)])
      ([] : List (Bytes × Nat))
    work.print (runs.flatMap fun (line, count) =>
      let digits := decimal count
      let margin := List.replicate (7 - digits.length) ' '
      (if arguments.has 'c' then margin ++ digits ++ [' '] else []) ++ line ++ ['\n'])

def setOf : (fuel : Nat) → Bytes → Bytes
  | 0, _ => []
  | fuel + 1, text =>
    match text with
    | '[' :: ':' :: rest =>
      let name := rest.takeWhile (· ≠ ':')
      match rest.drop name.length with
      | ':' :: ']' :: after =>
        ((List.range 256).map Char.ofNat).filter (inClass (String.ofList name)) ++ setOf fuel after
      | _ => '[' :: ':' :: setOf fuel rest
    | '\\' :: rest =>
      match escape? {} rest with
      | some (c, rest) => c :: setOf fuel rest
      | none => '\\' :: setOf fuel rest
    | low :: '-' :: high :: rest =>
      ((List.range (high.toNat + 1 - low.toNat)).map fun n => Char.ofNat (low.toNat + n)) ++
        setOf fuel rest
    | c :: rest => c :: setOf fuel rest
    | [] => []

def tr : Utility := withOptions "tr" "dsc" "" 1 fun work arguments =>
  let sets := arguments.operands.map fun text => setOf (text.length + 1) text
  match sets with
  | [] => work.misused "tr" (toBytes "missing operand")
  | first :: rest =>
    let isListed (c : Char) : Bool := first.contains c != arguments.has 'c'
    let text := work.input
    let second := rest.headD first
    let text :=
      if arguments.has 'd' then text.filter (!isListed ·)
      else if rest.isEmpty then text
      else text.map fun c =>
        if !isListed c then c
        else
          let place := if arguments.has 'c' then second.length else first.idxOf c
          (second[place]?).getD (second.getLast?.getD c)
    let text :=
      if arguments.has 's' then
        text.foldr (fun c text => if text.head? = some c && second.contains c then text else c :: text) []
      else text
    { work with input := [] }.print text

end ClusterTrials.TestSupport.Shell
