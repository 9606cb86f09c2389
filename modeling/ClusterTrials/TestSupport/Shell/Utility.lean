import ClusterTrials.TestSupport.Shell.Utility.Files
/-!
# Test support: utilities

The programs that every machine has, by their names.
-/

namespace ClusterTrials.TestSupport.Shell

def sleep : Utility := withOptions "sleep" "" "" 1 fun work arguments =>
  let isInterval (word : Bytes) : Bool :=
    let digits := if ['s', 'm', 'h', 'd'].any (word.getLast? = some ·) then word.dropLast else word
    (Binary64.read? digits).any fun value => !value.signBit
  if arguments.operands.isEmpty then work.misused "sleep" (toBytes "missing operand")
  else match arguments.operands.find? (!isInterval ·) with
    | some word => work.misused "sleep" (toBytes "invalid time interval " ++ shownName word)
    | none => work

def utility? (name : String) : Option Utility :=
  match name with
  | "true" => some fun work _ => work
  | "false" => some fun work _ => { work with status := 1 }
  | "echo" => some echo
  | "printf" => some printf
  | "test" | "[" => some (condition name)
  | "cat" => some cat
  | "wc" => some wc
  | "sleep" => some sleep
  | "head" => some (printEnd name true)
  | "tail" => some (printEnd name false)
  | "seq" => some seq
  | "basename" => some basename
  | "dirname" => some dirname
  | "pwd" => some pwd
  | "ls" => some ls
  | "mkdir" => some mkdir
  | "rmdir" => some rmdir
  | "rm" => some rm
  | "touch" => some touch
  | "chmod" => some chmod
  | "cp" => some (transfer name false)
  | "mv" => some (transfer name true)
  | "tee" => some tee
  | "sort" => some sort
  | "uniq" => some uniq
  | "tr" => some tr
  | _ => none

end ClusterTrials.TestSupport.Shell
