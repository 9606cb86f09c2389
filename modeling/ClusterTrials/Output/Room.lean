import ClusterTrials.Output.Writer
/-!
# A writer with limited room

For trying out what is built on writers: it keeps what it takes, takes at most `chunk` bytes per call
(if that is zero, it never takes any) and `limit` bytes in all, and once full answers in the way it was
made to. If `interrupts` is set, every other call is interrupted first.
-/

namespace ClusterTrials.Output

/-- What a full writer does when offered more. -/
inductive WhenFull
  | takesNothing
  | panics
  | fails (error : IoError)
  deriving DecidableEq, Repr

structure Room where
  limit : Option Nat := none
  chunk : Option Nat := none
  whenFull : WhenFull := .fails (.raised .brokenPipe "closed")
  interrupts : Bool := false
  /-- Whether the next call is to be interrupted. -/
  due : Bool := false
  /-- What was taken, in blocks, the last one first. -/
  blocks : List (List UInt8) := []
  deriving DecidableEq, Repr

namespace Room

def bytes (room : Room) : List UInt8 := room.blocks.reverse.flatten

def used (room : Room) : Nat := room.blocks.foldl (fun count block => count + block.length) 0

def isFull (room : Room) : Bool :=
  match room.limit with
  | some limit => limit ≤ room.used
  | none => false

def portion (room : Room) (offered : Nat) : Nat :=
  let left := match room.limit with
    | some limit => limit - room.used
    | none => offered
  let most := match room.chunk with
    | some chunk => min left chunk
    | none => left
  min most offered

def whenOffered (room : Room) (offered : List UInt8) : WriteStep × Room :=
  if room.isFull then
    match room.whenFull with
    | .takesNothing => (.accepted 0, room)
    | .panics => (.panicked, room)
    | .fails error => (.failed error, room)
  else
    let count := room.portion offered.length
    (.accepted count, { room with blocks := offered.take count :: room.blocks })

def write (room : Room) (offered : List UInt8) : WriteStep × Room :=
  if room.interrupts && room.due then (.interrupted, { room with due := false })
  else { room with due := room.interrupts }.whenOffered offered

def patience (room : Room) : Nat := if room.due then 1 else 0

theorem patience_lt_of_interrupted (room : Room) (offered : List UInt8) (room' : Room)
    (h : room.write offered = (.interrupted, room')) : room'.patience < room.patience := by
  unfold write at h
  split at h
  · rename_i hdue
    simp only [Bool.and_eq_true] at hdue
    obtain rfl := (Prod.mk.inj h).2
    simp [patience, hdue.2]
  · unfold whenOffered at h
    repeat' split at h
    all_goals simp at h

def writer : Writer Room where
  write := write
  patience room _ := room.patience
  patience_lt := patience_lt_of_interrupted

end Room

end ClusterTrials.Output
