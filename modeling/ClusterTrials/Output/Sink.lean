import ClusterTrials.Output.Room
import ClusterTrials.Text.Utf8
/-!
# Where progress lines go

A sink takes lines one at a time and ends each with a newline. It may collect them in memory, print
them to standard error, or pass their bytes to a writer. A writer that panics leaves its sink locked:
the sink then refuses every later line without calling the writer again.
-/

namespace ClusterTrials.Output

/-- How emitting one line ended. -/
inductive EmitEnd
  | written
  | failed (error : IoError)
  | panicked
  deriving DecidableEq, Repr

/-- What emitting one line did. -/
structure Emission (S : Type) where
  ending : EmitEnd
  sink : S
  /-- What went to standard error. -/
  printed : String := ""

class LineSink (S : Type) where
  emit : S → String → Emission S

structure WriterSink (σ : Type) where
  state : σ
  locked : Bool := false

namespace WriterSink

def lockedError : IoError := .raised .other "output writer lock poisoned"

/-- What became of one line: how it ended, the bytes that were taken of it, and the sink. -/
structure Line (σ : Type) where
  ending : EmitEnd
  taken : List UInt8
  sink : WriterSink σ

variable {σ : Type}

def settle (written : Written σ) : Line σ :=
  match written.ending with
  | .complete => ⟨.written, written.taken, ⟨written.state, false⟩⟩
  | .failed error => ⟨.failed error, written.taken, ⟨written.state, false⟩⟩
  | .panicked => ⟨.panicked, written.taken, ⟨written.state, true⟩⟩

def writeLine (writer : Writer σ) (sink : WriterSink σ) (message : String) : Line σ :=
  if sink.locked then ⟨.failed lockedError, [], sink⟩
  else
    let first := writer.writeAll sink.state (Text.encode message)
    match first.ending with
    | .complete =>
      let last := settle (writer.writeAll first.state [10])
      { last with taken := first.taken ++ last.taken }
    | _ => settle first

/-- The writer behind the lock, which a panic has made an error. -/
def unlocked (sink : WriterSink σ) : Except σ σ :=
  if sink.locked then .error sink.state else .ok sink.state

/-- Hands back the writer, whether or not the sink is locked. -/
def intoInner (sink : WriterSink σ) : σ :=
  match sink.unlocked with
  | .ok writer => writer
  | .error writer => writer

theorem intoInner_eq (sink : WriterSink σ) : sink.intoInner = sink.state := by
  unfold intoInner unlocked
  cases sink.locked <;> rfl

end WriterSink

inductive Sink
  | memory (lines : List String)
  | room (sink : WriterSink Room)
  | standardError
  /-- Another sink under a handle. -/
  | handle (inner : Sink)

namespace Sink

def emit : Sink → String → Emission Sink
  | .memory lines, message => { ending := .written, sink := .memory (lines ++ [message]) }
  | .room sink, message =>
    let line := sink.writeLine Room.writer message
    { ending := line.ending, sink := .room line.sink }
  | .standardError, message =>
    { ending := .written, sink := .standardError, printed := message ++ "\n" }
  | .handle inner, message =>
    let emission := inner.emit message
    { emission with sink := .handle emission.sink }

instance : LineSink Sink := ⟨emit⟩

end Sink

end ClusterTrials.Output
