import ClusterTrials.Proofs.Output.Calls
/-!
# Lines through a writer

A sink over a writer that notes its calls shows, for any writer and any lines, which bytes of each line
are taken, which call ends the line, and that a panic is the last thing that the writer is asked for.
-/

namespace ClusterTrials.Output

variable {σ : Type}

/-- What came of a line that was given to a sink. -/
structure Emit where
  message : String
  ending : EmitEnd
  calls : List Call

namespace Emit

def taken (emit : Emit) : List UInt8 := takenBy emit.calls

def line (emit : Emit) : List UInt8 := Text.encode emit.message ++ [10]

def withoutInterruptions (emit : Emit) : Emit :=
  { emit with calls := emit.calls.filter Call.isCompleted }

/-- The calls offer the line from where the calls before them left off, and end as the emit does. -/
structure IsExact (emit : Emit) : Prop where
  offered_prefix : ∀ before call after, emit.calls = before ++ call :: after →
    call.offered ≠ [] ∧ call.offered <+: emit.line.drop (takenBy before).length
  endsBy : EndsBy emit.calls emit.ending

end Emit

/-! ## One line -/

/-- The calls for one line, with what a sink whose writer notes them makes of them. -/
structure LineAccount (writer : Writer σ) (state : σ) (message : String) (calls : List Call) :
    Prop where
  noted : ∀ log, WriterSink.writeLine writer.noted ⟨(state, log), false⟩ message =
    let line := WriterSink.writeLine writer ⟨state, false⟩ message
    ⟨line.ending, line.taken, ⟨(line.sink.state, log ++ calls), line.sink.locked⟩⟩
  uninterrupted : ∀ log,
    WriterSink.writeLine writer.uninterrupted.noted ⟨(state, log), false⟩ message =
      let line := WriterSink.writeLine writer ⟨state, false⟩ message
      ⟨line.ending, line.taken,
        ⟨(line.sink.state, log ++ calls.filter Call.isCompleted), line.sink.locked⟩⟩
  taken : (WriterSink.writeLine writer ⟨state, false⟩ message).taken = takenBy calls
  leads : Leads writer state calls (WriterSink.writeLine writer ⟨state, false⟩ message).sink.state
  course : Course [Text.encode message, [10]] calls
    (WriterSink.writeLine writer ⟨state, false⟩ message).ending
  locked : (WriterSink.writeLine writer ⟨state, false⟩ message).sink.locked = true ↔
    (WriterSink.writeLine writer ⟨state, false⟩ message).ending = .panicked

namespace WriterSink

theorem settle_eq (written : Written σ) :
    settle written = ⟨written.ending.forLine, written.taken,
      ⟨written.state, written.ending = .panicked⟩⟩ := by
  unfold settle
  split <;> rename_i hending <;> simp [hending, WriteEnd.forLine]

theorem forLine_eq_panicked (ending : WriteEnd) :
    decide (ending = .panicked) = true ↔ ending.forLine = .panicked := by
  cases ending <;> simp [WriteEnd.forLine]

theorem writeLine_eq (writer : Writer σ) (state : σ) (message : String) :
    writeLine writer ⟨state, false⟩ message =
      let first := writer.writeAll state (Text.encode message)
      if first.ending = .complete then
        let last := settle (writer.writeAll first.state [10])
        { last with taken := first.taken ++ last.taken }
      else settle first := by
  unfold writeLine
  cases hending : (writer.writeAll state (Text.encode message)).ending <;> simp [hending]

theorem exists_lineAccount (writer : Writer σ) (state : σ) (message : String) :
    ∃ calls, LineAccount writer state message calls := by
  obtain ⟨calls, hfirst⟩ := exists_account writer state (Text.encode message)
  have hcourse := hfirst.course
  by_cases hcomplete : (writer.writeAll state (Text.encode message)).ending = .complete
  · obtain ⟨more, hlast⟩ :=
      exists_account writer (writer.writeAll state (Text.encode message)).state [10]
    rw [hcomplete] at hcourse
    refine ⟨calls ++ more, ⟨fun log => ?_, fun log => ?_, ?_, ?_, ?_, ?_⟩⟩
    all_goals simp only [writeLine_eq, hfirst.noted, hfirst.uninterrupted, hcomplete, if_true,
      hlast.noted, hlast.uninterrupted, settle_eq]
    · rw [List.append_assoc]
    · rw [List.filter_append, List.append_assoc]
    · rw [hfirst.taken, hlast.taken, takenBy_append]
    · exact hfirst.leads.append hlast.leads
    · exact hcourse.append hlast.course
    · exact forLine_eq_panicked _
  · have hstopped : (writer.writeAll state (Text.encode message)).ending.forLine ≠ .written := by
      cases hending : (writer.writeAll state (Text.encode message)).ending with
      | complete => exact absurd hending hcomplete
      | failed error => simp [WriteEnd.forLine]
      | panicked => simp [WriteEnd.forLine]
    refine ⟨calls, ⟨fun log => ?_, fun log => ?_, ?_, ?_, ?_, ?_⟩⟩
    all_goals simp only [writeLine_eq, hfirst.noted, hfirst.uninterrupted, if_neg hcomplete,
      settle_eq]
    · exact hfirst.taken
    · exact hfirst.leads
    · exact hcourse.extend hstopped
    · exact forLine_eq_panicked _

/-! ## Lines in a row -/

/-- Gives a line to the sink, and tells which calls of the writer that took. -/
def emitNoted (writer : Writer σ) (sink : WriterSink σ) (message : String) :
    Emit × WriterSink σ :=
  let line := writeLine writer.noted ⟨(sink.state, []), sink.locked⟩ message
  (⟨message, line.ending, line.sink.state.2⟩, ⟨line.sink.state.1, line.sink.locked⟩)

def emitEach (writer : Writer σ) : WriterSink σ → List String → List Emit × WriterSink σ
  | sink, [] => ([], sink)
  | sink, message :: messages =>
    let first := sink.emitNoted writer message
    let rest := emitEach writer first.2 messages
    (first.1 :: rest.1, rest.2)

def writeLines (writer : Writer σ) :
    WriterSink σ → List String → List (EmitEnd × List UInt8) × WriterSink σ
  | sink, [] => ([], sink)
  | sink, message :: messages =>
    let line := sink.writeLine writer message
    let rest := writeLines writer line.sink messages
    ((line.ending, line.taken) :: rest.1, rest.2)

variable (writer : Writer σ) (message : String)

theorem emitNoted_locked (state : σ) :
    emitNoted writer ⟨state, true⟩ message = (⟨message, .failed lockedError, []⟩, ⟨state, true⟩) :=
  rfl

theorem emitNoted_open (state : σ) :
    ∃ calls, LineAccount writer state message calls ∧
      emitNoted writer ⟨state, false⟩ message =
        (⟨message, (writeLine writer ⟨state, false⟩ message).ending, calls⟩,
          (writeLine writer ⟨state, false⟩ message).sink) := by
  obtain ⟨calls, haccount⟩ := exists_lineAccount writer state message
  refine ⟨calls, haccount, ?_⟩
  simp only [emitNoted, haccount.noted, List.nil_append]

/-- What a step of a row of lines is, whether the sink is locked or not. -/
structure EmitSpec (writer : Writer σ) (sink : WriterSink σ) (message : String) (emit : Emit)
    (next : WriterSink σ) : Prop where
  message_eq : emit.message = message
  plain : (sink.writeLine writer message).ending = emit.ending ∧
    (sink.writeLine writer message).taken = emit.taken ∧ (sink.writeLine writer message).sink = next
  uninterrupted : sink.emitNoted writer.uninterrupted message = (emit.withoutInterruptions, next)
  leads : Leads writer sink.state emit.calls next.state
  taken_prefix : emit.taken <+: emit.line
  written_iff : emit.ending = .written ↔ emit.taken = emit.line
  exact : sink.locked = false → emit.IsExact
  refused : sink.locked = true → emit.ending = .failed lockedError ∧ emit.calls = []
  locked_iff : next.locked = true ↔ sink.locked = true ∨ emit.ending = .panicked

theorem emitNoted_spec (sink : WriterSink σ) :
    EmitSpec writer sink message (sink.emitNoted writer message).1
      (sink.emitNoted writer message).2 := by
  obtain ⟨state, locked⟩ := sink
  cases locked with
  | true =>
      rw [emitNoted_locked]
      exact
        { message_eq := rfl
          plain := ⟨rfl, rfl, rfl⟩
          uninterrupted := rfl
          leads := .nil state
          taken_prefix := List.nil_prefix
          written_iff := by simp [Emit.taken, Emit.line, takenBy]
          exact := by simp
          refused := fun _ => ⟨rfl, rfl⟩
          locked_iff := by simp }
  | false =>
      obtain ⟨calls, haccount, hemit⟩ := emitNoted_open writer message state
      rw [hemit]
      exact
        { message_eq := rfl
          plain := ⟨rfl, haccount.taken, rfl⟩
          uninterrupted := by simp [emitNoted, haccount.uninterrupted, Emit.withoutInterruptions]
          leads := haccount.leads
          taken_prefix := haccount.course.taken_prefix
          written_iff := haccount.course.written_iff
          exact := fun _ =>
            ⟨fun _ _ _ hcalls => haccount.course.offered_prefix hcalls,
              haccount.course.endsBy⟩
          refused := by simp
          locked_iff := haccount.locked.trans (by simp) }

section Rows

variable (sink : WriterSink σ) (messages : List String)

theorem map_message_emitEach : (sink.emitEach writer messages).1.map Emit.message = messages := by
  induction messages generalizing sink with
  | nil => rfl
  | cons message messages ih =>
      have hfirst := (emitNoted_spec writer message sink).message_eq
      simp [emitEach, hfirst, ih]

theorem writeLines_eq :
    sink.writeLines writer messages =
      ((sink.emitEach writer messages).1.map fun emit => (emit.ending, emit.taken),
        (sink.emitEach writer messages).2) := by
  induction messages generalizing sink with
  | nil => rfl
  | cons message messages ih =>
      obtain ⟨hending, htaken, hsink⟩ := (emitNoted_spec writer message sink).plain
      simp [writeLines, emitEach, hending, htaken, hsink, ih]

theorem leads_emitEach :
    Leads writer sink.state ((sink.emitEach writer messages).1.flatMap Emit.calls)
      (sink.emitEach writer messages).2.state := by
  induction messages generalizing sink with
  | nil => exact .nil _
  | cons message messages ih =>
      exact (emitNoted_spec writer message sink).leads.append (ih _)

/-- Interruptions leave no trace but in the notes. -/
theorem emitEach_uninterrupted :
    sink.emitEach writer.uninterrupted messages =
      ((sink.emitEach writer messages).1.map Emit.withoutInterruptions,
        (sink.emitEach writer messages).2) := by
  induction messages generalizing sink with
  | nil => rfl
  | cons message messages ih =>
      simp [emitEach, (emitNoted_spec writer message sink).uninterrupted, ih]

theorem taken_of_mem_emitEach {emit : Emit} (h : emit ∈ (sink.emitEach writer messages).1) :
    emit.taken <+: emit.line ∧ (emit.ending = .written ↔ emit.taken = emit.line) := by
  induction messages generalizing sink with
  | nil => cases h
  | cons message messages ih =>
      rcases List.mem_cons.1 h with rfl | hrest
      · have hfirst := emitNoted_spec writer message sink
        exact ⟨hfirst.taken_prefix, hfirst.written_iff⟩
      · exact ih _ hrest

/-- A sink that is locked, or becomes so by a panic, refuses every later line. -/
theorem emitEach_split {before after : List Emit} {emit : Emit}
    (h : (sink.emitEach writer messages).1 = before ++ emit :: after) :
    (sink.locked = false → (∀ earlier ∈ before, earlier.ending ≠ .panicked) → emit.IsExact) ∧
      ((sink.locked = true ∨ ∃ earlier ∈ before, earlier.ending = .panicked) →
        emit.ending = .failed lockedError ∧ emit.calls = []) := by
  induction messages generalizing sink before with
  | nil => simp [emitEach] at h
  | cons message messages ih =>
      have hfirst := emitNoted_spec writer message sink
      cases before with
      | nil =>
          obtain ⟨rfl, -⟩ := List.cons.inj h
          refine ⟨fun hopen _ => hfirst.exact hopen, fun hlocked => hfirst.refused ?_⟩
          simpa using hlocked
      | cons first before =>
          obtain ⟨rfl, hrest⟩ := List.cons.inj h
          obtain ⟨hexact, hrefused⟩ := ih _ hrest
          refine ⟨fun hopen hcalm => hexact ?_ ?_, fun hlocked => hrefused ?_⟩
          · rw [Bool.eq_false_iff, Ne, hfirst.locked_iff, hopen]
            simpa using hcalm _ List.mem_cons_self
          · exact fun earlier hmem => hcalm earlier (List.mem_cons_of_mem _ hmem)
          · rw [hfirst.locked_iff, or_assoc]
            simpa using hlocked

end Rows

end WriterSink

/-- A writer that keeps what it takes has kept all that was taken by these calls. -/
theorem Leads.kept {writer : Writer σ} {kept : σ → List UInt8}
    (hkept : ∀ state offered, kept (writer.write state offered).2 =
      kept state ++ Call.taken ⟨offered, (writer.write state offered).1⟩)
    {state last : σ} {calls : List Call} (h : Leads writer state calls last) :
    kept last = kept state ++ takenBy calls := by
  induction h with
  | nil => simp [takenBy]
  | @cons state next last offered step calls hwrite rest ih =>
      have hfirst := hkept state offered
      rw [hwrite] at hfirst
      rw [ih, hfirst, List.append_assoc]
      rfl

/-- Lines that are given in a row to a sink over any writer. Of each line a prefix is taken, and all of it
exactly if the line is written. The calls for a line offer it from where the calls before left off; none
of them ends a line that is written, and the last one alone ends any other, with its error or a panic.
Behind a panic every line is refused without a call. The sink hands back the writer that these calls lead
to, and interruptions change nothing but which calls were made. -/
theorem emitEach_exact (writer : Writer σ) (state : σ) (messages : List String) :
    let sink : WriterSink σ := { state }
    let run := sink.emitEach writer messages
    run.1.map Emit.message = messages ∧
    sink.writeLines writer messages = (run.1.map fun emit => (emit.ending, emit.taken), run.2) ∧
    (∀ emit ∈ run.1,
      emit.taken <+: emit.line ∧ (emit.ending = .written ↔ emit.taken = emit.line)) ∧
    (∀ before emit after, run.1 = before ++ emit :: after →
      ((∀ earlier ∈ before, earlier.ending ≠ .panicked) → emit.IsExact) ∧
      ((∃ earlier ∈ before, earlier.ending = .panicked) →
        emit.ending = .failed (.raised .other "output writer lock poisoned") ∧ emit.calls = [])) ∧
    Leads writer state (run.1.flatMap Emit.calls) run.2.intoInner ∧
    (∀ kept : σ → List UInt8,
      (∀ state offered, kept (writer.write state offered).2 =
        kept state ++ Call.taken ⟨offered, (writer.write state offered).1⟩) →
      kept run.2.intoInner = kept state ++ run.1.flatMap Emit.taken) ∧
    sink.emitEach writer.uninterrupted messages =
      (run.1.map Emit.withoutInterruptions, run.2) := by
  intro sink run
  have hleads : Leads writer state (run.1.flatMap Emit.calls) run.2.intoInner := by
    rw [WriterSink.intoInner_eq]
    exact sink.leads_emitEach writer messages
  refine ⟨sink.map_message_emitEach writer messages, sink.writeLines_eq writer messages,
    fun emit => sink.taken_of_mem_emitEach writer messages, fun before emit after hrun => ?_,
    hleads, fun kept hkept => ?_, sink.emitEach_uninterrupted writer messages⟩
  · obtain ⟨hexact, hrefused⟩ := sink.emitEach_split writer messages hrun
    exact ⟨hexact rfl, fun hpanicked => hrefused (.inr hpanicked)⟩
  · rw [hleads.kept hkept, takenBy, List.flatMap_assoc]
    rfl

end ClusterTrials.Output
