import ClusterTrials.Output.Sink
/-!
# Calls of a writer

A writer that notes its calls shows how texts are written in turn: each call is offered what is left of
a text, up to the call that ends the line or to the end of the last text. Taking notes changes nothing
else, and calls that were interrupted can be left out.
-/

namespace ClusterTrials.Output

/-- A call of a writer: the bytes that it was offered, and what it did. -/
structure Call where
  offered : List UInt8
  step : WriteStep
  deriving DecidableEq, Repr

namespace Call

def taken (call : Call) : List UInt8 :=
  match call.step with
  | .accepted count => call.offered.take count
  | _ => []

/-- How the line ends for which the call is made, unless it goes on. -/
def ending? (call : Call) : Option EmitEnd :=
  match call.step with
  | .accepted 0 => some (.failed (.fixed .writeZero "failed to write whole buffer"))
  | .accepted (_ + 1) | .interrupted => none
  | .failed error => some (.failed error)
  | .panicked => some .panicked

def isCompleted (call : Call) : Bool := call.step ≠ .interrupted

end Call

def takenBy (calls : List Call) : List UInt8 := calls.flatMap Call.taken

theorem takenBy_append (calls more : List Call) :
    takenBy (calls ++ more) = takenBy calls ++ takenBy more := List.flatMap_append

/-! ## How texts are written in turn -/

/-- The calls that are made to write texts in turn, and how that ends. -/
inductive Course : List (List UInt8) → List Call → EmitEnd → Prop
  | done : Course [] [] .written
  | next {texts : List (List UInt8)} {calls : List Call} {ending : EmitEnd}
      (rest : Course texts calls ending) : Course ([] :: texts) calls ending
  | part {b : UInt8} {bytes : List UInt8} {texts : List (List UInt8)} {calls : List Call}
      {ending : EmitEnd} (count : Nat) (rest : Course (bytes.drop count :: texts) calls ending) :
      Course ((b :: bytes) :: texts) (⟨b :: bytes, .accepted (count + 1)⟩ :: calls) ending
  | again {b : UInt8} {bytes : List UInt8} {texts : List (List UInt8)} {calls : List Call}
      {ending : EmitEnd} (rest : Course ((b :: bytes) :: texts) calls ending) :
      Course ((b :: bytes) :: texts) (⟨b :: bytes, .interrupted⟩ :: calls) ending
  | stopped {b : UInt8} {bytes : List UInt8} {texts : List (List UInt8)} {step : WriteStep}
      {ending : EmitEnd} (h : Call.ending? ⟨b :: bytes, step⟩ = some ending) :
      Course ((b :: bytes) :: texts) [⟨b :: bytes, step⟩] ending

namespace Call

theorem taken_of_ending? {call : Call} {ending : EmitEnd} (h : call.ending? = some ending) :
    call.taken = [] := by
  unfold ending? at h
  unfold taken
  split at h
  · rename_i hstep
    simp [hstep]
  all_goals simp_all

theorem ending?_ne_written (call : Call) : call.ending? ≠ some .written := by
  unfold ending?
  split <;> simp

end Call

/-- The calls end a line so: none of them does if the line is written, and the last one if not. -/
def EndsBy (calls : List Call) (ending : EmitEnd) : Prop :=
  (ending = .written ∧ ∀ call ∈ calls, call.ending? = none) ∨
    ∃ before last, calls = before ++ [last] ∧ (∀ call ∈ before, call.ending? = none) ∧
      last.ending? = some ending

theorem EndsBy.cons {call : Call} {calls : List Call} {ending : EmitEnd}
    (h : EndsBy calls ending) (hcall : call.ending? = none) : EndsBy (call :: calls) ending := by
  rcases h with ⟨hwritten, hall⟩ | ⟨before, last, rfl, hall, hlast⟩
  · exact .inl ⟨hwritten, List.forall_mem_cons.2 ⟨hcall, hall⟩⟩
  · exact .inr ⟨call :: before, last, rfl, List.forall_mem_cons.2 ⟨hcall, hall⟩, hlast⟩

namespace Course

variable {texts texts' : List (List UInt8)} {calls calls' : List Call} {ending ending' : EmitEnd}

theorem append (h : Course texts calls .written) (h' : Course texts' calls' ending') :
    Course (texts ++ texts') (calls ++ calls') ending' := by
  generalize hending : EmitEnd.written = ending at h
  induction h with
  | done => exact h'
  | next rest ih => exact .next (ih hending)
  | part count rest ih => exact .part count (ih hending)
  | again rest ih => exact .again (ih hending)
  | stopped hstop =>
      rw [← hending] at hstop
      exact absurd hstop (Call.ending?_ne_written _)

theorem extend (h : Course texts calls ending) (hending : ending ≠ .written) :
    Course (texts ++ texts') calls ending := by
  induction h with
  | done => exact absurd rfl hending
  | next rest ih => exact .next (ih hending)
  | part count rest ih => exact .part count (ih hending)
  | again rest ih => exact .again (ih hending)
  | stopped hstop => exact .stopped hstop

private theorem flatten_eq_take (b : UInt8) (bytes : List UInt8) (texts : List (List UInt8))
    (count : Nat) :
    ((b :: bytes) :: texts).flatten =
      b :: bytes.take count ++ (bytes.drop count :: texts).flatten := by
  simp [← List.append_assoc]

theorem taken_prefix (h : Course texts calls ending) : takenBy calls <+: texts.flatten := by
  induction h with
  | done => exact List.prefix_rfl
  | next rest ih => simpa using ih
  | @part b bytes texts calls ending count rest ih =>
      rw [flatten_eq_take b bytes texts count]
      exact (List.prefix_append_right_inj _).2 ih
  | again rest ih => exact ih
  | stopped hstop =>
      have htaken := Call.taken_of_ending? hstop
      simp [takenBy, htaken]

theorem written_iff (h : Course texts calls ending) :
    ending = .written ↔ takenBy calls = texts.flatten := by
  induction h with
  | done => simp [takenBy]
  | next rest ih => simpa using ih
  | @part b bytes texts calls ending count rest ih =>
      rw [ih, flatten_eq_take b bytes texts count]
      exact (List.append_right_inj _).symm
  | again rest ih => exact ih
  | @stopped b bytes texts step ending hstop =>
      have htaken := Call.taken_of_ending? hstop
      have hending : ending ≠ .written := by
        rintro rfl
        exact Call.ending?_ne_written _ hstop
      simp [takenBy, htaken, hending]

/-- Each call is offered bytes from where the calls before it left off. -/
theorem offered_prefix (h : Course texts calls ending) {before after : List Call} {call : Call}
    (hcalls : calls = before ++ call :: after) :
    call.offered ≠ [] ∧ call.offered <+: texts.flatten.drop (takenBy before).length := by
  induction h generalizing before with
  | done => simp at hcalls
  | next rest ih => exact ih hcalls
  | @part b bytes texts calls ending count rest ih =>
      cases before with
      | nil =>
          obtain ⟨rfl, -⟩ := List.cons.inj hcalls
          exact ⟨List.cons_ne_nil _ _, List.prefix_append _ _⟩
      | cons first before =>
          obtain ⟨rfl, hrest⟩ := List.cons.inj hcalls
          have hlength : (takenBy (⟨b :: bytes, .accepted (count + 1)⟩ :: before)).length =
              (b :: bytes.take count).length + (takenBy before).length := by
            rw [← List.length_append]
            rfl
          rw [flatten_eq_take b bytes texts count, hlength, List.drop_length_add_append]
          exact ih hrest
  | again rest ih =>
      cases before with
      | nil =>
          obtain ⟨rfl, -⟩ := List.cons.inj hcalls
          exact ⟨List.cons_ne_nil _ _, List.prefix_append _ _⟩
      | cons first before =>
          obtain ⟨rfl, hrest⟩ := List.cons.inj hcalls
          exact @ih before hrest
  | stopped hstop =>
      cases before with
      | nil =>
          obtain ⟨rfl, -⟩ := List.cons.inj hcalls
          exact ⟨List.cons_ne_nil _ _, List.prefix_append _ _⟩
      | cons first before => simp at hcalls

theorem endsBy (h : Course texts calls ending) : EndsBy calls ending := by
  induction h with
  | done => exact .inl ⟨rfl, nofun⟩
  | next rest ih => exact ih
  | part count rest ih => exact ih.cons rfl
  | again rest ih => exact ih.cons rfl
  | stopped hstop => exact .inr ⟨[], _, rfl, nofun, hstop⟩

end Course

/-! ## Writers that note their calls -/

section Writers

variable {σ : Type}

/-- These calls lead the writer from one state to another. -/
inductive Leads (writer : Writer σ) : σ → List Call → σ → Prop
  | nil (state : σ) : Leads writer state [] state
  | cons {state next last : σ} {offered : List UInt8} {step : WriteStep} {calls : List Call}
      (h : writer.write state offered = (step, next)) (rest : Leads writer next calls last) :
      Leads writer state (⟨offered, step⟩ :: calls) last

theorem Leads.append {writer : Writer σ} {state next last : σ} {calls more : List Call}
    (h : Leads writer state calls next) (h' : Leads writer next more last) :
    Leads writer state (calls ++ more) last := by
  induction h with
  | nil => exact h'
  | cons hwrite rest ih => exact .cons hwrite (ih h')

namespace Writer

/-- The same writer, which also notes its calls. -/
def noted (writer : Writer σ) : Writer (σ × List Call) where
  write state bytes :=
    let (step, next) := writer.write state.1 bytes
    (step, (next, state.2 ++ [⟨bytes, step⟩]))
  patience state bytes := writer.patience state.1 bytes
  patience_lt := by
    intro state bytes next h
    have hstep := (Prod.mk.inj h).1
    have hnext := (Prod.mk.inj h).2
    rw [← hnext]
    exact writer.patience_lt _ _ _ (Prod.ext hstep rfl)

/-- Offers the same bytes until the writer no longer asks for that. -/
def persist (writer : Writer σ) (state : σ) (bytes : List UInt8) : WriteStep × σ :=
  match _h : writer.write state bytes with
  | (.interrupted, next) => writer.persist next bytes
  | (.accepted count, next) => (.accepted count, next)
  | (.failed error, next) => (.failed error, next)
  | (.panicked, next) => (.panicked, next)
termination_by writer.patience state bytes
decreasing_by exact writer.patience_lt _ _ _ _h

theorem persist_of_interrupted {writer : Writer σ} {state next : σ} {bytes : List UInt8}
    (h : writer.write state bytes = (.interrupted, next)) :
    writer.persist state bytes = writer.persist next bytes := by
  rw [persist]
  split <;> simp_all

theorem persist_of_ne {writer : Writer σ} {state : σ} {bytes : List UInt8}
    (h : (writer.write state bytes).1 ≠ .interrupted) :
    writer.persist state bytes = writer.write state bytes := by
  rw [persist]
  split <;> simp_all

theorem persist_ne_interrupted (writer : Writer σ) (state : σ) (bytes : List UInt8) :
    (writer.persist state bytes).1 ≠ .interrupted := by
  induction state using persist.induct writer bytes with
  | case1 state next hwrite ih =>
      rw [persist_of_interrupted hwrite]
      exact ih
  | case2 state count next hwrite =>
      rw [persist_of_ne (by simp [hwrite]), hwrite]
      simp
  | case3 state error next hwrite =>
      rw [persist_of_ne (by simp [hwrite]), hwrite]
      simp
  | case4 state next hwrite =>
      rw [persist_of_ne (by simp [hwrite]), hwrite]
      simp

def uninterrupted (writer : Writer σ) : Writer σ where
  write := writer.persist
  patience _ _ := 0
  patience_lt := by
    intro state bytes next h
    exact absurd (congrArg Prod.fst h) (writer.persist_ne_interrupted state bytes)

theorem noted_write {writer : Writer σ} {state next : σ} {bytes : List UInt8} {step : WriteStep}
    (h : writer.write state bytes = (step, next)) (log : List Call) :
    writer.noted.write (state, log) bytes = (step, (next, log ++ [⟨bytes, step⟩])) := by
  simp [noted, h]

theorem uninterrupted_write {writer : Writer σ} {state next : σ} {bytes : List UInt8}
    {step : WriteStep} (h : writer.write state bytes = (step, next)) (hstep : step ≠ .interrupted) :
    writer.uninterrupted.write state bytes = (step, next) :=
  (persist_of_ne (by simpa [h] using hstep)).trans h

theorem writeAll_congr {writer : Writer σ} {state state' : σ} {b : UInt8} {bytes : List UInt8}
    (h : writer.write state (b :: bytes) = writer.write state' (b :: bytes)) :
    writer.writeAll state (b :: bytes) = writer.writeAll state' (b :: bytes) := by
  rw [writeAll_cons, writeAll_cons, h]

end Writer

def WriteEnd.forLine : WriteEnd → EmitEnd
  | .complete => .written
  | .failed error => .failed error
  | .panicked => .panicked

/-- The calls for one text, with what a writer that notes them makes of them. -/
structure Account (writer : Writer σ) (state : σ) (bytes : List UInt8) (calls : List Call) :
    Prop where
  noted : ∀ log, writer.noted.writeAll (state, log) bytes =
    ⟨(writer.writeAll state bytes).ending, (writer.writeAll state bytes).taken,
      ((writer.writeAll state bytes).state, log ++ calls)⟩
  uninterrupted : ∀ log, writer.uninterrupted.noted.writeAll (state, log) bytes =
    ⟨(writer.writeAll state bytes).ending, (writer.writeAll state bytes).taken,
      ((writer.writeAll state bytes).state, log ++ calls.filter Call.isCompleted)⟩
  taken : (writer.writeAll state bytes).taken = takenBy calls
  leads : Leads writer state calls (writer.writeAll state bytes).state
  course : Course [bytes] calls (writer.writeAll state bytes).ending.forLine

section Accounts

variable {writer : Writer σ} {state next : σ} {b : UInt8} {bytes : List UInt8} {calls : List Call}

theorem exists_writeAll_of_ending? {step : WriteStep} {ending : EmitEnd}
    (hstop : Call.ending? ⟨b :: bytes, step⟩ = some ending) :
    ∃ last : WriteEnd, last.forLine = ending ∧
      ∀ {τ : Type} {writer : Writer τ} {state next : τ},
        writer.write state (b :: bytes) = (step, next) →
          writer.writeAll state (b :: bytes) = ⟨last, [], next⟩ := by
  match step with
  | .accepted 0 =>
      refine ⟨.failed nothingTaken, Option.some_inj.1 hstop, fun hwrite => ?_⟩
      rw [Writer.writeAll_cons, hwrite]
  | .accepted (count + 1) => cases hstop
  | .interrupted => cases hstop
  | .failed error =>
      refine ⟨.failed error, Option.some_inj.1 hstop, fun hwrite => ?_⟩
      rw [Writer.writeAll_cons, hwrite]
  | .panicked =>
      refine ⟨.panicked, Option.some_inj.1 hstop, fun hwrite => ?_⟩
      rw [Writer.writeAll_cons, hwrite]

namespace Account

theorem stopped {step : WriteStep} {ending : EmitEnd}
    (hwrite : writer.write state (b :: bytes) = (step, next))
    (hstop : Call.ending? ⟨b :: bytes, step⟩ = some ending) :
    Account writer state (b :: bytes) [⟨b :: bytes, step⟩] := by
  have hstep : step ≠ .interrupted := by
    rintro rfl
    cases hstop
  obtain ⟨last, hlast, hwritten⟩ := exists_writeAll_of_ending? hstop
  have hplain := hwritten hwrite
  have hnoted : ∀ log, _ := fun log => hwritten (Writer.noted_write hwrite log)
  have hsteady := Writer.uninterrupted_write hwrite hstep
  refine ⟨fun log => ?_, fun log => ?_, ?_, ?_, ?_⟩
  · rw [hnoted, hplain]
  · rw [hwritten (Writer.noted_write hsteady log), hplain]
    simp [Call.isCompleted, hstep]
  · rw [hplain]
    simp [takenBy, Call.taken_of_ending? hstop]
  · rw [hplain]
    exact .cons hwrite (.nil next)
  · rw [hplain, hlast]
    exact .stopped hstop

theorem part {count : Nat} (hwrite : writer.write state (b :: bytes) = (.accepted (count + 1), next))
    (h : Account writer next (bytes.drop count) calls) :
    Account writer state (b :: bytes) (⟨b :: bytes, .accepted (count + 1)⟩ :: calls) := by
  have hplain : writer.writeAll state (b :: bytes) =
      { writer.writeAll next (bytes.drop count) with
        taken := b :: bytes.take count ++ (writer.writeAll next (bytes.drop count)).taken } := by
    rw [Writer.writeAll_cons, hwrite]
  have hsteady := Writer.uninterrupted_write hwrite (by simp)
  refine ⟨fun log => ?_, fun log => ?_, ?_, ?_, ?_⟩
  · rw [Writer.writeAll_cons, Writer.noted_write hwrite, hplain]
    simp [h.noted]
  · rw [Writer.writeAll_cons, Writer.noted_write hsteady, hplain]
    simp [h.uninterrupted, Call.isCompleted]
  · rw [hplain]
    simp [h.taken, takenBy, Call.taken]
  · rw [hplain]
    exact .cons hwrite h.leads
  · rw [hplain]
    exact .part count h.course

theorem again (hwrite : writer.write state (b :: bytes) = (.interrupted, next))
    (h : Account writer next (b :: bytes) calls) :
    Account writer state (b :: bytes) (⟨b :: bytes, .interrupted⟩ :: calls) := by
  have hplain : writer.writeAll state (b :: bytes) = writer.writeAll next (b :: bytes) := by
    rw [Writer.writeAll_cons, hwrite]
  refine ⟨fun log => ?_, fun log => ?_, ?_, ?_, ?_⟩
  · rw [Writer.writeAll_cons, Writer.noted_write hwrite, hplain]
    simp [h.noted]
  · have hsame : writer.uninterrupted.noted.write (state, log) (b :: bytes) =
        writer.uninterrupted.noted.write (next, log) (b :: bytes) := by
      simp [Writer.noted, Writer.uninterrupted, Writer.persist_of_interrupted hwrite]
    rw [Writer.writeAll_congr hsame, h.uninterrupted, hplain]
    simp [Call.isCompleted]
  · rw [hplain, h.taken]
    rfl
  · rw [hplain]
    exact .cons hwrite h.leads
  · rw [hplain]
    exact .again h.course

end Account

end Accounts

theorem exists_account (writer : Writer σ) (state : σ) (bytes : List UInt8) :
    ∃ calls, Account writer state bytes calls := by
  induction state, bytes using Writer.writeAll.induct writer with
  | case1 state =>
      refine ⟨[], fun log => ?_, fun log => ?_, ?_, ?_, ?_⟩
      all_goals simp only [Writer.writeAll, List.filter_nil, List.append_nil]
      · rfl
      · exact .nil state
      · exact .next .done
  | case2 state b rest next hwrite => exact ⟨_, .stopped hwrite rfl⟩
  | case3 state b rest count next hwrite ih =>
      obtain ⟨calls, haccount⟩ := ih
      exact ⟨_, haccount.part hwrite⟩
  | case4 state b rest next hwrite ih =>
      obtain ⟨calls, haccount⟩ := ih
      exact ⟨_, haccount.again hwrite⟩
  | case5 state b rest error next hwrite => exact ⟨_, .stopped hwrite rfl⟩
  | case6 state b rest next hwrite => exact ⟨_, .stopped hwrite rfl⟩

end Writers

end ClusterTrials.Output
