import ClusterTrials.IoError
/-!
# Writing all of a text to a writer that takes it in parts

A writer takes any part of the bytes it is offered, or none, or fails. It may also ask to be called
again with the same bytes, but only so many times in a row: its `patience` drops each time, so that
`writeAll` ends.
-/

namespace ClusterTrials.Output

/-- What one call of a writer did. -/
inductive WriteStep
  /-- The first `count` of the offered bytes were taken. -/
  | accepted (count : Nat)
  /-- Nothing was taken, and the call is to be made again. -/
  | interrupted
  | failed (error : IoError)
  | panicked
  deriving DecidableEq, Repr

structure Writer (σ : Type) where
  write : σ → List UInt8 → WriteStep × σ
  /-- A bound on the interruptions that come in a row while the same bytes are offered. -/
  patience : σ → List UInt8 → Nat
  patience_lt : ∀ state bytes state', write state bytes = (.interrupted, state') →
    patience state' bytes < patience state bytes

/-- How writing a text ended. -/
inductive WriteEnd
  | complete
  | failed (error : IoError)
  | panicked
  deriving DecidableEq, Repr

structure Written (σ : Type) where
  ending : WriteEnd
  /-- The bytes that the writer took, in order. -/
  taken : List UInt8
  state : σ

def nothingTaken : IoError := .fixed .writeZero "failed to write whole buffer"

/-- Offers the bytes, and what is left of them, until all are taken or the writer fails. -/
def Writer.writeAll {σ : Type} (writer : Writer σ) (state : σ) (bytes : List UInt8) : Written σ :=
  match bytes with
  | [] => ⟨.complete, [], state⟩
  | b :: rest =>
    match _h : writer.write state (b :: rest) with
    | (.accepted 0, state') => ⟨.failed nothingTaken, [], state'⟩
    | (.accepted (count + 1), state') =>
      let later := writer.writeAll state' (rest.drop count)
      { later with taken := b :: rest.take count ++ later.taken }
    | (.interrupted, state') => writer.writeAll state' (b :: rest)
    | (.failed error, state') => ⟨.failed error, [], state'⟩
    | (.panicked, state') => ⟨.panicked, [], state'⟩
termination_by (bytes.length, writer.patience state bytes)
decreasing_by
  · apply Prod.Lex.left
    simp only [List.length_drop, List.length_cons]
    omega
  · apply Prod.Lex.right
    exact writer.patience_lt _ _ _ _h

theorem Writer.writeAll_cons {σ : Type} (writer : Writer σ) (state : σ) (b : UInt8)
    (rest : List UInt8) :
    writer.writeAll state (b :: rest) =
      match writer.write state (b :: rest) with
      | (.accepted 0, state') => ⟨.failed nothingTaken, [], state'⟩
      | (.accepted (count + 1), state') =>
        let later := writer.writeAll state' (rest.drop count)
        { later with taken := b :: rest.take count ++ later.taken }
      | (.interrupted, state') => writer.writeAll state' (b :: rest)
      | (.failed error, state') => ⟨.failed error, [], state'⟩
      | (.panicked, state') => ⟨.panicked, [], state'⟩ := by
  rw [Writer.writeAll]
  split <;> rename_i hwrite <;> rw [hwrite]

end ClusterTrials.Output
