import ClusterTrials.Proofs.Cluster.Simulation
import ClusterTrials.Proofs.Cluster.Visiting
/-!
# Removals stop at the first failure

A removal that notes what it does asks for the hosts once and then visits them in turn, each with the
same command, up to the first visit that fails. Taking notes changes nothing else.
-/

namespace ClusterTrials.Cluster

inductive Move
  | asked (answer : Except Error (List String))
  | visited (visit : Visit)

namespace Course

variable {command : String} {hosts : List String} {visits : List Visit}
  {result : Except Error Unit}

/-- Only the last visit may fail. -/
theorem isOk_of_succ_lt (h : Course command hosts visits result) :
    ∀ i (hi : i < visits.length), i + 1 < visits.length → visits[i].isOk = true := by
  induction h with
  | done => exact fun i hi _ => absurd hi (Nat.not_lt_zero i)
  | failed host hosts error => exact fun i _ hnext => absurd hnext (by simp)
  | next output rest ih =>
      intro i hi hnext
      cases i with
      | zero => rfl
      | succ i => exact ih i (Nat.lt_of_succ_lt_succ hi) (Nat.lt_of_succ_lt_succ hnext)

theorem pairs_eq_take (h : Course command hosts visits result) :
    visits.map Visit.pair = (hosts.take visits.length).map fun host => (host, command) := by
  have htake := List.prefix_iff_eq_take.1 h.pair_prefix
  rwa [List.length_map, ← List.map_take] at htake

/-- Either every host was visited without a failure, or the last visit failed and its error is the
result. -/
theorem ends (h : Course command hosts visits result) :
    (visits.length = hosts.length ∧ (∀ visit ∈ visits, visit.isOk = true) ∧ result = .ok ()) ∨
      ∃ last error, visits.getLast? = some last ∧ last.result = .error error ∧
        result = .error error := by
  cases result with
  | ok _ =>
      obtain ⟨hpairs, hok⟩ := h.ok_iff.1 rfl
      have hlength := congrArg List.length hpairs
      rw [List.length_map, List.length_map] at hlength
      exact .inl ⟨hlength, hok, rfl⟩
  | error error =>
      obtain ⟨last, hlast, hresult⟩ := Option.map_eq_some_iff.1 (h.error_eq_last rfl)
      exact .inr ⟨last, error, hlast, hresult, rfl⟩

end Course

section Traces

variable {m : Type → Type} [Monad m]

/-- Removes what the glob matches on every private agent, and says what was done for that. -/
def reclaimTraced (topology : Topology m) (executor : Executor m) (log : LogEntry → m Unit)
    (glob : String) : m (Except Error Unit × List Move) :=
  (reclaim (noting .asked topology) (executor.noted .visited) (fun entry => log entry) glob).run []

theorem fst_map_reclaimTraced [LawfulMonad m] (topology : Topology m) (executor : Executor m)
    (log : LogEntry → m Unit) (glob : String) :
    Prod.fst <$> reclaimTraced topology executor log glob = reclaim topology executor log glob :=
  reclaim_rel (Retry.Simulation.erasure m (List Move)) (erasure_noting _ _)
    (fun _ _ => erasure_noting _ _) (fun _ => erasure_lift _) glob []

end Traces

/-- A removal asks for the hosts once. If that fails, its error is the result and nothing else is
done. Otherwise the hosts are visited in their order and with the same command, each only after the
visit before it went well. The result is the error of the visit that fails, which is the last one, or
success after a visit of every host. -/
theorem reclaim_visits_in_order {ω : Type} (topology : Topology (StateM ω))
    (executor : Executor (StateM ω)) (log : LogEntry → StateM ω Unit) (glob : String) (w : ω) :
    let traced := reclaimTraced topology executor log glob w
    let answer := (topology w).1
    let command := "sudo rm -rf " ++ glob
    reclaim topology executor log glob w = (traced.1.1, traced.2) ∧
    (∀ error, answer = .error error → traced.1 = (.error error, [.asked answer])) ∧
    (∀ hosts, answer = .ok hosts → ∃ visits : List Visit,
      traced.1.2 = .asked answer :: visits.map .visited ∧
      visits.map Visit.pair = (hosts.take visits.length).map (fun host => (host, command)) ∧
      (∀ i (hi : i < visits.length), i + 1 < visits.length → visits[i].isOk = true) ∧
      ((visits.length = hosts.length ∧ (∀ visit ∈ visits, visit.isOk = true) ∧
          traced.1.1 = .ok ()) ∨
        ∃ last error, visits.getLast? = some last ∧ last.result = .error error ∧
          traced.1.1 = .error error)) ∧
    reclaimFrameworks topology executor log =
      reclaim topology executor log "/var/lib/mesos/slave/slaves/*/frameworks/*" := by
  intro traced answer command
  have htopology := noting_apply Move.asked topology [] w
  refine ⟨?_, ?_, ?_, rfl⟩
  · exact (congrFun (fst_map_reclaimTraced topology executor log glob) w).symm
  · intro error herror
    rw [show (topology w).1 = .error error from herror] at htopology
    rw [herror]
    exact congrArg Prod.fst (bind_apply_of_eq htopology)
  · intro hosts hhosts
    rw [show (topology w).1 = .ok hosts from hhosts] at htopology
    let notedLog : LogEntry → StateT (List Move) (StateM ω) Unit := fun entry => log entry
    have hlog : ∀ entry notes w, ∃ w', notedLog entry notes w = (((), notes), w') :=
      fun entry notes w => ⟨(log entry w).2, rfl⟩
    obtain ⟨visits, result, w', hcourse, hrun⟩ := runOnEach_course executor Move.visited hlog
      command hosts [.asked (.ok hosts)] (log (reclaimEntry hosts) (topology w).2).2
    have htraced : traced = ((result, .asked (.ok hosts) :: visits.map .visited), w') :=
      (bind_apply_of_eq htopology).trans hrun
    rw [htraced, hhosts]
    exact ⟨visits, rfl, hcourse.pairs_eq_take, hcourse.isOk_of_succ_lt, hcourse.ends⟩

end ClusterTrials.Cluster
