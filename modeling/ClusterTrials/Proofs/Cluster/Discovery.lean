import ClusterTrials.Cluster.Topology
import ClusterTrials.Proofs.Cluster.Summary
import ClusterTrials.Proofs.Text.Characters
/-!
# Which hosts are found

The answer of a cluster decides which hosts are found: those of its agents, in its order, none of whose
roles contains the name of the public role. Nothing else that the answer tells makes a difference.
-/

namespace ClusterTrials.Cluster

open Json

/-! ## Private agents -/

/-- Some of the agent's resources are reserved for a role whose name contains that of the public one. -/
def Agent.IsPublic (agent : Agent) : Prop :=
  ∃ role ∈ agent.roles, "slave_public".toList <:+: role.toList

instance (agent : Agent) : Decidable agent.IsPublic :=
  inferInstanceAs (Decidable (∃ role ∈ agent.roles, _))

def privateHostnames (agents : List Agent) : List String :=
  (agents.filter fun agent => ¬agent.IsPublic).map Agent.hostname

theorem occursIn_iff {part text : List Char} : occursIn part text = true ↔ part <:+: text := by
  induction text with
  | nil => simp [occursIn]
  | cons c text ih => rw [occursIn, Bool.or_eq_true, ih, List.isPrefixOf_iff_prefix, List.infix_cons_iff]

theorem Agent.isPrivate_eq (agent : Agent) : agent.isPrivate = decide ¬agent.IsPublic := by
  have hpublic : (agent.roles.any fun role => occursIn publicRole.toList role.toList) = true ↔
      agent.IsPublic := by
    simp only [List.any_eq_true, occursIn_iff]
    rfl
  rw [Agent.isPrivate, Bool.eq_iff_iff, Bool.not_eq_true', decide_eq_true_iff, ← hpublic,
    Bool.not_eq_true]

theorem StateSummary.privateHosts_eq_ok_iff {body : String} {hosts : List String} :
    privateHosts body = .ok hosts ↔
      ∃ document : Document, document.IsWrittenIn body ∧
        ∃ agents, IsSummary document agents ∧ hosts = privateHostnames agents := by
  have hhosts (agents : List Agent) :
      (agents.filter Agent.isPrivate).map Agent.hostname = privateHostnames agents := by
    rw [privateHostnames, funext Agent.isPrivate_eq]
  constructor
  · intro h
    cases hread : ofText body with
    | error reason => simp [privateHosts, hread, Except.map] at h
    | ok agents =>
        obtain ⟨document, hwritten, hsummary⟩ := ofText_eq_ok_iff.mp hread
        rw [privateHosts, hread, Except.map, hhosts] at h
        cases h
        exact ⟨document, hwritten, agents, hsummary, rfl⟩
  · rintro ⟨document, hwritten, agents, hsummary, rfl⟩
    rw [privateHosts, ofText_eq_ok_iff.mpr ⟨document, hwritten, hsummary⟩, Except.map, hhosts]

/-! ## Summaries and agents that are objects -/

inductive IsKeyedAgent : Document → Agent → Prop
  | object {fields : List (Option String × Document)} {agent : Agent}
      (h : AgentObject fields agent) : IsKeyedAgent (.object fields) agent

def itemsOf : Document → List Document
  | .array items => items
  | _ => []

def slavesIn (fields : List (Option String × Document)) : List Document :=
  (valuesAt "slaves" fields).flatMap itemsOf

theorem SummaryObject.forall₂_slavesIn {isAgent : Document → Agent → Prop}
    {fields : List (Option String × Document)} {agents : List Agent}
    (h : SummaryObject isAgent fields agents) : List.Forall₂ isAgent (slavesIn fields) agents := by
  obtain ⟨slaves, hslaves, rfl⟩ := h.slaves
  rw [slavesIn]
  generalize valuesAt "slaves" fields = values at hslaves
  cases hslaves with
  | absent => exact .nil
  | given hvalue =>
      obtain ⟨items, rfl, hagents⟩ := hvalue
      simpa [itemsOf] using hagents

theorem SummaryObject.isSummary {fields : List (Option String × Document)} {agents : List Agent}
    (h : SummaryObject IsKeyedAgent fields agents) : IsSummary (.object fields) agents := by
  have himp : ∀ document agent, IsKeyedAgent document agent → IsAgent document agent := by
    rintro document agent ⟨hagent⟩
    exact .object hagent
  obtain ⟨slaves, hslaves, hagents⟩ := h.slaves
  refine .object ⟨h.names, slaves, hslaves.imp ?_, hagents⟩
  rintro document agents ⟨items, hitems, hagents⟩
  exact ⟨items, hitems, hagents.imp himp⟩

theorem SummaryObject.keyed {fields : List (Option String × Document)} {agents : List Agent}
    (h : SummaryObject IsAgent fields agents)
    (harrays : ∀ slave ∈ slavesIn fields, ∀ items, slave ≠ .array items) :
    SummaryObject IsKeyedAgent fields agents := by
  obtain ⟨slaves, hslaves, rfl⟩ := h.slaves
  refine ⟨h.names, slaves, ?_, rfl⟩
  rw [slavesIn] at harrays
  generalize valuesAt "slaves" fields = values at hslaves harrays
  cases hslaves with
  | absent => exact .absent _
  | given hvalue =>
      obtain ⟨items, rfl, hagents⟩ := hvalue
      have hitems : ∀ item ∈ items, ∀ inner, item ≠ .array inner := by
        simpa [itemsOf] using harrays
      refine .given ⟨items, rfl, ((List.forall₂_and_left items _).mpr ⟨hitems, hagents⟩).imp ?_⟩
      rintro item agent ⟨hitem, hagent⟩
      cases hagent with
      | object hagent => exact .object hagent
      | name => exact absurd rfl (hitem _)
      | both => exact absurd rfl (hitem _)

/-! ## Answers -/

structure Response.IsWrittenOf (response : Response) (document : Document) : Prop where
  success : 200 ≤ response.status ∧ response.status < 300
  written : document.IsWrittenIn (Text.decodeLossy response.body)

theorem Response.IsWrittenOf.unique {response : Response} {document document' : Document}
    (h : response.IsWrittenOf document) (h' : response.IsWrittenOf document') :
    document = document' :=
  Document.tokens_inj
    (((document.isWrittenIn_iff _).mp h.written).symm.trans
      ((document'.isWrittenIn_iff _).mp h'.written))

namespace StateEndpoint

section Answers

variable [Wording] (endpoint : StateEndpoint) {response : Response}

theorem hostsIn_of_not_success (h : ¬(200 ≤ response.status ∧ response.status < 300)) :
    endpoint.hostsIn response = .error (.badStatus endpoint.url response.status) := by
  have hfailure : response.status < 200 ∨ 300 ≤ response.status := by omega
  rw [hostsIn, if_pos hfailure]

theorem hostsIn_of_success (h : 200 ≤ response.status ∧ response.status < 300) :
    endpoint.hostsIn response =
      (StateSummary.privateHosts (Text.decodeLossy response.body)).mapError
        (.malformedState endpoint.url · (Wording.refusal (Text.decodeLossy response.body))) := by
  have hsuccess : ¬(response.status < 200 ∨ 300 ≤ response.status) := by omega
  rw [hostsIn, if_neg hsuccess]
  cases StateSummary.privateHosts (Text.decodeLossy response.body) <;> rfl

theorem hostsIn_eq_ok_iff (h : 200 ≤ response.status ∧ response.status < 300)
    (hosts : List String) :
    endpoint.hostsIn response = .ok hosts ↔
      ∃ document agents, response.IsWrittenOf document ∧ IsSummary document agents ∧
        hosts = privateHostnames agents := by
  rw [hostsIn_of_success endpoint h]
  constructor
  · intro hok
    cases hread : StateSummary.privateHosts (Text.decodeLossy response.body) with
    | error reason => simp [hread, Except.mapError] at hok
    | ok hosts' =>
        obtain rfl : hosts' = hosts := by simpa [hread, Except.mapError] using hok
        obtain ⟨document, hwritten, agents, hsummary, hagents⟩ :=
          StateSummary.privateHosts_eq_ok_iff.mp hread
        exact ⟨document, agents, ⟨h, hwritten⟩, hsummary, hagents⟩
  · rintro ⟨document, agents, hwritten, hsummary, hagents⟩
    rw [StateSummary.privateHosts_eq_ok_iff.mpr
      ⟨document, hwritten.written, agents, hsummary, hagents⟩]
    rfl

theorem exists_malformedState (h : 200 ≤ response.status ∧ response.status < 300)
    (hnone : ¬∃ document agents, response.IsWrittenOf document ∧ IsSummary document agents) :
    ∃ reason, endpoint.hostsIn response = .error (.malformedState endpoint.url reason
      (Wording.refusal (Text.decodeLossy response.body))) := by
  cases hread : StateSummary.privateHosts (Text.decodeLossy response.body) with
  | error reason =>
      rw [hostsIn_of_success endpoint h, hread]
      exact ⟨reason, rfl⟩
  | ok hosts =>
      obtain ⟨document, hwritten, agents, hsummary, -⟩ :=
        StateSummary.privateHosts_eq_ok_iff.mp hread
      exact absurd ⟨document, agents, ⟨h, hwritten⟩, hsummary⟩ hnone

/-- A successful answer tells of hosts exactly if it is written of a summary. -/
theorem hostsIn_exact (h : 200 ≤ response.status ∧ response.status < 300) :
    (∀ hosts, endpoint.hostsIn response = .ok hosts ↔
      ∃ document agents, response.IsWrittenOf document ∧ IsSummary document agents ∧
        hosts = privateHostnames agents) ∧
    ((¬∃ document agents, response.IsWrittenOf document ∧ IsSummary document agents) →
      ∃ reason, endpoint.hostsIn response = .error (.malformedState endpoint.url reason
        (Wording.refusal (Text.decodeLossy response.body)))) ∧
    ∀ fields, response.IsWrittenOf (.object fields) →
      (∀ slave ∈ slavesIn fields, ∀ items, slave ≠ .array items) →
      ∀ hosts, endpoint.hostsIn response = .ok hosts ↔
        ∃ agents, SummaryObject IsKeyedAgent fields agents ∧ hosts = privateHostnames agents := by
  have hexact := endpoint.hostsIn_eq_ok_iff h
  refine ⟨hexact, endpoint.exists_malformedState h, ?_⟩
  intro fields hwritten harrays hosts
  rw [hexact]
  constructor
  · rintro ⟨document, agents, hwritten', hsummary, rfl⟩
    obtain rfl : document = .object fields := hwritten'.unique hwritten
    cases hsummary with
    | object hsummary => exact ⟨agents, hsummary.keyed harrays, rfl⟩
  · rintro ⟨agents, hsummary, rfl⟩
    exact ⟨.object fields, agents, hwritten, hsummary.isSummary, rfl⟩

end Answers

theorem hostsIn_exact_object :
    let _ : Wording := ⟨fun _ => ⟨"", ""⟩⟩
    let endpoint : StateEndpoint := { url := "http://leader/state" }
    let body (text : String) : Response := ⟨200, Text.encode text⟩
    (200 ≤ 200 ∧ 200 < 300) ∧
      endpoint.hostsIn (body "\x7b\"slaves\":[\x7b\"hostname\":\"a\"\x7d]\x7d") = .ok ["a"] ∧
      ∃ reason, endpoint.hostsIn (body "") =
        .error (.malformedState "http://leader/state" reason ⟨"", ""⟩) := by
  intro _ endpoint body
  have hsuccess : 200 ≤ 200 ∧ 200 < 300 := by decide
  have hok : ∃ document agents,
      (body "\x7b\"slaves\":[\x7b\"hostname\":\"a\"\x7d]\x7d").IsWrittenOf document ∧
        IsSummary document agents ∧ ["a"] = privateHostnames agents := by
    refine ⟨.object [(some "slaves", .array [.object [(some "hostname", .text (some "a"))]])],
      [⟨"a", []⟩], ⟨hsuccess, ?_⟩, .object ⟨by simp, some _, .given ⟨_, rfl, .cons ?_ .nil⟩, rfl⟩,
      rfl⟩
    · rw [Text.decodeLossy_encode, Document.isWrittenIn_iff]
      rfl
    · exact .object ⟨by simp, .given rfl, none, .absent _, rfl⟩
  have hnone : ¬∃ document agents, (body "").IsWrittenOf document ∧ IsSummary document agents := by
    rintro ⟨document, agents, hwritten, -⟩
    have hempty := hwritten.written
    rw [Text.decodeLossy_encode, Document.isWrittenIn_iff] at hempty
    obtain ⟨token, rest, htokens, -⟩ := document.exists_tokens_eq
    rw [htokens] at hempty
    cases hempty
  exact ⟨hsuccess, ((endpoint.hostsIn_exact hsuccess).1 ["a"]).mpr hok,
    (endpoint.hostsIn_exact hsuccess).2.1 hnone⟩

/-- Arrays are read as summaries and agents: an empty one as a cluster without agents. -/
theorem hostsIn_arrays :
    let _ : Wording := ⟨fun _ => ⟨"", ""⟩⟩
    let endpoint : StateEndpoint := { url := "http://leader/state" }
    let body (text : String) : Response := ⟨200, Text.encode text⟩
    endpoint.hostsIn (body "[]") = .ok [] ∧ endpoint.hostsIn (body "[[[\"h\"]]]") = .ok ["h"] ∧
      ∀ fields, ¬(body "[]").IsWrittenOf (.object fields) ∧
        ¬(body "[[[\"h\"]]]").IsWrittenOf (.object fields) := by
  intro _ endpoint body
  have hsuccess : 200 ≤ 200 ∧ 200 < 300 := by decide
  have hhosts {text : String} {hosts : List String} (h : StateSummary.privateHosts text = .ok hosts) :
      endpoint.hostsIn (body text) = .ok hosts := by
    rw [endpoint.hostsIn_of_success hsuccess, Text.decodeLossy_encode, h]
    rfl
  have hobject {text : String} {rest : List Token} (h : Token.ofText text = .openArray :: rest)
      (fields : List (Option String × Document)) : ¬(body text).IsWrittenOf (.object fields) := by
    intro hwritten
    have htokens := hwritten.written
    rw [Text.decodeLossy_encode, Document.isWrittenIn_iff, h] at htokens
    cases htokens
  exact ⟨hhosts rfl, hhosts rfl, fun fields => ⟨hobject rfl fields, hobject rfl fields⟩⟩

end StateEndpoint

/-! ## What makes a difference -/

/-- A successful answer whose summary and agents are objects. -/
structure Response.TellsOf (response : Response) (fields : List (Option String × Document))
    (agents : List Agent) : Prop where
  written : response.IsWrittenOf (.object fields)
  summary : SummaryObject IsKeyedAgent fields agents

def namesOf : Document → List (Option String)
  | .object fields => fields.map Prod.fst
  | _ => []

def rolesIn (fields : List (Option String × Document)) : List (Option String) :=
  (valuesAt "reserved_resources" fields).flatMap namesOf

/-- Objects of agents with the same name and the same roles, in whichever order and however often. -/
inductive AgentsAlike : Document → Document → Prop
  | object {fields fields' : List (Option String × Document)}
      (hhostname : valuesAt "hostname" fields = valuesAt "hostname" fields')
      (hroles : ∀ role, role ∈ rolesIn fields ↔ role ∈ rolesIn fields') :
      AgentsAlike (.object fields) (.object fields')

namespace AgentObject

variable {fields : List (Option String × Document)} {agent : Agent} (h : AgentObject fields agent)

include h

theorem hostname_eq : valuesAt "hostname" fields = [.text (some agent.hostname)] := by
  have hhostname := h.hostname
  generalize valuesAt "hostname" fields = values at hhostname
  obtain _ | hname := hhostname
  rw [hname]

theorem rolesIn_eq : rolesIn fields = agent.roles.map some := by
  obtain ⟨roles, hroles, hagent⟩ := h.roles
  rw [rolesIn, hagent]
  generalize valuesAt "reserved_resources" fields = values at hroles
  cases hroles with
  | absent => rfl
  | given hvalue =>
      obtain ⟨fields, rfl, hnames, -⟩ := hvalue
      simpa [namesOf] using hnames

theorem isPublic_iff : agent.IsPublic ↔
    ∃ role, some role ∈ rolesIn fields ∧ "slave_public".toList <:+: role.toList := by
  simp [Agent.IsPublic, h.rolesIn_eq]

end AgentObject

theorem IsKeyedAgent.unique {document : Document} {agent agent' : Agent}
    (h : IsKeyedAgent document agent) (h' : IsKeyedAgent document agent') : agent = agent' := by
  obtain ⟨h⟩ := h
  obtain ⟨h'⟩ := h'
  obtain ⟨hostname, roles⟩ := agent
  obtain ⟨hostname', roles'⟩ := agent'
  obtain rfl : hostname = hostname' := by simpa using h.hostname_eq.symm.trans h'.hostname_eq
  have hroles : roles.map some = roles'.map some := h.rolesIn_eq.symm.trans h'.rolesIn_eq
  obtain rfl : roles = roles' := List.map_injective_iff.mpr (fun _ _ => Option.some.inj) hroles
  rfl

theorem privateHostnames_append (agents agents' : List Agent) :
    privateHostnames (agents ++ agents') = privateHostnames agents ++ privateHostnames agents' := by
  simp [privateHostnames]

theorem privateHostnames_cons (agent : Agent) (agents : List Agent) :
    privateHostnames (agent :: agents) =
      if agent.IsPublic then privateHostnames agents
      else agent.hostname :: privateHostnames agents := by
  by_cases h : agent.IsPublic <;> simp [privateHostnames, h]

theorem privateHostnames_congr {items items' : List Document} {agents agents' : List Agent}
    (halike : List.Forall₂ AgentsAlike items items') (h : List.Forall₂ IsKeyedAgent items agents)
    (h' : List.Forall₂ IsKeyedAgent items' agents') :
    privateHostnames agents = privateHostnames agents' := by
  induction halike generalizing agents agents' with
  | nil =>
      cases h
      cases h'
      rfl
  | @cons item item' items items' hitem hitems ih =>
      cases h with
      | @cons _ agent _ agents hagent hagents =>
          cases h' with
          | @cons _ agent' _ agents' hagent' hagents' =>
              obtain ⟨hhostname, hroles⟩ := hitem
              obtain ⟨hagent⟩ := hagent
              obtain ⟨hagent'⟩ := hagent'
              have hsame : agent.hostname = agent'.hostname := by
                simpa [hagent.hostname_eq, hagent'.hostname_eq] using hhostname
              have hpublic : agent.IsPublic ↔ agent'.IsPublic := by
                simp only [hagent.isPublic_iff, hagent'.isPublic_iff, hroles]
              simp only [privateHostnames_cons, ih hagents hagents', hpublic, hsame]

namespace StateEndpoint

section Answered

variable [Wording] {m : Type → Type} [Monad m] (endpoint : StateEndpoint) (log : LogEntry → m Unit)

/-- What comes of the request if this is the answer to it. -/
def answered (response : Response) : Topology m := endpoint.topology (fun _ => pure (.ok response)) log

def found (hosts : List String) : Topology m := do
  log (endpoint.discoveredEntry hosts)
  return .ok hosts

variable [LawfulMonad m] (hsent : endpoint.request.target.isOk = true)

include hsent

theorem answered_eq (response : Response) :
    endpoint.answered log response = match endpoint.hostsIn response with
      | .error error => pure (.error error)
      | .ok hosts => endpoint.found log hosts := by
  cases htarget : endpoint.request.target with
  | error failure => simp [htarget, Except.isOk, Except.toBool] at hsent
  | ok url =>
      simp only [answered, topology, fetch, htarget, pure_bind, Except.mapError]
      cases endpoint.hostsIn response <;> rfl

theorem answered_of_tellsOf {response : Response} {fields : List (Option String × Document)}
    {agents : List Agent} (h : response.TellsOf fields agents) :
    endpoint.answered log response = endpoint.found log (privateHostnames agents) := by
  rw [endpoint.answered_eq log hsent, (endpoint.hostsIn_eq_ok_iff h.written.success _).mpr
    ⟨_, agents, h.written, h.summary.isSummary, rfl⟩]

/-- Which hosts are found, and what that depends on. -/
theorem answered_exact :
    (∀ response, ¬(200 ≤ response.status ∧ response.status < 300) →
      endpoint.answered log response = pure (.error (.badStatus endpoint.url response.status))) ∧
    (∀ response fields agents, response.TellsOf fields agents →
      endpoint.answered log response = endpoint.found log (privateHostnames agents)) ∧
    (∀ response response' fields fields' agents agents', response.TellsOf fields agents →
      response'.TellsOf fields' agents' →
      List.Forall₂ AgentsAlike (slavesIn fields) (slavesIn fields') →
      endpoint.answered log response = endpoint.answered log response') ∧
    ∀ first second response fields₁ fields₂ fields agents₁ agents₂ agents,
      first.TellsOf fields₁ agents₁ → second.TellsOf fields₂ agents₂ → response.TellsOf fields agents →
      slavesIn fields = slavesIn fields₁ ++ slavesIn fields₂ →
      ∃ hosts₁ hosts₂, endpoint.answered log first = endpoint.found log hosts₁ ∧
        endpoint.answered log second = endpoint.found log hosts₂ ∧
        endpoint.answered log response = endpoint.found log (hosts₁ ++ hosts₂) := by
  have htells {response : Response} {fields : List (Option String × Document)} {agents : List Agent}
      (h : response.TellsOf fields agents) := endpoint.answered_of_tellsOf log hsent h
  refine ⟨?_, ?_, ?_, ?_⟩
  · intro response hstatus
    rw [endpoint.answered_eq log hsent, endpoint.hostsIn_of_not_success hstatus]
  · intro response fields agents h
    exact htells h
  · intro response response' fields fields' agents agents' h h' halike
    rw [htells h, htells h', privateHostnames_congr halike h.summary.forall₂_slavesIn
      h'.summary.forall₂_slavesIn]
  · intro first second response fields₁ fields₂ fields agents₁ agents₂ agents h₁ h₂ h hslaves
    refine ⟨privateHostnames agents₁, privateHostnames agents₂, htells h₁, htells h₂, ?_⟩
    have hboth : List.Forall₂ IsKeyedAgent (slavesIn fields) (agents₁ ++ agents₂) := by
      rw [hslaves]
      exact List.rel_append h₁.summary.forall₂_slavesIn h₂.summary.forall₂_slavesIn
    have hunique : Relator.RightUnique IsKeyedAgent := fun _ _ _ hagent => hagent.unique
    have hagents : agents = agents₁ ++ agents₂ :=
      List.right_unique_forall₂' hunique h.summary.forall₂_slavesIn hboth
    rw [htells h, hagents, privateHostnames_append]

end Answered

set_option maxRecDepth 2048 in
theorem answered_exact_mixed :
    let _ : Wording := ⟨fun _ => ⟨"", ""⟩⟩
    let endpoint : StateEndpoint := { url := "http://leader/state" }
    let log : LogEntry → Id Unit := fun _ => ()
    let body (text : String) : Response := ⟨200, Text.encode text⟩
    let own := body "\x7b\"slaves\":[\x7b\"hostname\":\"a\"\x7d]\x7d"
    let alike := body
      "\x7b\"x\":null,\"slaves\":[\x7b\"reserved_resources\":\x7b\x7d,\"hostname\":\"a\"\x7d]\x7d"
    let shared := body
      "\x7b\"slaves\":[\x7b\"reserved_resources\":\x7b\"slave_public\":null\x7d,\"hostname\":\"b\"\x7d]\x7d"
    let both := body
      "\x7b\"slaves\":[\x7b\"hostname\":\"a\"\x7d,\x7b\"reserved_resources\":\x7b\"slave_public\":null\x7d,\"hostname\":\"b\"\x7d]\x7d"
    endpoint.request.target.isOk = true ∧
      endpoint.answered log ⟨404, []⟩ = .error (.badStatus "http://leader/state" 404) ∧
      endpoint.answered log own = endpoint.found log ["a"] ∧
      endpoint.answered log own = endpoint.answered log alike ∧
      ∃ hosts₁ hosts₂, endpoint.answered log own = endpoint.found log hosts₁ ∧
        endpoint.answered log shared = endpoint.found log hosts₂ ∧
        endpoint.answered log both = endpoint.found log (hosts₁ ++ hosts₂) := by
  intro _ endpoint log body own alike shared both
  have hsent : endpoint.request.target.isOk = true := by decide +kernel
  have hwritten {document : Document} {text : String} (h : Token.ofText text = document.tokens) :
      (body text).IsWrittenOf document := by
    refine ⟨⟨show 200 ≤ 200 by decide, show 200 < 300 by decide⟩, ?_⟩
    rw [Text.decodeLossy_encode, Document.isWrittenIn_iff, h]
  let a : Document := .object [(some "hostname", .text (some "a"))]
  let a' : Document := .object [(some "reserved_resources", .object []),
    (some "hostname", .text (some "a"))]
  let b : Document := .object [(some "reserved_resources", .object [(some "slave_public", .word)]),
    (some "hostname", .text (some "b"))]
  have ha : IsKeyedAgent a ⟨"a", []⟩ := .object ⟨by simp, .given rfl, none, .absent _, rfl⟩
  have ha' : IsKeyedAgent a' ⟨"a", []⟩ :=
    .object ⟨by simp, .given rfl, some [], .given ⟨_, rfl, rfl, nofun⟩, rfl⟩
  have hb : IsKeyedAgent b ⟨"b", ["slave_public"]⟩ :=
    .object ⟨by simp, .given rfl, some ["slave_public"],
      .given ⟨_, rfl, rfl, by simp [Document.WithinLimits.word]⟩, rfl⟩
  have hown : own.TellsOf [(some "slaves", .array [a])] [⟨"a", []⟩] :=
    ⟨hwritten rfl, by simp, some _, .given ⟨_, rfl, .cons ha .nil⟩, rfl⟩
  have halike : alike.TellsOf [(some "x", .word), (some "slaves", .array [a'])] [⟨"a", []⟩] :=
    ⟨hwritten rfl, by simp, some _, .given ⟨_, rfl, .cons ha' .nil⟩, rfl⟩
  have hshared : shared.TellsOf [(some "slaves", .array [b])] [⟨"b", ["slave_public"]⟩] :=
    ⟨hwritten rfl, by simp, some _, .given ⟨_, rfl, .cons hb .nil⟩, rfl⟩
  have hboth : both.TellsOf [(some "slaves", .array [a, b])]
      [⟨"a", []⟩, ⟨"b", ["slave_public"]⟩] :=
    ⟨hwritten rfl, by simp, some _, .given ⟨_, rfl, .cons ha (.cons hb .nil)⟩, rfl⟩
  have hsame : AgentsAlike a a' := .object rfl (by simp [rolesIn, valuesAt, namesOf])
  obtain ⟨hfailed, htells, hindependent, happend⟩ := endpoint.answered_exact log hsent
  exact ⟨hsent, hfailed ⟨404, []⟩ (by decide), htells own _ _ hown,
    hindependent own alike _ _ _ _ hown halike (.cons hsame .nil),
    happend own shared both _ _ _ _ _ _ hown hshared hboth rfl⟩

end StateEndpoint

end ClusterTrials.Cluster
