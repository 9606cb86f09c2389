import ClusterTrials.Cluster.StateSummary
import ClusterTrials.Proofs.Json.Passing
/-!
# The agents that a document tells of

A summary and its agents are objects whose known fields stand there once at most, or arrays that hold the
values of those fields in order. What is read from a text is what the document tells of that the text is
written of; no other text is a summary.
-/

namespace ClusterTrials.Cluster

open Json

/-! ## Documents of agents -/

def IsName (document : Document) (name : String) : Prop := document = .text (some name)

/-- The names of the fields of an object; their values only have to keep within limits. -/
def IsRoles (document : Document) (names : List String) : Prop :=
  ∃ fields, document = .object fields ∧ fields.map Prod.fst = names.map some ∧
    ∀ field ∈ fields, field.2.WithinLimits StateSummary.rolesDepth

/-- What the fields of an object tell of an agent. Fields with other names may hold anything. -/
structure AgentObject (fields : List (Option String × Document)) (agent : Agent) : Prop where
  names : ∀ field ∈ fields, field.1.isSome = true
  hostname : Once IsName none (valuesAt "hostname" fields) (some agent.hostname)
  roles : ∃ roles, Once IsRoles none (valuesAt "reserved_resources" fields) roles ∧
    agent.roles = roles.getD []

inductive IsAgent : Document → Agent → Prop
  | object {fields : List (Option String × Document)} {agent : Agent}
      (h : AgentObject fields agent) : IsAgent (.object fields) agent
  | name {name : Document} {hostname : String} (hname : IsName name hostname) :
      IsAgent (.array [name]) { hostname }
  | both {name reserved : Document} {hostname : String} {roles : List String}
      (hname : IsName name hostname) (hroles : IsRoles reserved roles) :
      IsAgent (.array [name, reserved]) { hostname, roles }

structure SummaryObject (isAgent : Document → Agent → Prop)
    (fields : List (Option String × Document)) (agents : List Agent) : Prop where
  names : ∀ field ∈ fields, field.1.isSome = true
  slaves : ∃ slaves, Once (IsArrayOf isAgent) none (valuesAt "slaves" fields) slaves ∧
    agents = slaves.getD []

inductive IsSummary : Document → List Agent → Prop
  | object {fields : List (Option String × Document)} {agents : List Agent}
      (h : SummaryObject IsAgent fields agents) : IsSummary (.object fields) agents
  | empty : IsSummary (.array []) []
  | slaves {slaves : Document} {agents : List Agent} (h : IsArrayOf IsAgent slaves agents) :
      IsSummary (.array [slaves]) agents

namespace StateSummary

/-! ## Roles -/

def rolesRule (known : List String) (name : String) (value : Document) (next : List String) : Prop :=
  value.WithinLimits rolesDepth ∧ next = known ++ [name]

theorem gathers_rolesRule {start last : List String} {fields : List (Option String × Document)} :
    Gathers rolesRule start fields last ↔
      ∃ names, fields.map Prod.fst = names.map some ∧
        (∀ field ∈ fields, field.2.WithinLimits rolesDepth) ∧ last = start ++ names := by
  induction fields generalizing start with
  | nil =>
      constructor
      · rintro ⟨⟩
        exact ⟨[], rfl, List.forall_mem_nil _, (List.append_nil _).symm⟩
      · rintro ⟨names, hnames, -, rfl⟩
        obtain rfl : names = [] := List.map_eq_nil_iff.mp hnames.symm
        rw [List.append_nil]
        exact .nil start
  | cons field fields ih =>
      constructor
      · rintro (_ | ⟨⟨hvalue, rfl⟩, hlater⟩)
        obtain ⟨names, hnames, hvalues, rfl⟩ := ih.mp hlater
        rw [List.append_assoc]
        exact ⟨_ :: names, congrArg (_ :: ·) hnames, List.forall_mem_cons.mpr ⟨hvalue, hvalues⟩, rfl⟩
      · rintro ⟨names, hnames, hvalues, rfl⟩
        cases names with
        | nil => cases hnames
        | cons name names =>
            obtain ⟨other, value⟩ := field
            obtain ⟨rfl, hlater⟩ := List.cons.inj hnames
            obtain ⟨hvalue, hvalues⟩ := List.forall_mem_cons.mp hvalues
            exact .cons ⟨hvalue, rfl⟩ (ih.mpr ⟨names, hlater, hvalues, List.append_cons start name names⟩)

theorem reads_roles : Reads roles IsRoles := by
  refine (@reads_object _ _ rolesRule ?_ []).congr ?_
  · intro known name
    refine (((reads_pass (.full rolesDepth)).map fun _ => known ++ [name]).congr ?_).answers
    simp [Care.Accepts, rolesRule]
  · intro document names
    simp only [gathers_rolesRule, List.nil_append, IsRoles]
    constructor
    · rintro ⟨fields, rfl, names, hnames, hvalues, rfl⟩
      exact ⟨fields, rfl, hnames, hvalues⟩
    · rintro ⟨fields, rfl, hnames, hvalues⟩
      exact ⟨fields, rfl, names, hnames, hvalues, rfl⟩

/-! ## Agents -/

def agentRule (known : AgentFields) (name : String) (value : Document) (next : AgentFields) : Prop :=
  if name = "hostname" then
    known.hostname = none ∧ ∃ hostname, IsName value hostname ∧
      next = { known with hostname := some hostname }
  else if name = "reserved_resources" then
    known.roles = none ∧ ∃ roles, IsRoles value roles ∧ next = { known with roles := some roles }
  else next = known

theorem reads_other {σ : Type} (known : σ) :
    Reads (fun tokens => (pass .none tokens).map fun result => (known, result.2))
      fun _ next => next = known :=
  ((reads_pass .none).map fun _ => known).congr (by simp [Care.Accepts])

theorem reads_agentField : ReadsFields agentField agentRule := by
  intro known name
  unfold agentField agentRule
  split
  · exact answers_once reads_text known.hostname .shape
      fun hostname => { known with hostname := some hostname }
  split
  · exact answers_once reads_roles known.roles .shape
      fun roles => { known with roles := some roles }
  · exact (reads_other known).answers

theorem exists_agentRule_iff {known last : AgentFields} {name : String} {value : Document}
    {hostnames roles : List Document} :
    (∃ next, agentRule known name value next ∧ Once IsName next.hostname hostnames last.hostname ∧
        Once IsRoles next.roles roles last.roles) ↔
      Once IsName known.hostname
          (if name = "hostname" then value :: hostnames else hostnames) last.hostname ∧
        Once IsRoles known.roles
          (if name = "reserved_resources" then value :: roles else roles) last.roles := by
  unfold agentRule
  by_cases hhostname : name = "hostname"
  · have hroles : name ≠ "reserved_resources" := by
      rw [hhostname]
      decide
    simp only [if_pos hhostname, if_neg hroles, Once.cons]
    constructor
    · rintro ⟨next, ⟨hknown, hostname, hname, rfl⟩, hhostname, hroles⟩
      exact ⟨⟨hknown, hostname, hname, hhostname⟩, hroles⟩
    · rintro ⟨⟨hknown, hostname, hname, hhostname⟩, hroles⟩
      exact ⟨_, ⟨hknown, hostname, hname, rfl⟩, hhostname, hroles⟩
  simp only [if_neg hhostname]
  by_cases hroles : name = "reserved_resources"
  · simp only [if_pos hroles, Once.cons]
    constructor
    · rintro ⟨next, ⟨hknown, roles, hvalue, rfl⟩, hhostname, hroles⟩
      exact ⟨hhostname, hknown, roles, hvalue, hroles⟩
    · rintro ⟨hhostname, hknown, roles, hvalue, hroles⟩
      exact ⟨_, ⟨hknown, roles, hvalue, rfl⟩, hhostname, hroles⟩
  · simp only [if_neg hroles, exists_eq_left]

theorem gathers_agentRule {known last : AgentFields} {fields : List (Option String × Document)} :
    Gathers agentRule known fields last ↔ (∀ field ∈ fields, field.1.isSome = true) ∧
      Once IsName known.hostname (valuesAt "hostname" fields) last.hostname ∧
      Once IsRoles known.roles (valuesAt "reserved_resources" fields) last.roles := by
  refine @gathers_iff _ agentRule (fun known fields last =>
    Once IsName known.hostname (valuesAt "hostname" fields) last.hostname ∧
      Once IsRoles known.roles (valuesAt "reserved_resources" fields) last.roles) ?_ ?_ _ _ _
  · intro known last
    cases known
    cases last
    simp [valuesAt, Once.nil]
  · intro known name value fields last
    simp only [valuesAt_cons, exists_agentRule_iff]

theorem agentItems_eq_ok_iff {tokens rest : List Token} {agent : Agent} :
    agentItems tokens = .ok (agent, rest) ↔
      ∃ items, IsAgent (.array items) agent ∧ tokens = Document.itemTokens true items ++ rest := by
  constructor
  · intro h
    obtain ⟨⟨more, behind⟩, hmore, hthen⟩ := exists_of_bind_eq_ok h
    rw [tokens_of_moreItems hmore]
    cases more with
    | false => cases hthen
    | true =>
        obtain ⟨⟨hostname, afterName⟩, htext, hthen⟩ := exists_of_bind_eq_ok hthen
        obtain ⟨name, hname, hbehind⟩ := (reads_text _ _ _).mp htext
        obtain ⟨⟨more, later⟩, hmore', hthen⟩ := exists_of_bind_eq_ok hthen
        rw [hbehind, tokens_of_moreItems hmore']
        cases more with
        | false =>
            cases hthen
            exact ⟨[name], .name hname, by simp [Document.itemTokens]⟩
        | true =>
            obtain ⟨⟨names, afterRoles⟩, hnames, hthen⟩ := exists_of_bind_eq_ok hthen
            obtain ⟨⟨⟨⟩, last⟩, hend, hthen⟩ := exists_of_bind_eq_ok hthen
            obtain ⟨reserved, hroles, hlater⟩ := (reads_roles _ _ _).mp hnames
            cases hthen
            refine ⟨[name, reserved], .both hname hroles, ?_⟩
            simp [Document.itemTokens, hlater, tokens_of_endArray hend]
  · rintro ⟨items, hagent, rfl⟩
    cases hagent with
    | name hname =>
        obtain rfl := hname
        rfl
    | @both name reserved hostname names hname hroles =>
        obtain rfl := hname
        have hroles := (reads_roles _ _ _).mpr
          ⟨reserved, hroles, (rfl : _ = reserved.tokens ++ .closeArray :: rest)⟩
        have hitems : Document.itemTokens true [.text (some hostname), reserved] ++ rest =
            .text (some hostname) :: .comma :: (reserved.tokens ++ .closeArray :: rest) := by
          simp [Document.itemTokens, Document.separator, Document.tokens]
        rw [hitems]
        show (roles (reserved.tokens ++ .closeArray :: rest) >>= _) = _
        rw [hroles]
        rfl

theorem gathers_agent {fields : List (Option String × Document)} {agent : Agent} :
    AgentObject fields agent ↔ ∃ last, Gathers agentRule {} fields last ∧
      last.hostname = some agent.hostname ∧ agent.roles = last.roles.getD [] := by
  simp only [gathers_agentRule]
  constructor
  · rintro ⟨hnames, hhostname, roles, hroles, hagent⟩
    exact ⟨⟨some agent.hostname, roles⟩, ⟨hnames, hhostname, hroles⟩, rfl, hagent⟩
  · rintro ⟨last, ⟨hnames, hhostname, hroles⟩, hlast, hagent⟩
    rw [hlast] at hhostname
    exact ⟨hnames, hhostname, last.roles, hroles, hagent⟩

theorem reads_agent : Reads agent IsAgent := by
  intro tokens value rest
  constructor
  · intro h
    unfold agent at h
    split at h
    · obtain ⟨items, hagent, rfl⟩ := agentItems_eq_ok_iff.mp h
      exact ⟨_, hagent, rfl⟩
    · obtain ⟨⟨last, behind⟩, hlast, hthen⟩ := exists_of_bind_eq_ok h
      obtain ⟨_, ⟨fields, rfl, hgathers⟩, rfl⟩ := (reads_object reads_agentField {} _ _ _).mp hlast
      cases hhostname : last.hostname with
      | none => simp [hhostname] at hthen
      | some hostname =>
          simp only [hhostname] at hthen
          cases hthen
          exact ⟨_, .object (gathers_agent.mpr ⟨last, hgathers, hhostname, rfl⟩), rfl⟩
  · rintro ⟨document, hagent, rfl⟩
    cases hagent with
    | @object fields value hvalue =>
        obtain ⟨last, hgathers, hhostname, hroles⟩ := gathers_agent.mp hvalue
        have hlast := (reads_object reads_agentField {} _ last rest).mpr
          ⟨_, ⟨fields, rfl, hgathers⟩, rfl⟩
        show (object agentField {} (Document.tokens (.object fields) ++ rest) >>= _) = _
        rw [hlast, ok_bind]
        simp only [hhostname, ← hroles]
        rfl
    | name hname => exact agentItems_eq_ok_iff.mpr ⟨_, .name hname, rfl⟩
    | both hname hroles => exact agentItems_eq_ok_iff.mpr ⟨_, .both hname hroles, rfl⟩

/-! ## Summaries -/

def summaryRule (known : Option (List Agent)) (name : String) (value : Document)
    (next : Option (List Agent)) : Prop :=
  if name = "slaves" then
    known = none ∧ ∃ agents, IsArrayOf IsAgent value agents ∧ next = some agents
  else next = known

theorem reads_summaryField : ReadsFields summaryField summaryRule := by
  intro known name
  unfold summaryField summaryRule
  split
  · exact answers_once (reads_array reads_agent) known .shape some
  · exact (reads_other known).answers

theorem exists_summaryRule_iff {known last : Option (List Agent)} {name : String}
    {value : Document} {slaves : List Document} :
    (∃ next, summaryRule known name value next ∧ Once (IsArrayOf IsAgent) next slaves last) ↔
      Once (IsArrayOf IsAgent) known (if name = "slaves" then value :: slaves else slaves) last := by
  unfold summaryRule
  by_cases hslaves : name = "slaves"
  · simp only [if_pos hslaves, Once.cons]
    constructor
    · rintro ⟨next, ⟨hknown, agents, hagents, rfl⟩, hlater⟩
      exact ⟨hknown, agents, hagents, hlater⟩
    · rintro ⟨hknown, agents, hagents, hlater⟩
      exact ⟨_, ⟨hknown, agents, hagents, rfl⟩, hlater⟩
  · simp only [if_neg hslaves, exists_eq_left]

theorem gathers_summaryRule {known last : Option (List Agent)}
    {fields : List (Option String × Document)} :
    Gathers summaryRule known fields last ↔ (∀ field ∈ fields, field.1.isSome = true) ∧
      Once (IsArrayOf IsAgent) known (valuesAt "slaves" fields) last := by
  refine @gathers_iff _ summaryRule (fun known fields last =>
    Once (IsArrayOf IsAgent) known (valuesAt "slaves" fields) last) ?_ ?_ _ _ _
  · intro known last
    simp [valuesAt, Once.nil]
  · intro known name value fields last
    simp only [valuesAt_cons, exists_summaryRule_iff]

theorem summaryItems_eq_ok_iff {tokens rest : List Token} {agents : List Agent} :
    summaryItems tokens = .ok (agents, rest) ↔
      ∃ items, IsSummary (.array items) agents ∧ tokens = Document.itemTokens true items ++ rest := by
  constructor
  · intro h
    obtain ⟨⟨more, behind⟩, hmore, hthen⟩ := exists_of_bind_eq_ok h
    rw [tokens_of_moreItems hmore]
    cases more with
    | false =>
        cases hthen
        exact ⟨[], .empty, rfl⟩
    | true =>
        obtain ⟨⟨read, later⟩, hread, hthen⟩ := exists_of_bind_eq_ok hthen
        obtain ⟨⟨⟨⟩, last⟩, hend, hthen⟩ := exists_of_bind_eq_ok hthen
        obtain ⟨slaves, hslaves, hbehind⟩ := (reads_array reads_agent _ _ _).mp hread
        cases hthen
        refine ⟨[slaves], .slaves hslaves, ?_⟩
        simp [Document.itemTokens, hbehind, tokens_of_endArray hend]
  · rintro ⟨items, hsummary, rfl⟩
    cases hsummary with
    | empty => rfl
    | @slaves slaves agents hslaves =>
        have hread := (reads_array reads_agent _ _ _).mpr
          ⟨slaves, hslaves, (rfl : _ = slaves.tokens ++ .closeArray :: rest)⟩
        have hmore := moreItems_tokens true slaves (.closeArray :: rest)
        have hitems : Document.itemTokens true [slaves] ++ rest =
            Document.separator true ++ (slaves.tokens ++ .closeArray :: rest) := by
          simp [Document.itemTokens]
        rw [hitems]
        simp only [summaryItems, hmore, ok_bind, hread]
        rfl

theorem reads_agents : Reads agents IsSummary := by
  have hobject := (reads_object reads_summaryField none).map (Option.getD · [])
  intro tokens value rest
  constructor
  · intro h
    unfold agents at h
    split at h
    · obtain ⟨items, hsummary, rfl⟩ := summaryItems_eq_ok_iff.mp h
      exact ⟨_, hsummary, rfl⟩
    · obtain ⟨_, ⟨last, ⟨fields, rfl, hgathers⟩, rfl⟩, rfl⟩ := (hobject _ _ _).mp h
      obtain ⟨hnames, hslaves⟩ := gathers_summaryRule.mp hgathers
      exact ⟨_, .object ⟨hnames, last, hslaves, rfl⟩, rfl⟩
  · rintro ⟨document, hsummary, rfl⟩
    cases hsummary with
    | @object fields value h =>
        obtain ⟨last, hslaves, rfl⟩ := h.slaves
        exact (hobject _ _ _).mpr
          ⟨_, ⟨last, ⟨fields, rfl, gathers_summaryRule.mpr ⟨h.names, hslaves⟩⟩, rfl⟩, rfl⟩
    | empty => rfl
    | slaves hslaves => exact summaryItems_eq_ok_iff.mpr ⟨_, .slaves hslaves, rfl⟩

/-- A text is read as a summary exactly if it is written of one. -/
theorem ofText_eq_ok_iff {body : String} {agents : List Agent} :
    ofText body = .ok agents ↔
      ∃ document : Document, document.IsWrittenIn body ∧ IsSummary document agents := by
  rw [ofText, reads_agents.whole_eq_ok_iff]
  simp only [Document.isWrittenIn_iff, and_comm]

end StateSummary

end ClusterTrials.Cluster
