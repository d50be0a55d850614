import Simetro.Agent.IssuedIds
import Simetro.Bridge.Sessions

/-! The engine's runtime and the bridge process, joined by the two pipes and stepping in any order.
The engine's end forwards the outbox and hands each reply it reads to the runtime. -/

namespace Simetro.Bridge

open Simetro.Agent Simetro.Library Simetro.Protocol

structure Link (Store : Type) where
  runtime : AgentRuntime
  hostSeq : Nat := 0
  toBridge : List Char := []
  bridge : BridgeProcess Store
  ending : Option (Except LoopError Unit) := none
  toHost : List Char
  /-- What was issued and what became of the replies so far; nothing reads them. -/
  issued : List AgentRequest := []
  outcomes : List (AgentReply × ProcessReplyOutcome) := []

inductive LinkOp where
  | enqueueDecision (agentId observationJson : String) (deadlineTicks now : Nat)
  | expireOverdue (now : Nat)
  | recordFault (id : TimelineId) (faultTick : Nat) (reason : String)
  | forward
  | shutdown
  | serve
  | receive (now : Nat)

/-- The operation of the runtime. -/
def LinkOp.agentOp? : LinkOp → Option AgentOp
  | .enqueueDecision agentId observationJson deadlineTicks now =>
      some (.enqueueDecision agentId observationJson deadlineTicks now)
  | .expireOverdue now => some (.expireOverdue now)
  | .recordFault id faultTick reason => some (.recordFault id faultTick reason)
  | .forward | .shutdown | .serve | .receive _ => none

def LinkOp.Typed (op : LinkOp) : Prop := ∀ agentOp, op.agentOp? = some agentOp → agentOp.Typed

/-- Requests with consecutive numbers. -/
def requestEnvelopes (seq : Nat) : List AgentRequest → List Envelope
  | [] => []
  | request :: rest => .new seq (.request request) :: requestEnvelopes (nextSeq seq) rest

/-- The number after that many messages. -/
def seqAfter (seq count : Nat) : Nat := (seq + count) % u64Bound

namespace Link

section Steps

variable {Store : Type} (text : F32Text) (debug : DebugText) (provider : Provider Store)

/-- The process has said hello. -/
def start (runtime : AgentRuntime) (bridgeVersion : String) (backend : Store) : Link Store where
  runtime
  bridge := ⟨backend, nextSeq 0⟩
  toHost := writeEnvelope text (helloEnvelope 0 bridgeVersion)

variable (link : Link Store)

def operate (op : AgentOp) : Link Store :=
  { link with
    runtime := link.runtime.perform op
    issued := link.issued ++ link.runtime.issuedBy op }

def send (envelopes : List Envelope) : Link Store :=
  { link with
    hostSeq := seqAfter link.hostSeq envelopes.length
    toBridge := link.toBridge ++ envelopes.flatMap (writeEnvelope text) }

def forward : Link Store :=
  let (runtime, requests) := link.runtime.drainOutbox
  { link with runtime }.send text (requestEnvelopes link.hostSeq requests)

/-- The bridge waits for a line; once it has ended it reads no more. -/
def serve : Link Store :=
  if link.ending.isSome || link.toBridge.isEmpty then link
  else
    match readEnvelope text link.toBridge with
    | (.ok none, _) => link
    | (.error problem, rest) =>
        { link with toBridge := rest, ending := some (loopEnd (some problem)) }
    | (.ok (some envelope), rest) =>
        match loopPass text debug provider link.bridge envelope with
        | .error ending => { link with toBridge := rest, ending := some ending }
        | .ok (bridge, written) =>
            { link with
              toBridge := rest
              bridge
              toHost := link.toHost ++ written.flatMap (writeEnvelope text) }

/-- The engine's end takes one line; what is not a reply of this version is dropped. -/
def receive (now : Nat) : Link Store :=
  match readEnvelope text link.toHost with
  | (.ok (some envelope), rest) =>
      match if envelope.isCompatible then envelope.reply? else none with
      | some reply =>
          let (runtime, outcome) := link.runtime.processReply reply now
          { link with runtime, toHost := rest, outcomes := link.outcomes ++ [(reply, outcome)] }
      | none => { link with toHost := rest }
  | (_, rest) => { link with toHost := rest }

def perform : LinkOp → Link Store
  | .enqueueDecision agentId observationJson deadlineTicks now =>
      link.operate (.enqueueDecision agentId observationJson deadlineTicks now)
  | .expireOverdue now => link.operate (.expireOverdue now)
  | .recordFault id faultTick reason => link.operate (.recordFault id faultTick reason)
  | .forward => link.forward text
  | .shutdown => link.send text [shutdownEnvelope link.hostSeq]
  | .serve => link.serve text debug provider
  | .receive now => link.receive text now

def run (ops : List LinkOp) : Link Store := ops.foldl (perform text debug provider) link

end Steps

end Link

/-- A reply the bridge made for the request. -/
def Answers (text : F32Text) (debug : DebugText) (request : AgentRequest) (reply : AgentReply) : Prop :=
  ∃ result, reply = dispatch text debug (fun _ => result) request

/-- The pipes in order: what was issued was answered, then asked of the bridge, then waits in the
outbox; what was answered was handed over, then is on its way back. -/
structure Link.Ordered {Store : Type} (text : F32Text) (debug : DebugText) (provider : Provider Store)
    (link : Link Store) (asks replies : List Envelope) (answered : List AgentRequest) : Prop where
  toBridge : link.toBridge = asks.flatMap (writeEnvelope text)
  toHost : link.toHost = replies.flatMap (writeEnvelope text)
  asksCarried : ∀ envelope ∈ asks, Carried envelope
  repliesCarried : ∀ envelope ∈ replies, Carried envelope
  issued : link.issued = answered ++ (asks.filterMap Envelope.request? ++ link.runtime.outbox)
  matched : List.Forall₂ (Answers text debug) answered
    (link.outcomes.map Prod.fst ++ replies.filterMap Envelope.reply?)
  range : provider.InRange text link.bridge.backend
  hostSeq : link.hostSeq < u64Bound
  bridgeSeq : link.bridge.seq < u64Bound

/-- The runtime against its past: only replies handed over were applied, none of them was taken for
a repeated one, and one was taken for unknown only where the rings are too short. -/
structure Link.Settled {Store : Type} (cap : Nat) (link : Link Store) (watched : Watched) : Prop where
  runtime : watched.runtime = link.runtime
  accounts : watched.Accounts link.issued
  holds : watched.Holds cap
  applied : ∀ id ∈ watched.applied, id ∈ link.outcomes.map (·.1.id)
  outcomes : ∀ outcome ∈ link.outcomes, outcome.2 ≠ .drop (duplicateWarning outcome.1.id) ∧
    (outcome.2 = .drop (unknownIdFault outcome.1.id) → cap < link.issued.length)

section Steps

variable {Store : Type} {text : F32Text} {debug : DebugText} {provider : Provider Store} {cap : Nat}
  {link : Link Store} {asks replies : List Envelope} {answered : List AgentRequest} {watched : Watched}

theorem Answers.id {request : AgentRequest} {reply : AgentReply}
    (answers : Answers text debug request reply) : reply.id = request.id := by
  obtain ⟨result, rfl⟩ := answers
  exact (dispatch_answers _ request).1

theorem answered_ids {requests : List AgentRequest} {made : List AgentReply}
    (matched : List.Forall₂ (Answers text debug) requests made) :
    made.map (·.id) = requests.map (·.id) := by
  induction matched with
  | nil => rfl
  | cons answers _ ih => rw [List.map_cons, List.map_cons, ih, answers.id]

theorem requestEnvelopes_requests (seq : Nat) (requests : List AgentRequest) :
    (requestEnvelopes seq requests).filterMap Envelope.request? = requests := by
  induction requests generalizing seq with
  | nil => rfl
  | cons request rest ih => exact congrArg (request :: ·) (ih _)

theorem requestEnvelopes_carried {seq : Nat} (below : seq < u64Bound) {requests : List AgentRequest}
    (fits : ∀ request ∈ requests, FitsRequest request) :
    ∀ envelope ∈ requestEnvelopes seq requests, Carried envelope := by
  induction requests generalizing seq with
  | nil => exact fun envelope listed => absurd listed List.not_mem_nil
  | cons request rest ih =>
    intro envelope listed
    rcases List.mem_cons.mp listed with rfl | later
    · exact ⟨rfl, below, fits request List.mem_cons_self, rfl⟩
    · exact ih (Nat.mod_lt _ (by decide))
        (fun other listed => fits other (List.mem_cons_of_mem request listed)) envelope later

/-- What was issued fits the wire while decisions have numbers of their own. -/
theorem issued_fits {runtime : AgentRuntime} {issued : List AgentRequest}
    (issuing : runtime.Issuing [] issued) (room : runtime.timeline.nextId ≤ u64Max) :
    ∀ request ∈ issued, FitsRequest request := by
  intro request listed
  have below := issuing.below request listed
  have typed := issuing.typed request listed
  have bounds : u64Max < u64Bound ∧ u32Max < u32Bound ∧ maxAttempts < u32Bound := by decide
  exact ⟨⟨by omega, Nat.lt_of_le_of_lt typed.sourceTick bounds.1,
    Nat.lt_of_le_of_lt typed.attempt bounds.2.2⟩, Nat.lt_of_le_of_lt typed.deadlineTicks bounds.2.1⟩

/-- Sending carried envelopes that ask for what is in the outbox. -/
theorem Link.Ordered.sent (ordered : link.Ordered text debug provider asks replies answered)
    {envelopes : List Envelope} (carried : ∀ envelope ∈ envelopes, Carried envelope)
    (runtime : AgentRuntime)
    (emptied : link.runtime.outbox = envelopes.filterMap Envelope.request? ++ runtime.outbox) :
    Link.Ordered text debug provider ({ link with runtime }.send text envelopes) (asks ++ envelopes)
      replies answered where
  toBridge := by
    rw [List.flatMap_append, ← ordered.toBridge]
    rfl
  toHost := ordered.toHost
  asksCarried envelope listed := by
    rcases List.mem_append.mp listed with old | new
    · exact ordered.asksCarried envelope old
    · exact carried envelope new
  repliesCarried := ordered.repliesCarried
  issued := by
    change link.issued = answered ++ ((asks ++ envelopes).filterMap Envelope.request? ++ runtime.outbox)
    rw [List.filterMap_append, List.append_assoc, ← emptied, ordered.issued]
  matched := ordered.matched
  range := ordered.range
  hostSeq := Nat.mod_lt _ (by decide)
  bridgeSeq := ordered.bridgeSeq

/-- The bridge takes the first line that waits for it. -/
theorem Link.Ordered.serve (ordered : link.Ordered text debug provider asks replies answered) :
    ∃ asks replies answered, (link.serve text debug provider).Ordered text debug provider asks replies
      answered := by
  unfold Link.serve
  split
  · exact ⟨asks, replies, answered, ordered⟩
  · cases asks with
    | nil =>
      rename_i waiting
      rw [ordered.toBridge] at waiting
      simp at waiting
    | cons envelope rest =>
      have carried := ordered.asksCarried envelope List.mem_cons_self
      have later : ∀ other ∈ rest, Carried other := fun other listed =>
        ordered.asksCarried other (List.mem_cons_of_mem envelope listed)
      have compatible : envelope.isCompatible = true := decide_eq_true carried.version
      have read : readEnvelope text link.toBridge =
          (.ok (some envelope), rest.flatMap (writeEnvelope text)) := by
        rw [ordered.toBridge, List.flatMap_cons]
        exact carried.survives.readBack _
      have issued := ordered.issued
      simp only [read, loopPass, compatible, Bool.not_true, Bool.false_eq_true, if_false]
      cases payload : envelope.payload with
      | shutdown =>
        have silent : envelope.request? = none := by rw [Envelope.request?, payload]
        rw [List.filterMap_cons_none silent] at issued
        exact ⟨rest, replies, answered, { ordered with
          toBridge := rfl
          asksCarried := later
          issued }⟩
      | hello | reply | log =>
        have silent : envelope.request? = none := by rw [Envelope.request?, payload]
        rw [List.filterMap_cons_none silent] at issued
        exact ⟨rest, replies, answered, { ordered with
          toBridge := rfl
          toHost := by simpa using ordered.toHost
          asksCarried := later
          issued }⟩
      | request request =>
        have asks : envelope.request? = some request := by rw [Envelope.request?, payload]
        rw [List.filterMap_cons_some asks] at issued
        have fits : FitsMessage (.request request) := payload ▸ carried.fits
        have made := @reply_carried _ _ debug _ _ ordered.range _ fits.id _ ordered.bridgeSeq
        refine ⟨rest, replies ++ [.new link.bridge.seq
          (.reply (provider.dispatch text debug link.bridge.backend request).2)], answered ++ [request], ?_⟩
        exact {
          toBridge := rfl
          toHost := by
            rw [List.flatMap_append, ← ordered.toHost]
          asksCarried := later
          repliesCarried := fun other listed => by
            rcases List.mem_append.mp listed with old | new
            · exact ordered.repliesCarried other old
            · rw [List.mem_singleton.mp new]
              exact made
          issued := by
            rw [List.append_assoc, List.singleton_append]
            exact issued
          matched := by
            rw [List.filterMap_append, ← List.append_assoc]
            exact List.rel_append ordered.matched
              (.cons ⟨(provider.invoke link.bridge.backend (backendRequest request)).2, rfl⟩ .nil)
          range := ordered.range.next _
          hostSeq := ordered.hostSeq
          bridgeSeq := Nat.mod_lt _ (by decide) }

/-- Why a reply is dropped. -/
theorem processReply_dropped {runtime : AgentRuntime} {reply : AgentReply} {now : Nat}
    {message : SimMessage} (dropped : (runtime.processReply reply now).2 = .drop message) :
    message = duplicateWarning reply.id ∧ reply.id ∈ runtime.lifecycle.completed ∨
      message = staleWarning reply.id now ∨
      message = unknownIdFault reply.id ∧ reply.id ∉ runtime.lifecycle.expired ∧
        reply.id ∉ runtime.lifecycle.pending.map (·.request.id) := by
  unfold AgentRuntime.processReply RequestLifecycle.drainReply at dropped
  by_cases completed : reply.id ∈ runtime.lifecycle.completed
  · rw [if_pos completed] at dropped
    cases dropped
    exact .inl ⟨rfl, completed⟩
  rw [if_neg completed] at dropped
  by_cases expired : reply.id ∈ runtime.lifecycle.expired
  · rw [if_pos expired] at dropped
    cases dropped
    exact .inr (.inl rfl)
  rw [if_neg expired] at dropped
  cases found : runtime.lifecycle.findPending reply.id with
  | none =>
    rw [found] at dropped
    cases dropped
    refine .inr (.inr ⟨rfl, expired, fun pending => ?_⟩)
    obtain ⟨entry, member, same⟩ := List.mem_map.mp pending
    have absent := List.find?_eq_none.mp found entry member
    simp [same] at absent
  | some entry =>
    rw [found] at dropped
    simp only at dropped
    by_cases inTime : now ≤ entry.deadlineAbs
    · rw [if_pos inTime] at dropped
      cases dropped
    · rw [if_neg inTime] at dropped
      cases dropped
      exact .inr (.inl rfl)

/-- A reply to a request that was issued and not answered before is never taken for a repeated one,
and for unknown only when more ids expired than the ring holds. -/
theorem Link.Settled.fresh (settled : link.Settled cap watched) {reply : AgentReply}
    (issued : reply.id ∈ link.issued.map (·.id)) (unheard : reply.id ∉ link.outcomes.map (·.1.id))
    (now : Nat) :
    (link.runtime.processReply reply now).2 ≠ .drop (duplicateWarning reply.id) ∧
      ((link.runtime.processReply reply now).2 = .drop (unknownIdFault reply.id) →
        cap < link.issued.length) := by
  have holds := settled.holds
  unfold Watched.Holds at holds
  rw [settled.runtime] at holds
  have account := settled.accounts.account
  rw [settled.runtime] at account
  have unapplied : reply.id ∉ watched.applied := fun applied => unheard (settled.applied _ applied)
  constructor
  · intro duplicate
    rcases processReply_dropped duplicate with ⟨-, completed⟩ | stale | ⟨unknown, -⟩
    · rw [holds.completed] at completed
      exact unapplied (List.mem_of_mem_drop completed)
    · simp [duplicateWarning, staleWarning] at stale
    · simp [duplicateWarning, unknownIdFault] at unknown
  · intro unknown
    rcases processReply_dropped unknown with ⟨same, -⟩ | stale | ⟨-, unexpired, absent⟩
    · simp [duplicateWarning, unknownIdFault] at same
    · simp [unknownIdFault, staleWarning] at stale
    · have expired : reply.id ∈ watched.expired := by
        rcases List.mem_append.mp (account.mem_iff.mp issued) with pending | past
        · exact absurd pending absent
        · exact (List.mem_append.mp past).resolve_left unapplied
      rw [holds.expired] at unexpired
      have long : max cap 1 < watched.expired.length := by
        by_contra short
        refine unexpired ?_
        rw [List.rtake, Nat.sub_eq_zero_of_le (Nat.le_of_not_lt short), List.drop_zero]
        exact expired
      have counted := account.length_eq
      simp only [List.length_map, List.length_append] at counted
      omega

/-- The engine's end takes the first line that waits for it. -/
theorem Link.receive_cases (ordered : link.Ordered text debug provider asks replies answered) (now : Nat) :
    (replies = [] ∧ link.receive text now = link) ∨
      ∃ envelope rest, replies = envelope :: rest ∧
        ((envelope.reply? = none ∧
            link.receive text now = { link with toHost := rest.flatMap (writeEnvelope text) }) ∨
          ∃ reply, envelope.reply? = some reply ∧ link.receive text now = { link with
            runtime := (link.runtime.processReply reply now).1
            toHost := rest.flatMap (writeEnvelope text)
            outcomes := link.outcomes ++ [(reply, (link.runtime.processReply reply now).2)] }) := by
  cases replies with
  | nil =>
    left
    have nothing : link.toHost = [] := ordered.toHost
    have read : readEnvelope text link.toHost = (.ok none, link.toHost) := by
      rw [nothing]
      rfl
    exact ⟨rfl, by rw [Link.receive, read]⟩
  | cons envelope rest =>
    right
    have carried := ordered.repliesCarried envelope List.mem_cons_self
    have compatible : envelope.isCompatible = true := decide_eq_true carried.version
    have read : readEnvelope text link.toHost =
        (.ok (some envelope), rest.flatMap (writeEnvelope text)) := by
      rw [ordered.toHost, List.flatMap_cons]
      exact carried.survives.readBack _
    refine ⟨envelope, rest, rfl, ?_⟩
    unfold Link.receive
    rw [read]
    simp only [compatible, if_true]
    cases replied : envelope.reply? with
    | none => exact .inl ⟨rfl, rfl⟩
    | some reply => exact .inr ⟨reply, rfl, rfl⟩

/-- Everything holds of the link. -/
def Link.Sound (text : F32Text) (debug : DebugText) (provider : Provider Store) (cap : Nat)
    (link : Link Store) : Prop :=
  ∃ asks replies answered watched,
    link.Ordered text debug provider asks replies answered ∧ link.Settled cap watched

/-- The ids of what was issued, by where the requests are. -/
theorem Link.Ordered.ids (ordered : link.Ordered text debug provider asks replies answered) :
    link.issued.map (·.id) = link.outcomes.map (·.1.id) ++ ((replies.filterMap Envelope.reply?).map (·.id) ++
      ((asks.filterMap Envelope.request?).map (·.id) ++ link.runtime.outbox.map (·.id))) := by
  have heard := answered_ids ordered.matched
  rw [List.map_append, List.map_map] at heard
  rw [ordered.issued, List.map_append, List.map_append, ← heard, List.append_assoc]
  rfl

theorem Link.Sound.receive (sound : link.Sound text debug provider cap) (now : Nat) :
    (link.receive text now).Sound text debug provider cap := by
  obtain ⟨asks, replies, answered, watched, ordered, settled⟩ := sound
  rcases Link.receive_cases ordered now with ⟨-, same⟩ |
    ⟨envelope, rest, rfl, ⟨silent, same⟩ | ⟨reply, replied, same⟩⟩
  · rw [same]
    exact ⟨asks, replies, answered, watched, ordered, settled⟩
  · have matched := ordered.matched
    rw [List.filterMap_cons_none silent] at matched
    rw [same]
    refine ⟨asks, rest, answered, watched, { ordered with
      toHost := rfl
      repliesCarried := fun other listed =>
        ordered.repliesCarried other (List.mem_cons_of_mem envelope listed)
      matched }, ?_⟩
    exact ⟨settled.runtime, settled.accounts, settled.holds, settled.applied, settled.outcomes⟩
  · have matched := ordered.matched
    rw [List.filterMap_cons_some replied] at matched
    have ids := ordered.ids
    rw [List.filterMap_cons_some replied, List.map_cons] at ids
    have distinct := settled.accounts.issuing.distinct
    rw [ids] at distinct
    have issued : reply.id ∈ link.issued.map (·.id) := by
      rw [ids]
      simp
    have unheard : reply.id ∉ link.outcomes.map (·.1.id) := fun heard =>
      (List.nodup_append.mp distinct).2.2 _ heard _ (by simp) rfl
    have kept : (link.runtime.processReply reply now).1.outbox = link.runtime.outbox := by
      unfold AgentRuntime.processReply
      split <;> rfl
    rw [same]
    refine ⟨asks, rest, answered, watched.perform (.processReply reply now), ?_, ?_⟩
    · exact { ordered with
        toHost := rfl
        repliesCarried := fun other listed =>
          ordered.repliesCarried other (List.mem_cons_of_mem envelope listed)
        issued := by
          rw [kept]
          exact ordered.issued
        matched := by
          rw [List.map_append, List.append_assoc]
          exact matched }
    · have fresh := settled.fresh issued unheard now
      refine ⟨?_, settled.accounts.processReply reply now, settled.holds.processReply reply now, ?_, ?_⟩
      · rw [Watched.perform, settled.runtime]
        rfl
      · intro id applied
        rw [List.map_append, List.mem_append]
        rcases List.mem_append.mp applied with old | new
        · exact .inl (settled.applied id old)
        · right
          have named : id = reply.id := by
            simp only [AgentRuntime.applies] at new
            split at new
            · exact List.mem_singleton.mp new
            · exact absurd new List.not_mem_nil
          exact named ▸ List.mem_singleton.mpr rfl
      · intro outcome listed
        rcases List.mem_append.mp listed with old | new
        · exact settled.outcomes outcome old
        · rw [List.mem_singleton.mp new]
          exact fresh

/-- An operation of the runtime that issues requests or records a fault. -/
theorem Link.Sound.operate (sound : link.Sound text debug provider cap) {op : AgentOp}
    (typed : op.Typed) (room : link.runtime.timeline.nextId < u64Max)
    (issues : (link.runtime.perform op).outbox = link.runtime.outbox ++ link.runtime.issuedBy op)
    (silent : link.runtime.applies op = []) :
    (link.operate op).Sound text debug provider cap := by
  obtain ⟨asks, replies, answered, watched, ordered, settled⟩ := sound
  have lasts : watched.runtime.idsLast op = true := by
    rw [settled.runtime]
    unfold AgentRuntime.idsLast
    split
    · exact decide_eq_true room
    · rfl
  refine ⟨asks, replies, answered, watched.perform op, ?_, ?_⟩
  · exact { ordered with
      issued := by
        change link.issued ++ _ = answered ++ (_ ++ (link.runtime.perform op).outbox)
        rw [issues, ordered.issued]
        simp only [List.append_assoc] }
  · refine ⟨?_, ?_, settled.holds.perform op, ?_, ?_⟩
    · rw [Watched.perform, settled.runtime]
      rfl
    · have accounts := settled.accounts.perform op typed lasts
      rw [settled.runtime] at accounts
      exact accounts
    · intro id applied
      rw [Watched.perform, settled.runtime, silent, List.append_nil] at applied
      exact settled.applied id applied
    · intro outcome listed
      obtain ⟨unlike, known⟩ := settled.outcomes outcome listed
      refine ⟨unlike, fun unknown => ?_⟩
      change cap < (link.issued ++ link.runtime.issuedBy op).length
      rw [List.length_append]
      exact Nat.lt_of_lt_of_le (known unknown) (Nat.le_add_right _ _)

theorem Link.Sound.send (sound : link.Sound text debug provider cap) {envelopes : List Envelope}
    (carried : ∀ envelope ∈ envelopes, Carried envelope)
    (silent : envelopes.filterMap Envelope.request? = []) :
    (link.send text envelopes).Sound text debug provider cap := by
  obtain ⟨asks, replies, answered, watched, ordered, settled⟩ := sound
  have sent := ordered.sent carried link.runtime (by rw [silent]; rfl)
  exact ⟨asks ++ envelopes, replies, answered, watched, sent, settled.runtime, settled.accounts,
    settled.holds, settled.applied, settled.outcomes⟩

theorem Link.Sound.forward (sound : link.Sound text debug provider cap)
    (room : link.runtime.timeline.nextId ≤ u64Max) :
    (link.forward text).Sound text debug provider cap := by
  obtain ⟨asks, replies, answered, watched, ordered, settled⟩ := sound
  have issuing := settled.accounts.issuing
  rw [settled.runtime] at issuing
  have fits : ∀ request ∈ link.runtime.outbox, FitsRequest request := fun request listed =>
    issued_fits issuing room request (by rw [ordered.issued]; simp [listed])
  have sent := ordered.sent (requestEnvelopes_carried ordered.hostSeq fits)
    link.runtime.drainOutbox.1 (by
      rw [requestEnvelopes_requests]
      exact (List.append_nil _).symm)
  have accounts := settled.accounts.perform .drainOutbox trivial rfl
  have nothing : watched.runtime.issuedBy .drainOutbox = [] := List.drop_nil
  rw [nothing, List.append_nil] at accounts
  refine ⟨_, replies, answered, watched.perform .drainOutbox, sent, ?_, accounts,
    settled.holds.perform .drainOutbox, fun id applied => ?_, settled.outcomes⟩
  · rw [Watched.perform, settled.runtime]
    rfl
  · have same : (watched.perform .drainOutbox).applied = watched.applied := List.append_nil _
    rw [same] at applied
    exact settled.applied id applied

theorem Link.Sound.issuing (sound : link.Sound text debug provider cap) :
    link.runtime.Issuing [] link.issued := by
  obtain ⟨asks, replies, answered, watched, ordered, settled⟩ := sound
  exact settled.runtime ▸ settled.accounts.issuing

/-- What the operation of the runtime puts in the outbox comes last. -/
theorem agentOp_issues {runtime : AgentRuntime} {issued : List AgentRequest}
    (issuing : runtime.Issuing [] issued) {op : LinkOp} {agentOp : AgentOp}
    (same : op.agentOp? = some agentOp) :
    (runtime.perform agentOp).outbox = runtime.outbox ++ runtime.issuedBy agentOp ∧
      runtime.applies agentOp = [] := by
  have of_adds {op : AgentOp} (new : List AgentRequest)
      (outbox : (runtime.perform op).outbox = runtime.outbox ++ new) :
      (runtime.perform op).outbox = runtime.outbox ++ runtime.issuedBy op := by
    rw [AgentRuntime.issuedBy_of_adds op outbox, outbox]
  cases op with
  | enqueueDecision agentId observationJson deadlineTicks now =>
    cases same
    refine ⟨?_, rfl⟩
    cases busy : runtime.lifecycle.hasPendingForAgent agentId with
    | true => exact of_adds [] (by rw [AgentRuntime.perform_of_busy busy, List.append_nil])
    | false =>
      exact of_adds _ (congrArg (fun result => result.1.outbox)
        (AgentRuntime.enqueueDecision_of_idle busy observationJson deadlineTicks now))
  | expireOverdue now =>
    cases same
    obtain ⟨gone, new, -, -, adds, -⟩ := issuing.expireOverdue now
    exact ⟨of_adds _ adds.outbox, rfl⟩
  | recordFault id faultTick reason =>
    cases same
    refine ⟨of_adds [] ?_, rfl⟩
    simp only [AgentRuntime.perform, AgentRuntime.recordFault]
    split <;> exact (List.append_nil _).symm
  | forward | shutdown | serve | receive => cases same

theorem Link.serve_keeps (link : Link Store) (text : F32Text) (debug : DebugText)
    (provider : Provider Store) :
    (link.serve text debug provider).runtime = link.runtime ∧
      (link.serve text debug provider).issued = link.issued ∧
      (link.serve text debug provider).outcomes = link.outcomes := by
  unfold Link.serve
  split
  · exact ⟨rfl, rfl, rfl⟩
  · split
    · exact ⟨rfl, rfl, rfl⟩
    · exact ⟨rfl, rfl, rfl⟩
    · split <;> exact ⟨rfl, rfl, rfl⟩

theorem Link.Sound.serve (sound : link.Sound text debug provider cap) :
    (link.serve text debug provider).Sound text debug provider cap := by
  obtain ⟨asks, replies, answered, watched, ordered, settled⟩ := sound
  obtain ⟨asks', replies', answered', ordered'⟩ := ordered.serve
  obtain ⟨runtime, issued, outcomes⟩ := link.serve_keeps text debug provider
  refine ⟨asks', replies', answered', watched, ordered', settled.runtime.trans runtime.symm, ?_,
    settled.holds, ?_, ?_⟩
  · rw [issued]
    exact settled.accounts
  · rw [outcomes]
    exact settled.applied
  · rw [outcomes, issued]
    exact settled.outcomes

/-- Every step keeps everything, and numbers at most one decision. -/
theorem Link.Sound.perform (sound : link.Sound text debug provider cap) {op : LinkOp}
    (typed : op.Typed) (room : link.runtime.timeline.nextId < u64Max) :
    (link.perform text debug provider op).Sound text debug provider cap ∧
      (link.perform text debug provider op).runtime.timeline.nextId ≤
        link.runtime.timeline.nextId + 1 := by
  have operates {agentOp : AgentOp} (same : op.agentOp? = some agentOp) :
      (link.operate agentOp).Sound text debug provider cap ∧
        (link.operate agentOp).runtime.timeline.nextId ≤ link.runtime.timeline.nextId + 1 := by
    obtain ⟨issues, silent⟩ := agentOp_issues sound.issuing same
    exact ⟨sound.operate (typed agentOp same) room issues silent,
      AgentRuntime.perform_nextId_le sound.issuing agentOp⟩
  cases op with
  | enqueueDecision | expireOverdue | recordFault => exact operates rfl
  | forward => exact ⟨sound.forward (Nat.le_of_lt room), Nat.le_succ _⟩
  | shutdown =>
    have carried : ∀ envelope ∈ [shutdownEnvelope link.hostSeq], Carried envelope := by
      obtain ⟨asks, replies, answered, watched, ordered, settled⟩ := sound
      intro envelope listed
      rw [List.mem_singleton.mp listed]
      exact ⟨rfl, ordered.hostSeq, trivial, rfl⟩
    exact ⟨sound.send carried rfl, Nat.le_succ _⟩
  | serve =>
    have kept := (link.serve_keeps text debug provider).1
    exact ⟨sound.serve, Nat.le_succ_of_le (Nat.le_of_eq (congrArg (·.timeline.nextId) kept))⟩
  | receive now =>
    refine ⟨sound.receive now, ?_⟩
    have issuing := sound.issuing
    obtain ⟨asks, replies, answered, watched, ordered, settled⟩ := sound
    change (link.receive text now).runtime.timeline.nextId ≤ _
    rcases Link.receive_cases ordered now with ⟨-, same⟩ |
      ⟨envelope, rest, rfl, ⟨silent, same⟩ | ⟨reply, replied, same⟩⟩
    · rw [same]
      exact Nat.le_succ _
    · rw [same]
      exact Nat.le_succ _
    · rw [same]
      exact AgentRuntime.perform_nextId_le issuing (.processReply reply now)

end Steps

end Simetro.Bridge
