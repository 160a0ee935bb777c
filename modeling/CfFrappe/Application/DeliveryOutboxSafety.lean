import CfFrappe.Application.DeliveryOutboxRuns

set_option autoImplicit false

/-! # What the delivery outbox guarantees

Two results about every run of the outbox commands, with any number of workers and any
interleaving of their reads and appends. `state_reads_whole_stream`: compaction is invisible, the
state that is put together from a checkpoint, the carried-over records and the tail is the fold of
the whole stream. `record_held_once`: a record is enqueued once, held by one worker at a time and
delivered once.
-/

open Utf DocumentDeliveryOutboxService

/-- Empty streams. -/
def emptyOutboxStore : OutboxStore := { logs := fun _ => [], world := () }

/-- The runs of the outbox: any commands, started at any time, in any interleaving. -/
abbrev OutboxRun (localeCompare : JsString → JsString → Ordering) :=
  Run (LogState.exec outboxSurroundings) (OutboxCommand.program localeCompare) (fun _ => True) emptyOutboxStore

theorem inv_emptyOutboxStore : outboxDiscipline.Inv emptyOutboxStore :=
  ⟨fun _ => trivial, fun _ _ _ => OutboxLogOK.nil⟩

theorem OutboxRun.inv {localeCompare : JsString → JsString → Ordering}
    {threads : List (OutboxCommand × OutboxProgram OutboxResult)} {s : OutboxStore}
    {steps : List (RunStep OutboxCommand OutboxStore (LogAction StreamName OutboxEvent OutboxCall)
      (LogAction.Reply FrameworkError OutboxCall.Reply))}
    (hrun : OutboxRun localeCompare threads s steps) : outboxDiscipline.Inv s := by
  obtain ⟨pool, -, hsound⟩ := Run.sound (D := outboxDiscipline) hrun inv_emptyOutboxStore
    (fun command s _ _ => wp_program localeCompare command ∅ s)
  exact hsound.inv

/-! ## Compaction -/

/-- The actions of a reader are reads. -/
def IsRead (action : LogAction StreamName OutboxEvent OutboxCall) : Prop := ∃ stream, action = .read stream

theorem within_readDocumentEvents (tenantId : TenantId) (name : DocumentName) (stream : StreamName) :
    (readDocumentEvents tenantId name stream).Within IsRead :=
  Program.Within.bind ⟨⟨stream, rfl⟩, fun _ => trivial⟩ (fun _ => trivial)

theorem within_readStream (stream : StreamName) (minSequence : Nat) :
    (readStream stream minSequence).Within IsRead :=
  Program.Within.bind ⟨⟨stream, rfl⟩, fun _ => trivial⟩ (fun _ => trivial)

theorem within_readHistories (tenantId : TenantId) (stream : StreamName) (outboxIds : List JsString) :
    (readHistories tenantId stream outboxIds).Within IsRead := by
  induction outboxIds with
  | nil => trivial
  | cons outboxId outboxIds ih =>
    apply Program.Within.bind (within_readDocumentEvents _ _ _)
    intro events
    exact Program.Within.bind ih (fun _ => trivial)

theorem within_state (tenantId : TenantId) : (state tenantId).Within IsRead := by
  have hwhole : ∀ stream, (wholeState tenantId stream).Within IsRead := by
    intro stream
    exact Program.Within.bind (within_readStream _ _) (fun _ => trivial)
  apply Program.Within.bind (Program.Within.ofExcept _)
  intro stream
  apply Program.Within.bind
  · exact Program.Within.bind (within_readDocumentEvents _ _ _) (fun _ => trivial)
  · intro checkpoint
    cases checkpoint with
    | none => exact hwhole stream
    | some checkpoint =>
      apply Program.Within.bind
      · exact Program.Within.bind (within_readHistories _ _ _) (fun _ => trivial)
      · intro carried
        cases carried with
        | none => exact hwhole stream
        | some carried => exact Program.Within.bind (within_readStream _ _) (fun _ => trivial)

/-- Commands that only read. -/
def OutboxCommand.isReader : OutboxCommand → Bool
  | .state _ | .list _ | .record _ _ => true
  | _ => false

theorem within_program (localeCompare : JsString → JsString → Ordering) (command : OutboxCommand) :
    (command.program localeCompare).Within (fun action => command.isReader = true → IsRead action) := by
  cases command with
  | state tenantId =>
    have hstate := Program.Within.bind (within_state tenantId) (fun state => Program.Within.pure (OutboxResult.state state))
    exact hstate.mono (fun action haction _ => haction)
  | list tenantId =>
    have hlist : (list localeCompare tenantId).Within IsRead :=
      Program.Within.bind (within_state tenantId) (fun _ => trivial)
    have hall := hlist.bind (fun records => Program.Within.pure (OutboxResult.records records))
    exact hall.mono (fun action haction _ => haction)
  | record tenantId outboxId =>
    have hrecord : (record tenantId outboxId).Within IsRead := by
      apply Program.Within.bind (Program.Within.ofExcept _)
      intro stream
      exact Program.Within.bind (within_readDocumentEvents _ _ _) (fun _ => trivial)
    have hall := hrecord.bind (fun record => Program.Within.pure (OutboxResult.record record))
    exact hall.mono (fun action haction _ => haction)
  | _ => exact Program.Within.of_forall (fun action h => nomatch h) _

/-- On a log of the outbox the listed records are those that their own events say are in flight. -/
theorem mem_sorted_iff {localeCompare : JsString → JsString → Ordering} {tenantId : TenantId} {log : OutboxLog}
    (h : OutboxLogOK tenantId log) (outboxId : JsString) (r : DocumentDeliveryOutboxRecord) :
    (r ∈ sortedDocumentDeliveryOutboxRecords localeCompare (foldDocumentDeliveryOutbox tenantId log) ∧
        r.id = outboxId) ↔
      foldDocumentDeliveryOutboxRecord tenantId outboxId log = some r ∧ r.status ≠ .delivered := by
  have hget : (foldDocumentDeliveryOutboxRecord tenantId outboxId log = some r ∧ r.status ≠ .delivered) ↔
      Record.get (foldDocumentDeliveryOutbox tenantId log).records outboxId = some r := by
    rw [get_fold tenantId h.phased, Option.filter_eq_some_iff, inFlight, decide_eq_true_eq]
  rw [hget]
  unfold sortedDocumentDeliveryOutboxRecords sortOutboxRecords
  rw [(List.perm_insertionSort _ _).mem_iff, List.mem_map]
  constructor
  · rintro ⟨⟨⟨x, r'⟩, hentry, rfl⟩, hid⟩
    have hentry' := Record.get_of_mem (nodup_keys_fold tenantId log) hentry
    have hx := keyed_fold tenantId log x r' hentry'
    rw [← hid, hx]
    exact hentry'
  · intro hentry
    exact ⟨⟨(outboxId, r), Record.mem_of_get hentry, rfl⟩, keyed_fold tenantId log outboxId r hentry⟩

/-- **Compaction is invisible.** In every run, when a reader takes its last step, that step is a
read, and what the reader returns is what the whole stream says at that moment: `state` the fold of
the stream, `list` its records and `record` the fold of the record's own events. And in every state
of every run the listed records are those that `record` finds and that are not delivered. -/
theorem state_reads_whole_stream {localeCompare : JsString → JsString → Ordering}
    {others others' : List (OutboxCommand × OutboxProgram OutboxResult)} {s t : OutboxStore}
    {steps : List (RunStep OutboxCommand OutboxStore (LogAction StreamName OutboxEvent OutboxCall)
      (LogAction.Reply FrameworkError OutboxCall.Reply))}
    {command : OutboxCommand} {action : LogAction StreamName OutboxEvent OutboxCall}
    {next : action.Reply FrameworkError OutboxCall.Reply → OutboxProgram OutboxResult}
    {reply : action.Reply FrameworkError OutboxCall.Reply} {result : OutboxResult}
    (hrun : OutboxRun localeCompare (others ++ (command, .act action next) :: others') s steps)
    (hexec : s.exec outboxSurroundings action reply t) (hend : next reply = .pure result) :
    (∀ tenantId, command = .state tenantId → IsRead action ∧
        ∃ stream, documentDeliveryOutboxStream tenantId = some stream ∧
          result = .state (foldDocumentDeliveryOutbox tenantId (s.logs stream))) ∧
      (∀ tenantId, command = .list tenantId → IsRead action ∧
        ∃ stream, documentDeliveryOutboxStream tenantId = some stream ∧
          result = .records (sortedDocumentDeliveryOutboxRecords localeCompare
            (foldDocumentDeliveryOutbox tenantId (s.logs stream)))) ∧
      (∀ tenantId outboxId, command = .record tenantId outboxId → IsRead action ∧
        ∃ stream, documentDeliveryOutboxStream tenantId = some stream ∧
          result = .record (foldDocumentDeliveryOutboxRecord tenantId outboxId (s.logs stream))) ∧
      ∀ tenantId stream outboxId, documentDeliveryOutboxStream tenantId = some stream →
        Record.get (foldDocumentDeliveryOutbox tenantId (s.logs stream)).records outboxId =
            (foldDocumentDeliveryOutboxRecord tenantId outboxId (s.logs stream)).filter
              (fun r => r.status ≠ .delivered) ∧
          ∀ r, (r ∈ sortedDocumentDeliveryOutboxRecords localeCompare
                (foldDocumentDeliveryOutbox tenantId (s.logs stream)) ∧ r.id = outboxId) ↔
              foldDocumentDeliveryOutboxRecord tenantId outboxId (s.logs stream) = some r ∧
                r.status ≠ .delivered := by
  have hinv := OutboxRun.inv hrun
  obtain ⟨-, hreturns⟩ := Run.result (D := outboxDiscipline) hrun inv_emptyOutboxStore
    (fun command s _ _ => wp_program localeCompare command ∅ s) hexec hend
  have hwithin := (Run.within hrun (fun command _ => within_program localeCompare command)
    (command, .act action next) (List.mem_append_right _ List.mem_cons_self)).1
  -- the last step of a reader leaves the streams as they are
  have hread : command.isReader = true → IsRead action ∧ t = s := by
    intro hreader
    obtain ⟨stream, rfl⟩ := hwithin hreader
    exact ⟨⟨stream, rfl⟩, hexec.2⟩
  refine ⟨?_, ?_, ?_, ?_⟩
  · rintro tenantId rfl
    obtain ⟨hisRead, rfl⟩ := hread rfl
    exact ⟨hisRead, hreturns⟩
  · rintro tenantId rfl
    obtain ⟨hisRead, rfl⟩ := hread rfl
    exact ⟨hisRead, hreturns⟩
  · rintro tenantId outboxId rfl
    obtain ⟨hisRead, rfl⟩ := hread rfl
    exact ⟨hisRead, hreturns⟩
  · intro tenantId stream outboxId hstream
    have hok := inv_log hstream hinv
    exact ⟨get_fold tenantId hok.phased outboxId, fun r => mem_sorted_iff hok outboxId r⟩

/-! ### A run with a checkpoint

Two records are enqueued, one is claimed and delivered, and the delivery brings a checkpoint that
carries both. -/

def outboxReply : OutboxStore → (action : LogAction StreamName OutboxEvent OutboxCall) →
    action.Reply FrameworkError OutboxCall.Reply × OutboxStore :=
  LogState.reply (.conflict []) (fun world call =>
    match call with
    | .now => (js "2026-01-01T00:00:00.000Z", world)
    | .nextId start => (start, world))

theorem exec_outboxReply (s : OutboxStore) (action : LogAction StreamName OutboxEvent OutboxCall) :
    s.exec outboxSurroundings action (outboxReply s action).1 (outboxReply s action).2 :=
  LogState.exec_reply (fun _ _ => trivial) s action

def taskCreated : DomainEvent :=
  { id := js "e"
    tenantId := js "acme"
    stream := js "acme:Task:T1"
    type := js "TaskCreated"
    doctype := js "Task"
    documentName := js "T1"
    actorId := js "ann"
    occurredAt := js "2026-01-01T00:00:00.000Z"
    payload := .documentDeleted
    metadata := []
    sequence := 1 }

def oneDelivery : List OutboxCommand :=
  [.enqueueFromDomainEvent { event := taskCreated, snapshot := none, targets := [.email, .realtime], metadata := [] },
   .claimPending { tenantId := js "acme", claimId := some (js "c"), limit := some 1 },
   .markDelivered { tenantId := js "acme", outboxId := js "e:email", claimId := js "c" }]

/-- The store after one delivery. -/
def deliveredStore : OutboxStore :=
  Program.evalAll outboxReply (OutboxCommand.program compareCodeUnits) oneDelivery emptyOutboxStore

theorem run_oneDelivery : ∃ threads steps, OutboxRun compareCodeUnits threads deliveredStore steps := by
  obtain ⟨threads, hrun⟩ := Program.run_evalAll exec_outboxReply oneDelivery (fun _ _ => trivial) Run.nil
  exact ⟨threads, _, hrun⟩

theorem state_reads_whole_stream_delivered :
    ∃ others s steps action next result stream,
      OutboxRun compareCodeUnits (others ++ [(.state (js "acme"), .act action next)]) s steps ∧
        next (outboxReply s action).1 = .pure result ∧
        documentDeliveryOutboxStream (js "acme") = some stream ∧ ((outboxReply s action).2.logs stream).length = 5 ∧
        result = .state (foldDocumentDeliveryOutbox (js "acme") (s.logs stream)) := by
  obtain ⟨threads, steps, hrun⟩ := run_oneDelivery
  have hstart := hrun.spawn (OutboxCommand.state (js "acme")) trivial
  have hended : ∃ result, (((OutboxCommand.state (js "acme")).program compareCodeUnits).eval outboxReply
      deliveredStore).1 = .ok result := ⟨_, rfl⟩
  obtain ⟨result, hresult⟩ := hended
  obtain ⟨s, steps', action, next, hlast, hend, hstore⟩ :=
    Program.run_last exec_outboxReply hstart (by trivial) hresult
  obtain ⟨hstate, -⟩ := state_reads_whole_stream hlast (exec_outboxReply s action) hend
  obtain ⟨-, stream, hstream, hfold⟩ := hstate _ rfl
  refine ⟨threads, s, steps', action, next, result, stream, hlast, hend, hstream, ?_, hfold⟩
  rw [hstore]
  have hlength : (documentDeliveryOutboxStream (js "acme")).map (fun stream =>
      ((((OutboxCommand.state (js "acme")).program compareCodeUnits).eval outboxReply
        deliveredStore).2.logs stream).length) = some 5 := by decide +kernel
  rw [hstream] at hlength
  exact Option.some.inj hlength

/-! ## The protocol -/

def DocumentDeliveryOutboxEventPayload.isEnqueued : DocumentDeliveryOutboxEventPayload → Bool
  | .enqueued .. => true
  | _ => false

def DocumentDeliveryOutboxEventPayload.isDelivered : DocumentDeliveryOutboxEventPayload → Bool
  | .delivered .. => true
  | _ => false

def DocumentDeliveryOutboxEventPayload.isFailed : DocumentDeliveryOutboxEventPayload → Bool
  | .failed .. => true
  | _ => false

section Phases

variable {phase phase' : OutboxPhase} {before after payloads : List DocumentDeliveryOutboxEventPayload}
variable {payload : DocumentDeliveryOutboxEventPayload}

theorem phaseFrom_cons (h : phaseFrom phase (payload :: payloads) = some phase') :
    ∃ next, phase.next payload = some next ∧ phaseFrom next payloads = some phase' := by
  rw [phaseFrom] at h
  cases hnext : phase.next payload with
  | none => simp [hnext] at h
  | some next =>
    rw [hnext] at h
    exact ⟨next, rfl, h⟩

/-- What the phases are around a payload. -/
theorem phaseFrom_split (h : (phaseFrom phase (before ++ payload :: after)).isSome) :
    ∃ held next, phaseFrom phase before = some held ∧ held.next payload = some next ∧
      (phaseFrom next after).isSome := by
  obtain ⟨last, hlast⟩ := Option.isSome_iff_exists.mp h
  rw [phaseFrom_append] at hlast
  obtain ⟨held, hheld, hrest⟩ := Option.bind_eq_some_iff.mp hlast
  obtain ⟨next, hnext, hafter⟩ := phaseFrom_cons hrest
  exact ⟨held, next, hheld, hnext, by rw [hafter]; rfl⟩

theorem countP_enqueued (h : phaseFrom phase payloads = some phase') :
    payloads.countP (·.isEnqueued) ≤ if phase = .absent then 1 else 0 := by
  induction payloads generalizing phase with
  | nil => simp
  | cons payload payloads ih =>
    obtain ⟨next, hnext, hrest⟩ := phaseFrom_cons h
    have hcount := ih hrest
    rw [if_neg (next_ne_absent hnext)] at hcount
    cases payload with
    | enqueued outboxId source =>
      rw [List.countP_cons_of_pos rfl, (next_enqueued hnext).1, if_pos rfl]
      omega
    | _ =>
      rw [List.countP_cons_of_neg Bool.false_ne_true]
      omega

/-- Only the holder of a claim delivers. -/
theorem next_delivered {outboxId claimId : JsString} (h : phase.next (.delivered outboxId claimId) = some phase') :
    phase = .claimed claimId ∧ phase' = .delivered := by
  cases phase with
  | claimed holder =>
    rw [OutboxPhase.next] at h
    split_ifs at h with hholder
    exact ⟨by rw [hholder], (Option.some.inj h).symm⟩
  | absent => cases h
  | pending => cases h
  | failed => cases h
  | delivered => cases h

theorem next_failed {outboxId claimId error : JsString} {retryAt : Option Timestamp}
    (h : phase.next (.failed outboxId claimId error retryAt) = some phase') :
    phase = .claimed claimId ∧ phase' = .failed := by
  cases phase with
  | claimed holder =>
    rw [OutboxPhase.next] at h
    split_ifs at h with hholder
    exact ⟨by rw [hholder], (Option.some.inj h).symm⟩
  | absent => cases h
  | pending => cases h
  | failed => cases h
  | delivered => cases h

theorem next_claimed {outboxId claimId : JsString} (h : phase.next (.claimed outboxId claimId) = some phase') :
    (phase = .pending ∨ phase = .failed) ∧ phase' = .claimed claimId := by
  cases phase with
  | pending => exact ⟨Or.inl rfl, (Option.some.inj h).symm⟩
  | failed => exact ⟨Or.inr rfl, (Option.some.inj h).symm⟩
  | absent => cases h
  | claimed holder => cases h
  | delivered => cases h

theorem countP_delivered (h : phaseFrom phase payloads = some phase') : payloads.countP (·.isDelivered) ≤ 1 := by
  induction payloads generalizing phase with
  | nil => simp
  | cons payload payloads ih =>
    obtain ⟨next, hnext, hrest⟩ := phaseFrom_cons h
    cases payload with
    | delivered outboxId claimId =>
      rw [(next_delivered hnext).2] at hrest
      have hlast : payloads = [] := phaseFrom_delivered (by rw [hrest]; rfl)
      rw [List.countP_cons_of_pos rfl, hlast, List.countP_nil]
    | _ =>
      rw [List.countP_cons_of_neg Bool.false_ne_true]
      exact ih hrest

/-- A record is held since the claim that was last of its events. -/
theorem claimed_last {outboxId claimId : JsString} (h : phaseFrom .absent payloads = some (.claimed claimId))
    (hids : ∀ payload ∈ payloads, payload.outboxId? = some outboxId) :
    ∃ earlier, payloads = earlier ++ [.claimed outboxId claimId] := by
  rcases List.eq_nil_or_concat payloads with rfl | ⟨earlier, payload, rfl⟩
  · exact nomatch h
  · rw [List.concat_eq_append] at h hids ⊢
    have hid := hids payload (List.mem_append_right _ List.mem_cons_self)
    rw [phaseFrom_append] at h
    obtain ⟨held, -, hlast⟩ := Option.bind_eq_some_iff.mp h
    obtain ⟨next, hnext, hend⟩ := phaseFrom_cons hlast
    obtain rfl := Option.some.inj hend
    refine ⟨earlier, ?_⟩
    cases payload with
    | claimed id claimId' =>
      rw [OutboxPhase.claimed.inj (next_claimed hnext).2]
      rw [Option.some.inj hid]
    | enqueued id source => exact nomatch (next_enqueued hnext).2
    | delivered id claimId' => exact nomatch (next_delivered hnext).2
    | failed id claimId' error retryAt => exact nomatch (next_failed hnext).2
    | checkpointed upToSequence carryOver => exact nomatch hid
    | other kind => exact nomatch hid

/-- While a record is held and does not fail, nobody else can claim it. -/
theorem held_until_failed (h : phaseFrom phase payloads = some phase')
    (hheld : (∃ claimId, phase = .claimed claimId) ∨ phase = .delivered)
    (hfailed : ∀ payload ∈ payloads, payload.isFailed = false) :
    (∃ claimId, phase' = .claimed claimId) ∨ phase' = .delivered := by
  induction payloads generalizing phase with
  | nil =>
    rw [← Option.some.inj h]
    exact hheld
  | cons payload payloads ih =>
    obtain ⟨next, hnext, hrest⟩ := phaseFrom_cons h
    apply ih hrest _ (fun payload' hmem => hfailed payload' (List.mem_cons_of_mem _ hmem))
    cases payload with
    | claimed id claimId => exact Or.inl ⟨claimId, (next_claimed hnext).2⟩
    | delivered id claimId => exact Or.inr (next_delivered hnext).2
    | failed id claimId error retryAt => exact nomatch hfailed _ List.mem_cons_self
    | enqueued id source =>
      rcases hheld with ⟨claimId, hclaimed⟩ | hdelivered
      · exact nomatch hclaimed.symm.trans (next_enqueued hnext).1
      · exact nomatch hdelivered.symm.trans (next_enqueued hnext).1
    | checkpointed upToSequence carryOver =>
      rcases hheld with ⟨claimId, rfl⟩ | rfl
      · exact nomatch hnext
      · exact nomatch hnext
    | other kind =>
      rcases hheld with ⟨claimId, rfl⟩ | rfl
      · exact nomatch hnext
      · exact nomatch hnext

theorem failed_between {outboxId claimId claimId' : JsString} {middle : List DocumentDeliveryOutboxEventPayload}
    (h : (phaseFrom phase (before ++ .claimed outboxId claimId :: (middle ++ .claimed outboxId claimId' :: after))).isSome) :
    ∃ payload ∈ middle, payload.isFailed = true := by
  by_contra hnone
  obtain ⟨_, next, -, hnext, hrest⟩ := phaseFrom_split h
  obtain ⟨held, _, hheld, hagain, -⟩ := phaseFrom_split hrest
  have hstill := held_until_failed hheld (Or.inl ⟨claimId, (next_claimed hnext).2⟩) (by
    intro payload hmem
    by_contra hfailed
    exact hnone ⟨payload, hmem, by simpa using hfailed⟩)
  rcases (next_claimed hagain).1 with rfl | rfl
  · rcases hstill with ⟨_, heq⟩ | heq
    · exact nomatch heq
    · exact nomatch heq
  · rcases hstill with ⟨_, heq⟩ | heq
    · exact nomatch heq
    · exact nomatch heq

end Phases

/-- **A record is held by one worker at a time and delivered once.** In every run, for every record
of every tenant: among its events there is at most one that enqueues it and at most one that
delivers it, and none after that; what is right before a delivery or a failure is the claim with
the same id; and between two claims there is a failure. -/
theorem record_held_once {localeCompare : JsString → JsString → Ordering}
    {threads : List (OutboxCommand × OutboxProgram OutboxResult)} {s : OutboxStore}
    {steps : List (RunStep OutboxCommand OutboxStore (LogAction StreamName OutboxEvent OutboxCall)
      (LogAction.Reply FrameworkError OutboxCall.Reply))}
    (hrun : OutboxRun localeCompare threads s steps) {tenantId : TenantId} {stream : StreamName}
    (hstream : documentDeliveryOutboxStream tenantId = some stream) (outboxId : JsString) :
    (recordPayloads outboxId (s.logs stream)).countP (·.isEnqueued) ≤ 1 ∧
      (recordPayloads outboxId (s.logs stream)).countP (·.isDelivered) ≤ 1 ∧
      (∀ before claimId after,
        recordPayloads outboxId (s.logs stream) = before ++ .delivered outboxId claimId :: after →
          after = [] ∧ ∃ earlier, before = earlier ++ [.claimed outboxId claimId]) ∧
      (∀ before claimId error retryAt after,
        recordPayloads outboxId (s.logs stream) = before ++ .failed outboxId claimId error retryAt :: after →
          ∃ earlier, before = earlier ++ [.claimed outboxId claimId]) ∧
      ∀ before claimId middle claimId' after,
        recordPayloads outboxId (s.logs stream) =
            before ++ .claimed outboxId claimId :: (middle ++ .claimed outboxId claimId' :: after) →
          ∃ holder error retryAt, .failed outboxId holder error retryAt ∈ middle := by
  have hphased := (inv_log hstream (OutboxRun.inv hrun)).phased outboxId
  unfold recordPhase at hphased
  -- each clause reads a phase off the place where an event stands
  have hids : ∀ payload ∈ recordPayloads outboxId (s.logs stream), payload.outboxId? = some outboxId := by
    intro payload hmem
    simpa using (List.mem_filter.mp hmem).2
  obtain ⟨phase, hphase⟩ := Option.isSome_iff_exists.mp hphased
  refine ⟨?_, countP_delivered hphase, ?_, ?_, ?_⟩
  · have hcount := countP_enqueued hphase
    rwa [if_pos rfl] at hcount
  · intro before claimId after heq
    rw [heq] at hphased hids
    obtain ⟨held, next, hheld, hnext, hrest⟩ := phaseFrom_split hphased
    obtain ⟨rfl, rfl⟩ := next_delivered hnext
    exact ⟨phaseFrom_delivered hrest, claimed_last hheld (fun payload hmem => hids payload (List.mem_append_left _ hmem))⟩
  · intro before claimId error retryAt after heq
    rw [heq] at hphased hids
    obtain ⟨held, next, hheld, hnext, -⟩ := phaseFrom_split hphased
    obtain ⟨rfl, -⟩ := next_failed hnext
    exact claimed_last hheld (fun payload hmem => hids payload (List.mem_append_left _ hmem))
  · intro before claimId middle claimId' after heq
    rw [heq] at hphased hids
    obtain ⟨payload, hmem, hfailed⟩ := failed_between hphased
    have hid := hids payload (by simp [hmem])
    cases payload with
    | failed id holder error retryAt =>
      obtain rfl := Option.some.inj hid
      exact ⟨holder, error, retryAt, hmem⟩
    | _ => exact nomatch hfailed

theorem record_held_once_delivered :
    ∃ threads s steps stream, OutboxRun compareCodeUnits threads s steps ∧
      documentDeliveryOutboxStream (js "acme") = some stream ∧
      (recordPayloads (js "e:email") (s.logs stream)).length = 3 ∧
      (recordPayloads (js "e:email") (s.logs stream)).countP (·.isDelivered) ≤ 1 := by
  obtain ⟨threads, steps, hrun⟩ := run_oneDelivery
  have hstream : ∃ stream, documentDeliveryOutboxStream (js "acme") = some stream := ⟨_, rfl⟩
  obtain ⟨stream, hstream⟩ := hstream
  have hlength : (documentDeliveryOutboxStream (js "acme")).map (fun stream =>
      (recordPayloads (js "e:email") (deliveredStore.logs stream)).length) = some 3 := by decide +kernel
  rw [hstream] at hlength
  exact ⟨threads, deliveredStore, steps, stream, hrun, hstream, Option.some.inj hlength,
    (record_held_once hrun hstream (js "e:email")).2.1⟩
