import CfFrappe.Application.DeliveryOutbox

set_option autoImplicit false

/-! # The log of the delivery outbox

What every outbox stream is: its events are numbered and carry the name of their record, each
record goes through its phases (`OutboxPhase`), and a checkpoint says which records were in flight
just before it. On such a log the working set and the record folds agree (`OutboxLogOK.get_eq`),
and a working set from which records are left out that are delivered later folds to the same as
the whole one (`fold_filter`).
-/

open Utf

/-! ## The phases of a record -/

inductive OutboxPhase
  | absent
  | pending
  | claimed (claimId : JsString)
  | failed
  | delivered
  deriving DecidableEq

namespace OutboxPhase

/-- The phase after an event of the record. -/
def next : OutboxPhase → DocumentDeliveryOutboxEventPayload → Option OutboxPhase
  | .absent, .enqueued .. => some .pending
  | .pending, .claimed _ claimId => some (.claimed claimId)
  | .failed, .claimed _ claimId => some (.claimed claimId)
  | .claimed holder, .delivered _ claimId => if claimId = holder then some .delivered else none
  | .claimed holder, .failed _ claimId _ _ => if claimId = holder then some .failed else none
  | _, _ => none

end OutboxPhase

/-- The payloads that are about a record, in order. -/
def recordPayloads (outboxId : JsString) (log : OutboxLog) : List DocumentDeliveryOutboxEventPayload :=
  (log.map (fun e => e.event.payload)).filter (fun payload => payload.outboxId? = some outboxId)

/-- The phase that payloads lead to, if every one was possible. -/
def phaseFrom (phase : OutboxPhase) : List DocumentDeliveryOutboxEventPayload → Option OutboxPhase
  | [] => some phase
  | payload :: payloads =>
    match phase.next payload with
    | some phase => phaseFrom phase payloads
    | none => none

def recordPhase (outboxId : JsString) (log : OutboxLog) : Option OutboxPhase :=
  phaseFrom .absent (recordPayloads outboxId log)

theorem phaseFrom_append (phase : OutboxPhase) (payloads payloads' : List DocumentDeliveryOutboxEventPayload) :
    phaseFrom phase (payloads ++ payloads') = (phaseFrom phase payloads).bind (phaseFrom · payloads') := by
  induction payloads generalizing phase with
  | nil => rfl
  | cons payload payloads ih =>
    rw [List.cons_append, phaseFrom, phaseFrom]
    cases phase.next payload with
    | none => rfl
    | some phase => exact ih phase

theorem recordPayloads_append (outboxId : JsString) (log log' : OutboxLog) :
    recordPayloads outboxId (log ++ log') = recordPayloads outboxId log ++ recordPayloads outboxId log' := by
  unfold recordPayloads
  rw [List.map_append, List.filter_append]

theorem recordPhase_append (outboxId : JsString) (log log' : OutboxLog) :
    recordPhase outboxId (log ++ log') =
      (recordPhase outboxId log).bind (phaseFrom · (recordPayloads outboxId log')) := by
  unfold recordPhase
  rw [recordPayloads_append, phaseFrom_append]

variable {outboxId x : JsString} {phase phase' : OutboxPhase} {records : Record JsString DocumentDeliveryOutboxRecord}
variable {record : Option DocumentDeliveryOutboxRecord} {occurredAt : Timestamp}

theorem recordPayloads_eq_nil {log : OutboxLog} (h : ∀ e ∈ log, e.event.payload.outboxId? ≠ some outboxId) :
    recordPayloads outboxId log = [] := by
  unfold recordPayloads
  apply List.filter_eq_nil_iff.mpr
  intro payload hpayload
  obtain ⟨e, he, rfl⟩ := List.mem_map.mp hpayload
  simpa using h e he

theorem mem_recordPayloads {log : OutboxLog} {e : Recorded OutboxEvent} (he : e ∈ log)
    (h : e.event.payload.outboxId? = some outboxId) : e.event.payload ∈ recordPayloads outboxId log := by
  unfold recordPayloads
  apply List.mem_filter.mpr
  exact ⟨List.mem_map_of_mem he, by simpa using h⟩

/-- Nothing happens to a record after its delivery. -/
theorem phaseFrom_delivered {payloads : List DocumentDeliveryOutboxEventPayload}
    (h : (phaseFrom .delivered payloads).isSome) : payloads = [] := by
  cases payloads with
  | nil => rfl
  | cons payload payloads => cases payload <;> exact absurd h (by simp [phaseFrom, OutboxPhase.next])

/-- A record is enqueued from nothing only. -/
theorem next_enqueued {source : DocumentDeliveryOutboxSource} (h : phase.next (.enqueued outboxId source) = some phase') :
    phase = .absent ∧ phase' = .pending := by
  cases phase <;> simp_all [OutboxPhase.next]

theorem next_ne_absent {payload : DocumentDeliveryOutboxEventPayload} (h : phase.next payload = some phase') :
    phase' ≠ .absent := by
  rintro rfl
  cases phase <;> cases payload <;> simp [OutboxPhase.next] at h

theorem phaseFrom_no_enqueued {payloads : List DocumentDeliveryOutboxEventPayload} (hphase : phase ≠ .absent)
    (h : (phaseFrom phase payloads).isSome) (outboxId : JsString) (source : DocumentDeliveryOutboxSource) :
    .enqueued outboxId source ∉ payloads := by
  induction payloads generalizing phase with
  | nil => exact List.not_mem_nil
  | cons payload payloads ih =>
    rw [phaseFrom] at h
    cases hnext : phase.next payload with
    | none => simp [hnext] at h
    | some phase' =>
      rw [hnext] at h
      rw [List.mem_cons, not_or]
      refine ⟨?_, ih (next_ne_absent hnext) h⟩
      rintro rfl
      exact hphase (next_enqueued hnext).1

/-! ## The record fold follows the phases -/

/-- What the fold of a record's events is in a phase. -/
def RecordAt (outboxId : JsString) : OutboxPhase → Option DocumentDeliveryOutboxRecord → Prop
  | .absent, record => record = none
  | .pending, record => ∃ r, record = some r ∧ r.id = outboxId ∧ r.status = .pending
  | .claimed claimId, record =>
    ∃ r, record = some r ∧ r.id = outboxId ∧ r.status = .claimed ∧ r.claimId = some claimId
  | .failed, record => ∃ r, record = some r ∧ r.id = outboxId ∧ r.status = .failed
  | .delivered, record => ∃ r, record = some r ∧ r.id = outboxId ∧ r.status = .delivered

theorem recordAt_next {tenantId : TenantId} {e : Recorded OutboxEvent} (h : RecordAt outboxId phase record)
    (hid : e.event.payload.outboxId? = some outboxId) (hnext : phase.next e.event.payload = some phase') :
    RecordAt outboxId phase' (applyOutboxRecordEvent tenantId outboxId record e) := by
  rw [applyOutboxRecordEvent, if_pos hid]
  -- one case for each payload; the phase allows it in few states, and there it is what the record becomes
  cases hpayload : e.event.payload with
  | enqueued id source =>
    rw [hpayload] at hid hnext
    obtain ⟨rfl, rfl⟩ := next_enqueued hnext
    rw [DocumentDeliveryOutboxEventPayload.outboxId?, Option.some.injEq] at hid
    exact ⟨_, rfl, hid, rfl⟩
  | claimed id claimId =>
    rw [hpayload] at hnext
    cases phase with
    | pending =>
      obtain ⟨r, rfl, hr, -⟩ := h
      obtain rfl := Option.some.inj hnext
      exact ⟨_, rfl, hr, rfl, rfl⟩
    | failed =>
      obtain ⟨r, rfl, hr, -⟩ := h
      obtain rfl := Option.some.inj hnext
      exact ⟨_, rfl, hr, rfl, rfl⟩
    | absent => exact nomatch hnext
    | claimed holder => exact nomatch hnext
    | delivered => exact nomatch hnext
  | delivered id claimId =>
    rw [hpayload] at hnext
    cases phase with
    | claimed holder =>
      obtain ⟨r, rfl, hr, -⟩ := h
      rw [OutboxPhase.next] at hnext
      split_ifs at hnext
      obtain rfl := Option.some.inj hnext
      exact ⟨_, rfl, hr, rfl⟩
    | absent => exact nomatch hnext
    | pending => exact nomatch hnext
    | failed => exact nomatch hnext
    | delivered => exact nomatch hnext
  | failed id claimId error retryAt =>
    rw [hpayload] at hnext
    cases phase with
    | claimed holder =>
      obtain ⟨r, rfl, hr, -⟩ := h
      rw [OutboxPhase.next] at hnext
      split_ifs at hnext
      obtain rfl := Option.some.inj hnext
      exact ⟨_, rfl, hr, rfl⟩
    | absent => exact nomatch hnext
    | pending => exact nomatch hnext
    | failed => exact nomatch hnext
    | delivered => exact nomatch hnext
  | checkpointed upToSequence carryOver =>
    rw [hpayload] at hid
    exact nomatch hid
  | other kind =>
    rw [hpayload] at hid
    exact nomatch hid

theorem applyOutboxRecordEvent_of_ne {tenantId : TenantId} {e : Recorded OutboxEvent}
    (h : e.event.payload.outboxId? ≠ some outboxId) : applyOutboxRecordEvent tenantId outboxId record e = record := by
  rw [applyOutboxRecordEvent, if_neg h]

theorem foldRecordFrom_append (initial : Option DocumentDeliveryOutboxRecord) (tenantId : TenantId)
    (outboxId : JsString) (log log' : OutboxLog) :
    foldDocumentDeliveryOutboxRecordFrom initial tenantId outboxId (log ++ log') =
      foldDocumentDeliveryOutboxRecordFrom
        (foldDocumentDeliveryOutboxRecordFrom initial tenantId outboxId log) tenantId outboxId log' :=
  List.foldl_append

theorem recordAt_fold {tenantId : TenantId} {log : OutboxLog} (h : RecordAt outboxId phase record)
    (hphase : phaseFrom phase (recordPayloads outboxId log) = some phase') :
    RecordAt outboxId phase' (foldDocumentDeliveryOutboxRecordFrom record tenantId outboxId log) := by
  induction log generalizing phase record with
  | nil =>
    obtain rfl := Option.some.inj hphase
    exact h
  | cons e log ih =>
    have hcons : recordPayloads outboxId (e :: log) = recordPayloads outboxId [e] ++ recordPayloads outboxId log :=
      recordPayloads_append outboxId [e] log
    change RecordAt outboxId phase' (foldDocumentDeliveryOutboxRecordFrom
      (applyOutboxRecordEvent tenantId outboxId record e) tenantId outboxId log)
    by_cases hid : e.event.payload.outboxId? = some outboxId
    · have hone : recordPayloads outboxId [e] = [e.event.payload] := by
        simp [recordPayloads, hid]
      rw [hcons, hone, List.singleton_append, phaseFrom] at hphase
      cases hnext : phase.next e.event.payload with
      | none => simp [hnext] at hphase
      | some next =>
        rw [hnext] at hphase
        exact ih (recordAt_next h hid hnext) hphase
    · have hnone : recordPayloads outboxId [e] = [] := by
        simp [recordPayloads, hid]
      rw [hcons, hnone, List.nil_append] at hphase
      rw [applyOutboxRecordEvent_of_ne hid]
      exact ih h hphase

theorem recordAt_recordPhase (tenantId : TenantId) {log : OutboxLog} (h : recordPhase outboxId log = some phase) :
    RecordAt outboxId phase (foldDocumentDeliveryOutboxRecord tenantId outboxId log) := by
  have hnone : RecordAt outboxId .absent none := rfl
  exact recordAt_fold hnone h

/-! ## The working set -/

theorem foldFrom_append (initial : Option DocumentDeliveryOutboxState) (tenantId : TenantId)
    (log log' : OutboxLog) :
    foldDocumentDeliveryOutboxFrom initial tenantId (log ++ log') =
      log'.foldl (applyOutboxEvent tenantId) (foldDocumentDeliveryOutboxFrom initial tenantId log) :=
  List.foldl_append

/-- Only what is in flight is in the working set. -/
def inFlight (record : DocumentDeliveryOutboxRecord) : Bool := decide (record.status ≠ .delivered)

/-- One event does the same to the working set as to the record it is about. -/
theorem get_applyOutboxPayload {tenantId : TenantId} {fold : JsString → Option DocumentDeliveryOutboxRecord}
    {phase : JsString → OutboxPhase} {e : Recorded OutboxEvent}
    (hget : ∀ x, Record.get records x = (fold x).filter inFlight) (hphase : ∀ x, RecordAt x (phase x) (fold x))
    (hnext : ∀ x, e.event.payload.outboxId? = some x → ((phase x).next e.event.payload).isSome) (x : JsString) :
    Record.get (applyOutboxPayload tenantId e.event.occurredAt records e.event.payload) x =
      (applyOutboxRecordEvent tenantId x (fold x) e).filter inFlight := by
  unfold applyOutboxRecordEvent
  cases hpayload : e.event.payload with
  | enqueued id source =>
    rw [applyOutboxPayload, Record.get_set, hget]
    simp only [DocumentDeliveryOutboxEventPayload.outboxId?, Option.some.injEq]
    split_ifs <;> rfl
  | claimed id claimId =>
    have hid := hnext id (by rw [hpayload]; rfl)
    -- a record that can be claimed is pending or has failed, so it is in flight
    obtain ⟨r, hr, hrid, hflight⟩ : ∃ r, fold id = some r ∧ r.id = id ∧ inFlight r = true := by
      have hat := hphase id
      rw [hpayload] at hid
      cases hp : phase id with
      | pending =>
        rw [hp] at hat
        obtain ⟨r, hr, hrid, hstatus⟩ := hat
        exact ⟨r, hr, hrid, by simp [inFlight, hstatus]⟩
      | failed =>
        rw [hp] at hat
        obtain ⟨r, hr, hrid, hstatus⟩ := hat
        exact ⟨r, hr, hrid, by simp [inFlight, hstatus]⟩
      | absent => simp [hp, OutboxPhase.next] at hid
      | claimed holder => simp [hp, OutboxPhase.next] at hid
      | delivered => simp [hp, OutboxPhase.next] at hid
    have hfound : Record.get records id = some r := by rw [hget, hr, Option.filter_some, if_pos hflight]
    rw [applyOutboxPayload, hfound]
    change Record.get (Record.set records r.id (r.claim claimId e.event.occurredAt)) x = _
    rw [Record.get_set, hrid]
    simp only [DocumentDeliveryOutboxEventPayload.outboxId?, Option.some.injEq]
    split_ifs with hx
    · subst hx
      rw [hr]
      rfl
    · exact hget x
  | delivered id claimId =>
    simp only [applyOutboxPayload, Record.get_without, DocumentDeliveryOutboxEventPayload.outboxId?,
      Option.some.injEq, hget, List.mem_singleton]
    by_cases hx : id = x
    · subst hx
      rw [if_pos rfl, if_pos rfl]
      cases fold id <;> rfl
    · rw [if_neg (Ne.symm hx), if_neg hx]
  | failed id claimId error retryAt =>
    have hid := hnext id (by rw [hpayload]; rfl)
    obtain ⟨r, hr, hrid, hflight⟩ : ∃ r, fold id = some r ∧ r.id = id ∧ inFlight r = true := by
      have hat := hphase id
      rw [hpayload] at hid
      cases hp : phase id with
      | claimed holder =>
        rw [hp] at hat
        obtain ⟨r, hr, hrid, hstatus, -⟩ := hat
        exact ⟨r, hr, hrid, by simp [inFlight, hstatus]⟩
      | absent => simp [hp, OutboxPhase.next] at hid
      | pending => simp [hp, OutboxPhase.next] at hid
      | failed => simp [hp, OutboxPhase.next] at hid
      | delivered => simp [hp, OutboxPhase.next] at hid
    have hfound : Record.get records id = some r := by rw [hget, hr, Option.filter_some, if_pos hflight]
    rw [applyOutboxPayload, hfound]
    change Record.get (Record.set records r.id (r.fail claimId error retryAt e.event.occurredAt)) x = _
    rw [Record.get_set, hrid]
    simp only [DocumentDeliveryOutboxEventPayload.outboxId?, Option.some.injEq]
    split_ifs with hx
    · subst hx
      rw [hr]
      rfl
    · exact hget x
  | checkpointed upToSequence carryOver => exact hget x
  | other kind => exact hget x

/-- Every record of the log has gone through its phases. -/
def Phased (log : OutboxLog) : Prop := ∀ outboxId, (recordPhase outboxId log).isSome

theorem Phased.left {log log' : OutboxLog} (h : Phased (log ++ log')) : Phased log := by
  intro outboxId
  have hwhole := h outboxId
  rw [recordPhase_append] at hwhole
  cases hphase : recordPhase outboxId log with
  | none => simp [hphase] at hwhole
  | some phase => rfl

/-- **The working set holds the records that their own events say are in flight.** -/
theorem get_fold {log : OutboxLog} (tenantId : TenantId) (h : Phased log) (x : JsString) :
    Record.get (foldDocumentDeliveryOutbox tenantId log).records x =
      (foldDocumentDeliveryOutboxRecord tenantId x log).filter inFlight := by
  induction log using List.reverseRecOn generalizing x with
  | nil => rfl
  | append_singleton log e ih =>
    rw [foldDocumentDeliveryOutbox, foldFrom_append, foldDocumentDeliveryOutboxRecord, foldRecordFrom_append]
    change Record.get (applyOutboxPayload tenantId e.event.occurredAt
      (foldDocumentDeliveryOutbox tenantId log).records e.event.payload) x = _
    have hleft := h.left
    apply get_applyOutboxPayload (ih hleft) (fun y => recordAt_recordPhase tenantId (Option.some_get (hleft y)).symm)
    intro y hy
    have hwhole := h y
    have hone : recordPayloads y [e] = [e.event.payload] := by
      simp [recordPayloads, hy]
    rw [recordPhase_append, hone, ← Option.some_get (hleft y), Option.bind_some, phaseFrom] at hwhole
    cases hnext : ((recordPhase y log).get (hleft y)).next e.event.payload with
    | none => simp [hnext] at hwhole
    | some phase => rfl

theorem nodup_applyOutboxPayload {tenantId : TenantId} (h : (Record.keys records).Nodup)
    (payload : DocumentDeliveryOutboxEventPayload) :
    (Record.keys (applyOutboxPayload tenantId occurredAt records payload)).Nodup := by
  cases payload with
  | enqueued id source => exact Record.nodup_keys_set h _ _
  | claimed id claimId =>
    rw [applyOutboxPayload]
    split
    · exact Record.nodup_keys_set h _ _
    · exact h
  | delivered id claimId => exact Record.nodup_keys_without h _
  | failed id claimId error retryAt =>
    rw [applyOutboxPayload]
    split
    · exact Record.nodup_keys_set h _ _
    · exact h
  | checkpointed upToSequence carryOver => exact h
  | other kind => exact h

theorem nodup_keys_fold (tenantId : TenantId) (log : OutboxLog) :
    (Record.keys (foldDocumentDeliveryOutbox tenantId log).records).Nodup := by
  induction log using List.reverseRecOn with
  | nil => exact List.nodup_nil
  | append_singleton log e ih =>
    rw [foldDocumentDeliveryOutbox, foldFrom_append]
    exact nodup_applyOutboxPayload ih _

/-! ## Leaving records out -/

/-- A record is kept under its own id. -/
def Keyed (records : Record JsString DocumentDeliveryOutboxRecord) : Prop :=
  ∀ k r, Record.get records k = some r → r.id = k

theorem Keyed.set (h : Keyed records) {r : DocumentDeliveryOutboxRecord} {k : JsString} (hr : r.id = k) :
    Keyed (Record.set records k r) := by
  intro k' r' hget
  rw [Record.get_set] at hget
  split_ifs at hget with hk
  · rw [← Option.some.inj hget, hr, hk]
  · exact h k' r' hget

theorem Keyed.apply {tenantId : TenantId} (h : Keyed records) (payload : DocumentDeliveryOutboxEventPayload) :
    Keyed (applyOutboxPayload tenantId occurredAt records payload) := by
  cases payload with
  | enqueued id source => exact h.set rfl
  | claimed id claimId =>
    rw [applyOutboxPayload]
    split
    · exact h.set rfl
    · exact h
  | delivered id claimId =>
    intro k r hget
    rw [applyOutboxPayload, Record.get_without] at hget
    split_ifs at hget
    exact h k r hget
  | failed id claimId error retryAt =>
    rw [applyOutboxPayload]
    split
    · exact h.set rfl
    · exact h
  | checkpointed upToSequence carryOver => exact h
  | other kind => exact h

theorem keyed_fold (tenantId : TenantId) (log : OutboxLog) :
    Keyed (foldDocumentDeliveryOutbox tenantId log).records := by
  induction log using List.reverseRecOn with
  | nil => exact fun k r hget => nomatch hget
  | append_singleton log e ih =>
    rw [foldDocumentDeliveryOutbox, foldFrom_append]
    exact ih.apply _

/-- The records with the record of an id changed, if there is one. -/
def changeRecord (records : Record JsString DocumentDeliveryOutboxRecord) (id : JsString)
    (f : DocumentDeliveryOutboxRecord → DocumentDeliveryOutboxRecord) : Record JsString DocumentDeliveryOutboxRecord :=
  match Record.get records id with
  | some current => Record.set records current.id (f current)
  | none => records

theorem changeRecord_filter (keep : JsString → Bool) (hkeyed : Keyed records) (id : JsString)
    (f : DocumentDeliveryOutboxRecord → DocumentDeliveryOutboxRecord) :
    changeRecord (records.filter (fun e => keep e.1)) id f = (changeRecord records id f).filter (fun e => keep e.1) := by
  unfold changeRecord
  rw [Record.get_filter_keys keep]
  cases hget : Record.get records id with
  | none => split_ifs <;> rfl
  | some current =>
    have hid : current.id = id := hkeyed id current hget
    cases hkeep : keep id with
    | true =>
      change Record.set _ _ _ = (Record.set _ _ _).filter _
      rw [Record.filter_set keep, hid, hkeep, if_pos rfl]
    | false =>
      change _ = (Record.set _ _ _).filter _
      rw [Record.filter_set keep, hid, hkeep]
      simp

/-- Events of records that are left out change nothing, unless they enqueue one. -/
theorem applyOutboxPayload_filter {tenantId : TenantId} (keep : JsString → Bool) (hkeyed : Keyed records)
    (payload : DocumentDeliveryOutboxEventPayload) (h : ∀ id source, payload = .enqueued id source → keep id = true) :
    applyOutboxPayload tenantId occurredAt (records.filter (fun e => keep e.1)) payload =
      (applyOutboxPayload tenantId occurredAt records payload).filter (fun e => keep e.1) := by
  cases payload with
  | enqueued id source =>
    rw [applyOutboxPayload, applyOutboxPayload, Record.filter_set keep, h id source rfl, if_pos rfl]
  | claimed id claimId => exact changeRecord_filter keep hkeyed id (fun current => current.claim claimId occurredAt)
  | delivered id claimId => exact (Record.filter_without keep records [id]).symm
  | failed id claimId error retryAt =>
    exact changeRecord_filter keep hkeyed id (fun current => current.fail claimId error retryAt occurredAt)
  | checkpointed upToSequence carryOver => rfl
  | other kind => rfl

theorem foldl_filter (tenantId : TenantId) (keep : JsString → Bool) (log : OutboxLog)
    (state : DocumentDeliveryOutboxState) (hkeyed : Keyed state.records)
    (h : ∀ e ∈ log, ∀ id source, e.event.payload = .enqueued id source → keep id = true) :
    (log.foldl (applyOutboxEvent tenantId)
      { state with records := state.records.filter (fun e => keep e.1) }) =
      { log.foldl (applyOutboxEvent tenantId) state with
        records := (log.foldl (applyOutboxEvent tenantId) state).records.filter (fun e => keep e.1) } := by
  induction log generalizing state with
  | nil => rfl
  | cons e log ih =>
    rw [List.foldl_cons, List.foldl_cons]
    have hone : applyOutboxEvent tenantId { state with records := state.records.filter (fun e => keep e.1) } e =
        { applyOutboxEvent tenantId state e with
          records := (applyOutboxEvent tenantId state e).records.filter (fun e => keep e.1) } := by
      unfold applyOutboxEvent
      rw [applyOutboxPayload_filter keep hkeyed _ (h e List.mem_cons_self)]
    rw [hone]
    exact ih _ (hkeyed.apply _) (fun e' he' => h e' (List.mem_cons_of_mem _ he'))

/-! ## The version of the fold -/

theorem foldl_version (tenantId : TenantId) {version : Nat} {log : OutboxLog} (h : Numbered version log)
    (state : DocumentDeliveryOutboxState) (hstate : state.version = version) :
    (log.foldl (applyOutboxEvent tenantId) state).version = version + log.length := by
  induction log generalizing version state with
  | nil => simpa using hstate
  | cons e log ih =>
    rw [List.foldl_cons, List.length_cons]
    have hnext : (applyOutboxEvent tenantId state e).version = version + 1 := by
      change max state.version e.sequence = version + 1
      rw [hstate, h.1]
      omega
    rw [ih h.2 _ hnext]
    omega

theorem fold_version (tenantId : TenantId) {log : OutboxLog} (h : Numbered 0 log) :
    (foldDocumentDeliveryOutbox tenantId log).version = log.length := by
  have hversion := foldl_version tenantId h { tenantId, version := 0, records := [] } rfl
  rw [Nat.zero_add] at hversion
  exact hversion

theorem fold_tenantId (tenantId : TenantId) (log : OutboxLog) :
    (foldDocumentDeliveryOutbox tenantId log).tenantId = tenantId := by
  -- the state carries the tenant of the fold, whatever the last event is
  rcases List.eq_nil_or_concat' log with rfl | ⟨log, e, rfl⟩
  · rfl
  · rw [foldDocumentDeliveryOutbox, foldFrom_append]
    rfl

/-! ## What every outbox stream is -/

/-- An event of the outbox stream of a tenant: it carries the name of its record, or the name that
only checkpoints have. -/
def Located (tenantId : TenantId) (event : OutboxEvent) : Prop :=
  event.tenantId = tenantId ∧ event.doctype = outboxDoctype ∧
    match event.payload with
    | .enqueued outboxId _ | .claimed outboxId _ | .delivered outboxId _ | .failed outboxId _ _ _ =>
      event.documentName = outboxId ∧ colon ∈ outboxId
    | .checkpointed .. => event.documentName = checkpointDocumentName
    | .other _ => False

structure OutboxLogOK (tenantId : TenantId) (log : OutboxLog) : Prop where
  numbered : Numbered 0 log
  located : ∀ e ∈ log, Located tenantId e.event
  phased : Phased log
  /-- a checkpoint names what was in flight before it -/
  checkpoints : ∀ before e after upToSequence carryOver, log = before ++ e :: after →
    e.event.payload = .checkpointed upToSequence carryOver →
    upToSequence = before.length ∧ carryOver = Record.keys (foldDocumentDeliveryOutbox tenantId before).records

namespace OutboxLogOK

variable {tenantId : TenantId} {log log' : OutboxLog}

theorem nil : OutboxLogOK tenantId [] := by
  refine ⟨trivial, ?_, fun _ => rfl, ?_⟩
  · intro e he
    exact absurd he List.not_mem_nil
  · intro before e after upToSequence carryOver hlog
    exact absurd hlog (by simp)

theorem left (h : OutboxLogOK tenantId (log ++ log')) : OutboxLogOK tenantId log := by
  refine ⟨h.numbered.split.1, fun e he => h.located e (List.mem_append_left _ he), h.phased.left, ?_⟩
  intro before e after upToSequence carryOver hlog hpayload
  apply h.checkpoints before e (after ++ log') upToSequence carryOver _ hpayload
  rw [hlog, List.append_assoc, List.cons_append]

theorem of_initial (h : OutboxLogOK tenantId log') (hlog : log <+: log') : OutboxLogOK tenantId log := by
  obtain ⟨rest, rfl⟩ := hlog
  exact h.left

/-- A record whose events have begun is not enqueued again. -/
theorem no_enqueued (h : OutboxLogOK tenantId (log ++ log'))
    (hx : x ∈ Record.keys (foldDocumentDeliveryOutbox tenantId log).records) {e : Recorded OutboxEvent} (he : e ∈ log')
    (source : DocumentDeliveryOutboxSource) : e.event.payload ≠ .enqueued x source := by
  intro hpayload
  have hphase := h.phased x
  rw [recordPhase_append] at hphase
  cases hp : recordPhase x log with
  | none => simp [hp] at hphase
  | some phase =>
    rw [hp, Option.bind_some] at hphase
    have hne : phase ≠ .absent := by
      rintro rfl
      have hnone : foldDocumentDeliveryOutboxRecord tenantId x log = none := recordAt_recordPhase tenantId hp
      rw [Record.mem_keys, get_fold tenantId h.left.phased, hnone] at hx
      exact hx rfl
    apply phaseFrom_no_enqueued hne hphase x source
    rw [← hpayload]
    exact mem_recordPayloads he (by rw [hpayload]; rfl)

/-- A delivered record stays delivered. -/
theorem delivered_append (h : OutboxLogOK tenantId (log ++ log')) (hx : recordPhase x log = some .delivered) :
    recordPhase x (log ++ log') = some .delivered := by
  have hphase := h.phased x
  rw [recordPhase_append, hx, Option.bind_some] at hphase ⊢
  rw [phaseFrom_delivered hphase]
  rfl

/-- What the events of a record say when it is delivered, and only then. -/
theorem delivered_iff (h : OutboxLogOK tenantId log) :
    recordPhase x log = some .delivered ↔
      ∃ r, foldDocumentDeliveryOutboxRecord tenantId x log = some r ∧ r.status = .delivered := by
  constructor
  · intro hphase
    obtain ⟨r, hr, -, hstatus⟩ := recordAt_recordPhase tenantId hphase
    exact ⟨r, hr, hstatus⟩
  · rintro ⟨r, hr, hstatus⟩
    obtain ⟨phase, hphase⟩ := Option.isSome_iff_exists.mp (h.phased x)
    have hat := recordAt_recordPhase tenantId hphase
    rw [hr] at hat
    cases phase with
    | absent => exact nomatch hat
    | delivered => exact hphase
    | pending =>
      obtain ⟨r', heq, -, hother⟩ := hat
      rw [Option.some.injEq] at heq
      simp [heq, hother] at hstatus
    | failed =>
      obtain ⟨r', heq, -, hother⟩ := hat
      rw [Option.some.injEq] at heq
      simp [heq, hother] at hstatus
    | claimed claimId =>
      obtain ⟨r', heq, -, hother, -⟩ := hat
      rw [Option.some.injEq] at heq
      simp [heq, hother] at hstatus

/-- **Resuming from a checkpoint**: the working set at a version, without records that are
delivered by now, and the events since fold to the working set of the whole stream. -/
theorem resume (h : OutboxLogOK tenantId (log ++ log')) {keep : JsString → Bool}
    (hkeep : ∀ x, keep x = false → x ∈ Record.keys (foldDocumentDeliveryOutbox tenantId log).records ∧
      recordPhase x (log ++ log') = some .delivered) :
    foldDocumentDeliveryOutboxFrom
      (some
        { tenantId
          version := log.length
          records := (foldDocumentDeliveryOutbox tenantId log).records.filter (fun e => keep e.1) })
      tenantId log' = foldDocumentDeliveryOutbox tenantId (log ++ log') := by
  have hlog : foldDocumentDeliveryOutbox tenantId log =
      { tenantId
        version := log.length
        records := (foldDocumentDeliveryOutbox tenantId log).records } :=
    DocumentDeliveryOutboxState.ext (fold_tenantId tenantId log) (fold_version tenantId h.left.numbered) rfl
  have hwhole : foldDocumentDeliveryOutbox tenantId (log ++ log') =
      log'.foldl (applyOutboxEvent tenantId) (foldDocumentDeliveryOutbox tenantId log) := foldFrom_append _ _ _ _
  have henqueued : ∀ e ∈ log', ∀ id source, e.event.payload = .enqueued id source → keep id = true := by
    intro e he id source hpayload
    by_contra hnot
    exact h.no_enqueued (hkeep id (by simpa using hnot)).1 he source hpayload
  have hfilter := foldl_filter tenantId keep log' (foldDocumentDeliveryOutbox tenantId log)
    (keyed_fold tenantId log) henqueued
  rw [← hwhole] at hfilter
  -- nothing that is left out is in flight at the end
  have hkept : (foldDocumentDeliveryOutbox tenantId (log ++ log')).records.filter (fun e => keep e.1) =
      (foldDocumentDeliveryOutbox tenantId (log ++ log')).records := by
    apply List.filter_eq_self.mpr
    rintro ⟨x, r⟩ hmem
    by_contra hnot
    obtain ⟨-, hdelivered⟩ := hkeep x (by simpa using hnot)
    obtain ⟨r', hr', hstatus⟩ := h.delivered_iff.mp hdelivered
    have hget := Record.get_of_mem (nodup_keys_fold tenantId (log ++ log')) hmem
    rw [get_fold tenantId h.phased, hr', Option.filter_some] at hget
    simp [inFlight, hstatus] at hget
  rw [hkept] at hfilter
  have hstart : foldDocumentDeliveryOutboxFrom
      (some
        { tenantId
          version := log.length
          records := (foldDocumentDeliveryOutbox tenantId log).records.filter (fun e => keep e.1) })
      tenantId log' =
      log'.foldl (applyOutboxEvent tenantId)
        { foldDocumentDeliveryOutbox tenantId log with
          records := (foldDocumentDeliveryOutbox tenantId log).records.filter (fun e => keep e.1) } := by
    rw [hlog]
    rfl
  rw [hstart, hfilter]

/-! ### Appending -/

theorem recordPhase_of_no_events (h : ∀ e ∈ log, e.event.payload.outboxId? ≠ some x) :
    recordPhase x log = some .absent := by
  unfold recordPhase
  rw [recordPayloads_eq_nil h]
  rfl

/-- A record that the outbox knows has an id with a colon. -/
theorem colon_mem (h : OutboxLogOK tenantId log) (hphase : recordPhase x log = some phase) (hne : phase ≠ .absent) :
    colon ∈ x := by
  by_contra hnot
  have hnone : ∀ e ∈ log, e.event.payload.outboxId? ≠ some x := by
    intro e he hid
    obtain ⟨-, -, hname⟩ := h.located e he
    cases hpayload : e.event.payload with
    | checkpointed upToSequence carryOver => simp [hpayload, DocumentDeliveryOutboxEventPayload.outboxId?] at hid
    | other kind => simp [hpayload, DocumentDeliveryOutboxEventPayload.outboxId?] at hid
    | _ =>
      rw [hpayload] at hid hname
      simp only [DocumentDeliveryOutboxEventPayload.outboxId?, Option.some.injEq] at hid
      exact hnot (hid ▸ hname.2)
  rw [recordPhase_of_no_events hnone] at hphase
  exact hne (Option.some.inj hphase).symm

/-- What the working set says about the phase of a record. -/
theorem phase_of_get (h : OutboxLogOK tenantId log) {r : DocumentDeliveryOutboxRecord}
    (hget : Record.get (foldDocumentDeliveryOutbox tenantId log).records x = some r) :
    r.id = x ∧
      ((r.status = .pending ∧ recordPhase x log = some .pending) ∨
        (r.status = .failed ∧ recordPhase x log = some .failed) ∨
        ∃ claimId, r.status = .claimed ∧ r.claimId = some claimId ∧
          recordPhase x log = some (.claimed claimId)) := by
  rw [get_fold tenantId h.phased] at hget
  obtain ⟨hfold, hflight⟩ := Option.filter_eq_some_iff.mp hget
  obtain ⟨phase, hphase⟩ := Option.isSome_iff_exists.mp (h.phased x)
  have hat := recordAt_recordPhase tenantId hphase
  rw [hfold] at hat
  cases phase with
  | absent => exact nomatch hat
  | pending =>
    obtain ⟨r', heq, hid, hstatus⟩ := hat
    obtain rfl := Option.some.inj heq
    exact ⟨hid, Or.inl ⟨hstatus, hphase⟩⟩
  | failed =>
    obtain ⟨r', heq, hid, hstatus⟩ := hat
    obtain rfl := Option.some.inj heq
    exact ⟨hid, Or.inr (Or.inl ⟨hstatus, hphase⟩)⟩
  | claimed claimId =>
    obtain ⟨r', heq, hid, hstatus, hclaim⟩ := hat
    obtain rfl := Option.some.inj heq
    exact ⟨hid, Or.inr (Or.inr ⟨claimId, hstatus, hclaim, hphase⟩)⟩
  | delivered =>
    obtain ⟨r', heq, hid, hstatus⟩ := hat
    obtain rfl := Option.some.inj heq
    simp [inFlight, hstatus] at hflight

theorem recordPhase_snoc {n : Nat} {e : OutboxEvent} (hne : e.payload.outboxId? ≠ some x) :
    recordPhase x (log ++ [⟨n, e⟩]) = recordPhase x log := by
  have hnil : recordPayloads x [⟨n, e⟩] = [] := recordPayloads_eq_nil (by simpa using hne)
  rw [recordPhase_append, hnil]
  cases recordPhase x log <;> rfl

/-- **One more event**: it is located, its record can go on with it, and if it is a checkpoint then
it tells the truth. -/
theorem snoc (h : OutboxLogOK tenantId log) {e : OutboxEvent} (hlocated : Located tenantId e)
    (hphase : ∀ x, e.payload.outboxId? = some x →
      ∃ phase, recordPhase x log = some phase ∧ (phase.next e.payload).isSome)
    (hcheckpoint : ∀ upToSequence carryOver, e.payload = .checkpointed upToSequence carryOver →
      upToSequence = log.length ∧ carryOver = Record.keys (foldDocumentDeliveryOutbox tenantId log).records) :
    OutboxLogOK tenantId (log ++ [⟨log.length + 1, e⟩]) := by
  refine ⟨?_, ?_, ?_, ?_⟩
  · apply h.numbered.append
    exact ⟨by rw [Nat.zero_add], trivial⟩
  · intro e' he'
    rcases List.mem_append.mp he' with hold | hnew
    · exact h.located e' hold
    · rw [List.mem_singleton] at hnew
      rw [hnew]
      exact hlocated
  · intro x
    by_cases hx : e.payload.outboxId? = some x
    · obtain ⟨phase, hlog, hnext⟩ := hphase x hx
      have hone : recordPayloads x [⟨log.length + 1, e⟩] = [e.payload] := by
        simp [recordPayloads, hx]
      rw [recordPhase_append, hlog, hone, Option.bind_some, phaseFrom]
      obtain ⟨phase', hphase'⟩ := Option.isSome_iff_exists.mp hnext
      rw [hphase']
      rfl
    · rw [recordPhase_snoc hx]
      exact h.phased x
  · intro before e' after upToSequence carryOver hlog hpayload
    rcases List.append_eq_append_iff.mp hlog with ⟨rest, hbefore, hrest⟩ | ⟨rest, hbefore, hrest⟩
    · -- the checkpoint is the new event
      have hlength : rest = [] ∧ e' = ⟨log.length + 1, e⟩ := by
        cases rest with
        | nil =>
          rw [List.nil_append, List.cons.injEq] at hrest
          exact ⟨rfl, hrest.1.symm⟩
        | cons a rest => simp at hrest
      obtain ⟨rfl, rfl⟩ := hlength
      rw [hbefore, List.append_nil]
      exact hcheckpoint upToSequence carryOver hpayload
    · cases rest with
      | nil =>
        rw [List.nil_append, List.cons.injEq] at hrest
        rw [List.append_nil] at hbefore
        rw [← hbefore]
        rw [hrest.1] at hpayload
        exact hcheckpoint upToSequence carryOver hpayload
      | cons a rest =>
        rw [List.cons_append, List.cons.injEq] at hrest
        rw [hrest.1] at hpayload
        exact h.checkpoints before a rest upToSequence carryOver hbefore hpayload

/-- **A batch of events of different records.** -/
theorem batch (h : OutboxLogOK tenantId log) {events : List OutboxEvent}
    (hlocated : ∀ e ∈ events, Located tenantId e) (hnodup : (events.map (·.payload.outboxId?)).Nodup)
    (hphase : ∀ e ∈ events, ∃ x phase, e.payload.outboxId? = some x ∧ recordPhase x log = some phase ∧
      (phase.next e.payload).isSome) :
    OutboxLogOK tenantId (log ++ recorded log.length events) := by
  induction events generalizing log with
  | nil => simpa [recorded] using h
  | cons e events ih =>
    obtain ⟨x, phase, hx, hlog, hnext⟩ := hphase e List.mem_cons_self
    rw [List.map_cons, List.nodup_cons] at hnodup
    have hsnoc : OutboxLogOK tenantId (log ++ [⟨log.length + 1, e⟩]) := by
      apply h.snoc (hlocated e List.mem_cons_self)
      · intro y hy
        rw [hx, Option.some.injEq] at hy
        subst hy
        exact ⟨phase, hlog, hnext⟩
      · intro upToSequence carryOver hpayload
        rw [hpayload] at hx
        cases hx
    have hrest := ih hsnoc (fun e' he' => hlocated e' (List.mem_cons_of_mem _ he')) hnodup.2 (by
      intro e' he'
      obtain ⟨x', phase', hx', hlog', hnext'⟩ := hphase e' (List.mem_cons_of_mem _ he')
      refine ⟨x', phase', hx', ?_, hnext'⟩
      rw [recordPhase_snoc, hlog']
      intro heq
      apply hnodup.1
      rw [heq, ← hx']
      exact List.mem_map_of_mem he')
    rw [List.length_append, List.length_singleton] at hrest
    rw [recorded]
    rwa [List.append_assoc, List.singleton_append] at hrest

end OutboxLogOK
