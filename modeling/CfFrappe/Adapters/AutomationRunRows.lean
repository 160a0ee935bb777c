import CfFrappe.Adapters.AutomationRunIndex

set_option autoImplicit false

/-! # The rows of automation runs

What the store holds for a run (`D1Database.OK`): a stream of events that its records allow, the projection row
and the index row of the record that the stream folds to. A batch that leaves a run alone, or adds to its stream
and writes its row, keeps this (`D1Database.OK.batch`). The column that the index has for the time of a claim
says when the run can be claimed (`isClaimCandidate_row`), since a failed run has its time of retry and a
claimed one the end of its claim.
-/

open Utf

/-! ## Times -/

/-- The times in the payload of an event of a run. -/
def EventPayload.runTimes : EventPayload → List Timestamp
  | .automationRun (.claimed _ _ claimExpiresAt) => [claimExpiresAt]
  | .automationRun (.failed _ _ _ retryAt) => [retryAt]
  | _ => []

structure TimedRunEvent (event : NewDomainEvent) : Prop where
  occurredAt : isIsoTimestamp event.occurredAt = true
  payload : ∀ time ∈ event.payload.runTimes, isIsoTimestamp time = true

/-- The times that decide when a run can be claimed. -/
structure AutomationRunRecord.Timed (record : AutomationRunRecord) : Prop where
  enqueuedAt : isIsoTimestamp record.enqueuedAt = true
  claimed : record.status = .claimed → ∃ time, record.claimExpiresAt = some time ∧ isIsoTimestamp time = true
  failed : record.status = .failed → ∃ time, record.retryAt = some time ∧ isIsoTimestamp time = true

variable {record old : AutomationRunRecord} {event : DomainEvent}

/-- A status that needs no time. -/
theorem AutomationRunRecord.Timed.of_status (henqueued : isIsoTimestamp record.enqueuedAt = true)
    (hclaimed : record.status ≠ .claimed) (hfailed : record.status ≠ .failed) : record.Timed :=
  ⟨henqueued, fun h => absurd h hclaimed, fun h => absurd h hfailed⟩

theorem timed_applyAutomationRunEvent {payload : AutomationRunEventPayload} (h : record.Timed)
    (hevent : TimedRunEvent event.toNewDomainEvent) (hpayload : event.payload = .automationRun payload) :
    (applyAutomationRunEvent record event payload).Timed := by
  have htimes := hevent.payload
  rw [hpayload] at htimes
  cases payload with
  | enqueued source => exact h
  | claimed runId claimId claimExpiresAt =>
    refine ⟨h.enqueuedAt, fun _ => ⟨claimExpiresAt, rfl, htimes _ List.mem_cons_self⟩, fun hfailed => ?_⟩
    cases hfailed
  | delivered runId claimId =>
    exact .of_status h.enqueuedAt (fun hstatus => by cases hstatus) (fun hstatus => by cases hstatus)
  | failed runId claimId error retryAt =>
    refine ⟨h.enqueuedAt, fun hclaimed => ?_, fun _ => ⟨retryAt, rfl, htimes _ List.mem_cons_self⟩⟩
    cases hclaimed
  | deadLettered runId claimId error =>
    exact .of_status h.enqueuedAt (fun hstatus => by cases hstatus) (fun hstatus => by cases hstatus)
  | suppressed runId error =>
    exact .of_status h.enqueuedAt (fun hstatus => by cases hstatus) (fun hstatus => by cases hstatus)

/-- One event keeps the times of a record. -/
theorem timed_foldAutomationRunEvent {tenantId : TenantId} {record : Option AutomationRunRecord}
    (h : ∀ found, record = some found → found.Timed) (hevent : TimedRunEvent event.toNewDomainEvent)
    {next : AutomationRunRecord} (hnext : foldAutomationRunEvent tenantId record event = some next) : next.Timed := by
  unfold foldAutomationRunEvent at hnext
  split at hnext
  · rw [Option.some.injEq] at hnext
    rw [← hnext]
    exact .of_status hevent.occurredAt (fun hstatus => by cases hstatus) (fun hstatus => by cases hstatus)
  · rename_i payload _ hpayload
    obtain ⟨found, hfound, happlied⟩ := Option.map_eq_some_iff.mp hnext
    rw [← happlied]
    exact timed_applyAutomationRunEvent (h found hfound) hevent hpayload
  · exact h next hnext

/-! ## The stream of a run -/

namespace AutomationRunStream

variable {tenantId : TenantId} {runId : JsString} {stream : StreamName} {events : List DomainEvent}

/-- **The times of a record** are those of its events. -/
theorem timed_fold (h : AutomationRunStream tenantId runId stream events)
    (htimed : ∀ event ∈ events, TimedRunEvent event.toNewDomainEvent)
    (hrecord : foldAutomationRun tenantId events = some record) : record.Timed := by
  -- by induction on the stream from its end
  induction events using List.reverseRecOn generalizing record with
  | nil => cases hrecord
  | append_singleton events event ih =>
    rw [foldAutomationRun_concat h.sequenced] at hrecord
    have hbefore : ∀ other ∈ events, TimedRunEvent other.toNewDomainEvent :=
      fun other hother => htimed other (List.mem_append_left _ hother)
    have hevent := htimed event (List.mem_append_right _ List.mem_cons_self)
    exact timed_foldAutomationRunEvent (fun found hfound => ih h.left hbefore hfound) hevent hrecord

/-- The events of a run are the ones that are read for it. -/
theorem runPayload (h : AutomationRunStream tenantId runId stream events) (hevent : event ∈ events) :
    ∃ payload, event.payload = .automationRun payload := by
  obtain ⟨before, after, hsplit⟩ := List.append_of_mem hevent
  have henabled := h.enabled before event after hsplit
  unfold AutomationRunEnabled at henabled
  split at henabled
  all_goals first
    | exact absurd henabled id
    | exact ⟨_, by assumption⟩

/-- The time of the enqueueing stays. -/
theorem enqueuedAt_concat (h : AutomationRunStream tenantId runId stream (events ++ [event]))
    {next : AutomationRunRecord} (hold : foldAutomationRun tenantId events = some old)
    (hnext : foldAutomationRun tenantId (events ++ [event]) = some next) : next.enqueuedAt = old.enqueuedAt := by
  have henabled := h.enabled events event [] rfl
  rw [foldAutomationRun_concat h.sequenced, hold] at hnext
  rw [hold] at henabled
  unfold AutomationRunEnabled at henabled
  unfold foldAutomationRunEvent at hnext
  split at henabled
  all_goals first
    | exact absurd henabled id
    | (rename_i hfound
       cases hfound
       done)
    | (rename_i hpayload hfound
       cases hfound
       rw [hpayload] at hnext
       cases hnext
       rfl)

end AutomationRunStream

/-! ## The row of a record -/

/-- The row that the index has for a record. -/
def automationRunIndexRow (record : AutomationRunRecord) : AutomationRunIndexRow where
  tenant_id := record.tenantId
  run_id := record.runId
  status := record.status.toText
  available_at :=
    automationRunAvailableAt record.status.toText record.enqueuedAt record.retryAt record.claimExpiresAt
  enqueued_at := record.enqueuedAt
  updated_at := (automationRunSnapshot record).updatedAt

theorem automationRunIndexUpsertStatement_snapshot (record : AutomationRunRecord) :
    automationRunIndexUpsertStatement (automationRunSnapshot record) = some (automationRunIndexRow record) := by
  have hdoctype : ¬ (automationRunSnapshot record).doctype ≠ automationRunsDoctype := not_not.mpr rfl
  unfold automationRunIndexUpsertStatement
  rw [if_neg hdoctype]
  dsimp only
  rw [get_automationRunData record 18 rfl, get_automationRunData record 20 rfl, get_automationRunData record 23 rfl,
    get_automationRunData record 27 rfl, optionalStringFromData_str, optionalStringFromData_str]
  rfl

theorem automationRunAvailableAt_toText (record : AutomationRunRecord) :
    automationRunAvailableAt record.status.toText record.enqueuedAt record.retryAt record.claimExpiresAt =
      match record.status with
      | .pending => some record.enqueuedAt
      | .failed => some (record.retryAt.getD record.enqueuedAt)
      | .claimed => some (record.claimExpiresAt.getD record.enqueuedAt)
      | _ => none := by
  cases record.status <;> rfl

theorem textLe_eq_binary {left right : Timestamp} (hleft : isIsoTimestamp left = true)
    (hright : isIsoTimestamp right = true) : textLe left right = (binaryCompare left right != .gt) := by
  rw [textLe, compareCodeUnits_of_surrogateFree (surrogateFree_of_isIsoTimestamp hleft)
    (surrogateFree_of_isIsoTimestamp hright)]

/-- **The index says when a run can be claimed**: its column is at most `now` exactly when the record says so. -/
theorem isClaimCandidate_row (h : record.Timed) {now : Timestamp} (hnow : isIsoTimestamp now = true)
    (henqueued : textLe record.enqueuedAt now = true) :
    D1Database.isClaimCandidate record.tenantId now (automationRunIndexRow record) =
      isClaimableAutomationRun record now := by
  unfold D1Database.isClaimCandidate isClaimableAutomationRun automationRunClaimExpired automationRunRetryDue
  rw [show (automationRunIndexRow record).available_at = _ from automationRunAvailableAt_toText record,
    show (automationRunIndexRow record).status = record.status.toText from rfl,
    show ((automationRunIndexRow record).tenant_id == record.tenantId) = true from beq_self_eq_true _]
  cases hstatus : record.status with
  | pending =>
    have hdue := henqueued
    rw [textLe_eq_binary h.enqueuedAt hnow] at hdue
    show (true && [js "pending", js "failed", js "claimed"].contains (js "pending") &&
      (binaryCompare record.enqueuedAt now != .gt)) = _
    rw [hdue]
    rfl
  | failed =>
    obtain ⟨retryAt, hretryAt, hiso⟩ := h.failed hstatus
    rw [hretryAt]
    show (true && [js "pending", js "failed", js "claimed"].contains (js "failed") &&
      (binaryCompare retryAt now != .gt)) = _
    rw [← textLe_eq_binary hiso hnow]
    cases htext : textLe retryAt now <;> simp [htext]
  | claimed =>
    obtain ⟨claimExpiresAt, hexpires, hiso⟩ := h.claimed hstatus
    rw [hexpires]
    show (true && [js "pending", js "failed", js "claimed"].contains (js "claimed") &&
      (binaryCompare claimExpiresAt now != .gt)) = _
    rw [← textLe_eq_binary hiso hnow]
    cases htext : textLe claimExpiresAt now <;> simp [htext]
  | delivered => simp
  | dead => simp

/-! ## What the store holds -/

namespace D1Database

/-- The record of a run, as its stream has it. -/
def run (db : D1Database) (tenantId : TenantId) (runId : JsString) : Option AutomationRunRecord :=
  (automationRunStream tenantId runId).bind (fun stream => foldAutomationRun tenantId (db.stream stream))

/-- **The invariant**: every stream of a run is one, and the rows of a run are those of its record. -/
structure OK (db : D1Database) : Prop where
  logs : ∀ {tenantId runId stream}, automationRunStream tenantId runId = some stream →
    AutomationRunStream tenantId runId stream (db.stream stream)
  documents : ∀ tenantId runId,
    db.documents.row (tenantId, automationRunsDoctype, runId) = (db.run tenantId runId).map automationRunSnapshot
  index : ∀ tenantId runId, db.automationRuns.row (tenantId, runId) = (db.run tenantId runId).map automationRunIndexRow

theorem ok_empty : empty.OK := by
  refine ⟨fun _ => .nil, ?_, ?_⟩
  · intro tenantId runId
    unfold run
    cases automationRunStream tenantId runId <;> rfl
  · intro tenantId runId
    unfold run
    cases automationRunStream tenantId runId <;> rfl

variable {db db' : D1Database} {saved : List DomainEvent} {snapshots : List DocumentSnapshot}
  {tenantId : TenantId} {runId : JsString} {stream : StreamName}

theorem run_eq (hstream : automationRunStream tenantId runId = some stream) :
    db.run tenantId runId = foldAutomationRun tenantId (db.stream stream) := by
  rw [run, hstream, Option.bind_some]

/-- A record is one of its run. -/
theorem OK.of_run (h : db.OK) (hrecord : db.run tenantId runId = some record) :
    record.tenantId = tenantId ∧ record.runId = runId := by
  obtain ⟨stream, hstream, hfold⟩ := Option.bind_eq_some_iff.mp hrecord
  have hof := (h.logs hstream).of_fold hfold
  exact ⟨hof.tenantId, hof.runId⟩

/-- The times of the events of runs are ISO timestamps. -/
def Timed (db : D1Database) : Prop :=
  ∀ event ∈ db.events, ∀ payload, event.payload = .automationRun payload → TimedRunEvent event.toNewDomainEvent

theorem OK.timed (h : db.OK) (htimed : db.Timed) (hrecord : db.run tenantId runId = some record) : record.Timed := by
  obtain ⟨stream, hstream, hfold⟩ := Option.bind_eq_some_iff.mp hrecord
  apply (h.logs hstream).timed_fold _ hfold
  intro event hevent
  obtain ⟨payload, hpayload⟩ := (h.logs hstream).runPayload hevent
  exact htimed event (List.mem_filter.mp hevent).1 payload hpayload

/-- What a batch that goes through has done. -/
structure Batched (db : D1Database) (saved : List DomainEvent) (snapshots : List DocumentSnapshot)
    (db' : D1Database) : Prop where
  constraints : Constraints (db.events ++ saved)
  events : db'.events = db.events ++ saved
  documents : db'.documents = db.documents.upsertAll documentUpsert snapshots
  automationRuns : db'.automationRuns =
    db.automationRuns.upsertAll automationRunIndexUpsert (snapshots.filterMap automationRunIndexUpsertStatement)

theorem batched (h : db.batch saved snapshots = some db') : Batched db saved snapshots db' := by
  unfold batch at h
  split_ifs at h with hconstraints
  cases h
  exact ⟨hconstraints, rfl, rfl, rfl⟩

theorem Batched.stream_eq (h : Batched db saved snapshots db') (name : StreamName) :
    db'.stream name = db.stream name ++ saved.filter (fun event => event.stream == name) := by
  unfold D1Database.stream
  rw [h.events, List.filter_append]

/-- An index row is written for the projection row of its run. -/
theorem key_of_indexStatement {snapshot : DocumentSnapshot} {r : AutomationRunIndexRow}
    (h : automationRunIndexUpsertStatement snapshot = some r) (hkey : r.key = (tenantId, runId)) :
    documentKey snapshot = (tenantId, automationRunsDoctype, runId) := by
  unfold automationRunIndexUpsertStatement at h
  split_ifs at h with hdoctype
  cases h
  obtain ⟨rfl, rfl⟩ := Prod.mk.inj hkey
  rw [documentKey, not_not.mp hdoctype]

/-- What a batch may do to a run: leave it alone, or add to its stream and write its row. -/
inductive KeepsRun (db : D1Database) (saved : List DomainEvent) (snapshots : List DocumentSnapshot)
    (tenantId : TenantId) (runId : JsString) : Prop
  | alone (hsaved : ∀ stream, automationRunStream tenantId runId = some stream → ∀ event ∈ saved, event.stream ≠ stream)
      (hsnapshots : ∀ snapshot ∈ snapshots, documentKey snapshot ≠ (tenantId, automationRunsDoctype, runId))
  | written {stream : StreamName} {events : List DomainEvent} {record : AutomationRunRecord}
      (hstream : automationRunStream tenantId runId = some stream)
      (hevents : db.stream stream ++ saved.filter (fun event => event.stream == stream) = events)
      (hlog : AutomationRunStream tenantId runId stream events) (hrecord : foldAutomationRun tenantId events = some record)
      (hmem : automationRunSnapshot record ∈ snapshots)
      (hsame : ∀ snapshot ∈ snapshots, documentKey snapshot = (tenantId, automationRunsDoctype, runId) →
        snapshot = automationRunSnapshot record)
      (hold : ∀ old, db.run tenantId runId = some old → record.enqueuedAt = old.enqueuedAt)

theorem documentUpsert_snapshot (htenant : old.tenantId = record.tenantId) (hrun : old.runId = record.runId)
    (henqueued : record.enqueuedAt = old.enqueuedAt) :
    documentUpsert.change (automationRunSnapshot old) (automationRunSnapshot record) = automationRunSnapshot record := by
  unfold documentUpsert automationRunSnapshot
  simp only [htenant, hrun, henqueued]

theorem indexUpsert_row (htenant : old.tenantId = record.tenantId) (hrun : old.runId = record.runId) :
    automationRunIndexUpsert.change (automationRunIndexRow old) (automationRunIndexRow record) =
      automationRunIndexRow record := by
  unfold automationRunIndexUpsert automationRunIndexRow
  simp only [htenant, hrun]

/-- A run that a batch leaves alone. -/
theorem Batched.alone (h : Batched db saved snapshots db') (hok : db.OK)
    (hsaved : ∀ stream, automationRunStream tenantId runId = some stream → ∀ event ∈ saved, event.stream ≠ stream)
    (hsnapshots : ∀ snapshot ∈ snapshots, documentKey snapshot ≠ (tenantId, automationRunsDoctype, runId)) :
    (∀ stream, automationRunStream tenantId runId = some stream → db'.stream stream = db.stream stream) ∧
      db'.documents.row (tenantId, automationRunsDoctype, runId) = (db'.run tenantId runId).map automationRunSnapshot ∧
      db'.automationRuns.row (tenantId, runId) = (db'.run tenantId runId).map automationRunIndexRow := by
  have hsame : ∀ stream, automationRunStream tenantId runId = some stream → db'.stream stream = db.stream stream := by
    intro stream hstream
    have hnone : saved.filter (fun event => event.stream == stream) = [] := by
      rw [List.filter_eq_nil_iff]
      intro event hevent
      simpa using hsaved stream hstream event hevent
    rw [h.stream_eq, hnone, List.append_nil]
  have hrun : db'.run tenantId runId = db.run tenantId runId := by
    unfold run
    cases hstream : automationRunStream tenantId runId with
    | none => rfl
    | some stream => rw [Option.bind_some, Option.bind_some, hsame stream hstream]
  refine ⟨hsame, ?_, ?_⟩
  · rw [h.documents, KeyedTable.row_upsertAll_of_ne documentUpsert hsnapshots, hrun]
    exact hok.documents tenantId runId
  · have hrows : ∀ r ∈ snapshots.filterMap automationRunIndexUpsertStatement, r.key ≠ (tenantId, runId) := by
      intro r hr hkey
      obtain ⟨snapshot, hsnapshot, hstatement⟩ := List.mem_filterMap.mp hr
      exact hsnapshots snapshot hsnapshot (key_of_indexStatement hstatement hkey)
    rw [h.automationRuns, KeyedTable.row_upsertAll_of_ne automationRunIndexUpsert hrows, hrun]
    exact hok.index tenantId runId

/-- A run that a batch writes. -/
theorem Batched.written (h : Batched db saved snapshots db') (hok : db.OK) {events : List DomainEvent}
    (hstream : automationRunStream tenantId runId = some stream) (hevents : db'.stream stream = events)
    (hlog : AutomationRunStream tenantId runId stream events)
    (hrecord : foldAutomationRun tenantId events = some record) (hmem : automationRunSnapshot record ∈ snapshots)
    (hsame : ∀ snapshot ∈ snapshots, documentKey snapshot = (tenantId, automationRunsDoctype, runId) →
      snapshot = automationRunSnapshot record)
    (hold : ∀ old, db.run tenantId runId = some old → record.enqueuedAt = old.enqueuedAt) :
    db'.documents.row (tenantId, automationRunsDoctype, runId) = (db'.run tenantId runId).map automationRunSnapshot ∧
      db'.automationRuns.row (tenantId, runId) = (db'.run tenantId runId).map automationRunIndexRow := by
  have hof := hlog.of_fold hrecord
  have hrun : db'.run tenantId runId = some record := by
    rw [run_eq hstream, hevents, hrecord]
  -- the row is found under the ids of its run
  have hkey : documentKey (automationRunSnapshot record) = (tenantId, automationRunsDoctype, runId) := by
    rw [← hof.tenantId, ← hof.runId]
    rfl
  have hrowKey : (automationRunIndexRow record).key = (tenantId, runId) := by
    rw [← hof.tenantId, ← hof.runId]
    rfl
  rw [hrun]
  constructor
  · rw [h.documents, ← hkey]
    apply KeyedTable.row_upsertAll documentUpsert hmem
    · intro other hother hotherKey
      exact hsame other hother (hotherKey.trans hkey)
    · rfl
    · intro old hrow
      rw [hkey, hok.documents, Option.map_eq_some_iff] at hrow
      obtain ⟨found, hfound, rfl⟩ := hrow
      obtain ⟨htenant, hrunId⟩ := hok.of_run hfound
      exact documentUpsert_snapshot (htenant.trans hof.tenantId.symm) (hrunId.trans hof.runId.symm) (hold found hfound)
  · rw [h.automationRuns, ← hrowKey]
    apply KeyedTable.row_upsertAll automationRunIndexUpsert
    · exact List.mem_filterMap.mpr ⟨_, hmem, automationRunIndexUpsertStatement_snapshot record⟩
    · intro other hother hotherKey
      obtain ⟨snapshot, hsnapshot, hstatement⟩ := List.mem_filterMap.mp hother
      have hsnap := hsame snapshot hsnapshot (key_of_indexStatement hstatement (hotherKey.trans hrowKey))
      rw [hsnap, automationRunIndexUpsertStatement_snapshot, Option.some.injEq] at hstatement
      exact hstatement.symm
    · rfl
    · intro old hrow
      rw [hrowKey, hok.index, Option.map_eq_some_iff] at hrow
      obtain ⟨found, hfound, rfl⟩ := hrow
      obtain ⟨htenant, hrunId⟩ := hok.of_run hfound
      exact indexUpsert_row (htenant.trans hof.tenantId.symm) (hrunId.trans hof.runId.symm)

/-- **A batch keeps the invariant** if it keeps every run. -/
theorem OK.batch (hok : db.OK) (h : Batched db saved snapshots db')
    (hruns : ∀ tenantId runId, KeepsRun db saved snapshots tenantId runId) : db'.OK := by
  refine ⟨?_, ?_, ?_⟩
  · intro tenantId runId stream hstream
    cases hruns tenantId runId with
    | alone hsaved hsnapshots =>
      rw [(h.alone hok hsaved hsnapshots).1 stream hstream]
      exact hok.logs hstream
    | written hstream' hevents hlog hrecord hmem hsame hold =>
      obtain rfl := Option.some.inj (hstream.symm.trans hstream')
      rw [h.stream_eq, hevents]
      exact hlog
  · intro tenantId runId
    cases hruns tenantId runId with
    | alone hsaved hsnapshots => exact (h.alone hok hsaved hsnapshots).2.1
    | written hstream hevents hlog hrecord hmem hsame hold =>
      exact (h.written hok hstream ((h.stream_eq _).trans hevents) hlog hrecord hmem hsame hold).1
  · intro tenantId runId
    cases hruns tenantId runId with
    | alone hsaved hsnapshots => exact (h.alone hok hsaved hsnapshots).2.2
    | written hstream hevents hlog hrecord hmem hsame hold =>
      exact (h.written hok hstream ((h.stream_eq _).trans hevents) hlog hrecord hmem hsame hold).2

end D1Database
