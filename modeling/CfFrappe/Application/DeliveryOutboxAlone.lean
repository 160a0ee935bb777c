import CfFrappe.Application.DeliveryOutboxRuns
import CfFrappe.Lib.Alone

set_option autoImplicit false

/-! # The operations of the delivery outbox when no one else writes

What `claimPending`, `markDelivered` and `markFailed` do on a store that never fails and that no one else writes to:
each plans on the working set of the stream and saves its plan with the first append. Of the records only those
that the operation is about go on (`Advances`).
-/

open Utf DocumentDeliveryOutboxService
open Program (eval_bind_ok eval_ofExcept)

/-- The streams, and whatever the clock and the id generator answer from. -/
abbrev SoloStore (W : Type) := LogState StreamName OutboxEvent W

/-- A store that never fails. -/
abbrev outboxAlone {W : Type} (answer : W → (x : OutboxCall) → x.Reply × W) :
    SoloStore W → (action : LogAction StreamName OutboxEvent OutboxCall) →
      action.Reply FrameworkError OutboxCall.Reply × SoloStore W :=
  LogState.reply (.conflict []) answer

section Reading

variable {W : Type} {answer : W → (x : OutboxCall) → x.Reply × W} {s : SoloStore W}
variable {tenantId : TenantId} {stream : StreamName}

theorem eval_outboxStream (hstream : documentDeliveryOutboxStream tenantId = some stream) :
    (outboxStream tenantId).eval (outboxAlone answer) s = (.ok stream, s) := by
  unfold outboxStream
  rw [eval_ofExcept, hstream]
  rfl

theorem eval_readHistories (outboxIds : List JsString) :
    (readHistories tenantId stream outboxIds).eval (outboxAlone answer) s =
      (.ok (outboxIds.map (fun x => (x, (s.logs stream).filter (isAbout tenantId x)))), s) := by
  induction outboxIds with
  | nil => rfl
  | cons x outboxIds ih =>
    show Program.eval (outboxAlone answer) (readHistories tenantId stream outboxIds >>= fun histories => _) s = _
    rw [eval_bind_ok ih]
    rfl

theorem eval_wholeState (h : OutboxLogOK tenantId (s.logs stream)) :
    (wholeState tenantId stream).eval (outboxAlone answer) s =
      (.ok (foldDocumentDeliveryOutbox tenantId (s.logs stream)), s) := by
  have hall : (s.logs stream).filter (fun event =>
      decide (0 ≤ event.sequence) && event.event.payload.isOutbox) = s.logs stream := by
    rw [filter_isOutbox h.located]
    apply List.filter_eq_self.mpr
    intro e _
    simp
  show (Except.ok (foldDocumentDeliveryOutbox tenantId ((s.logs stream).filter (fun event =>
      decide (0 ≤ event.sequence) && event.event.payload.isOutbox))), s) = _
  rw [hall]

/-- Resuming from what a checkpoint carried over gives the working set of the whole stream. -/
theorem eval_resumedState (h : OutboxLogOK tenantId (s.logs stream)) {log : OutboxLog} (hlog : log <+: s.logs stream)
    {keep : JsString → Bool}
    (hkeep : ∀ x, keep x = false → x ∈ Record.keys (foldDocumentDeliveryOutbox tenantId log).records ∧
      recordPhase x (s.logs stream) = some .delivered) :
    (resumedState tenantId stream log.length
      ((foldDocumentDeliveryOutbox tenantId log).records.filter (fun e => keep e.1))).eval (outboxAlone answer) s =
      (.ok (foldDocumentDeliveryOutbox tenantId (s.logs stream)), s) := by
  obtain ⟨tail, htail⟩ := hlog
  have hread : (s.logs stream).filter (fun event =>
      decide (log.length + 1 ≤ event.sequence) && event.event.payload.isOutbox) = tail := by
    rw [filter_isOutbox h.located, ← htail]
    rw [← htail] at h
    exact h.numbered.filter_gt
  show (Except.ok (foldDocumentDeliveryOutboxFrom _ tenantId ((s.logs stream).filter (fun event =>
      decide (log.length + 1 ≤ event.sequence) && event.event.payload.isOutbox))), s) = _
  rw [hread, ← htail]
  rw [← htail] at h hkeep
  rw [h.resume hkeep]

/-- **The state is the working set of the stream.** -/
theorem eval_state (h : OutboxLogOK tenantId (s.logs stream))
    (hstream : documentDeliveryOutboxStream tenantId = some stream) :
    (state tenantId).eval (outboxAlone answer) s =
      (.ok (foldDocumentDeliveryOutbox tenantId (s.logs stream)), s) := by
  unfold state
  rw [eval_bind_ok (eval_outboxStream hstream)]
  have hlast : (lastCheckpoint tenantId stream).eval (outboxAlone answer) s =
      (.ok (((s.logs stream).filter (isAbout tenantId checkpointDocumentName)).getLast?.bind
        documentDeliveryOutboxCheckpoint), s) := rfl
  unfold stateOf
  rw [eval_bind_ok hlast]
  -- without a checkpoint the whole stream is read
  cases hread : ((s.logs stream).filter (isAbout tenantId checkpointDocumentName)).getLast?.bind
      documentDeliveryOutboxCheckpoint with
  | none => exact eval_wholeState h
  | some checkpoint =>
    obtain ⟨before, hbefore, rfl⟩ := checkpoint_read h hread
    have hok : OutboxLogOK tenantId before := h.of_initial hbefore
    have hcarriedOver : (carriedOverRecords tenantId stream
        (before.length, Record.keys (foldDocumentDeliveryOutbox tenantId before).records)).eval (outboxAlone answer) s =
        (.ok (carryOver tenantId before.length
          ((Record.keys (foldDocumentDeliveryOutbox tenantId before).records).map
            (fun x => (x, (s.logs stream).filter (isAbout tenantId x)))) []), s) := by
      unfold carriedOverRecords
      rw [eval_bind_ok (eval_readHistories _)]
      rfl
    dsimp only
    rw [eval_bind_ok hcarriedOver]
    -- a record that can not be carried over makes it read the whole stream, too
    cases hcarried : carryOver tenantId before.length
        ((Record.keys (foldDocumentDeliveryOutbox tenantId before).records).map
          (fun x => (x, (s.logs stream).filter (isAbout tenantId x)))) [] with
    | none => exact eval_wholeState h
    | some carried =>
      have hnodup := nodup_keys_fold tenantId before
      have hnamed : ∀ x r, (x, r) ∈ (foldDocumentDeliveryOutbox tenantId before).records →
          foldDocumentDeliveryOutboxRecord tenantId x before = some r ∧ r.id = x := by
        intro x r hmem
        have hget := Record.get_of_mem hnodup hmem
        refine ⟨?_, keyed_fold tenantId before x r hget⟩
        rw [get_fold tenantId hok.phased] at hget
        exact (Option.filter_eq_some_iff.mp hget).1
      have hhistories : List.Forall₂ (ReadBetween tenantId before (s.logs stream))
          (Record.keys (foldDocumentDeliveryOutbox tenantId before).records)
          ((Record.keys (foldDocumentDeliveryOutbox tenantId before).records).map
            (fun x => (x, (s.logs stream).filter (isAbout tenantId x)))) := by
        rw [List.forall₂_map_right_iff, List.forall₂_same]
        intro x _
        exact ⟨rfl, s.logs stream, hbefore, List.prefix_rfl, rfl⟩
      obtain ⟨keep, rfl, hkeep⟩ := carryOver_eq h (by simpa [Record.keys] using hnodup) hnamed hhistories hcarried
      exact eval_resumedState h hbefore hkeep

theorem eval_record (h : OutboxLogOK tenantId (s.logs stream))
    (hstream : documentDeliveryOutboxStream tenantId = some stream) (x : JsString) :
    (record tenantId x).eval (outboxAlone answer) s =
      (.ok (foldDocumentDeliveryOutboxRecord tenantId x (s.logs stream)), s) := by
  have hfold : foldDocumentDeliveryOutboxRecord tenantId x ((s.logs stream).filter (isAbout tenantId x)) =
      foldDocumentDeliveryOutboxRecord tenantId x (s.logs stream) := foldRecordFrom_filter none h.located
  unfold record
  rw [eval_bind_ok (eval_outboxStream hstream)]
  show (Except.ok (foldDocumentDeliveryOutboxRecord tenantId x ((s.logs stream).filter (isAbout tenantId x))), s) = _
  rw [hfold]

end Reading

/-! ## Appending -/

theorem push_nil {W : Type} (s : SoloStore W) (stream : StreamName) : s.push stream [] = s := by
  unfold LogState.push
  congr 1
  funext key
  simp [recorded]

section Appending

variable {W : Type} {answer : W → (x : OutboxCall) → x.Reply × W} {s : SoloStore W}
variable {tenantId : TenantId} {stream : StreamName}

/-- Folding on from a working set. -/
theorem foldFrom_fold (tenantId : TenantId) (log log' : OutboxLog) :
    foldDocumentDeliveryOutboxFrom (some (foldDocumentDeliveryOutbox tenantId log)) tenantId log' =
      foldDocumentDeliveryOutbox tenantId (log ++ log') := by
  have hstate : foldDocumentDeliveryOutboxFrom (some (foldDocumentDeliveryOutbox tenantId log)) tenantId log' =
      log'.foldl (applyOutboxEvent tenantId) { foldDocumentDeliveryOutbox tenantId log with tenantId } := rfl
  have hsame : { foldDocumentDeliveryOutbox tenantId log with tenantId } = foldDocumentDeliveryOutbox tenantId log :=
    DocumentDeliveryOutboxState.ext (fold_tenantId tenantId log).symm rfl rfl
  rw [hstate, hsame]
  exact (foldFrom_append none tenantId log log').symm

/-- **The plan for the working set is saved with the first append.** -/
theorem eval_appendWithRetry (h : OutboxLogOK tenantId (s.logs stream))
    (hstream : documentDeliveryOutboxStream tenantId = some stream)
    {plan : DocumentDeliveryOutboxState → Nat → OutboxProgram OutboxPlan} {planned : OutboxPlan} {w : W}
    (hplan : (plan (foldDocumentDeliveryOutbox tenantId (s.logs stream)) 1).eval (outboxAlone answer) s =
      (.ok planned, { s with world := w })) :
    (appendWithRetry tenantId plan).eval (outboxAlone answer) s =
      (.ok (selectedDocumentDeliveryOutboxRecords
        (foldDocumentDeliveryOutbox tenantId (s.logs stream ++ recorded (s.logs stream).length planned.events))
        planned.recordIds), ({ s with world := w } : SoloStore W).push stream planned.events) := by
  unfold appendWithRetry
  rw [eval_bind_ok (eval_outboxStream hstream)]
  show Program.eval (outboxAlone answer) (appendAttempt tenantId stream plan 5) s = _
  unfold appendAttempt
  rw [eval_bind_ok (eval_state h hstream)]
  have hattempt : maxOutboxAppendAttempts - 4 = 1 := rfl
  rw [hattempt, eval_bind_ok hplan]
  by_cases hempty : planned.events.isEmpty = true
  · rw [if_pos hempty]
    rw [List.isEmpty_iff] at hempty
    rw [hempty, recorded, List.append_nil, push_nil]
    rfl
  · rw [if_neg hempty]
    have happend : (LogProgram.append stream (s.logs stream).length planned.events :
          OutboxProgram (Except FrameworkError OutboxLog)).eval (outboxAlone answer) { s with world := w } =
        (.ok (.ok (recorded (s.logs stream).length planned.events)),
          ({ s with world := w } : SoloStore W).push stream planned.events) :=
      LogState.eval_append planned.events rfl
    rw [fold_version tenantId h.numbered, eval_bind_ok happend]
    dsimp only
    rw [foldFrom_fold]
    rfl

end Appending

/-! ## What becomes of the records -/

/-- The record that a claim is about. -/
def DocumentDeliveryOutboxEventPayload.claimedId? : DocumentDeliveryOutboxEventPayload → Option JsString
  | .claimed outboxId _ => some outboxId
  | _ => none

/-- The records that events claim. -/
def claimedIds (events : OutboxLog) : List JsString := events.filterMap (fun e => e.event.payload.claimedId?)

theorem claimedIds_append (events events' : OutboxLog) :
    claimedIds (events ++ events') = claimedIds events ++ claimedIds events' := List.filterMap_append

theorem foldRecordFrom_of_no_events {tenantId : TenantId} {x : JsString} {log : OutboxLog}
    (h : ∀ e ∈ log, e.event.payload.outboxId? ≠ some x) (record : Option DocumentDeliveryOutboxRecord) :
    foldDocumentDeliveryOutboxRecordFrom record tenantId x log = record := by
  induction log generalizing record with
  | nil => rfl
  | cons e log ih =>
    have hfirst : applyOutboxRecordEvent tenantId x record e = record :=
      applyOutboxRecordEvent_of_ne (h e List.mem_cons_self)
    show foldDocumentDeliveryOutboxRecordFrom (applyOutboxRecordEvent tenantId x record e) tenantId x log = record
    rw [hfirst]
    exact ih (fun e' he' => h e' (List.mem_cons_of_mem _ he')) record

theorem foldRecord_append (tenantId : TenantId) (x : JsString) (log log' : OutboxLog) :
    foldDocumentDeliveryOutboxRecord tenantId x (log ++ log') =
      foldDocumentDeliveryOutboxRecordFrom (foldDocumentDeliveryOutboxRecord tenantId x log) tenantId x log' :=
  foldRecordFrom_append none tenantId x log log'

/-- Every record is one of the tenant. -/
theorem tenantId_of_foldRecord {tenantId : TenantId} {x : JsString} {log : OutboxLog}
    {r : DocumentDeliveryOutboxRecord} (h : foldDocumentDeliveryOutboxRecord tenantId x log = some r) :
    r.tenantId = tenantId := by
  induction log using List.reverseRecOn generalizing r with
  | nil => cases h
  | append_singleton log e ih =>
    rw [foldRecord_append] at h
    change applyOutboxRecordEvent tenantId x (foldDocumentDeliveryOutboxRecord tenantId x log) e = some r at h
    unfold applyOutboxRecordEvent at h
    split_ifs at h with hid
    · split at h
      · obtain rfl := Option.some.inj h
        rfl
      · obtain ⟨r', hr', rfl⟩ := Option.map_eq_some_iff.mp h
        have htenant := ih hr'
        exact htenant
      · obtain ⟨r', hr', rfl⟩ := Option.map_eq_some_iff.mp h
        have htenant := ih hr'
        exact htenant
      · obtain ⟨r', hr', rfl⟩ := Option.map_eq_some_iff.mp h
        have htenant := ih hr'
        exact htenant
      · exact ih h
    · exact ih h

/-- A worker holds the record. -/
structure HeldRecord (tenantId : TenantId) (log : OutboxLog) (claimId : JsString) (r : DocumentDeliveryOutboxRecord) :
    Prop where
  fold : foldDocumentDeliveryOutboxRecord tenantId r.id log = some r
  status : r.status = .claimed
  claimId : r.claimId = some claimId

namespace HeldRecord

variable {tenantId : TenantId} {log : OutboxLog} {claimId : JsString} {r : DocumentDeliveryOutboxRecord}

theorem get (h : HeldRecord tenantId log claimId r) (hok : OutboxLogOK tenantId log) :
    Record.get (foldDocumentDeliveryOutbox tenantId log).records r.id = some r := by
  rw [get_fold tenantId hok.phased, h.fold, Option.filter_some, if_pos]
  rw [inFlight, h.status]
  rfl

theorem ensureClaimed (h : HeldRecord tenantId log claimId r) : ensureDocumentDeliveryOutboxClaimed r claimId = .ok () := by
  unfold ensureDocumentDeliveryOutboxClaimed
  rw [h.status, h.claimId]
  simp [ensure]

theorem spec (h : HeldRecord tenantId log claimId r) (hok : OutboxLogOK tenantId log) :
    colon ∈ r.id ∧ recordPhase r.id log = some (.claimed claimId) := claimed_spec hok (h.get hok) h.ensureClaimed

end HeldRecord

/-- Events were appended, none of them a claim, and only the record `x` has gone on. -/
structure Advances {W : Type} (tenantId : TenantId) (stream : StreamName) (x : JsString) (s t : SoloStore W) : Prop where
  appended : ∃ events, t.logs stream = s.logs stream ++ events ∧ claimedIds events = []
  ok : OutboxLogOK tenantId (t.logs stream)
  others : ∀ y, y ≠ x → foldDocumentDeliveryOutboxRecord tenantId y (t.logs stream) =
    foldDocumentDeliveryOutboxRecord tenantId y (s.logs stream)

/-- The last of some appended events is about `x`, the others are about no record. -/
theorem Advances.of_events {W : Type} {tenantId : TenantId} {stream : StreamName} {x : JsString} {s t : SoloStore W}
    {before : List OutboxEvent} {e : OutboxEvent} {n : Nat}
    (ht : t.logs stream = s.logs stream ++ recorded n (before ++ [e])) (hok : OutboxLogOK tenantId (t.logs stream))
    (hbefore : ∀ b ∈ before, b.payload.outboxId? = none) (he : e.payload.outboxId? = some x)
    (hclaim : e.payload.claimedId? = none) :
    Advances tenantId stream x s t ∧
      foldDocumentDeliveryOutboxRecord tenantId x (t.logs stream) =
        applyOutboxRecordEvent tenantId x (foldDocumentDeliveryOutboxRecord tenantId x (s.logs stream))
          ⟨n + before.length + 1, e⟩ := by
  -- what stands before the event is about no record
  have hquiet : ∀ y, ∀ b ∈ recorded n before, b.event.payload.outboxId? ≠ some y := by
    intro y b hb
    rw [hbefore b.event (mem_recorded hb)]
    exact Option.some_ne_none y |>.symm
  have hsplit : recorded n (before ++ [e]) = recorded n before ++ [⟨n + before.length + 1, e⟩] := by
    rw [recorded_append, recorded, recorded]
  constructor
  · refine ⟨⟨_, ht, ?_⟩, hok, ?_⟩
    · unfold claimedIds
      rw [List.filterMap_eq_nil_iff]
      intro b hb
      rcases List.mem_append.mp (mem_recorded hb) with hb | hb
      · have hnone := hbefore _ hb
        cases hpayload : b.event.payload with
        | claimed outboxId claimId =>
          rw [hpayload] at hnone
          cases hnone
        | _ => rfl
      · rw [List.mem_singleton.mp hb]
        exact hclaim
    · intro y hy
      rw [ht, foldRecord_append, foldRecordFrom_of_no_events]
      intro b hb hid
      rw [hsplit] at hb
      rcases List.mem_append.mp hb with hb | hb
      · exact hquiet y b hb hid
      · rw [List.mem_singleton.mp hb, he, Option.some.injEq] at hid
        exact hy hid.symm
  · rw [ht, hsplit, foldRecord_append, foldRecordFrom_append, foldRecordFrom_of_no_events (hquiet x)]
    rfl

/-! ## markDelivered and markFailed -/

section Finishing

variable {W : Type} {answer : W → (x : OutboxCall) → x.Reply × W} {s : SoloStore W} {stream : StreamName}

theorem eval_markFailed (answer : W → (x : OutboxCall) → x.Reply × W) (command : FailDocumentDeliveryOutboxCommand)
    {r : DocumentDeliveryOutboxRecord} {error : JsString} (h : OutboxLogOK command.tenantId (s.logs stream))
    (hstream : documentDeliveryOutboxStream command.tenantId = some stream)
    (hheld : HeldRecord command.tenantId (s.logs stream) command.claimId r) (hid : command.outboxId = r.id)
    (herror : documentDeliveryOutboxFailureError command.error = .ok error) :
    ∃ t now, (markFailed command).eval (outboxAlone answer) s =
        (.ok (r.fail command.claimId error command.retryAt now), t) ∧
      Advances command.tenantId stream r.id s t ∧
      foldDocumentDeliveryOutboxRecord command.tenantId r.id (t.logs stream) =
        some (r.fail command.claimId error command.retryAt now) := by
  obtain ⟨hcolon, hphase⟩ := hheld.spec h
  have hget := hheld.get h
  let id := (answer s.world (.nextId (js "evt_"))).1
  let w := (answer s.world (.nextId (js "evt_"))).2
  let now : Timestamp := (answer w .now).1
  let e := outboxEvent command.tenantId stream command.outboxId (js "system") now
    (.failed command.outboxId command.claimId error command.retryAt) command.metadata id
  let t : SoloStore W := ({ s with world := (answer w .now).2 } : SoloStore W).push stream [e]
  have hplan : (planFailed command error (foldDocumentDeliveryOutbox command.tenantId (s.logs stream)) 1).eval
      (outboxAlone answer) s =
      (.ok { recordIds := [command.outboxId], events := [e] }, { s with world := (answer w .now).2 }) := by
    have hrequire : requireOutboxRecord (foldDocumentDeliveryOutbox command.tenantId (s.logs stream)) command.outboxId =
        .ok r := by
      rw [requireOutboxRecord, hid, hget]
    unfold planFailed
    rw [eval_bind_ok (by rw [eval_ofExcept, hrequire]),
      eval_bind_ok (by rw [eval_ofExcept, hheld.ensureClaimed]),
      eval_bind_ok (eval_outboxStream hstream)]
    rfl
  have hlog : t.logs stream = s.logs stream ++ recorded (s.logs stream).length [e] := LogState.push_logs_self _ _ _
  have hok : OutboxLogOK command.tenantId (t.logs stream) := by
    rw [hlog]
    refine h.finished hcolon hphase rfl rfl hid (Or.inr ⟨error, command.retryAt, ?_⟩)
    rw [← hid]
    rfl
  obtain ⟨hadvances, hfold⟩ := Advances.of_events (x := r.id) (n := (s.logs stream).length) hlog hok
    (fun b hb => absurd hb List.not_mem_nil) (by rw [← hid]; rfl) rfl
  have hfailed : foldDocumentDeliveryOutboxRecord command.tenantId r.id (t.logs stream) =
      some (r.fail command.claimId error command.retryAt now) := by
    rw [hfold, hheld.fold, applyOutboxRecordEvent, if_pos (by rw [← hid]; rfl)]
    rfl
  refine ⟨t, now, ?_, hadvances, hfailed⟩
  -- the failed record is still in the working set
  have hselected : selectedDocumentDeliveryOutboxRecords (foldDocumentDeliveryOutbox command.tenantId (t.logs stream))
      [command.outboxId] = [r.fail command.claimId error command.retryAt now] := by
    have hin : Record.get (foldDocumentDeliveryOutbox command.tenantId (t.logs stream)).records r.id =
        some (r.fail command.claimId error command.retryAt now) := by
      rw [get_fold command.tenantId hok.phased, hfailed]
      rfl
    rw [selectedDocumentDeliveryOutboxRecords, hid, List.flatMap_singleton, hin]
    rfl
  unfold markFailed
  rw [eval_bind_ok (by rw [eval_ofExcept, herror]),
    eval_bind_ok (eval_appendWithRetry h hstream hplan)]
  dsimp only
  rw [← hlog, hselected]
  rfl

theorem eval_plannedCheckpoint (answer : W → (x : OutboxCall) → x.Reply × W) {tenantId : TenantId}
    (h : OutboxLogOK tenantId (s.logs stream)) (attempt : Nat) :
    ∃ events w, (plannedCheckpoint tenantId stream (foldDocumentDeliveryOutbox tenantId (s.logs stream)) attempt).eval
        (outboxAlone answer) s = (.ok events, { s with world := w }) ∧
      (∀ b ∈ events, b.payload.outboxId? = none) ∧
      OutboxLogOK tenantId (s.logs stream ++ recorded (s.logs stream).length events) ∧
      ∀ x, recordPhase x (s.logs stream ++ recorded (s.logs stream).length events) = recordPhase x (s.logs stream) := by
  unfold plannedCheckpoint
  split_ifs
  · refine ⟨[], s.world, rfl, fun b hb => absurd hb List.not_mem_nil, ?_⟩
    rw [recorded, List.append_nil]
    exact ⟨h, fun _ => rfl⟩
  · refine ⟨_, _, rfl, ?_, ?_⟩
    · intro b hb
      rw [List.mem_singleton.mp hb]
      rfl
    · rw [recorded, recorded]
      exact h.checkpointed rfl rfl rfl rfl

theorem eval_markDelivered (answer : W → (x : OutboxCall) → x.Reply × W)
    (command : CompleteDocumentDeliveryOutboxCommand) {r : DocumentDeliveryOutboxRecord}
    (h : OutboxLogOK command.tenantId (s.logs stream))
    (hstream : documentDeliveryOutboxStream command.tenantId = some stream)
    (hheld : HeldRecord command.tenantId (s.logs stream) command.claimId r) (hid : command.outboxId = r.id) :
    ∃ t now, (markDelivered command).eval (outboxAlone answer) s = (.ok (r.deliver command.claimId now), t) ∧
      Advances command.tenantId stream r.id s t ∧
      foldDocumentDeliveryOutboxRecord command.tenantId r.id (t.logs stream) =
        some (r.deliver command.claimId now) := by
  obtain ⟨hcolon, hphase⟩ := hheld.spec h
  have hget := hheld.get h
  obtain ⟨checkpoint, v, hcheckpoint, hquiet, hchecked, hphases⟩ := eval_plannedCheckpoint answer h 1
  let id := (answer v (.nextId (js "evt_"))).1
  let w := (answer v (.nextId (js "evt_"))).2
  let now : Timestamp := (answer w .now).1
  let e := outboxEvent command.tenantId stream command.outboxId (js "system") now
    (.delivered command.outboxId command.claimId) command.metadata id
  let t : SoloStore W := ({ s with world := (answer w .now).2 } : SoloStore W).push stream (checkpoint ++ [e])
  have hplan : (planDelivered command (foldDocumentDeliveryOutbox command.tenantId (s.logs stream)) 1).eval
      (outboxAlone answer) s =
      (.ok { recordIds := [command.outboxId], events := checkpoint ++ [e] },
        { s with world := (answer w .now).2 }) := by
    unfold planDelivered
    rw [hid, hget]
    dsimp only
    rw [eval_bind_ok (by rw [eval_ofExcept, hheld.ensureClaimed]),
      eval_bind_ok (eval_outboxStream hstream), eval_bind_ok hcheckpoint, ← hid]
    rfl
  have hlog : t.logs stream = s.logs stream ++ recorded (s.logs stream).length (checkpoint ++ [e]) :=
    LogState.push_logs_self _ _ _
  have hok : OutboxLogOK command.tenantId (t.logs stream) := by
    have hlength : (s.logs stream).length + checkpoint.length =
        (s.logs stream ++ recorded (s.logs stream).length checkpoint).length := by
      rw [List.length_append, recorded_length]
    rw [hlog, recorded_append, ← List.append_assoc, hlength]
    refine hchecked.finished hcolon ((hphases _).trans hphase) rfl rfl hid (Or.inl ?_)
    rw [← hid]
    rfl
  obtain ⟨hadvances, hfold⟩ := Advances.of_events (x := r.id) hlog hok hquiet (by rw [← hid]; rfl) rfl
  have hdelivered : foldDocumentDeliveryOutboxRecord command.tenantId r.id (t.logs stream) =
      some (r.deliver command.claimId now) := by
    rw [hfold, hheld.fold, applyOutboxRecordEvent, if_pos (by rw [← hid]; rfl)]
    rfl
  refine ⟨t, now, ?_, hadvances, hdelivered⟩
  -- the delivered record has left the working set, and is read back from its own events
  have hselected : selectedDocumentDeliveryOutboxRecords (foldDocumentDeliveryOutbox command.tenantId (t.logs stream))
      [command.outboxId] = [] := by
    have hout : Record.get (foldDocumentDeliveryOutbox command.tenantId (t.logs stream)).records r.id = none := by
      rw [get_fold command.tenantId hok.phased, hdelivered]
      rfl
    rw [selectedDocumentDeliveryOutboxRecords, hid, List.flatMap_singleton, hout]
    rfl
  have hread : (deliveredRecord command.tenantId command.outboxId).eval (outboxAlone answer) t =
      (.ok (some (r.deliver command.claimId now)), t) := by
    unfold deliveredRecord
    rw [eval_bind_ok (eval_record hok hstream command.outboxId), hid, hdelivered]
    rfl
  unfold markDelivered
  rw [eval_bind_ok (eval_appendWithRetry h hstream hplan)]
  dsimp only
  rw [← hlog, hselected]
  dsimp only
  rw [eval_bind_ok hread]
  rfl

end Finishing

/-! ## claimPending -/

section Claiming

variable {W : Type} {answer : W → (x : OutboxCall) → x.Reply × W} {s : SoloStore W} {stream : StreamName}
variable {tenantId : TenantId}

theorem eval_claimedEvents (answer : W → (x : OutboxCall) → x.Reply × W) (s : SoloStore W) (tenantId : TenantId)
    (stream : StreamName) (claimId : JsString) (now : Timestamp) (records : List DocumentDeliveryOutboxRecord) :
    ∃ events w, (claimedEvents tenantId stream claimId now records).eval (outboxAlone answer) s =
        (.ok events, { s with world := w }) ∧
      ClaimedEvents tenantId claimId records events ∧
      events.map (fun e => (e.payload, e.occurredAt)) = records.map (fun r => (.claimed r.id claimId, now)) := by
  induction records generalizing s with
  | nil => exact ⟨[], s.world, rfl, ⟨fun e he => absurd he List.not_mem_nil, rfl⟩, rfl⟩
  | cons record records ih =>
    obtain ⟨events, w, heval, ⟨hevents, hids⟩, hstamped⟩ :=
      ih { s with world := (answer s.world (.nextId (js "evt_"))).2 }
    let first := outboxEvent tenantId stream record.id (js "system") now (.claimed record.id claimId) []
      (answer s.world (.nextId (js "evt_"))).1
    refine ⟨first :: events, w, ?_, ⟨?_, ?_⟩, ?_⟩
    · have hid : (nextId (js "evt_")).eval (outboxAlone answer) s =
          (.ok (answer s.world (.nextId (js "evt_"))).1,
            { s with world := (answer s.world (.nextId (js "evt_"))).2 }) := rfl
      unfold claimedEvents
      rw [eval_bind_ok hid, eval_bind_ok heval]
      rfl
    · intro e he
      rcases List.mem_cons.mp he with rfl | he
      · exact ⟨rfl, rfl, record, List.mem_cons_self, rfl, rfl⟩
      · obtain ⟨htenant, hdoctype, r, hr, hrest⟩ := hevents e he
        exact ⟨htenant, hdoctype, r, List.mem_cons_of_mem _ hr, hrest⟩
    · rw [List.map_cons, List.map_cons, hids]
      rfl
    · rw [List.map_cons, List.map_cons, hstamped]
      rfl

/-- What the record of a claimable entry is. -/
theorem foldRecord_claimable {localeCompare : JsString → JsString → Ordering} {log : OutboxLog}
    (h : OutboxLogOK tenantId log) {now : Timestamp} {limit : Nat} {r : DocumentDeliveryOutboxRecord}
    (hr : r ∈ claimableDocumentDeliveryOutboxRecords localeCompare (foldDocumentDeliveryOutbox tenantId log) now limit) :
    foldDocumentDeliveryOutboxRecord tenantId r.id log = some r := by
  have hmem := (List.perm_insertionSort _ _).mem_iff.mp (List.mem_of_mem_take hr)
  obtain ⟨⟨x, r'⟩, hentry, rfl⟩ := List.mem_map.mp (List.mem_filter.mp hmem).1
  have hget := Record.get_of_mem (nodup_keys_fold tenantId log) hentry
  have hid := keyed_fold tenantId log x r' hget
  dsimp only at hid ⊢
  rw [get_fold tenantId h.phased] at hget
  rw [hid]
  exact (Option.filter_eq_some_iff.mp hget).1

/-- The events of a claim let each of its records go on by the claim, and no other. -/
theorem foldRecordFrom_claimed {claimId : JsString} {now : Timestamp} {records : List DocumentDeliveryOutboxRecord}
    {events : List OutboxEvent} {n : Nat} {x : JsString} {r : DocumentDeliveryOutboxRecord}
    (hstamped : events.map (fun e => (e.payload, e.occurredAt)) = records.map (fun r => (.claimed r.id claimId, now)))
    (hnodup : (records.map (·.id)).Nodup) (hx : x ∈ records.map (·.id)) :
    foldDocumentDeliveryOutboxRecordFrom (some r) tenantId x (recorded n events) = some (r.claim claimId now) := by
  induction records generalizing events n r with
  | nil => exact absurd hx List.not_mem_nil
  | cons record records ih =>
    cases events with
    | nil => cases hstamped
    | cons e events =>
      rw [List.map_cons, List.map_cons, List.cons.injEq, Prod.mk.injEq] at hstamped
      obtain ⟨⟨hpayload, hat⟩, hrest⟩ := hstamped
      rw [List.map_cons, List.nodup_cons] at hnodup
      show foldDocumentDeliveryOutboxRecordFrom (applyOutboxRecordEvent tenantId x (some r) ⟨n + 1, e⟩) tenantId x
        (recorded (n + 1) events) = _
      rcases List.mem_cons.mp hx with rfl | hx
      · have hfirst : applyOutboxRecordEvent tenantId record.id (some r) ⟨n + 1, e⟩ = some (r.claim claimId now) := by
          unfold applyOutboxRecordEvent
          dsimp only
          rw [hpayload, hat]
          exact if_pos rfl
        rw [hfirst]
        -- the other claims are of other records
        apply foldRecordFrom_of_no_events
        intro b hb hid
        have hmem : (b.event.payload, b.event.occurredAt) ∈
            records.map (fun r => (DocumentDeliveryOutboxEventPayload.claimed r.id claimId, now)) := by
          rw [← hrest]
          exact List.mem_map.mpr ⟨b.event, mem_recorded hb, rfl⟩
        obtain ⟨r', hr', heq⟩ := List.mem_map.mp hmem
        rw [← (Prod.mk.inj heq).1] at hid
        exact hnodup.1 (List.mem_map.mpr ⟨r', hr', Option.some.inj hid⟩)
      · have hne : record.id ≠ x := fun heq => hnodup.1 (heq ▸ hx)
        have hfirst : applyOutboxRecordEvent tenantId x (some r) ⟨n + 1, e⟩ = some r := by
          apply applyOutboxRecordEvent_of_ne
          rw [hpayload]
          exact fun heq => hne (Option.some.inj heq)
        rw [hfirst]
        exact ih hrest hnodup.2 hx

theorem claimedIds_recorded {claimId : JsString} {now : Timestamp} {records : List DocumentDeliveryOutboxRecord}
    {events : List OutboxEvent} {n : Nat}
    (hstamped : events.map (fun e => (e.payload, e.occurredAt)) = records.map (fun r => (.claimed r.id claimId, now))) :
    claimedIds (recorded n events) = records.map (·.id) := by
  induction records generalizing events n with
  | nil =>
    rw [List.map_nil, List.map_eq_nil_iff] at hstamped
    rw [hstamped]
    rfl
  | cons record records ih =>
    cases events with
    | nil => cases hstamped
    | cons e events =>
      rw [List.map_cons, List.map_cons, List.cons.injEq, Prod.mk.injEq] at hstamped
      have hfirst : e.payload.claimedId? = some record.id := by
        rw [hstamped.1.1]
        rfl
      have hcons : claimedIds (recorded n (e :: events)) = record.id :: claimedIds (recorded (n + 1) events) :=
        List.filterMap_cons_some hfirst
      rw [hcons, ih hstamped.2, List.map_cons]

/-- **A claim**: the claimable records of the working set are held by the claim, and no one else's record has gone
on. -/
theorem eval_claimPending (answer : W → (x : OutboxCall) → x.Reply × W) (s : SoloStore W)
    (localeCompare : JsString → JsString → Ordering) (command : ClaimDocumentDeliveryOutboxCommand)
    {claimId : JsString} {now : Timestamp} {limit : Nat} {v : W}
    (h : OutboxLogOK command.tenantId (s.logs stream))
    (hstream : documentDeliveryOutboxStream command.tenantId = some stream) (hnow : command.now = some now)
    (hclaimId : (claimIdOr command.claimId).eval (outboxAlone answer) s = (.ok claimId, { s with world := v }))
    (hlimit : documentDeliveryOutboxClaimLimit command.limit = .ok limit) :
    ∃ t events, (claimPending localeCompare command).eval (outboxAlone answer) s =
        (.ok ((claimableDocumentDeliveryOutboxRecords localeCompare
          (foldDocumentDeliveryOutbox command.tenantId (s.logs stream)) now limit).map (fun r => r.claim claimId now)),
          t) ∧
      t.logs stream = s.logs stream ++ events ∧
      claimedIds events = (claimableDocumentDeliveryOutboxRecords localeCompare
        (foldDocumentDeliveryOutbox command.tenantId (s.logs stream)) now limit).map (·.id) ∧
      OutboxLogOK command.tenantId (t.logs stream) ∧
      ∀ r ∈ claimableDocumentDeliveryOutboxRecords localeCompare
        (foldDocumentDeliveryOutbox command.tenantId (s.logs stream)) now limit,
        HeldRecord command.tenantId (t.logs stream) claimId (r.claim claimId now) := by
  obtain ⟨tenantId, given, givenLimit, givenNow⟩ := command
  dsimp only at h hstream hnow hclaimId hlimit ⊢
  subst hnow
  generalize hrecords : claimableDocumentDeliveryOutboxRecords localeCompare
    (foldDocumentDeliveryOutbox tenantId (s.logs stream)) now limit = records
  obtain ⟨events, w, heval, hevents, hstamped⟩ :=
    eval_claimedEvents answer { s with world := v } tenantId stream claimId now records
  have hplan : (planClaim localeCompare tenantId claimId now limit (foldDocumentDeliveryOutbox tenantId (s.logs stream))
      1).eval (outboxAlone answer) { s with world := v } =
      (.ok { events, recordIds := records.map (·.id) }, { s with world := w }) := by
    unfold planClaim
    dsimp only
    rw [hrecords, eval_bind_ok (eval_outboxStream hstream), eval_bind_ok heval]
    rfl
  let t : SoloStore W := ({ s with world := w } : SoloStore W).push stream events
  have hlog : t.logs stream = s.logs stream ++ recorded (s.logs stream).length events := LogState.push_logs_self _ _ _
  have hok : OutboxLogOK tenantId (t.logs stream) := by
    rw [hlog]
    rw [← hrecords] at hevents
    exact h.claimed hevents
  have hheld : ∀ r ∈ records, HeldRecord tenantId (t.logs stream) claimId (r.claim claimId now) := by
    intro r hr
    refine ⟨?_, rfl, rfl⟩
    have hnodup := nodup_claimable localeCompare tenantId (s.logs stream) now limit
    rw [hrecords] at hnodup
    have hbefore : foldDocumentDeliveryOutboxRecord tenantId r.id (s.logs stream) = some r := by
      rw [← hrecords] at hr
      exact foldRecord_claimable h hr
    show foldDocumentDeliveryOutboxRecord tenantId r.id (t.logs stream) = _
    rw [hlog, foldRecord_append, hbefore]
    exact foldRecordFrom_claimed hstamped hnodup (List.mem_map_of_mem hr)
  refine ⟨t, _, ?_, hlog, claimedIds_recorded hstamped, hok, hheld⟩
  have happended := eval_appendWithRetry (s := { s with world := v }) h hstream hplan
  unfold claimPending
  rw [eval_bind_ok rfl, eval_bind_ok hclaimId, eval_bind_ok (by rw [eval_ofExcept, hlimit]), happended]
  dsimp only
  rw [← hlog]
  congr 2
  -- what is held is in the working set
  unfold selectedDocumentDeliveryOutboxRecords
  have hget : ∀ r ∈ records, (Record.get (foldDocumentDeliveryOutbox tenantId (t.logs stream)).records r.id).toList =
      [r.claim claimId now] := by
    intro r hr
    have hin := (hheld r hr).get hok
    change Record.get (foldDocumentDeliveryOutbox tenantId (t.logs stream)).records r.id = _ at hin
    rw [hin]
    rfl
  rw [List.flatMap_map, List.flatMap_congr hget, List.map_eq_flatMap]

end Claiming
