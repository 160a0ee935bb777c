import CfFrappe.Application.DataPatchOrder
import CfFrappe.Lib.Sequential

set_option autoImplicit false

/-! # Steps of the data patches

The operations of `DataPatchService` over the journal in memory. What every action does to the entry of its patch is
said once (`EntryChange`, `logChange_of_exec`), and how statuses change follows. A step is `InDeclaredOrder` when it
respects the declared order; the invariant is that the entry of a patch that has run well is there and is not that of a
failed one (`OnceOK`).
-/

open Utf

/-! ## What the methods of the log do -/

variable {recordedById : Record JsString RecordedDataPatch} {entry : Option InMemoryDataPatchEntry}

namespace InMemoryDataPatchLog

variable {log log' : InMemoryDataPatchLog}

theorem assertPendingClaim_ok {id checksum claimId : JsString}
    (h : assertPendingClaim entry id checksum claimId = .ok ()) :
    ∃ pending holder, entry = some (.pending pending holder) := by
  have hheld := ensure_eq_ok h
  cases entry with
  | none => cases hheld
  | some entry =>
    cases entry with
    | pending pending holder => exact ⟨pending, holder, rfl⟩
    | _ => cases hheld

theorem assertRollbackPendingClaim_ok {id checksum claimId : JsString} {existing : RollbackPendingDataPatch}
    (h : assertRollbackPendingClaim entry id checksum claimId = .ok existing) :
    ∃ holder, entry = some (.rollbackPending existing holder) := by
  unfold assertRollbackPendingClaim at h
  cases entry with
  | none => cases h
  | some entry =>
    cases entry with
    | rollbackPending pending holder =>
      simp only at h
      split_ifs at h
      obtain rfl := Except.ok.inj h
      exact ⟨holder, rfl⟩
    | _ => cases h

theorem claimDataPatch_ok {patch : ClaimDataPatch} {result : DataPatchClaimResult}
    (h : claimDataPatch log patch = .ok (result, log')) :
    log' = log ∨ Record.get log patch.id = none ∧
      log' = Record.set log patch.id
        (.pending { id := patch.id, checksum := patch.checksum, claimedAt := patch.claimedAt } patch.claimId) := by
  unfold claimDataPatch at h
  cases hexisting : Record.get log patch.id with
  | none =>
    rw [hexisting] at h
    exact Or.inr ⟨rfl, (Prod.mk.inj (Except.ok.inj h)).2.symm⟩
  | some existing =>
    rw [hexisting] at h
    obtain ⟨_, _, hresult⟩ := except_bind_eq_ok h
    obtain ⟨_, _, hpair⟩ := except_bind_eq_ok hresult
    exact Or.inl (Prod.mk.inj (Except.ok.inj hpair)).2.symm

theorem completeDataPatch_ok {patch : CompleteDataPatch} (h : completeDataPatch log patch = .ok log') :
    ∃ pending holder, Record.get log patch.id = some (.pending pending holder) ∧
      log' = Record.set log patch.id (.applied
        { id := patch.id, checksum := patch.checksum, appliedAt := patch.appliedAt, result := patch.result }) := by
  obtain ⟨_, hclaim, hset⟩ := except_bind_eq_ok h
  obtain ⟨pending, holder, hget⟩ := assertPendingClaim_ok hclaim
  exact ⟨pending, holder, hget, (Except.ok.inj hset).symm⟩

theorem failDataPatch_ok {patch : FailDataPatch} (h : failDataPatch log patch = .ok log') :
    ∃ pending holder, Record.get log patch.id = some (.pending pending holder) ∧
      log' = Record.set log patch.id (.failed
        { id := patch.id, checksum := patch.checksum, failedAt := patch.failedAt, error := patch.error }
        patch.claimId) := by
  obtain ⟨_, hclaim, hset⟩ := except_bind_eq_ok h
  obtain ⟨pending, holder, hget⟩ := assertPendingClaim_ok hclaim
  exact ⟨pending, holder, hget, (Except.ok.inj hset).symm⟩

theorem retryFailedDataPatch_ok {patch : RetryFailedDataPatch} (h : retryFailedDataPatch log patch = .ok log') :
    ∃ failed holder, Record.get log patch.id = some (.failed failed holder) ∧ log' = Record.without log [patch.id] := by
  obtain ⟨_, hretryable, hwithout⟩ := except_bind_eq_ok h
  obtain ⟨journal, hjournal, _, hstatus⟩ := assertRetryableFailedJournal_ok hretryable
  obtain ⟨entry, hget, rfl⟩ := Option.map_eq_some_iff.mp hjournal
  cases entry with
  | failed failed holder => exact ⟨failed, holder, hget, (Except.ok.inj hwithout).symm⟩
  | _ => cases hstatus

theorem retryFailedDataPatchRollback_ok {patch claim : ClaimDataPatch}
    (h : retryFailedDataPatchRollback log patch = .ok (claim, log')) :
    ∃ failed holder, Record.get log patch.id = some (.rollbackFailed failed holder) ∧
      log' = Record.set log patch.id (.rollbackPending
        { id := patch.id, checksum := patch.checksum, appliedAt := failed.appliedAt, result := failed.result
          rollbackClaimedAt := patch.claimedAt } patch.claimId) := by
  obtain ⟨_, _, hset⟩ := except_bind_eq_ok h
  cases hget : Record.get log patch.id with
  | none =>
    rw [hget] at hset
    cases hset
  | some entry =>
    rw [hget] at hset
    cases entry with
    | rollbackFailed failed holder => exact ⟨failed, holder, rfl, (Prod.mk.inj (Except.ok.inj hset)).2.symm⟩
    | _ => cases hset

/-- The rollback is claimed, or the log says how far it has come. -/
theorem claimDataPatchRollback_ok {patch : ClaimDataPatch} {result : DataPatchRollbackClaimResult}
    (h : claimDataPatchRollback log patch = .ok (result, log')) :
    (log' = log ∧ ∃ existing, Record.get log patch.id = some existing ∧ existing.rollbackClaimResult = .ok result) ∨
      ∃ applied, Record.get log patch.id = some (.applied applied) ∧ result = .claimed patch ∧
        log' = Record.set log patch.id
          (.rollbackPending { applied with rollbackClaimedAt := patch.claimedAt } patch.claimId) := by
  obtain ⟨_, _, hresult⟩ := except_bind_eq_ok h
  cases hget : Record.get log patch.id with
  | none =>
    rw [hget] at hresult
    cases hresult
  | some entry =>
    rw [hget] at hresult
    cases entry with
    | applied applied =>
      obtain ⟨hclaimed, hlog⟩ := Prod.mk.inj (Except.ok.inj hresult)
      exact Or.inr ⟨applied, rfl, hclaimed.symm, hlog.symm⟩
    | pending _ _ | failed _ _ | rollbackPending _ _ | rolledBack _ | rollbackFailed _ _ =>
      obtain ⟨_, hfound, hpair⟩ := except_bind_eq_ok hresult
      obtain ⟨rfl, rfl⟩ := Prod.mk.inj (Except.ok.inj hpair)
      exact Or.inl ⟨rfl, _, rfl, hfound⟩

theorem completeDataPatchRollback_ok {patch : CompleteRollbackDataPatch}
    (h : completeDataPatchRollback log patch = .ok log') :
    ∃ pending holder, Record.get log patch.id = some (.rollbackPending pending holder) ∧
      log' = Record.set log patch.id (.rolledBack
        { id := patch.id, checksum := patch.checksum, appliedAt := pending.appliedAt, result := pending.result
          rolledBackAt := patch.rolledBackAt, rollbackResult := patch.result }) := by
  obtain ⟨pending, hclaim, hset⟩ := except_bind_eq_ok h
  obtain ⟨holder, hget⟩ := assertRollbackPendingClaim_ok hclaim
  exact ⟨pending, holder, hget, (Except.ok.inj hset).symm⟩

theorem failDataPatchRollback_ok {patch : FailDataPatch} (h : failDataPatchRollback log patch = .ok log') :
    ∃ pending holder, Record.get log patch.id = some (.rollbackPending pending holder) ∧
      log' = Record.set log patch.id (.rollbackFailed
        { id := patch.id, checksum := patch.checksum, appliedAt := pending.appliedAt, result := pending.result
          rollbackFailedAt := patch.failedAt, rollbackError := patch.error } patch.claimId) := by
  obtain ⟨pending, hclaim, hset⟩ := except_bind_eq_ok h
  obtain ⟨holder, hget⟩ := assertRollbackPendingClaim_ok hclaim
  exact ⟨pending, holder, hget, (Except.ok.inj hset).symm⟩

end InMemoryDataPatchLog

namespace DataPatchRuns

open InOrder DataPatchOrder

/-! ## The journal as the state -/

/-- What a method of the log replies, and the log after it. -/
def answered {α : Type} (log : InMemoryDataPatchLog) :
    Except FrameworkError (α × InMemoryDataPatchLog) → Except FrameworkError α × InMemoryDataPatchLog
  | .ok (a, log') => (.ok a, log')
  | .error error => (.error error, log)

def changed (log : InMemoryDataPatchLog) :
    Except FrameworkError InMemoryDataPatchLog → Except FrameworkError Unit × InMemoryDataPatchLog
  | .ok log' => (.ok (), log')
  | .error error => (.error error, log)

/-- The clock, the ids and the patches may reply anything. A listing is sorted by the ids, in the collation of the
store: here it may come in any order. -/
def exec (log : InMemoryDataPatchLog) :
    (action : PatchAction) → action.Reply → InMemoryDataPatchLog → Prop
  | .recordedDataPatches, reply, log' =>
    List.Perm reply ((log.map Prod.snd).map InMemoryDataPatchEntry.record) ∧ log' = log
  | .claimDataPatch patch, reply, log' => (reply, log') = answered log (log.claimDataPatch patch)
  | .completeDataPatch patch, reply, log' => (reply, log') = changed log (log.completeDataPatch patch)
  | .failDataPatch patch, reply, log' => (reply, log') = changed log (log.failDataPatch patch)
  | .retryFailedDataPatch patch, reply, log' => (reply, log') = changed log (log.retryFailedDataPatch patch)
  | .claimDataPatchRollback patch, reply, log' => (reply, log') = answered log (log.claimDataPatchRollback patch)
  | .completeDataPatchRollback patch, reply, log' => (reply, log') = changed log (log.completeDataPatchRollback patch)
  | .failDataPatchRollback patch, reply, log' => (reply, log') = changed log (log.failDataPatchRollback patch)
  | .retryFailedDataPatchRollback patch, reply, log' =>
    (reply, log') = answered log (log.retryFailedDataPatchRollback patch)
  | .now, _, log' => log' = log
  | .nextId, _, log' => log' = log
  | .run _, _, log' => log' = log
  | .rollback _, _, log' => log' = log

/-- A step of an operation. -/
abbrev PatchStep := RunStep DataPatchOperation InMemoryDataPatchLog PatchAction PatchAction.Reply

def statusOf (log : InMemoryDataPatchLog) (id : JsString) : Option DataPatchStatus :=
  (Record.get log id).map (fun entry => entry.journal.status)

/-- How the status of a patch may change. -/
inductive StatusChange : Option DataPatchStatus → Option DataPatchStatus → Prop
  | same (status : Option DataPatchStatus) : StatusChange status status
  | claimed : StatusChange none (some .pending)
  | applied : StatusChange (some .pending) (some .applied)
  | failed : StatusChange (some .pending) (some .failed)
  | retried : StatusChange (some .failed) none
  | rollbackClaimed : StatusChange (some .applied) (some .rollbackPending)
  | rollbackRetried : StatusChange (some .rollbackFailed) (some .rollbackPending)
  | rolledBack : StatusChange (some .rollbackPending) (some .rolledBack)
  | rollbackFailed : StatusChange (some .rollbackPending) (some .rollbackFailed)

def PatchOutcome.isReturned : PatchOutcome → Bool
  | .returned _ => true
  | _ => false

/-- The patch that an action has run well. -/
def succeededIn : (action : PatchAction) → action.Reply → Option JsString
  | .run id, outcome => if PatchOutcome.isReturned outcome then some id else none
  | _, _ => none

/-- The patches whose run has succeeded in some steps. -/
def succeeded (steps : List PatchStep) : List JsString :=
  steps.filterMap (fun step => succeededIn step.action step.reply)

/-- The last of the steps has claimed the patch, which was unrecorded. -/
def NewlyClaimed (steps : List PatchStep) (id : JsString) (log : InMemoryDataPatchLog) : Prop :=
  ∃ last patch, steps.getLast? = some last ∧ last.action = .claimDataPatch patch ∧ patch.id = id ∧ last.after = log ∧
    statusOf last.before id = none ∧ statusOf log id = some .pending

/-- What a step has to be like after the steps before it. -/
structure InDeclaredOrder (patches : List DataPatchDefinition) (steps : List PatchStep) (step : PatchStep) : Prop where
  /-- a patch is run when all earlier ones are applied -/
  earlier : ∀ id, step.action = .run id → ∀ other, Before (order patches) other id →
    statusOf step.before other = some .applied
  /-- it is unrecorded but for its new claim -/
  claimed : ∀ id, step.action = .run id → NewlyClaimed steps id step.before
  /-- it has never run well before -/
  once : ∀ id, step.action = .run id → id ∉ succeeded steps
  /-- a patch is rolled back when all later ones are unrecorded or rolled back -/
  later : ∀ id, step.action = .rollback id → ∀ other, Before (order patches) id other →
    statusOf step.before other = none ∨ statusOf step.before other = some .rolledBack
  /-- the statuses change along their ways -/
  statuses : ∀ id, StatusChange (statusOf step.before id) (statusOf step.after id)

/-- Every patch has one entry, under its own id. -/
structure LogOK (log : InMemoryDataPatchLog) : Prop where
  nodup : (Record.keys log).Nodup
  keyed : ∀ id entry, Record.get log id = some entry → entry.journal.id = id

/-! ## What a step does to the entries -/

/-- What an action does to the entry of its patch. -/
inductive EntryChange : PatchAction → Option InMemoryDataPatchEntry → Option InMemoryDataPatchEntry → Prop
  | claim (patch : ClaimDataPatch) (pending : PendingDataPatch) (holder : JsString) :
      EntryChange (.claimDataPatch patch) none (some (.pending pending holder))
  | complete (patch : CompleteDataPatch) (pending : PendingDataPatch) (holder : JsString) (applied : AppliedDataPatch) :
      EntryChange (.completeDataPatch patch) (some (.pending pending holder)) (some (.applied applied))
  | fail (patch : FailDataPatch) (pending : PendingDataPatch) (holder holder' : JsString) (failed : FailedDataPatch) :
      EntryChange (.failDataPatch patch) (some (.pending pending holder)) (some (.failed failed holder'))
  | retry (patch : RetryFailedDataPatch) (failed : FailedDataPatch) (holder : JsString) :
      EntryChange (.retryFailedDataPatch patch) (some (.failed failed holder)) none
  | claimRollback (patch : ClaimDataPatch) (applied : AppliedDataPatch) (pending : RollbackPendingDataPatch)
      (holder : JsString) :
      EntryChange (.claimDataPatchRollback patch) (some (.applied applied)) (some (.rollbackPending pending holder))
  | retryRollback (patch : ClaimDataPatch) (failed : RollbackFailedDataPatch) (holder holder' : JsString)
      (pending : RollbackPendingDataPatch) :
      EntryChange (.retryFailedDataPatchRollback patch) (some (.rollbackFailed failed holder))
        (some (.rollbackPending pending holder'))
  | completeRollback (patch : CompleteRollbackDataPatch) (pending : RollbackPendingDataPatch) (holder : JsString)
      (rolledBack : RolledBackDataPatch) :
      EntryChange (.completeDataPatchRollback patch) (some (.rollbackPending pending holder))
        (some (.rolledBack rolledBack))
  | failRollback (patch : FailDataPatch) (pending : RollbackPendingDataPatch) (holder holder' : JsString)
      (failed : RollbackFailedDataPatch) :
      EntryChange (.failDataPatchRollback patch) (some (.rollbackPending pending holder))
        (some (.rollbackFailed failed holder'))

/-- The patch that an action is about. -/
def patchOf : PatchAction → Option JsString
  | .claimDataPatch patch => some patch.id
  | .completeDataPatch patch => some patch.id
  | .failDataPatch patch => some patch.id
  | .retryFailedDataPatch patch => some patch.id
  | .claimDataPatchRollback patch => some patch.id
  | .completeDataPatchRollback patch => some patch.id
  | .failDataPatchRollback patch => some patch.id
  | .retryFailedDataPatchRollback patch => some patch.id
  | _ => none

/-- Nothing is changed, or the entry of the patch is put in its place or taken away. -/
inductive LogChange (action : PatchAction) (log : InMemoryDataPatchLog) : InMemoryDataPatchLog → Prop
  | same : LogChange action log log
  | put {id : JsString} (entry : InMemoryDataPatchEntry) (hid : patchOf action = some id) (hentry : entry.journal.id = id)
      (h : EntryChange action (Record.get log id) (some entry)) : LogChange action log (Record.set log id entry)
  | taken {id : JsString} (hid : patchOf action = some id) (h : EntryChange action (Record.get log id) none) :
      LogChange action log (Record.without log [id])

variable {log log' : InMemoryDataPatchLog} {action : PatchAction}

theorem changed_ok {result : Except FrameworkError InMemoryDataPatchLog} {reply : Except FrameworkError Unit}
    (h : (reply, log') = changed log result) (hreply : reply = .ok ()) : result = .ok log' := by
  cases result with
  | ok log'' =>
    obtain ⟨_, rfl⟩ := Prod.mk.inj h
    rfl
  | error error =>
    obtain ⟨rfl, _⟩ := Prod.mk.inj h
    cases hreply

theorem answered_ok {α : Type} {result : Except FrameworkError (α × InMemoryDataPatchLog)}
    {reply : Except FrameworkError α} {a : α} (h : (reply, log') = answered log result) (hreply : reply = .ok a) :
    result = .ok (a, log') := by
  cases result with
  | ok pair =>
    obtain ⟨rfl, rfl⟩ := Prod.mk.inj h
    rw [Except.ok.inj hreply.symm]
  | error error =>
    obtain ⟨rfl, _⟩ := Prod.mk.inj h
    cases hreply

theorem of_changed {result : Except FrameworkError InMemoryDataPatchLog} {reply : Except FrameworkError Unit}
    (h : (reply, log') = changed log result) (hok : ∀ log'', result = .ok log'' → LogChange action log log'') :
    LogChange action log log' := by
  cases result with
  | ok log'' =>
    obtain ⟨_, rfl⟩ := Prod.mk.inj h
    exact hok _ rfl
  | error error =>
    obtain ⟨_, rfl⟩ := Prod.mk.inj h
    exact .same

theorem of_answered {α : Type} {result : Except FrameworkError (α × InMemoryDataPatchLog)}
    {reply : Except FrameworkError α} (h : (reply, log') = answered log result)
    (hok : ∀ a log'', result = .ok (a, log'') → LogChange action log log'') : LogChange action log log' := by
  cases result with
  | ok pair =>
    obtain ⟨_, rfl⟩ := Prod.mk.inj h
    exact hok pair.1 _ rfl
  | error error =>
    obtain ⟨_, rfl⟩ := Prod.mk.inj h
    exact .same

/-- **What an action can do to the log.** -/
theorem logChange_of_exec {reply : action.Reply} (hlog : LogOK log) (h : exec log action reply log') :
    LogChange action log log' := by
  -- one case for each action: what an answer without error has written
  cases action with
  | recordedDataPatches =>
    obtain ⟨_, rfl⟩ := h
    exact .same
  | claimDataPatch patch =>
    apply of_answered h
    intro result log'' hok
    rcases InMemoryDataPatchLog.claimDataPatch_ok hok with rfl | ⟨hget, rfl⟩
    · exact .same
    · exact .put _ rfl rfl (hget ▸ .claim patch _ _)
  | completeDataPatch patch =>
    apply of_changed h
    intro log'' hok
    obtain ⟨pending, holder, hget, rfl⟩ := InMemoryDataPatchLog.completeDataPatch_ok hok
    exact .put _ rfl rfl (hget ▸ .complete patch _ _ _)
  | failDataPatch patch =>
    apply of_changed h
    intro log'' hok
    obtain ⟨pending, holder, hget, rfl⟩ := InMemoryDataPatchLog.failDataPatch_ok hok
    exact .put _ rfl rfl (hget ▸ .fail patch _ _ _ _)
  | retryFailedDataPatch patch =>
    apply of_changed h
    intro log'' hok
    obtain ⟨failed, holder, hget, rfl⟩ := InMemoryDataPatchLog.retryFailedDataPatch_ok hok
    exact .taken rfl (hget ▸ .retry patch _ _)
  | claimDataPatchRollback patch =>
    apply of_answered h
    intro result log'' hok
    rcases InMemoryDataPatchLog.claimDataPatchRollback_ok hok with ⟨rfl, _⟩ | ⟨applied, hget, _, rfl⟩
    · exact .same
    · have hid : applied.id = patch.id := hlog.keyed _ _ hget
      exact .put _ rfl hid (hget ▸ .claimRollback patch _ _ _)
  | completeDataPatchRollback patch =>
    apply of_changed h
    intro log'' hok
    obtain ⟨pending, holder, hget, rfl⟩ := InMemoryDataPatchLog.completeDataPatchRollback_ok hok
    exact .put _ rfl rfl (hget ▸ .completeRollback patch _ _ _)
  | failDataPatchRollback patch =>
    apply of_changed h
    intro log'' hok
    obtain ⟨pending, holder, hget, rfl⟩ := InMemoryDataPatchLog.failDataPatchRollback_ok hok
    exact .put _ rfl rfl (hget ▸ .failRollback patch _ _ _ _)
  | retryFailedDataPatchRollback patch =>
    apply of_answered h
    intro result log'' hok
    obtain ⟨failed, holder, hget, rfl⟩ := InMemoryDataPatchLog.retryFailedDataPatchRollback_ok hok
    exact .put _ rfl rfl (hget ▸ .retryRollback patch _ _ _ _)
  | now | nextId | run _ | rollback _ =>
    obtain rfl := h
    exact .same

theorem LogChange.ok (h : LogChange action log log') (hlog : LogOK log) : LogOK log' := by
  cases h with
  | same => exact hlog
  | put entry hid hentry hchange =>
    refine ⟨Record.nodup_keys_set hlog.nodup _ _, ?_⟩
    intro other entry' hget
    rw [Record.get_set] at hget
    split_ifs at hget with hother
    · rw [← Option.some.inj hget, hentry, hother]
    · exact hlog.keyed other entry' hget
  | taken hid hchange =>
    refine ⟨Record.nodup_keys_without hlog.nodup _, ?_⟩
    intro other entry' hget
    rw [Record.get_without] at hget
    split_ifs at hget
    exact hlog.keyed other entry' hget

/-- **The other patches are left alone.** -/
theorem LogChange.others (h : LogChange action log log') {other : JsString} (hother : patchOf action ≠ some other) :
    Record.get log' other = Record.get log other := by
  cases h with
  | same => rfl
  | @put id entry hid hentry hchange =>
    have hne : id ≠ other := fun heq => hother (heq ▸ hid)
    rw [Record.get_set, if_neg hne]
  | @taken id hid hchange =>
    have hne : other ≠ id := fun heq => hother (heq ▸ hid)
    rw [Record.get_without, if_neg (by simpa using hne)]

theorem others_of_exec {reply : action.Reply} (hlog : LogOK log) (h : exec log action reply log')
    {id other : JsString} (hid : patchOf action = some id) (hother : other ≠ id) :
    Record.get log' other = Record.get log other := by
  apply (logChange_of_exec hlog h).others
  rw [hid]
  exact fun heq => hother (Option.some.inj heq).symm

@[simp] theorem statusOf_set (log : InMemoryDataPatchLog) (id : JsString) (entry : InMemoryDataPatchEntry) :
    statusOf (Record.set log id entry) id = some entry.journal.status := by
  rw [statusOf, Record.get_set, if_pos rfl]
  rfl

@[simp] theorem statusOf_without (log : InMemoryDataPatchLog) (id : JsString) :
    statusOf (Record.without log [id]) id = none := by
  rw [statusOf, Record.get_without, if_pos List.mem_cons_self]
  rfl

theorem EntryChange.status {entry' : Option InMemoryDataPatchEntry} (h : EntryChange action entry entry') :
    StatusChange (entry.map (fun entry => entry.journal.status)) (entry'.map (fun entry => entry.journal.status)) := by
  cases h with
  | claim => exact .claimed
  | complete => exact .applied
  | fail => exact .failed
  | retry => exact .retried
  | claimRollback => exact .rollbackClaimed
  | retryRollback => exact .rollbackRetried
  | completeRollback => exact .rolledBack
  | failRollback => exact .rollbackFailed

/-- **Every status changes along its way.** -/
theorem LogChange.status (h : LogChange action log log') (id : JsString) :
    StatusChange (statusOf log id) (statusOf log' id) := by
  by_cases hother : patchOf action = some id
  · cases h with
    | same => exact .same _
    | put entry hid hentry hchange =>
      obtain rfl := Option.some.inj (hid.symm.trans hother)
      rw [statusOf_set]
      exact hchange.status
    | taken hid hchange =>
      obtain rfl := Option.some.inj (hid.symm.trans hother)
      rw [statusOf_without]
      exact hchange.status
  · rw [statusOf, statusOf, h.others hother]
    exact .same _

/-- A status that is not `failed` becomes so only when the patch is recorded as failed. -/
theorem LogChange.failed (h : LogChange action log log') {id : JsString} (hfailed : statusOf log' id = some .failed) :
    statusOf log id = some .failed ∨ ∃ patch, action = .failDataPatch patch ∧ patch.id = id := by
  by_cases hother : patchOf action = some id
  · cases h with
    | same => exact Or.inl hfailed
    | put entry hid hentry hchange =>
      obtain rfl := Option.some.inj (hid.symm.trans hother)
      rw [statusOf_set] at hfailed
      have hstatus := Option.some.inj hfailed
      generalize Record.get log _ = before at hchange
      cases hchange with
      | fail patch => exact Or.inr ⟨patch, rfl, Option.some.inj hid⟩
      | _ => cases hstatus
    | taken hid hchange =>
      obtain rfl := Option.some.inj (hid.symm.trans hother)
      rw [statusOf_without] at hfailed
      cases hfailed
  · rw [statusOf, h.others hother] at hfailed
    exact Or.inl hfailed

/-! ## The listing -/

/-- What is known of the recorded patches is what the log holds. -/
def Listed (recordedById : Record JsString RecordedDataPatch) (log : InMemoryDataPatchLog) : Prop :=
  ∀ id, Record.get recordedById id = (Record.get log id).map InMemoryDataPatchEntry.record

theorem record_journal (entry : InMemoryDataPatchEntry) : entry.record.journal = entry.journal := by
  cases entry <;> rfl

theorem record_id (entry : InMemoryDataPatchEntry) : entry.record.id = entry.journal.id := by
  cases entry <;> rfl

theorem get_foldl_set {recorded : List RecordedDataPatch} (hnodup : (recorded.map RecordedDataPatch.id).Nodup)
    (byId : Record JsString RecordedDataPatch) (id : JsString) :
    Record.get (recorded.foldl (fun byId patch => Record.set byId patch.id patch) byId) id =
      (recorded.find? (fun patch => patch.id == id)).or (Record.get byId id) := by
  induction recorded generalizing byId with
  | nil => rfl
  | cons patch recorded ih =>
    obtain ⟨hnew, hnodup'⟩ := List.nodup_cons.mp hnodup
    rw [List.foldl_cons, ih hnodup', Record.get_set, List.find?_cons]
    by_cases hid : patch.id = id
    · have hnone : recorded.find? (fun patch => patch.id == id) = none := by
        rw [find?_key_none]
        rintro other hother heq
        exact hnew (List.mem_map.mpr ⟨other, hother, by rw [heq, hid]⟩)
      have hsame : (patch.id == id) = true := beq_iff_eq.mpr hid
      rw [hnone, if_pos hid, hsame]
      rfl
    · have hother : (patch.id == id) = false := beq_eq_false_iff_ne.mpr hid
      rw [if_neg hid, hother]

theorem listed_recorded {recorded : List RecordedDataPatch} (hlog : LogOK log)
    (hperm : recorded.Perm ((log.map Prod.snd).map InMemoryDataPatchEntry.record)) :
    Listed (recordedDataPatchesById recorded) log := by
  intro id
  have hkeys : ((log.map Prod.snd).map InMemoryDataPatchEntry.record).map RecordedDataPatch.id = Record.keys log := by
    rw [List.map_map, List.map_map]
    apply List.map_congr_left
    intro e he
    show e.2.record.id = e.1
    rw [record_id]
    exact hlog.keyed e.1 e.2 (Record.get_of_mem hlog.nodup he)
  have hnodup : (recorded.map RecordedDataPatch.id).Nodup := by
    rw [(hperm.map _).nodup_iff, hkeys]
    exact hlog.nodup
  rw [recordedDataPatchesById, get_foldl_set hnodup, Record.get_nil, Option.or_none]
  apply Option.ext
  intro patch
  rw [find?_key_iff hnodup, hperm.mem_iff, Option.map_eq_some_iff]
  constructor
  · rintro ⟨hmem, hid⟩
    obtain ⟨entry, hentry, rfl⟩ := List.mem_map.mp hmem
    obtain ⟨e, he, rfl⟩ := List.mem_map.mp hentry
    have hget := Record.get_of_mem hlog.nodup (k := e.1) (v := e.2) he
    have hkey := hlog.keyed e.1 e.2 hget
    rw [record_id, hkey] at hid
    exact ⟨e.2, hid ▸ hget, rfl⟩
  · rintro ⟨entry, hget, rfl⟩
    refine ⟨List.mem_map_of_mem (List.mem_map_of_mem (Record.mem_of_get hget)), ?_⟩
    rw [record_id]
    exact hlog.keyed id entry hget

def AppliedIn (log : InMemoryDataPatchLog) (id : JsString) : Prop := statusOf log id = some .applied

def AwayIn (log : InMemoryDataPatchLog) (id : JsString) : Prop :=
  statusOf log id = none ∨ statusOf log id = some .rolledBack

theorem Listed.unrecorded (h : Listed recordedById log) {id : JsString} (hnone : Record.get recordedById id = none) :
    Record.get log id = none := by
  rw [h id, Option.map_eq_none_iff] at hnone
  exact hnone

/-- A list of the log that is kept up with a patch that has been applied. -/
theorem Listed.set_applied {log' : InMemoryDataPatchLog} {id : JsString} {record : AppliedDataPatch}
    (h : Listed recordedById log) (hrecord : record.id = id) (hget : Record.get log' id = some (.applied record))
    (hothers : ∀ other, other ≠ id → Record.get log' other = Record.get log other) :
    Listed (Record.set recordedById record.id (.applied record)) log' := by
  intro other
  rw [hrecord, Record.get_set]
  by_cases hsame : id = other
  · rw [if_pos hsame, ← hsame, hget]
    rfl
  · rw [if_neg hsame, h other, hothers other (Ne.symm hsame)]

theorem Listed.applied (h : Listed recordedById log) {id : JsString} (happlied : Applied recordedById id) :
    AppliedIn log id := by
  obtain ⟨recorded, hget, hstatus⟩ := happlied
  rw [h id] at hget
  obtain ⟨entry, hentry, rfl⟩ := Option.map_eq_some_iff.mp hget
  rw [record_journal] at hstatus
  rw [AppliedIn, statusOf, hentry, Option.map_some, hstatus]

theorem Listed.away (h : Listed recordedById log) {id : JsString} (haway : Away recordedById id) : AwayIn log id := by
  cases hentry : Record.get log id with
  | none => exact Or.inl (by rw [statusOf, hentry, Option.map_none])
  | some entry =>
    have hstatus := haway entry.record (by rw [h id, hentry]; rfl)
    rw [record_journal] at hstatus
    exact Or.inr (by rw [statusOf, hentry, Option.map_some, hstatus])

/-! ## The invariant -/

/-- The entry of a patch that has run well is there, and is not that of a failed one. -/
structure OnceOK (steps : List PatchStep) (log : InMemoryDataPatchLog) : Prop where
  journal : LogOK log
  kept : ∀ id ∈ succeeded steps, ∃ status, statusOf log id = some status ∧ status ≠ .failed

/-- What the operations of a service keep. -/
def patchRuns (patches : List DataPatchDefinition) :
    SequentialState DataPatchOperation InMemoryDataPatchLog PatchAction PatchAction.Reply where
  exec := exec
  Inv := OnceOK
  Good := InDeclaredOrder patches

theorem onceOK_empty : OnceOK [] [] := by
  refine ⟨⟨List.nodup_nil, ?_⟩, fun _ hid => absurd hid List.not_mem_nil⟩
  intro id entry hget
  cases hget

variable {patches : List DataPatchDefinition} {operation : DataPatchOperation} {steps : List PatchStep}
  {patch : DataPatchDefinition}

/-- A patch without an entry has never run well. -/
theorem OnceOK.not_succeeded (h : OnceOK steps log) {id : JsString} (hnone : Record.get log id = none) :
    id ∉ succeeded steps := by
  intro hmem
  obtain ⟨status, hstatus, _⟩ := h.kept id hmem
  rw [statusOf, hnone] at hstatus
  cases hstatus

theorem succeeded_append (step : PatchStep) :
    succeeded (steps ++ [step]) = succeeded steps ++ (succeededIn step.action step.reply).toList := by
  rw [succeeded, List.filterMap_append]
  cases h : succeededIn step.action step.reply <;> simp [h, succeeded]

theorem succeededIn_of_call (hrun : ∀ id, action ≠ .run id) (reply : action.Reply) : succeededIn action reply = none := by
  cases action with
  | run id => exact absurd rfl (hrun id)
  | _ => rfl

theorem succeeded_call {reply : action.Reply} (hrun : ∀ id, action ≠ .run id) :
    succeeded (steps ++ [⟨operation, log, action, reply, log'⟩]) = succeeded steps := by
  rw [succeeded_append, succeededIn_of_call hrun, Option.toList_none, List.append_nil]

/-- An action that runs nothing keeps the invariant, unless it records a good patch as failed. -/
theorem OnceOK.call {reply : action.Reply} (h : OnceOK steps log) (hrun : ∀ id, action ≠ .run id)
    (hfail : ∀ patch, action = .failDataPatch patch → patch.id ∉ succeeded steps)
    (hexec : exec log action reply log') :
    OnceOK (steps ++ [⟨operation, log, action, reply, log'⟩]) log' := by
  have hchange := logChange_of_exec h.journal hexec
  refine ⟨hchange.ok h.journal, ?_⟩
  intro id hid
  rw [succeeded_call hrun] at hid
  obtain ⟨status, hstatus, hgood⟩ := h.kept id hid
  have hway := hchange.status id
  have hfailed : statusOf log' id = some .failed →
      statusOf log id = some .failed ∨ ∃ patch, action = .failDataPatch patch ∧ patch.id = id := hchange.failed
  rw [hstatus] at hway hfailed
  cases hafter : statusOf log' id with
  | none =>
    rw [hafter] at hway
    cases hway
    exact absurd rfl hgood
  | some status' =>
    refine ⟨status', rfl, ?_⟩
    rintro rfl
    rcases hfailed hafter with hbefore | ⟨patch, hpatch, rfl⟩
    · exact hgood (Option.some.inj hbefore)
    · exact hfail patch hpatch hid

/-- A patch may run well while it is pending. -/
theorem OnceOK.run (h : OnceOK steps log) {id : JsString} (hpending : statusOf log id = some .pending)
    (outcome : PatchOutcome) : OnceOK (steps ++ [⟨operation, log, .run id, outcome, log⟩]) log := by
  refine ⟨h.journal, ?_⟩
  intro other hother
  rw [succeeded_append, List.mem_append] at hother
  rcases hother with hold | hnew
  · exact h.kept other hold
  · have hsame : id = other := by
      change other ∈ (if PatchOutcome.isReturned outcome then some id else none).toList at hnew
      split_ifs at hnew <;> simp_all
    exact ⟨.pending, hsame ▸ hpending, by decide⟩

theorem succeededIn_run_error {label id : JsString} {outcome : PatchOutcome} {error : PatchError}
    (h : DataPatchRunner.normalizeDataPatchRunResult label outcome = .error error) :
    succeededIn (.run id) outcome = none := by
  cases outcome with
  | returned result => cases h
  | _ => rfl

end DataPatchRuns
