import CfFrappe.Application.AutomationLoops
import CfFrappe.Application.AutomationRunConsumer

set_option autoImplicit false

/-! # When a run was updated

The row of a run takes its time from the first of five times that the record has (`automationRunSnapshot`), and
the time of a failure comes before the time of a claim. A claim leaves the time of the last failure in the
record, so that the row of a run that is tried again shows when it failed (`updatedAt_iff`); after any other
event the row shows the time of the event.
-/

open Utf

def EventPayload.isRunClaim : EventPayload → Bool
  | .automationRun (.claimed _ _ _) => true
  | _ => false

def EventPayload.isRunFailure : EventPayload → Bool
  | .automationRun (.failed _ _ _ _) => true
  | _ => false

/-- The time of the last failure. -/
def lastFailedAt (events : List DomainEvent) : Option Timestamp :=
  (events.reverse.find? (·.payload.isRunFailure)).map (·.occurredAt)

theorem lastFailedAt_concat (events : List DomainEvent) (event : DomainEvent) :
    lastFailedAt (events ++ [event]) =
      if event.payload.isRunFailure = true then some event.occurredAt else lastFailedAt events := by
  unfold lastFailedAt
  rw [List.reverse_append, List.reverse_singleton, List.singleton_append, List.find?_cons]
  cases event.payload.isRunFailure <;> rfl

/-- A claim at another time than that of the last failure hides behind it. -/
def Hidden (before : List DomainEvent) (last : DomainEvent) : Prop :=
  last.payload.isRunClaim = true ∧ ∃ failedAt, lastFailedAt before = some failedAt ∧ failedAt ≠ last.occurredAt

/-- What the times of a record say about its events. -/
structure TimesOf (record : AutomationRunRecord) (events : List DomainEvent) : Prop where
  failedAt : record.failedAt = lastFailedAt events
  delivered : record.deliveredAt ≠ none → record.status = .delivered
  dead : record.deadLetteredAt ≠ none → record.status = .dead

section

variable {tenantId : TenantId} {runId : JsString} {stream : StreamName}

/-- A run that goes on has no time of its end. -/
theorem TimesOf.going {existing : AutomationRunRecord} {events : List DomainEvent} (h : TimesOf existing events)
    (hstatus : existing.status = .pending ∨ existing.status = .failed ∨ existing.status = .claimed) :
    existing.deliveredAt = none ∧ existing.deadLetteredAt = none := by
  constructor
  · by_contra hdelivered
    rw [h.delivered hdelivered] at hstatus
    simp at hstatus
  · by_contra hdead
    rw [h.dead hdead] at hstatus
    simp at hstatus

/-- **One more event**: its times, and the time of the row. A case for every kind of event. -/
theorem TimesOf.step {existing next : AutomationRunRecord} {before : List DomainEvent} {last : DomainEvent}
    (h : TimesOf existing before) (henabled : AutomationRunEnabled runId (some existing) last)
    (hnext : foldAutomationRunEvent tenantId (some existing) last = some next) :
    TimesOf next (before ++ [last]) ∧
      ((automationRunSnapshot next).updatedAt = last.occurredAt ↔ ¬Hidden before last) := by
  unfold AutomationRunEnabled at henabled
  unfold foldAutomationRunEvent at hnext
  unfold Hidden
  have hlast := lastFailedAt_concat before last
  cases hpayload : last.payload with
  | automationRun payload =>
    rw [hpayload] at henabled hnext hlast
    cases payload with
    | enqueued source => exact absurd henabled id
    | claimed claimedId claimId claimExpiresAt =>
      have hgoing : existing.status = .pending ∨ existing.status = .failed ∨ existing.status = .claimed := henabled
      obtain ⟨hdelivered, hdead⟩ := h.going hgoing
      cases hnext
      refine ⟨⟨h.failedAt.trans hlast.symm, fun hne => absurd hdelivered hne, fun hne => absurd hdead hne⟩, ?_⟩
      -- the time of a failure, if there was one, and else that of the claim
      have htime : (automationRunSnapshot (applyAutomationRunEvent existing last
          (.claimed claimedId claimId claimExpiresAt))).updatedAt = (lastFailedAt before).getD last.occurredAt := by
        show ((((existing.deliveredAt.or existing.deadLetteredAt).or existing.failedAt).or
          (some last.occurredAt)).getD existing.enqueuedAt) = _
        rw [hdelivered, hdead, h.failedAt]
        cases lastFailedAt before <;> rfl
      rw [htime]
      cases lastFailedAt before with
      | none => simp
      | some failedAt => simp [EventPayload.isRunClaim]
    | delivered _ claimId =>
      cases hnext
      refine ⟨⟨h.failedAt.trans hlast.symm, fun _ => rfl, fun hne => ?_⟩, ?_⟩
      · obtain ⟨_, hdead⟩ := h.going (Or.inr (Or.inr henabled.1))
        exact absurd hdead hne
      · exact iff_of_true rfl (by simp [EventPayload.isRunClaim])
    | failed _ claimId error retryAt =>
      obtain ⟨hdelivered, hdead⟩ := h.going (Or.inr (Or.inr henabled.1))
      cases hnext
      refine ⟨⟨hlast.symm, fun hne => absurd hdelivered hne, fun hne => absurd hdead hne⟩, iff_of_true ?_ ?_⟩
      · show ((((existing.deliveredAt.or existing.deadLetteredAt).or (some last.occurredAt)).or
          existing.claimedAt).getD existing.enqueuedAt) = _
        rw [hdelivered, hdead]
        rfl
      · simp [EventPayload.isRunClaim]
    | deadLettered _ claimId error =>
      obtain ⟨hdelivered, _⟩ := h.going (Or.inr (Or.inr henabled.1))
      cases hnext
      refine ⟨⟨h.failedAt.trans hlast.symm, fun hne => absurd hdelivered hne, fun _ => rfl⟩, iff_of_true ?_ ?_⟩
      · show ((((existing.deliveredAt.or (some last.occurredAt)).or existing.failedAt).or
          existing.claimedAt).getD existing.enqueuedAt) = _
        rw [hdelivered]
        rfl
      · simp [EventPayload.isRunClaim]
    | suppressed _ error =>
      obtain ⟨hdelivered, _⟩ := h.going (Or.inl henabled.1)
      cases hnext
      refine ⟨⟨h.failedAt.trans hlast.symm, fun hne => absurd hdelivered hne, fun _ => rfl⟩, iff_of_true ?_ ?_⟩
      · show ((((existing.deliveredAt.or (some last.occurredAt)).or existing.failedAt).or
          existing.claimedAt).getD existing.enqueuedAt) = _
        rw [hdelivered]
        rfl
      · simp [EventPayload.isRunClaim]
  | _ =>
    rw [hpayload] at henabled
    exact absurd henabled id

/-- The first event. -/
theorem timesOf_first {next : AutomationRunRecord} {last : DomainEvent} (henabled : AutomationRunEnabled runId none last)
    (hnext : foldAutomationRunEvent tenantId none last = some next) :
    TimesOf next [last] ∧ ((automationRunSnapshot next).updatedAt = last.occurredAt ↔ ¬Hidden [] last) := by
  unfold AutomationRunEnabled at henabled
  unfold foldAutomationRunEvent at hnext
  have hlast := lastFailedAt_concat [] last
  cases hpayload : last.payload with
  | automationRun payload =>
    rw [hpayload] at henabled hnext hlast
    cases payload with
    | enqueued source =>
      cases hnext
      refine ⟨⟨hlast.symm, fun hne => absurd rfl hne, fun hne => absurd rfl hne⟩, iff_of_true rfl ?_⟩
      unfold Hidden
      rw [hpayload]
      simp [EventPayload.isRunClaim]
    | _ => exact absurd henabled id
  | _ =>
    rw [hpayload] at henabled
    exact absurd henabled id

/-- The times of every record of a stream. By induction on the stream, from its end. -/
theorem AutomationRunStream.timesOf {events : List DomainEvent} (h : AutomationRunStream tenantId runId stream events)
    {record : AutomationRunRecord} (hfold : foldAutomationRun tenantId events = some record) : TimesOf record events := by
  induction events using List.reverseRecOn generalizing record with
  | nil => cases hfold
  | append_singleton events last ih =>
    have henabled := h.enabled events last [] rfl
    rw [foldAutomationRun_concat h.sequenced] at hfold
    cases hbefore : foldAutomationRun tenantId events with
    | none =>
      rw [hbefore] at hfold henabled
      have hnil := h.left.fold_none hbefore
      subst hnil
      exact (timesOf_first henabled hfold).1
    | some existing =>
      rw [hbefore] at hfold henabled
      exact ((ih h.left hbefore).step henabled hfold).1

/-- **The row of a stream** shows the time of its last event, unless this is a claim that hides. -/
theorem AutomationRunStream.updatedAt_iff {before : List DomainEvent} {last : DomainEvent}
    (h : AutomationRunStream tenantId runId stream (before ++ [last])) {record : AutomationRunRecord}
    (hfold : foldAutomationRun tenantId (before ++ [last]) = some record) :
    (automationRunSnapshot record).updatedAt = last.occurredAt ↔ ¬Hidden before last := by
  have henabled := h.enabled before last [] rfl
  rw [foldAutomationRun_concat h.sequenced] at hfold
  cases hbefore : foldAutomationRun tenantId before with
  | none =>
    rw [hbefore] at hfold henabled
    have hnil := h.left.fold_none hbefore
    subst hnil
    exact (timesOf_first henabled hfold).2
  | some existing =>
    rw [hbefore] at hfold henabled
    exact ((h.left.timesOf hbefore).step henabled hfold).2

end

/-- **Every run of every number of workers** has a row with the time of its last event, unless this is a claim
that hides behind a failure. -/
theorem runUpdatedAt_iff {addSeconds : Timestamp → Nat → Option Timestamp} {localeCompare : JsString → JsString → Ordering}
    {options : AutomationRunPlannerOptions} {planner : AutomationRunPlanner}
    {command : PlanAutomationRunsFromDomainEventCommand} {nextId : Nat → JsString} {action : PlannedAutomationAction}
    {entry : DocumentCommitBatchEntry} (hcreate : AutomationRunPlanner.create options = .ok planner)
    (hplanned : AutomationRunPlanner.Planned planner command nextId action entry) (actions : List ConsumerAction) :
    ∃ before last record,
      (RunSystem.run addSeconds localeCompare command.event.tenantId action.runId (RunSystem.start entry) actions).events =
        before ++ [last] ∧
      foldAutomationRun command.event.tenantId (before ++ [last]) = some record ∧
      ((automationRunSnapshot record).updatedAt = last.occurredAt ↔ ¬Hidden before last) := by
  have hretry := normalizeAutomationRunRetryPolicy_safe (AutomationRunPlanner.create_retry hcreate)
  obtain ⟨htracked, first, hfirst, _⟩ := hplanned.start_tracked hretry
  have hrun := htracked.run addSeconds localeCompare hplanned.stream actions
  have hfront := htracked.prefix_run addSeconds localeCompare hplanned.stream actions
  have hstream := hrun.stream
  have hne : (RunSystem.run addSeconds localeCompare command.event.tenantId action.runId (RunSystem.start entry)
      actions).events ≠ [] := by
    intro hnil
    rw [hnil, List.prefix_nil] at hfront
    rw [hfront] at hfirst
    cases hfirst
  obtain ⟨before, last, hevents⟩ := List.eq_nil_or_concat _ |>.resolve_left hne
  rw [List.concat_eq_append] at hevents
  rw [hevents] at hstream
  obtain ⟨record, hfold, _⟩ := hstream.fold_some (by simp)
  exact ⟨before, last, record, hevents, hfold, hstream.updatedAt_iff hfold⟩

/-! ## A claim after a failure

A worker claims a run and fails; ten minutes later another worker claims it again. -/

namespace SecondAttempt

def entry : DocumentCommitBatchEntry := InvoiceSync.entry InvoiceSync.orderUpdated InvoiceSync.orderAction

def command : PlanAutomationRunsFromDomainEventCommand := InvoiceSync.command InvoiceSync.orderUpdated

def claimTime : Timestamp := js "2024-01-01T00:00:00.000Z"

def failureTime : Timestamp := js "2024-01-01T00:00:01.000Z"

def reclaimTime : Timestamp := js "2024-01-01T00:10:00.000Z"

def addSeconds (now : Timestamp) (seconds : Nat) : Option Timestamp :=
  if now = claimTime ∧ seconds = 300 then some (js "2024-01-01T00:05:00.000Z")
  else if now = claimTime ∧ seconds = 30 then some (js "2024-01-01T00:00:30.000Z")
  else if now = reclaimTime ∧ seconds = 300 then some (js "2024-01-01T00:15:00.000Z")
  else none

def actions : List ConsumerAction :=
  [.claim 1 (js "claim_1") claimTime 300 (js "evt_21"),
   .fail 2 0 claimTime (js "Automation target Invoice/INV-1 was not found") { id := js "evt_22", now := failureTime },
   .claim 3 (js "claim_2") reclaimTime 300 (js "evt_23")]

def events : List DomainEvent :=
  (RunSystem.run addSeconds compareCodeUnits defaultTenantId InvoiceSync.orderAction.runId (RunSystem.start entry)
    actions).events

theorem planned : AutomationRunPlanner.Planned InvoiceSync.planner command InvoiceSync.nextId InvoiceSync.orderAction
    entry where
  stream := by decide +kernel
  expectedVersion := rfl
  events := ⟨0, rfl⟩

end SecondAttempt

/-- **The row of the second attempt shows the time of the failure.** -/
theorem not_runUpdatedAt :
    ¬ ∀ {addSeconds : Timestamp → Nat → Option Timestamp} {localeCompare : JsString → JsString → Ordering}
        {options : AutomationRunPlannerOptions} {planner : AutomationRunPlanner}
        {command : PlanAutomationRunsFromDomainEventCommand} {nextId : Nat → JsString} {action : PlannedAutomationAction}
        {entry : DocumentCommitBatchEntry} {actions : List ConsumerAction} {before : List DomainEvent}
        {last : DomainEvent} {record : AutomationRunRecord},
      AutomationRunPlanner.create options = .ok planner →
      AutomationRunPlanner.Planned planner command nextId action entry →
      (RunSystem.run addSeconds localeCompare command.event.tenantId action.runId (RunSystem.start entry) actions).events =
        before ++ [last] →
      foldAutomationRun command.event.tenantId (before ++ [last]) = some record →
      (automationRunSnapshot record).updatedAt = last.occurredAt := by
  intro h
  have hcreate : AutomationRunPlanner.create InvoiceSync.options = .ok InvoiceSync.planner := by rfl
  have htime : (foldAutomationRun defaultTenantId SecondAttempt.events).map
      (fun record => (automationRunSnapshot record).updatedAt) = some SecondAttempt.failureTime := by
    decide +kernel
  have hlast : SecondAttempt.events.getLast?.map (·.occurredAt) = some SecondAttempt.reclaimTime := by decide +kernel
  obtain ⟨record, hfold, hupdated⟩ := Option.map_eq_some_iff.mp htime
  obtain ⟨last, hgetLast, hoccurred⟩ := Option.map_eq_some_iff.mp hlast
  obtain ⟨before, hevents⟩ := List.getLast?_eq_some_iff.mp hgetLast
  rw [hevents] at hfold
  have hresult := h hcreate SecondAttempt.planned hevents hfold
  rw [hupdated, hoccurred] at hresult
  exact absurd hresult (by decide +kernel)

/-- The condition at the second attempt, whose row shows another time. -/
theorem runUpdatedAt_iff_secondAttempt :
    ∃ before last record, SecondAttempt.events = before ++ [last] ∧
      foldAutomationRun defaultTenantId (before ++ [last]) = some record ∧
      ((automationRunSnapshot record).updatedAt = last.occurredAt ↔ ¬Hidden before last) := by
  have hcreate : AutomationRunPlanner.create InvoiceSync.options = .ok InvoiceSync.planner := by rfl
  exact runUpdatedAt_iff hcreate SecondAttempt.planned SecondAttempt.actions
