import CfFrappe.Application.AutomationLoops
import CfFrappe.Application.AutomationRunConsumer

set_option autoImplicit false

/-! # How often a run is tried

A worker that fails gives the run up when it has been claimed often enough. Nothing else looks at the number of
claims: a claim whose lease has expired is granted again however often the run was claimed, and a worker whose
claim id is used again may fail the run with the number of its own claim. Without these two (`permitted`), a run
is claimed as often as its retry policy says and no more (`attempts_bounded`).
-/

open Utf

namespace RunSystem

/-- A step that keeps to the retry policy: nobody asks for a run whose claim has expired when there have been enough,
and a worker does not fail for retry a run that others have claimed under its claim id until there were enough. -/
def permitted (tenantId : TenantId) (s : RunSystem) : ConsumerAction → Bool
  | .claim _ _ now _ _ =>
    (foldAutomationRun tenantId s.events).all (fun record =>
      !(automationRunClaimExpired record now && automationRunShouldDeadLetter record))
  | .deliver .. => true
  | .fail _ worker _ _ _ =>
    (foldAutomationRun tenantId s.events).all (fun record => s.claims[worker]?.all (fun given =>
      !(record.claimId == given.claimId && automationRunShouldDeadLetter record &&
        !automationRunShouldDeadLetter given)))

section

variable (addSeconds : Timestamp → Nat → Option Timestamp) (localeCompare : JsString → JsString → Ordering)
variable (tenantId : TenantId) (runId : JsString)

/-- Every step of a run is permitted. -/
def permittedRun : RunSystem → List ConsumerAction → Bool
  | _, [] => true
  | s, action :: actions =>
    permitted tenantId s action && permittedRun (step addSeconds localeCompare tenantId runId s action) actions

end

/-- What the claims of a run leave of its attempts. -/
structure Bounded (retry : AutomationRunRetryPolicy) (record : AutomationRunRecord) : Prop where
  policy : record.retry = retry
  attempts : record.attempts ≤ retry.maxAttempts
  pending : record.status = .pending → record.attempts = 0
  failed : record.status = .failed → record.attempts < retry.maxAttempts

def Ended (record : AutomationRunRecord) : Prop := record.status = .delivered ∨ record.status = .dead

/-- What one step makes of a record: nothing, the end, or a next attempt that is allowed. -/
inductive Advanced (retry : AutomationRunRetryPolicy) (existing next : AutomationRunRecord) : Prop
  | same (h : next = existing)
  | ended (hbefore : ¬Ended existing) (h : Ended next)
  | tried (hbefore : ¬Ended existing) (h : existing.attempts < retry.maxAttempts)

section

variable {addSeconds : Timestamp → Nat → Option Timestamp} {localeCompare : JsString → JsString → Ordering}
variable {tenantId : TenantId} {runId : JsString} {stream : StreamName} {retry : AutomationRunRetryPolicy}

theorem not_ended_of_claimed {record : AutomationRunRecord} (h : record.status = .claimed) : ¬Ended record := by
  unfold Ended
  rw [h]
  simp

/-- A run that can be claimed in a permitted step has attempts left. -/
theorem Bounded.attempts_lt {existing : AutomationRunRecord} (h : Bounded retry existing) (hmax : 0 < retry.maxAttempts)
    {now : Timestamp} (hclaimable : isClaimableAutomationRun existing now = true)
    (hpermitted : (automationRunClaimExpired existing now && automationRunShouldDeadLetter existing) = false) :
    existing.attempts < retry.maxAttempts := by
  unfold isClaimableAutomationRun at hclaimable
  simp only [Bool.or_eq_true, Bool.and_eq_true, beq_iff_eq] at hclaimable
  rcases hclaimable with (hpending | ⟨hfailed, _⟩) | hexpired
  · rw [h.pending hpending]
    exact hmax
  · exact h.failed hfailed
  · rw [hexpired, Bool.true_and] at hpermitted
    unfold automationRunShouldDeadLetter at hpermitted
    rw [h.policy, decide_eq_false_iff_not] at hpermitted
    omega

theorem not_ended_of_claimable {existing : AutomationRunRecord} {now : Timestamp}
    (h : isClaimableAutomationRun existing now = true) : ¬Ended existing := by
  unfold isClaimableAutomationRun automationRunClaimExpired at h
  simp only [Bool.or_eq_true, Bool.and_eq_true, beq_iff_eq] at h
  rintro (hdelivered | hdead)
  · rw [hdelivered] at h
    simp at h
  · rw [hdead] at h
    simp at h

/-- The record after one more event. -/
theorem fold_concat {events : List DomainEvent} {planned : NewDomainEvent} {payload : AutomationRunEventPayload}
    (h : AutomationRunStream tenantId runId stream (events ++ [planned.withSequence (events.length + 1)]))
    {existing : AutomationRunRecord} (hfold : foldAutomationRun tenantId events = some existing)
    (hpayload : planned.payload = .automationRun payload) (hne : ∀ source, payload ≠ .enqueued source) :
    foldAutomationRun tenantId (events ++ [planned.withSequence (events.length + 1)]) =
      some (applyAutomationRunEvent existing (planned.withSequence (events.length + 1)) payload) := by
  rw [foldAutomationRun_concat h.sequenced, hfold]
  unfold foldAutomationRunEvent
  have hpayload' : (planned.withSequence (events.length + 1)).payload = .automationRun payload := hpayload
  rw [hpayload']
  cases payload with
  | enqueued source => exact absurd rfl (hne source)
  | _ => rfl

variable (addSeconds) (localeCompare)

/-- **One permitted step**, with a case for every event that it may add. -/
theorem step_bounded {s : RunSystem} (h : Tracked tenantId runId stream s)
    (hstream : automationRunStream tenantId runId = some stream) (hmax : 0 < retry.maxAttempts)
    {existing : AutomationRunRecord} (hfold : foldAutomationRun tenantId s.events = some existing)
    (hbounded : Bounded retry existing) {action : ConsumerAction} (hpermitted : permitted tenantId s action = true) :
    ∃ next, foldAutomationRun tenantId (step addSeconds localeCompare tenantId runId s action).events = some next ∧
      Bounded retry next ∧ Advanced retry existing next := by
  have hnext := h.step_stream addSeconds localeCompare hstream action
  rcases step_cases addSeconds localeCompare h.stream action with
    hsame | ⟨found, planned, hfound, hchange, hadded⟩
  · rw [hsame]
    exact ⟨existing, hfold, hbounded, .same rfl⟩
  · rw [hfold, Option.some.injEq] at hfound
    subst hfound
    rw [hadded] at hnext ⊢
    have hattempts := hbounded.attempts
    cases hchange with
    | claimed hclaimable hevent =>
      change (foldAutomationRun tenantId s.events).all _ = true at hpermitted
      rw [hfold, Option.all_some, Bool.not_eq_true'] at hpermitted
      have hlt := hbounded.attempts_lt hmax hclaimable hpermitted
      refine ⟨_, fold_concat hnext hfold hevent.payload (by simp), ?_, .tried (not_ended_of_claimable hclaimable) hlt⟩
      constructor
      · exact hbounded.policy
      · show existing.attempts + 1 ≤ retry.maxAttempts
        omega
      · intro hstatus
        cases hstatus
      · intro hstatus
        cases hstatus
    | delivered hworker hstatus hclaim hevent =>
      refine ⟨_, fold_concat hnext hfold hevent.payload (by simp), ?_,
        .ended (not_ended_of_claimed hstatus) (Or.inl rfl)⟩
      constructor
      · exact hbounded.policy
      · exact hattempts
      · intro hstatus
        cases hstatus
      · intro hstatus
        cases hstatus
    | @failed read worker now message error retryAt stamp record claimId _ hworker hrecord hretry hstatus hclaim hevent =>
      -- the worker would have given up had it known the number of claims
      change (foldAutomationRun tenantId s.events).all _ = true at hpermitted
      rw [hfold, Option.all_some, hworker, Option.all_some, hclaim, hrecord, hretry] at hpermitted
      have hlt : existing.attempts < retry.maxAttempts := by
        have hshould : automationRunShouldDeadLetter existing = false := by simpa using hpermitted
        unfold automationRunShouldDeadLetter at hshould
        rw [hbounded.policy, decide_eq_false_iff_not] at hshould
        omega
      refine ⟨_, fold_concat hnext hfold hevent.payload (by simp), ?_, .tried (not_ended_of_claimed hstatus) hlt⟩
      constructor
      · exact hbounded.policy
      · exact hattempts
      · intro hstatus
        cases hstatus
      · intro _
        exact hlt
    | deadLettered hworker hdead hstatus hclaim hevent =>
      refine ⟨_, fold_concat hnext hfold hevent.payload (by simp), ?_,
        .ended (not_ended_of_claimed hstatus) (Or.inr rfl)⟩
      constructor
      · exact hbounded.policy
      · exact hattempts
      · intro hstatus
        cases hstatus
      · intro hstatus
        cases hstatus

/-- **A run of permitted steps.** A record that has ended stays; one with no attempts left stays or ends. -/
theorem run_bounded {actions : List ConsumerAction} {s : RunSystem} (h : Tracked tenantId runId stream s)
    (hstream : automationRunStream tenantId runId = some stream) (hmax : 0 < retry.maxAttempts)
    {existing : AutomationRunRecord} (hfold : foldAutomationRun tenantId s.events = some existing)
    (hbounded : Bounded retry existing)
    (hpermitted : permittedRun addSeconds localeCompare tenantId runId s actions = true) :
    ∃ later, foldAutomationRun tenantId (run addSeconds localeCompare tenantId runId s actions).events = some later ∧
      Bounded retry later ∧ (Ended existing → later = existing) ∧
      (existing.attempts = retry.maxAttempts → later = existing ∨ Ended later) := by
  induction actions generalizing s existing with
  | nil => exact ⟨existing, hfold, hbounded, fun _ => rfl, fun _ => Or.inl rfl⟩
  | cons action actions ih =>
    unfold permittedRun at hpermitted
    rw [Bool.and_eq_true] at hpermitted
    obtain ⟨next, hnext, hnextBounded, hadvanced⟩ := step_bounded addSeconds localeCompare h hstream
      hmax hfold hbounded hpermitted.1
    obtain ⟨later, hlater, hlaterBounded, hstays, hends⟩ :=
      ih (h.step addSeconds localeCompare hstream action) hnext hnextBounded hpermitted.2
    refine ⟨later, hlater, hlaterBounded, ?_⟩
    cases hadvanced with
    | same hsame =>
      rw [hsame] at hstays hends
      exact ⟨hstays, hends⟩
    | ended hbefore hended =>
      rw [hstays hended]
      exact ⟨fun hend => absurd hend hbefore, fun _ => Or.inr hended⟩
    | tried hbefore hlt => exact ⟨fun hend => absurd hend hbefore, fun hfull => by omega⟩

theorem permittedRun_append {before after : List ConsumerAction} {s : RunSystem} :
    permittedRun addSeconds localeCompare tenantId runId s (before ++ after) =
      (permittedRun addSeconds localeCompare tenantId runId s before &&
        permittedRun addSeconds localeCompare tenantId runId (run addSeconds localeCompare tenantId runId s before)
          after) := by
  induction before generalizing s with
  | nil => rfl
  | cons action before ih =>
    show (permitted tenantId s action && permittedRun addSeconds localeCompare tenantId runId _ (before ++ after)) =
      (permitted tenantId s action && permittedRun addSeconds localeCompare tenantId runId _ before && _)
    rw [ih, Bool.and_assoc]
    rfl

end

end RunSystem

/-- **Attempts are bounded in every permitted run**: after any of its steps there are as many claims as the retry
policy allows or fewer, and when there are as many, the run has been delivered or given up once its record changes
again. -/
theorem attempts_bounded {addSeconds : Timestamp → Nat → Option Timestamp} {localeCompare : JsString → JsString → Ordering}
    {options : AutomationRunPlannerOptions} {planner : AutomationRunPlanner}
    {command : PlanAutomationRunsFromDomainEventCommand} {nextId : Nat → JsString} {action : PlannedAutomationAction}
    {entry : DocumentCommitBatchEntry} (hcreate : AutomationRunPlanner.create options = .ok planner)
    (hplanned : AutomationRunPlanner.Planned planner command nextId action entry) {before after : List ConsumerAction}
    (hpermitted : RunSystem.permittedRun addSeconds localeCompare command.event.tenantId action.runId
      (RunSystem.start entry) (before ++ after) = true) :
    ∃ earlier later,
      foldAutomationRun command.event.tenantId
        (RunSystem.run addSeconds localeCompare command.event.tenantId action.runId (RunSystem.start entry) before).events =
          some earlier ∧
      foldAutomationRun command.event.tenantId
        (RunSystem.run addSeconds localeCompare command.event.tenantId action.runId (RunSystem.start entry)
          (before ++ after)).events = some later ∧
      earlier.retry = planner.retry ∧ earlier.attempts ≤ planner.retry.maxAttempts ∧
      (earlier.attempts = planner.retry.maxAttempts →
        later = earlier ∨ later.status = .delivered ∨ later.status = .dead) := by
  have hretry := AutomationRunPlanner.create_retry hcreate
  have hmax := normalizeAutomationRunRetryPolicy_pos hretry
  obtain ⟨htracked, record, hfold, hpolicy, hnone, hstatus⟩ :=
    hplanned.start_tracked (normalizeAutomationRunRetryPolicy_safe hretry)
  have hbounded : RunSystem.Bounded planner.retry record := by
    refine ⟨hpolicy, by omega, fun _ => hnone, ?_⟩
    intro hfailed
    rw [hfailed] at hstatus
    simp at hstatus
  rw [RunSystem.permittedRun_append, Bool.and_eq_true] at hpermitted
  obtain ⟨earlier, hearlier, hearlierBounded, _⟩ :=
    RunSystem.run_bounded addSeconds localeCompare htracked hplanned.stream hmax hfold hbounded hpermitted.1
  have htracked' := htracked.run addSeconds localeCompare hplanned.stream before
  obtain ⟨later, hlater, _, _, hends⟩ :=
    RunSystem.run_bounded addSeconds localeCompare htracked' hplanned.stream hmax hearlier hearlierBounded hpermitted.2
  refine ⟨earlier, later, hearlier, ?_, hearlierBounded.policy, hearlierBounded.attempts, hends⟩
  unfold RunSystem.run
  rw [List.foldl_append]
  exact hlater

/-! ## A crash at the last attempt

The planner allows one attempt. A worker claims the run and crashes, and ten minutes later another worker claims
it again. -/

namespace LastAttempt

def options : AutomationRunPlannerOptions := { retry := { maxAttempts := some 1 } }

def planner : AutomationRunPlanner :=
  { retry := { maxAttempts := 1, baseDelaySeconds := 30, maxDelaySeconds := 1800 }, maxDepth := 8, maxPathRepeats := 1 }

def command : PlanAutomationRunsFromDomainEventCommand := InvoiceSync.command InvoiceSync.orderUpdated

def action : PlannedAutomationAction := InvoiceSync.orderAction

def entry : DocumentCommitBatchEntry :=
  { stream := InvoiceSync.runStream action.runId, expectedVersion := 0
    events := planner.groupEvents command InvoiceSync.nextId 0 (InvoiceSync.runStream action.runId) action }

def firstTime : Timestamp := js "2024-01-01T00:00:00.000Z"

def secondTime : Timestamp := js "2024-01-01T00:10:00.000Z"

/-- Five minutes later. -/
def addSeconds (now : Timestamp) (seconds : Nat) : Option Timestamp :=
  if now = firstTime ∧ seconds = 300 then some (js "2024-01-01T00:05:00.000Z")
  else if now = secondTime ∧ seconds = 300 then some (js "2024-01-01T00:15:00.000Z")
  else none

def firstClaim : ConsumerAction := .claim 1 (js "claim_1") firstTime 300 (js "evt_21")

def secondClaim : ConsumerAction := .claim 2 (js "claim_2") secondTime 300 (js "evt_22")

def delivery : ConsumerAction := .deliver 2 0 { id := js "evt_22", now := js "2024-01-01T00:00:01.000Z" }

theorem planned : AutomationRunPlanner.Planned planner command InvoiceSync.nextId action entry where
  stream := by decide +kernel
  expectedVersion := rfl
  events := ⟨0, rfl⟩

end LastAttempt

/-- **Two attempts where one is allowed.** -/
theorem not_attempts_bounded :
    ¬ ∀ {addSeconds : Timestamp → Nat → Option Timestamp} {localeCompare : JsString → JsString → Ordering}
        {options : AutomationRunPlannerOptions} {planner : AutomationRunPlanner}
        {command : PlanAutomationRunsFromDomainEventCommand} {nextId : Nat → JsString} {action : PlannedAutomationAction}
        {entry : DocumentCommitBatchEntry} {record : AutomationRunRecord},
      AutomationRunPlanner.create options = .ok planner →
      AutomationRunPlanner.Planned planner command nextId action entry →
      ∀ actions, foldAutomationRun command.event.tenantId
        (RunSystem.run addSeconds localeCompare command.event.tenantId action.runId (RunSystem.start entry) actions).events =
          some record →
        record.attempts ≤ planner.retry.maxAttempts := by
  intro h
  have hcreate : AutomationRunPlanner.create LastAttempt.options = .ok LastAttempt.planner := by rfl
  have htwice : (foldAutomationRun defaultTenantId (RunSystem.run LastAttempt.addSeconds compareCodeUnits defaultTenantId
      LastAttempt.action.runId (RunSystem.start LastAttempt.entry)
      [LastAttempt.firstClaim, LastAttempt.secondClaim]).events).map (·.attempts) = some 2 := by
    decide +kernel
  obtain ⟨record, hfold, hattempts⟩ := Option.map_eq_some_iff.mp htwice
  have hle := h hcreate LastAttempt.planned [LastAttempt.firstClaim, LastAttempt.secondClaim] hfold
  rw [hattempts] at hle
  exact absurd hle (by decide)

/-- Without the crash: the only attempt is delivered. -/
theorem attempts_bounded_delivered :
    ∃ earlier later,
      foldAutomationRun defaultTenantId
        (RunSystem.run LastAttempt.addSeconds compareCodeUnits defaultTenantId LastAttempt.action.runId
          (RunSystem.start LastAttempt.entry) [LastAttempt.firstClaim]).events = some earlier ∧
      foldAutomationRun defaultTenantId
        (RunSystem.run LastAttempt.addSeconds compareCodeUnits defaultTenantId LastAttempt.action.runId
          (RunSystem.start LastAttempt.entry) [LastAttempt.firstClaim, LastAttempt.delivery]).events = some later ∧
      earlier.retry = LastAttempt.planner.retry ∧ earlier.attempts ≤ 1 ∧
      (earlier.attempts = 1 → later = earlier ∨ later.status = .delivered ∨ later.status = .dead) := by
  have hcreate : AutomationRunPlanner.create LastAttempt.options = .ok LastAttempt.planner := by rfl
  have hpermitted : RunSystem.permittedRun LastAttempt.addSeconds compareCodeUnits defaultTenantId
      LastAttempt.action.runId (RunSystem.start LastAttempt.entry)
      ([LastAttempt.firstClaim] ++ [LastAttempt.delivery]) = true := by
    decide +kernel
  exact attempts_bounded hcreate LastAttempt.planned hpermitted
