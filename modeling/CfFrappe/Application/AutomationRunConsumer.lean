import CfFrappe.Application.AutomationRunPlanner

set_option autoImplicit false

/-! # Consumers of automation runs

Workers claim a run, deliver it or fail it, and each of these is one event on the stream of the run
(`appendRunEvent`): planned from the record that the events read fold to, and committed only if the stream is
still where it was read. `RunSystem` is the stream with what the workers were given when they claimed the run;
`step` is one attempt of one worker, planned from any earlier read. A worker that crashes takes no more steps.
-/

open Utf

def requireAutomationRunRecord (record : Option AutomationRunRecord) (runId : JsString) :
    Except FrameworkError AutomationRunRecord :=
  match record with
  | some record => .ok record
  | none => .error (automationRunNotFound (js "Automation run '" ++ runId ++ js "' was not found"))

/-! ## Plans -/

/-- What a plan of `appendRunEvent` asks for. -/
inductive RunEventPlan
  | append (planned : NewDomainEvent)
  | keep (record : Option AutomationRunRecord)

structure ClaimAutomationRunCommand where
  runId : JsString
  claimId : JsString
  now : Timestamp
  leaseSeconds : Nat

structure CompleteAutomationRunCommand where
  runId : JsString
  claimId : JsString
  metadata : DocumentData

structure FailAutomationRunCommand where
  runId : JsString
  claimId : JsString
  error : JsString
  retryAt : Option Timestamp := none
  metadata : DocumentData

/-- The id of an event that is planned, and the time of the clock. -/
structure EventStamp where
  id : JsString
  now : Timestamp

def newRunEvent (stamp : EventStamp) (record : AutomationRunRecord) (payload : AutomationRunEventPayload)
    (metadata : DocumentData) : Except FrameworkError NewDomainEvent := do
  let stream ← requireStream (automationRunStream record.tenantId record.runId)
  return automationRunEvent stamp.id record.tenantId stream (js "system") stamp.now payload metadata

section

variable (addSeconds : Timestamp → Nat → Option Timestamp) (localeCompare : JsString → JsString → Ordering)

def planClaim (command : ClaimAutomationRunCommand) (eventId : JsString) (record : Option AutomationRunRecord) :
    Except FrameworkError RunEventPlan := do
  let existing ← requireAutomationRunRecord record command.runId
  if (claimableAutomationRuns localeCompare [existing] command.now 1).any (fun item => item.runId == existing.runId) then
    let claimExpiresAt ← laterTimestamp addSeconds command.now command.leaseSeconds
    let claimed ← newRunEvent { id := eventId, now := command.now } existing
      (.claimed command.runId command.claimId claimExpiresAt) []
    return .append claimed
  else
    return .keep none

def planDelivered (command : CompleteAutomationRunCommand) (stamp : EventStamp) (record : Option AutomationRunRecord) :
    Except FrameworkError RunEventPlan := do
  let existing ← requireAutomationRunRecord record command.runId
  if existing.status = .delivered then
    return .keep (some existing)
  else
    ensureAutomationRunClaimed existing command.claimId
    let delivered ← newRunEvent stamp existing (.delivered command.runId command.claimId) command.metadata
    return .append delivered

/-- `command.retryAt ?? automationRunRetryAt(...)`. -/
def requestedRetryAt (command : FailAutomationRunCommand) (stamp : EventStamp) (existing : AutomationRunRecord) :
    Except FrameworkError Timestamp :=
  match command.retryAt with
  | some retryAt => .ok retryAt
  | none => automationRunRetryAt addSeconds stamp.now existing.retry existing.attempts

def planFailed (command : FailAutomationRunCommand) (stamp : EventStamp) (record : Option AutomationRunRecord) :
    Except FrameworkError RunEventPlan := do
  let normalizedError ← automationRunFailureError command.error
  let existing ← requireAutomationRunRecord record command.runId
  ensureAutomationRunClaimed existing command.claimId
  let retryAt ← requestedRetryAt addSeconds command stamp existing
  let failed ← newRunEvent stamp existing (.failed command.runId command.claimId normalizedError retryAt) command.metadata
  return .append failed

def planDeadLettered (command : FailAutomationRunCommand) (stamp : EventStamp)
    (record : Option AutomationRunRecord) : Except FrameworkError RunEventPlan := do
  let normalizedError ← automationRunFailureError command.error
  let existing ← requireAutomationRunRecord record command.runId
  if existing.status = .dead then
    return .keep (some existing)
  else
    ensureAutomationRunClaimed existing command.claimId
    let dead ← newRunEvent stamp existing (.deadLettered command.runId command.claimId normalizedError) command.metadata
    return .append dead

end

/-- One attempt of `appendRunEvent`: its plan is made from the events that were read, and its event is committed
to the events that are there. The second attempt after a conflict is an attempt that has read again. -/
def appendRunEvent (tenantId : TenantId) (runId : JsString)
    (plan : Option AutomationRunRecord → Except FrameworkError RunEventPlan) (allowMissingResult : Bool)
    (read events : List DomainEvent) : Except FrameworkError (Option AutomationRunRecord) × List DomainEvent :=
  let record := foldAutomationRun tenantId read
  let expectedVersion := (record.map (·.version)).getD 0
  match plan record with
  | .error error => (.error error, events)
  | .ok (.keep (some kept)) => (.ok (some kept), events)
  | .ok (.keep none) =>
    (if allowMissingResult then .ok none else (requireAutomationRunRecord record runId).map some, events)
  | .ok (.append planned) =>
    if events.length = expectedVersion then
      let saved := planned.withSequence (events.length + 1)
      match foldAutomationRun tenantId (read ++ [saved]) with
      | none => (.error (.ofError (js "Automation run event did not fold into a run record")), events)
      | some updated =>
        ((automationRunRecordFromSnapshot (automationRunSnapshot updated)).map some, events ++ [saved])
    else
      (.error (.conflict (js "Expected stream '" ++ planned.stream ++ js "' at version " ++
        Json.natToString expectedVersion ++ js ", found " ++ Json.natToString events.length)), events)

/-! ## Workers -/

def automationRunRecordClaimId (record : AutomationRunRecord) : Except FrameworkError JsString :=
  match record.claimId with
  | some claimId =>
    if isRequiredString claimId then .ok claimId
    else .error (.ofBadRequest (js "Automation run '" ++ record.runId ++ js "' is not claimed"))
  | none => .error (.ofBadRequest (js "Automation run '" ++ record.runId ++ js "' is not claimed"))

/-- The metadata of the events that a worker adds. -/
def outcomeMetadata (record : AutomationRunRecord) : DocumentData :=
  [(js "sourceEventId", .str record.sourceEventId), (js "causationId", .str record.runId),
   (js "correlationId", .str record.correlationId), (js "automationDepth", .num record.automationDepth),
   (js "automationPath", Json.strings record.automationPath), (js "automationRuleId", .str record.ruleId),
   (js "automationRuleName", .str record.ruleName), (js "automationActionDefinitionId", .str record.actionId),
   (js "automationActionId", .str record.runId)]

/-- The last step of `deliver`. -/
def AutomationRunConsumer.deliver (record : AutomationRunRecord) (stamp : EventStamp) (found : Option AutomationRunRecord) :
    Except FrameworkError RunEventPlan := do
  let claimId ← automationRunRecordClaimId record
  planDelivered { runId := record.runId, claimId, metadata := outcomeMetadata record } stamp found

/-- `fail`: the record is the one that the worker was given; `now` is the time of the drain. -/
def AutomationRunConsumer.fail (addSeconds : Timestamp → Nat → Option Timestamp) (record : AutomationRunRecord) (now : Timestamp)
    (error : JsString) (stamp : EventStamp) (found : Option AutomationRunRecord) : Except FrameworkError RunEventPlan := do
  let claimId ← automationRunRecordClaimId record
  if automationRunShouldDeadLetter record then
    planDeadLettered { runId := record.runId, claimId, error, metadata := outcomeMetadata record } stamp found
  else
    let retryAt ← automationRunRetryAt addSeconds now record.retry record.attempts
    planFailed addSeconds
      { runId := record.runId, claimId, error, retryAt := some retryAt, metadata := outcomeMetadata record } stamp found

/-! ## The system -/

/-- What a claim gives to a worker. -/
def granted : Except FrameworkError (Option AutomationRunRecord) → List AutomationRunRecord
  | .ok (some record) => [record]
  | _ => []

/-- The stream of a run, and the records that workers were given for it. -/
structure RunSystem where
  events : List DomainEvent
  claims : List AutomationRunRecord

/-- An attempt of a worker: how many events it has read, and what it does. -/
inductive ConsumerAction
  | claim (read : Nat) (claimId : JsString) (now : Timestamp) (leaseSeconds : Nat) (eventId : JsString)
  | deliver (read worker : Nat) (stamp : EventStamp)
  | fail (read worker : Nat) (now : Timestamp) (error : JsString) (stamp : EventStamp)

namespace RunSystem

/-- The stream as a plan starts it. -/
def start (entry : DocumentCommitBatchEntry) : RunSystem :=
  { events := sequenceEvents entry.expectedVersion entry.events, claims := [] }

section

variable (addSeconds : Timestamp → Nat → Option Timestamp) (localeCompare : JsString → JsString → Ordering)
variable (tenantId : TenantId) (runId : JsString)

/-- An attempt of a worker with the record that it was given. -/
def work (s : RunSystem) (read worker : Nat)
    (plan : AutomationRunRecord → Option AutomationRunRecord → Except FrameworkError RunEventPlan) : RunSystem :=
  match s.claims[worker]? with
  | none => s
  | some record =>
    { s with events := (appendRunEvent tenantId runId (plan record) false (s.events.take read) s.events).2 }

def step (s : RunSystem) : ConsumerAction → RunSystem
  | .claim read claimId now leaseSeconds eventId =>
    let result := appendRunEvent tenantId runId
      (planClaim addSeconds localeCompare { runId, claimId, now, leaseSeconds } eventId) true (s.events.take read)
      s.events
    { events := result.2, claims := s.claims ++ granted result.1 }
  | .deliver read worker stamp =>
    s.work tenantId runId read worker (fun record => AutomationRunConsumer.deliver record stamp)
  | .fail read worker now error stamp =>
    s.work tenantId runId read worker (fun record => AutomationRunConsumer.fail addSeconds record now error stamp)

def run (s : RunSystem) (actions : List ConsumerAction) : RunSystem :=
  actions.foldl (step addSeconds localeCompare tenantId runId) s

end

end RunSystem

/-! ## What a step does -/

variable {s : RunSystem} {planned : NewDomainEvent} {existing : AutomationRunRecord}
variable {record : Option AutomationRunRecord} {stamp : EventStamp} {events : List DomainEvent}

section

variable {addSeconds : Timestamp → Nat → Option Timestamp} {localeCompare : JsString → JsString → Ordering}
variable {tenantId : TenantId} {runId : JsString} {stream : StreamName}

theorem any_claimable {now : Timestamp}
    (h : (claimableAutomationRuns localeCompare [existing] now 1).any (fun item => item.runId == existing.runId) = true) :
    isClaimableAutomationRun existing now = true := by
  by_contra hnot
  have hnone : claimableAutomationRuns localeCompare [existing] now 1 = [] := by
    unfold claimableAutomationRuns
    have hfilter : [existing].filter (fun record => isClaimableAutomationRun record now) = [] := by
      simp [hnot]
    rw [hfilter]
    rfl
  rw [hnone] at h
  cases h

/-- What `newRunEvent` makes of a payload. -/
structure RunEventOf (existing : AutomationRunRecord) (payload : AutomationRunEventPayload) (now : Timestamp)
    (planned : NewDomainEvent) : Prop where
  stream : automationRunStream existing.tenantId existing.runId = some planned.stream
  tenantId : planned.tenantId = existing.tenantId
  doctype : planned.doctype = automationRunsDoctype
  documentName : planned.documentName = payload.runId
  occurredAt : planned.occurredAt = now
  payload : planned.payload = .automationRun payload

theorem newRunEvent_ok {payload : AutomationRunEventPayload} {metadata : DocumentData}
    (h : newRunEvent stamp existing payload metadata = .ok planned) :
    RunEventOf existing payload stamp.now planned := by
  obtain ⟨stream, hstream, h⟩ := except_bind_eq_ok h
  cases h
  exact ⟨requireStream_ok hstream, rfl, rfl, rfl, rfl, rfl⟩

theorem requireAutomationRunRecord_ok (h : requireAutomationRunRecord record runId = .ok existing) :
    record = some existing := by
  cases record with
  | none => cases h
  | some found =>
    cases h
    rfl

theorem ensureAutomationRunClaimed_ok {claimId : JsString} {u : Unit}
    (h : ensureAutomationRunClaimed existing claimId = .ok u) :
    existing.status = .claimed ∧ existing.claimId = some claimId := by
  have hclaimed := ensure_eq_ok h
  rw [Bool.and_eq_true, beq_iff_eq, beq_iff_eq] at hclaimed
  exact hclaimed

theorem automationRunRecordClaimId_ok {record : AutomationRunRecord} {claimId : JsString}
    (h : automationRunRecordClaimId record = .ok claimId) : record.claimId = some claimId := by
  unfold automationRunRecordClaimId at h
  split at h
  · rename_i found hfound
    split_ifs at h
    cases h
    exact hfound
  · cases h

/-- A claim is planned for a run that can be claimed. -/
theorem planClaim_append {command : ClaimAutomationRunCommand} {eventId : JsString}
    (h : planClaim addSeconds localeCompare command eventId record = .ok (.append planned)) :
    ∃ existing claimExpiresAt, record = some existing ∧ isClaimableAutomationRun existing command.now = true ∧
      RunEventOf existing (.claimed command.runId command.claimId claimExpiresAt) command.now planned := by
  obtain ⟨existing, hexisting, h⟩ := except_bind_eq_ok h
  split_ifs at h with hclaimable
  · obtain ⟨claimExpiresAt, _, h⟩ := except_bind_eq_ok h
    obtain ⟨event, hevent, h⟩ := except_bind_eq_ok h
    cases h
    exact ⟨existing, claimExpiresAt, requireAutomationRunRecord_ok hexisting, any_claimable hclaimable,
      newRunEvent_ok hevent⟩
  · cases h

theorem planDelivered_append {command : CompleteAutomationRunCommand}
    (h : planDelivered command stamp record = .ok (.append planned)) :
    ∃ existing, record = some existing ∧ (existing.status = .claimed ∧ existing.claimId = some command.claimId) ∧
      RunEventOf existing (.delivered command.runId command.claimId) stamp.now planned := by
  obtain ⟨existing, hexisting, h⟩ := except_bind_eq_ok h
  split_ifs at h with hdelivered
  · cases h
  · obtain ⟨_, hclaimed, h⟩ := except_bind_eq_ok h
    obtain ⟨event, hevent, h⟩ := except_bind_eq_ok h
    cases h
    exact ⟨existing, requireAutomationRunRecord_ok hexisting, ensureAutomationRunClaimed_ok hclaimed,
      newRunEvent_ok hevent⟩

theorem planFailed_append {command : FailAutomationRunCommand}
    (h : planFailed addSeconds command stamp record = .ok (.append planned)) :
    ∃ existing error retryAt, record = some existing ∧
      (existing.status = .claimed ∧ existing.claimId = some command.claimId) ∧
      RunEventOf existing (.failed command.runId command.claimId error retryAt) stamp.now planned := by
  obtain ⟨error, _, h⟩ := except_bind_eq_ok h
  obtain ⟨existing, hexisting, h⟩ := except_bind_eq_ok h
  obtain ⟨_, hclaimed, h⟩ := except_bind_eq_ok h
  obtain ⟨retryAt, _, h⟩ := except_bind_eq_ok h
  obtain ⟨event, hevent, h⟩ := except_bind_eq_ok h
  cases h
  exact ⟨existing, error, retryAt, requireAutomationRunRecord_ok hexisting, ensureAutomationRunClaimed_ok hclaimed,
    newRunEvent_ok hevent⟩

theorem planDeadLettered_append {command : FailAutomationRunCommand}
    (h : planDeadLettered command stamp record = .ok (.append planned)) :
    ∃ existing error, record = some existing ∧
      (existing.status = .claimed ∧ existing.claimId = some command.claimId) ∧
      RunEventOf existing (.deadLettered command.runId command.claimId error) stamp.now planned := by
  obtain ⟨error, _, h⟩ := except_bind_eq_ok h
  obtain ⟨existing, hexisting, h⟩ := except_bind_eq_ok h
  split_ifs at h with hdead
  · cases h
  · obtain ⟨_, hclaimed, h⟩ := except_bind_eq_ok h
    obtain ⟨event, hevent, h⟩ := except_bind_eq_ok h
    cases h
    exact ⟨existing, error, requireAutomationRunRecord_ok hexisting, ensureAutomationRunClaimed_ok hclaimed,
      newRunEvent_ok hevent⟩

/-- **An attempt changes nothing, or commits what is planned for the record of the whole stream**: an event that
was planned from an earlier read is refused. -/
theorem appendRunEvent_cases (h : AutomationRunStream tenantId runId stream events)
    (plan : Option AutomationRunRecord → Except FrameworkError RunEventPlan) (allowMissingResult : Bool) (read : Nat) :
    (∃ reply, appendRunEvent tenantId runId plan allowMissingResult (events.take read) events = (reply, events) ∧
        (allowMissingResult = true → (∀ found kept, plan found ≠ .ok (.keep (some kept))) → granted reply = [])) ∨
      ∃ planned updated, plan (foldAutomationRun tenantId events) = .ok (.append planned) ∧
        foldAutomationRun tenantId (events ++ [planned.withSequence (events.length + 1)]) = some updated ∧
        appendRunEvent tenantId runId plan allowMissingResult (events.take read) events =
          ((automationRunRecordFromSnapshot (automationRunSnapshot updated)).map some,
            events ++ [planned.withSequence (events.length + 1)]) := by
  have hread : AutomationRunStream tenantId runId stream (events.take read) := by
    apply AutomationRunStream.left (b := events.drop read)
    rwa [List.take_append_drop]
  have hlength := hread.length_eq
  unfold appendRunEvent
  dsimp only
  split
  · exact Or.inl ⟨_, rfl, fun _ _ => rfl⟩
  · rename_i hkept
    exact Or.inl ⟨_, rfl, fun _ hkeep => absurd hkept (hkeep _ _)⟩
  · refine Or.inl ⟨_, rfl, fun hallow _ => ?_⟩
    rw [hallow]
    rfl
  · rename_i planned hplanned
    split_ifs with hversion
    · -- the read is the whole stream
      have hall : events.take read = events := by
        apply (List.take_prefix read events).eq_of_length
        omega
      rw [hall] at hplanned ⊢
      split
      · exact Or.inl ⟨_, rfl, fun _ _ => rfl⟩
      · rename_i updated hupdated
        exact Or.inr ⟨planned, updated, hplanned, hupdated, rfl⟩
    · exact Or.inl ⟨_, rfl, fun _ _ => rfl⟩

theorem appendRunEvent_snd (h : AutomationRunStream tenantId runId stream events)
    (plan : Option AutomationRunRecord → Except FrameworkError RunEventPlan) (allowMissingResult : Bool) (read : Nat) :
    (appendRunEvent tenantId runId plan allowMissingResult (events.take read) events).2 = events ∨
      ∃ planned, plan (foldAutomationRun tenantId events) = .ok (.append planned) ∧
        (appendRunEvent tenantId runId plan allowMissingResult (events.take read) events).2 =
          events ++ [planned.withSequence (events.length + 1)] := by
  rcases appendRunEvent_cases h plan allowMissingResult read with ⟨reply, heq, _⟩ | ⟨planned, updated, hplan, _, heq⟩
  · exact Or.inl (by rw [heq])
  · exact Or.inr ⟨planned, hplan, by rw [heq]⟩

/-- A claim is never answered with a record that it has not claimed. -/
theorem planClaim_ne_keep (command : ClaimAutomationRunCommand) (eventId : JsString)
    (found : Option AutomationRunRecord) (kept : AutomationRunRecord) :
    planClaim addSeconds localeCompare command eventId found ≠ .ok (.keep (some kept)) := by
  intro h
  obtain ⟨existing, _, h⟩ := except_bind_eq_ok h
  split_ifs at h
  · obtain ⟨_, _, h⟩ := except_bind_eq_ok h
    obtain ⟨_, _, h⟩ := except_bind_eq_ok h
    cases h
  · cases h

/-- How an action changes a run: the event that it adds, given the record of the run. -/
inductive RunChange (runId : JsString) (s : RunSystem) (existing : AutomationRunRecord) :
    ConsumerAction → NewDomainEvent → Prop
  | claimed {read : Nat} {claimId claimExpiresAt : JsString} {now : Timestamp} {leaseSeconds : Nat} {eventId : JsString}
      {planned : NewDomainEvent} (hclaimable : isClaimableAutomationRun existing now = true)
      (hevent : RunEventOf existing (.claimed runId claimId claimExpiresAt) now planned) :
      RunChange runId s existing (.claim read claimId now leaseSeconds eventId) planned
  | delivered {read worker : Nat} {stamp : EventStamp} {record : AutomationRunRecord} {claimId : JsString}
      {planned : NewDomainEvent} (hworker : s.claims[worker]? = some record) (hstatus : existing.status = .claimed)
      (hclaim : existing.claimId = some claimId)
      (hevent : RunEventOf existing (.delivered record.runId claimId) stamp.now planned) :
      RunChange runId s existing (.deliver read worker stamp) planned
  | failed {read worker : Nat} {now : Timestamp} {message error : JsString} {retryAt : Timestamp} {stamp : EventStamp}
      {record : AutomationRunRecord} {claimId : JsString} {planned : NewDomainEvent}
      (hworker : s.claims[worker]? = some record) (hrecord : record.claimId = some claimId)
      (hretry : automationRunShouldDeadLetter record = false) (hstatus : existing.status = .claimed)
      (hclaim : existing.claimId = some claimId)
      (hevent : RunEventOf existing (.failed record.runId claimId error retryAt) stamp.now planned) :
      RunChange runId s existing (.fail read worker now message stamp) planned
  | deadLettered {read worker : Nat} {now : Timestamp} {message error : JsString} {stamp : EventStamp}
      {record : AutomationRunRecord} {claimId : JsString} {planned : NewDomainEvent}
      (hworker : s.claims[worker]? = some record) (hdead : automationRunShouldDeadLetter record = true)
      (hstatus : existing.status = .claimed) (hclaim : existing.claimId = some claimId)
      (hevent : RunEventOf existing (.deadLettered record.runId claimId error) stamp.now planned) :
      RunChange runId s existing (.fail read worker now message stamp) planned

namespace RunSystem

variable (addSeconds) (localeCompare)

theorem work_cases (h : AutomationRunStream tenantId runId stream s.events) (read worker : Nat)
    (plan : AutomationRunRecord → Option AutomationRunRecord → Except FrameworkError RunEventPlan) :
    (s.work tenantId runId read worker plan).events = s.events ∨
      ∃ record planned, s.claims[worker]? = some record ∧
        plan record (foldAutomationRun tenantId s.events) = .ok (.append planned) ∧
        (s.work tenantId runId read worker plan).events = s.events ++ [planned.withSequence (s.events.length + 1)] := by
  unfold work
  cases hworker : s.claims[worker]? with
  | none => exact Or.inl rfl
  | some record =>
    rcases appendRunEvent_snd h (plan record) false read with hsame | ⟨planned, hplan, hadded⟩
    · exact Or.inl hsame
    · exact Or.inr ⟨record, planned, rfl, hplan, hadded⟩

/-- **A step adds one event that the record of the run allows, or none.** -/
theorem step_cases (h : AutomationRunStream tenantId runId stream s.events) (action : ConsumerAction) :
    (step addSeconds localeCompare tenantId runId s action).events = s.events ∨
      ∃ existing planned, foldAutomationRun tenantId s.events = some existing ∧
        RunChange runId s existing action planned ∧
        (step addSeconds localeCompare tenantId runId s action).events =
          s.events ++ [planned.withSequence (s.events.length + 1)] := by
  cases action with
  | claim read claimId now leaseSeconds eventId =>
    rcases appendRunEvent_snd h (planClaim addSeconds localeCompare { runId, claimId, now, leaseSeconds } eventId) true
      read with hsame | ⟨planned, hplan, hadded⟩
    · exact Or.inl hsame
    · obtain ⟨existing, claimExpiresAt, hfold, hclaimable, hevent⟩ := planClaim_append hplan
      exact Or.inr ⟨existing, planned, hfold, .claimed hclaimable hevent, hadded⟩
  | deliver read worker stamp =>
    rcases work_cases h read worker (fun record => AutomationRunConsumer.deliver record stamp) with
      hsame | ⟨record, planned, hworker, hplan, hadded⟩
    · exact Or.inl hsame
    · obtain ⟨claimId, _, hplan⟩ := except_bind_eq_ok hplan
      obtain ⟨existing, hfold, hclaimed, hevent⟩ := planDelivered_append hplan
      exact Or.inr ⟨existing, planned, hfold, .delivered hworker hclaimed.1 hclaimed.2 hevent, hadded⟩
  | fail read worker now message stamp =>
    rcases work_cases h read worker (fun record => AutomationRunConsumer.fail addSeconds record now message stamp) with
      hsame | ⟨record, planned, hworker, hplan, hadded⟩
    · exact Or.inl hsame
    · obtain ⟨claimId, hclaimId, hplan⟩ := except_bind_eq_ok hplan
      -- the worker decides with the record that it was given
      split_ifs at hplan with hdead
      · obtain ⟨existing, error, hfold, hclaimed, hevent⟩ := planDeadLettered_append hplan
        exact Or.inr ⟨existing, planned, hfold, .deadLettered hworker hdead hclaimed.1 hclaimed.2 hevent, hadded⟩
      · obtain ⟨retryAt, _, hplan⟩ := except_bind_eq_ok hplan
        obtain ⟨existing, error, _, hfold, hclaimed, hevent⟩ := planFailed_append hplan
        exact Or.inr ⟨existing, planned, hfold,
          .failed hworker (automationRunRecordClaimId_ok hclaimId) (Bool.eq_false_iff.mpr hdead) hclaimed.1
            hclaimed.2 hevent, hadded⟩

/-! ## The stream in every state -/

/-- What every state has: the stream of the run, and records of the run. -/
structure Tracked (tenantId : TenantId) (runId : JsString) (stream : StreamName) (s : RunSystem) : Prop where
  stream : AutomationRunStream tenantId runId stream s.events
  claims : ∀ record ∈ s.claims, record.runId = runId

/-- The event of a change is one of the run, and one that its record allows. -/
theorem enabled_of_change (hclaims : ∀ record ∈ s.claims, record.runId = runId)
    (hstream : automationRunStream tenantId runId = some stream) {version : Nat}
    (hexisting : existing.Of tenantId runId version) {action : ConsumerAction}
    (h : RunChange runId s existing action planned) (sequence : Nat) :
    AutomationRunLocated planned tenantId runId stream ∧
      AutomationRunEnabled runId (some existing) (planned.withSequence sequence) := by
  have hlocated : ∀ {payload : AutomationRunEventPayload} {now : Timestamp}, RunEventOf existing payload now planned →
      payload.runId = runId → AutomationRunLocated planned tenantId runId stream := by
    intro payload now hevent hrun
    have hname := hevent.stream
    rw [hexisting.tenantId, hexisting.runId, hstream, Option.some.injEq] at hname
    exact ⟨hname.symm, hevent.tenantId.trans hexisting.tenantId, hevent.doctype, hevent.documentName.trans hrun⟩
  have henabled : ∀ {payload : AutomationRunEventPayload} {now : Timestamp}, RunEventOf existing payload now planned →
      (planned.withSequence sequence).payload = .automationRun payload := fun hevent => hevent.payload
  -- each change was planned under the guard that the fold asks for
  cases h with
  | claimed hclaimable hevent =>
    refine ⟨hlocated hevent rfl, ?_⟩
    unfold AutomationRunEnabled
    rw [henabled hevent]
    unfold isClaimableAutomationRun automationRunClaimExpired at hclaimable
    simp only [Bool.or_eq_true, Bool.and_eq_true, beq_iff_eq] at hclaimable
    tauto
  | delivered hworker hstatus hclaim hevent =>
    refine ⟨hlocated hevent (hclaims _ (List.mem_of_getElem? hworker)), ?_⟩
    unfold AutomationRunEnabled
    rw [henabled hevent]
    exact ⟨hstatus, hclaim⟩
  | failed hworker hrecord hretry hstatus hclaim hevent =>
    refine ⟨hlocated hevent (hclaims _ (List.mem_of_getElem? hworker)), ?_⟩
    unfold AutomationRunEnabled
    rw [henabled hevent]
    exact ⟨hstatus, hclaim⟩
  | deadLettered hworker hdead hstatus hclaim hevent =>
    refine ⟨hlocated hevent (hclaims _ (List.mem_of_getElem? hworker)), ?_⟩
    unfold AutomationRunEnabled
    rw [henabled hevent]
    exact ⟨hstatus, hclaim⟩

/-- A step keeps the stream. -/
theorem Tracked.step_stream (h : Tracked tenantId runId stream s)
    (hstream : automationRunStream tenantId runId = some stream) (action : ConsumerAction) :
    AutomationRunStream tenantId runId stream (step addSeconds localeCompare tenantId runId s action).events := by
  rcases step_cases addSeconds localeCompare h.stream action with
    hsame | ⟨existing, planned, hfold, hchange, hadded⟩
  · rw [hsame]
    exact h.stream
  · obtain ⟨hlocated, henabled⟩ := enabled_of_change h.claims hstream (h.stream.of_fold hfold) hchange
      (s.events.length + 1)
    rw [hadded]
    apply h.stream.concat hlocated
    rw [hfold]
    exact henabled

/-- What a claim gives is a record of the run. -/
theorem runId_of_granted (h : AutomationRunStream tenantId runId stream events) {read : Nat}
    {command : ClaimAutomationRunCommand} {eventId : JsString}
    (hnext : AutomationRunStream tenantId runId stream (appendRunEvent tenantId runId
      (planClaim addSeconds localeCompare command eventId) true (events.take read) events).2)
    {record : AutomationRunRecord}
    (hrecord : record ∈ granted (appendRunEvent tenantId runId (planClaim addSeconds localeCompare command eventId) true
      (events.take read) events).1) : record.runId = runId := by
  rcases appendRunEvent_cases h (planClaim addSeconds localeCompare command eventId) true read with
    ⟨reply, heq, hnone⟩ | ⟨planned, updated, _, hupdated, heq⟩
  · rw [heq, hnone rfl (planClaim_ne_keep command eventId)] at hrecord
    cases hrecord
  · rw [heq] at hrecord hnext
    have hof := hnext.of_fold hupdated
    rw [automationRunRecordFromSnapshot_snapshot hof.retry] at hrecord
    have hsame : record = updated := List.mem_singleton.mp hrecord
    rw [hsame]
    exact hof.runId

/-- **A step keeps what every state has.** -/
theorem Tracked.step (h : Tracked tenantId runId stream s) (hstream : automationRunStream tenantId runId = some stream)
    (action : ConsumerAction) :
    Tracked tenantId runId stream (step addSeconds localeCompare tenantId runId s action) := by
  refine ⟨h.step_stream addSeconds localeCompare hstream action, ?_⟩
  have hnext := h.step_stream addSeconds localeCompare hstream action
  have hwork : ∀ (read worker : Nat)
      (plan : AutomationRunRecord → Option AutomationRunRecord → Except FrameworkError RunEventPlan),
      (s.work tenantId runId read worker plan).claims = s.claims := by
    intro read worker plan
    unfold work
    cases s.claims[worker]? <;> rfl
  intro record hrecord
  cases action with
  | claim read claimId now leaseSeconds eventId =>
    rcases List.mem_append.mp hrecord with hold | hnew
    · exact h.claims record hold
    · exact runId_of_granted addSeconds localeCompare h.stream hnext hnew
  | deliver read worker stamp =>
    change record ∈ (s.work tenantId runId read worker _).claims at hrecord
    rw [hwork] at hrecord
    exact h.claims record hrecord
  | fail read worker now message stamp =>
    change record ∈ (s.work tenantId runId read worker _).claims at hrecord
    rw [hwork] at hrecord
    exact h.claims record hrecord

/-- Events are only added. -/
theorem Tracked.prefix_run (h : Tracked tenantId runId stream s)
    (hstream : automationRunStream tenantId runId = some stream) (actions : List ConsumerAction) :
    s.events <+: (run addSeconds localeCompare tenantId runId s actions).events := by
  induction actions generalizing s with
  | nil => exact List.prefix_rfl
  | cons action actions ih =>
    have hstep : s.events <+: (RunSystem.step addSeconds localeCompare tenantId runId s action).events := by
      rcases step_cases addSeconds localeCompare h.stream action with
        hsame | ⟨_, planned, _, _, hadded⟩
      · rw [hsame]
      · rw [hadded]
        exact List.prefix_append _ _
    exact hstep.trans (ih (h.step addSeconds localeCompare hstream action))

theorem Tracked.run (h : Tracked tenantId runId stream s) (hstream : automationRunStream tenantId runId = some stream)
    (actions : List ConsumerAction) :
    Tracked tenantId runId stream (run addSeconds localeCompare tenantId runId s actions) := by
  induction actions generalizing s with
  | nil => exact h
  | cons action actions ih => exact ih (h.step addSeconds localeCompare hstream action)

end RunSystem

/-! ## The start -/

section

variable {planner : AutomationRunPlanner} {command : PlanAutomationRunsFromDomainEventCommand}
  {nextId : Nat → JsString} {action : PlannedAutomationAction} {entry : DocumentCommitBatchEntry}

/-- **What a plan starts is the stream of its run**, pending or dead, and not claimed. -/
theorem AutomationRunPlanner.Planned.start_tracked (hretry : planner.retry.Safe)
    (h : AutomationRunPlanner.Planned planner command nextId action entry) :
    RunSystem.Tracked command.event.tenantId action.runId entry.stream (RunSystem.start entry) ∧
      ∃ record, foldAutomationRun command.event.tenantId (RunSystem.start entry).events = some record ∧
        record.retry = planner.retry ∧ record.attempts = 0 ∧ (record.status = .pending ∨ record.status = .dead) := by
  obtain ⟨issued, hevents⟩ := h.events
  have hstart : (RunSystem.start entry).events =
      sequenceEvents 0 (planner.groupEvents command nextId issued entry.stream action) := by
    unfold RunSystem.start
    rw [h.expectedVersion, hevents]
  have hone : AutomationRunStream command.event.tenantId action.runId entry.stream
      [(planner.enqueuedEvent command (nextId issued) entry.stream action).withSequence 1] := by
    have hlocated : AutomationRunLocated (planner.enqueuedEvent command (nextId issued) entry.stream action)
        command.event.tenantId action.runId entry.stream := ⟨rfl, rfl, rfl, rfl⟩
    exact AutomationRunStream.nil.concat hlocated ⟨rfl, hretry⟩
  unfold AutomationRunPlanner.groupEvents at hstart
  cases herror : planner.suppressionError command action with
  | none =>
    rw [herror] at hstart
    refine ⟨⟨?_, fun record hrecord => by cases hrecord⟩, ?_⟩
    · rw [hstart]
      exact hone
    · rw [hstart]
      exact ⟨_, rfl, rfl, rfl, Or.inl rfl⟩
  | some error =>
    rw [herror] at hstart
    have hlocated : AutomationRunLocated
        (planner.suppressedEvent command (nextId (issued + 1)) entry.stream action error)
        command.event.tenantId action.runId entry.stream := ⟨rfl, rfl, rfl, rfl⟩
    have htwo := hone.concat hlocated ⟨rfl, rfl⟩
    refine ⟨⟨?_, fun record hrecord => by cases hrecord⟩, ?_⟩
    · rw [hstart]
      exact htwo
    · rw [hstart]
      exact ⟨_, rfl, rfl, rfl, Or.inr rfl⟩

end

end
