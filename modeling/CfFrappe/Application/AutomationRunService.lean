import CfFrappe.Application.AutomationRunConsumer
import CfFrappe.Application.SeriesCreate

set_option autoImplicit false

/-! # The service of automation runs

Runs are enqueued by the commit of the document that asks for them; the service claims them and takes what
became of them. Everything it writes is one event on the stream of a run, planned from what the stream folds to
and committed together with the projection row of the run (`appendRunEvent`); after a conflict it reads again.
The store, the claims, the clock and the ids are ports.
-/

open Utf

structure AutomationRunPorts (A : Type) (R : A → Type) where
  now : Program A R FrameworkError Timestamp
  nextId (start : JsString) : Program A R FrameworkError JsString
  readStream (stream : StreamName) (payloadKinds : List JsString) : Program A R FrameworkError (List DomainEvent)
  commitBatch (entries : List DocumentCommitBatchEntry)
    (project : List DomainEvent → Except FrameworkError DocumentCommitBatchProjection) :
    Program A R FrameworkError (Except FrameworkError DocumentCommit)
  listAutomationRunClaimCandidates (tenantId : TenantId) (now : Timestamp) (limit : Nat) :
    Program A R FrameworkError (List DocumentSnapshot)

def maxAutomationRunAppendAttempts : Nat := 5

def automationRunPayloadKinds : List JsString :=
  [js "AutomationRunEnqueued", js "AutomationRunClaimed", js "AutomationRunDelivered", js "AutomationRunFailed",
   js "AutomationRunDeadLettered", js "AutomationRunSuppressed"]

structure ClaimAutomationRunsCommand where
  tenantId : TenantId
  now : Option Timestamp := none
  limit : Option Rat := none
  claimId : Option JsString := none
  leaseSeconds : Option Rat := none

/-- The row of a run that a commit has started, from its events as they were saved. -/
def AutomationRunCommitPlan.startedRow (savedEvents : List DomainEvent) (entry : DocumentCommitBatchEntry) :
    Except FrameworkError DocumentSnapshot := do
  let saved ← entry.events.mapM (fun event => SeriesCreate.requireSavedEvent savedEvents event.id)
  match saved.head?.bind (fun first => foldAutomationRun first.tenantId saved) with
  | some record => return automationRunSnapshot record
  | none => throw (.ofError (js "Automation run enqueue event did not fold into a run record"))

def AutomationRunCommitPlan.auxiliarySnapshots (plan : AutomationRunCommitPlan) (savedEvents : List DomainEvent) :
    Except FrameworkError (List DocumentSnapshot) :=
  plan.entries.mapM (startedRow savedEvents)

/-- The last step of a change of a document: its commit, with the runs that are planned for its event. -/
structure EnqueuingCommit where
  planner : AutomationRunPlanner
  command : PlanAutomationRunsFromDomainEventCommand
  /-- the ids of the events of the runs -/
  nextId : Nat → JsString
  /-- what the change itself writes -/
  entries : List DocumentCommitBatchEntry
  project : List DomainEvent → Except FrameworkError DocumentCommitBatchProjection

namespace AutomationRunService

variable {A : Type} {R : A → Type} (ports : AutomationRunPorts A R)
variable (addSeconds : Timestamp → Nat → Option Timestamp) (localeCompare : JsString → JsString → Ordering)

/-- The rows of a commit: those of the change and those of the runs. -/
def projectWithRuns (project : List DomainEvent → Except FrameworkError DocumentCommitBatchProjection)
    (plan : AutomationRunCommitPlan) (saved : List DomainEvent) : Except FrameworkError DocumentCommitBatchProjection := do
  let projection ← project saved
  let runs ← plan.auxiliarySnapshots saved
  return { projection with auxiliarySnapshots := projection.auxiliarySnapshots ++ runs }

def commitEnqueuing (canonicalize : UInt16 → UInt16) (commit : EnqueuingCommit) :
    Program A R FrameworkError DocumentCommit := do
  let plan ← Program.ofExcept (commit.planner.planEnqueueFromDomainEvent commit.command canonicalize commit.nextId)
  let committed ← ports.commitBatch (commit.entries ++ plan.entries) (projectWithRuns commit.project plan)
  Program.ofExcept committed

/-! ## Plans -/

/-- `newRunEvent` with its id and the time of the clock. -/
def stampedRunEvent (record : AutomationRunRecord) (payload : AutomationRunEventPayload) (metadata : DocumentData) :
    Program A R FrameworkError NewDomainEvent := do
  let id ← ports.nextId (js "evt_")
  let now ← ports.now
  Program.ofExcept (newRunEvent { id, now } record payload metadata)

def claimPlan (command : ClaimAutomationRunCommand) (record : Option AutomationRunRecord) :
    Program A R FrameworkError RunEventPlan := do
  let existing ← Program.ofExcept (requireAutomationRunRecord record command.runId)
  if (claimableAutomationRuns localeCompare [existing] command.now 1).any (fun item => item.runId == existing.runId) then
    let claimExpiresAt ← Program.ofExcept (laterTimestamp addSeconds command.now command.leaseSeconds)
    let id ← ports.nextId (js "evt_")
    let claimed ← Program.ofExcept
      (newRunEvent { id, now := command.now } existing (.claimed command.runId command.claimId claimExpiresAt) [])
    return .append claimed
  else
    return .keep none

def deliveredPlan (command : CompleteAutomationRunCommand) (record : Option AutomationRunRecord) :
    Program A R FrameworkError RunEventPlan := do
  let existing ← Program.ofExcept (requireAutomationRunRecord record command.runId)
  if existing.status = .delivered then
    return .keep (some existing)
  else
    Program.ofExcept (ensureAutomationRunClaimed existing command.claimId)
    let delivered ← stampedRunEvent ports existing (.delivered command.runId command.claimId) command.metadata
    return .append delivered

/-- `command.retryAt ?? automationRunRetryAt(...)`. -/
def retryAtOf (command : FailAutomationRunCommand) (existing : AutomationRunRecord) :
    Program A R FrameworkError Timestamp :=
  match command.retryAt with
  | some retryAt => return retryAt
  | none => do
      let now ← ports.now
      Program.ofExcept (automationRunRetryAt addSeconds now existing.retry existing.attempts)

def failedPlan (command : FailAutomationRunCommand) (normalizedError : JsString)
    (record : Option AutomationRunRecord) : Program A R FrameworkError RunEventPlan := do
  let existing ← Program.ofExcept (requireAutomationRunRecord record command.runId)
  Program.ofExcept (ensureAutomationRunClaimed existing command.claimId)
  let retryAt ← retryAtOf ports addSeconds command existing
  let failed ← stampedRunEvent ports existing
    (.failed command.runId command.claimId normalizedError retryAt) command.metadata
  return .append failed

def deadLetteredPlan (command : FailAutomationRunCommand) (normalizedError : JsString)
    (record : Option AutomationRunRecord) : Program A R FrameworkError RunEventPlan := do
  let existing ← Program.ofExcept (requireAutomationRunRecord record command.runId)
  if existing.status = .dead then
    return .keep (some existing)
  else
    Program.ofExcept (ensureAutomationRunClaimed existing command.claimId)
    let dead ← stampedRunEvent ports existing
      (.deadLettered command.runId command.claimId normalizedError) command.metadata
    return .append dead

/-! ## Appending to a run -/

/-- The row of a run with its new event. -/
def projectRunEvent (tenantId : TenantId) (events : List DomainEvent) (planned : NewDomainEvent)
    (savedEvents : List DomainEvent) : Except FrameworkError DocumentCommitBatchProjection := do
  let saved ← SeriesCreate.requireSavedEvent savedEvents planned.id
  match foldAutomationRun tenantId (events ++ [saved]) with
  | some updated => return { snapshot := automationRunSnapshot updated }
  | none => throw (.ofError (js "Automation run event did not fold into a run record"))

/-- The attempts of `appendRunEvent` that are left. -/
def appendAttempts (tenantId : TenantId) (runId : JsString) (stream : StreamName)
    (plan : Option AutomationRunRecord → Program A R FrameworkError RunEventPlan) (allowMissingResult : Bool) :
    Nat → Program A R FrameworkError (Option AutomationRunRecord)
  | 0 => .throw (.ofError (js "Unreachable automation run append retry state"))
  | attempts + 1 => do
      let events ← ports.readStream stream automationRunPayloadKinds
      let record := foldAutomationRun tenantId events
      match ← plan record with
      | .keep (some kept) => return some kept
      | .keep none =>
        if allowMissingResult then return none
        else Program.ofExcept ((requireAutomationRunRecord record runId).map some)
      | .append planned => do
          let committed ← ports.commitBatch
            [{ stream, expectedVersion := (record.map (·.version)).getD 0, events := [planned] }]
            (projectRunEvent tenantId events planned)
          match committed with
          | .ok commit => Program.ofExcept ((automationRunRecordFromSnapshot commit.snapshot).map some)
          | .error error =>
            if isDocumentConflictError error && attempts != 0 then
              appendAttempts tenantId runId stream plan allowMissingResult attempts
            else .throw error

def appendRunEvent (tenantId : TenantId) (runId : JsString)
    (plan : Option AutomationRunRecord → Program A R FrameworkError RunEventPlan) (allowMissingResult : Bool) :
    Program A R FrameworkError (Option AutomationRunRecord) := do
  let stream ← Program.ofExcept (requireStream (automationRunStream tenantId runId))
  appendAttempts ports tenantId runId stream plan allowMissingResult maxAutomationRunAppendAttempts

/-- `requireAutomationRunRecord(await this.appendRunEvent(...))`. -/
def appendRequired (tenantId : TenantId) (runId : JsString)
    (plan : Option AutomationRunRecord → Program A R FrameworkError RunEventPlan) :
    Program A R FrameworkError AutomationRunRecord := do
  let record ← appendRunEvent ports tenantId runId plan false
  Program.ofExcept (requireAutomationRunRecord record runId)

/-! ## Commands -/

def markDelivered (tenantId : TenantId) (command : CompleteAutomationRunCommand) :
    Program A R FrameworkError AutomationRunRecord :=
  appendRequired ports tenantId command.runId (deliveredPlan ports command)

def markFailed (tenantId : TenantId) (command : FailAutomationRunCommand) :
    Program A R FrameworkError AutomationRunRecord := do
  let normalizedError ← Program.ofExcept (automationRunFailureError command.error)
  appendRequired ports tenantId command.runId (failedPlan ports addSeconds command normalizedError)

def markDeadLettered (tenantId : TenantId) (command : FailAutomationRunCommand) :
    Program A R FrameworkError AutomationRunRecord := do
  let normalizedError ← Program.ofExcept (automationRunFailureError command.error)
  appendRequired ports tenantId command.runId (deadLetteredPlan ports command normalizedError)

/-- The candidates, where the projections are a claim store. -/
def listClaimCandidates (tenantId : TenantId) (now : Timestamp) (limit : Nat) :
    Program A R FrameworkError (List AutomationRunRecord) := do
  let rows ← ports.listAutomationRunClaimCandidates tenantId now limit
  let records ← Program.ofExcept (rows.mapM automationRunRecordFromSnapshot)
  return sortedAutomationRunRecords localeCompare records

def claimOne (tenantId : TenantId) (command : ClaimAutomationRunCommand) :
    Program A R FrameworkError (Option AutomationRunRecord) :=
  appendRunEvent ports tenantId command.runId (claimPlan ports addSeconds localeCompare command) true

/-- The loop of `claimPending`. -/
def claimSelected (tenantId : TenantId) (claimId : JsString) (now : Timestamp) (leaseSeconds : Nat) :
    List AutomationRunRecord → Program A R FrameworkError (List AutomationRunRecord)
  | [] => return []
  | record :: selected => do
      let next ← claimOne ports addSeconds localeCompare tenantId { runId := record.runId, claimId, now, leaseSeconds }
      let claimed ← claimSelected tenantId claimId now leaseSeconds selected
      return next.toList ++ claimed

/-- `command.now ?? this.clock.now()`. -/
def claimTime (command : ClaimAutomationRunsCommand) : Program A R FrameworkError Timestamp :=
  match command.now with
  | some now => return now
  | none => ports.now

def claimPending (command : ClaimAutomationRunsCommand) : Program A R FrameworkError (List AutomationRunRecord) := do
  let now ← claimTime ports command
  let limit ← Program.ofExcept (automationRunClaimLimit command.limit)
  let claimId ← match command.claimId with
    | some claimId => pure claimId
    | none => ports.nextId (js "claim_")
  let leaseSeconds ← Program.ofExcept (automationRunClaimLeaseSeconds command.leaseSeconds)
  let candidates ← listClaimCandidates ports localeCompare command.tenantId now limit
  let selected := claimableAutomationRuns localeCompare candidates now limit
  let claimed ← claimSelected ports addSeconds localeCompare command.tenantId claimId now leaseSeconds selected
  return selectedAutomationRunRecords claimed (selected.map (·.runId))

end AutomationRunService

/-- What is started on the store. -/
inductive AutomationRunCommand
  | enqueue (commit : EnqueuingCommit)
  | claimPending (command : ClaimAutomationRunsCommand)
  | markDelivered (tenantId : TenantId) (command : CompleteAutomationRunCommand)
  | markFailed (tenantId : TenantId) (command : FailAutomationRunCommand)
  | markDeadLettered (tenantId : TenantId) (command : FailAutomationRunCommand)

/-- The command, without its result. -/
def AutomationRunCommand.start {A : Type} {R : A → Type} (ports : AutomationRunPorts A R)
    (addSeconds : Timestamp → Nat → Option Timestamp) (localeCompare : JsString → JsString → Ordering)
    (canonicalize : UInt16 → UInt16) : AutomationRunCommand → Program A R FrameworkError Unit
  | .enqueue commit => do
      let _ ← AutomationRunService.commitEnqueuing ports canonicalize commit
      return ()
  | .claimPending command => do
      let _ ← AutomationRunService.claimPending ports addSeconds localeCompare command
      return ()
  | .markDelivered tenantId command => do
      let _ ← AutomationRunService.markDelivered ports tenantId command
      return ()
  | .markFailed tenantId command => do
      let _ ← AutomationRunService.markFailed ports addSeconds tenantId command
      return ()
  | .markDeadLettered tenantId command => do
      let _ ← AutomationRunService.markDeadLettered ports tenantId command
      return ()
