import CfFrappe.Application.DeliveryOutbox

set_option autoImplicit false

/-! # The service of the delivery outbox

`DocumentDeliveryOutboxService` as programs on the event store. Every read and every append is an
action of its own, so other workers may act between any two of them. `state` resumes from the
newest checkpoint: it reads the checkpoint, the events of every record that the checkpoint carried
over, and the tail of the stream. Every operation plans on a state and appends at its version
(`appendWithRetry`); after a conflict it plans again.
-/

open Utf

/-- What the service asks for besides the store. -/
inductive OutboxCall
  | now
  | nextId (start : JsString)

def OutboxCall.Reply : OutboxCall → Type
  | .now => Timestamp
  | .nextId _ => JsString

abbrev OutboxProgram (α : Type) := LogProgram StreamName OutboxEvent OutboxCall FrameworkError OutboxCall.Reply α

abbrev OutboxStore := LogState StreamName OutboxEvent Unit

/-- The time and the ids may be anything. -/
def outboxSurroundings : Surroundings OutboxCall OutboxCall.Reply Unit Empty where
  exec _ _ _ _ := True
  le _ _ := True
  le_refl _ := trivial
  le_trans _ _ := trivial
  exec_le _ := trivial
  issued _ _ := False
  fresh _ _ _ := False
  issued_le _ h := h
  fresh_new _ h := absurd h id

namespace DocumentDeliveryOutboxService

def maxOutboxAppendAttempts : Nat := 5

def checkpointCarryOverLimit : Nat := 25

def outboxStream (tenantId : TenantId) : OutboxProgram StreamName :=
  Program.ofExcept (requireStream (documentDeliveryOutboxStream tenantId))

def now : OutboxProgram Timestamp := LogProgram.other OutboxCall.now

def nextId (start : JsString) : OutboxProgram JsString := LogProgram.other (OutboxCall.nextId start)

/-! ## Reading -/

def isAbout (tenantId : TenantId) (documentName : DocumentName) (event : Recorded OutboxEvent) : Bool :=
  event.event.tenantId = tenantId && event.event.doctype = outboxDoctype && event.event.documentName = documentName

/-- `readDocumentEvents`: the events of the stream that carry this document name, in order. -/
def readDocumentEvents (tenantId : TenantId) (documentName : DocumentName) (stream : StreamName) :
    OutboxProgram OutboxLog := do
  let log ← LogProgram.read stream
  pure (log.filter (isAbout tenantId documentName))

/-- `readStream`, from a sequence on, with the payload kinds of the outbox. -/
def readStream (stream : StreamName) (minSequence : Nat) : OutboxProgram OutboxLog := do
  let log ← LogProgram.read stream
  pure (log.filter (fun event => decide (minSequence ≤ event.sequence) && event.event.payload.isOutbox))

/-- The newest checkpoint of the stream. -/
def lastCheckpoint (tenantId : TenantId) (stream : StreamName) : OutboxProgram (Option (Nat × List JsString)) := do
  let events ← readDocumentEvents tenantId checkpointDocumentName stream
  pure (events.getLast?.bind documentDeliveryOutboxCheckpoint)

/-- What becomes of the records that a checkpoint carried over, when their events are at hand: a
record without events up to the checkpoint makes the checkpoint useless, and one that has been
delivered since is left out. -/
def carryOver (tenantId : TenantId) (upToSequence : Nat) :
    List (JsString × OutboxLog) → Record JsString DocumentDeliveryOutboxRecord →
      Option (Record JsString DocumentDeliveryOutboxRecord)
  | [], records => some records
  | (outboxId, events) :: histories, records =>
    match foldDocumentDeliveryOutboxRecord tenantId outboxId
        (events.filter (fun event => decide (event.sequence ≤ upToSequence))) with
    | none => none
    | some atCheckpoint =>
      match foldDocumentDeliveryOutboxRecordFrom (some atCheckpoint) tenantId outboxId
          (events.filter (fun event => decide (upToSequence < event.sequence))) with
      | some current =>
        if current.status = .delivered then carryOver tenantId upToSequence histories records
        else carryOver tenantId upToSequence histories (Record.set records atCheckpoint.id atCheckpoint)
      | none => carryOver tenantId upToSequence histories records

def readHistories (tenantId : TenantId) (stream : StreamName) :
    List JsString → OutboxProgram (List (JsString × OutboxLog))
  | [] => pure []
  | outboxId :: outboxIds => do
      let events ← readDocumentEvents tenantId outboxId stream
      let histories ← readHistories tenantId stream outboxIds
      pure ((outboxId, events) :: histories)

def carriedOverRecords (tenantId : TenantId) (stream : StreamName) (checkpoint : Nat × List JsString) :
    OutboxProgram (Option (Record JsString DocumentDeliveryOutboxRecord)) := do
  let histories ← readHistories tenantId stream checkpoint.2
  pure (carryOver tenantId checkpoint.1 histories [])

/-- The whole stream. -/
def wholeState (tenantId : TenantId) (stream : StreamName) : OutboxProgram DocumentDeliveryOutboxState := do
  let events ← readStream stream 0
  pure (foldDocumentDeliveryOutbox tenantId events)

/-- The records that were carried over, and the tail of the stream. -/
def resumedState (tenantId : TenantId) (stream : StreamName) (upToSequence : Nat)
    (carried : Record JsString DocumentDeliveryOutboxRecord) : OutboxProgram DocumentDeliveryOutboxState := do
  let events ← readStream stream (upToSequence + 1)
  pure (foldDocumentDeliveryOutboxFrom (some { tenantId, version := upToSequence, records := carried })
    tenantId events)

def stateOf (tenantId : TenantId) (stream : StreamName) : OutboxProgram DocumentDeliveryOutboxState := do
  match ← lastCheckpoint tenantId stream with
  | none => wholeState tenantId stream
  | some checkpoint =>
    match ← carriedOverRecords tenantId stream checkpoint with
    | none => wholeState tenantId stream
    | some carried => resumedState tenantId stream checkpoint.1 carried

/-- **The working set of the tenant.** -/
def state (tenantId : TenantId) : OutboxProgram DocumentDeliveryOutboxState := do
  let stream ← outboxStream tenantId
  stateOf tenantId stream

def list (localeCompare : JsString → JsString → Ordering) (tenantId : TenantId) :
    OutboxProgram (List DocumentDeliveryOutboxRecord) := do
  let state ← state tenantId
  pure (sortedDocumentDeliveryOutboxRecords localeCompare state)

/-- One record, in whatever state its own events describe. -/
def record (tenantId : TenantId) (outboxId : JsString) : OutboxProgram (Option DocumentDeliveryOutboxRecord) := do
  let stream ← outboxStream tenantId
  let events ← readDocumentEvents tenantId outboxId stream
  pure (foldDocumentDeliveryOutboxRecord tenantId outboxId events)

/-! ## Appending -/

structure OutboxPlan where
  events : List OutboxEvent
  recordIds : List JsString

/-- One attempt after another: read the state, plan, append at the version of the state. -/
def appendAttempt (tenantId : TenantId) (stream : StreamName)
    (plan : DocumentDeliveryOutboxState → Nat → OutboxProgram OutboxPlan) :
    Nat → OutboxProgram (List DocumentDeliveryOutboxRecord)
  | 0 => .throw (.ofError (js "Unreachable document delivery outbox append retry state"))
  | remaining + 1 => do
      let state ← state tenantId
      let planned ← plan state (maxOutboxAppendAttempts - remaining)
      if planned.events.isEmpty then
        pure (selectedDocumentDeliveryOutboxRecords state planned.recordIds)
      else
        match ← LogProgram.append stream state.version planned.events with
        | .ok saved =>
          pure (selectedDocumentDeliveryOutboxRecords
            (foldDocumentDeliveryOutboxFrom (some state) tenantId saved) planned.recordIds)
        | .error error =>
          if isDocumentConflictError error && remaining != 0 then appendAttempt tenantId stream plan remaining
          else .throw error

def appendWithRetry (tenantId : TenantId)
    (plan : DocumentDeliveryOutboxState → Nat → OutboxProgram OutboxPlan) :
    OutboxProgram (List DocumentDeliveryOutboxRecord) := do
  let stream ← outboxStream tenantId
  appendAttempt tenantId stream plan maxOutboxAppendAttempts

/-- An event of the outbox stream. -/
def outboxEvent (tenantId : TenantId) (stream : StreamName) (documentName : DocumentName) (actorId : JsString)
    (occurredAt : Timestamp) (payload : DocumentDeliveryOutboxEventPayload) (metadata : DocumentData)
    (id : JsString) : OutboxEvent :=
  { id, tenantId, stream, type := documentDeliveryOutboxEventType payload, doctype := outboxDoctype,
    documentName, actorId, occurredAt, payload, metadata }

/-! ### enqueueFromDomainEvent -/

structure EnqueueDocumentDeliveryOutboxCommand where
  event : DomainEvent
  snapshot : Option DocumentSnapshot
  targets : List DocumentDeliveryOutboxTarget
  metadata : DocumentData

/-- Those of the records that have events already. -/
def readEnqueued (tenantId : TenantId) (stream : StreamName) : List JsString → OutboxProgram (List JsString)
  | [] => pure []
  | outboxId :: outboxIds => do
      let existing ← readDocumentEvents tenantId outboxId stream
      let enqueued ← readEnqueued tenantId stream outboxIds
      pure (if (existing.take 1).isEmpty then enqueued else outboxId :: enqueued)

def enqueuedPayload (command : EnqueueDocumentDeliveryOutboxCommand) (target : DocumentDeliveryOutboxTarget) :
    DocumentDeliveryOutboxEventPayload :=
  .enqueued (documentDeliveryOutboxRecordId command.event.id target)
    { target
      sourceEventId := command.event.id
      sourceEventType := command.event.type
      payloadKind := domainEventPayloadKind command.event
      doctype := command.event.doctype
      documentName := command.event.documentName
      actorId := command.event.actorId
      payload := some { event := command.event, snapshot := command.snapshot } }

def enqueuedEvents (command : EnqueueDocumentDeliveryOutboxCommand) (stream : StreamName)
    (enqueued : List JsString) : List DocumentDeliveryOutboxTarget → OutboxProgram (List OutboxEvent)
  | [] => pure []
  | target :: targets =>
    if enqueued.contains (documentDeliveryOutboxRecordId command.event.id target) then
      enqueuedEvents command stream enqueued targets
    else do
      let id ← nextId (js "evt_")
      let events ← enqueuedEvents command stream enqueued targets
      pure (outboxEvent command.event.tenantId stream
        (documentDeliveryOutboxRecordId command.event.id target) command.event.actorId
        command.event.occurredAt (enqueuedPayload command target) command.metadata id :: events)

def planEnqueue (command : EnqueueDocumentDeliveryOutboxCommand)
    (_state : DocumentDeliveryOutboxState) (_attempt : Nat) : OutboxProgram OutboxPlan := do
  let uniqueTargets := command.targets.eraseDups
  let recordIds := uniqueTargets.map (documentDeliveryOutboxRecordId command.event.id)
  let stream ← outboxStream command.event.tenantId
  let enqueued ← readEnqueued command.event.tenantId stream recordIds
  let events ← enqueuedEvents command stream enqueued uniqueTargets
  pure { events, recordIds }

def enqueueFromDomainEvent (command : EnqueueDocumentDeliveryOutboxCommand) :
    OutboxProgram (List DocumentDeliveryOutboxRecord) :=
  if command.targets.isEmpty then pure []
  else appendWithRetry command.event.tenantId (planEnqueue command)

/-! ### claimPending -/

structure ClaimDocumentDeliveryOutboxCommand where
  tenantId : TenantId
  claimId : Option JsString := none
  limit : Option Rat := none
  now : Option Timestamp := none

def nowOr : Option Timestamp → OutboxProgram Timestamp
  | some now => pure now
  | none => now

def claimIdOr : Option JsString → OutboxProgram JsString
  | some claimId => pure claimId
  | none => nextId (js "claim_")

def claimedEvents (tenantId : TenantId) (stream : StreamName) (claimId : JsString) (now : Timestamp) :
    List DocumentDeliveryOutboxRecord → OutboxProgram (List OutboxEvent)
  | [] => pure []
  | record :: records => do
      let id ← nextId (js "evt_")
      let events ← claimedEvents tenantId stream claimId now records
      pure (outboxEvent tenantId stream record.id (js "system") now (.claimed record.id claimId) [] id :: events)

def planClaim (localeCompare : JsString → JsString → Ordering) (tenantId : TenantId) (claimId : JsString)
    (now : Timestamp) (limit : Nat) (state : DocumentDeliveryOutboxState) (_attempt : Nat) :
    OutboxProgram OutboxPlan := do
  let records := claimableDocumentDeliveryOutboxRecords localeCompare state now limit
  let stream ← outboxStream tenantId
  let events ← claimedEvents tenantId stream claimId now records
  pure { events, recordIds := records.map (·.id) }

def claimPending (localeCompare : JsString → JsString → Ordering) (command : ClaimDocumentDeliveryOutboxCommand) :
    OutboxProgram (List DocumentDeliveryOutboxRecord) := do
  let now ← nowOr command.now
  let claimId ← claimIdOr command.claimId
  let limit ← Program.ofExcept (documentDeliveryOutboxClaimLimit command.limit)
  appendWithRetry command.tenantId (planClaim localeCompare command.tenantId claimId now limit)

/-! ### markDelivered -/

structure CompleteDocumentDeliveryOutboxCommand where
  tenantId : TenantId
  outboxId : JsString
  claimId : JsString
  metadata : DocumentData := []

/-- The checkpoint that goes in front of a delivery, or nothing. -/
def plannedCheckpoint (tenantId : TenantId) (stream : StreamName) (state : DocumentDeliveryOutboxState)
    (attempt : Nat) : OutboxProgram (List OutboxEvent) :=
  if maxOutboxAppendAttempts ≤ attempt || checkpointCarryOverLimit < state.records.length then pure []
  else do
    let now ← now
    pure [outboxEvent tenantId stream checkpointDocumentName (js "system") now
      (.checkpointed state.version (Record.keys state.records)) []
      (js "evt_outbox_checkpoint_" ++ tenantId ++ js "_" ++ Json.natToString state.version)]

/-- A record that is not in the working set has been delivered, or it never existed. -/
def planMissingDelivered (command : CompleteDocumentDeliveryOutboxCommand) : OutboxProgram OutboxPlan := do
  let finished ← record command.tenantId command.outboxId
  if finished.map (·.status) = some .delivered then
    pure { events := [], recordIds := [] }
  else
    .throw (.notFound (js "Document delivery outbox record '" ++ command.outboxId ++ js "' was not found"))

def planDelivered (command : CompleteDocumentDeliveryOutboxCommand) (state : DocumentDeliveryOutboxState)
    (attempt : Nat) : OutboxProgram OutboxPlan :=
  match Record.get state.records command.outboxId with
  | none => planMissingDelivered command
  | some existing => do
      Program.ofExcept (ensureDocumentDeliveryOutboxClaimed existing command.claimId)
      let stream ← outboxStream command.tenantId
      let checkpoint ← plannedCheckpoint command.tenantId stream state attempt
      let id ← nextId (js "evt_")
      let now ← now
      pure
        { recordIds := [command.outboxId]
          events := checkpoint ++
            [outboxEvent command.tenantId stream command.outboxId (js "system") now
              (.delivered command.outboxId command.claimId) command.metadata id] }

/-- The record once it has been delivered and left the working set. -/
def deliveredRecord (tenantId : TenantId) (outboxId : JsString) :
    OutboxProgram (Option DocumentDeliveryOutboxRecord) := do
  let record ← record tenantId outboxId
  pure (record.filter (fun record => record.status = .delivered))

/-- What a finished command returns: the record of its append, a delivered one, or one in flight. -/
def completedRecord (command : CompleteDocumentDeliveryOutboxCommand)
    (appended delivered : Option DocumentDeliveryOutboxRecord) : OutboxProgram DocumentDeliveryOutboxRecord :=
  match appended.or delivered with
  | some record => pure record
  | none => do
      let state ← state command.tenantId
      Program.ofExcept (requireOutboxRecord state command.outboxId)

def markDelivered (command : CompleteDocumentDeliveryOutboxCommand) :
    OutboxProgram DocumentDeliveryOutboxRecord := do
  match ← appendWithRetry command.tenantId (planDelivered command) with
  | record :: _ => pure record
  | [] =>
    let delivered ← deliveredRecord command.tenantId command.outboxId
    completedRecord command none delivered

/-! ### markFailed -/

structure FailDocumentDeliveryOutboxCommand extends CompleteDocumentDeliveryOutboxCommand where
  error : JsString
  retryAt : Option Timestamp := none

def planFailed (command : FailDocumentDeliveryOutboxCommand) (error : JsString)
    (state : DocumentDeliveryOutboxState) (_attempt : Nat) : OutboxProgram OutboxPlan := do
  let existing ← Program.ofExcept (requireOutboxRecord state command.outboxId)
  Program.ofExcept (ensureDocumentDeliveryOutboxClaimed existing command.claimId)
  let stream ← outboxStream command.tenantId
  let id ← nextId (js "evt_")
  let now ← now
  pure
    { recordIds := [command.outboxId]
      events := [outboxEvent command.tenantId stream command.outboxId (js "system") now
        (.failed command.outboxId command.claimId error command.retryAt) command.metadata id] }

def markFailed (command : FailDocumentDeliveryOutboxCommand) : OutboxProgram DocumentDeliveryOutboxRecord := do
  let error ← Program.ofExcept (documentDeliveryOutboxFailureError command.error)
  let records ← appendWithRetry command.tenantId (planFailed command error)
  completedRecord command.toCompleteDocumentDeliveryOutboxCommand records.head? none

end DocumentDeliveryOutboxService

/-! ## Commands -/

open DocumentDeliveryOutboxService

/-- The commands of the service, with its readers: `state` is what every operation plans on. -/
inductive OutboxCommand
  | enqueueFromDomainEvent (command : EnqueueDocumentDeliveryOutboxCommand)
  | claimPending (command : ClaimDocumentDeliveryOutboxCommand)
  | markDelivered (command : CompleteDocumentDeliveryOutboxCommand)
  | markFailed (command : FailDocumentDeliveryOutboxCommand)
  | state (tenantId : TenantId)
  | list (tenantId : TenantId)
  | record (tenantId : TenantId) (outboxId : JsString)

inductive OutboxResult
  | records (records : List DocumentDeliveryOutboxRecord)
  | record (record : Option DocumentDeliveryOutboxRecord)
  | state (state : DocumentDeliveryOutboxState)

def OutboxCommand.program (localeCompare : JsString → JsString → Ordering) :
    OutboxCommand → OutboxProgram OutboxResult
  | .enqueueFromDomainEvent command => do
      let records ← DocumentDeliveryOutboxService.enqueueFromDomainEvent command
      pure (.records records)
  | .claimPending command => do
      let records ← DocumentDeliveryOutboxService.claimPending localeCompare command
      pure (.records records)
  | .markDelivered command => do
      let record ← DocumentDeliveryOutboxService.markDelivered command
      pure (.record (some record))
  | .markFailed command => do
      let record ← DocumentDeliveryOutboxService.markFailed command
      pure (.record (some record))
  | .state tenantId => do
      let state ← DocumentDeliveryOutboxService.state tenantId
      pure (.state state)
  | .list tenantId => do
      let records ← DocumentDeliveryOutboxService.list localeCompare tenantId
      pure (.records records)
  | .record tenantId outboxId => do
      let record ← DocumentDeliveryOutboxService.record tenantId outboxId
      pure (.record record)
