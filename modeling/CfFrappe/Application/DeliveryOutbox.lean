import CfFrappe.Core.Events
import CfFrappe.Core.Streams
import CfFrappe.Lib.EventLog

set_option autoImplicit false

/-! # The delivery outbox

What is to be delivered for a domain event is a record of the tenant's outbox: it is enqueued,
claimed by a worker, and delivered or failed. All records of a tenant share one stream. The
working set (`foldDocumentDeliveryOutboxFrom`) holds the records that are in flight; a delivered
record leaves it, and is read back from its own events (`foldDocumentDeliveryOutboxRecordFrom`).
A checkpoint names the records that were in flight at a version, so that a reader need not start
from the first event.
-/

open Utf

inductive DocumentDeliveryOutboxTarget
  | notification
  | realtime
  | email
  deriving DecidableEq

def DocumentDeliveryOutboxTarget.text : DocumentDeliveryOutboxTarget → JsString
  | .notification => js "notification"
  | .realtime => js "realtime"
  | .email => js "email"

inductive DocumentDeliveryOutboxStatus
  | pending
  | claimed
  | delivered
  | failed
  deriving DecidableEq

/-- `documentDeliveryOutboxPayload`: the event itself, and the document if there is one. -/
structure DocumentDeliveryOutboxPayload where
  event : DomainEvent
  snapshot : Option DocumentSnapshot
  deriving DecidableEq

/-- What a record is about. -/
structure DocumentDeliveryOutboxSource where
  target : DocumentDeliveryOutboxTarget
  sourceEventId : JsString
  sourceEventType : JsString
  payloadKind : JsString
  doctype : DocTypeName
  documentName : DocumentName
  actorId : JsString
  payload : Option DocumentDeliveryOutboxPayload
  deriving DecidableEq

/-- The payloads of the outbox stream; `other` stands for the kinds that are not of the outbox. -/
inductive DocumentDeliveryOutboxEventPayload
  | enqueued (outboxId : JsString) (source : DocumentDeliveryOutboxSource)
  | claimed (outboxId claimId : JsString)
  | delivered (outboxId claimId : JsString)
  | failed (outboxId claimId error : JsString) (retryAt : Option Timestamp)
  | checkpointed (upToSequence : Nat) (carryOver : List JsString)
  | other (kind : JsString)
  deriving DecidableEq

structure OutboxEvent where
  id : JsString
  tenantId : TenantId
  stream : StreamName
  type : JsString
  doctype : DocTypeName
  documentName : DocumentName
  actorId : JsString
  occurredAt : Timestamp
  payload : DocumentDeliveryOutboxEventPayload
  metadata : DocumentData
  deriving DecidableEq

abbrev OutboxLog := List (Recorded OutboxEvent)

structure DocumentDeliveryOutboxRecord extends DocumentDeliveryOutboxSource where
  id : JsString
  tenantId : TenantId
  status : DocumentDeliveryOutboxStatus
  attempts : Nat
  enqueuedAt : Timestamp
  claimedAt : Option Timestamp := none
  claimId : Option JsString := none
  deliveredAt : Option Timestamp := none
  failedAt : Option Timestamp := none
  error : Option JsString := none
  retryAt : Option Timestamp := none
  deriving DecidableEq

@[ext]
structure DocumentDeliveryOutboxState where
  tenantId : TenantId
  version : Nat
  records : Record JsString DocumentDeliveryOutboxRecord
  deriving DecidableEq

def checkpointDocumentName : DocumentName := js "__checkpoint"

def outboxDoctype : DocTypeName := js "__DocumentDeliveryOutbox"

def documentDeliveryOutboxRecordId (eventId : JsString) (target : DocumentDeliveryOutboxTarget) : JsString :=
  eventId ++ js ":" ++ target.text

def documentDeliveryOutboxEventType : DocumentDeliveryOutboxEventPayload → JsString
  | .enqueued .. => js "DocumentDeliveryOutboxEnqueued"
  | .claimed .. => js "DocumentDeliveryOutboxClaimed"
  | .delivered .. => js "DocumentDeliveryOutboxDelivered"
  | .failed .. => js "DocumentDeliveryOutboxFailed"
  | .checkpointed .. => js "DocumentDeliveryOutboxCheckpointed"
  | .other kind => kind

namespace DocumentDeliveryOutboxEventPayload

/-- `isDocumentDeliveryOutboxEvent`, on the payload. -/
def isOutbox : DocumentDeliveryOutboxEventPayload → Bool
  | .other _ => false
  | _ => true

/-- The record that a payload is about. -/
def outboxId? : DocumentDeliveryOutboxEventPayload → Option JsString
  | .enqueued outboxId _ | .claimed outboxId _ | .delivered outboxId _ | .failed outboxId _ _ _ => some outboxId
  | .checkpointed .. | .other _ => none

end DocumentDeliveryOutboxEventPayload

/-- The compaction checkpoint that an event carries. -/
def documentDeliveryOutboxCheckpoint (event : Recorded OutboxEvent) : Option (Nat × List JsString) :=
  match event.event.payload with
  | .checkpointed upToSequence carryOver => some (upToSequence, carryOver)
  | _ => none

/-! ## What the events do to a record -/

namespace DocumentDeliveryOutboxRecord

def ofEnqueued (tenantId : TenantId) (outboxId : JsString) (source : DocumentDeliveryOutboxSource)
    (occurredAt : Timestamp) : DocumentDeliveryOutboxRecord :=
  { source with id := outboxId, tenantId, status := .pending, attempts := 0, enqueuedAt := occurredAt }

def claim (record : DocumentDeliveryOutboxRecord) (claimId : JsString) (occurredAt : Timestamp) :
    DocumentDeliveryOutboxRecord :=
  { record with
    error := none, retryAt := none, status := .claimed, attempts := record.attempts + 1,
    claimId := some claimId, claimedAt := some occurredAt }

def deliver (record : DocumentDeliveryOutboxRecord) (claimId : JsString) (occurredAt : Timestamp) :
    DocumentDeliveryOutboxRecord :=
  { record with
    error := none, retryAt := none, status := .delivered, claimId := some claimId,
    deliveredAt := some occurredAt }

def fail (record : DocumentDeliveryOutboxRecord) (claimId error : JsString) (retryAt : Option Timestamp)
    (occurredAt : Timestamp) : DocumentDeliveryOutboxRecord :=
  { record with
    status := .failed, claimId := some claimId, failedAt := some occurredAt, error := some error,
    retryAt := retryAt.or record.retryAt }

end DocumentDeliveryOutboxRecord

/-! ## The working set -/

/-- The records after an event: a delivered record leaves the working set. -/
def applyOutboxPayload (tenantId : TenantId) (occurredAt : Timestamp)
    (records : Record JsString DocumentDeliveryOutboxRecord) :
    DocumentDeliveryOutboxEventPayload → Record JsString DocumentDeliveryOutboxRecord
  | .enqueued outboxId source => Record.set records outboxId (.ofEnqueued tenantId outboxId source occurredAt)
  | .claimed outboxId claimId =>
    match Record.get records outboxId with
    | some current => Record.set records current.id (current.claim claimId occurredAt)
    | none => records
  | .delivered outboxId _ => Record.without records [outboxId]
  | .failed outboxId claimId error retryAt =>
    match Record.get records outboxId with
    | some current => Record.set records current.id (current.fail claimId error retryAt occurredAt)
    | none => records
  | .checkpointed .. => records
  | .other _ => records

def applyOutboxEvent (tenantId : TenantId) (state : DocumentDeliveryOutboxState) (event : Recorded OutboxEvent) :
    DocumentDeliveryOutboxState :=
  { tenantId
    version := max state.version event.sequence
    records := applyOutboxPayload tenantId event.event.occurredAt state.records event.event.payload }

def foldDocumentDeliveryOutboxFrom (initial : Option DocumentDeliveryOutboxState) (tenantId : TenantId)
    (events : OutboxLog) : DocumentDeliveryOutboxState :=
  events.foldl (applyOutboxEvent tenantId)
    { tenantId
      version := (initial.map (·.version)).getD 0
      records := (initial.map (·.records)).getD [] }

def foldDocumentDeliveryOutbox (tenantId : TenantId) (events : OutboxLog) : DocumentDeliveryOutboxState :=
  foldDocumentDeliveryOutboxFrom none tenantId events

/-! ## One record -/

def applyOutboxRecordEvent (tenantId : TenantId) (outboxId : JsString)
    (record : Option DocumentDeliveryOutboxRecord) (event : Recorded OutboxEvent) :
    Option DocumentDeliveryOutboxRecord :=
  if event.event.payload.outboxId? = some outboxId then
    match event.event.payload with
    | .enqueued id source => some (.ofEnqueued tenantId id source event.event.occurredAt)
    | .claimed _ claimId => record.map (fun record => record.claim claimId event.event.occurredAt)
    | .delivered _ claimId => record.map (fun record => record.deliver claimId event.event.occurredAt)
    | .failed _ claimId error retryAt =>
      record.map (fun record => record.fail claimId error retryAt event.event.occurredAt)
    | _ => record
  else
    record

def foldDocumentDeliveryOutboxRecordFrom (initial : Option DocumentDeliveryOutboxRecord) (tenantId : TenantId)
    (outboxId : JsString) (events : OutboxLog) : Option DocumentDeliveryOutboxRecord :=
  events.foldl (applyOutboxRecordEvent tenantId outboxId) initial

def foldDocumentDeliveryOutboxRecord (tenantId : TenantId) (outboxId : JsString) (events : OutboxLog) :
    Option DocumentDeliveryOutboxRecord :=
  foldDocumentDeliveryOutboxRecordFrom none tenantId outboxId events

/-! ## The policy of the service -/

def documentDeliveryRetryDue (record : DocumentDeliveryOutboxRecord) (now : Timestamp) : Bool :=
  record.retryAt.all (fun retryAt => compareCodeUnits retryAt now != .gt)

/-- `left.enqueuedAt.localeCompare(right.enqueuedAt) || left.id.localeCompare(right.id)`. -/
def compareOutboxRecords (localeCompare : JsString → JsString → Ordering)
    (left right : DocumentDeliveryOutboxRecord) : Ordering :=
  (localeCompare left.enqueuedAt right.enqueuedAt).then (localeCompare left.id right.id)

def sortOutboxRecords (localeCompare : JsString → JsString → Ordering)
    (records : List DocumentDeliveryOutboxRecord) : List DocumentDeliveryOutboxRecord :=
  records.insertionSort (fun left right => compareOutboxRecords localeCompare left right ≠ .gt)

def sortedDocumentDeliveryOutboxRecords (localeCompare : JsString → JsString → Ordering)
    (state : DocumentDeliveryOutboxState) : List DocumentDeliveryOutboxRecord :=
  sortOutboxRecords localeCompare (state.records.map Prod.snd)

def selectedDocumentDeliveryOutboxRecords (state : DocumentDeliveryOutboxState) (recordIds : List JsString) :
    List DocumentDeliveryOutboxRecord :=
  recordIds.flatMap (fun id => (Record.get state.records id).toList)

def maxClaimLimit : Nat := 100

def documentDeliveryOutboxClaimLimit : Option Rat → Except FrameworkError Nat
  | none => .ok 25
  | some limit =>
    if Json.isSafeInteger limit && decide (0 < limit) && decide (limit ≤ maxClaimLimit) then .ok limit.num.toNat
    else .error (.ofBadRequest (js "Delivery outbox claim limit must be an integer between 1 and 100"))

def requireOutboxRecord (state : DocumentDeliveryOutboxState) (outboxId : JsString) :
    Except FrameworkError DocumentDeliveryOutboxRecord :=
  match Record.get state.records outboxId with
  | some record => .ok record
  | none =>
    .error (.notFound (js "Document delivery outbox record '" ++ outboxId ++ js "' was not found"))

def claimableDocumentDeliveryOutboxRecords (localeCompare : JsString → JsString → Ordering)
    (state : DocumentDeliveryOutboxState) (now : Timestamp) (limit : Nat) : List DocumentDeliveryOutboxRecord :=
  (sortOutboxRecords localeCompare ((state.records.map Prod.snd).filter (fun record =>
    record.status = .pending || (record.status = .failed && documentDeliveryRetryDue record now)))).take limit

def ensureDocumentDeliveryOutboxClaimed (record : DocumentDeliveryOutboxRecord) (claimId : JsString) :
    Except FrameworkError Unit :=
  ensure (record.status = .claimed && record.claimId = some claimId)
    (.conflict (js "Document delivery outbox record '" ++ record.id ++ js "' is not claimed by '" ++ claimId ++
      js "'"))

def documentDeliveryOutboxFailureError (error : JsString) : Except FrameworkError JsString :=
  if (Json.trim error).isEmpty then .error (.ofBadRequest (js "Delivery failure error is required"))
  else .ok (Json.trim error)
