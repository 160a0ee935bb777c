import CfFrappe.Application.DeliveryOutboxService
import CfFrappe.Application.AutomationRunPolicy
import CfFrappe.Lib.Alone

set_option autoImplicit false

/-! # Draining the delivery outbox

`DocumentDeliveryOutboxConsumer.drain` claims a batch of records and delivers them one after the other. The
handlers are functions of the record: what they return or throw may be anything, and every record of a batch is
handed out once. A delivery that throws is recorded as failed, with the time of the next attempt.
-/

open Utf

/-! ## The policy -/

/-- What a handler throws: an error with its message, or some other value with the text that `String` makes of it
(there is none if that throws). -/
inductive ThrownValue
  | error (message : JsString)
  | other (text : Option JsString)

/-- What a handler does with a record. -/
inductive DeliveryResult
  | returned (metadata : Option DocumentData)
  | threw (error : ThrownValue)

/-- `error instanceof Error ? error.message : String(error)`. -/
def documentDeliveryOutboxErrorMessage : ThrownValue → Except FrameworkError JsString
  | .error message => .ok message
  | .other (some text) => .ok text
  | .other none => .error (.ofError (js "Cannot convert object to primitive value"))

def maxDrainLimit : Nat := 100

def documentDeliveryOutboxDrainLimit : Option Rat → Except FrameworkError Rat
  | none => .ok 25
  | some limit =>
    if Json.isSafeInteger limit && decide (0 < limit) && decide (limit ≤ maxDrainLimit) then .ok limit
    else .error (.ofBadRequest (js "Document delivery outbox drain limit must be an integer between 1 and 100"))

/-- The claim of a record: there is one, and it is not blank. -/
def documentDeliveryOutboxRecordClaimId (record : DocumentDeliveryOutboxRecord) : Except FrameworkError JsString :=
  match record.claimId.filter (fun claimId => !(Json.trim claimId).isEmpty) with
  | some claimId => .ok claimId
  | none => .error (.ofBadRequest (js "Document delivery outbox record '" ++ record.id ++ js "' is not claimed"))

def documentDeliveryOutboxRetryDelaySeconds (value : Rat) (label : JsString) : Except FrameworkError Nat :=
  if Json.isSafeInteger value && decide (0 < value) then .ok value.num.toNat
  else .error (.ofBadRequest (label ++ js " must be a positive integer"))

/-- The delay doubles with every attempt after the first one, up to the longest one. -/
def documentDeliveryOutboxRetryDelay (attempts baseDelaySeconds maxDelaySeconds : Nat) : Nat :=
  min maxDelaySeconds (baseDelaySeconds * 2 ^ (attempts - 1))

def documentDeliveryOutboxRetryAt (addSeconds : Timestamp → Nat → Option Timestamp) (now : Timestamp)
    (attempts baseDelaySeconds maxDelaySeconds : Nat) : Except FrameworkError Timestamp :=
  laterTimestamp addSeconds now (documentDeliveryOutboxRetryDelay attempts baseDelaySeconds maxDelaySeconds)

/-! ## The consumer -/

/-- `DocumentDeliveryOutboxConsumer`, with the checks that its constructor makes. -/
structure DocumentDeliveryOutboxConsumer where
  deliveries : DocumentDeliveryOutboxTarget → Option (DocumentDeliveryOutboxRecord → DeliveryResult)
  retryBaseDelaySeconds : Nat
  retryMaxDelaySeconds : Nat
  base_le_max : retryBaseDelaySeconds ≤ retryMaxDelaySeconds

structure DrainDocumentDeliveryOutboxCommand where
  tenantId : TenantId
  claimId : Option JsString := none
  limit : Option Rat := none
  now : Option Timestamp := none

structure DocumentDeliveryOutboxDeliveryOutcome where
  outboxId : JsString
  target : DocumentDeliveryOutboxTarget
  status : DocumentDeliveryOutboxStatus
  attempts : Nat
  error : Option JsString := none
  retryAt : Option Timestamp := none
  deriving DecidableEq

structure DocumentDeliveryOutboxDrainResult where
  tenantId : TenantId
  claimed : Nat
  delivered : Nat
  failed : Nat
  outcomes : List DocumentDeliveryOutboxDeliveryOutcome
  deriving DecidableEq

namespace DocumentDeliveryOutboxConsumer

open DocumentDeliveryOutboxService

/-- The constructor: both delays are positive integers, by default 30 and 1800 seconds. -/
def create (deliveries : DocumentDeliveryOutboxTarget → Option (DocumentDeliveryOutboxRecord → DeliveryResult))
    (baseDelaySeconds maxDelaySeconds : Option Rat) : Except FrameworkError DocumentDeliveryOutboxConsumer := do
  let base ← documentDeliveryOutboxRetryDelaySeconds (baseDelaySeconds.getD 30)
    (js "Document delivery outbox retry baseDelaySeconds")
  let max ← documentDeliveryOutboxRetryDelaySeconds (maxDelaySeconds.getD 1800)
    (js "Document delivery outbox retry maxDelaySeconds")
  if h : base ≤ max then
    pure { deliveries, retryBaseDelaySeconds := base, retryMaxDelaySeconds := max, base_le_max := h }
  else
    .error (.ofBadRequest (js "Document delivery outbox retry maxDelaySeconds must be greater than or equal to baseDelaySeconds"))

variable (addSeconds : Timestamp → Nat → Option Timestamp) (localeCompare : JsString → JsString → Ordering)
variable (consumer : DocumentDeliveryOutboxConsumer)

/-- The metadata that every outcome carries. -/
def outcomeMetadata (record : DocumentDeliveryOutboxRecord) : DocumentData :=
  [(js "target", .str record.target.text), (js "sourceEventId", .str record.sourceEventId)]

def fail (record : DocumentDeliveryOutboxRecord) (claimId : JsString) (now : Timestamp) (error : JsString) :
    OutboxProgram DocumentDeliveryOutboxDeliveryOutcome := do
  let retryAt ← Program.ofExcept (documentDeliveryOutboxRetryAt addSeconds now record.attempts
    consumer.retryBaseDelaySeconds consumer.retryMaxDelaySeconds)
  let failed ← markFailed
    { tenantId := record.tenantId
      outboxId := record.id
      claimId
      error
      retryAt := some retryAt
      metadata := outcomeMetadata record }
  pure
    { outboxId := failed.id
      target := failed.target
      status := .failed
      attempts := failed.attempts
      error := some error
      retryAt := some retryAt }

/-- `markDelivered` is inside of the `try`, so an error of it fails the record as well. -/
def completeDelivery (record : DocumentDeliveryOutboxRecord) (claimId : JsString) (now : Timestamp) :
    Except FrameworkError DocumentDeliveryOutboxRecord → OutboxProgram DocumentDeliveryOutboxDeliveryOutcome
  | .ok delivered =>
    pure
      { outboxId := delivered.id
        target := delivered.target
        status := .delivered
        attempts := delivered.attempts }
  | .error error => fail addSeconds consumer record claimId now error.message

def finish (record : DocumentDeliveryOutboxRecord) (claimId : JsString) (now : Timestamp) :
    DeliveryResult → OutboxProgram DocumentDeliveryOutboxDeliveryOutcome
  | .returned metadata => do
      let delivered ← Program.attempt (markDelivered
        { tenantId := record.tenantId
          outboxId := record.id
          claimId
          metadata := Record.merge (outcomeMetadata record) (metadata.getD []) })
      completeDelivery addSeconds consumer record claimId now delivered
  | .threw error => do
      let message ← Program.ofExcept (documentDeliveryOutboxErrorMessage error)
      fail addSeconds consumer record claimId now message

def missingHandler (target : DocumentDeliveryOutboxTarget) : JsString :=
  js "No document delivery handler is configured for target '" ++ target.text ++ js "'"

def deliver (record : DocumentDeliveryOutboxRecord) (now : Timestamp) :
    OutboxProgram DocumentDeliveryOutboxDeliveryOutcome := do
  let claimId ← Program.ofExcept (documentDeliveryOutboxRecordClaimId record)
  match consumer.deliveries record.target with
  | none => fail addSeconds consumer record claimId now (missingHandler record.target)
  | some handler => finish addSeconds consumer record claimId now (handler record)

/-- The loop of `drain`. -/
def deliverAll (now : Timestamp) :
    List DocumentDeliveryOutboxRecord → OutboxProgram (List DocumentDeliveryOutboxDeliveryOutcome)
  | [] => pure []
  | record :: records => do
      let outcome ← deliver addSeconds consumer record now
      let outcomes ← deliverAll now records
      pure (outcome :: outcomes)

def drain (command : DrainDocumentDeliveryOutboxCommand) : OutboxProgram DocumentDeliveryOutboxDrainResult := do
  let now ← nowOr command.now
  let limit ← Program.ofExcept (documentDeliveryOutboxDrainLimit command.limit)
  let claimed ← claimPending localeCompare
    { tenantId := command.tenantId, claimId := command.claimId, limit := some limit, now := some now }
  let outcomes ← deliverAll addSeconds consumer now claimed
  pure
    { tenantId := command.tenantId
      claimed := claimed.length
      delivered := outcomes.countP (fun outcome => outcome.status = .delivered)
      failed := outcomes.countP (fun outcome => outcome.status = .failed)
      outcomes }

end DocumentDeliveryOutboxConsumer
