import CfFrappe.Core.NotificationRules
import CfFrappe.Core.Streams
import CfFrappe.Lib.EventLog

set_option autoImplicit false

/-! # E-mail notifications

The outbox stream of a message and `EmailNotificationService` as programs on the event store. An
event queues a message for each of its notifications; a worker claims a message, hands it to the
sender and records how that went. `append` reads the stream again and writes at the version that
it finds, whatever the read before has decided on; `appendClaimCompletion` writes at the version
of the state that it has looked at.
-/

open Utf

/-! ## Messages -/

structure EmailAddress where
  email : JsString
  name : Option JsString := none
  deriving DecidableEq

structure EmailMessage where
  «from» : EmailAddress
  «to» : List EmailAddress
  subject : JsString
  text : JsString
  headers : Option (Record JsString JsString) := none
  deriving DecidableEq

structure QueuedEmailMessage where
  messageId : JsString
  sourceEventId : JsString
  sourceEventType : JsString
  payloadKind : JsString
  ruleName : JsString
  recipientId : JsString
  «from» : EmailAddress
  «to» : EmailAddress
  subject : JsString
  text : JsString
  headers : Option (Record JsString JsString) := none
  deriving DecidableEq

inductive EmailStatus
  | queued
  | claimed
  | failed
  | sent
  deriving DecidableEq

structure EmailOutboxRecord extends QueuedEmailMessage where
  status : EmailStatus
  claimId : Option JsString := none
  claimedAt : Option Timestamp := none
  providerMessageId : Option JsString := none
  error : Option JsString := none
  deriving DecidableEq

structure SkippedEmailOutboxRecord where
  messageId : JsString
  sourceEventId : JsString
  sourceEventType : JsString
  payloadKind : JsString
  ruleName : JsString
  recipientId : JsString
  reason : Option JsString := none
  deriving DecidableEq

inductive EmailOutboxRecordEntry
  | message (record : EmailOutboxRecord)
  | skipped (record : SkippedEmailOutboxRecord)
  deriving DecidableEq

inductive EmailNotificationEventPayload
  | queued (message : QueuedEmailMessage)
  | sent (messageId claimId : JsString) (providerMessageId : Option JsString)
  | deliveryClaimed (messageId claimId : JsString)
  | failed (messageId claimId error : JsString)
  | skipped (record : SkippedEmailOutboxRecord)
  deriving DecidableEq

/-- `emailNotificationEventType`: the kind of the payload. -/
def emailNotificationEventType : EmailNotificationEventPayload → JsString
  | .queued _ => js "EmailNotificationQueued"
  | .sent .. => js "EmailNotificationSent"
  | .deliveryClaimed .. => js "EmailNotificationDeliveryClaimed"
  | .failed .. => js "EmailNotificationFailed"
  | .skipped _ => js "EmailNotificationSkipped"

/-- The events of an outbox stream: all of them are of this service, so that a read by
`EMAIL_OUTBOX_PAYLOAD_KINDS` leaves none out. Their metadata is empty. -/
structure EmailOutboxEvent where
  id : JsString
  tenantId : TenantId
  stream : StreamName
  type : JsString
  documentName : DocumentName
  actorId : JsString
  occurredAt : Timestamp
  payload : EmailNotificationEventPayload
  deriving DecidableEq

abbrev EmailOutboxLog := List (Recorded EmailOutboxEvent)

/-! ## The fold -/

abbrev EmailOutboxMessages := Record JsString EmailOutboxRecordEntry

structure EmailOutboxState where
  tenantId : TenantId
  version : Nat
  messages : EmailOutboxMessages

/-- The record after a claim has been completed, if it is the claim that holds the message. -/
def completeClaim (messages : EmailOutboxMessages) (messageId claimId : JsString)
    (complete : EmailOutboxRecord → EmailOutboxRecord) : EmailOutboxMessages :=
  match Record.get messages messageId with
  | some (.message existing) =>
    if existing.status = .claimed ∧ existing.claimId = some claimId then
      Record.set messages messageId (.message (complete existing))
    else messages
  | _ => messages

def applyEmailPayload (occurredAt : Timestamp) (messages : EmailOutboxMessages) :
    EmailNotificationEventPayload → EmailOutboxMessages
  | .queued message => Record.set messages message.messageId (.message { message with status := .queued })
  | .sent messageId claimId providerMessageId =>
    completeClaim messages messageId claimId (fun existing =>
      { existing with
        status := .sent, providerMessageId := providerMessageId.or existing.providerMessageId })
  | .deliveryClaimed messageId claimId =>
    match Record.get messages messageId with
    | some (.message existing) =>
      if existing.status = .sent then messages
      else
        Record.set messages messageId
          (.message { existing with status := .claimed, claimId := some claimId, claimedAt := some occurredAt })
    | _ => messages
  | .failed messageId claimId error =>
    completeClaim messages messageId claimId (fun existing => { existing with status := .failed, error := some error })
  | .skipped record => Record.set messages record.messageId (.skipped record)

def applyEmailOutboxEvent (state : EmailOutboxState) (event : Recorded EmailOutboxEvent) : EmailOutboxState :=
  { state with
    version := max state.version event.sequence
    messages := applyEmailPayload event.event.occurredAt state.messages event.event.payload }

/-- The state of an outbox stream. Streams are read in the order of their sequences. -/
def foldEmailOutbox (tenantId : TenantId) (events : EmailOutboxLog) : EmailOutboxState :=
  events.foldl applyEmailOutboxEvent { tenantId, version := 0, messages := [] }

/-! ## Policy -/

/-- What the language and the deployment give the service. -/
structure EmailPlatform where
  canonicalize : UInt16 → UInt16
  dateParse : JsString → Option Int
  «from» : EmailAddress
  claimTimeoutMs : Int

def emailNotificationMessageId (eventId ruleName recipientId : JsString) : Except FrameworkError JsString :=
  match PercentEncoding.encodeURIComponent ruleName, PercentEncoding.encodeURIComponent recipientId with
  | some rule, some recipient => .ok (eventId ++ js ":rule:" ++ rule ++ js ":email:" ++ recipient)
  | _, _ => .error uriMalformed

def isStaleEmailClaim (platform : EmailPlatform) (record : EmailOutboxRecord) (now : Timestamp) : Bool :=
  match record.claimedAt.bind platform.dateParse, platform.dateParse now with
  | some claimedAt, some current => platform.claimTimeoutMs ≤ current - claimedAt
  | _, _ => false

def missingEmailRecipientReason (recipientId : JsString) : JsString :=
  js "No deliverable email address for user '" ++ recipientId ++ js "'"

/-- What becomes of a notification: queued, or not deliverable. -/
inductive DocumentEmailNotificationQueueResult
  | queued (messageId eventId ruleName recipientId «to» subject : JsString)
  | skipped (messageId eventId ruleName recipientId reason : JsString)
  deriving DecidableEq

inductive DocumentEmailNotificationDelivery
  | sent (messageId : JsString) (providerMessageId : Option JsString)
      (eventId ruleName recipientId «to» subject : JsString)
  | failed (messageId eventId ruleName recipientId «to» subject error : JsString)
  | skipped (messageId eventId ruleName recipientId reason : JsString)
  deriving DecidableEq

def queueResultFromOutboxRecord : EmailOutboxRecordEntry → Option DocumentEmailNotificationQueueResult
  | .skipped record =>
    some (.skipped record.messageId record.sourceEventId record.ruleName record.recipientId
      (record.reason.getD (missingEmailRecipientReason record.recipientId)))
  | .message record =>
    if record.status = .sent then none
    else
      some (.queued record.messageId record.sourceEventId record.ruleName record.recipientId record.to.email
        record.subject)

/-- The results that `isSkippedEmailNotificationQueueResult` keeps, as deliveries. -/
def skippedDelivery : DocumentEmailNotificationQueueResult → Option DocumentEmailNotificationDelivery
  | .skipped messageId eventId ruleName recipientId reason =>
    some (.skipped messageId eventId ruleName recipientId reason)
  | .queued .. => none

def queuedEmailMessage (platform : EmailPlatform) (messageId : JsString)
    (notification : DocumentEmailNotificationPayload) («to» : EmailAddress) : QueuedEmailMessage :=
  { messageId
    sourceEventId := notification.eventId
    sourceEventType := notification.eventType
    payloadKind := notification.payloadKind
    ruleName := notification.ruleName
    recipientId := notification.recipientId
    «from» := platform.from
    «to»
    subject := notification.subject
    text := notification.text
    headers := some
      [(js "X-CF-Frappe-Event", notification.eventId), (js "X-CF-Frappe-Rule", notification.ruleName)] }

def skippedEmail (messageId : JsString) (notification : DocumentEmailNotificationPayload) :
    SkippedEmailOutboxRecord :=
  { messageId
    sourceEventId := notification.eventId
    sourceEventType := notification.eventType
    payloadKind := notification.payloadKind
    ruleName := notification.ruleName
    recipientId := notification.recipientId
    reason := some (missingEmailRecipientReason notification.recipientId) }

/-- The message that a claim hands to the sender. -/
def claimedMessage (claim : EmailOutboxRecord) : EmailMessage :=
  { «from» := claim.from, «to» := [claim.to], subject := claim.subject, text := claim.text, headers := claim.headers }

/-! ## Programs -/

/-- What the service asks for besides the store. The sender gets the message only; the message id
and the claim say what it is sent for. -/
inductive EmailCall
  | notificationRulesFor (tenantId : TenantId) (doctype : DocTypeName) (occurredAt : Timestamp)
  | emailForUser (tenantId : TenantId) (userId : JsString)
  | nextId (start : JsString)
  | now
  | send (tenantId : TenantId) (messageId claimId : JsString) (message : EmailMessage)

/-- A sender answers with the id of the provider, or throws an error with a message. -/
def EmailCall.Reply : EmailCall → Type
  | .notificationRulesFor .. => Except FrameworkError (List NotificationRuleDefinition)
  | .emailForUser .. => Except FrameworkError (Option EmailAddress)
  | .nextId _ => JsString
  | .now => Timestamp
  | .send .. => Except JsString (Option JsString)

abbrev EmailProgram (α : Type) := LogProgram StreamName EmailOutboxEvent EmailCall FrameworkError EmailCall.Reply α

namespace EmailNotificationService

def emailOutboxActorId : JsString := js "system:email-outbox"

def now : EmailProgram Timestamp := LogProgram.other EmailCall.now

def nextId (start : JsString) : EmailProgram JsString := LogProgram.other (EmailCall.nextId start)

def notificationRulesFor (event : DomainEvent) : EmailProgram (List NotificationRuleDefinition) := do
  let rules ← (LogProgram.other (EmailCall.notificationRulesFor event.tenantId event.doctype event.occurredAt) :
    EmailProgram (Except FrameworkError (List NotificationRuleDefinition)))
  Program.ofExcept rules

def emailForUser (tenantId : TenantId) (userId : JsString) : EmailProgram (Option EmailAddress) := do
  let address ← (LogProgram.other (EmailCall.emailForUser tenantId userId) :
    EmailProgram (Except FrameworkError (Option EmailAddress)))
  Program.ofExcept address

def send (tenantId : TenantId) (messageId claimId : JsString) (message : EmailMessage) :
    EmailProgram (Except JsString (Option JsString)) :=
  LogProgram.other (EmailCall.send tenantId messageId claimId message)

def outboxStream (tenantId : TenantId) (messageId : JsString) : EmailProgram StreamName :=
  Program.ofExcept (requireStream (emailOutboxStream tenantId messageId))

def state (tenantId : TenantId) (messageId : JsString) : EmailProgram EmailOutboxState := do
  let stream ← outboxStream tenantId messageId
  let events ← LogProgram.read stream
  pure (foldEmailOutbox tenantId events)

/-- The event of a payload, with an id and the time. -/
def outboxEvent (tenantId : TenantId) (messageId : JsString) (stream : StreamName)
    (payload : EmailNotificationEventPayload) : EmailProgram EmailOutboxEvent := do
  let id ← nextId (js "evt_")
  let occurredAt ← now
  pure
    { id, tenantId, stream, type := emailNotificationEventType payload, documentName := messageId
      actorId := emailOutboxActorId, occurredAt, payload }

/-- `append`, with the error of the store as a value: the version is that of a read of its own. -/
def tryAppend (tenantId : TenantId) (messageId : JsString) (payload : EmailNotificationEventPayload) :
    EmailProgram (Except FrameworkError (Recorded EmailOutboxEvent)) := do
  let stream ← outboxStream tenantId messageId
  let state ← state tenantId messageId
  let event ← outboxEvent tenantId messageId stream payload
  let saved ← LogProgram.append stream state.version [event]
  match saved with
  | .error error => pure (.error error)
  | .ok (saved :: _) => pure (.ok saved)
  | .ok [] =>
    .throw (.ofError (js "Email outbox append for '" ++ messageId ++ js "' in tenant '" ++ tenantId ++
      js "' did not return '" ++ emailNotificationEventType payload ++ js "'"))

def append (tenantId : TenantId) (messageId : JsString) (payload : EmailNotificationEventPayload) :
    EmailProgram (Recorded EmailOutboxEvent) := do
  let saved ← tryAppend tenantId messageId payload
  Program.ofExcept saved

variable (platform : EmailPlatform)

/-! ### Queueing -/

/-- One turn of the loop of `queueFromDomainEvent`. -/
def queueNotification (tenantId : TenantId) (notification : DocumentEmailNotificationPayload) :
    EmailProgram (Option DocumentEmailNotificationQueueResult) := do
  let messageId ← Program.ofExcept
    (emailNotificationMessageId notification.eventId notification.ruleName notification.recipientId)
  let current ← state tenantId messageId
  match Record.get current.messages messageId with
  | some current => pure (queueResultFromOutboxRecord current)
  | none => do
      let address ← emailForUser notification.tenantId notification.recipientId
      match address with
      | none => do
          let _ ← append tenantId messageId (.skipped (skippedEmail messageId notification))
          pure (some (.skipped messageId notification.eventId notification.ruleName notification.recipientId
            (missingEmailRecipientReason notification.recipientId)))
      | some address => do
          let _ ← append tenantId messageId (.queued (queuedEmailMessage platform messageId notification address))
          pure (some (.queued messageId notification.eventId notification.ruleName notification.recipientId
            address.email notification.subject))

def queueNotifications (tenantId : TenantId) :
    List DocumentEmailNotificationPayload → EmailProgram (List DocumentEmailNotificationQueueResult)
  | [] => pure []
  | notification :: notifications => do
      let result ← queueNotification platform tenantId notification
      let results ← queueNotifications tenantId notifications
      pure (result.toList ++ results)

def queueFromDomainEvent (event : DomainEvent) (snapshot : Option DocumentSnapshot) :
    EmailProgram (List DocumentEmailNotificationQueueResult) := do
  let rules ← notificationRulesFor event
  queueNotifications platform event.tenantId
    (documentEmailNotificationsFromRules platform.canonicalize event snapshot rules)

/-! ### Delivery -/

/-- The claim, once its append has been tried: a conflict leaves the message to somebody else. -/
def claimResult (record : EmailOutboxRecord) (claimId : JsString) :
    Except FrameworkError (Recorded EmailOutboxEvent) → EmailProgram (Option EmailOutboxRecord)
  | .ok claimed =>
    pure (some
      { record with
        status := .claimed, claimId := some claimId, claimedAt := some claimed.event.occurredAt })
  | .error error => if isDocumentConflictError error then pure none else .throw error

def appendClaim (tenantId : TenantId) (messageId : JsString) (record : EmailOutboxRecord) :
    EmailProgram (Option EmailOutboxRecord) := do
  let claimId ← nextId (js "claim_")
  let saved ← tryAppend tenantId messageId (.deliveryClaimed messageId claimId)
  claimResult record claimId saved

/-- `claimOutboxMessage`, for a record that is not sent: a claim that is not stale holds the message. -/
def claimOutboxMessage (tenantId : TenantId) (messageId : JsString) (record : EmailOutboxRecord) :
    EmailProgram (Option EmailOutboxRecord) :=
  if record.status = .claimed then do
    let current ← now
    if isStaleEmailClaim platform record current then appendClaim tenantId messageId record else pure none
  else appendClaim tenantId messageId record

/-- Records how a claim went, if the claim still holds the message at the version that is written. -/
def appendClaimCompletion (tenantId : TenantId) (messageId claimId : JsString)
    (payload : EmailNotificationEventPayload) : EmailProgram Bool := do
  let stream ← outboxStream tenantId messageId
  let state ← state tenantId messageId
  match Record.get state.messages messageId with
  | some (.message current) =>
    if current.status = .claimed ∧ current.claimId = some claimId then do
      let event ← outboxEvent tenantId messageId stream payload
      let saved ← LogProgram.append stream state.version [event]
      match saved with
      | .ok _ => pure true
      | .error error => if isDocumentConflictError error then pure false else .throw error
    else pure false
  | _ => pure false

/-- The message of a claim goes to the sender, and the outbox learns how that went. -/
def sendClaimed (tenantId : TenantId) (messageId : JsString) (claim : EmailOutboxRecord) (claimId : JsString) :
    EmailProgram (Option DocumentEmailNotificationDelivery) := do
  let sent ← send tenantId messageId claimId (claimedMessage claim)
  match sent with
  | .error error => do
      let recorded ← appendClaimCompletion tenantId messageId claimId (.failed messageId claimId error)
      pure (if recorded then
          some (.failed messageId claim.sourceEventId claim.ruleName claim.recipientId claim.to.email claim.subject error)
        else none)
  | .ok providerMessageId => do
      let recorded ← appendClaimCompletion tenantId messageId claimId (.sent messageId claimId providerMessageId)
      pure (if recorded then
          some (.sent messageId providerMessageId claim.sourceEventId claim.ruleName claim.recipientId claim.to.email
            claim.subject)
        else none)

def deliverClaimed (tenantId : TenantId) (messageId : JsString) :
    Option EmailOutboxRecord → EmailProgram (Option DocumentEmailNotificationDelivery)
  | none => pure none
  | some claim =>
    match claim.claimId with
    | some claimId => sendClaimed tenantId messageId claim claimId
    | none =>
      .throw (.ofError (js "Claimed email outbox message '" ++ messageId ++ js "' has no claim id"))

def deliverOutboxMessage (tenantId : TenantId) (messageId : JsString) :
    EmailProgram (Option DocumentEmailNotificationDelivery) := do
  let current ← state tenantId messageId
  match Record.get current.messages messageId with
  | some (.message record) =>
    if record.status = .sent then pure none
    else do
      let claim ← claimOutboxMessage platform tenantId messageId record
      deliverClaimed tenantId messageId claim
  | _ => pure none

/-- The messages of some notifications, each once. -/
def deliverNotifications (tenantId : TenantId) : List JsString → List DocumentEmailNotificationPayload →
    EmailProgram (List DocumentEmailNotificationDelivery)
  | _, [] => pure []
  | seen, notification :: notifications => do
      let messageId ← Program.ofExcept
        (emailNotificationMessageId notification.eventId notification.ruleName notification.recipientId)
      if seen.contains messageId then deliverNotifications tenantId seen notifications
      else do
        let delivery ← deliverOutboxMessage platform tenantId messageId
        let deliveries ← deliverNotifications tenantId (messageId :: seen) notifications
        pure (delivery.toList ++ deliveries)

def deliverFromDomainEvent (event : DomainEvent) (snapshot : Option DocumentSnapshot) :
    EmailProgram (List DocumentEmailNotificationDelivery) := do
  let queued ← queueFromDomainEvent platform event snapshot
  let rules ← notificationRulesFor event
  let deliveries ← deliverNotifications platform event.tenantId []
    (documentEmailNotificationsFromRules platform.canonicalize event snapshot rules)
  pure (queued.filterMap skippedDelivery ++ deliveries)

end EmailNotificationService

/-- What can be asked of the service. -/
inductive EmailCommand
  | queueFromDomainEvent (event : DomainEvent) (snapshot : Option DocumentSnapshot)
  | deliverOutboxMessage (tenantId : TenantId) (messageId : JsString)
  | deliverFromDomainEvent (event : DomainEvent) (snapshot : Option DocumentSnapshot)

inductive EmailResult
  | queued (results : List DocumentEmailNotificationQueueResult)
  | delivered (deliveries : List DocumentEmailNotificationDelivery)

def EmailCommand.program (platform : EmailPlatform) : EmailCommand → EmailProgram EmailResult
  | .queueFromDomainEvent event snapshot => do
      let results ← EmailNotificationService.queueFromDomainEvent platform event snapshot
      pure (.queued results)
  | .deliverOutboxMessage tenantId messageId => do
      let delivery ← EmailNotificationService.deliverOutboxMessage platform tenantId messageId
      pure (.delivered delivery.toList)
  | .deliverFromDomainEvent event snapshot => do
      let deliveries ← EmailNotificationService.deliverFromDomainEvent platform event snapshot
      pure (.delivered deliveries)
