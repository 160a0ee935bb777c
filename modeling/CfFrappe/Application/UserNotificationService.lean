import CfFrappe.Application.UserNotificationEvents

set_option autoImplicit false

/-! # The service of user notifications

`UserNotificationService` as programs on an event store and a snapshot store. The state of a user is
resumed from a stored state and the tail of the stream behind it (`resume`, as in `StreamFoldSnapshots`);
a command plans on that state, appends at its version and stores the state that it has made
(`recordState`). Stored states may be lost or as old as they like.

The one fold of a user's stream has one name and one version, so a snapshot is kept for its stream.
-/

open Utf

/-! ## Actions -/

/-- A stored state, with the last sequence that it contains. -/
structure UserNotificationSnapshot where
  stream : StreamName
  uptoSequence : Nat
  state : StoredUserNotifications
  deriving DecidableEq

/-- The streams, and every snapshot that was ever written. -/
structure InboxWorld where
  logs : StreamName → UserNotificationLog
  snapshots : List UserNotificationSnapshot

inductive InboxAction
  /-- `snapshots.read` -/
  | readSnapshot (stream : StreamName)
  /-- `events.readStream` from a sequence on -/
  | readStream (stream : StreamName) (minSequence : Nat)
  | append (stream : StreamName) (version : Nat) (event : UserNotificationEvent)
  /-- `snapshots.write` -/
  | writeSnapshot (snapshot : UserNotificationSnapshot)
  | notificationRulesFor (tenantId : TenantId) (doctype : DocTypeName) (occurredAt : Timestamp)
  | nextId (start : JsString)
  | now

def InboxAction.Reply : InboxAction → Type
  | .readSnapshot _ => Except FrameworkError (Option UserNotificationSnapshot)
  | .readStream _ _ => Except FrameworkError UserNotificationLog
  | .append _ _ _ => Except FrameworkError UserNotificationLog
  | .writeSnapshot _ => Except FrameworkError Unit
  | .notificationRulesFor _ _ _ => Except FrameworkError (List NotificationRuleDefinition)
  | .nextId _ => JsString
  | .now => Timestamp

abbrev InboxProgram (α : Type) := Program InboxAction InboxAction.Reply FrameworkError α

def InboxAction.perform (action : InboxAction) : InboxProgram action.Reply := .act action .pure

namespace InboxWorld

/-- The world after an append. -/
def push (w : InboxWorld) (stream : StreamName) (event : UserNotificationEvent) : InboxWorld :=
  { w with
    logs := fun k => if k = stream then w.logs k ++ recorded (w.logs k).length [event] else w.logs k }

/-- How an action changes the world. The snapshot store may fail, lose what it has, or return anything
that was written for the stream; an append is saved at its version only. -/
def exec (w : InboxWorld) : (action : InboxAction) → action.Reply → InboxWorld → Prop
  | .readSnapshot stream, reply, w' =>
    (∀ snapshot, reply = .ok (some snapshot) → snapshot ∈ w.snapshots ∧ snapshot.stream = stream) ∧ w' = w
  | .readStream stream minSequence, reply, w' =>
    ((∃ error, reply = .error error) ∨
      reply = .ok ((w.logs stream).filter (fun event => decide (minSequence ≤ event.sequence)))) ∧ w' = w
  | .append stream version event, reply, w' =>
    (∃ error, reply = .error error ∧ w' = w) ∨
      (w.logs stream).length = version ∧ reply = .ok (recorded version [event]) ∧ w' = w.push stream event
  | .writeSnapshot snapshot, reply, w' =>
    ((∃ error, reply = .error error) ∧ w' = w) ∨ w' = { w with snapshots := w.snapshots ++ [snapshot] }
  | .notificationRulesFor _ _ _, _, w' => w' = w
  | .nextId _, _, w' => w' = w
  | .now, _, w' => w' = w

end InboxWorld

/-! ## Policy -/

/-- What the language and the deployment give the service: whether there are snapshots and rules, and
the roles that may look at the notifications of others. -/
structure InboxPlatform where
  canonicalize : UInt16 → UInt16
  localeCompare : JsString → JsString → Ordering
  adminRoles : List JsString
  snapshots : Bool
  notificationRules : Bool

def normalizeUserNotificationUserId (value : JsString) : Except FrameworkError JsString :=
  let normalized := Json.trim value
  if normalized.isEmpty then .error (.ofBadRequest (js "Notification user is required")) else .ok normalized

def normalizeUserNotificationId (value : JsString) : Except FrameworkError JsString :=
  let normalized := Json.trim value
  if normalized.isEmpty then .error (.ofBadRequest (js "Notification id is required")) else .ok normalized

def userNotificationDefaultInboxLimit : Nat := 50

def userNotificationMaxInboxLimit : Nat := 200

def normalizeUserNotificationInboxLimit : Option Rat → Except FrameworkError Nat
  | none => .ok userNotificationDefaultInboxLimit
  | some value =>
    if value.den = 1 ∧ 1 ≤ value.num ∧ value.num ≤ userNotificationMaxInboxLimit then .ok value.num.toNat
    else .error (.ofBadRequest (js "Notification limit must be between 1 and 200"))

structure UserNotificationAccess where
  tenantId : TenantId
  userId : JsString
  deriving DecidableEq

/-- `authorizeUser`, by `planUserNotificationAccess`. -/
def authorizeUser (platform : InboxPlatform) (actor : Actor) (explicitUserId : Option JsString) :
    Except FrameworkError UserNotificationAccess := do
  let tenantId := actor.tenantId.getD defaultTenantId
  let userId ← normalizeUserNotificationUserId (explicitUserId.getD actor.id)
  if userId ≠ actor.id ∧ ¬ platform.adminRoles.any (fun role => actor.roles.contains role) then
    .error (.denied (js "Actor '" ++ actor.id ++ js "' cannot inspect notifications for '" ++ userId ++ js "'"))
  else return { tenantId, userId }

/-- `requireNotification`, by `planUserNotificationLookup`. -/
def requireNotification (state : UserNotificationState) (notificationId : JsString) :
    Except FrameworkError UserNotificationRecord := do
  let id ← normalizeUserNotificationId notificationId
  match Record.get state.notifications id with
  | some notification => return notification
  | none => .error (.notFound (js "Notification '" ++ id ++ js "' was not found"))

def requireReplayedNotification (state : UserNotificationState) (notificationId : JsString) :
    Except FrameworkError UserNotificationRecord :=
  match Record.get state.notifications notificationId with
  | some notification => .ok notification
  | none =>
    .error (.ofError (js "Notification '" ++ notificationId ++ js "' for user '" ++ state.userId ++
      js "' in tenant '" ++ state.tenantId ++ js "' was not found after replay"))

/-- The newest first; `localeCompare` compares the times and the ids. -/
def sortedUserNotifications (platform : InboxPlatform) (state : UserNotificationState) : List UserNotificationRecord :=
  (state.notifications.map Prod.snd).insertionSort (fun left right =>
    (platform.localeCompare right.createdAt left.createdAt).then (platform.localeCompare right.id left.id) ≠ .gt)

structure UserNotificationInboxQuery where
  userId : Option JsString := none
  unreadOnly : Option Bool := none
  includeDismissed : Option Bool := none
  limit : Option Rat := none

structure UserNotificationInbox where
  tenantId : TenantId
  userId : JsString
  limit : Nat
  unreadCount : Nat
  unreadOnly : Bool
  includeDismissed : Bool
  notifications : List UserNotificationRecord
  deriving DecidableEq

def userNotificationInboxProjection (platform : InboxPlatform) (state : UserNotificationState) (limit : Nat)
    (query : UserNotificationInboxQuery) : UserNotificationInbox :=
  let unreadOnly := query.unreadOnly.getD false
  let includeDismissed := query.includeDismissed.getD false
  let ordered := sortedUserNotifications platform state
  let notifications := (ordered.filter (fun notification => includeDismissed || !notification.dismissed)).filter
    (fun notification => !unreadOnly || !notification.read)
  { tenantId := state.tenantId
    userId := state.userId
    limit
    unreadCount := (ordered.filter (fun notification => !notification.read && !notification.dismissed)).length
    unreadOnly
    includeDismissed
    notifications := notifications.take limit }

/-! ## Snapshots -/

namespace StreamFoldSnapshots

/-- `read`: the stored state of the fold, if it is there and `decode` recognises it. -/
def read (platform : InboxPlatform) (stream : StreamName) : InboxProgram (Option (Nat × UserNotificationState)) := do
  if !platform.snapshots then return none
  else
    match ← (InboxAction.readSnapshot stream).perform with
    | .error _ => return none
    | .ok none => return none
    | .ok (some stored) =>
      return (UserNotificationsCodec.decode stored.state).map (fun state => (stored.uptoSequence, state))

/-- The fold of the whole stream. -/
def whole (stream : StreamName) (tenantId : TenantId) (userId : JsString) : InboxProgram UserNotificationState := do
  let reply ← (InboxAction.readStream stream 0).perform
  let events ← Program.ofExcept reply
  return foldUserNotificationsFrom none tenantId userId events

/-- `resume`: the tail of the stream, folded onto the stored state. -/
def resume (platform : InboxPlatform) (stream : StreamName) (tenantId : TenantId) (userId : JsString) :
    InboxProgram UserNotificationState := do
  match ← read platform stream with
  | none => whole stream tenantId userId
  | some (uptoSequence, base) =>
    match ← (InboxAction.readStream stream (uptoSequence + 1)).perform with
    | .ok events => return foldUserNotificationsFrom (some base) tenantId userId events
    | .error _ => whole stream tenantId userId

/-- `record`, whose failures are ignored. -/
def record (platform : InboxPlatform) (stream : StreamName) (state : UserNotificationState) (uptoSequence : Nat) :
    InboxProgram Unit := do
  if !platform.snapshots || uptoSequence = 0 then return ()
  else
    let _ ← (InboxAction.writeSnapshot
      { stream, uptoSequence, state := UserNotificationsCodec.encode state }).perform
    return ()

end StreamFoldSnapshots

/-! ## The service -/

namespace UserNotificationService

variable (platform : InboxPlatform)

def maxNotificationAppendAttempts : Nat := 5

def userStream (tenantId : TenantId) (userId : JsString) : InboxProgram StreamName :=
  Program.ofExcept (requireStream (userNotificationsStream tenantId userId))

def state (tenantId : TenantId) (userId : JsString) : InboxProgram UserNotificationState := do
  let stream ← userStream tenantId userId
  StreamFoldSnapshots.resume platform stream tenantId userId

/-- `recordState`: the sequence is that of the last saved event of the stream. -/
def recordState (state : UserNotificationState) (saved : UserNotificationLog) : InboxProgram Unit := do
  let stream ← userStream state.tenantId state.userId
  match (saved.filter (fun event => event.event.stream = stream)).getLast? with
  | none => return ()
  | some last => StreamFoldSnapshots.record platform stream state last.sequence

def recordedPayload (notificationId : JsString) (notification : DocumentUserNotificationPayload) :
    RecordedUserNotification :=
  { notificationId
    sourceEventId := notification.eventId
    eventType := notification.eventType
    payloadKind := notification.payloadKind
    recipientId := notification.recipientId
    doctype := notification.doctype
    documentName := notification.documentName
    actorId := notification.actorId
    subject := notification.subject
    ruleName := notification.ruleName }

/-- The loop of `recordNotification`: after a conflict it looks again. -/
def recordAttempt (notification : DocumentUserNotificationPayload) (notificationId : JsString)
    (occurredAt : Timestamp) : Nat → InboxProgram UserNotificationRecord
  | 0 => .throw (.ofError (js "Unreachable notification append retry state"))
  | remaining + 1 => do
      let state ← state platform notification.tenantId notification.recipientId
      match Record.get state.notifications notificationId with
      | some existing => return existing
      | none =>
        let stream ← userStream notification.tenantId notification.recipientId
        let payload := recordedPayload notificationId notification
        let id : JsString ← (InboxAction.nextId (js "evt_")).perform
        let event : UserNotificationEvent :=
          { id
            tenantId := notification.tenantId
            stream
            type := userNotificationEventType (.recorded payload)
            documentName := notification.recipientId
            actorId := notification.actorId
            occurredAt
            payload := .recorded payload
            metadata := [] }
        match ← (InboxAction.append stream state.version event).perform with
        | .ok appended =>
          recordState platform
            (foldUserNotificationsFrom (some state) notification.tenantId notification.recipientId appended) appended
          match appended with
          | [] =>
            .throw (.ofError (js "User notification append for '" ++ notificationId ++ js "' and user '" ++
              notification.recipientId ++ js "' in tenant '" ++ notification.tenantId ++
              js "' did not return 'UserNotificationRecorded'"))
          | saved :: _ => return notificationFromRecordedEvent saved.event payload
        | .error error =>
          if isDocumentConflictError error && remaining != 0 then
            recordAttempt notification notificationId occurredAt remaining
          else .throw error

def recordNotification (notification : DocumentUserNotificationPayload) (occurredAt : Timestamp) :
    InboxProgram UserNotificationRecord := do
  let notificationId ← Program.ofExcept (notificationIdentity notification)
  recordAttempt platform notification notificationId occurredAt maxNotificationAppendAttempts

def recordNotifications (occurredAt : Timestamp) :
    List DocumentUserNotificationPayload → InboxProgram (List UserNotificationRecord)
  | [] => return []
  | notification :: notifications => do
      let record ← recordNotification platform notification occurredAt
      let records ← recordNotifications occurredAt notifications
      return record :: records

def notificationsForEvent (event : DomainEvent) (snapshot : Option DocumentSnapshot) :
    InboxProgram (List DocumentUserNotificationPayload) := do
  let direct := documentUserNotificationsFromDomainEvent event
  if !platform.notificationRules then return direct
  else
    let reply ← (InboxAction.notificationRulesFor event.tenantId event.doctype event.occurredAt).perform
    let rules ← Program.ofExcept reply
    return direct ++ documentUserNotificationsFromRules platform.canonicalize event snapshot rules

def recordFromDomainEvent (event : DomainEvent) (snapshot : Option DocumentSnapshot) :
    InboxProgram (List UserNotificationRecord) := do
  let notifications ← notificationsForEvent platform event snapshot
  recordNotifications platform event.occurredAt notifications

structure UserNotificationCommand where
  userId : Option JsString := none
  metadata : Option DocumentData := none

/-- `appendUserNotificationEvent` -/
def appendUserNotificationEvent (state : UserNotificationState) (actor : Actor)
    (payload : UserNotificationEventPayload) (metadata : Option DocumentData) : InboxProgram Unit := do
  let stream ← userStream state.tenantId state.userId
  let id : JsString ← (InboxAction.nextId (js "evt_")).perform
  let occurredAt : Timestamp ← InboxAction.now.perform
  let event : UserNotificationEvent :=
    { id
      tenantId := state.tenantId
      stream
      type := userNotificationEventType payload
      documentName := state.userId
      actorId := actor.id
      occurredAt
      payload
      metadata := metadata.getD [] }
  let reply ← (InboxAction.append stream state.version event).perform
  let appended ← Program.ofExcept reply
  recordState platform (foldUserNotificationsFrom (some state) state.tenantId state.userId appended) appended

/-- What `markRead` and `dismiss` share: a notification that is not marked yet is marked. -/
def mark (isMarked : UserNotificationRecord → Bool) (payload : JsString → UserNotificationEventPayload)
    (actor : Actor) (notificationId : JsString) (command : UserNotificationCommand) :
    InboxProgram UserNotificationRecord := do
  let access ← Program.ofExcept (authorizeUser platform actor command.userId)
  let current ← state platform access.tenantId access.userId
  let id ← Program.ofExcept (normalizeUserNotificationId notificationId)
  let notification ← Program.ofExcept (requireNotification current id)
  if isMarked notification then return notification
  else
    appendUserNotificationEvent platform current actor (payload id) command.metadata
    let replayed ← state platform access.tenantId access.userId
    Program.ofExcept (requireReplayedNotification replayed id)

def markRead (actor : Actor) (notificationId : JsString) (command : UserNotificationCommand) :
    InboxProgram UserNotificationRecord :=
  mark platform UserNotificationRecord.read .read actor notificationId command

def dismiss (actor : Actor) (notificationId : JsString) (command : UserNotificationCommand) :
    InboxProgram UserNotificationRecord :=
  mark platform UserNotificationRecord.dismissed .dismissed actor notificationId command

def inbox (actor : Actor) (query : UserNotificationInboxQuery) : InboxProgram UserNotificationInbox := do
  let access ← Program.ofExcept (authorizeUser platform actor query.userId)
  let current ← state platform access.tenantId access.userId
  let limit ← Program.ofExcept (normalizeUserNotificationInboxLimit query.limit)
  return userNotificationInboxProjection platform current limit query

end UserNotificationService

inductive InboxCommand
  | recordFromDomainEvent (event : DomainEvent) (snapshot : Option DocumentSnapshot)
  | markRead (actor : Actor) (notificationId : JsString) (command : UserNotificationService.UserNotificationCommand)
  | dismiss (actor : Actor) (notificationId : JsString) (command : UserNotificationService.UserNotificationCommand)
  | inbox (actor : Actor) (query : UserNotificationInboxQuery)

inductive InboxResult
  | records (records : List UserNotificationRecord)
  | record (record : UserNotificationRecord)
  | inbox (inbox : UserNotificationInbox)
  deriving DecidableEq

open UserNotificationService in
def InboxCommand.program (platform : InboxPlatform) : InboxCommand → InboxProgram InboxResult
  | .recordFromDomainEvent event snapshot => do
      return .records (← UserNotificationService.recordFromDomainEvent platform event snapshot)
  | .markRead actor notificationId command => do
      return .record (← UserNotificationService.markRead platform actor notificationId command)
  | .dismiss actor notificationId command => do
      return .record (← UserNotificationService.dismiss platform actor notificationId command)
  | .inbox actor query => do
      return .inbox (← UserNotificationService.inbox platform actor query)
