import CfFrappe.Core.Notifications
import CfFrappe.Lib.EventLog

set_option autoImplicit false

/-! # The notifications of a user

The stream of a user records notifications, and that they were read or dismissed. Its fold can be
resumed (`foldUserNotificationsFrom_append`) from a state that was stored and read back
(`decode_encode`). A notification that is recorded again would be unread again, so everything rests on
recording each of them once (`RecordedOnce`).
-/

open Utf

/-! ## Events -/

structure RecordedUserNotification where
  notificationId : JsString
  sourceEventId : JsString
  eventType : JsString
  payloadKind : JsString
  recipientId : JsString
  doctype : DocTypeName
  documentName : DocumentName
  actorId : JsString
  subject : Option JsString := none
  ruleName : Option JsString := none
  deriving DecidableEq

inductive UserNotificationEventPayload
  | recorded (notification : RecordedUserNotification)
  | read (notificationId : JsString)
  | dismissed (notificationId : JsString)
  deriving DecidableEq

/-- `userNotificationEventType`: the kind of the payload. -/
def userNotificationEventType : UserNotificationEventPayload → JsString
  | .recorded _ => js "UserNotificationRecorded"
  | .read _ => js "UserNotificationRead"
  | .dismissed _ => js "UserNotificationDismissed"

/-- The events of a user's stream: all of them are of this service, so that a read by
`USER_NOTIFICATION_PAYLOAD_KINDS` leaves none out. Their DocType is `__UserNotifications`. -/
structure UserNotificationEvent where
  id : JsString
  tenantId : TenantId
  stream : StreamName
  type : JsString
  documentName : DocumentName
  actorId : JsString
  occurredAt : Timestamp
  payload : UserNotificationEventPayload
  metadata : DocumentData
  deriving DecidableEq

abbrev UserNotificationLog := List (Recorded UserNotificationEvent)

/-! ## The fold -/

structure UserNotificationRecord where
  id : JsString
  tenantId : TenantId
  recipientId : JsString
  sourceEventId : JsString
  eventType : JsString
  payloadKind : JsString
  doctype : JsString
  documentName : JsString
  actorId : JsString
  subject : JsString
  ruleName : Option JsString := none
  read : Bool
  dismissed : Bool
  createdAt : Timestamp
  readAt : Option Timestamp := none
  readBy : Option JsString := none
  dismissedAt : Option Timestamp := none
  dismissedBy : Option JsString := none
  deriving DecidableEq

/-- The map of a state, in insertion order. -/
abbrev UserNotifications := Record JsString UserNotificationRecord

structure UserNotificationState where
  tenantId : TenantId
  userId : JsString
  version : Nat
  notifications : UserNotifications
  deriving DecidableEq

def userNotificationSubject (payload : RecordedUserNotification) : JsString :=
  match payload.subject with
  | some subject => subject
  | none =>
    let target := payload.doctype ++ js " " ++ payload.documentName
    if payload.payloadKind = js "DocumentAssigned" then payload.actorId ++ js " assigned you to " ++ target
    else if payload.payloadKind = js "DocumentUnassigned" then
      payload.actorId ++ js " removed your assignment from " ++ target
    else if payload.payloadKind = js "DocumentFollowed" then payload.actorId ++ js " followed " ++ target
    else if payload.payloadKind = js "DocumentUnfollowed" then payload.actorId ++ js " unfollowed " ++ target
    else if payload.payloadKind = js "DocumentShared" then payload.actorId ++ js " shared " ++ target ++ js " with you"
    else if payload.payloadKind = js "DocumentShareRevoked" then
      payload.actorId ++ js " revoked your share on " ++ target
    else payload.actorId ++ js " updated " ++ target

/-- `notificationFromRecordedEvent`, with the payload of the event. -/
def notificationFromRecordedEvent (event : UserNotificationEvent) (payload : RecordedUserNotification) :
    UserNotificationRecord :=
  { id := payload.notificationId
    tenantId := event.tenantId
    recipientId := payload.recipientId
    sourceEventId := payload.sourceEventId
    eventType := payload.eventType
    payloadKind := payload.payloadKind
    doctype := payload.doctype
    documentName := payload.documentName
    actorId := payload.actorId
    subject := userNotificationSubject payload
    ruleName := payload.ruleName
    read := false
    dismissed := false
    createdAt := event.occurredAt }

/-- A change of a notification that is there. -/
def changeUserNotification (notifications : UserNotifications) (notificationId : JsString)
    (change : UserNotificationRecord → UserNotificationRecord) : UserNotifications :=
  match Record.get notifications notificationId with
  | some current => Record.set notifications notificationId (change current)
  | none => notifications

/-- One turn of the loop of `foldUserNotificationsFrom`. -/
def applyUserNotificationEvent (notifications : UserNotifications) (event : Recorded UserNotificationEvent) :
    UserNotifications :=
  match event.event.payload with
  | .recorded payload =>
    Record.set notifications payload.notificationId (notificationFromRecordedEvent event.event payload)
  | .read notificationId =>
    changeUserNotification notifications notificationId (fun current =>
      { current with read := true, readAt := some event.event.occurredAt, readBy := some event.event.actorId })
  | .dismissed notificationId =>
    changeUserNotification notifications notificationId (fun current =>
      { current with
        dismissed := true, dismissedAt := some event.event.occurredAt, dismissedBy := some event.event.actorId })

theorem get_changeUserNotification (notifications : UserNotifications) (id id' : JsString)
    (change : UserNotificationRecord → UserNotificationRecord) :
    Record.get (changeUserNotification notifications id change) id' =
      if id = id' then (Record.get notifications id').map change else Record.get notifications id' := by
  unfold changeUserNotification
  by_cases hid : id = id'
  · subst hid
    cases hget : Record.get notifications id <;> simp [hget]
  · cases hget : Record.get notifications id <;> simp [hid]

variable {notifications : UserNotifications} {record : UserNotificationRecord}

theorem nodup_changeUserNotification (h : (Record.keys notifications).Nodup) (id : JsString)
    (change : UserNotificationRecord → UserNotificationRecord) :
    (Record.keys (changeUserNotification notifications id change)).Nodup := by
  unfold changeUserNotification
  split
  · exact Record.nodup_keys_set h _ _
  · exact h

def foldUserNotificationsFrom (initial : Option UserNotificationState) (tenantId : TenantId) (userId : JsString)
    (events : UserNotificationLog) : UserNotificationState :=
  let orderedEvents := sortRecorded events
  { tenantId
    userId
    version := ((orderedEvents.getLast?.map Recorded.sequence).or (initial.map UserNotificationState.version)).getD 0
    notifications :=
      orderedEvents.foldl applyUserNotificationEvent ((initial.map UserNotificationState.notifications).getD []) }

def foldUserNotifications (tenantId : TenantId) (userId : JsString) (events : UserNotificationLog) :
    UserNotificationState :=
  foldUserNotificationsFrom none tenantId userId events

section Fold

variable {tenantId : TenantId} {userId : JsString} {log log' : UserNotificationLog} {version : Nat}

theorem foldUserNotificationsFrom_eq (h : Numbered version log) (initial : Option UserNotificationState) :
    foldUserNotificationsFrom initial tenantId userId log =
      { tenantId, userId
        version := ((log.getLast?.map Recorded.sequence).or (initial.map UserNotificationState.version)).getD 0
        notifications := log.foldl applyUserNotificationEvent
          ((initial.map UserNotificationState.notifications).getD []) } := by
  unfold foldUserNotificationsFrom
  rw [h.sorted]

/-- **The fold is associative**: folding the tail of a stream onto the fold of its head is folding the
whole stream. -/
theorem foldUserNotificationsFrom_append (h : Numbered version (log ++ log'))
    (initial : Option UserNotificationState) :
    foldUserNotificationsFrom (some (foldUserNotificationsFrom initial tenantId userId log)) tenantId userId log' =
      foldUserNotificationsFrom initial tenantId userId (log ++ log') := by
  obtain ⟨hleft, hright⟩ := h.split
  rw [foldUserNotificationsFrom_eq h, foldUserNotificationsFrom_eq hright, foldUserNotificationsFrom_eq hleft,
    List.foldl_append, List.getLast?_append]
  cases log'.getLast? <;> simp

/-- The version of the fold of a whole stream is its length. -/
theorem foldUserNotifications_version (h : Numbered 0 log) :
    (foldUserNotifications tenantId userId log).version = log.length := by
  unfold foldUserNotifications
  rw [foldUserNotificationsFrom_eq h]
  rcases List.eq_nil_or_concat log with rfl | ⟨front, last, rfl⟩
  · rfl
  · rw [List.concat_eq_append] at h ⊢
    obtain ⟨-, hlast⟩ := h.split
    have hsequence : last.sequence = 0 + front.length + 1 := hlast.1
    simp [hsequence]

theorem foldUserNotifications_notifications (h : Numbered 0 log) :
    (foldUserNotifications tenantId userId log).notifications = log.foldl applyUserNotificationEvent [] := by
  unfold foldUserNotifications
  rw [foldUserNotificationsFrom_eq h]
  rfl

theorem nodup_applyUserNotificationEvent (h : (Record.keys notifications).Nodup)
    (event : Recorded UserNotificationEvent) :
    (Record.keys (applyUserNotificationEvent notifications event)).Nodup := by
  unfold applyUserNotificationEvent
  split
  · exact Record.nodup_keys_set h _ _
  · exact nodup_changeUserNotification h _ _
  · exact nodup_changeUserNotification h _ _

theorem nodup_foldl_userNotifications (log : UserNotificationLog) (h : (Record.keys notifications).Nodup) :
    (Record.keys (log.foldl applyUserNotificationEvent notifications)).Nodup := by
  induction log generalizing notifications with
  | nil => exact h
  | cons event log ih => exact ih (nodup_applyUserNotificationEvent h event)

end Fold

/-! ## Once read, always read -/

/-- The notification that an event records. -/
def recordedId? (event : Recorded UserNotificationEvent) : Option JsString :=
  match event.event.payload with
  | .recorded payload => some payload.notificationId
  | _ => none

/-- The notifications that a stream records, one for each event that does. -/
def recordedIds (log : UserNotificationLog) : List JsString := log.filterMap recordedId?

/-- No notification is recorded twice. -/
def RecordedOnce (log : UserNotificationLog) : Prop := (recordedIds log).Nodup

theorem recordedIds_append (log log' : UserNotificationLog) :
    recordedIds (log ++ log') = recordedIds log ++ recordedIds log' := List.filterMap_append

/-- A record is as read and as dismissed as another one. -/
structure AtLeastAsSeen (record record' : UserNotificationRecord) : Prop where
  read : record.read = true → record'.read = true
  dismissed : record.dismissed = true → record'.dismissed = true

theorem AtLeastAsSeen.refl (record : UserNotificationRecord) : AtLeastAsSeen record record := ⟨id, id⟩

theorem AtLeastAsSeen.trans {r r' r'' : UserNotificationRecord} (h : AtLeastAsSeen r r') (h' : AtLeastAsSeen r' r'') :
    AtLeastAsSeen r r'' := ⟨fun hread => h'.read (h.read hread), fun hdismissed => h'.dismissed (h.dismissed hdismissed)⟩

/-- A change that only marks leaves every record as seen as it was. -/
theorem seen_change {id id' : JsString} {change : UserNotificationRecord → UserNotificationRecord}
    (hget : Record.get notifications id = some record) (hchange : ∀ r, AtLeastAsSeen r (change r)) :
    ∃ record', Record.get (changeUserNotification notifications id' change) id = some record' ∧
      AtLeastAsSeen record record' := by
  rw [get_changeUserNotification, hget]
  split_ifs
  · exact ⟨change record, rfl, hchange record⟩
  · exact ⟨record, rfl, .refl record⟩

/-- An event that does not record a notification leaves it as seen as it was. -/
theorem seen_apply {event : Recorded UserNotificationEvent} {id : JsString}
    (hget : Record.get notifications id = some record) (hother : recordedId? event ≠ some id) :
    ∃ record', Record.get (applyUserNotificationEvent notifications event) id = some record' ∧
      AtLeastAsSeen record record' := by
  unfold applyUserNotificationEvent
  unfold recordedId? at hother
  cases hpayload : event.event.payload with
  | recorded payload =>
    rw [hpayload] at hother
    have hne : payload.notificationId ≠ id := fun heq => hother (congrArg some heq)
    dsimp only
    rw [Record.get_set, if_neg hne]
    exact ⟨record, hget, .refl record⟩
  | read id' => exact seen_change hget (fun _ => ⟨fun _ => rfl, fun hdismissed => hdismissed⟩)
  | dismissed id' => exact seen_change hget (fun _ => ⟨fun hread => hread, fun _ => rfl⟩)

theorem seen_foldl (log : UserNotificationLog) {id : JsString} (hget : Record.get notifications id = some record)
    (hother : id ∉ recordedIds log) :
    ∃ record', Record.get (log.foldl applyUserNotificationEvent notifications) id = some record' ∧
      AtLeastAsSeen record record' := by
  induction log generalizing notifications record with
  | nil => exact ⟨record, hget, .refl record⟩
  | cons event log ih =>
    have hevent : recordedId? event ≠ some id := by
      intro heq
      exact hother (List.mem_filterMap.mpr ⟨event, List.mem_cons_self, heq⟩)
    have hrest : id ∉ recordedIds log := by
      intro hmem
      obtain ⟨e, he, heq⟩ := List.mem_filterMap.mp hmem
      exact hother (List.mem_filterMap.mpr ⟨e, List.mem_cons_of_mem _ he, heq⟩)
    obtain ⟨record', hget', hseen⟩ := seen_apply hget hevent
    obtain ⟨record'', hget'', hseen'⟩ := ih hget' hrest
    exact ⟨record'', hget'', hseen.trans hseen'⟩

theorem isSome_apply {event : Recorded UserNotificationEvent} {id : JsString} :
    (Record.get (applyUserNotificationEvent notifications event) id).isSome = true ↔
      recordedId? event = some id ∨ (Record.get notifications id).isSome = true := by
  unfold applyUserNotificationEvent recordedId?
  cases event.event.payload with
  | recorded payload =>
    dsimp only
    rw [Record.get_set, Option.some.injEq]
    split_ifs with hid <;> simp [hid]
  | read id' =>
    dsimp only
    rw [get_changeUserNotification]
    split_ifs <;> simp
  | dismissed id' =>
    dsimp only
    rw [get_changeUserNotification]
    split_ifs <;> simp

/-- **What the state of a stream has is what the stream recorded.** -/
theorem isSome_foldl (log : UserNotificationLog) {id : JsString} :
    (Record.get (log.foldl applyUserNotificationEvent notifications) id).isSome = true ↔
      id ∈ recordedIds log ∨ (Record.get notifications id).isSome = true := by
  induction log generalizing notifications with
  | nil => simp [recordedIds]
  | cons event log ih =>
    rw [List.foldl_cons, ih, isSome_apply]
    have hcons : id ∈ recordedIds (event :: log) ↔ recordedId? event = some id ∨ id ∈ recordedIds log := by
      unfold recordedIds
      simp [List.mem_filterMap]
    rw [hcons]
    tauto

/-! ## Stored states -/

/-- A state as a store has it, by what `decode` looks at: each member, if it is there with its type. The
map is the list of its entries. -/
structure StoredUserNotifications where
  tenantId : Option JsString := none
  userId : Option JsString := none
  version : Option Nat := none
  notifications : Option (List (JsString × UserNotificationRecord)) := none
  deriving DecidableEq

namespace UserNotificationsCodec

def encode (state : UserNotificationState) : StoredUserNotifications :=
  { tenantId := some state.tenantId
    userId := some state.userId
    version := some state.version
    notifications := some state.notifications }

/-- `new Map(entries)`. -/
def mapOf (entries : List (JsString × UserNotificationRecord)) : UserNotifications :=
  entries.foldl (fun map entry => Record.set map entry.1 entry.2) []

def decode (stored : StoredUserNotifications) : Option UserNotificationState := do
  let tenantId ← stored.tenantId
  let userId ← stored.userId
  let version ← stored.version
  let notifications ← stored.notifications
  return { tenantId, userId, version, notifications := mapOf notifications }

theorem foldl_set_of_nodup (entries : List (JsString × UserNotificationRecord)) {map : UserNotifications}
    (h : (Record.keys (map ++ entries)).Nodup) :
    entries.foldl (fun map entry => Record.set map entry.1 entry.2) map = map ++ entries := by
  induction entries generalizing map with
  | nil => rw [List.foldl_nil, List.append_nil]
  | cons entry entries ih =>
    have hnew : entry.1 ∉ Record.keys map := by
      unfold Record.keys at h ⊢
      rw [List.map_append, List.nodup_append] at h
      intro hmem
      exact h.2.2 _ hmem entry.1 (by simp) rfl
    rw [List.foldl_cons, Record.set_of_not_mem hnew]
    rw [List.append_cons] at h
    rw [ih h, ← List.append_cons]

/-- **A state survives the store.** -/
theorem decode_encode {state : UserNotificationState} (h : (Record.keys state.notifications).Nodup) :
    decode (encode state) = some state := by
  have hmap : mapOf state.notifications = state.notifications := foldl_set_of_nodup state.notifications h
  simp [decode, encode, hmap]

end UserNotificationsCodec
