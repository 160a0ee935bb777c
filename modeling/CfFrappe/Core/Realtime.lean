import CfFrappe.Core.EventJson
import CfFrappe.Core.Notifications
import CfFrappe.Core.Permissions
import CfFrappe.Lib.PercentEncoding

set_option autoImplicit false

/-! # Realtime topics and events

A topic names a tenant, a user, a DocType or a document; the parts of its name are percent-encoded. Who may
subscribe to a topic is decided on its parts (`canSubscribeToRealtimeTopic`). A commit is published as an
event that carries the domain event and the snapshot whole (`realtimeEventFromDomainEvent`).
-/

open Utf

abbrev RealtimeTopic := JsString

structure RealtimeEvent where
  id : JsString
  type : JsString
  topics : List RealtimeTopic
  tenantId : TenantId
  occurredAt : Timestamp
  payload : Json
  deriving DecidableEq

inductive RealtimeTopicScope
  | tenant (tenantId : TenantId)
  | user (tenantId : TenantId) (userId : JsString)
  | doctype (tenantId : TenantId) (doctype : DocTypeName)
  | document (tenantId : TenantId) (doctype : DocTypeName) (name : DocumentName)
  deriving DecidableEq

/-! ## Topics -/

/-- `kind:part:…`, with the parts encoded. -/
def realtimeTopic (kind : JsString) (parts : List JsString) : Except FrameworkError RealtimeTopic := do
  let encoded ← parts.mapM requireUriComponent
  return kind ++ encoded.flatMap (fun part => colon :: part)

def tenantRealtimeTopic (tenantId : TenantId) : Except FrameworkError RealtimeTopic :=
  realtimeTopic (js "tenant") [tenantId]

def doctypeRealtimeTopic (tenantId : TenantId) (doctype : DocTypeName) : Except FrameworkError RealtimeTopic :=
  realtimeTopic (js "doctype") [tenantId, doctype]

def userRealtimeTopic (tenantId : TenantId) (userId : JsString) : Except FrameworkError RealtimeTopic :=
  realtimeTopic (js "user") [tenantId, userId]

def documentRealtimeTopic (tenantId : TenantId) (doctype : DocTypeName) (name : DocumentName) :
    Except FrameworkError RealtimeTopic :=
  realtimeTopic (js "document") [tenantId, doctype, name]

/-- A part that is malformed reads as the empty one. -/
def decodeTopicPart (value : JsString) : JsString := (PercentEncoding.decodeURIComponent value).getD []

def parseRealtimeTopic (topic : RealtimeTopic) : Option RealtimeTopicScope :=
  match topic.splitOn colon with
  | [kind, tenantId] => if kind = js "tenant" then some (.tenant (decodeTopicPart tenantId)) else none
  | [kind, tenantId, part] =>
    if kind = js "doctype" then some (.doctype (decodeTopicPart tenantId) (decodeTopicPart part))
    else if kind = js "user" then some (.user (decodeTopicPart tenantId) (decodeTopicPart part))
    else none
  | [kind, tenantId, doctype, name] =>
    if kind = js "document" then
      some (.document (decodeTopicPart tenantId) (decodeTopicPart doctype) (decodeTopicPart name))
    else none
  | _ => none

def realtimeTopicFromScope : RealtimeTopicScope → Except FrameworkError RealtimeTopic
  | .tenant tenantId => tenantRealtimeTopic tenantId
  | .user tenantId userId => userRealtimeTopic tenantId userId
  | .doctype tenantId doctype => doctypeRealtimeTopic tenantId doctype
  | .document tenantId doctype name => documentRealtimeTopic tenantId doctype name

def canSubscribeToRealtimeTopic (actor : Actor) (topic : RealtimeTopic) : Bool :=
  let actorTenantId := actor.tenantId.getD defaultTenantId
  let isSystemManager := actor.roles.contains systemManagerRole
  match parseRealtimeTopic topic with
  | none => false
  | some (.tenant tenantId) => tenantId == actorTenantId && isSystemManager
  | some (.doctype tenantId _) => tenantId == actorTenantId && isSystemManager
  | some (.user tenantId userId) => tenantId == actorTenantId && (userId == actor.id || isSystemManager)
  | some (.document tenantId _ _) => tenantId == actorTenantId || isSystemManager

/-! ## Events -/

def DocumentSnapshot.toJson (snapshot : DocumentSnapshot) : Json :=
  .obj
    [(js "tenantId", .str snapshot.tenantId), (js "doctype", .str snapshot.doctype), (js "name", .str snapshot.name),
     (js "version", .num snapshot.version), (js "docstatus", .str snapshot.docstatus.toText),
     (js "data", .obj snapshot.data), (js "createdAt", .str snapshot.createdAt),
     (js "updatedAt", .str snapshot.updatedAt)]

/-- What a commit is published as: the event and the snapshot as they are. -/
def realtimePayload (event : DomainEvent) (snapshot : Option DocumentSnapshot) : Json :=
  .obj [(js "event", event.toJson), (js "snapshot", (snapshot.map (·.toJson)).getD .null)]

def realtimeEventFromDomainEvent (event : DomainEvent) (snapshot : Option DocumentSnapshot) :
    Except FrameworkError RealtimeEvent := do
  let tenantTopic ← tenantRealtimeTopic event.tenantId
  let doctypeTopic ← doctypeRealtimeTopic event.tenantId event.doctype
  let documentTopic ← documentRealtimeTopic event.tenantId event.doctype event.documentName
  return {
    id := event.id
    type := event.type
    topics := [tenantTopic, doctypeTopic, documentTopic]
    tenantId := event.tenantId
    occurredAt := event.occurredAt
    payload := realtimePayload event snapshot }

def DomainEventWorkflowIdentity.toMembers (identity : DomainEventWorkflowIdentity) : DocumentData :=
  Json.optional (js "workflowName") (identity.workflowName.map .str) ++
    Json.optional (js "workflowAction") (identity.workflowAction.map .str) ++
    Json.optional (js "workflowTransitions")
      (identity.workflowTransitions.map (fun transitions => .arr (transitions.map (·.toJson))))

def DocumentUserNotificationPayload.toJson (notification : DocumentUserNotificationPayload) : Json :=
  .obj
    ([(js "kind", .str (js "DocumentUserNotification")), (js "eventId", .str notification.eventId),
      (js "eventType", .str notification.eventType), (js "payloadKind", .str notification.payloadKind),
      (js "tenantId", .str notification.tenantId), (js "doctype", .str notification.doctype),
      (js "documentName", .str notification.documentName), (js "actorId", .str notification.actorId),
      (js "recipientId", .str notification.recipientId)] ++
      Json.optional (js "subject") (notification.subject.map .str) ++
      Json.optional (js "ruleName") (notification.ruleName.map .str) ++
      notification.toDomainEventWorkflowIdentity.toMembers)

/-- A notification goes to the topic of its recipient only. -/
def realtimeUserNotification (event : DomainEvent) (notification : DocumentUserNotificationPayload) :
    Except FrameworkError RealtimeEvent := do
  let recipient ← requireUriComponent notification.recipientId
  let topic ← userRealtimeTopic event.tenantId notification.recipientId
  return {
    id := event.id ++ js ":user:" ++ recipient
    type := event.type
    topics := [topic]
    tenantId := event.tenantId
    occurredAt := event.occurredAt
    payload := notification.toJson }

def realtimeUserNotificationsFromDomainEvent (event : DomainEvent) : Except FrameworkError (List RealtimeEvent) :=
  (documentUserNotificationsFromDomainEvent event).mapM (realtimeUserNotification event)

/-! ## Kinds of topics -/

theorem realtimeTopic_ok {kind : JsString} {parts : List JsString} {topic : RealtimeTopic}
    (h : realtimeTopic kind parts = .ok topic) : ∃ rest, topic = kind ++ rest := by
  unfold realtimeTopic at h
  obtain ⟨encoded, -, h⟩ := except_bind_eq_ok h
  exact ⟨_, (Except.ok.inj h).symm⟩

/-- Topics whose kinds diverge are different. -/
theorem realtimeTopic_ne {kind kind' : JsString} {parts parts' : List JsString} {topic topic' : RealtimeTopic}
    (h : realtimeTopic kind parts = .ok topic) (h' : realtimeTopic kind' parts' = .ok topic') (n : Nat)
    (hlength : n ≤ kind.length) (hlength' : n ≤ kind'.length) (hdiverge : kind.take n ≠ kind'.take n) :
    topic ≠ topic' := by
  rintro rfl
  obtain ⟨rest, rfl⟩ := realtimeTopic_ok h
  obtain ⟨rest', hsame⟩ := realtimeTopic_ok h'
  apply hdiverge
  have htake := congrArg (List.take n) hsame
  rwa [List.take_append_of_le_length hlength, List.take_append_of_le_length hlength'] at htake
