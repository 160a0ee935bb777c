import CfFrappe.Adapters.RealtimeHub
import CfFrappe.Core.Permissions

set_option autoImplicit false

/-! # Realtime sessions

Every commit is published after it is made, with the document it leaves (`afterCommitPublications`). A
request for a topic is authorized once, when it connects (`authorizeRealtime`); from then on the socket is
sent whatever is published on the topic (`documentSession`).
-/

open Utf

/-! ## Publications -/

/-- A commit of a document: the event, and the document it leaves. -/
abbrev AfterCommitContext := DomainEvent × Option DocumentSnapshot

/-- The commits of a stream, from a document on. -/
def commitsFrom : Option DocumentSnapshot → List DomainEvent → List AfterCommitContext
  | _, [] => []
  | snapshot, event :: events => (event, foldEvent snapshot event) :: commitsFrom (foldEvent snapshot event) events

/-- What the hook of the realtime publisher publishes for a commit, until it throws. -/
def afterCommitPublications (commit : AfterCommitContext) : List RealtimeEvent :=
  match realtimeEventFromDomainEvent commit.1 commit.2 with
  | .error _ => []
  | .ok event => event :: (realtimeUserNotificationsFromDomainEvent commit.1).toOption.getD []

/-- What the hub of a topic is given: an event once for each time it names the topic. -/
def publishedTo (topic : RealtimeTopic) (events : List RealtimeEvent) : List RealtimeEvent :=
  events.flatMap (fun event => (event.topics.filter (fun named => named = topic)).map (fun _ => event))

def topicPublications (topic : RealtimeTopic) (commits : List AfterCommitContext) : List RealtimeEvent :=
  commits.flatMap (fun commit => publishedTo topic (afterCommitPublications commit))

/-! ## Authorization -/

/-- What the Worker asks: the DocTypes with the overrides of a tenant in place, and the user permissions. -/
structure RealtimeServices where
  doctypeFor : DocTypeName → Except FrameworkError DocTypeDefinition
  doctypeFor_name : ∀ name doctype, doctypeFor name = .ok doctype → doctype.name = name
  permissionsFor : Actor → TenantId → List UserPermissionGrant

/-- The stream of every document. -/
abbrev DocumentStreams := TenantId → DocTypeName → DocumentName → List DomainEvent

def canUseVisibleDocument (actor : Actor) (doctype : DocTypeDefinition) (action : PermissionAction)
    (document : DocumentSnapshot) (sharedPermissions : List DocumentSharePermission)
    (grants : List UserPermissionGrant) : Bool :=
  document.docstatus != .deleted && canUseDocumentAction actor doctype action document sharedPermissions &&
    documentMatchesUserPermissions doctype document grants

/-- `planDocumentReadProjection`. -/
def requireStoredDocument (doctype : DocTypeDefinition) (name : DocumentName) (document : Option DocumentSnapshot) :
    Except FrameworkError DocumentSnapshot :=
  match document with
  | some document => if document.docstatus = .deleted then .error missing else .ok document
  | none => .error missing
where
  missing : FrameworkError := .notFound (doctype.name ++ js "/" ++ name ++ js " was not found")

def documentContextForRead (services : RealtimeServices) (streams : DocumentStreams) (actor : Actor)
    (doctypeName : DocTypeName) (name : DocumentName) (tenantId : TenantId) : Except FrameworkError DocumentSnapshot := do
  let doctype ← services.doctypeFor doctypeName
  let events := streams tenantId doctype.name name
  let document ← requireStoredDocument doctype name (foldDocument events)
  let sharedPermissions := documentSharePermissionsForActor actor (foldDocumentShares events)
  ensure (canUseVisibleDocument actor doctype .read document sharedPermissions
      (services.permissionsFor actor document.tenantId))
    (.denied (js "Actor '" ++ actor.id ++ js "' cannot read " ++ doctype.name ++ js "/" ++ name))
  return document

/-- The document or the DocType of a topic has to be readable. -/
def requireReadableScope (services : RealtimeServices) (streams : DocumentStreams) (actor : Actor) :
    RealtimeTopicScope → Except FrameworkError Unit
  | .document tenantId doctype name => do
      let _ ← documentContextForRead services streams actor doctype name tenantId
      return ()
  | .doctype _ doctype => do
      let doctype ← services.doctypeFor doctype
      planDocTypeActionAccess actor doctype .read
  | .tenant _ | .user _ _ => .ok ()

/-- `parseFirstRealtimeTopic`, with what is thrown when no candidate parses. -/
def requireRealtimeTopic (requestedTopics : List JsString) : Except FrameworkError RealtimeTopicScope :=
  match requestedTopics.filter (fun topic => !topic.isEmpty) with
  | [] => .error (.ofBadRequest (js "topic is required"))
  | candidates =>
    match candidates.findSome? parseRealtimeTopic with
    | some scope => .ok scope
    | none => .error (.ofBadRequest (js "topic is invalid"))

/-- The topic that a request may subscribe to. -/
def authorizeRealtime (services : RealtimeServices) (streams : DocumentStreams) (actor : Actor)
    (requestedTopics : List JsString) : Except FrameworkError RealtimeTopic := do
  let scope ← requireRealtimeTopic requestedTopics
  let topic ← realtimeTopicFromScope scope
  ensure (canSubscribeToRealtimeTopic actor topic) (.denied (js "Permission denied"))
  requireReadableScope services streams actor scope
  return topic

/-- A session on one document: what is sent to a socket that asks for `requestedTopics` when the document has
the stream that it has in `streams`, and `after` is committed to it later. -/
def documentSession (options : RealtimeHubOptions) (services : RealtimeServices) (streams : DocumentStreams)
    (actor : Actor) (requestedTopics : List JsString) (request : Option RealtimeReplayRequest) (tenantId : TenantId)
    (doctype : DocTypeName) (name : DocumentName) (after : List DomainEvent) :
    Except FrameworkError (List (RealtimeMessage RealtimeEvent)) := do
  let topic ← authorizeRealtime services streams actor requestedTopics
  let before := streams tenantId doctype name
  let document := before.foldl foldEvent none
  return sessionMessages options topic request (topicPublications topic (commitsFrom none before))
    (topicPublications topic (commitsFrom document after))

/-! ## One publication for each commit -/

/-- What a mapped list has, comes from an element. -/
theorem mapM_ok_mem {ε α β : Type} {f : α → Except ε β} {xs : List α} {ys : List β} (h : xs.mapM f = .ok ys) {y : β}
    (hy : y ∈ ys) : ∃ x ∈ xs, f x = .ok y := by
  induction xs generalizing ys with
  | nil =>
    obtain rfl : [] = ys := Except.ok.inj h
    exact absurd hy List.not_mem_nil
  | cons x xs ih =>
    rw [List.mapM_cons] at h
    obtain ⟨first, hfirst, h⟩ := except_bind_eq_ok h
    obtain ⟨rest, hrest, h⟩ := except_bind_eq_ok h
    obtain rfl : first :: rest = ys := Except.ok.inj h
    rcases List.mem_cons.mp hy with rfl | hmem
    · exact ⟨x, List.mem_cons_self, hfirst⟩
    · obtain ⟨x', hx', hok⟩ := ih hrest hmem
      exact ⟨x', List.mem_cons_of_mem x hx', hok⟩

section

variable {tenantId : TenantId} {doctype : DocTypeName} {name : DocumentName} {topic : RealtimeTopic}

/-- An event of the document. -/
structure OnDocument (tenantId : TenantId) (doctype : DocTypeName) (name : DocumentName) (event : DomainEvent) :
    Prop where
  tenantId : event.tenantId = tenantId
  doctype : event.doctype = doctype
  documentName : event.documentName = name

/-- The parts of a document topic encode, and so do the topics of an event of the document. -/
theorem realtimeEventFromDomainEvent_ok {event : DomainEvent} (htopic : documentRealtimeTopic tenantId doctype name = .ok topic)
    (hevent : OnDocument tenantId doctype name event) (snapshot : Option DocumentSnapshot) :
    ∃ tenantTopic doctypeTopic,
      tenantRealtimeTopic tenantId = .ok tenantTopic ∧ doctypeRealtimeTopic tenantId doctype = .ok doctypeTopic ∧
      realtimeEventFromDomainEvent event snapshot =
        .ok
          { id := event.id, type := event.type, topics := [tenantTopic, doctypeTopic, topic], tenantId
            occurredAt := event.occurredAt, payload := realtimePayload event snapshot } := by
  obtain ⟨htenant, hdoctype, hname⟩ := hevent
  have hparts := htopic
  unfold documentRealtimeTopic realtimeTopic at hparts
  obtain ⟨encoded, hencoded, -⟩ := except_bind_eq_ok hparts
  obtain ⟨encodedTenant, htenantPart, hencoded⟩ := except_bind_eq_ok hencoded
  obtain ⟨encodedDoctype, hdoctypePart, -⟩ := except_bind_eq_ok hencoded
  have htenantTopic : ∃ tenantTopic, tenantRealtimeTopic tenantId = .ok tenantTopic := by
    unfold tenantRealtimeTopic realtimeTopic
    simp only [List.mapM_cons, List.mapM_nil, htenantPart]
    exact ⟨_, rfl⟩
  have hdoctypeTopic : ∃ doctypeTopic, doctypeRealtimeTopic tenantId doctype = .ok doctypeTopic := by
    unfold doctypeRealtimeTopic realtimeTopic
    simp only [List.mapM_cons, List.mapM_nil, htenantPart, hdoctypePart]
    exact ⟨_, rfl⟩
  obtain ⟨tenantTopic, htenantTopic⟩ := htenantTopic
  obtain ⟨doctypeTopic, hdoctypeTopic⟩ := hdoctypeTopic
  refine ⟨tenantTopic, doctypeTopic, htenantTopic, hdoctypeTopic, ?_⟩
  unfold realtimeEventFromDomainEvent
  rw [htenant, hdoctype, hname, htenantTopic, hdoctypeTopic, htopic]
  rfl

/-- The publication of a commit of a document, with the topics it names. -/
def commitPublication (topics : List RealtimeTopic) (tenantId : TenantId) (commit : AfterCommitContext) : RealtimeEvent :=
  { id := commit.1.id, type := commit.1.type, topics, tenantId, occurredAt := commit.1.occurredAt
    payload := realtimePayload commit.1 commit.2 }

/-- Notifications go to topics of users. -/
theorem publishedTo_notifications (htopic : documentRealtimeTopic tenantId doctype name = .ok topic)
    (event : DomainEvent) :
    publishedTo topic ((realtimeUserNotificationsFromDomainEvent event).toOption.getD []) = [] := by
  cases hall : realtimeUserNotificationsFromDomainEvent event with
  | error e => rfl
  | ok published =>
    unfold publishedTo
    rw [List.flatMap_eq_nil_iff]
    intro notification hmem
    obtain ⟨payload, -, hpayload⟩ := mapM_ok_mem hall hmem
    unfold realtimeUserNotification at hpayload
    obtain ⟨recipient, -, hpayload⟩ := except_bind_eq_ok hpayload
    obtain ⟨userTopic, huser, hpayload⟩ := except_bind_eq_ok hpayload
    have hne : userTopic ≠ topic := realtimeTopic_ne huser htopic 1 (by decide) (by decide) (by decide)
    have htopics : notification.topics = [userTopic] := (Except.ok.inj hpayload) ▸ rfl
    rw [htopics, List.filter_singleton]
    simp [hne]

/-- **A commit is published once** on the topic of its document. -/
theorem publishedTo_afterCommitPublications (htopic : documentRealtimeTopic tenantId doctype name = .ok topic) :
    ∃ topics, ∀ commit : AfterCommitContext, OnDocument tenantId doctype name commit.1 →
      publishedTo topic (afterCommitPublications commit) = [commitPublication topics tenantId commit] := by
  by_cases hsome : ∃ event, OnDocument tenantId doctype name event
  · obtain ⟨event, hevent⟩ := hsome
    obtain ⟨tenantTopic, doctypeTopic, htenant, hdoctype, -⟩ := realtimeEventFromDomainEvent_ok htopic hevent none
    refine ⟨[tenantTopic, doctypeTopic, topic], ?_⟩
    intro commit hcommit
    obtain ⟨tenantTopic', doctypeTopic', htenant', hdoctype', hpublished⟩ :=
      realtimeEventFromDomainEvent_ok htopic hcommit commit.2
    obtain rfl : tenantTopic = tenantTopic' := Except.ok.inj (htenant.symm.trans htenant')
    obtain rfl : doctypeTopic = doctypeTopic' := Except.ok.inj (hdoctype.symm.trans hdoctype')
    -- the tenant, the DocType and the document are topics of three kinds
    have htenantNe : tenantTopic ≠ topic := realtimeTopic_ne htenant htopic 1 (by decide) (by decide) (by decide)
    have hdoctypeNe : doctypeTopic ≠ topic := realtimeTopic_ne hdoctype htopic 4 (by decide) (by decide) (by decide)
    have hnotifications := publishedTo_notifications htopic commit.1
    unfold afterCommitPublications
    rw [hpublished]
    unfold publishedTo at hnotifications ⊢
    rw [List.flatMap_cons, hnotifications, List.append_nil]
    simp [htenantNe, hdoctypeNe, commitPublication]
  · exact ⟨[], fun commit hcommit => absurd ⟨_, hcommit⟩ hsome⟩

/-- The publications of the commits of a document, on its topic. -/
theorem topicPublications_eq {topics : List RealtimeTopic} {commits : List AfterCommitContext}
    (htopics : ∀ commit : AfterCommitContext, OnDocument tenantId doctype name commit.1 →
      publishedTo topic (afterCommitPublications commit) = [commitPublication topics tenantId commit])
    (hcommits : ∀ commit ∈ commits, OnDocument tenantId doctype name commit.1) :
    topicPublications topic commits = commits.map (commitPublication topics tenantId) := by
  unfold topicPublications
  rw [List.map_eq_flatMap]
  exact List.flatMap_congr (fun commit hmem => htopics commit (hcommits commit hmem))

theorem fst_commitsFrom (snapshot : Option DocumentSnapshot) (events : List DomainEvent) :
    (commitsFrom snapshot events).map (·.1) = events := by
  induction events generalizing snapshot with
  | nil => rfl
  | cons event events ih => simp [commitsFrom, ih]

end
