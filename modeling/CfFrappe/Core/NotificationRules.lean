import CfFrappe.Core.EventJson
import CfFrappe.Core.Predicates

set_option autoImplicit false

/-! # Notification rules

Which e-mails an event asks for: every matching rule of the DocType, for each of its recipients
once (`documentEmailNotificationsFromRules`).
-/

open Utf

inductive NotificationRuleChannel
  | inbox
  | email
  deriving DecidableEq

inductive NotificationRuleRecipientDefinition
  | user (userId : JsString)
  | field (field : JsString)
  | documentOwner
  deriving DecidableEq

/-- A rule; its event kinds are payload kinds. -/
structure NotificationRuleDefinition where
  name : JsString
  enabled : Option Bool := none
  events : List JsString
  recipients : List NotificationRuleRecipientDefinition
  channels : Option (List NotificationRuleChannel) := none
  condition : Option PredicateExpression := none
  subject : Option JsString := none
  excludeActor : Option Bool := none

structure DocumentEmailNotificationPayload extends DomainEventWorkflowIdentity where
  eventId : JsString
  eventType : JsString
  payloadKind : JsString
  tenantId : TenantId
  doctype : DocTypeName
  documentName : DocumentName
  actorId : JsString
  recipientId : JsString
  subject : JsString
  text : JsString
  ruleName : JsString
  deriving DecidableEq

def notificationRuleEventKinds : List JsString :=
  [js "DocumentCreated", js "DocumentUpdated", js "DocumentDeleted", js "DocumentSubmitted", js "DocumentCancelled",
   js "DocumentCommentAdded", js "DocumentActivityRecorded", js "DocumentAssigned", js "DocumentUnassigned",
   js "DocumentTagged", js "DocumentUntagged", js "DocumentFollowed", js "DocumentUnfollowed", js "DocumentShared",
   js "DocumentShareRevoked", js "WorkflowTransitioned", js "DomainCommandApplied"]

/-! ## Recipients -/

def userIdsFromValue : Option Json → List JsString
  | some (.str value) => [Json.trim value].filter (fun userId => !userId.isEmpty)
  | some (.arr items) =>
    (items.filterMap (fun item =>
      match item with
      | .str value => some (Json.trim value)
      | _ => none)).filter (fun userId => !userId.isEmpty)
  | _ => []

def recipientUserIds (snapshot : DocumentSnapshot) : NotificationRuleRecipientDefinition → List JsString
  | .user userId => [userId]
  | .field field => userIdsFromValue (Record.get snapshot.data field)
  | .documentOwner => userIdsFromValue (Record.get snapshot.data (js "created_by"))

def notificationRecipientsForRule (rule : NotificationRuleDefinition) (snapshot : DocumentSnapshot) : List JsString :=
  (rule.recipients.flatMap (recipientUserIds snapshot)).eraseDups

/-! ## Texts -/

/-- `GetSubstitution` for a pattern without groups: what `$` stands for in a replacement. -/
def getSubstitution (matched before after : JsString) : JsString → JsString
  | 0x24 :: 0x24 :: template => 0x24 :: getSubstitution matched before after template
  | 0x24 :: 0x26 :: template => matched ++ getSubstitution matched before after template
  | 0x24 :: 0x60 :: template => before ++ getSubstitution matched before after template
  | 0x24 :: 0x27 :: template => after ++ getSubstitution matched before after template
  | u :: template => u :: getSubstitution matched before after template
  | [] => []

/-- `text.replaceAll(pattern, replacement)` for a pattern that is not empty: `before` is the text that
has been passed, and `skip` counts the rest of a match. -/
def replaceAllFrom (pattern replacement : JsString) (before : JsString) (skip : Nat) : JsString → JsString
  | [] => []
  | u :: text =>
    if skip = 0 then
      if pattern.isPrefixOf (u :: text) then
        getSubstitution pattern before ((u :: text).drop pattern.length) replacement ++
          replaceAllFrom pattern replacement (before ++ [u]) (pattern.length - 1) text
      else u :: replaceAllFrom pattern replacement (before ++ [u]) 0 text
    else replaceAllFrom pattern replacement (before ++ [u]) (skip - 1) text

def replaceAll (text pattern replacement : JsString) : JsString := replaceAllFrom pattern replacement [] 0 text

def renderRuleSubject (rule : NotificationRuleDefinition) (event : DomainEvent) (snapshot : DocumentSnapshot) :
    JsString :=
  match (rule.subject.map Json.trim).filter (fun subject => !subject.isEmpty) with
  | some subject =>
    replaceAll (replaceAll (replaceAll subject (js "\x7b\x7b doctype \x7d\x7d") event.doctype)
      (js "\x7b\x7b name \x7d\x7d") event.documentName) (js "\x7b\x7b actor \x7d\x7d") event.actorId
  | none =>
    let title :=
      match Record.get snapshot.data (js "title") with
      | some (.str title) => if (Json.trim title).isEmpty then event.documentName else Json.trim title
      | _ => event.documentName
    event.actorId ++ js " triggered " ++ rule.name ++ js " for " ++ event.doctype ++ js " " ++ title

def renderRuleEmailText (subject : JsString) (rule : NotificationRuleDefinition) (event : DomainEvent) : JsString :=
  subject ++ js "\n" ++ js "\n" ++
    js "Document: " ++ event.doctype ++ js " " ++ event.documentName ++ js "\n" ++
    js "Event: " ++ domainEventPayloadKind event ++ js "\n" ++
    js "Actor: " ++ event.actorId ++ js "\n" ++
    js "Rule: " ++ rule.name

/-! ## Matching -/

section

variable (canonicalize : UInt16 → UInt16)

def ruleMatches (rule : NotificationRuleDefinition) (event : DomainEvent) (snapshot : DocumentSnapshot)
    (channel : NotificationRuleChannel) : Bool :=
  rule.enabled.getD true && rule.events.contains (domainEventPayloadKind event) &&
    rule.condition.all (evaluatePredicateExpression canonicalize
      { after := some snapshot, event := some event.toJson }) &&
    (rule.channels.getD [.inbox]).contains channel

/-- The e-mail of a rule to one recipient. -/
def emailNotification (rule : NotificationRuleDefinition) (event : DomainEvent) (snapshot : DocumentSnapshot)
    (recipientId : JsString) : DocumentEmailNotificationPayload :=
  { domainEventWorkflowIdentity event with
    eventId := event.id
    eventType := event.type
    payloadKind := domainEventPayloadKind event
    tenantId := event.tenantId
    doctype := event.doctype
    documentName := event.documentName
    actorId := event.actorId
    recipientId
    subject := renderRuleSubject rule event snapshot
    text := renderRuleEmailText (renderRuleSubject rule event snapshot) rule event
    ruleName := rule.name }

/-- The first element of each key, besides the keys that have been seen. -/
def firstOfEach {α : Type} (key : α → JsString) : List JsString → List α → List α
  | _, [] => []
  | seen, a :: rest =>
    if seen.contains (key a) then firstOfEach key seen rest else a :: firstOfEach key (key a :: seen) rest

/-- The rules and recipients of an event, each key once. -/
def notifiedRecipients (rules : List NotificationRuleDefinition) (event : DomainEvent) (snapshot : DocumentSnapshot) :
    List (NotificationRuleDefinition × JsString) :=
  let matched := (rules.filter (fun rule => ruleMatches canonicalize rule event snapshot .email)).flatMap (fun rule =>
    ((notificationRecipientsForRule rule snapshot).filter
      (fun recipientId => !(rule.excludeActor.getD true && recipientId = event.actorId))).map (fun recipientId =>
        (rule, recipientId)))
  firstOfEach (fun notified => notified.1.name ++ [0] ++ notified.2) [] matched

def documentEmailNotificationsFromRules (event : DomainEvent) (snapshot : Option DocumentSnapshot)
    (rules : List NotificationRuleDefinition) : List DocumentEmailNotificationPayload :=
  match snapshot with
  | some snapshot =>
    if notificationRuleEventKinds.contains (domainEventPayloadKind event) then
      (notifiedRecipients canonicalize rules event snapshot).map (fun notified =>
        emailNotification notified.1 event snapshot notified.2)
    else []
  | none => []

end
