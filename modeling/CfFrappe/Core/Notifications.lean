import CfFrappe.Core.NotificationRules
import CfFrappe.Core.Streams

set_option autoImplicit false

/-! # User notifications

Which notifications an event asks for: its own recipient, and the recipients of every rule of the
DocType that matches for the inbox. A notification has an identity (`notificationIdentity`), which says
its event, rule and recipient (`notificationIdentity_injective`).
-/

open Utf

structure DocumentUserNotificationPayload extends DomainEventWorkflowIdentity where
  eventId : JsString
  eventType : JsString
  payloadKind : JsString
  tenantId : TenantId
  doctype : DocTypeName
  documentName : DocumentName
  actorId : JsString
  recipientId : JsString
  subject : Option JsString := none
  ruleName : Option JsString := none
  deriving DecidableEq

def documentUserNotificationRecipients (event : DomainEvent) : List JsString :=
  match event.payload with
  | .documentAssigned assigneeId | .documentUnassigned assigneeId => [assigneeId]
  | .documentFollowed followerId | .documentUnfollowed followerId => [followerId]
  | .documentShared userId _ | .documentShareRevoked userId => [userId]
  | _ => []

/-- The notification of an event to one recipient. -/
def userNotification (event : DomainEvent) (recipientId : JsString) : DocumentUserNotificationPayload :=
  { eventId := event.id
    eventType := event.type
    payloadKind := domainEventPayloadKind event
    tenantId := event.tenantId
    doctype := event.doctype
    documentName := event.documentName
    actorId := event.actorId
    recipientId }

def documentUserNotificationsFromDomainEvent (event : DomainEvent) : List DocumentUserNotificationPayload :=
  (documentUserNotificationRecipients event).map (userNotification event)

section

variable (canonicalize : UInt16 → UInt16)

/-- The notification of a rule to one recipient. -/
def ruleNotification (rule : NotificationRuleDefinition) (event : DomainEvent) (snapshot : DocumentSnapshot)
    (recipientId : JsString) : DocumentUserNotificationPayload :=
  { userNotification event recipientId with
    toDomainEventWorkflowIdentity := domainEventWorkflowIdentity event
    subject := some (renderRuleSubject rule event snapshot)
    ruleName := some rule.name }

/-- The inbox rules and recipients of an event, each key once. -/
def inboxRecipients (rules : List NotificationRuleDefinition) (event : DomainEvent) (snapshot : DocumentSnapshot) :
    List (NotificationRuleDefinition × JsString) :=
  let matched := (rules.filter (fun rule => ruleMatches canonicalize rule event snapshot .inbox)).flatMap (fun rule =>
    ((notificationRecipientsForRule rule snapshot).filter
      (fun recipientId => !(rule.excludeActor.getD true && recipientId = event.actorId))).map (fun recipientId =>
        (rule, recipientId)))
  firstOfEach (fun notified => notified.1.name ++ [0] ++ notified.2) [] matched

def documentUserNotificationsFromRules (event : DomainEvent) (snapshot : Option DocumentSnapshot)
    (rules : List NotificationRuleDefinition) : List DocumentUserNotificationPayload :=
  match snapshot with
  | some snapshot =>
    if notificationRuleEventKinds.contains (domainEventPayloadKind event) then
      (inboxRecipients canonicalize rules event snapshot).map (fun notified =>
        ruleNotification notified.1 event snapshot notified.2)
    else []
  | none => []

end

/-! ## Identities -/

/-- `encodeURIComponent`, which throws on an unpaired surrogate. -/
def requireUriComponent (value : JsString) : Except FrameworkError JsString :=
  match PercentEncoding.encodeURIComponent value with
  | some encoded => .ok encoded
  | none => .error uriMalformed

/-- `source` of `notificationIdentity`. -/
def notificationSource : Option JsString → Except FrameworkError JsString
  | none => .ok []
  | some ruleName => do
      let rule ← requireUriComponent ruleName
      return js "rule:" ++ rule ++ js ":"

def notificationIdentity (notification : DocumentUserNotificationPayload) : Except FrameworkError JsString := do
  let source ← notificationSource notification.ruleName
  let recipient ← requireUriComponent notification.recipientId
  return notification.eventId ++ js ":" ++ source ++ js "user:" ++ recipient

theorem isUriUnreserved_ascii (c : Nat) (h : PercentEncoding.isUriUnreserved c = true) : c < 0x80 ∧ c ≠ 0x25 := by
  simp only [PercentEncoding.isUriUnreserved, PercentEncoding.isAsciiAlphanumeric, Bool.and_eq_true, Bool.or_eq_true,
    decide_eq_true_eq, List.contains_eq_mem, List.mem_cons, List.not_mem_nil, or_false] at h
  omega

theorem requireUriComponent_ok {value encoded : JsString} (h : requireUriComponent value = .ok encoded) :
    encoded = (codePoints value).flatMap (PercentEncoding.percentEncode PercentEncoding.isUriUnreserved) := by
  unfold requireUriComponent PercentEncoding.encodeURIComponent at h
  split at h
  · rename_i encoded' hencoded
    split_ifs at hencoded
    rw [← Except.ok.inj h]
    exact (Option.some.inj hencoded).symm
  · cases h

theorem requireUriComponent_injective {value value' encoded : JsString} (h : requireUriComponent value = .ok encoded)
    (h' : requireUriComponent value' = .ok encoded) : value = value' := by
  rw [requireUriComponent_ok h] at h'
  exact PercentEncoding.percentEncode_text_injective isUriUnreserved_ascii (requireUriComponent_ok h')

theorem colon_notMem_uriComponent {value encoded : JsString} (h : requireUriComponent value = .ok encoded) :
    colon ∉ encoded := by
  rw [requireUriComponent_ok h, List.mem_flatMap]
  rintro ⟨c, hc, hm⟩
  exact StreamRef.notMem_percentEncode (fun c h => (isUriUnreserved_ascii c h).1) (codePoints_lt value c hc)
    (by decide) (by decide) (by decide) hm

theorem notificationIdentity_eq {notification : DocumentUserNotificationPayload} {id : JsString}
    (h : notificationIdentity notification = .ok id) :
    ∃ source recipient, notificationSource notification.ruleName = .ok source ∧
      requireUriComponent notification.recipientId = .ok recipient ∧
      id = notification.eventId ++ [colon] ++ (source ++ (js "user" ++ [colon] ++ recipient)) := by
  obtain ⟨source, hsource, h⟩ := except_bind_eq_ok h
  obtain ⟨recipient, hrecipient, h⟩ := except_bind_eq_ok h
  refine ⟨source, recipient, hsource, hrecipient, ?_⟩
  have hcolon : js ":" = [colon] := by decide
  have huser : js "user:" = js "user" ++ [colon] := by decide
  rw [← Except.ok.inj h, hcolon, huser]
  simp

/-- Texts are equal up to the first colon and behind it. -/
theorem colon_split {a a' b b' : JsString} (h : colon ∉ a) (h' : colon ∉ a')
    (heq : a ++ [colon] ++ b = a' ++ [colon] ++ b') : a = a' ∧ b = b' := by
  have hsplit := congrArg StreamRef.splitColon heq
  rw [StreamRef.splitColon_append b h, StreamRef.splitColon_append b' h'] at hsplit
  exact Prod.mk.inj hsplit

theorem notificationSource_rule {name source : JsString} (h : notificationSource (some name) = .ok source) :
    ∃ rule, requireUriComponent name = .ok rule ∧ source = js "rule" ++ [colon] ++ (rule ++ [colon]) := by
  obtain ⟨rule, hname, h⟩ := except_bind_eq_ok h
  refine ⟨rule, hname, ?_⟩
  have hcolon : js ":" = [colon] := by decide
  have hword : js "rule:" = js "rule" ++ [colon] := by decide
  rw [← Except.ok.inj h, hcolon, hword]
  simp

/-- The source says whether there is a rule, and which. -/
theorem notificationSource_split {ruleName ruleName' : Option JsString} {source source' recipient recipient' : JsString}
    (h : notificationSource ruleName = .ok source) (h' : notificationSource ruleName' = .ok source')
    (heq : source ++ (js "user" ++ [colon] ++ recipient) = source' ++ (js "user" ++ [colon] ++ recipient')) :
    ruleName = ruleName' ∧ recipient = recipient' := by
  have huser : colon ∉ js "user" := by decide
  have hrule : colon ∉ js "rule" := by decide
  have hne : js "user" ≠ js "rule" := by decide
  cases ruleName with
  | none =>
    obtain rfl := Except.ok.inj h
    cases ruleName' with
    | none =>
      obtain rfl := Except.ok.inj h'
      exact ⟨rfl, (colon_split huser huser heq).2⟩
    | some name' =>
      -- one begins with `user`, the other with `rule`
      obtain ⟨rule', -, rfl⟩ := notificationSource_rule h'
      rw [List.nil_append, List.append_assoc (js "rule" ++ [colon])] at heq
      exact absurd (colon_split huser hrule heq).1 hne
  | some name =>
    obtain ⟨rule, hname, rfl⟩ := notificationSource_rule h
    rw [List.append_assoc (js "rule" ++ [colon])] at heq
    cases ruleName' with
    | none =>
      obtain rfl := Except.ok.inj h'
      rw [List.nil_append] at heq
      exact absurd (colon_split hrule huser heq).1.symm hne
    | some name' =>
      obtain ⟨rule', hname', rfl⟩ := notificationSource_rule h'
      rw [List.append_assoc (js "rule" ++ [colon])] at heq
      have hrest := (colon_split hrule hrule heq).2
      obtain ⟨rfl, huserrest⟩ := colon_split (colon_notMem_uriComponent hname) (colon_notMem_uriComponent hname')
        hrest
      rw [requireUriComponent_injective hname hname']
      exact ⟨rfl, (colon_split huser huser huserrest).2⟩

/-- **Identities**: when the ids of events have no colon, notifications with one identity have the same
event, rule and recipient. -/
theorem notificationIdentity_injective {notification notification' : DocumentUserNotificationPayload} {id : JsString}
    (h : notificationIdentity notification = .ok id) (h' : notificationIdentity notification' = .ok id)
    (hcolon : colon ∉ notification.eventId) (hcolon' : colon ∉ notification'.eventId) :
    notification.eventId = notification'.eventId ∧ notification.ruleName = notification'.ruleName ∧
      notification.recipientId = notification'.recipientId := by
  obtain ⟨source, recipient, hsource, hrecipient, rfl⟩ := notificationIdentity_eq h
  obtain ⟨source', recipient', hsource', hrecipient', heq⟩ := notificationIdentity_eq h'
  obtain ⟨hevent, hrest⟩ := colon_split hcolon hcolon' heq
  obtain ⟨hrule, rfl⟩ := notificationSource_split hsource hsource' hrest
  exact ⟨hevent, hrule, requireUriComponent_injective hrecipient hrecipient'⟩
