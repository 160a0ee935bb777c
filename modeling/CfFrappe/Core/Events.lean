import CfFrappe.Core.Types

set_option autoImplicit false

/-! # Domain events and the document fold

A document is the fold of its stream. `foldDocumentFrom` goes on from a folded snapshot, and
on a stream whose sequences count up (`Sequenced`) the fold of a whole stream is the fold of
a beginning followed by the fold of the rest (`foldDocumentFrom_append`).
-/

open Utf

/-! ## Events -/

/-- A transition that a domain command made, as its event records it. -/
structure DomainCommandTransitionFact where
  workflow : JsString
  stateField : JsString
  action : JsString
  «from» : JsString
  «to» : JsString
  deriving DecidableEq

/-- A recorded activity, normalized. -/
structure NormalizedActivity where
  activityType : JsString
  subject : JsString
  detail : Option JsString := none
  channel : Option JsString := none
  externalId : Option JsString := none
  deriving DecidableEq

inductive DocumentSharePermission
  | read
  | update
  | share
  deriving DecidableEq

/-- An automation action with its values in place: the document to update and the patch. -/
structure ResolvedAutomationAction where
  doctype : DocTypeName
  name : DocumentName
  patch : DocumentData
  deriving DecidableEq

structure AutomationRunRetryPolicy where
  maxAttempts : Nat
  baseDelaySeconds : Nat
  maxDelaySeconds : Nat
  deriving DecidableEq

/-- What an automation run is about: the event that caused it, the rule and the action. -/
structure AutomationRunSource where
  runId : JsString
  sourceEventId : JsString
  sourceEventType : JsString
  sourcePayloadKind : JsString
  sourceDoctype : DocTypeName
  sourceDocumentName : DocumentName
  sourceActorId : JsString
  workflowName : Option JsString := none
  workflowAction : Option JsString := none
  workflowTransitions : Option (List DomainCommandTransitionFact) := none
  ruleId : JsString
  ruleName : JsString
  actionId : JsString
  action : ResolvedAutomationAction
  retry : AutomationRunRetryPolicy
  causationId : JsString
  correlationId : JsString
  automationDepth : Nat
  automationPath : List JsString
  deriving DecidableEq

inductive AutomationRunEventPayload
  | enqueued (source : AutomationRunSource)
  | claimed (runId claimId : JsString) (claimExpiresAt : Timestamp)
  | delivered (runId claimId : JsString)
  | failed (runId claimId error : JsString) (retryAt : Timestamp)
  | deadLettered (runId claimId error : JsString)
  | suppressed (runId error : JsString)
  deriving DecidableEq

/-- The payloads a stream can hold. `other` stands for the kinds that no document stream
holds and that `foldDocumentFrom` passes over. -/
inductive EventPayload
  | documentCreated (data : DocumentData) (docstatus : DocStatus)
  | documentUpdated (patch : DocumentData) (unset : List JsString)
  | documentDeleted
  | documentSubmitted
  | documentCancelled
  | workflowTransitioned (workflow stateField action «from» «to» : JsString) (patch : DocumentData)
  | domainCommandApplied (command : JsString) (input patch : DocumentData)
      (transitions : List DomainCommandTransitionFact)
  | documentCommentAdded (text : JsString)
  | documentActivityRecorded (activity : NormalizedActivity)
  | documentAssigned (assigneeId : JsString)
  | documentUnassigned (assigneeId : JsString)
  | documentTagged (tag : JsString)
  | documentUntagged (tag : JsString)
  | documentFollowed (followerId : JsString)
  | documentUnfollowed (followerId : JsString)
  | documentShared (userId : JsString) (permissions : List DocumentSharePermission)
  | documentShareRevoked (userId : JsString)
  | automationRun (payload : AutomationRunEventPayload)
  | other (kind : JsString) (value : DocumentData)
  deriving DecidableEq

/-- The `kind` of a payload. -/
def EventPayload.kind : EventPayload → JsString
  | .documentCreated .. => js "DocumentCreated"
  | .documentUpdated .. => js "DocumentUpdated"
  | .documentDeleted => js "DocumentDeleted"
  | .documentSubmitted => js "DocumentSubmitted"
  | .documentCancelled => js "DocumentCancelled"
  | .workflowTransitioned .. => js "WorkflowTransitioned"
  | .domainCommandApplied .. => js "DomainCommandApplied"
  | .documentCommentAdded _ => js "DocumentCommentAdded"
  | .documentActivityRecorded _ => js "DocumentActivityRecorded"
  | .documentAssigned _ => js "DocumentAssigned"
  | .documentUnassigned _ => js "DocumentUnassigned"
  | .documentTagged _ => js "DocumentTagged"
  | .documentUntagged _ => js "DocumentUntagged"
  | .documentFollowed _ => js "DocumentFollowed"
  | .documentUnfollowed _ => js "DocumentUnfollowed"
  | .documentShared .. => js "DocumentShared"
  | .documentShareRevoked _ => js "DocumentShareRevoked"
  | .automationRun (.enqueued _) => js "AutomationRunEnqueued"
  | .automationRun (.claimed ..) => js "AutomationRunClaimed"
  | .automationRun (.delivered ..) => js "AutomationRunDelivered"
  | .automationRun (.failed ..) => js "AutomationRunFailed"
  | .automationRun (.deadLettered ..) => js "AutomationRunDeadLettered"
  | .automationRun (.suppressed ..) => js "AutomationRunSuppressed"
  | .other kind _ => kind

/-- An event before the store has given it a sequence. -/
structure NewDomainEvent where
  id : JsString
  tenantId : TenantId
  stream : StreamName
  type : JsString
  doctype : DocTypeName
  documentName : DocumentName
  actorId : JsString
  occurredAt : Timestamp
  payload : EventPayload
  metadata : DocumentData
  deriving DecidableEq

structure DomainEvent extends NewDomainEvent where
  sequence : Nat
  deriving DecidableEq

def domainEventPayloadKind (event : DomainEvent) : JsString := event.payload.kind

def NewDomainEvent.withSequence (event : NewDomainEvent) (sequence : Nat) : DomainEvent := { event with sequence }

/-- Consecutive sequences after the expected version. -/
def sequenceEvents : Nat → List NewDomainEvent → List DomainEvent
  | _, [] => []
  | expectedVersion, event :: events =>
    event.withSequence (expectedVersion + 1) :: sequenceEvents (expectedVersion + 1) events

/-- `typeof value === "string" && value.trim().length > 0`. -/
def isRequiredString (value : JsString) : Bool := !(Json.trim value).isEmpty

/-- A transition payload with a workflow, a state field and an action. The other conditions
of the source hold by the types of the payload. -/
def isCurrentWorkflowTransitionPayload : EventPayload → Bool
  | .workflowTransitioned workflow stateField action _ _ _ =>
    isRequiredString workflow && isRequiredString stateField && isRequiredString action
  | _ => false

/-! ## The fold -/

/-- `{ ...data, ...patch }` without the unset fields. -/
def applyDocumentDataChange (data patch : DocumentData) (unset : List JsString) : DocumentData :=
  Record.without (Record.merge data patch) unset

/-- One turn of the loop of `foldDocumentFrom`. -/
def foldEvent (snapshot : Option DocumentSnapshot) (event : DomainEvent) : Option DocumentSnapshot :=
  let version := event.sequence
  let updatedAt := event.occurredAt
  match event.payload with
  | .documentCreated data docstatus =>
    some
      { tenantId := event.tenantId, doctype := event.doctype, name := event.documentName,
        version, docstatus, data, createdAt := event.occurredAt, updatedAt }
  | .documentUpdated patch unset =>
    snapshot.map fun current =>
      { current with version, updatedAt, data := applyDocumentDataChange current.data patch unset }
  | .workflowTransitioned _ _ _ _ _ patch =>
    if isCurrentWorkflowTransitionPayload event.payload then
      snapshot.map fun current =>
        { current with version, updatedAt, data := Record.merge current.data patch }
    else snapshot
  | .domainCommandApplied _ _ patch _ =>
    snapshot.map fun current =>
      { current with version, updatedAt, data := Record.merge current.data patch }
  | .documentDeleted => snapshot.map fun current => { current with version, updatedAt, docstatus := .deleted }
  | .documentSubmitted =>
    snapshot.map fun current => { current with version, updatedAt, docstatus := .submitted }
  | .documentCancelled =>
    snapshot.map fun current => { current with version, updatedAt, docstatus := .cancelled }
  | .documentCommentAdded _ | .documentActivityRecorded _ | .documentAssigned _ | .documentUnassigned _
  | .documentTagged _ | .documentUntagged _ | .documentFollowed _ | .documentUnfollowed _
  | .documentShared _ _ | .documentShareRevoked _ =>
    snapshot.map fun current => { current with version, updatedAt }
  | .automationRun _ | .other _ _ => snapshot

/-- `[...events].sort((left, right) => left.sequence - right.sequence)`. -/
def sortBySequence (events : List DomainEvent) : List DomainEvent :=
  events.insertionSort (fun left right => left.sequence ≤ right.sequence)

def foldDocumentFrom (initialSnapshot : Option DocumentSnapshot) (events : List DomainEvent) :
    Option DocumentSnapshot :=
  (sortBySequence events).foldl foldEvent initialSnapshot

def foldDocument (events : List DomainEvent) : Option DocumentSnapshot := foldDocumentFrom none events

/-! ## Sequenced streams -/

/-- The sequences of the events count up from `n + 1`. -/
def Sequenced : Nat → List DomainEvent → Prop
  | _, [] => True
  | n, event :: events => event.sequence = n + 1 ∧ Sequenced (n + 1) events

theorem sequenced_sequenceEvents (n : Nat) (events : List NewDomainEvent) :
    Sequenced n (sequenceEvents n events) := by
  induction events generalizing n with
  | nil => trivial
  | cons event events ih => exact ⟨rfl, ih (n + 1)⟩

variable {n : Nat} {events a b : List DomainEvent} {event : DomainEvent}

theorem Sequenced.append (ha : Sequenced n a) (hb : Sequenced (n + a.length) b) : Sequenced n (a ++ b) := by
  induction a generalizing n with
  | nil => simpa using hb
  | cons event a ih =>
    refine ⟨ha.1, ih ha.2 ?_⟩
    have hlen : n + (event :: a).length = n + 1 + a.length := by
      rw [List.length_cons]
      omega
    rwa [hlen] at hb

theorem Sequenced.left (h : Sequenced n (a ++ b)) : Sequenced n a := by
  induction a generalizing n with
  | nil => trivial
  | cons event a ih => exact ⟨h.1, ih h.2⟩

theorem Sequenced.right (h : Sequenced n (a ++ b)) : Sequenced (n + a.length) b := by
  induction a generalizing n with
  | nil => simpa using h
  | cons event a ih =>
    have hb : Sequenced (n + 1 + a.length) b := ih h.2
    have hlen : n + (event :: a).length = n + 1 + a.length := by
      rw [List.length_cons]
      omega
    rwa [hlen]

theorem Sequenced.lt (h : Sequenced n events) (hmem : event ∈ events) : n < event.sequence := by
  induction events generalizing n with
  | nil => exact absurd hmem List.not_mem_nil
  | cons first events ih =>
    rcases List.mem_cons.mp hmem with rfl | htail
    · rw [h.1]
      exact Nat.lt_succ_self n
    · exact Nat.lt_of_succ_lt (ih h.2 htail)

theorem Sequenced.le_length (h : Sequenced n events) (hmem : event ∈ events) : event.sequence ≤ n + events.length := by
  induction events generalizing n with
  | nil => exact absurd hmem List.not_mem_nil
  | cons first events ih =>
    rw [List.length_cons]
    rcases List.mem_cons.mp hmem with rfl | htail
    · rw [h.1]
      omega
    · have hle := ih h.2 htail
      omega

theorem sortBySequence_eq (h : Sequenced n events) : sortBySequence events = events := by
  apply List.Pairwise.insertionSort_eq
  induction events generalizing n with
  | nil => exact List.Pairwise.nil
  | cons event events ih =>
    refine List.Pairwise.cons ?_ (ih h.2)
    intro later hlater
    have hlt := h.2.lt hlater
    rw [h.1]
    omega

theorem foldDocumentFrom_eq (h : Sequenced n events) (initial : Option DocumentSnapshot) :
    foldDocumentFrom initial events = events.foldl foldEvent initial := by
  rw [foldDocumentFrom, sortBySequence_eq h]

/-- **The fold is associative**: folding the rest of a stream from the fold of its beginning
is folding the whole stream. -/
theorem foldDocumentFrom_append (h : Sequenced n (a ++ b)) (initial : Option DocumentSnapshot) :
    foldDocumentFrom initial (a ++ b) = foldDocumentFrom (foldDocumentFrom initial a) b := by
  rw [foldDocumentFrom_eq h, foldDocumentFrom_eq h.left, foldDocumentFrom_eq h.right, List.foldl_append]

/-- The fold of a stream that one event has been appended to. -/
theorem foldDocument_concat (h : Sequenced 0 (events ++ [event])) :
    foldDocument (events ++ [event]) = foldEvent (foldDocument events) event := by
  rw [foldDocument, foldDocumentFrom_append h, foldDocumentFrom_eq h.right]
  rfl

/-- The events after sequence `k` are those that follow the first `k`. -/
theorem Sequenced.filter_after (h : Sequenced 0 events) (k : Nat) :
    events.filter (fun event => k + 1 ≤ event.sequence) = events.drop k := by
  have hsplit : Sequenced 0 (events.take k ++ events.drop k) := by rwa [List.take_append_drop]
  have hfirst : (events.take k).filter (fun event => k + 1 ≤ event.sequence) = [] := by
    rw [List.filter_eq_nil_iff]
    intro event hmem
    have hle := hsplit.left.le_length hmem
    have hlen := List.length_take_le k events
    rw [decide_eq_true_eq]
    omega
  have hlast : (events.drop k).filter (fun event => k + 1 ≤ event.sequence) = events.drop k := by
    rw [List.filter_eq_self]
    intro event hmem
    have hlt := hsplit.right.lt hmem
    rw [decide_eq_true_eq]
    by_cases hk : k ≤ events.length
    · rw [List.length_take_of_le hk] at hlt
      omega
    · rw [List.drop_eq_nil_of_le (by omega)] at hmem
      exact absurd hmem List.not_mem_nil
  conv_lhs => rw [← List.take_append_drop k events]
  rw [List.filter_append, hfirst, hlast, List.nil_append]
