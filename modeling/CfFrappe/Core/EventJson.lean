import CfFrappe.Core.Events

set_option autoImplicit false

/-! # Events as values

Rules look into an event through paths, as if it were plain data (`DomainEvent.toJson`), and say
which workflow transitions it stands for (`domainEventWorkflowIdentity`).
-/

open Utf

/-! ## Members -/

namespace Json

/-- A member that is left out when there is no value. -/
def optional (key : JsString) (value : Option Json) : List (JsString × Json) :=
  (value.map (fun value => (key, value))).toList

def strings (values : List JsString) : Json := .arr (values.map .str)

end Json

def DomainCommandTransitionFact.toJson (transition : DomainCommandTransitionFact) : Json :=
  .obj
    [(js "workflow", .str transition.workflow), (js "stateField", .str transition.stateField),
     (js "action", .str transition.action), (js "from", .str transition.from), (js "to", .str transition.to)]

def DocumentSharePermission.toText : DocumentSharePermission → JsString
  | .read => js "read"
  | .update => js "update"
  | .share => js "share"

def ResolvedAutomationAction.toJson (action : ResolvedAutomationAction) : Json :=
  .obj
    [(js "kind", .str (js "updateDocument")),
     (js "target", .obj [(js "doctype", .str action.doctype), (js "name", .str action.name)]),
     (js "patch", .obj action.patch)]

def AutomationRunRetryPolicy.toJson (retry : AutomationRunRetryPolicy) : Json :=
  .obj
    [(js "maxAttempts", .num retry.maxAttempts), (js "baseDelaySeconds", .num retry.baseDelaySeconds),
     (js "maxDelaySeconds", .num retry.maxDelaySeconds)]

def AutomationRunSource.toMembers (source : AutomationRunSource) : DocumentData :=
  [(js "runId", .str source.runId), (js "sourceEventId", .str source.sourceEventId),
   (js "sourceEventType", .str source.sourceEventType), (js "sourcePayloadKind", .str source.sourcePayloadKind),
   (js "sourceDoctype", .str source.sourceDoctype), (js "sourceDocumentName", .str source.sourceDocumentName),
   (js "sourceActorId", .str source.sourceActorId)] ++
  Json.optional (js "workflowName") (source.workflowName.map .str) ++
  Json.optional (js "workflowAction") (source.workflowAction.map .str) ++
  Json.optional (js "workflowTransitions")
    (source.workflowTransitions.map (fun transitions => .arr (transitions.map (·.toJson)))) ++
  [(js "ruleId", .str source.ruleId), (js "ruleName", .str source.ruleName), (js "actionId", .str source.actionId),
   (js "action", source.action.toJson), (js "retry", source.retry.toJson),
   (js "causationId", .str source.causationId), (js "correlationId", .str source.correlationId),
   (js "automationDepth", .num source.automationDepth),
   (js "automationPath", Json.strings source.automationPath)]

def AutomationRunEventPayload.toMembers : AutomationRunEventPayload → DocumentData
  | .enqueued source => source.toMembers
  | .claimed runId claimId claimExpiresAt =>
    [(js "runId", .str runId), (js "claimId", .str claimId), (js "claimExpiresAt", .str claimExpiresAt)]
  | .delivered runId claimId => [(js "runId", .str runId), (js "claimId", .str claimId)]
  | .failed runId claimId error retryAt =>
    [(js "runId", .str runId), (js "claimId", .str claimId), (js "error", .str error), (js "retryAt", .str retryAt)]
  | .deadLettered runId claimId error =>
    [(js "runId", .str runId), (js "claimId", .str claimId), (js "error", .str error)]
  | .suppressed runId error => [(js "runId", .str runId), (js "error", .str error)]

/-- The members of a payload besides its `kind`. -/
def EventPayload.toMembers : EventPayload → DocumentData
  | .documentCreated data docstatus => [(js "data", .obj data), (js "docstatus", .str docstatus.toText)]
  | .documentUpdated patch unset =>
    (js "patch", .obj patch) :: if unset.isEmpty then [] else [(js "unset", Json.strings unset)]
  | .documentDeleted | .documentSubmitted | .documentCancelled => []
  | .workflowTransitioned workflow stateField action «from» «to» patch =>
    [(js "workflow", .str workflow), (js "stateField", .str stateField), (js "action", .str action),
     (js "from", .str «from»), (js "to", .str «to»), (js "patch", .obj patch)]
  | .domainCommandApplied command input patch transitions =>
    [(js "command", .str command), (js "input", .obj input), (js "patch", .obj patch),
     (js "transitions", .arr (transitions.map (·.toJson)))]
  | .documentCommentAdded text => [(js "text", .str text)]
  | .documentActivityRecorded activity =>
    [(js "activityType", .str activity.activityType), (js "subject", .str activity.subject)] ++
      Json.optional (js "detail") (activity.detail.map .str) ++
      Json.optional (js "channel") (activity.channel.map .str) ++
      Json.optional (js "externalId") (activity.externalId.map .str)
  | .documentAssigned assigneeId | .documentUnassigned assigneeId => [(js "assigneeId", .str assigneeId)]
  | .documentTagged tag | .documentUntagged tag => [(js "tag", .str tag)]
  | .documentFollowed followerId | .documentUnfollowed followerId => [(js "followerId", .str followerId)]
  | .documentShared userId permissions =>
    [(js "userId", .str userId), (js "permissions", Json.strings (permissions.map (·.toText)))]
  | .documentShareRevoked userId => [(js "userId", .str userId)]
  | .automationRun payload => payload.toMembers
  | .other _ value => value

/-- An event as the value that predicates read. -/
def DomainEvent.toJson (event : DomainEvent) : Json :=
  .obj
    [(js "id", .str event.id), (js "tenantId", .str event.tenantId), (js "stream", .str event.stream),
     (js "sequence", .num event.sequence), (js "type", .str event.type), (js "doctype", .str event.doctype),
     (js "documentName", .str event.documentName), (js "actorId", .str event.actorId),
     (js "occurredAt", .str event.occurredAt),
     (js "payload", .obj ((js "kind", .str event.payload.kind) :: event.payload.toMembers)),
     (js "metadata", .obj event.metadata)]

/-! ## Workflow identity -/

structure DomainEventWorkflowIdentity where
  workflowName : Option JsString := none
  workflowAction : Option JsString := none
  workflowTransitions : Option (List DomainCommandTransitionFact) := none
  deriving DecidableEq

/-- The transitions that an event stands for; one transition alone names its workflow and action. -/
def domainEventWorkflowIdentity (event : DomainEvent) : DomainEventWorkflowIdentity :=
  match event.payload with
  | .workflowTransitioned workflow stateField action «from» «to» _ =>
    if isCurrentWorkflowTransitionPayload event.payload then
      { workflowName := some workflow
        workflowAction := some action
        workflowTransitions := some [{ workflow, stateField, action, «from», «to» }] }
    else {}
  | .domainCommandApplied _ _ _ [] => {}
  | .domainCommandApplied _ _ _ [transition] =>
    { workflowName := some transition.workflow
      workflowAction := some transition.action
      workflowTransitions := some [transition] }
  | .domainCommandApplied _ _ _ transitions => { workflowTransitions := some transitions }
  | _ => {}
