import CfFrappe.Application.AutomationRunPolicy
import CfFrappe.Application.DocumentStore

set_option autoImplicit false

/-! # Planning automation runs

What a commit adds for the actions its event asks for: a stream for every run, which starts with the
enqueueing and, when the run is part of a loop, ends with its suppression (`planEnqueueFromDomainEvent`). The
event says what it was caused by in its metadata: the depth of the causes and the path of the actions.
-/

open Utf

def defaultAutomationMaxDepth : Nat := 8
def defaultAutomationMaxPathRepeats : Nat := 1

/-! ## The planner -/

def positiveInteger (value : Option Rat) (fallback : Nat) (label : JsString) : Except FrameworkError Nat :=
  let normalized := value.getD fallback
  if Json.isSafeInteger normalized && 0 < normalized then .ok normalized.num.toNat
  else .error (.ofError (label ++ js " must be a positive integer"))

structure AutomationRunPlannerOptions where
  retry : AutomationRunRetryOptions := {}
  maxDepth : Option Rat := none
  maxPathRepeats : Option Rat := none

structure AutomationRunPlanner where
  retry : AutomationRunRetryPolicy
  maxDepth : Nat
  maxPathRepeats : Nat

/-- The constructor. -/
def AutomationRunPlanner.create (options : AutomationRunPlannerOptions) : Except FrameworkError AutomationRunPlanner := do
  let retry ← normalizeAutomationRunRetryPolicy options.retry
  let maxDepth ← positiveInteger options.maxDepth defaultAutomationMaxDepth (js "Automation max depth")
  let maxPathRepeats ← positiveInteger options.maxPathRepeats defaultAutomationMaxPathRepeats
    (js "Automation max path repeats")
  return { retry, maxDepth, maxPathRepeats }

/-- A retry policy allows one attempt at least. -/
theorem normalizeAutomationRunRetryPolicy_pos {value : AutomationRunRetryOptions} {retry : AutomationRunRetryPolicy}
    (h : normalizeAutomationRunRetryPolicy value = .ok retry) : 0 < retry.maxAttempts := by
  unfold normalizeAutomationRunRetryPolicy at h
  obtain ⟨_, hattempts, h⟩ := except_bind_eq_ok h
  obtain ⟨_, _, h⟩ := except_bind_eq_ok h
  obtain ⟨_, _, h⟩ := except_bind_eq_ok h
  have hattempts := ensure_eq_ok hattempts
  rw [Bool.and_eq_true, decide_eq_true_eq] at hattempts
  cases h
  have hcast := natCast_num_toNat hattempts.1 (zero_le_one.trans hattempts.2)
  have hone : (1 : Rat) ≤ ((value.maxAttempts.getD automationRunDefaultMaxAttempts).num.toNat : Nat) := by
    rw [hcast]
    exact hattempts.2
  exact_mod_cast hone

theorem AutomationRunPlanner.create_retry {options : AutomationRunPlannerOptions} {planner : AutomationRunPlanner}
    (h : AutomationRunPlanner.create options = .ok planner) :
    normalizeAutomationRunRetryPolicy options.retry = .ok planner.retry := by
  obtain ⟨retry, hretry, h⟩ := except_bind_eq_ok h
  obtain ⟨_, _, h⟩ := except_bind_eq_ok h
  obtain ⟨_, _, h⟩ := except_bind_eq_ok h
  cases h
  exact hretry

/-! ## What an event says of its causes -/

def sourceAutomationDepth (event : DomainEvent) : Nat :=
  (safeNat? (Record.get event.metadata (js "automationDepth"))).getD 0

def sourceAutomationPath (event : DomainEvent) : List JsString :=
  match automationPathFromData (Record.get event.metadata (js "automationPath")) with
  | .ok path => path
  | .error _ => []

def sourceCorrelationId (event : DomainEvent) : JsString :=
  match Record.get event.metadata (js "correlationId") with
  | some (.str value) => if value.isEmpty then event.id else value
  | _ => event.id

def automationLoopSuppressionError (automationDepth : Nat) (automationPathKey : JsString) (maxDepth maxPathRepeats : Nat)
    (sourcePath : List JsString) : Option JsString :=
  if maxDepth < automationDepth then
    some (js "Automation depth " ++ Json.natToString automationDepth ++ js " exceeds limit " ++
      Json.natToString maxDepth)
  else if maxPathRepeats ≤ (sourcePath.filter (· == automationPathKey)).length then
    some (js "Automation path '" ++ automationPathKey ++ js "' exceeds repeat limit " ++ Json.natToString maxPathRepeats)
  else none

/-! ## The plan -/

/-- The event of a command has a sequence, as `committedLikeEvent` gives it one. -/
structure PlanAutomationRunsFromDomainEventCommand where
  event : DomainEvent
  change : DocumentChangeContext
  input : DocumentData
  actor : Actor
  rules : Option (List AutomationRuleDefinition) := none
  metadata : Option DocumentData := none

/-- The events that start the stream of a run. -/
structure AutomationRunGroup where
  runId : JsString
  stream : StreamName
  events : List NewDomainEvent

structure AutomationRunCommitPlan where
  entries : List DocumentCommitBatchEntry
  runIds : List JsString

def workflowIdentityMetadata (identity : DomainEventWorkflowIdentity) : DocumentData :=
  Json.present
    [(js "workflowName", identity.workflowName.map .str), (js "workflowAction", identity.workflowAction.map .str),
     (js "workflowTransitions", identity.workflowTransitions.map (fun transitions => .arr (transitions.map (·.toJson))))]

namespace AutomationRunPlanner

variable (planner : AutomationRunPlanner) (command : PlanAutomationRunsFromDomainEventCommand)

def automationRunSource (action : PlannedAutomationAction) : AutomationRunSource :=
  let identity := domainEventWorkflowIdentity command.event
  { runId := action.runId, sourceEventId := command.event.id, sourceEventType := command.event.type
    sourcePayloadKind := domainEventPayloadKind command.event, sourceDoctype := command.event.doctype
    sourceDocumentName := command.event.documentName, sourceActorId := command.event.actorId
    workflowName := identity.workflowName, workflowAction := identity.workflowAction
    workflowTransitions := identity.workflowTransitions, ruleId := action.ruleId, ruleName := action.ruleName
    actionId := action.actionId, action := action.action, retry := planner.retry, causationId := command.event.id
    correlationId := sourceCorrelationId command.event
    automationDepth := sourceAutomationDepth command.event + 1
    automationPath := sourceAutomationPath command.event ++ [automationActionIdentity action.ruleId action.actionId] }

/-- The metadata of an enqueueing, without what the command adds. -/
def enqueuedMetadata (source : AutomationRunSource) : DocumentData :=
  [(js "sourceEventId", .str source.sourceEventId), (js "causationId", .str source.causationId),
   (js "correlationId", .str source.correlationId), (js "automationDepth", .num source.automationDepth),
   (js "automationPath", Json.strings source.automationPath), (js "automationRuleId", .str source.ruleId),
   (js "automationRuleName", .str source.ruleName), (js "automationActionDefinitionId", .str source.actionId)]

def suppressedMetadata (source : AutomationRunSource) : DocumentData :=
  [(js "sourceEventId", .str source.sourceEventId), (js "causationId", .str source.causationId),
   (js "correlationId", .str source.correlationId), (js "automationDepth", .num source.automationDepth),
   (js "automationPath", Json.strings source.automationPath), (js "automationRuleId", .str source.ruleId),
   (js "automationActionDefinitionId", .str source.actionId)]

/-- Whether, and with what error, the run of an action is suppressed. -/
def suppressionError (action : PlannedAutomationAction) : Option JsString :=
  automationLoopSuppressionError (sourceAutomationDepth command.event + 1)
    (automationActionIdentity action.ruleId action.actionId) planner.maxDepth planner.maxPathRepeats
    (sourceAutomationPath command.event)

def enqueuedEvent (id : JsString) (stream : StreamName) (action : PlannedAutomationAction) : NewDomainEvent :=
  let source := planner.automationRunSource command action
  automationRunEvent id command.event.tenantId stream command.event.actorId command.event.occurredAt (.enqueued source)
    (Record.merge
      (Record.merge (enqueuedMetadata source) (workflowIdentityMetadata (domainEventWorkflowIdentity command.event)))
      (command.metadata.getD []))

def suppressedEvent (id : JsString) (stream : StreamName) (action : PlannedAutomationAction) (error : JsString) :
    NewDomainEvent :=
  automationRunEvent id command.event.tenantId stream (js "system") command.event.occurredAt
    (.suppressed action.runId error)
    (Record.merge (suppressedMetadata (planner.automationRunSource command action))
      (workflowIdentityMetadata (domainEventWorkflowIdentity command.event)))

/-- The events of a group; `nextId` numbers the calls of `ids.next`, of which some were before. -/
def groupEvents (nextId : Nat → JsString) (issued : Nat) (stream : StreamName) (action : PlannedAutomationAction) :
    List NewDomainEvent :=
  match planner.suppressionError command action with
  | none => [planner.enqueuedEvent command (nextId issued) stream action]
  | some error =>
    [planner.enqueuedEvent command (nextId issued) stream action,
     planner.suppressedEvent command (nextId (issued + 1)) stream action error]

def runGroups (nextId : Nat → JsString) : Nat → List PlannedAutomationAction →
    Except FrameworkError (List AutomationRunGroup)
  | _, [] => .ok []
  | issued, action :: actions => do
      let stream ← requireStream (automationRunStream command.event.tenantId action.runId)
      let events := planner.groupEvents command nextId issued stream action
      let groups ← runGroups nextId (issued + events.length) actions
      return { runId := action.runId, stream, events } :: groups

def plannedActions (canonicalize : UInt16 → UInt16) : List PlannedAutomationAction :=
  automationActionsFromDomainEvent canonicalize (command.rules.getD [])
    { event := command.event, change := command.change, input := command.input, actor := command.actor }

def planEnqueueFromDomainEvent (canonicalize : UInt16 → UInt16) (nextId : Nat → JsString) :
    Except FrameworkError AutomationRunCommitPlan := do
  let groups ← planner.runGroups command nextId 0 (plannedActions command canonicalize)
  pure
    { entries := groups.map (fun group => { stream := group.stream, expectedVersion := 0, events := group.events })
      runIds := groups.map (·.runId) }

/-! ## What is planned -/

/-- An entry of a plan is the stream of the run of an action. -/
structure Planned (planner : AutomationRunPlanner) (command : PlanAutomationRunsFromDomainEventCommand)
    (nextId : Nat → JsString) (action : PlannedAutomationAction) (entry : DocumentCommitBatchEntry) : Prop where
  stream : automationRunStream command.event.tenantId action.runId = some entry.stream
  expectedVersion : entry.expectedVersion = 0
  events : ∃ issued, entry.events = planner.groupEvents command nextId issued entry.stream action

variable {planner : AutomationRunPlanner} {command : PlanAutomationRunsFromDomainEventCommand}
  {nextId : Nat → JsString}

theorem mem_runGroups {actions : List PlannedAutomationAction} {issued : Nat} {groups : List AutomationRunGroup}
    (h : planner.runGroups command nextId issued actions = .ok groups) {group : AutomationRunGroup}
    (hgroup : group ∈ groups) :
    ∃ action ∈ actions, Planned planner command nextId action
      { stream := group.stream, expectedVersion := 0, events := group.events } := by
  induction actions generalizing issued groups with
  | nil =>
    cases h
    cases hgroup
  | cons action actions ih =>
    obtain ⟨stream, hstream, h⟩ := except_bind_eq_ok h
    obtain ⟨rest, hrest, h⟩ := except_bind_eq_ok h
    cases h
    rcases List.mem_cons.mp hgroup with rfl | hmem
    · exact ⟨action, List.mem_cons_self, ⟨requireStream_ok hstream, rfl, issued, rfl⟩⟩
    · obtain ⟨other, hother, hplanned⟩ := ih hrest hmem
      exact ⟨other, List.mem_cons_of_mem _ hother, hplanned⟩

/-- **Every entry is planned for an action** that the event asks for. -/
theorem planned_of_mem {canonicalize : UInt16 → UInt16} {plan : AutomationRunCommitPlan}
    (h : planner.planEnqueueFromDomainEvent command canonicalize nextId = .ok plan) {entry : DocumentCommitBatchEntry}
    (hentry : entry ∈ plan.entries) :
    ∃ action ∈ plannedActions command canonicalize, Planned planner command nextId action entry := by
  obtain ⟨groups, hgroups, h⟩ := except_bind_eq_ok h
  cases h
  obtain ⟨group, hgroup, rfl⟩ := List.mem_map.mp hentry
  exact mem_runGroups hgroups hgroup

end AutomationRunPlanner
