import CfFrappe.Core.EventJson
import CfFrappe.Core.Workflow

set_option autoImplicit false

/-! # Automation rules

Which actions an event asks for (`automationActionsFromDomainEvent`). An action has an id made of
the event, the rule and the action; the parts are escaped, so that the id tells them apart
(`automationActionId_injective`), and the actions of one event have different ids
(`nodup_runIds`).
-/

open Utf

/-! ## Changes -/

structure DocumentFieldChange where
  before : FieldValue
  after : FieldValue

/-- What an event changes; the source keeps the fields sorted, here they are only searched. -/
structure DocumentChangeContext where
  before : Option DocumentSnapshot
  after : Option DocumentSnapshot
  touchedFields : List JsString
  changes : Record JsString DocumentFieldChange

/-- `document?.data[field]` -/
def changedValue (document : Option DocumentSnapshot) (field : JsString) : FieldValue :=
  match document with
  | none => .undefined
  | some document => readField document.data field

def documentChangeContext (before after : Option DocumentSnapshot) (touchedFields : List JsString) :
    DocumentChangeContext :=
  let keys (document : Option DocumentSnapshot) := Record.keys ((document.map (·.data)).getD [])
  let candidateFields := (keys before ++ keys after).eraseDups
  { before, after, touchedFields
    changes := (candidateFields.filter (fun field =>
      !jsonValuesEqual (changedValue before field) (changedValue after field))).map (fun field =>
        (field, { before := changedValue before field, after := changedValue after field })) }

/-! ## Matching -/

def AutomationRuleEventKind.toText : AutomationRuleEventKind → JsString
  | .documentCreated => js "DocumentCreated"
  | .documentUpdated => js "DocumentUpdated"
  | .documentSubmitted => js "DocumentSubmitted"
  | .documentCancelled => js "DocumentCancelled"
  | .workflowTransitioned => js "WorkflowTransitioned"
  | .domainCommandApplied => js "DomainCommandApplied"

def automationRuleEventKinds : List AutomationRuleEventKind :=
  [.documentCreated, .documentUpdated, .documentSubmitted, .documentCancelled, .workflowTransitioned,
   .domainCommandApplied]

def isAutomationRuleEventKind (value : JsString) : Bool :=
  automationRuleEventKinds.any (fun kind => kind.toText == value)

/-- What an event is matched with. -/
structure AutomationRuleMatchContext where
  event : DomainEvent
  change : DocumentChangeContext
  input : DocumentData
  actor : Actor

/-- A transition has the workflow and the action that a trigger asks for. -/
def selectsTransition (trigger : AutomationTriggerDefinition) (workflow action : JsString) : Bool :=
  trigger.workflow.all (· == workflow) && trigger.workflowAction.all (· == action)

def workflowIdentityMatches (trigger : AutomationTriggerDefinition) : EventPayload → Bool
  | .workflowTransitioned workflow _ action _ _ _ => selectsTransition trigger workflow action
  | .domainCommandApplied _ _ _ transitions =>
    transitions.any (fun transition => selectsTransition trigger transition.workflow transition.action)
  | _ => false

def triggerIdentityMatches (trigger : AutomationTriggerDefinition) (event : DomainEvent) : Bool :=
  ((trigger.workflow.isNone && trigger.workflowAction.isNone) || workflowIdentityMatches trigger event.payload) &&
    trigger.domainCommand.all (fun name =>
      match event.payload with
      | .domainCommandApplied command _ _ _ => command == name
      | _ => false)

/-- A selector looks its field up in an object: a name that the object inherits counts as a change from `undefined`
to `undefined`. -/
def automationChangeSelectorMatches (change : DocumentChangeContext)
    (selector : AutomationChangeSelectorDefinition) : Bool :=
  let fieldChange? := (Record.get change.changes selector.field).or
    (if inheritedValue selector.field = .undefined then none else some { before := .undefined, after := .undefined })
  match fieldChange? with
  | none => false
  | some fieldChange =>
    selector.from.all (fun value => jsonValuesEqual fieldChange.before (.value value)) &&
      selector.to.all (fun value => jsonValuesEqual fieldChange.after (.value value))

section

variable (canonicalize : UInt16 → UInt16)

def automationRuleMatches (rule : AutomationRuleDefinition) (context : AutomationRuleMatchContext) : Bool :=
  rule.enabled && rule.trigger.events.any (fun kind => kind.toText == domainEventPayloadKind context.event) &&
    triggerIdentityMatches rule.trigger context.event &&
    rule.trigger.touchedFields.all (fun fields =>
      fields.any (fun field => context.change.touchedFields.contains field)) &&
    rule.trigger.changes.all (fun selectors => selectors.any (automationChangeSelectorMatches context.change)) &&
    rule.runWhen.all (evaluatePredicateExpression canonicalize
      { before := context.change.before, after := context.change.after, input := context.input,
        event := some context.event.toJson, actor := some context.actor.toJson })

/-! ## Actions -/

def escapeIdentityUnit (u : UInt16) : JsString := if u = 0x25 then js "%25" else if u = 0x3A then js "%3A" else [u]

/-- `value.replaceAll("%", "%25").replaceAll(":", "%3A")`: the second replacement leaves alone what
the first has written. -/
def automationIdentityPart (value : JsString) : JsString := value.flatMap escapeIdentityUnit

def automationActionIdentity (ruleId actionId : JsString) : JsString :=
  automationIdentityPart ruleId ++ js ":" ++ automationIdentityPart actionId

def automationActionId (sourceEventId ruleId actionId : JsString) : JsString :=
  automationIdentityPart sourceEventId ++ js ":" ++ automationActionIdentity ruleId actionId

/-- An action that an event asks for. -/
structure PlannedAutomationAction where
  runId : JsString
  ruleId : JsString
  ruleName : JsString
  actionId : JsString
  action : ResolvedAutomationAction

def resolveAutomationValue (event : DomainEvent) (snapshot : DocumentSnapshot) :
    AutomationValueExpression → Option Json
  | .literal value => some value
  | .documentName => some (.str snapshot.name)
  | .actor => some (.str event.actorId)
  | .field field => Record.get snapshot.data field

/-- An action without a target name, or with nothing to patch, is left out. -/
def resolveAutomationAction (action : AutomationActionDefinition) (event : DomainEvent)
    (snapshot : DocumentSnapshot) : Option ResolvedAutomationAction :=
  match resolveAutomationValue event snapshot action.targetName with
  | some (.str name) =>
    let patch := action.patch.filterMap (fun entry =>
      (resolveAutomationValue event snapshot entry.2).map (fun value => (entry.1, value)))
    if (Json.trim name).isEmpty || patch.isEmpty then none
    else some { doctype := action.targetDoctype, name := Json.trim name, patch }
  | _ => none

/-- The actions of one rule. -/
def plannedActions (event : DomainEvent) (snapshot : DocumentSnapshot) (rule : AutomationRuleDefinition) :
    List PlannedAutomationAction :=
  rule.actions.filterMap (fun action =>
    (resolveAutomationAction action event snapshot).map (fun resolved =>
      { runId := automationActionId event.id rule.id action.id, ruleId := rule.id, ruleName := rule.name,
        actionId := action.id, action := resolved }))

def automationActionsFromDomainEvent (rules : List AutomationRuleDefinition)
    (context : AutomationRuleMatchContext) : List PlannedAutomationAction :=
  match context.change.after with
  | none => []
  | some snapshot =>
    if snapshot.docstatus = .deleted ∨ isAutomationRuleEventKind (domainEventPayloadKind context.event) = false then
      []
    else (rules.filter (automationRuleMatches canonicalize · context)).flatMap (plannedActions context.event snapshot)

end

/-! ## Rules of a DocType -/

/-- What `normalizeAutomationRules` guarantees: no two rules have one id, and no two actions of a rule. -/
structure AutomationRulesNormalized (rules : List AutomationRuleDefinition) : Prop where
  ids : (rules.map (·.id)).Nodup
  actionIds : ∀ rule ∈ rules, (rule.actions.map (·.id)).Nodup

/-! ## Ids -/

/-- What a unit is escaped to: a percent sign and two units that tell which one it was, or the unit itself. -/
theorem escapeIdentityUnit_cases (u : UInt16) :
    (u = 0x25 ∧ escapeIdentityUnit u = [0x25, 0x32, 0x35]) ∨ (u = 0x3A ∧ escapeIdentityUnit u = [0x25, 0x33, 0x41]) ∨
      (u ≠ 0x25 ∧ u ≠ 0x3A ∧ escapeIdentityUnit u = [u]) := by
  by_cases hpercent : u = 0x25
  · exact .inl ⟨hpercent, by rw [hpercent]; decide⟩
  · by_cases hcolon : u = 0x3A
    · exact .inr (.inl ⟨hcolon, by rw [hcolon]; decide⟩)
    · exact .inr (.inr ⟨hpercent, hcolon, by rw [escapeIdentityUnit, if_neg hpercent, if_neg hcolon]⟩)

theorem escapeIdentityUnit_ne_nil (u : UInt16) (rest : JsString) : escapeIdentityUnit u ++ rest ≠ [] := by
  rcases escapeIdentityUnit_cases u with ⟨-, hu⟩ | ⟨-, hu⟩ | ⟨-, -, hu⟩
  all_goals
    rw [hu]
    exact List.cons_ne_nil _ _

theorem colon_notMem_automationIdentityPart (value : JsString) : (0x3A : UInt16) ∉ automationIdentityPart value := by
  unfold automationIdentityPart
  rw [List.mem_flatMap]
  rintro ⟨u, -, hmem⟩
  rcases escapeIdentityUnit_cases u with ⟨-, hu⟩ | ⟨-, hu⟩ | ⟨-, hcolon, hu⟩
  · rw [hu] at hmem
    exact absurd hmem (by decide)
  · rw [hu] at hmem
    exact absurd hmem (by decide)
  · rw [hu, List.mem_singleton] at hmem
    exact hcolon hmem.symm

/-- **No escape is the beginning of another one**: an escape begins with a percent sign, which is itself escaped, and
the unit after it tells the two escapes apart. -/
theorem escapeIdentityUnit_append_inj {u v : UInt16} {a b : JsString}
    (h : escapeIdentityUnit u ++ a = escapeIdentityUnit v ++ b) : u = v ∧ a = b := by
  rcases escapeIdentityUnit_cases u with ⟨rfl, hu⟩ | ⟨rfl, hu⟩ | ⟨hpercent, -, hu⟩ <;>
    rcases escapeIdentityUnit_cases v with ⟨rfl, hv⟩ | ⟨rfl, hv⟩ | ⟨hpercent', -, hv⟩ <;>
    simp only [hu, hv] at h
  -- the percent sign
  · exact ⟨rfl, List.append_cancel_left h⟩
  · exact absurd (List.cons.inj (List.cons.inj h).2).1 (by decide)
  · exact absurd (List.cons.inj h).1.symm hpercent'
  -- the colon
  · exact absurd (List.cons.inj (List.cons.inj h).2).1 (by decide)
  · exact ⟨rfl, List.append_cancel_left h⟩
  · exact absurd (List.cons.inj h).1.symm hpercent'
  -- a unit that stands for itself
  · exact absurd (List.cons.inj h).1 hpercent
  · exact absurd (List.cons.inj h).1 hpercent
  · exact List.cons.inj h

theorem automationIdentityPart_injective {a b : JsString} (h : automationIdentityPart a = automationIdentityPart b) :
    a = b := by
  induction a generalizing b with
  | nil =>
    cases b with
    | nil => rfl
    | cons v b => exact absurd h.symm (escapeIdentityUnit_ne_nil v (automationIdentityPart b))
  | cons u a ih =>
    cases b with
    | nil => exact absurd h (escapeIdentityUnit_ne_nil u (automationIdentityPart a))
    | cons v b =>
      obtain ⟨rfl, hrest⟩ := escapeIdentityUnit_append_inj h
      rw [ih hrest]

theorem before_colon_unique {a a' b b' : JsString} (ha : (0x3A : UInt16) ∉ a) (ha' : (0x3A : UInt16) ∉ a')
    (h : a ++ js ":" ++ b = a' ++ js ":" ++ b') : a = a' ∧ b = b' := by
  have hsplit := StreamRef.splitColon_append b ha
  have hsplit' := StreamRef.splitColon_append b' ha'
  have hjs : js ":" = [colon] := by decide
  rw [hjs] at h
  rw [h, hsplit', Prod.mk.injEq] at hsplit
  exact ⟨hsplit.1.symm, hsplit.2.symm⟩

/-- **An action id tells the event, the rule and the action apart.** -/
theorem automationActionId_injective {eventId eventId' ruleId ruleId' actionId actionId' : JsString}
    (h : automationActionId eventId ruleId actionId = automationActionId eventId' ruleId' actionId') :
    eventId = eventId' ∧ ruleId = ruleId' ∧ actionId = actionId' := by
  obtain ⟨hevent, hrest⟩ := before_colon_unique (colon_notMem_automationIdentityPart eventId)
    (colon_notMem_automationIdentityPart eventId') h
  obtain ⟨hrule, haction⟩ := before_colon_unique (colon_notMem_automationIdentityPart ruleId)
    (colon_notMem_automationIdentityPart ruleId') hrest
  exact ⟨automationIdentityPart_injective hevent, automationIdentityPart_injective hrule,
    automationIdentityPart_injective haction⟩

/-! ## The actions of one event -/

section

variable {canonicalize : UInt16 → UInt16}

theorem mem_plannedActions {event : DomainEvent} {snapshot : DocumentSnapshot} {rule : AutomationRuleDefinition}
    {planned : PlannedAutomationAction} (h : planned ∈ plannedActions event snapshot rule) :
    ∃ action ∈ rule.actions, planned.runId = automationActionId event.id rule.id action.id ∧
      planned.ruleId = rule.id ∧ planned.actionId = action.id := by
  rw [plannedActions, List.mem_filterMap] at h
  obtain ⟨action, haction, hplanned⟩ := h
  rw [Option.map_eq_some_iff] at hplanned
  obtain ⟨resolved, -, rfl⟩ := hplanned
  exact ⟨action, haction, rfl, rfl, rfl⟩

theorem mem_automationActionsFromDomainEvent {rules : List AutomationRuleDefinition}
    {context : AutomationRuleMatchContext} {planned : PlannedAutomationAction}
    (h : planned ∈ automationActionsFromDomainEvent canonicalize rules context) :
    planned.runId = automationActionId context.event.id planned.ruleId planned.actionId := by
  unfold automationActionsFromDomainEvent at h
  split at h
  · exact absurd h List.not_mem_nil
  · split_ifs at h
    · exact absurd h List.not_mem_nil
    · rw [List.mem_flatMap] at h
      obtain ⟨rule, -, hplanned⟩ := h
      obtain ⟨action, -, hrun, hrule, hid⟩ := mem_plannedActions hplanned
      rw [hrun, hrule, hid]

theorem nodup_plannedActions {event : DomainEvent} {snapshot : DocumentSnapshot} {rule : AutomationRuleDefinition}
    (hids : (rule.actions.map (·.id)).Nodup) : ((plannedActions event snapshot rule).map (·.runId)).Nodup := by
  -- the ids are those of a part of the actions, in their order
  have hsublist : ((plannedActions event snapshot rule).map (·.actionId)).Sublist (rule.actions.map (·.id)) := by
    unfold plannedActions
    induction rule.actions with
    | nil => exact List.Sublist.slnil
    | cons action actions ih =>
      rw [List.filterMap_cons, List.map_cons]
      cases hresolved : resolveAutomationAction action event snapshot with
      | none => exact ih.cons _
      | some resolved => exact ih.cons_cons _
  have hactions : (plannedActions event snapshot rule).Pairwise (fun x y => x.actionId ≠ y.actionId) :=
    List.pairwise_map.mp (hsublist.nodup hids)
  rw [List.Nodup, List.pairwise_map]
  refine hactions.imp_of_mem ?_
  intro x y hx hy hne heq
  obtain ⟨xAction, -, hxrun, -, hxid⟩ := mem_plannedActions hx
  obtain ⟨yAction, -, hyrun, -, hyid⟩ := mem_plannedActions hy
  rw [hxrun, hyrun] at heq
  rw [hxid, hyid] at hne
  exact hne (automationActionId_injective heq).2.2

/-- **The actions of one event are told apart by their ids.** -/
theorem nodup_runIds {rules : List AutomationRuleDefinition} (hrules : AutomationRulesNormalized rules)
    (context : AutomationRuleMatchContext) :
    ((automationActionsFromDomainEvent canonicalize rules context).map (·.runId)).Nodup := by
  unfold automationActionsFromDomainEvent
  split
  · exact List.nodup_nil
  · split_ifs
    · exact List.nodup_nil
    · rename_i snapshot _ _
      rw [List.map_flatMap, List.nodup_flatMap]
      refine ⟨?_, ?_⟩
      · intro rule hrule
        exact nodup_plannedActions (hrules.actionIds rule (List.mem_of_mem_filter hrule))
      · have hids : rules.Pairwise (fun x y => x.id ≠ y.id) := List.pairwise_map.mp hrules.ids
        refine (hids.filter _).imp ?_
        intro x y hne
        rw [Function.onFun, List.disjoint_left]
        intro runId hx hy
        rw [List.mem_map] at hx hy
        obtain ⟨planned, hplanned, rfl⟩ := hx
        obtain ⟨planned', hplanned', heq⟩ := hy
        obtain ⟨xAction, -, hxrun, -, -⟩ := mem_plannedActions hplanned
        obtain ⟨yAction, -, hyrun, -, -⟩ := mem_plannedActions hplanned'
        rw [hxrun, hyrun] at heq
        exact hne (automationActionId_injective heq).2.1.symm

/-- **No two actions have one run id**, whatever events they are planned for and whatever characters the ids of events,
rules and actions have. -/
theorem runIds_distinct {rulesOf : DocTypeName → List AutomationRuleDefinition}
    (hrules : ∀ doctype, AutomationRulesNormalized (rulesOf doctype)) {contexts : List AutomationRuleMatchContext}
    (hids : (contexts.map (·.event.id)).Nodup) :
    ((contexts.flatMap (fun context =>
      automationActionsFromDomainEvent canonicalize (rulesOf context.event.doctype) context)).map (·.runId)).Nodup := by
  rw [List.map_flatMap, List.nodup_flatMap]
  refine ⟨fun context _ => nodup_runIds (hrules _) context, ?_⟩
  have hapart : contexts.Pairwise (fun x y => x.event.id ≠ y.event.id) := List.pairwise_map.mp hids
  refine hapart.imp ?_
  intro x y hne
  rw [Function.onFun, List.disjoint_left]
  intro runId hx hy
  obtain ⟨planned, hplanned, rfl⟩ := List.mem_map.mp hx
  obtain ⟨planned', hplanned', heq⟩ := List.mem_map.mp hy
  have hrun := mem_automationActionsFromDomainEvent hplanned
  have hrun' := mem_automationActionsFromDomainEvent hplanned'
  have hsame : automationActionId x.event.id planned.ruleId planned.actionId =
      automationActionId y.event.id planned'.ruleId planned'.actionId := by rw [← hrun, ← hrun', heq]
  exact hne (automationActionId_injective hsame).1

end

/-! ### Ids with colons -/

namespace ColonIds

def rule : AutomationRuleDefinition :=
  { id := js "a:b", name := js "Touch", trigger := { events := [.documentCreated] }
    actions := [js "c", js ":c"].map (fun id =>
      { id, targetDoctype := js "Task", targetName := .documentName, patch := [(js "seen", .literal (.bool true))] }) }

def context (id : JsString) : AutomationRuleMatchContext :=
  { event :=
      { id, tenantId := js "acme", stream := js "acme:Task:T1", sequence := 1, type := js "TaskCreated",
        doctype := js "Task", documentName := js "T1", actorId := js "ann", occurredAt := js "2026-01-01T00:00:00.000Z",
        payload := .documentCreated [] .draft, metadata := [] }
    change := documentChangeContext none
      (some
        { tenantId := js "acme", doctype := js "Task", name := js "T1", version := 1, docstatus := .draft, data := [],
          createdAt := js "2026-01-01T00:00:00.000Z", updatedAt := js "2026-01-01T00:00:00.000Z" }) []
    input := [], actor := { id := js "ann", roles := [] } }

def runIds : List JsString :=
  ([context (js "e:a"), context (js "e%3Aa")].flatMap (automationActionsFromDomainEvent id [rule])).map (·.runId)

end ColonIds

theorem runIds_distinct_colonIds : ColonIds.runIds.length = 4 ∧ ColonIds.runIds.Nodup :=
  ⟨by decide +kernel,
   @runIds_distinct id (fun _ => [ColonIds.rule])
    (fun _ => ⟨List.nodup_singleton _, fun rule hrule => by rw [List.mem_singleton.mp hrule]; decide +kernel⟩)
    [ColonIds.context (js "e:a"), ColonIds.context (js "e%3Aa")] (by decide +kernel)⟩
