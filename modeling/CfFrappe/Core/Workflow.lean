import CfFrappe.Core.Events
import CfFrappe.Core.Predicates
import CfFrappe.Core.Streams

set_option autoImplicit false

/-! # Named workflows

A DocType may declare several workflows. Each of them owns one field of the document, the state
field, in which the state it is in is written; a document that has nothing there is in the initial
state. The module follows a declaration through `normalizeNamedWorkflows`, the check before a
transition and the change that the transition makes:

* `WorkflowsNormalized` is what the workflows of a DocType are once they have been accepted. The
  point that matters later is that no two of them own one field.
* `Authorized` is what `evaluateNamedWorkflowTransition` has seen to where it allows a transition.
* `WorkflowChange` is one change of a document, by a transition or by anything else that leaves the
  state fields alone, and `workflow_moves_along_transitions` is about any number of them.
-/

open Utf

/-! ## The state of a document -/

/-- The text of a state field; no value, or `null`, is the initial state. -/
def stateText (workflow : NamedWorkflowDefinition) (data : DocumentData) : JsString :=
  match readField data workflow.stateField with
  | .undefined | .value .null => workflow.initialState
  | value => value.toText

def currentWorkflowState (workflow : NamedWorkflowDefinition) (document : DocumentSnapshot) : JsString :=
  stateText workflow document.data

variable {workflow : NamedWorkflowDefinition} {doctype : DocTypeDefinition} {transition : NamedWorkflowTransition}
variable {s workflowName : JsString} {states : List JsString}

theorem stateText_congr {a b : DocumentData} (h : Record.get a workflow.stateField = Record.get b workflow.stateField) :
    stateText workflow a = stateText workflow b := by
  have hread : readField a workflow.stateField = readField b workflow.stateField := by
    unfold readField
    rw [h]
  unfold stateText
  rw [hread]

theorem stateText_of_get {data : DocumentData} {state : JsString}
    (h : Record.get data workflow.stateField = some (.str state)) : stateText workflow data = state := by
  have hread : readField data workflow.stateField = .value (.str state) := by
    unfold readField
    rw [h]
    rfl
  unfold stateText
  rw [hread]
  rfl

/-! ## Transitions -/

structure NamedWorkflowTransitionContext where
  actor : Actor
  document : DocumentSnapshot
  workflow : NamedWorkflowDefinition
  input : Option DocumentData

inductive NamedWorkflowTransitionDecision
  | allowed («from» : JsString) (transition : NamedWorkflowTransition)
  | actionNotFound («from» : JsString)
  | stateDenied («from» : JsString)
  | roleDenied («from» : JsString) (transition : NamedWorkflowTransition)
  | conditionDenied («from» : JsString) (transition : NamedWorkflowTransition)

/-- An actor as the value that predicates read. -/
def Actor.toJson (actor : Actor) : Json :=
  .obj ([(js "id", .str actor.id), (js "roles", .arr (actor.roles.map .str))] ++
    (actor.tenantId.map (fun tenantId => (js "tenantId", Json.str tenantId))).toList ++
    (actor.email.map (fun email => (js "email", Json.str email))).toList)

/-- An actor has one of the roles, when roles are asked for. -/
def hasRole (actor : Actor) (roles : Option (List JsString)) : Bool :=
  roles.all (fun roles => roles.any (fun role => actor.roles.contains role))

section

/-- The document with the state that a transition leads to in place. -/
def NamedWorkflowTransitionContext.after (context : NamedWorkflowTransitionContext)
    (transition : NamedWorkflowTransition) : DocumentSnapshot :=
  { context.document with data := Record.set context.document.data context.workflow.stateField (.str transition.to) }

variable (canonicalize : UInt16 → UInt16)

/-- The condition of a transition, on the document with the new state in place. A command without input of its own is
judged on the name of its action. -/
def allowWhenHolds (context : NamedWorkflowTransitionContext) (action : JsString)
    (transition : NamedWorkflowTransition) : Bool :=
  match transition.allowWhen with
  | none => true
  | some condition =>
    evaluatePredicateExpression canonicalize
      { before := some context.document
        after := some (context.after transition)
        input := context.input.getD [(js "action", .str action)]
        actor := some context.actor.toJson } condition

def evaluateNamedWorkflowTransition (context : NamedWorkflowTransitionContext) (action : JsString) :
    NamedWorkflowTransitionDecision :=
  let «from» := currentWorkflowState context.workflow context.document
  let transitionsForAction := context.workflow.transitions.filter (fun transition => transition.action == action)
  if transitionsForAction.isEmpty then .actionNotFound «from»
  else
    match transitionsForAction.find? (fun candidate => candidate.from == «from») with
    | none => .stateDenied «from»
    | some transition =>
      if !hasRole context.actor transition.roles then .roleDenied «from» transition
      else if !allowWhenHolds canonicalize context action transition then .conditionDenied «from» transition
      else .allowed «from» transition

/-- **A transition that may be taken**: it is declared under the action from the current
state, the actor has one of its roles and its condition holds on the proposed document. -/
structure Authorized (context : NamedWorkflowTransitionContext) (action : JsString)
    (transition : NamedWorkflowTransition) : Prop where
  declared : transition ∈ context.workflow.transitions
  named : transition.action = action
  «from» : transition.from = currentWorkflowState context.workflow context.document
  roles : hasRole context.actor transition.roles = true
  allowWhen : allowWhenHolds canonicalize context action transition = true

variable {canonicalize}

theorem evaluateNamedWorkflowTransition_allowed {context : NamedWorkflowTransitionContext} {action source : JsString}
    (h : evaluateNamedWorkflowTransition canonicalize context action = .allowed source transition) :
    source = currentWorkflowState context.workflow context.document ∧
      Authorized canonicalize context action transition := by
  unfold evaluateNamedWorkflowTransition at h
  dsimp only at h
  split_ifs at h with hnone
  split at h
  · cases h
  · rename_i found hfound
    split_ifs at h with hroles hallow
    injection h with hsource htransition
    subst htransition
    have hmem := List.mem_filter.mp (List.mem_of_find?_eq_some hfound)
    have hfrom := List.find?_some hfound
    refine ⟨hsource.symm, hmem.1, ?_, ?_, ?_, ?_⟩
    · simpa using hmem.2
    · simpa using hfrom
    · simpa using hroles
    · simpa using hallow

end

/-! ## Normalized workflows -/

/-- `value.trim()` keeps the characters that are not white space. -/
theorem mem_trim {u : UInt16} (hu : Json.isWhitespace u = false) (hmem : u ∈ s) : u ∈ Json.trim s := by
  have hkeep : ∀ l : JsString, u ∈ l → u ∈ l.dropWhile Json.isWhitespace := by
    intro l
    induction l with
    | nil => exact id
    | cons v l ih =>
      intro hl
      rw [List.dropWhile_cons]
      split_ifs with hv
      · rcases List.mem_cons.mp hl with rfl | htail
        · rw [hu] at hv
          exact absurd hv (by decide)
        · exact ih htail
      · exact hl
  unfold Json.trim
  rw [List.mem_reverse]
  exact hkeep _ (List.mem_reverse.mpr (hkeep _ hmem))

theorem exists_mem_of_dropWhile_ne_nil (h : s.dropWhile Json.isWhitespace ≠ []) :
    ∃ u ∈ s.dropWhile Json.isWhitespace, Json.isWhitespace u = false := by
  induction s with
  | nil => exact absurd rfl h
  | cons v s ih =>
    rw [List.dropWhile_cons] at h ⊢
    split_ifs at h ⊢ with hv
    · exact ih h
    · exact ⟨v, List.mem_cons_self, by simpa using hv⟩

/-- A text that is not blank is not blank after `trim` either. -/
theorem isRequiredString_trim (h : Json.trim s ≠ []) : isRequiredString (Json.trim s) = true := by
  have hne : (s.dropWhile Json.isWhitespace).reverse.dropWhile Json.isWhitespace ≠ [] := by
    intro hnil
    exact h (by rw [Json.trim, hnil]; rfl)
  obtain ⟨u, hmem, hu⟩ := exists_mem_of_dropWhile_ne_nil hne
  have htrim : u ∈ Json.trim s := by
    rw [Json.trim, List.mem_reverse]
    exact hmem
  have htwice := mem_trim hu htrim
  unfold isRequiredString
  rw [Bool.not_eq_true', List.isEmpty_eq_false_iff]
  exact List.ne_nil_of_mem htwice

def workflowInvalid (message : JsString) : FrameworkError := { code := .workflowInvalid, message, status := 400 }

def normalizeRequiredString (value label : JsString) : Except FrameworkError JsString :=
  if (Json.trim value).isEmpty then .error (workflowInvalid (label ++ js " is required"))
  else .ok (Json.trim value)

def isAsciiAlphanumeric (u : UInt16) : Bool := isAsciiLetter u || isAsciiDigit u

/-- `/^[A-Za-z0-9][A-Za-z0-9._:-]{0,127}$/`. -/
def isStableId : JsString → Bool
  | [] => false
  | first :: rest =>
    isAsciiAlphanumeric first && rest.length ≤ 127 &&
      rest.all (fun u => isAsciiAlphanumeric u || (js "._:-").contains u)

def normalizeStableId (value label : JsString) : Except FrameworkError JsString := do
  let normalized ← normalizeRequiredString value label
  if isStableId normalized then return normalized
  else throw (workflowInvalid (label ++
    js " must be a stable identifier using letters, numbers, dot, underscore, colon, or hyphen"))

def optionalRequiredString (value : Option JsString) (label : JsString) : Except FrameworkError (Option JsString) :=
  value.mapM (normalizeRequiredString · label)

/-- The loop of `uniqueRequiredStrings`, with the items it has seen. -/
def uniqueItems (label : JsString) : List JsString → List JsString → Except FrameworkError (List JsString)
  | _, [] => return []
  | seen, value :: values => do
      let item ← normalizeRequiredString value label
      ensure (!seen.contains item) (workflowInvalid (label ++ js " contains duplicate '" ++ item ++ js "'"))
      let items ← uniqueItems label (item :: seen) values
      return item :: items

/-- The values trimmed, each required and none twice. -/
def uniqueRequiredStrings (values : List JsString) (label : JsString) : Except FrameworkError (List JsString) := do
  ensure (!values.isEmpty) (workflowInvalid (label ++ js " must contain at least one item"))
  uniqueItems label [] values

/-- The first value that an earlier one repeats is blamed, and a blank one before a repeated one behind it. -/
example : uniqueRequiredStrings [js "a", js "b", js " b", js "a", js ""] (js "roles") =
    .error (workflowInvalid (js "roles contains duplicate 'b'")) := by decide

def isWorkflowStateField (field : FieldDefinition) : Bool :=
  [FieldType.text, .longText, .date, .datetime, .link, .select].contains field.type

def assertWorkflowStateFieldCanStoreStates (field : FieldDefinition) (states : List JsString)
    (workflowName : JsString) : Except FrameworkError Unit :=
  let place := js "Workflow '" ++ workflowName ++ js "' state field '" ++ field.name ++ js "' "
  if !isWorkflowStateField field then
    .error (workflowInvalid (place ++ js "must be a string-compatible field"))
  else
    match field.type, field.options with
    | .select, some options =>
      let missing := states.filter (fun state => !options.contains state)
      if missing.isEmpty then .ok ()
      else .error (workflowInvalid (place ++ js "options must include " ++
        (js ", ").intercalate (missing.map quoted)))
    | _, _ => .ok ()

def normalizeNamedWorkflowTransition (doctype : DocTypeDefinition) (workflowName : JsString)
    (states : List JsString) (transition : NamedWorkflowTransition) (index : Nat) :
    Except FrameworkError NamedWorkflowTransition := do
  let label := js "Workflow '" ++ workflowName ++ js "' transition " ++ Json.natToString (index + 1)
  let action ← normalizeStableId transition.action (label ++ js " action")
  let source ← normalizeRequiredString transition.from (label ++ js " from")
  let target ← normalizeRequiredString transition.to (label ++ js " to")
  ensure (states.contains source)
    (workflowInvalid (label ++ js " from state '" ++ source ++ js "' is not listed in states"))
  ensure (states.contains target)
    (workflowInvalid (label ++ js " to state '" ++ target ++ js "' is not listed in states"))
  let roles ← transition.roles.mapM (uniqueRequiredStrings · (label ++ js " roles"))
  let allowWhen ← transition.allowWhen.mapM (normalizePredicateExpression doctype
    { availableScopes := [.field .before, .field .after, .path .input, .path .actor],
      errorCode := .workflowInvalid })
  let eventType ← optionalRequiredString transition.eventType (label ++ js " event type")
  return { action, «from» := source, «to» := target, roles, allowWhen, eventType }

/-- The loop of `assertUniqueTransitionActions`, with the keys it has seen. -/
def assertUnseenTransitionActions (workflowName : JsString) :
    List JsString → List NamedWorkflowTransition → Except FrameworkError Unit
  | _, [] => return ()
  | seen, transition :: transitions => do
      let key := transition.from ++ [0] ++ transition.action
      ensure (!seen.contains key)
        (workflowInvalid (js "Workflow '" ++ workflowName ++ js "' transition action '" ++ transition.action ++
          js "' is duplicated for state '" ++ transition.from ++ js "'"))
      assertUnseenTransitionActions workflowName (key :: seen) transitions

def assertUniqueTransitionActions (workflowName : JsString) (transitions : List NamedWorkflowTransition) :
    Except FrameworkError Unit :=
  assertUnseenTransitionActions workflowName [] transitions

structure WorkflowNormalizationLimits where
  maxWorkflows : Option Rat := none
  maxTransitionsPerWorkflow : Option Rat := none

/-- A limit: a positive safe integer, `fallback` where none is given. -/
def positiveLimit (value : Option Rat) (fallback : Rat) (label : JsString) : Except FrameworkError Rat := do
  let normalized := value.getD fallback
  ensure (Json.isSafeInteger normalized && 0 < normalized)
    (workflowInvalid (label ++ js " must be a positive integer"))
  return normalized

def normalizeNamedWorkflowDefinition (doctype : DocTypeDefinition) (limits : WorkflowNormalizationLimits)
    (workflow : NamedWorkflowDefinition) : Except FrameworkError NamedWorkflowDefinition := do
  let name ← normalizeStableId workflow.name (js "Workflow name")
  let place := js "Workflow '" ++ name ++ js "' "
  let label ← optionalRequiredString workflow.label (js "Workflow label")
  let stateField ← normalizeRequiredString workflow.stateField (js "Workflow state field")
  match doctype.field? stateField with
  | none => throw (workflowInvalid (place ++ js "state field '" ++ stateField ++ js "' is not defined on " ++
      doctype.name))
  | some stateFieldDefinition =>
    let states ← uniqueRequiredStrings workflow.states (place ++ js "states")
    assertWorkflowStateFieldCanStoreStates stateFieldDefinition states name
    let initialState ← normalizeRequiredString workflow.initialState (place ++ js "initial state")
    ensure (states.contains initialState)
      (workflowInvalid (place ++ js "initial state '" ++ initialState ++ js "' is not listed in states"))
    let maxTransitions ← positiveLimit limits.maxTransitionsPerWorkflow 64 (js "Workflow transition count limit")
    ensure ((workflow.transitions.length : Rat) ≤ maxTransitions)
      (workflowInvalid (place ++ js "cannot define more than " ++
        Json.numberToString maxTransitions ++ js " transitions"))
    let transitions ← workflow.transitions.zipIdx.mapM (fun entry =>
      normalizeNamedWorkflowTransition doctype name states entry.1 entry.2)
    ensure (!transitions.isEmpty) (workflowInvalid (place ++ js "must define at least one transition"))
    assertUniqueTransitionActions name transitions
    return { name, label, stateField, initialState, states, transitions }

/-- The first workflow whose name or state field an earlier one has. -/
def assertDistinctWorkflows (doctype : DocTypeDefinition) :
    List JsString → List JsString → List NamedWorkflowDefinition → Except FrameworkError Unit
  | _, _, [] => .ok ()
  | names, fields, workflow :: rest =>
    if names.contains workflow.name then
      .error (workflowInvalid (js "Workflow name '" ++ workflow.name ++ js "' is duplicated on " ++ doctype.name))
    else if fields.contains workflow.stateField then
      .error (workflowInvalid (js "Workflow state field '" ++ workflow.stateField ++
        js "' is owned by more than one workflow"))
    else assertDistinctWorkflows doctype (workflow.name :: names) (workflow.stateField :: fields) rest

def normalizeNamedWorkflows (doctype : DocTypeDefinition) (workflows : List NamedWorkflowDefinition)
    (limits : WorkflowNormalizationLimits) : Except FrameworkError (List NamedWorkflowDefinition) := do
  let maxWorkflows ← positiveLimit limits.maxWorkflows 16 (js "Workflow count limit")
  ensure ((workflows.length : Rat) ≤ maxWorkflows)
    (workflowInvalid (js "DocType '" ++ doctype.name ++ js "' cannot define more than " ++
      Json.numberToString maxWorkflows ++ js " workflows"))
  let normalized ← workflows.mapM (normalizeNamedWorkflowDefinition doctype limits)
  assertDistinctWorkflows doctype [] [] normalized
  return normalized

/-- What normalization guarantees of one workflow. -/
structure NormalizedWorkflow (doctype : DocTypeDefinition) (workflow : NamedWorkflowDefinition) : Prop where
  name : isRequiredString workflow.name = true
  stateField : isRequiredString workflow.stateField = true
  declared : ∃ field, doctype.field? workflow.stateField = some field ∧ field.type ≠ .table
  action : ∀ transition ∈ workflow.transitions, isRequiredString transition.action = true

/-- **What normalization guarantees of the workflows of a DocType**: distinct names and state
fields, and state fields that are declared and hold texts. -/
structure WorkflowsNormalized (doctype : DocTypeDefinition) (workflows : List NamedWorkflowDefinition) :
    Prop where
  names : (workflows.map (·.name)).Nodup
  stateFields : (workflows.map (·.stateField)).Nodup
  each : ∀ workflow ∈ workflows, NormalizedWorkflow doctype workflow

theorem mem_of_mapM_eq_ok {α β : Type} {f : α → Except FrameworkError β} {l : List α} {l' : List β}
    (h : l.mapM f = .ok l') {b : β} (hb : b ∈ l') : ∃ a ∈ l, f a = .ok b := by
  induction l generalizing l' with
  | nil =>
    rw [List.mapM_nil] at h
    cases h
    exact absurd hb List.not_mem_nil
  | cons a l ih =>
    rw [List.mapM_cons] at h
    obtain ⟨first, hfirst, h⟩ := except_bind_eq_ok h
    obtain ⟨rest, hrest, h⟩ := except_bind_eq_ok h
    cases h
    rcases List.mem_cons.mp hb with rfl | htail
    · exact ⟨a, List.mem_cons_self, hfirst⟩
    · obtain ⟨a', ha', hok⟩ := ih hrest htail
      exact ⟨a', List.mem_cons_of_mem _ ha', hok⟩

theorem normalizeRequiredString_ok {value label result : JsString}
    (h : normalizeRequiredString value label = .ok result) : isRequiredString result = true := by
  unfold normalizeRequiredString at h
  split_ifs at h with hempty
  cases h
  exact isRequiredString_trim (by simpa using hempty)

theorem normalizeStableId_ok {value label result : JsString}
    (h : normalizeStableId value label = .ok result) : isRequiredString result = true := by
  obtain ⟨normalized, hnormalized, h⟩ := except_bind_eq_ok h
  split_ifs at h
  cases h
  exact normalizeRequiredString_ok hnormalized

theorem normalizeNamedWorkflowTransition_ok {result : NamedWorkflowTransition} {index : Nat}
    (h : normalizeNamedWorkflowTransition doctype workflowName states transition index = .ok result) :
    isRequiredString result.action = true := by
  obtain ⟨action, haction, h⟩ := except_bind_eq_ok h
  obtain ⟨source, -, h⟩ := except_bind_eq_ok h
  obtain ⟨target, -, h⟩ := except_bind_eq_ok h
  obtain ⟨_, -, h⟩ := except_bind_eq_ok h
  obtain ⟨_, -, h⟩ := except_bind_eq_ok h
  obtain ⟨roles, -, h⟩ := except_bind_eq_ok h
  obtain ⟨allowWhen, -, h⟩ := except_bind_eq_ok h
  obtain ⟨eventType, -, h⟩ := except_bind_eq_ok h
  cases h
  exact normalizeStableId_ok haction

theorem isWorkflowStateField_ne_table {field : FieldDefinition} (h : isWorkflowStateField field = true) :
    field.type ≠ .table := by
  intro htable
  unfold isWorkflowStateField at h
  rw [htable] at h
  exact absurd h (by decide)

theorem assertWorkflowStateFieldCanStoreStates_ok {field : FieldDefinition} {u : Unit}
    (h : assertWorkflowStateFieldCanStoreStates field states workflowName = .ok u) :
    isWorkflowStateField field = true := by
  unfold assertWorkflowStateFieldCanStoreStates at h
  by_contra hne
  rw [Bool.not_eq_true] at hne
  rw [hne] at h
  exact nomatch h

theorem normalizeNamedWorkflowDefinition_ok {limits : WorkflowNormalizationLimits} {result : NamedWorkflowDefinition}
    (h : normalizeNamedWorkflowDefinition doctype limits workflow = .ok result) :
    NormalizedWorkflow doctype result := by
  obtain ⟨name, hname, h⟩ := except_bind_eq_ok h
  obtain ⟨label, -, h⟩ := except_bind_eq_ok h
  obtain ⟨stateField, hstateField, h⟩ := except_bind_eq_ok h
  split at h
  · exact nomatch h
  · rename_i definition hdefinition
    obtain ⟨states, -, h⟩ := except_bind_eq_ok h
    obtain ⟨_, hstore, h⟩ := except_bind_eq_ok h
    obtain ⟨initialState, -, h⟩ := except_bind_eq_ok h
    obtain ⟨_, -, h⟩ := except_bind_eq_ok h
    obtain ⟨maxTransitions, -, h⟩ := except_bind_eq_ok h
    obtain ⟨_, -, h⟩ := except_bind_eq_ok h
    obtain ⟨transitions, htransitions, h⟩ := except_bind_eq_ok h
    obtain ⟨_, -, h⟩ := except_bind_eq_ok h
    obtain ⟨_, -, h⟩ := except_bind_eq_ok h
    cases h
    refine ⟨normalizeStableId_ok hname, normalizeRequiredString_ok hstateField, ?_, ?_⟩
    · exact ⟨definition, hdefinition, isWorkflowStateField_ne_table
        (assertWorkflowStateFieldCanStoreStates_ok hstore)⟩
    · intro transition htransition
      obtain ⟨entry, -, hok⟩ := mem_of_mapM_eq_ok htransitions htransition
      exact normalizeNamedWorkflowTransition_ok hok

theorem assertDistinctWorkflows_ok {names fields : List JsString} {workflows : List NamedWorkflowDefinition} {u : Unit}
    (h : assertDistinctWorkflows doctype names fields workflows = .ok u) :
    ((workflows.map (·.name)).Nodup ∧ ∀ workflow ∈ workflows, workflow.name ∉ names) ∧
      (workflows.map (·.stateField)).Nodup ∧ ∀ workflow ∈ workflows, workflow.stateField ∉ fields := by
  induction workflows generalizing names fields with
  | nil => simp
  | cons workflow workflows ih =>
    unfold assertDistinctWorkflows at h
    split_ifs at h with hname hfield
    obtain ⟨⟨hnames, hfreshNames⟩, hfields, hfreshFields⟩ := ih h
    refine ⟨⟨?_, ?_⟩, ?_, ?_⟩
    · rw [List.map_cons, List.nodup_cons]
      refine ⟨?_, hnames⟩
      intro hmem
      obtain ⟨other, hother, heq⟩ := List.mem_map.mp hmem
      exact hfreshNames other hother (by rw [heq]; exact List.mem_cons_self)
    · intro other hother
      rcases List.mem_cons.mp hother with rfl | htail
      · simpa using hname
      · exact fun hmem => hfreshNames other htail (List.mem_cons_of_mem _ hmem)
    · rw [List.map_cons, List.nodup_cons]
      refine ⟨?_, hfields⟩
      intro hmem
      obtain ⟨other, hother, heq⟩ := List.mem_map.mp hmem
      exact hfreshFields other hother (by rw [heq]; exact List.mem_cons_self)
    · intro other hother
      rcases List.mem_cons.mp hother with rfl | htail
      · simpa using hfield
      · exact fun hmem => hfreshFields other htail (List.mem_cons_of_mem _ hmem)

theorem normalizeNamedWorkflows_ok {workflows result : List NamedWorkflowDefinition}
    {limits : WorkflowNormalizationLimits} (h : normalizeNamedWorkflows doctype workflows limits = .ok result) :
    WorkflowsNormalized doctype result := by
  obtain ⟨maxWorkflows, -, h⟩ := except_bind_eq_ok h
  obtain ⟨_, -, h⟩ := except_bind_eq_ok h
  obtain ⟨normalized, hnormalized, h⟩ := except_bind_eq_ok h
  obtain ⟨_, hdistinct, h⟩ := except_bind_eq_ok h
  cases h
  obtain ⟨⟨hnames, -⟩, hfields, -⟩ := assertDistinctWorkflows_ok hdistinct
  refine ⟨hnames, hfields, ?_⟩
  intro workflow hworkflow
  obtain ⟨original, -, hok⟩ := mem_of_mapM_eq_ok hnormalized hworkflow
  exact normalizeNamedWorkflowDefinition_ok hok

/-! ## Runs -/

theorem normalizeNamedWorkflowTransition_states {result : NamedWorkflowTransition} {index : Nat}
    (h : normalizeNamedWorkflowTransition doctype workflowName states transition index = .ok result) :
    result.to ∈ states := by
  obtain ⟨action, -, h⟩ := except_bind_eq_ok h
  obtain ⟨source, -, h⟩ := except_bind_eq_ok h
  obtain ⟨target, -, h⟩ := except_bind_eq_ok h
  obtain ⟨_, -, h⟩ := except_bind_eq_ok h
  obtain ⟨_, htarget, h⟩ := except_bind_eq_ok h
  obtain ⟨roles, -, h⟩ := except_bind_eq_ok h
  obtain ⟨allowWhen, -, h⟩ := except_bind_eq_ok h
  obtain ⟨eventType, -, h⟩ := except_bind_eq_ok h
  cases h
  exact List.contains_iff_mem.mp (ensure_eq_ok htarget)

theorem normalizeNamedWorkflowDefinition_states {limits : WorkflowNormalizationLimits}
    {result : NamedWorkflowDefinition} (h : normalizeNamedWorkflowDefinition doctype limits workflow = .ok result) :
    result.initialState ∈ result.states ∧ ∀ transition ∈ result.transitions, transition.to ∈ result.states := by
  obtain ⟨name, -, h⟩ := except_bind_eq_ok h
  obtain ⟨label, -, h⟩ := except_bind_eq_ok h
  obtain ⟨stateField, -, h⟩ := except_bind_eq_ok h
  split at h
  · cases h
  · obtain ⟨states, -, h⟩ := except_bind_eq_ok h
    obtain ⟨_, -, h⟩ := except_bind_eq_ok h
    obtain ⟨initialState, -, h⟩ := except_bind_eq_ok h
    obtain ⟨_, hinitial, h⟩ := except_bind_eq_ok h
    obtain ⟨maxTransitions, -, h⟩ := except_bind_eq_ok h
    obtain ⟨_, -, h⟩ := except_bind_eq_ok h
    obtain ⟨transitions, htransitions, h⟩ := except_bind_eq_ok h
    obtain ⟨_, -, h⟩ := except_bind_eq_ok h
    obtain ⟨_, -, h⟩ := except_bind_eq_ok h
    cases h
    refine ⟨List.contains_iff_mem.mp (ensure_eq_ok hinitial), ?_⟩
    intro transition htransition
    obtain ⟨entry, -, hok⟩ := mem_of_mapM_eq_ok htransitions htransition
    exact normalizeNamedWorkflowTransition_states hok

/-- What may happen to a document: a transition that is allowed on it is taken, or something changes that leaves the
state fields alone. -/
inductive WorkflowChange (canonicalize : UInt16 → UInt16) (workflows : List NamedWorkflowDefinition) :
    DocumentSnapshot → DocumentSnapshot → Prop
  | taken {context : NamedWorkflowTransitionContext} {action source : JsString} {transition : NamedWorkflowTransition}
      (hworkflow : context.workflow ∈ workflows)
      (hallowed : evaluateNamedWorkflowTransition canonicalize context action = .allowed source transition) :
      WorkflowChange canonicalize workflows context.document (context.after transition)
  | other {document document' : DocumentSnapshot}
      (hkept : ∀ workflow ∈ workflows,
        Record.get document'.data workflow.stateField = Record.get document.data workflow.stateField) :
      WorkflowChange canonicalize workflows document document'

/-- A declared transition leads from one state to the other. -/
def NamedWorkflowDefinition.Leads (workflow : NamedWorkflowDefinition) (state state' : JsString) : Prop :=
  ∃ transition ∈ workflow.transitions, transition.from = state ∧ transition.to = state'

section Runs

variable {canonicalize : UInt16 → UInt16} {workflows : List NamedWorkflowDefinition}
  {document document' : DocumentSnapshot}

/-- A transition leaves the state of every workflow that owns another field as it is. -/
theorem currentWorkflowState_after {context : NamedWorkflowTransitionContext}
    (h : workflow.stateField ≠ context.workflow.stateField) :
    currentWorkflowState workflow (context.after transition) = currentWorkflowState workflow context.document :=
  stateText_congr (by
    show Record.get (Record.set _ _ _) _ = _
    rw [Record.get_set, if_neg h.symm])

/-- A transition leads its own workflow to its target. -/
theorem currentWorkflowState_after_self (context : NamedWorkflowTransitionContext)
    (transition : NamedWorkflowTransition) :
    currentWorkflowState context.workflow (context.after transition) = transition.to :=
  stateText_of_get (by
    show Record.get (Record.set _ _ _) _ = _
    rw [Record.get_set, if_pos rfl])

/-- **One change**: a workflow stays in its state, or goes along one of its transitions. -/
theorem WorkflowChange.leads (h : WorkflowChange canonicalize workflows document document')
    (hfields : (workflows.map (·.stateField)).Nodup) (hworkflow : workflow ∈ workflows) :
    currentWorkflowState workflow document' = currentWorkflowState workflow document ∨
      workflow.Leads (currentWorkflowState workflow document) (currentWorkflowState workflow document') := by
  cases h with
  | other hkept => exact Or.inl (stateText_congr (hkept workflow hworkflow))
  | @taken context action source transition htaken hallowed =>
    obtain ⟨-, hauthorized⟩ := evaluateNamedWorkflowTransition_allowed hallowed
    by_cases hsame : workflow.stateField = context.workflow.stateField
    · -- no two workflows have one state field
      obtain rfl := List.inj_on_of_nodup_map hfields hworkflow htaken hsame
      have hto := currentWorkflowState_after_self context transition
      exact Or.inr ⟨transition, hauthorized.declared, hauthorized.from, hto.symm⟩
    · exact Or.inl (currentWorkflowState_after hsame)

/-- **A workflow only moves along its declared transitions.** Whatever happens to a document, the state of every
workflow that normalization has accepted is reached from its first one by declared transitions; it is one of the
declared states if the first one was, and the initial state is one of them; and a transition that is taken, of any
workflow, leaves the state of every other one as it is. -/
theorem workflow_moves_along_transitions {doctype : DocTypeDefinition} {declared : List NamedWorkflowDefinition}
    {limits : WorkflowNormalizationLimits} (haccepted : normalizeNamedWorkflows doctype declared limits = .ok workflows)
    (hrun : Relation.ReflTransGen (WorkflowChange canonicalize workflows) document document') :
    ∀ workflow ∈ workflows,
      Relation.ReflTransGen workflow.Leads (currentWorkflowState workflow document)
        (currentWorkflowState workflow document') ∧
      (currentWorkflowState workflow document ∈ workflow.states →
        currentWorkflowState workflow document' ∈ workflow.states) ∧
      workflow.initialState ∈ workflow.states ∧
      ∀ (context : NamedWorkflowTransitionContext) (action source : JsString) (transition : NamedWorkflowTransition),
        context.workflow ∈ workflows → context.workflow ≠ workflow →
        evaluateNamedWorkflowTransition canonicalize context action = .allowed source transition →
          currentWorkflowState workflow (context.after transition) = currentWorkflowState workflow context.document := by
  have hfields := (normalizeNamedWorkflows_ok haccepted).stateFields
  intro workflow hworkflow
  -- what was normalized has its states checked
  have hstates : workflow.initialState ∈ workflow.states ∧
      ∀ transition ∈ workflow.transitions, transition.to ∈ workflow.states := by
    obtain ⟨maxWorkflows, -, h⟩ := except_bind_eq_ok haccepted
    obtain ⟨_, -, h⟩ := except_bind_eq_ok h
    obtain ⟨normalized, hnormalized, h⟩ := except_bind_eq_ok h
    obtain ⟨_, -, h⟩ := except_bind_eq_ok h
    cases h
    obtain ⟨original, -, hok⟩ := mem_of_mapM_eq_ok hnormalized hworkflow
    exact normalizeNamedWorkflowDefinition_states hok
  have hmoves : Relation.ReflTransGen workflow.Leads (currentWorkflowState workflow document)
      (currentWorkflowState workflow document') := by
    induction hrun with
    | refl => exact Relation.ReflTransGen.refl
    | tail hrun hchange ih =>
      rcases hchange.leads hfields hworkflow with hkept | hleads
      · rw [hkept]
        exact ih
      · exact ih.tail hleads
  refine ⟨hmoves, ?_, hstates.1, ?_⟩
  · intro hfirst
    rcases Relation.ReflTransGen.cases_tail hmoves with hsame | ⟨_, -, transition, htransition, -, hto⟩
    · rw [hsame]
      exact hfirst
    · rw [← hto]
      exact hstates.2 transition htransition
  · intro context action source transition htaken hother hallowed
    -- two workflows have two state fields
    have hne : workflow.stateField ≠ context.workflow.stateField := by
      intro hsame
      exact hother (List.inj_on_of_nodup_map hfields htaken hworkflow hsame.symm)
    exact currentWorkflowState_after hne

end Runs

/-! ### A task that is opened

Its review is a workflow of its own, in another field, and stays where it is.
-/

namespace TaskWorkflow

def life : NamedWorkflowDefinition :=
  { name := js "life", stateField := js "status", initialState := js "Draft", states := [js "Draft", js "Open"]
    transitions := [{ action := js "open", «from» := js "Draft", «to» := js "Open" }] }

def review : NamedWorkflowDefinition :=
  { name := js "review", stateField := js "stage", initialState := js "Waiting", states := [js "Waiting", js "Done"]
    transitions := [{ action := js "approve", «from» := js "Waiting", «to» := js "Done" }] }

def task : DocTypeDefinition :=
  { name := js "Task", fields := [{ name := js "status", type := .text }, { name := js "stage", type := .text }] }

def context : NamedWorkflowTransitionContext :=
  { actor := { id := js "ann", roles := [] }
    document :=
      { tenantId := js "acme", doctype := js "Task", name := js "T1", version := 1, docstatus := .draft, data := []
        createdAt := js "2026-01-01T00:00:00.000Z", updatedAt := js "2026-01-01T00:00:00.000Z" }
    workflow := life, input := none }

/-- The only transition of `life`. -/
def opening : NamedWorkflowTransition := { action := js "open", «from» := js "Draft", «to» := js "Open" }

end TaskWorkflow

theorem workflow_moves_along_transitions_task :
    Relation.ReflTransGen TaskWorkflow.life.Leads
        (currentWorkflowState TaskWorkflow.life TaskWorkflow.context.document)
        (currentWorkflowState TaskWorkflow.life (TaskWorkflow.context.after TaskWorkflow.opening)) ∧
      currentWorkflowState TaskWorkflow.life (TaskWorkflow.context.after TaskWorkflow.opening) = js "Open" ∧
      currentWorkflowState TaskWorkflow.review (TaskWorkflow.context.after TaskWorkflow.opening) =
        currentWorkflowState TaskWorkflow.review TaskWorkflow.context.document := by
  have haccepted : normalizeNamedWorkflows TaskWorkflow.task [TaskWorkflow.life, TaskWorkflow.review] {} =
      .ok [TaskWorkflow.life, TaskWorkflow.review] := rfl
  have hallowed : evaluateNamedWorkflowTransition id TaskWorkflow.context (js "open") =
      .allowed (js "Draft") TaskWorkflow.opening := rfl
  have htaken : WorkflowChange id [TaskWorkflow.life, TaskWorkflow.review] TaskWorkflow.context.document
      (TaskWorkflow.context.after TaskWorkflow.opening) := .taken List.mem_cons_self hallowed
  have hmoves := workflow_moves_along_transitions haccepted (Relation.ReflTransGen.single htaken)
  refine ⟨(hmoves TaskWorkflow.life List.mem_cons_self).1, rfl, ?_⟩
  have hother : TaskWorkflow.life ≠ TaskWorkflow.review := by
    intro h
    exact absurd (congrArg (·.name) h) (by decide)
  exact (hmoves TaskWorkflow.review (by simp)).2.2.2 TaskWorkflow.context (js "open") (js "Draft")
    TaskWorkflow.opening List.mem_cons_self hother hallowed
