import CfFrappe.Core.Json

set_option autoImplicit false

/-! # The data model

The definitions an application gives the framework (DocTypes with their fields, named
workflows, domain commands and naming strategies), the documents it stores and the
predicates that select them. Of each record only the fields that the modelled code reads
are kept; indexes and most of the views are left out.
-/

abbrev TenantId := JsString

/-- `DEFAULT_TENANT_ID`. -/
def defaultTenantId : TenantId := Utf.js "default"

abbrev DocumentName := JsString
abbrev DocTypeName := JsString
abbrev StreamName := JsString
/-- An ISO timestamp, as the clock prints it. -/
abbrev Timestamp := JsString

/-! ## Actors and documents -/

structure Actor where
  id : JsString
  roles : List JsString
  tenantId : Option TenantId := none
  email : Option JsString := none
  deriving DecidableEq

inductive DocStatus
  | draft
  | submitted
  | cancelled
  | deleted
  deriving DecidableEq

def DocStatus.toText : DocStatus → JsString
  | .draft => Utf.js "draft"
  | .submitted => Utf.js "submitted"
  | .cancelled => Utf.js "cancelled"
  | .deleted => Utf.js "deleted"

structure DocumentSnapshot where
  tenantId : TenantId
  doctype : DocTypeName
  name : DocumentName
  version : Nat
  docstatus : DocStatus
  data : DocumentData
  createdAt : Timestamp
  updatedAt : Timestamp
  deriving DecidableEq

/-! ## Predicates -/

inductive PredicateOperator
  | eq | ne | isIn | notIn | is | contains | like | notLike
  | gt | gte | lt | lte | between | notBetween
  deriving DecidableEq

/-- The document a field operand reads. -/
inductive FieldScope
  | before
  | after
  deriving DecidableEq

/-- The value a path operand reads. -/
inductive PathScope
  | input
  | event
  | actor
  deriving DecidableEq

inductive PredicateOperand
  | literal (value : Json)
  | field (scope : FieldScope) (field : JsString)
  | path (scope : PathScope) (path : List JsString)
  deriving DecidableEq

inductive GroupMatch
  | all
  | any
  deriving DecidableEq

inductive PredicateExpression
  | compare (left : PredicateOperand) (operator : PredicateOperator) (right : PredicateOperand)
  | group («match» : GroupMatch) (predicates : List PredicateExpression)
  | not (predicate : PredicateExpression)

/-! ## Fields -/

inductive FieldType
  | text | longText | integer | number | boolean | date | datetime | json | select | link | table
  deriving DecidableEq

structure FieldDefaultContext where
  actor : Actor
  now : Timestamp

inductive FieldPermissionAction
  | read
  | create
  | update
  deriving DecidableEq

/-- What the condition of a field permission reads, besides the DocType and the field it stands in. -/
structure FieldPermissionContext where
  actor : Actor
  action : FieldPermissionAction
  tenantId : Option TenantId := none
  document : Option DocumentSnapshot := none
  value : Option Json := none

structure FieldPermissionRule where
  roles : List JsString
  actions : List FieldPermissionAction
  condition : Option (FieldPermissionContext → Bool) := none

structure FieldDefinition where
  name : JsString
  type : FieldType
  required : Bool := false
  mandatoryDependsOn : Option PredicateExpression := none
  readOnly : Bool := false
  readOnlyDependsOn : Option PredicateExpression := none
  unique : Bool := false
  noCopy : Bool := false
  allowOnSubmit : Bool := false
  fetchFrom : Option JsString := none
  fetchIfEmpty : Bool := false
  options : Option (List JsString) := none
  linkTo : Option DocTypeName := none
  tableOf : Option DocTypeName := none
  min : Option Rat := none
  max : Option Rat := none
  /-- A default value, or a function of the actor and the time; a constant ignores both. -/
  defaultValue : Option (FieldDefaultContext → Json) := none
  permissions : List FieldPermissionRule := []
  label : Option JsString := none
  description : Option JsString := none
  placeholder : Option JsString := none
  hidden : Bool := false
  hiddenDependsOn : Option PredicateExpression := none
  printHide : Bool := false
  printHideIfNoValue : Bool := false
  inFormView : Bool := false
  inGlobalSearch : Bool := false
  inListView : Bool := false
  inListFilter : Bool := false

/-! ## Permissions -/

inductive PermissionAction
  | read | rendition | create | metadata | update | delete | submit | cancel | transition | comment | assign
  | activity | tag | follow | share
  deriving DecidableEq

def PermissionAction.toText : PermissionAction → JsString
  | .read => Utf.js "read"
  | .rendition => Utf.js "rendition"
  | .create => Utf.js "create"
  | .metadata => Utf.js "metadata"
  | .update => Utf.js "update"
  | .delete => Utf.js "delete"
  | .submit => Utf.js "submit"
  | .cancel => Utf.js "cancel"
  | .transition => Utf.js "transition"
  | .comment => Utf.js "comment"
  | .assign => Utf.js "assign"
  | .activity => Utf.js "activity"
  | .tag => Utf.js "tag"
  | .follow => Utf.js "follow"
  | .share => Utf.js "share"

/-- What the condition of a permission rule reads, besides the DocType it stands in. -/
structure PermissionContext where
  actor : Actor
  action : PermissionAction
  document : Option DocumentSnapshot := none

structure PermissionRule where
  roles : List JsString
  actions : List PermissionAction
  condition : Option (PermissionContext → Bool) := none

/-! ## Workflows, commands and naming -/

structure NamedWorkflowTransition where
  action : JsString
  «from» : JsString
  «to» : JsString
  roles : Option (List JsString) := none
  allowWhen : Option PredicateExpression := none
  eventType : Option JsString := none

structure NamedWorkflowDefinition where
  name : JsString
  label : Option JsString := none
  stateField : JsString
  initialState : JsString
  states : List JsString
  transitions : List NamedWorkflowTransition

structure DomainCommandContext where
  actor : Actor
  document : DocumentSnapshot
  input : DocumentData
  now : Timestamp

structure DomainCommandTransitionIntent where
  workflow : JsString
  action : JsString
  deriving DecidableEq

structure DomainCommandPlan where
  patch : DocumentData
  transitions : List DomainCommandTransitionIntent := []

structure DomainCommandDefinition where
  name : JsString
  eventType : JsString
  fields : Option (List JsString) := none
  internal : Bool := false
  allowReadOnlyFields : Bool := false
  bypassFieldPermissions : Bool := false
  roles : Option (List JsString) := none
  permissionAction : PermissionAction := .update
  buildPatch : Option (DomainCommandContext → DocumentData) := none
  buildPlan : Option (DomainCommandContext → DomainCommandPlan) := none

/-! ## Automation rules -/

inductive AutomationRuleEventKind
  | documentCreated
  | documentUpdated
  | documentSubmitted
  | documentCancelled
  | workflowTransitioned
  | domainCommandApplied
  deriving DecidableEq

inductive AutomationValueExpression
  | literal (value : Json)
  | field (field : JsString)
  | documentName
  | actor
  deriving DecidableEq

/-- An action that updates a document. -/
structure AutomationActionDefinition where
  id : JsString
  targetDoctype : DocTypeName
  targetName : AutomationValueExpression
  patch : List (JsString × AutomationValueExpression)
  deriving DecidableEq

structure AutomationChangeSelectorDefinition where
  field : JsString
  «from» : Option Json := none
  «to» : Option Json := none
  deriving DecidableEq

structure AutomationTriggerDefinition where
  events : List AutomationRuleEventKind
  touchedFields : Option (List JsString) := none
  changes : Option (List AutomationChangeSelectorDefinition) := none
  workflow : Option JsString := none
  workflowAction : Option JsString := none
  domainCommand : Option JsString := none

structure AutomationRuleDefinition where
  id : JsString
  name : JsString
  enabled : Bool := true
  trigger : AutomationTriggerDefinition
  runWhen : Option PredicateExpression := none
  actions : List AutomationActionDefinition

inductive NamingSeriesReset
  | never | year | month | day
  deriving DecidableEq

inductive NamingSeriesExclusion
  | exact (value : JsString)
  | hasPrefix (value : JsString)
  | hasSuffix (value : JsString)
  | contains (value : JsString)
  | range («from» «to» : Rat)
  | regex (pattern : JsString) (ignoreCase : Bool)
  deriving DecidableEq

structure NamingSeriesStrategy where
  pattern : JsString
  targetField : Option JsString := none
  counter : Option JsString := none
  padding : Option Nat := none
  start : Option Nat := none
  step : Option Nat := none
  reset : Option NamingSeriesReset := none
  scopeFields : Option (List JsString) := none
  exclusions : Option (List NamingSeriesExclusion) := none
  maxAttempts : Option Nat := none
  deriving DecidableEq

inductive NamingStrategy
  | uuid
  | field (field : JsString)
  | provided (field : Option JsString)
  | series (strategy : NamingSeriesStrategy)
  deriving DecidableEq

/-- The event types a DocType declares in place of the default ones. -/
structure DocTypeEventNames where
  create : Option JsString := none
  update : Option JsString := none
  submit : Option JsString := none
  cancel : Option JsString := none
  delete : Option JsString := none
  comment : Option JsString := none
  assign : Option JsString := none
  unassign : Option JsString := none
  activity : Option JsString := none
  tag : Option JsString := none
  untag : Option JsString := none
  follow : Option JsString := none
  unfollow : Option JsString := none
  share : Option JsString := none
  unshare : Option JsString := none

structure FormSectionDefinition where
  fields : List JsString
  deriving DecidableEq

structure FormViewDefinition where
  sections : Option (List FormSectionDefinition) := none
  deriving DecidableEq

structure ListViewDefinition where
  columns : Option (List JsString) := none
  filterFields : Option (List JsString) := none
  deriving DecidableEq

structure DocTypeDefinition where
  name : DocTypeName
  fields : List FieldDefinition
  workflows : List NamedWorkflowDefinition := []
  automationRules : List AutomationRuleDefinition := []
  commands : List DomainCommandDefinition := []
  naming : Option NamingStrategy := none
  allowUnknownFields : Bool := false
  events : DocTypeEventNames := {}
  permissions : List PermissionRule := []
  formView : Option FormViewDefinition := none
  listView : Option ListViewDefinition := none

namespace DocTypeDefinition

/-- The definition of a field, by name. -/
def field? (doctype : DocTypeDefinition) (name : JsString) : Option FieldDefinition :=
  doctype.fields.find? (fun field => field.name == name)

theorem field?_mem {doctype : DocTypeDefinition} {name : JsString} {field : FieldDefinition}
    (h : doctype.field? name = some field) : field ∈ doctype.fields :=
  List.mem_of_find?_eq_some h

theorem field?_name {doctype : DocTypeDefinition} {name : JsString} {field : FieldDefinition}
    (h : doctype.field? name = some field) : field.name = name := by
  have hp := List.find?_some h
  simpa using hp

theorem find?_name_of_mem {fields : List FieldDefinition} (hnames : (fields.map (·.name)).Nodup)
    {field : FieldDefinition} (hfield : field ∈ fields) :
    fields.find? (fun candidate => candidate.name == field.name) = some field := by
  induction fields with
  | nil => exact absurd hfield List.not_mem_nil
  | cons first fields ih =>
    rw [List.map_cons, List.nodup_cons] at hnames
    rw [List.find?_cons]
    rcases List.mem_cons.mp hfield with rfl | htail
    · simp
    · have hne : first.name ≠ field.name := by
        intro heq
        exact hnames.1 (heq ▸ List.mem_map_of_mem htail)
      rw [beq_false_of_ne hne]
      exact ih hnames.2 htail

/-- With distinct names, a declared field is the one its name finds. -/
theorem field?_of_mem {doctype : DocTypeDefinition} (hnames : (doctype.fields.map (·.name)).Nodup)
    {field : FieldDefinition} (hfield : field ∈ doctype.fields) : doctype.field? field.name = some field :=
  find?_name_of_mem hnames hfield

end DocTypeDefinition

/-- A rejected field of a command, with the code and the text of the rejection. -/
structure ValidationIssue where
  field : Option JsString
  code : JsString
  message : JsString
  deriving DecidableEq

/-! ## Errors -/

/-- The codes of the errors the modelled code throws; `plain` is a bare `Error`. -/
inductive FrameworkErrorCode
  | appDependencyCycle
  | appDependencyMissing
  | appDuplicate
  | appInvalid
  | automationRuleInvalid
  | automationRunNotFound
  | badRequest
  | customFieldInvalid
  | d1ProjectionTextPatternInvalid
  | d1ProjectionTextPatternTooLong
  | doctypeFieldInvalid
  | doctypeLinkInvalid
  | doctypeNamingInvalid
  | doctypeNotFound
  | doctypeTableInvalid
  | documentConflict
  | documentDeleted
  | documentInvalid
  | documentNotFound
  | documentStatusConflict
  | dataPatchApplyUnavailable
  | dataPatchChecksumMismatch
  | dataPatchDuplicate
  | dataPatchFailed
  | dataPatchInvalid
  | dataPatchNotFound
  | dataPatchOrderViolation
  | dataPatchPending
  | dataPatchRetryUnavailable
  | dataPatchRollbackFailed
  | dataPatchRollbackPending
  | dataPatchRollbackRetryUnavailable
  | dataPatchRollbackUnavailable
  | eventInvalid
  | fieldPropertyInvalid
  | fileScanFailed
  | jobNotFound
  | namingInvalid
  | permissionDenied
  | projectionRebuildBatchInvalid
  | projectionRebuildNotFound
  | projectionRebuildNotReady
  | projectionRebuildTargetInvalid
  | projectionTargetNotFound
  | projectionTargetNotPromotable
  | projectionTargetStateInvalid
  | validationFailed
  | workflowActionNotFound
  | workflowInvalid
  | workflowNotFound
  | workflowStateProtected
  | workflowTransitionConditionFailed
  | workflowTransitionDenied
  | plain
  deriving DecidableEq

structure FrameworkError where
  code : FrameworkErrorCode
  message : JsString
  status : Nat := 500
  issues : List ValidationIssue := []
  deriving DecidableEq

namespace FrameworkError

def notFound (message : JsString) : FrameworkError := { code := .documentNotFound, message, status := 404 }

def ofBadRequest (message : JsString) : FrameworkError := { code := .badRequest, message, status := 400 }

def ofIssues (issues : List ValidationIssue) : FrameworkError :=
  { code := .validationFailed, message := Utf.js "Validation failed", status := 422, issues }

def denied (message : JsString) : FrameworkError := { code := .permissionDenied, message, status := 403 }

def conflict (message : JsString) : FrameworkError := { code := .documentConflict, message, status := 409 }

/-- `throw new Error(message)`. -/
def ofError (message : JsString) : FrameworkError := { code := .plain, message }

end FrameworkError

/-- `if (!holds) throw error`. -/
def ensure (holds : Bool) (error : FrameworkError) : Except FrameworkError Unit :=
  if holds then .ok () else .error error

theorem ensure_eq_ok {holds : Bool} {error : FrameworkError} {u : Unit} (h : ensure holds error = .ok u) :
    holds = true := by
  unfold ensure at h
  split_ifs at h with hholds
  exact hholds

theorem except_bind_eq_ok {ε α β : Type} {x : Except ε α} {f : α → Except ε β} {b : β}
    (h : x.bind f = .ok b) : ∃ a, x = .ok a ∧ f a = .ok b := by
  cases x with
  | error e => exact absurd h (by simp [Except.bind])
  | ok a => exact ⟨a, rfl, h⟩

def isDocumentConflictError (error : FrameworkError) : Bool := error.code = .documentConflict

/-- What `encodeURIComponent` throws on an unpaired surrogate. -/
def uriMalformed : FrameworkError := .ofError (Utf.js "URI malformed")

/-- A stream name, or the error of its constructor. -/
def requireStream : Option StreamName → Except FrameworkError StreamName
  | some stream => .ok stream
  | none => .error uriMalformed

theorem requireStream_ok {name : Option StreamName} {stream : StreamName}
    (h : requireStream name = .ok stream) : name = some stream := by
  cases name with
  | none => cases h
  | some name => rw [Except.ok.inj h]
