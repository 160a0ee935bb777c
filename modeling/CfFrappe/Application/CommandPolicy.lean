import CfFrappe.Application.FieldPolicy

set_option autoImplicit false

/-! # Guards and plans of the document commands

What a command checks before it reads on, which event it plans and which issues its change
raises. The issues that come from code outside the field rules (permissions, hooks, links) are
arguments: whatever they are, a command goes on only when there is none.
-/

open Utf

/-! ## Guards -/

def ensureExpectedVersion (existing : DocumentSnapshot) (expectedVersion : Option Rat) :
    Except FrameworkError Unit :=
  match expectedVersion with
  | none => .ok ()
  | some expected =>
    ensure ((existing.version : Rat) == expected)
      (.conflict (js "Expected version " ++ Json.numberToString expected ++ js ", found " ++
        Json.natToString existing.version))

def documentLabel (doctypeName documentName : JsString) : JsString := doctypeName ++ js "/" ++ documentName

def ensureDocumentStatus (document : DocumentSnapshot) (allowed : List DocStatus) (action : JsString) :
    Except FrameworkError Unit :=
  ensure (allowed.contains document.docstatus)
    { code := .documentStatusConflict
      message := js "Cannot " ++ action ++ js " " ++ documentLabel document.doctype document.name ++
        js " while it is " ++ document.docstatus.toText
      status := 409 }

def ensureDocumentUpdateStatus (document : DocumentSnapshot) (action : JsString) : Except FrameworkError Unit :=
  if document.docstatus ≠ .draft ∧ document.docstatus ≠ .submitted then
    ensureDocumentStatus document [.draft] action
  else .ok ()

def normalizeUnsetFields (fields : Option (List JsString)) : List JsString :=
  match fields with
  | none => []
  | some fields => ((fields.map Json.trim).filter (fun field => !field.isEmpty)).eraseDups

def ensureDocumentCreateAvailable (doctypeName documentName : JsString) (existing : Option DocumentSnapshot) :
    Except FrameworkError Unit :=
  ensure (existing.all (fun existing => existing.docstatus == .deleted))
    (.conflict (documentLabel doctypeName documentName ++ js " already exists"))

def requireLiveDocumentSnapshot (snapshot : Option DocumentSnapshot) (doctypeName documentName : JsString) :
    Except FrameworkError DocumentSnapshot :=
  match snapshot with
  | none => .error (.notFound (documentLabel doctypeName documentName ++ js " was not found"))
  | some snapshot =>
    if snapshot.docstatus = .deleted then
      .error
        { code := .documentDeleted
          message := documentLabel doctypeName documentName ++ js " was deleted"
          status := 410 }
    else .ok snapshot

theorem requireLiveDocumentSnapshot_ok {snapshot : Option DocumentSnapshot}
    {doctypeName documentName : JsString} {document : DocumentSnapshot}
    (h : requireLiveDocumentSnapshot snapshot doctypeName documentName = .ok document) :
    snapshot = some document ∧ document.docstatus ≠ .deleted := by
  cases snapshot with
  | none => exact nomatch h
  | some snapshot =>
    unfold requireLiveDocumentSnapshot at h
    dsimp only at h
    split_ifs at h with hdeleted
    cases h
    exact ⟨rfl, hdeleted⟩

/-! ## Issues -/

/-- The issues of a command, in the order in which they are reported. A command that does not
look for a kind of issue leaves its group empty. -/
structure ValidationIssueGroups where
  submittedUpdateIssues : List ValidationIssue := []
  unsetIssues : List ValidationIssue := []
  originIssues : List ValidationIssue := []
  workflowStateIssues : List ValidationIssue := []
  generatedNamingIssues : List ValidationIssue := []
  readOnlyIssues : List ValidationIssue := []
  fieldPermissionIssues : List ValidationIssue := []
  validationIssues : List ValidationIssue := []
  linkIssues : List ValidationIssue := []

def documentUpdateValidationIssues (groups : ValidationIssueGroups) : List ValidationIssue :=
  groups.submittedUpdateIssues ++ groups.unsetIssues ++ groups.originIssues ++ groups.workflowStateIssues ++
    groups.generatedNamingIssues ++ groups.readOnlyIssues ++ groups.fieldPermissionIssues ++
    groups.validationIssues ++ groups.linkIssues

/-- The issues that code outside the field rules finds: field permissions, validation hooks and
links. -/
structure ExternalIssues where
  fieldPermissionIssues : List ValidationIssue := []
  hookIssues : List ValidationIssue := []
  linkIssues : List ValidationIssue := []

def generatedNamingFieldMutationIssues (doctype : DocTypeDefinition) (touchedFields : List JsString) :
    List ValidationIssue :=
  match doctype.naming with
  | some (.series strategy) =>
    match strategy.targetField with
    | some targetField =>
      if touchedFields.contains targetField then
        [{ field := some targetField, code := js "generated_name",
           message := js "Field '" ++ targetField ++ js "' is generated by the naming series for " ++
             doctype.name ++ js " and cannot be changed" }]
      else []
    | none => []
  | _ => []

section

variable (canonicalize : UInt16 → UInt16) (relatedDocType : RelatedDocTypeResolver)

/-- `DocumentService.validate`: an update is validated in partial mode, on the patch alone. -/
def validate (doctype : DocTypeDefinition) (data : DocumentData) (isUpdate : Bool)
    (hookIssues : List ValidationIssue) : List ValidationIssue :=
  validateDocumentData canonicalize doctype data { isPartial := isUpdate, relatedDocType } ++ hookIssues

/-- The issues of an update or a merge. `patch` is what the command asks for, `fetchedPatch` the
same with the fetched fields. -/
def documentUpdateIssues (doctype : DocTypeDefinition) (existing : DocumentSnapshot)
    (patch fetchedPatch : DocumentData) (unset : List JsString) (external : ExternalIssues) :
    List ValidationIssue :=
  let patchWithoutInternalFields := stripInternalTableFields relatedDocType doctype patch
  let fetchedPatchWithoutInternalFields := stripInternalTableFields relatedDocType doctype fetchedPatch
  let normalizedPatch := preserveReadOnlyTableValues relatedDocType doctype fetchedPatch existing
  let data := applyDocumentDataChange existing.data normalizedPatch unset
  documentUpdateValidationIssues
    { submittedUpdateIssues :=
        if existing.docstatus = .submitted then
          allowOnSubmitIssues doctype fetchedPatchWithoutInternalFields unset
        else []
      unsetIssues := documentUnsetIssues doctype unset existing.data fetchedPatchWithoutInternalFields
      originIssues := childTableOriginIssues relatedDocType doctype fetchedPatch existing.data
      workflowStateIssues := workflowStateMutationIssues doctype fetchedPatchWithoutInternalFields unset []
      generatedNamingIssues := generatedNamingFieldMutationIssues doctype (Record.keys normalizedPatch ++ unset)
      readOnlyIssues := readonlyIssues canonicalize relatedDocType doctype patchWithoutInternalFields data unset
      fieldPermissionIssues := external.fieldPermissionIssues
      validationIssues := validate canonicalize relatedDocType doctype normalizedPatch true external.hookIssues
      linkIssues := external.linkIssues }

/-- The issues of a domain command whose transitions set the states of `authorized`. -/
def documentExecuteIssues (doctype : DocTypeDefinition) (existing : DocumentSnapshot)
    (allowReadOnlyFields : Bool) (patch fetchedPatch authorized : DocumentData) (external : ExternalIssues) :
    List ValidationIssue :=
  let patchWithoutInternalFields := stripInternalTableFields relatedDocType doctype patch
  let fetchedPatchWithoutInternalFields := stripInternalTableFields relatedDocType doctype fetchedPatch
  let patchWithReadOnlyValues := preserveReadOnlyTableValues relatedDocType doctype fetchedPatch existing
  let data := applyDocumentDataChange existing.data patchWithReadOnlyValues []
  documentUpdateValidationIssues
    { originIssues := childTableOriginIssues relatedDocType doctype fetchedPatch existing.data
      workflowStateIssues := workflowStateMutationIssues doctype fetchedPatchWithoutInternalFields [] authorized
      generatedNamingIssues := generatedNamingFieldMutationIssues doctype (Record.keys patchWithReadOnlyValues)
      readOnlyIssues :=
        if allowReadOnlyFields then []
        else readonlyIssues canonicalize relatedDocType doctype patchWithoutInternalFields data []
      fieldPermissionIssues := external.fieldPermissionIssues
      validationIssues :=
        validate canonicalize relatedDocType doctype patchWithReadOnlyValues true external.hookIssues
      linkIssues := external.linkIssues }

end

/-- A command goes on only when every group is empty. -/
theorem documentUpdateValidationIssues_eq_nil {groups : ValidationIssueGroups}
    (h : documentUpdateValidationIssues groups = []) :
    groups.submittedUpdateIssues = [] ∧ groups.unsetIssues = [] ∧ groups.workflowStateIssues = [] ∧
      groups.validationIssues = [] := by
  simp only [documentUpdateValidationIssues, List.append_eq_nil_iff] at h
  exact ⟨h.1.1.1.1.1.1.1.1, h.1.1.1.1.1.1.1.2, h.1.1.1.1.1.2, h.1.2⟩

/-! ## Plans -/

/-- What every event of a command says besides its type and its payload. -/
structure EventTarget where
  tenantId : TenantId
  stream : StreamName
  doctypeName : DocTypeName
  documentName : DocumentName
  actorId : JsString
  occurredAt : Timestamp
  metadata : DocumentData := []

/-- An event of a command; the source builds each kind with a function of its own that differs
in the plan it takes. -/
def EventTarget.event (target : EventTarget) (type : JsString) (payload : EventPayload) (id : JsString) :
    NewDomainEvent :=
  { id, tenantId := target.tenantId, stream := target.stream, type, doctype := target.doctypeName,
    documentName := target.documentName, actorId := target.actorId, occurredAt := target.occurredAt,
    payload, metadata := target.metadata }

/-- A planned event: its type and its payload. -/
structure EventPlan where
  eventType : JsString
  payload : EventPayload

def EventTarget.planned (target : EventTarget) (plan : EventPlan) (id : JsString) : NewDomainEvent :=
  target.event plan.eventType plan.payload id

def planDocumentCreatePolicy (doctype : DocTypeDefinition) (data : DocumentData) (eventType : Option JsString) :
    EventPlan :=
  { eventType := (eventType.or doctype.events.create).getD (doctype.name ++ js "Created")
    payload := .documentCreated data .draft }

structure DocumentStatusChangePolicyPlan extends EventPlan where
  allowedStatus : List DocStatus
  nextStatus : DocStatus

def planDocumentDeletePolicy (doctype : DocTypeDefinition) : DocumentStatusChangePolicyPlan :=
  { allowedStatus := [.draft, .cancelled], nextStatus := .deleted, payload := .documentDeleted
    eventType := doctype.events.delete.getD (doctype.name ++ js "Deleted") }

/-! ## Domain commands -/

def requireDomainCommandDefinition (doctype : DocTypeDefinition) (command : JsString) :
    Except FrameworkError DomainCommandDefinition :=
  match doctype.commands.find? (fun item => item.name == command) with
  | some definition => .ok definition
  | none => .error (.ofBadRequest (doctype.name ++ js " has no command '" ++ command ++ js "'"))

/-- `ensureDomainCommandRoleAccess`, by `canExecuteDomainCommandForRoles`. -/
def ensureDomainCommandRoleAccess (actor : Actor) (definition : DomainCommandDefinition) (command : JsString) :
    Except FrameworkError Unit :=
  ensure (hasRole actor definition.roles) (.denied (js "Actor '" ++ actor.id ++ js "' cannot execute " ++ command))

/-- The fields of an input that a command names, in the order of the command. -/
def pickCommandFields (fields : Option (List JsString)) (input : DocumentData) : DocumentData :=
  match fields with
  | none => input
  | some fields => fields.filterMap (fun field => (Record.get input field).map (fun value => (field, value)))

def requiredDomainCommandTransitionId (value label : JsString) : Except FrameworkError JsString :=
  if (Json.trim value).isEmpty then .error (.ofBadRequest (js "Domain command " ++ label ++ js " is required"))
  else .ok (Json.trim value)

def normalizeDomainCommandTransitionIntents (transitions : List DomainCommandTransitionIntent) :
    Except FrameworkError (List DomainCommandTransitionIntent) :=
  transitions.zipIdx.mapM (fun (transition, index) => do
    let label := js "transition " ++ Json.natToString (index + 1)
    let workflow ← requiredDomainCommandTransitionId transition.workflow (label ++ js " workflow")
    let action ← requiredDomainCommandTransitionId transition.action (label ++ js " action")
    return { workflow, action })

structure DomainCommandPolicyPlan where
  input : DocumentData
  patch : DocumentData
  transitions : List DomainCommandTransitionIntent
  permissionAction : PermissionAction
  allowReadOnlyFields : Bool

/-- What a command changes: what its plan says, or its patch, or the fields that it names. -/
def planDomainCommandPolicy (definition : DomainCommandDefinition) (context : DomainCommandContext) :
    Except FrameworkError DomainCommandPolicyPlan := do
  ensure (definition.buildPatch.isNone || definition.buildPlan.isNone)
    (.ofBadRequest (js "Domain command cannot define both buildPatch and buildPlan"))
  let built := definition.buildPlan.map (fun buildPlan => buildPlan context)
  let patched := definition.buildPatch.map (fun buildPatch => buildPatch context)
  let transitions ← normalizeDomainCommandTransitionIntents ((built.map (·.transitions)).getD [])
  return {
    input := context.input
    patch := ((built.map (·.patch)).or patched).getD (pickCommandFields definition.fields context.input)
    transitions
    permissionAction := definition.permissionAction
    allowReadOnlyFields := definition.allowReadOnlyFields }
