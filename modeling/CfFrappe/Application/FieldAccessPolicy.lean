import CfFrappe.Application.FieldPolicy
import CfFrappe.Core.Permissions

set_option autoImplicit false

/-! # What a caller may do with the fields of a document

Enforcement and advertisement of the field rules: `redactDocumentSnapshot` withholds the values
that the actor may not read, `fieldPermissionIssues` refuses the values that it may not write, and
`documentFieldStates` tells a client in advance, field by field, what the two would do.
-/

open Utf

/-- A row of a child table as a document of its own. -/
def childRowSnapshot (parent : Option DocumentSnapshot) (child : DocTypeDefinition) (field : FieldDefinition)
    (index : Nat) (data : DocumentData) : DocumentSnapshot :=
  let place := field.name ++ js "[" ++ Json.natToString index ++ js "]"
  { tenantId := (parent.map (·.tenantId)).getD []
    doctype := child.name
    name := (parent.map (fun parent => parent.name ++ js "." ++ place)).getD place
    version := (parent.map (·.version)).getD 0
    docstatus := (parent.map (·.docstatus)).getD .draft
    data
    createdAt := (parent.map (·.createdAt)).getD []
    updatedAt := (parent.map (·.updatedAt)).getD [] }

/-! ## Redaction -/

/-- How each value of the data is redacted, given its field and the document it stands in. -/
abbrev Redactors := Record JsString (FieldDefinition → DocumentSnapshot → Json)

section

variable (relatedDocType : RelatedDocTypeResolver) (actor : Actor)

/-- What the rules of a field read when its value is handed out. -/
def readContext (document : DocumentSnapshot) (tenantId : TenantId) (value : Option Json) :
    FieldPermissionContext :=
  { actor, action := .read, tenantId := some tenantId, document := some document, value }

/-- One turn of the loop of `redactDocumentData`, given how the values of the data are redacted. -/
def redactField (values : Redactors) (data : DocumentData) (document : DocumentSnapshot) (tenantId : TenantId)
    (redacted : DocumentData) (field : FieldDefinition) : DocumentData :=
  match Record.get data field.name, Record.get values field.name with
  | some value, some redact =>
    if canReadField field (readContext actor document tenantId (some value)) then
      Record.set redacted field.name (redact field document)
    else Record.without redacted [field.name]
  | _, _ => redacted

def redactDocumentDataWith (values : Redactors) (doctype : DocTypeDefinition) (data : DocumentData)
    (document : DocumentSnapshot) (tenantId : TenantId) : DocumentData :=
  doctype.fields.foldl (redactField actor values data document tenantId)
    (if doctype.allowUnknownFields then data else [])

mutual

def redactFieldValue : Json → TenantId → FieldDefinition → DocumentSnapshot → Json
  | .arr rows, tenantId, field, parent =>
    if field.type = .table then
      match field.tableOf.bind relatedDocType with
      | some child => .arr (redactRows rows 0 tenantId child field parent)
      | none => .arr rows
    else .arr rows
  | value, _, _, _ => value

def redactRows : List Json → Nat → TenantId → DocTypeDefinition → FieldDefinition → DocumentSnapshot → List Json
  | [], _, _, _, _, _ => []
  | .obj row :: rows, index, tenantId, child, field, parent =>
    .obj (redactDocumentDataWith actor (redactors row tenantId) child row
        (childRowSnapshot (some parent) child field index row) tenantId) ::
      redactRows rows (index + 1) tenantId child field parent
  | row :: rows, index, tenantId, child, field, parent =>
    row :: redactRows rows (index + 1) tenantId child field parent

def redactors : List (JsString × Json) → TenantId → Redactors
  | [], _ => []
  | (name, value) :: rest, tenantId => (name, redactFieldValue value tenantId) :: redactors rest tenantId

end

def redactDocumentSnapshot (doctype : DocTypeDefinition) (document : DocumentSnapshot) : DocumentSnapshot :=
  { document with
    data := redactDocumentDataWith actor (redactors relatedDocType actor document.data document.tenantId) doctype
      document.data document document.tenantId }

end

/-! ## Writes -/

def FieldPermissionAction.toText : FieldPermissionAction → JsString
  | .read => js "read"
  | .create => js "create"
  | .update => js "update"

def fieldPermissionIssue (actor : Actor) (action : FieldPermissionAction) (field : JsString) : ValidationIssue :=
  { field := some field, code := js "field_permission",
    message := js "Actor '" ++ actor.id ++ js "' cannot " ++ action.toText ++ js " field '" ++ field ++ js "'" }

/-- How the rows of a value are checked, given its field, the path of the field and the document. -/
abbrev PermissionCheckers :=
  Record JsString (FieldDefinition → JsString → Option DocumentSnapshot → List ValidationIssue)

section

variable (relatedDocType : RelatedDocTypeResolver) (actor : Actor) (action : FieldPermissionAction)

/-- What the rules of a field read when it is written. -/
def writeContext (document : Option DocumentSnapshot) (value : Option Json) : FieldPermissionContext :=
  { actor, action, tenantId := document.map (·.tenantId), document, value }

/-- `documentFieldPermissionIssues`, given how the values of the data are checked as tables. -/
def documentFieldPermissionIssuesWith (tables : PermissionCheckers) (doctype : DocTypeDefinition)
    (data : DocumentData) (document : Option DocumentSnapshot) (unset : List JsString) (pathPrefix : JsString) :
    List ValidationIssue :=
  (Record.keys data ++ unset).eraseDups.flatMap fun fieldName =>
    match doctype.field? fieldName with
    | none => []
    | some field =>
      let fieldPath := pathPrefix ++ field.name
      if canWriteField field (writeContext actor action document (Record.get data field.name)) then
        match Record.get tables field.name with
        | some check => check field fieldPath document
        | none => []
      else [fieldPermissionIssue actor action fieldPath]

mutual

def childFieldPermissionIssues : Json → FieldDefinition → JsString → Option DocumentSnapshot → List ValidationIssue
  | .arr rows, field, fieldPath, document =>
    if field.type = .table then
      match field.tableOf.bind relatedDocType with
      | some child => rowFieldPermissionIssues rows 0 child field fieldPath document
      | none => []
    else []
  | _, _, _, _ => []

def rowFieldPermissionIssues : List Json → Nat → DocTypeDefinition → FieldDefinition → JsString →
    Option DocumentSnapshot → List ValidationIssue
  | [], _, _, _, _, _ => []
  | .obj row :: rows, index, child, field, fieldPath, document =>
    documentFieldPermissionIssuesWith actor action (permissionCheckers row) child row
        (some (childRowSnapshot document child field index row)) []
        (fieldPath ++ js "[" ++ Json.natToString index ++ js "].") ++
      rowFieldPermissionIssues rows (index + 1) child field fieldPath document
  | _ :: rows, index, child, field, fieldPath, document =>
    rowFieldPermissionIssues rows (index + 1) child field fieldPath document

def permissionCheckers : List (JsString × Json) → PermissionCheckers
  | [] => []
  | (name, value) :: rest => (name, childFieldPermissionIssues value) :: permissionCheckers rest

end

def fieldPermissionIssues (doctype : DocTypeDefinition) (data : DocumentData)
    (document : Option DocumentSnapshot) (unset : List JsString) : List ValidationIssue :=
  documentFieldPermissionIssuesWith actor action (permissionCheckers relatedDocType actor action data) doctype data
    document unset []

end

/-! ## Field states -/

structure DocumentFieldState where
  read : Bool
  write : Bool
  redacted : Bool
  hidden : Bool
  deriving DecidableEq

abbrev DocumentFieldStates := Record JsString DocumentFieldState

structure DocumentFormFieldAccessProjectionOptions where
  actor : Actor
  doctype : DocTypeDefinition
  document : DocumentSnapshot
  canUpdateDocument : Bool

def documentStatusAllowsFieldUpdate (document : DocumentSnapshot) (field : FieldDefinition) : Bool :=
  if document.docstatus = .draft then true else document.docstatus == .submitted && field.allowOnSubmit

section

variable (canonicalize : UInt16 → UInt16)

def fieldIsReadOnlyForData (doctype : DocTypeDefinition) (field : FieldDefinition) (data : DocumentData) : Bool :=
  fieldIsReadOnly canonicalize field (documentSnapshotForFieldCondition doctype data)

def fieldIsHidden (field : FieldDefinition) (document : DocumentSnapshot) : Bool :=
  field.hidden || field.hiddenDependsOn.any (evaluatePredicateExpression canonicalize { after := some document })

namespace DocumentFormFieldAccessProjectionOptions

variable (options : DocumentFormFieldAccessProjectionOptions)

/-- The fields that have a state. -/
def fields : List FieldDefinition := options.doctype.fields.filter (canFieldAppearInMetadata options.actor .read)

def readable (field : FieldDefinition) : Bool :=
  canReadField field
    (readContext options.actor options.document options.document.tenantId
      (Record.get options.document.data field.name))

/-- What the caller is shown, for display rules: of the declared fields those that have a state and
can be read. -/
def shown : DocumentSnapshot :=
  { options.document with
    data := options.document.data.filter fun entry =>
      match options.doctype.field? entry.1 with
      | some field => canFieldAppearInMetadata options.actor .read field && options.readable field
      | none => options.doctype.allowUnknownFields }

def writable (conditionalReadOnly : Bool) (field : FieldDefinition) : Bool :=
  options.canUpdateDocument && documentStatusAllowsFieldUpdate options.document field &&
    !options.doctype.workflows.any (fun workflow => workflow.stateField == field.name) &&
    !(field.readOnly ||
      (conditionalReadOnly && fieldIsReadOnlyForData canonicalize options.doctype field options.document.data)) &&
    canWriteField field
      (writeContext options.actor .update (some options.document) (Record.get options.document.data field.name))

end DocumentFormFieldAccessProjectionOptions

def computeDocumentFieldStates (options : DocumentFormFieldAccessProjectionOptions) (conditionalReadOnly : Bool) :
    DocumentFieldStates :=
  options.fields.map fun field =>
    (field.name,
      { read := options.readable field
        write := options.writable canonicalize conditionalReadOnly field
        redacted := !options.readable field
        hidden := fieldIsHidden canonicalize field options.shown })

def documentFieldStates (options : DocumentFormFieldAccessProjectionOptions) : DocumentFieldStates :=
  computeDocumentFieldStates canonicalize options true

end
