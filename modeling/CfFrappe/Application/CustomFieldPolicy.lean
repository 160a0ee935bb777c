import CfFrappe.Core.CustomFields
import CfFrappe.Core.Schema
import CfFrappe.Lib.PathSearch

set_option autoImplicit false

/-! # The rules of custom fields

What a custom field has to be like before it is saved: its texts are trimmed, its default value is JSON and
valid, what it refers to exists, and tables do not contain themselves. The plans say whether an event is
recorded at all.
-/

open Utf

namespace CustomFieldPolicy

def customFieldInvalid (message : JsString) : FrameworkError := doctypeError .customFieldInvalid message

def normalizeRequiredCustomFieldText (value label : JsString) : Except FrameworkError JsString :=
  let normalized := Json.trim value
  if normalized.isEmpty then .error (customFieldInvalid (label ++ js " is required")) else .ok normalized

/-- The text trimmed, `none` if nothing is left. -/
def trimmedOptional (value : Option JsString) : Option JsString := nonEmptyText (value.map Json.trim)

def normalizeOptions (options : List JsString) : Except FrameworkError (List JsString) := do
  ensure (!options.isEmpty) (customFieldInvalid (js "options must contain at least one item"))
  let normalized ← options.mapM (normalizeRequiredCustomFieldText · (js "Option"))
  match normalized.find? (fun item => normalized.count item > 1) with
  | some item => throw (customFieldInvalid (js "options contains duplicate '" ++ item ++ js "'"))
  | none => return normalized

def customFieldOptions (field : FieldSettings JsValue) : Except FrameworkError (Option (List JsString)) :=
  match field.options with
  | none => .ok none
  | some options => do
      ensure (field.type == .select) (customFieldInvalid (js "Only select custom fields can define options"))
      let normalized ← normalizeOptions options
      return some normalized

def customFieldDefaultValue (name : JsString) : Option JsValue → Except FrameworkError (Option Json)
  | none => .ok none
  | some value =>
    match value.jsonValue? with
    | some json => .ok (some json)
    | none => .error (customFieldInvalid (js "Custom field '" ++ name ++ js "' defaultValue must be JSON-serializable"))

def boundsOrdered (min max : Option Rat) : Bool :=
  match min, max with
  | some min, some max => min ≤ max
  | _, _ => true

def normalizeCustomField (field : FieldSettings JsValue) : Except FrameworkError PersistedFieldDefinition := do
  let name ← normalizeRequiredCustomFieldText field.name (js "Custom field name")
  let defaultValue ← customFieldDefaultValue name field.defaultValue
  let options ← customFieldOptions field
  ensure (boundsOrdered field.min field.max) (customFieldInvalid (js "Custom field '" ++ name ++ js "' min cannot exceed max"))
  return { field with
    name
    label := trimmedOptional field.label
    description := trimmedOptional field.description
    placeholder := trimmedOptional field.placeholder
    fetchFrom := trimmedOptional field.fetchFrom
    options
    linkTo := trimmedOptional field.linkTo
    tableOf := trimmedOptional field.tableOf
    defaultValue }

section

variable (checks : DocTypeChecks)

/-- The conditions of the field, as the DocType with the field normalizes them. -/
def normalizeCustomFieldExpressions (base : DocTypeDefinition) (field : PersistedFieldDefinition) :
    Except FrameworkError PersistedFieldDefinition := do
  let composed ← defineDocType checks { base with fields := base.fields ++ [field.toField] }
  match composed.field? field.name with
  | none => throw (customFieldInvalid (js "Custom field '" ++ field.name ++ js "' was not normalized"))
  | some normalized =>
    return { field with
      mandatoryDependsOn := normalized.mandatoryDependsOn.or field.mandatoryDependsOn
      readOnlyDependsOn := normalized.readOnlyDependsOn.or field.readOnlyDependsOn
      hiddenDependsOn := normalized.hiddenDependsOn.or field.hiddenDependsOn }

def assertCustomFieldDefaultValueValid (base : DocTypeDefinition) (field : PersistedFieldDefinition) :
    Except FrameworkError Unit :=
  match field.defaultValue with
  | none => .ok ()
  | some value =>
    let issues := validateDocumentData checks.canonicalize { base with fields := base.fields ++ [field.toField] }
      [(field.name, value)] { isPartial := true }
    match issues with
    | [] => .ok ()
    | issue :: _ => .error { customFieldInvalid issue.message with issues }

end

def ensureCustomFieldExpectedVersion (state : CustomFieldState) (expectedVersion : Option Nat) :
    Except FrameworkError Unit :=
  match expectedVersion with
  | none => .ok ()
  | some expected =>
    ensure (state.version == expected)
      (.conflict (js "Expected custom fields for '" ++ state.doctype ++ js "' at version " ++
        Json.natToString expected ++ js ", found " ++ Json.natToString state.version))

def findCustomFieldEntry (state : CustomFieldState) (fieldName : JsString) : Option CustomFieldEntry :=
  state.fields.find? (fun entry => entry.field.name == fieldName)

/-! ## Plans -/

inductive CustomFieldChangeDecision
  | append
  | missing (error : FrameworkError)
  | noop

def planCustomFieldSave (existing : Option CustomFieldEntry) (field : PersistedFieldDefinition) :
    CustomFieldChangeDecision :=
  if existing.any (fun entry => entry.enabled && entry.field == field) then .noop else .append

def planCustomFieldDisable (existing : Option CustomFieldEntry) (fieldName : JsString) : CustomFieldChangeDecision :=
  match existing with
  | none => .missing (.notFound (js "Custom field '" ++ fieldName ++ js "' was not found"))
  | some entry => if entry.enabled then .append else .noop

/-- The state of a DocType with a field that is about to be saved. -/
def projectPendingState (tenantId : TenantId) (state : CustomFieldState) (field : PersistedFieldDefinition)
    (now : Timestamp) : CustomFieldState :=
  { state with
    fields := state.fields.filter (fun entry => entry.field.name != field.name) ++
      [{ tenantId, doctype := state.doctype, field, enabled := true
         createdAt := ((findCustomFieldEntry state field.name).map (·.createdAt)).getD now
         updatedAt := now }] }

def projectPendingCustomFieldState (tenantId : TenantId) (states : List CustomFieldState) (doctype : DocTypeName)
    (field : PersistedFieldDefinition) (now : Timestamp) : List CustomFieldState :=
  states.map (fun state => if state.doctype = doctype then projectPendingState tenantId state field now else state)

/-- The state with a field that is about to be disabled. -/
def withoutField (state : CustomFieldState) (fieldName : JsString) (now : Timestamp) : CustomFieldState :=
  { state with
    fields := state.fields.map (fun entry =>
      if entry.field.name = fieldName then { entry with enabled := false, updatedAt := now } else entry) }

def resequenceCustomFieldEventsForFold (events : MetadataLog) : MetadataLog :=
  recorded 0 (events.map Recorded.event)

/-! ## What a field refers to -/

def assertCustomFieldReferencesResolve (field : PersistedFieldDefinition) (hasDocType : DocTypeName → Bool) :
    Except FrameworkError Unit := do
  ensure (!(field.type == .link && field.linkTo.any (fun name => !hasDocType name)))
    (.ofBadRequest (js "Custom field '" ++ field.name ++ js "' links to unknown DocType '" ++ field.linkTo.getD [] ++ js "'"))
  ensure (!(field.type == .table && field.tableOf.any (fun name => !hasDocType name)))
    (.ofBadRequest (js "Custom field '" ++ field.name ++ js "' targets unknown child DocType '" ++
      field.tableOf.getD [] ++ js "'"))

def assertCustomFieldRuntimeSupported (field : PersistedFieldDefinition) : Except FrameworkError Unit :=
  ensure (!(field.type == .table && field.inListFilter.getD false))
    (customFieldInvalid (js "Custom table field '" ++ field.name ++ js "' cannot be a list filter"))

def assertCustomTableFieldDoesNotSelfTarget (doctypeName : DocTypeName) (field : PersistedFieldDefinition) :
    Except FrameworkError Unit :=
  ensure (!(field.type == .table && field.tableOf == some doctypeName))
    (customFieldInvalid (js "Custom table field '" ++ field.name ++ js "' cannot target its own DocType '" ++
      doctypeName ++ js "' until recursive table overlays are supported"))

/-- A table field, from the DocType that has it to the DocType of its rows. -/
structure TableGraphEdge where
  source : DocTypeName
  target : DocTypeName
  fieldName : JsString
  custom : Bool

def customFieldTableGraph (doctypes : List DocTypeDefinition) (states : List CustomFieldState) : List TableGraphEdge :=
  let declared := doctypes.flatMap (fun doctype => doctype.fields.filterMap (fun field =>
    if field.type = .table then
      (nonEmptyText field.tableOf).map (fun target => ⟨doctype.name, target, field.name, false⟩)
    else none))
  let custom := states.flatMap (fun state => state.fields.filterMap (fun entry =>
    if entry.enabled ∧ entry.field.type = .table then
      (nonEmptyText entry.field.tableOf).map (fun target => ⟨state.doctype, target, entry.field.name, true⟩)
    else none))
  declared ++ custom

/-- The custom field that is to blame for a cycle, if one is about to be saved. -/
def recursiveTableError (edge : TableGraphEdge) (path : List DocTypeName) (blame : Option JsString) : FrameworkError :=
  let place :=
    if blame.isSome ∨ edge.custom then js "Custom table field '" ++ blame.getD edge.fieldName ++ js "'"
    else js "Table field '" ++ edge.fieldName ++ js "' on DocType '" ++ edge.source ++ js "'"
  customFieldInvalid (place ++ js " creates recursive table path " ++ (js " -> ").intercalate path ++
    js ", which is not supported until recursive table controls are supported")

/-- The graph of the search of `assertCustomTableGraphAcyclicFrom`. -/
def tableGraph (edges : List TableGraphEdge) (blame : Option JsString) :
    PathSearch.Graph DocTypeName TableGraphEdge FrameworkError where
  edges := edges
  source edge := edge.source
  target edge := edge.target
  cycle edge path := recursiveTableError edge path blame

def assertCustomTableGraphAcyclicFrom (root : DocTypeName) (doctypes : List DocTypeDefinition)
    (states : List CustomFieldState) (blame : Option JsString) : Except FrameworkError Unit := do
  let _ ← (tableGraph (customFieldTableGraph doctypes states) blame).search root
  return ()

/-! ## Pending states -/

theorem enables_projectPendingState {tenantId : TenantId} {state : CustomFieldState}
    {saved field : PersistedFieldDefinition} {now : Timestamp} :
    (projectPendingState tenantId state saved now).Enables field ↔
      field = saved ∨ field.name ≠ saved.name ∧ state.Enables field := by
  unfold CustomFieldState.Enables projectPendingState
  constructor
  · rintro ⟨entry, hentry, henabled, rfl⟩
    rcases List.mem_append.mp hentry with hold | hnew
    · obtain ⟨hmem, hname⟩ := List.mem_filter.mp hold
      exact Or.inr ⟨by simpa using hname, entry, hmem, henabled, rfl⟩
    · rw [List.mem_singleton] at hnew
      left
      rw [hnew]
  · rintro (rfl | ⟨hname, entry, hmem, henabled, rfl⟩)
    · exact ⟨_, List.mem_append_right _ List.mem_cons_self, rfl, rfl⟩
    · exact ⟨entry, List.mem_append_left _ (List.mem_filter.mpr ⟨hmem, by simpa using hname⟩), henabled, rfl⟩

theorem enables_withoutField {state : CustomFieldState} {fieldName : JsString} {field : PersistedFieldDefinition}
    {now : Timestamp} :
    (withoutField state fieldName now).Enables field ↔ field.name ≠ fieldName ∧ state.Enables field := by
  unfold CustomFieldState.Enables withoutField
  constructor
  · rintro ⟨entry, hentry, henabled, rfl⟩
    obtain ⟨entry', hmem, rfl⟩ := List.mem_map.mp hentry
    by_cases hname : entry'.field.name = fieldName
    · rw [if_pos hname] at henabled
      cases henabled
    · rw [if_neg hname] at henabled ⊢
      exact ⟨hname, entry', hmem, henabled, rfl⟩
  · rintro ⟨hname, entry, hmem, henabled, rfl⟩
    refine ⟨entry, List.mem_map.mpr ⟨entry, hmem, ?_⟩, henabled, rfl⟩
    rw [if_neg hname]

end CustomFieldPolicy
