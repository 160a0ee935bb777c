import CfFrappe.Core.JsValue
import CfFrappe.Lib.EventLog

set_option autoImplicit false

/-! # Events of runtime metadata

What a tenant may change about a DocType at run time, as events: custom fields, overrides of field
properties and naming strategies. Every change of one DocType is recorded twice, in the stream of its kind
and as a revision of the DocType.
-/

deriving instance BEq for PredicateExpression

/-- A field as metadata describe it: what is not given is `none`. The default value is JSON once it is
persisted. -/
structure FieldSettings (δ : Type) where
  name : JsString
  type : FieldType
  label : Option JsString := none
  description : Option JsString := none
  placeholder : Option JsString := none
  required : Option Bool := none
  mandatoryDependsOn : Option PredicateExpression := none
  readOnly : Option Bool := none
  readOnlyDependsOn : Option PredicateExpression := none
  hidden : Option Bool := none
  hiddenDependsOn : Option PredicateExpression := none
  printHide : Option Bool := none
  printHideIfNoValue : Option Bool := none
  unique : Option Bool := none
  noCopy : Option Bool := none
  allowOnSubmit : Option Bool := none
  fetchFrom : Option JsString := none
  fetchIfEmpty : Option Bool := none
  inFormView : Option Bool := none
  inListView : Option Bool := none
  inListFilter : Option Bool := none
  options : Option (List JsString) := none
  linkTo : Option DocTypeName := none
  tableOf : Option DocTypeName := none
  min : Option Rat := none
  max : Option Rat := none
  defaultValue : Option δ := none
  deriving BEq

abbrev PersistedFieldDefinition := FieldSettings Json

/-- The field of a DocType that the settings stand for. -/
def PersistedFieldDefinition.toField (settings : PersistedFieldDefinition) : FieldDefinition where
  name := settings.name
  type := settings.type
  label := settings.label
  description := settings.description
  placeholder := settings.placeholder
  required := settings.required.getD false
  mandatoryDependsOn := settings.mandatoryDependsOn
  readOnly := settings.readOnly.getD false
  readOnlyDependsOn := settings.readOnlyDependsOn
  hidden := settings.hidden.getD false
  hiddenDependsOn := settings.hiddenDependsOn
  printHide := settings.printHide.getD false
  printHideIfNoValue := settings.printHideIfNoValue.getD false
  unique := settings.unique.getD false
  noCopy := settings.noCopy.getD false
  allowOnSubmit := settings.allowOnSubmit.getD false
  fetchFrom := settings.fetchFrom
  fetchIfEmpty := settings.fetchIfEmpty.getD false
  inFormView := settings.inFormView.getD false
  inListView := settings.inListView.getD false
  inListFilter := settings.inListFilter.getD false
  options := settings.options
  linkTo := settings.linkTo
  tableOf := settings.tableOf
  min := settings.min
  max := settings.max
  defaultValue := settings.defaultValue.map (fun value _ => value)

/-- The properties of a field that may be overridden. -/
structure FieldPropertyOverrides (δ : Type) where
  label : Option JsString := none
  description : Option JsString := none
  placeholder : Option JsString := none
  required : Option Bool := none
  mandatoryDependsOn : Option PredicateExpression := none
  readOnly : Option Bool := none
  readOnlyDependsOn : Option PredicateExpression := none
  hidden : Option Bool := none
  hiddenDependsOn : Option PredicateExpression := none
  printHide : Option Bool := none
  printHideIfNoValue : Option Bool := none
  noCopy : Option Bool := none
  allowOnSubmit : Option Bool := none
  fetchFrom : Option JsString := none
  fetchIfEmpty : Option Bool := none
  inFormView : Option Bool := none
  inGlobalSearch : Option Bool := none
  inListView : Option Bool := none
  inListFilter : Option Bool := none
  options : Option (List JsString) := none
  min : Option Rat := none
  max : Option Rat := none
  defaultValue : Option δ := none
  deriving BEq

abbrev PersistedFieldOverrides := FieldPropertyOverrides Json

inductive MetadataPayload
  | customFieldSaved (doctypeName : DocTypeName) (field : PersistedFieldDefinition)
  | customFieldDisabled (doctypeName : DocTypeName) (fieldName : JsString)
  | fieldPropertyOverrideSaved (doctypeName : DocTypeName) (fieldName : JsString) (overrides : PersistedFieldOverrides)
  | fieldPropertyOverrideCleared (doctypeName : DocTypeName) (fieldName : JsString)
  | namingStrategySaved (doctypeName : DocTypeName) (strategy : NamingStrategy)
  | namingStrategyCleared (doctypeName : DocTypeName)
  /-- `MetadataRevisionStarted` or `MetadataRevisionAdvanced` -/
  | metadataRevision (revision : Nat)

structure MetadataEvent where
  payload : MetadataPayload
  occurredAt : Timestamp

abbrev MetadataLog := List (Recorded MetadataEvent)

/-- The highest sequence of some events, 0 if there is none. -/
def lastSequence {N : Type} (events : List (Recorded N)) : Nat :=
  events.foldl (fun version event => max version event.sequence) 0
