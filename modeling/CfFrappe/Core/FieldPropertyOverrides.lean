import CfFrappe.Core.DocTypes
import CfFrappe.Core.MetadataEvents
import CfFrappe.Lib.Record

set_option autoImplicit false

/-! # Overrides of field properties

Properties that a tenant lays over the fields of a DocType. `foldFieldPropertyOverrides` reads them from
the events, `applyFieldPropertyOverridesToDocType` defines the DocType again with every field overridden.
A DocType that resolves has the fields of its base, each with its overrides
(`applyFieldPropertyOverridesToDocType_ok`); types and names cannot be overridden.
-/

open Utf

structure FieldPropertyOverrideEntry where
  tenantId : TenantId
  doctype : DocTypeName
  fieldName : JsString
  overrides : PersistedFieldOverrides
  createdAt : Timestamp
  updatedAt : Timestamp

structure FieldPropertyOverrideState where
  tenantId : TenantId
  doctype : DocTypeName
  version : Nat
  fields : List FieldPropertyOverrideEntry

/-! ## The fold -/

def isFieldPropertyOverrideEvent (event : MetadataEvent) : Bool :=
  match event.payload with
  | .fieldPropertyOverrideSaved _ _ _ | .fieldPropertyOverrideCleared _ _ => true
  | _ => false

def applyFieldPropertyOverrideEvent (tenantId : TenantId) (doctype : DocTypeName)
    (fields : Record JsString FieldPropertyOverrideEntry) (event : MetadataEvent) :
    Record JsString FieldPropertyOverrideEntry :=
  match event.payload with
  | .fieldPropertyOverrideSaved doctypeName fieldName overrides =>
    if doctypeName = doctype then
      Record.set fields fieldName
        { tenantId, doctype, fieldName, overrides
          createdAt := ((Record.get fields fieldName).map (·.createdAt)).getD event.occurredAt
          updatedAt := event.occurredAt }
    else fields
  | .fieldPropertyOverrideCleared doctypeName fieldName =>
    if doctypeName = doctype then Record.without fields [fieldName] else fields
  | _ => fields

def fieldPropertyEntriesOf (tenantId : TenantId) (doctype : DocTypeName) (events : List MetadataEvent) :
    Record JsString FieldPropertyOverrideEntry :=
  events.foldl (applyFieldPropertyOverrideEvent tenantId doctype) []

/-- `.sort((left, right) => left.fieldName.localeCompare(right.fieldName))`. -/
def sortFieldPropertyEntries (localeCompare : JsString → JsString → Ordering) (entries : List FieldPropertyOverrideEntry) :
    List FieldPropertyOverrideEntry :=
  entries.insertionSort (fun left right => localeCompare left.fieldName right.fieldName ≠ .gt)

def foldFieldPropertyOverrides (localeCompare : JsString → JsString → Ordering) (tenantId : TenantId)
    (doctype : DocTypeName) (events : MetadataLog) : FieldPropertyOverrideState where
  tenantId := tenantId
  doctype := doctype
  version := lastSequence (events.filter (fun event => isFieldPropertyOverrideEvent event.event))
  fields := sortFieldPropertyEntries localeCompare
    ((fieldPropertyEntriesOf tenantId doctype ((sortRecorded events).map Recorded.event)).map Prod.snd)

/-- The overrides of a field. -/
def FieldPropertyOverrideState.overridesOf (state : FieldPropertyOverrideState) (fieldName : JsString) :
    Option PersistedFieldOverrides :=
  (state.fields.find? (fun entry => entry.fieldName == fieldName)).map (·.overrides)

/-! ## The DocType with its overrides -/

/-- `{ ...field, ...overrides }`. -/
def applyOverridesToField (field : FieldDefinition) : Option PersistedFieldOverrides → FieldDefinition
  | none => field
  | some overrides =>
    { field with
      label := overrides.label.or field.label
      description := overrides.description.or field.description
      placeholder := overrides.placeholder.or field.placeholder
      required := overrides.required.getD field.required
      mandatoryDependsOn := overrides.mandatoryDependsOn.or field.mandatoryDependsOn
      readOnly := overrides.readOnly.getD field.readOnly
      readOnlyDependsOn := overrides.readOnlyDependsOn.or field.readOnlyDependsOn
      hidden := overrides.hidden.getD field.hidden
      hiddenDependsOn := overrides.hiddenDependsOn.or field.hiddenDependsOn
      printHide := overrides.printHide.getD field.printHide
      printHideIfNoValue := overrides.printHideIfNoValue.getD field.printHideIfNoValue
      noCopy := overrides.noCopy.getD field.noCopy
      allowOnSubmit := overrides.allowOnSubmit.getD field.allowOnSubmit
      fetchFrom := overrides.fetchFrom.or field.fetchFrom
      fetchIfEmpty := overrides.fetchIfEmpty.getD field.fetchIfEmpty
      inFormView := overrides.inFormView.getD field.inFormView
      inGlobalSearch := overrides.inGlobalSearch.getD field.inGlobalSearch
      inListView := overrides.inListView.getD field.inListView
      inListFilter := overrides.inListFilter.getD field.inListFilter
      options := overrides.options.or field.options
      min := overrides.min.or field.min
      max := overrides.max.or field.max
      defaultValue := (overrides.defaultValue.map (fun value _ => value)).or field.defaultValue }

/-- The field with the overrides that the state has for it. -/
def FieldPropertyOverrideState.override (state : FieldPropertyOverrideState) (field : FieldDefinition) : FieldDefinition :=
  applyOverridesToField field (state.overridesOf field.name)

def applyFieldPropertyOverridesToDocType (checks : DocTypeChecks) (base : DocTypeDefinition)
    (state : FieldPropertyOverrideState) : Except FrameworkError DocTypeDefinition := do
  ensure (state.doctype == base.name)
    (doctypeError .fieldPropertyInvalid (js "Field property state for '" ++ state.doctype ++
      js "' cannot extend DocType '" ++ base.name ++ js "'"))
  if state.fields.isEmpty then return base
  match state.fields.find? (fun entry => !base.fields.any (fun field => field.name == entry.fieldName)) with
  | some entry =>
    throw (doctypeError .fieldPropertyInvalid (js "Field property override references unknown field '" ++
      entry.fieldName ++ js "' on " ++ base.name))
  | none =>
    let effective ← defineDocType checks { base with fields := base.fields.map state.override }
    checks.assertDefaultValuesValid effective
    return effective

/-! ## Facts -/

section

@[simp] theorem applyOverridesToField_name (field : FieldDefinition) (overrides : Option PersistedFieldOverrides) :
    (applyOverridesToField field overrides).name = field.name := by
  cases overrides <;> rfl

@[simp] theorem applyOverridesToField_type (field : FieldDefinition) (overrides : Option PersistedFieldOverrides) :
    (applyOverridesToField field overrides).type = field.type := by
  cases overrides <;> rfl

/-- A flag of an overridden field. -/
theorem applyOverridesToField_readOnly (field : FieldDefinition) (overrides : Option PersistedFieldOverrides) :
    (applyOverridesToField field overrides).readOnly = (overrides.bind (·.readOnly)).getD field.readOnly := by
  cases overrides <;> rfl

theorem applyOverridesToField_noCopy (field : FieldDefinition) (overrides : Option PersistedFieldOverrides) :
    (applyOverridesToField field overrides).noCopy = (overrides.bind (·.noCopy)).getD field.noCopy := by
  cases overrides <;> rfl

variable {tenantId : TenantId} {doctype : DocTypeName} {localeCompare : JsString → JsString → Ordering}

/-- The entries after some events: every field once, under its name. -/
theorem fieldPropertyEntriesOf_keyed (events : List MetadataEvent) :
    (Record.keys (fieldPropertyEntriesOf tenantId doctype events)).Nodup ∧
      ∀ name entry, Record.get (fieldPropertyEntriesOf tenantId doctype events) name = some entry →
        entry.fieldName = name := by
  unfold fieldPropertyEntriesOf
  refine List.foldlRecOn (motive := fun fields : Record JsString FieldPropertyOverrideEntry =>
    (Record.keys fields).Nodup ∧ ∀ name entry, Record.get fields name = some entry → entry.fieldName = name)
    events _ ⟨List.nodup_nil, fun name entry hget => by cases hget⟩ ?_
  rintro fields ⟨hnodup, hkeyed⟩ event -
  unfold applyFieldPropertyOverrideEvent
  split
  · split_ifs
    · refine ⟨Record.nodup_keys_set hnodup _ _, ?_⟩
      intro name entry hget
      rw [Record.get_set] at hget
      split_ifs at hget with hname
      · rw [← Option.some.inj hget]
        exact hname
      · exact hkeyed name entry hget
    · exact ⟨hnodup, hkeyed⟩
  · split_ifs
    · refine ⟨Record.nodup_keys_without hnodup _, ?_⟩
      intro name entry hget
      rw [Record.get_without] at hget
      split_ifs at hget
      exact hkeyed name entry hget
    · exact ⟨hnodup, hkeyed⟩
  · exact ⟨hnodup, hkeyed⟩

theorem fieldPropertyEntriesOf_concat (events : List MetadataEvent) (event : MetadataEvent) :
    fieldPropertyEntriesOf tenantId doctype (events ++ [event]) =
      applyFieldPropertyOverrideEvent tenantId doctype (fieldPropertyEntriesOf tenantId doctype events) event := by
  unfold fieldPropertyEntriesOf
  rw [List.foldl_append]
  rfl

/-- A state that is folded from events has every field once. -/
theorem nodup_foldFieldPropertyOverrides (events : MetadataLog) :
    ((foldFieldPropertyOverrides localeCompare tenantId doctype events).fields.map (·.fieldName)).Nodup := by
  obtain ⟨hnodup, hkeyed⟩ := @fieldPropertyEntriesOf_keyed tenantId doctype ((sortRecorded events).map Recorded.event)
  unfold foldFieldPropertyOverrides sortFieldPropertyEntries
  generalize fieldPropertyEntriesOf tenantId doctype ((sortRecorded events).map Recorded.event) = entries at *
  have hsame : (entries.map Prod.snd).map (·.fieldName) = Record.keys entries := by
    rw [List.map_map]
    apply List.map_congr_left
    rintro ⟨key, entry⟩ hmem
    exact hkeyed key entry (Record.get_of_mem hnodup hmem)
  rw [← hsame] at hnodup
  exact ((List.perm_insertionSort _ _).map _).nodup_iff.mpr hnodup

/-- The overrides of a field, read off the events. -/
theorem overridesOf_foldFieldPropertyOverrides (events : MetadataLog) (name : JsString) :
    (foldFieldPropertyOverrides localeCompare tenantId doctype events).overridesOf name =
      (Record.get (fieldPropertyEntriesOf tenantId doctype ((sortRecorded events).map Recorded.event)) name).map
        (·.overrides) := by
  have hnames := @nodup_foldFieldPropertyOverrides tenantId doctype localeCompare events
  obtain ⟨hnodup, hkeyed⟩ := @fieldPropertyEntriesOf_keyed tenantId doctype ((sortRecorded events).map Recorded.event)
  unfold FieldPropertyOverrideState.overridesOf
  congr 1
  ext entry
  rw [find?_key_iff hnames]
  unfold foldFieldPropertyOverrides sortFieldPropertyEntries
  generalize fieldPropertyEntriesOf tenantId doctype ((sortRecorded events).map Recorded.event) = entries at *
  rw [List.mem_insertionSort]
  constructor
  · rintro ⟨hmem, rfl⟩
    obtain ⟨⟨key, entry'⟩, hpair, hsame⟩ := List.mem_map.mp hmem
    dsimp only at hsame
    subst hsame
    have hget := Record.get_of_mem hnodup hpair
    rw [hkeyed key entry' hget]
    exact hget
  · intro hget
    exact ⟨List.mem_map.mpr ⟨_, Record.mem_of_get hget, rfl⟩, hkeyed name entry hget⟩

variable {entries : Record JsString FieldPropertyOverrideEntry} {event : MetadataEvent}

theorem get_applyFieldPropertyOverrideEvent_saved {fieldName : JsString} {overrides : PersistedFieldOverrides}
    (hevent : event.payload = .fieldPropertyOverrideSaved doctype fieldName overrides) (name : JsString) :
    (Record.get (applyFieldPropertyOverrideEvent tenantId doctype entries event) name).map (·.overrides) =
      if fieldName = name then some overrides else (Record.get entries name).map (·.overrides) := by
  unfold applyFieldPropertyOverrideEvent
  rw [hevent]
  dsimp only
  rw [if_pos rfl, Record.get_set]
  split_ifs <;> rfl

theorem get_applyFieldPropertyOverrideEvent_cleared {fieldName : JsString}
    (hevent : event.payload = .fieldPropertyOverrideCleared doctype fieldName) (name : JsString) :
    (Record.get (applyFieldPropertyOverrideEvent tenantId doctype entries event) name).map (·.overrides) =
      if fieldName = name then none else (Record.get entries name).map (·.overrides) := by
  unfold applyFieldPropertyOverrideEvent
  rw [hevent]
  dsimp only
  rw [if_pos rfl, Record.get_without]
  by_cases hname : fieldName = name
  · simp [hname]
  · simp [hname, Ne.symm hname]

theorem applyFieldPropertyOverrideEvent_of_ne
    (hsaved : ∀ name overrides, event.payload ≠ .fieldPropertyOverrideSaved doctype name overrides)
    (hcleared : ∀ name, event.payload ≠ .fieldPropertyOverrideCleared doctype name) :
    applyFieldPropertyOverrideEvent tenantId doctype entries event = entries := by
  unfold applyFieldPropertyOverrideEvent
  split
  · rename_i doctypeName name overrides hpayload
    rw [if_neg]
    rintro rfl
    exact hsaved name overrides hpayload
  · rename_i doctypeName name hpayload
    rw [if_neg]
    rintro rfl
    exact hcleared name hpayload
  · rfl

end

section

variable {checks : DocTypeChecks} {base doctype : DocTypeDefinition} {state : FieldPropertyOverrideState}

/-- A state without entries overrides nothing. -/
theorem override_of_isEmpty (h : state.fields.isEmpty = true) (field : FieldDefinition) : state.override field = field := by
  rw [List.isEmpty_iff] at h
  unfold FieldPropertyOverrideState.override FieldPropertyOverrideState.overridesOf
  rw [h]
  rfl

/-- **A DocType that resolves** has the fields of its base, overridden. -/
theorem applyFieldPropertyOverridesToDocType_ok (hnames : (base.fields.map (·.name)).Nodup)
    (hchecked : ∀ strategy, base.naming = some strategy → ∃ definition : DocTypeDefinition,
      definition.fields = base.fields ∧ normalizeNamingStrategy checks.safeRegex definition strategy = .ok strategy)
    (h : applyFieldPropertyOverridesToDocType checks base state = .ok doctype) :
    doctype.name = base.name ∧ doctype.naming = base.naming ∧
      doctype.fields = base.fields.map state.override ∧ (doctype.fields.map (·.name)).Nodup ∧
      ∀ strategy, base.naming = some strategy → ∃ definition : DocTypeDefinition, definition.fields = doctype.fields ∧
        normalizeNamingStrategy checks.safeRegex definition strategy = .ok strategy := by
  obtain ⟨_, -, h⟩ := except_bind_eq_ok h
  by_cases hempty : state.fields.isEmpty = true
  · rw [if_pos hempty] at h
    have hsame : base = doctype := Except.ok.inj h
    have hfields : base.fields.map state.override = base.fields := by
      rw [List.map_congr_left (g := id) (fun field _ => override_of_isEmpty hempty field), List.map_id]
    subst hsame
    exact ⟨rfl, rfl, hfields.symm, hnames, hchecked⟩
  · rw [if_neg hempty] at h
    split at h
    · cases h
    · obtain ⟨effective, heffective, h⟩ := except_bind_eq_ok h
      obtain ⟨_, -, h⟩ := except_bind_eq_ok h
      have hdefined := defineDocType_ok heffective
      have hsame : effective = doctype := Except.ok.inj h
      subst hsame
      refine ⟨hdefined.name, hdefined.naming, hdefined.fields, hdefined.names, ?_⟩
      intro strategy hstrategy
      exact ⟨_, hdefined.fields.symm, hdefined.checked strategy hstrategy⟩

end
