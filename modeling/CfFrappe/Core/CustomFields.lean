import CfFrappe.Core.DocTypes
import CfFrappe.Core.MetadataEvents
import CfFrappe.Lib.Record

set_option autoImplicit false

/-! # Custom fields

Fields that a tenant adds to a DocType. `foldCustomFields` reads them from the events,
`applyCustomFieldsToDocType` defines the DocType again with the enabled ones behind its own. What matters
of a state are its enabled fields (`Enables`); a DocType that resolves has exactly these and its own
(`applyCustomFieldsToDocType_ok`).
-/

open Utf

structure CustomFieldEntry where
  tenantId : TenantId
  doctype : DocTypeName
  field : PersistedFieldDefinition
  enabled : Bool
  createdAt : Timestamp
  updatedAt : Timestamp

structure CustomFieldState where
  tenantId : TenantId
  doctype : DocTypeName
  version : Nat
  fields : List CustomFieldEntry

/-! ## The fold -/

def isCustomFieldEvent (event : MetadataEvent) : Bool :=
  match event.payload with
  | .customFieldSaved _ _ | .customFieldDisabled _ _ => true
  | _ => false

/-- The entry of a field that has been saved. -/
def savedCustomFieldEntry (tenantId : TenantId) (doctype : DocTypeName) (fields : Record JsString CustomFieldEntry)
    (field : PersistedFieldDefinition) (occurredAt : Timestamp) : CustomFieldEntry where
  tenantId := tenantId
  doctype := doctype
  field := field
  enabled := true
  createdAt := ((Record.get fields field.name).map (·.createdAt)).getD occurredAt
  updatedAt := occurredAt

/-- The entries after one event of the fold. -/
def applyCustomFieldEvent (tenantId : TenantId) (doctype : DocTypeName) (fields : Record JsString CustomFieldEntry)
    (event : MetadataEvent) : Record JsString CustomFieldEntry :=
  match event.payload with
  | .customFieldSaved doctypeName field =>
    if doctypeName = doctype then
      Record.set fields field.name (savedCustomFieldEntry tenantId doctype fields field event.occurredAt)
    else fields
  | .customFieldDisabled doctypeName fieldName =>
    if doctypeName = doctype then
      match Record.get fields fieldName with
      | some existing => Record.set fields fieldName { existing with enabled := false, updatedAt := event.occurredAt }
      | none => fields
    else fields
  | _ => fields

/-- The entries after some events, in their order. -/
def customFieldEntriesOf (tenantId : TenantId) (doctype : DocTypeName) (events : List MetadataEvent) :
    Record JsString CustomFieldEntry :=
  events.foldl (applyCustomFieldEvent tenantId doctype) []

/-- `[...fields.values()].sort((left, right) => left.field.name.localeCompare(right.field.name))`. -/
def sortCustomFieldEntries (localeCompare : JsString → JsString → Ordering) (entries : List CustomFieldEntry) :
    List CustomFieldEntry :=
  entries.insertionSort (fun left right => localeCompare left.field.name right.field.name ≠ .gt)

def foldCustomFields (localeCompare : JsString → JsString → Ordering) (tenantId : TenantId) (doctype : DocTypeName)
    (events : MetadataLog) : CustomFieldState where
  tenantId := tenantId
  doctype := doctype
  version := lastSequence (events.filter (fun event => isCustomFieldEvent event.event))
  fields := sortCustomFieldEntries localeCompare
    ((customFieldEntriesOf tenantId doctype ((sortRecorded events).map Recorded.event)).map Prod.snd)

/-! ## The DocType with its custom fields -/

/-- `[...base, ...additions]` without what is already there. -/
def appendUnique (base additions : List JsString) : List JsString :=
  additions.foldl (fun names name => if names.contains name then names else names ++ [name]) base

/-- The last section of the form gets the custom fields that ask for it. -/
def formViewWithCustomFields (base : DocTypeDefinition) (customFields : List FieldDefinition) : Option FormViewDefinition :=
  let sectionFields := (customFields.filter (·.inFormView)).map (·.name)
  match base.formView.bind (·.sections) with
  | none | some [] => base.formView
  | some sections =>
    if sectionFields.isEmpty then base.formView
    else some { sections := some (sections.modify (sections.length - 1)
      (fun last => { fields := appendUnique last.fields sectionFields })) }

/-- The columns and the filters of the list get the custom fields that ask for it. -/
def listViewWithCustomFields (base : DocTypeDefinition) (customFields : List FieldDefinition) :
    Option ListViewDefinition :=
  base.listView.map (fun listView =>
    { columns := listView.columns.map (appendUnique · ((customFields.filter (·.inListView)).map (·.name)))
      filterFields := listView.filterFields.map (appendUnique · ((customFields.filter (·.inListFilter)).map (·.name))) })

def assertNoBaseFieldCollisions (base : DocTypeDefinition) (fields : List FieldDefinition) :
    Except FrameworkError Unit :=
  match fields.find? (fun field => base.fields.any (fun existing => existing.name == field.name)) with
  | some field => .error (doctypeError .customFieldInvalid (js "Custom field '" ++ field.name ++
      js "' already exists on base DocType '" ++ base.name ++ js "'"))
  | none => .ok ()

/-- The enabled fields of a state, as fields of a DocType. -/
def CustomFieldState.enabledFields (state : CustomFieldState) : List FieldDefinition :=
  (state.fields.filter (·.enabled)).map (fun entry => entry.field.toField)

section

variable (checks : DocTypeChecks)

def applyCustomFieldsToDocType (base : DocTypeDefinition) (state : CustomFieldState) :
    Except FrameworkError DocTypeDefinition := do
  ensure (state.doctype == base.name)
    (doctypeError .customFieldInvalid (js "Custom field state for '" ++ state.doctype ++
      js "' cannot extend DocType '" ++ base.name ++ js "'"))
  let customFields := state.enabledFields
  assertNoBaseFieldCollisions base customFields
  defineDocType checks { base with
    fields := base.fields ++ customFields
    formView := formViewWithCustomFields base customFields
    listView := listViewWithCustomFields base customFields }

def assertCustomFieldCanExtend (base : DocTypeDefinition) (field : PersistedFieldDefinition) :
    Except FrameworkError Unit := do
  ensure (!(Json.trim field.name).isEmpty) (doctypeError .customFieldInvalid (js "Custom field name is required"))
  ensure (!base.fields.any (fun existing => existing.name == field.name))
    (doctypeError .customFieldInvalid (js "Custom field '" ++ field.name ++ js "' already exists on base DocType '" ++
      base.name ++ js "'"))
  match defineDocType checks { base with fields := base.fields ++ [field.toField] } with
  | .ok _ => return ()
  | .error error => .error (doctypeError .customFieldInvalid error.message)

end

/-! ## The enabled fields -/

/-- The state has this field, and it is enabled. -/
def CustomFieldState.Enables (state : CustomFieldState) (field : PersistedFieldDefinition) : Prop :=
  ∃ entry ∈ state.fields, entry.enabled = true ∧ entry.field = field

/-- Every entry stands under the name of its field. -/
def KeyedByName (entries : Record JsString CustomFieldEntry) : Prop :=
  ∀ name entry, Record.get entries name = some entry → entry.field.name = name

variable {field : PersistedFieldDefinition} {entries : Record JsString CustomFieldEntry} {event : MetadataEvent}

section

variable {tenantId : TenantId} {doctype : DocTypeName} {localeCompare : JsString → JsString → Ordering}

theorem nodup_applyCustomFieldEvent {fields : Record JsString CustomFieldEntry} (h : (Record.keys fields).Nodup)
    (event : MetadataEvent) : (Record.keys (applyCustomFieldEvent tenantId doctype fields event)).Nodup := by
  unfold applyCustomFieldEvent
  split
  · split_ifs
    · exact Record.nodup_keys_set h _ _
    · exact h
  · split_ifs
    · split
      · exact Record.nodup_keys_set h _ _
      · exact h
    · exact h
  · exact h

theorem keyedByName_applyCustomFieldEvent {fields : Record JsString CustomFieldEntry} (h : KeyedByName fields)
    (event : MetadataEvent) : KeyedByName (applyCustomFieldEvent tenantId doctype fields event) := by
  unfold applyCustomFieldEvent
  split
  · split_ifs
    · intro name entry hget
      rw [Record.get_set] at hget
      split_ifs at hget with hname
      · rw [← Option.some.inj hget]
        exact hname
      · exact h name entry hget
    · exact h
  · split_ifs
    · split
      · rename_i existing hexisting
        intro name entry hget
        rw [Record.get_set] at hget
        split_ifs at hget with hname
        · rw [← Option.some.inj hget, ← hname]
          exact h _ existing hexisting
        · exact h name entry hget
      · exact h
    · exact h
  · exact h

theorem nodup_customFieldEntriesOf (events : List MetadataEvent) :
    (Record.keys (customFieldEntriesOf tenantId doctype events)).Nodup := by
  unfold customFieldEntriesOf
  refine List.foldlRecOn (motive := fun fields => (Record.keys fields).Nodup) events _ List.nodup_nil ?_
  intro fields h event _
  exact nodup_applyCustomFieldEvent h event

theorem keyedByName_customFieldEntriesOf (events : List MetadataEvent) :
    KeyedByName (customFieldEntriesOf tenantId doctype events) := by
  unfold customFieldEntriesOf
  refine List.foldlRecOn (motive := KeyedByName) events _ ?_ ?_
  · intro name entry hget
    cases hget
  · intro fields h event _
    exact keyedByName_applyCustomFieldEvent h event

theorem customFieldEntriesOf_concat (events : List MetadataEvent) (event : MetadataEvent) :
    customFieldEntriesOf tenantId doctype (events ++ [event]) =
      applyCustomFieldEvent tenantId doctype (customFieldEntriesOf tenantId doctype events) event := by
  unfold customFieldEntriesOf
  rw [List.foldl_append]
  rfl

theorem enables_foldCustomFields {events : MetadataLog} :
    (foldCustomFields localeCompare tenantId doctype events).Enables field ↔
      ∃ entry, Record.get (customFieldEntriesOf tenantId doctype ((sortRecorded events).map Recorded.event)) field.name =
        some entry ∧ entry.enabled = true ∧ entry.field = field := by
  generalize hentries : customFieldEntriesOf tenantId doctype ((sortRecorded events).map Recorded.event) = entries
  have hnodup : (Record.keys entries).Nodup := hentries ▸ nodup_customFieldEntriesOf _
  have hkeyed : KeyedByName entries := hentries ▸ keyedByName_customFieldEntriesOf _
  have hmem : ∀ entry, entry ∈ (foldCustomFields localeCompare tenantId doctype events).fields ↔
      entry ∈ entries.map Prod.snd := by
    intro entry
    rw [← hentries]
    exact List.mem_insertionSort _
  constructor
  · rintro ⟨entry, hentry, henabled, rfl⟩
    obtain ⟨⟨name, entry'⟩, hpair, hsame⟩ := List.mem_map.mp ((hmem entry).mp hentry)
    have hget := Record.get_of_mem hnodup hpair
    dsimp only at hsame
    subst hsame
    rw [hkeyed name entry' hget]
    exact ⟨entry', hget, henabled, rfl⟩
  · rintro ⟨entry, hget, henabled, rfl⟩
    exact ⟨entry, (hmem entry).mpr (List.mem_map.mpr ⟨_, Record.mem_of_get hget, rfl⟩), henabled, rfl⟩

/-- The enabled fields after a field has been saved. -/
theorem enabled_applyCustomFieldEvent_saved {saved : PersistedFieldDefinition}
    (hevent : event.payload = .customFieldSaved doctype saved) :
    (∃ entry, Record.get (applyCustomFieldEvent tenantId doctype entries event) field.name = some entry ∧
      entry.enabled = true ∧ entry.field = field) ↔
    field = saved ∨ field.name ≠ saved.name ∧
      ∃ entry, Record.get entries field.name = some entry ∧ entry.enabled = true ∧ entry.field = field := by
  unfold applyCustomFieldEvent
  rw [hevent]
  dsimp only
  rw [if_pos rfl]
  constructor
  · rintro ⟨entry, hget, henabled, hfield⟩
    rw [Record.get_set] at hget
    split_ifs at hget with hname
    · left
      rw [← hfield, ← Option.some.inj hget]
      rfl
    · exact Or.inr ⟨Ne.symm hname, entry, hget, henabled, hfield⟩
  · rintro (rfl | ⟨hne, entry, hget, henabled, hfield⟩)
    · refine ⟨savedCustomFieldEntry tenantId doctype entries field event.occurredAt, ?_, rfl, rfl⟩
      rw [Record.get_set, if_pos rfl]
    · refine ⟨entry, ?_, henabled, hfield⟩
      rw [Record.get_set, if_neg (Ne.symm hne)]
      exact hget

/-- The enabled fields after a field has been disabled. -/
theorem enabled_applyCustomFieldEvent_disabled {disabled : JsString}
    (hevent : event.payload = .customFieldDisabled doctype disabled) :
    (∃ entry, Record.get (applyCustomFieldEvent tenantId doctype entries event) field.name = some entry ∧
      entry.enabled = true ∧ entry.field = field) ↔
    field.name ≠ disabled ∧
      ∃ entry, Record.get entries field.name = some entry ∧ entry.enabled = true ∧ entry.field = field := by
  unfold applyCustomFieldEvent
  rw [hevent]
  dsimp only
  rw [if_pos rfl]
  cases hexisting : Record.get entries disabled with
  | none =>
    dsimp only
    constructor
    · rintro ⟨entry, hget, hrest⟩
      refine ⟨?_, entry, hget, hrest⟩
      rintro rfl
      rw [hexisting] at hget
      cases hget
    · exact fun h => h.2
  | some existing =>
    dsimp only
    constructor
    · rintro ⟨entry, hget, henabled, hfield⟩
      rw [Record.get_set] at hget
      split_ifs at hget with hname
      · rw [← Option.some.inj hget] at henabled
        cases henabled
      · exact ⟨Ne.symm hname, entry, hget, henabled, hfield⟩
    · rintro ⟨hne, entry, hget, henabled, hfield⟩
      refine ⟨entry, ?_, henabled, hfield⟩
      rw [Record.get_set, if_neg (Ne.symm hne)]
      exact hget

/-- The events of other DocTypes, and of other kinds, change nothing. -/
theorem applyCustomFieldEvent_of_ne (hsaved : ∀ field, event.payload ≠ .customFieldSaved doctype field)
    (hdisabled : ∀ name, event.payload ≠ .customFieldDisabled doctype name) :
    applyCustomFieldEvent tenantId doctype entries event = entries := by
  unfold applyCustomFieldEvent
  split
  · rename_i doctypeName field hpayload
    rw [if_neg]
    rintro rfl
    exact hsaved field hpayload
  · rename_i doctypeName name hpayload
    rw [if_neg]
    rintro rfl
    exact hdisabled name hpayload
  · rfl

end

section

variable {checks : DocTypeChecks} {base doctype : DocTypeDefinition} {state : CustomFieldState}

theorem mem_enabledFields {x : FieldDefinition} :
    x ∈ state.enabledFields ↔ ∃ field, state.Enables field ∧ x = PersistedFieldDefinition.toField field := by
  unfold CustomFieldState.enabledFields
  constructor
  · intro h
    obtain ⟨entry, hentry, rfl⟩ := List.mem_map.mp h
    obtain ⟨hmem, henabled⟩ := List.mem_filter.mp hentry
    exact ⟨entry.field, ⟨entry, hmem, henabled, rfl⟩, rfl⟩
  · rintro ⟨field, ⟨entry, hmem, henabled, rfl⟩, rfl⟩
    exact List.mem_map.mpr ⟨entry, List.mem_filter.mpr ⟨hmem, henabled⟩, rfl⟩

/-- **A DocType that resolves** has its own fields and the enabled custom fields. -/
theorem applyCustomFieldsToDocType_ok (h : applyCustomFieldsToDocType checks base state = .ok doctype) :
    state.doctype = base.name ∧ doctype.name = base.name ∧ doctype.naming = base.naming ∧
      doctype.fields = base.fields ++ state.enabledFields ∧ (doctype.fields.map (·.name)).Nodup ∧
      ∀ strategy, base.naming = some strategy → ∃ definition : DocTypeDefinition, definition.fields = doctype.fields ∧
        normalizeNamingStrategy checks.safeRegex definition strategy = .ok strategy := by
  obtain ⟨_, hname, h⟩ := except_bind_eq_ok h
  obtain ⟨_, -, h⟩ := except_bind_eq_ok h
  have hdefined := defineDocType_ok h
  refine ⟨by simpa using ensure_eq_ok hname, hdefined.name, hdefined.naming, hdefined.fields, hdefined.names, ?_⟩
  intro strategy hstrategy
  exact ⟨_, hdefined.fields.symm, hdefined.checked strategy hstrategy⟩

end
