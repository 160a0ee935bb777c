import CfFrappe.Application.NamingService

set_option autoImplicit false

/-! # What is said of a DocType at run time

Of all that a tenant's streams hold, the events about one DocType decide what becomes of it (`MetadataView`): which
custom fields it has, which overrides they get and which strategy names its documents. A DocType that resolves is made
of them (`MadeOf`).

A runtime strategy holds of a view if it is valid on the fields that the view knows, and if nothing overrides the flags
of its target (`NamingHolds`). Then it is valid on every DocType that the view resolves to (`NamingHolds.valid`), also
where the view does not resolve at the moment.
-/

open Utf

/-- The DocType that an event changes. -/
def changedDocType (event : MetadataEvent) : Option DocTypeName :=
  match event.payload with
  | .customFieldSaved doctypeName _ | .customFieldDisabled doctypeName _
  | .fieldPropertyOverrideSaved doctypeName _ _ | .fieldPropertyOverrideCleared doctypeName _
  | .namingStrategySaved doctypeName _ | .namingStrategyCleared doctypeName => some doctypeName
  | .metadataRevision _ => none

/-- The events about a DocType, in their order. -/
def ownEvents (doctype : DocTypeName) (events : List MetadataEvent) : List MetadataEvent :=
  events.filter (fun event => changedDocType event = some doctype)

/-- The events about one DocType, by the service that writes them. -/
structure MetadataView where
  customFields : List MetadataEvent
  properties : List MetadataEvent
  naming : List MetadataEvent

/-! ## Folds look at the events of their DocType -/

section

variable {tenantId : TenantId} {doctype : DocTypeName} {events : List MetadataEvent}

/-- A fold may leave out what changes nothing. -/
theorem foldl_filter_of_ignored {α β : Type} {f : β → α → β} {p : α → Bool} (h : ∀ b a, p a = false → f b a = b)
    (l : List α) (b : β) : (l.filter p).foldl f b = l.foldl f b := by
  rw [List.foldl_filter]
  congr
  funext b a
  cases hp : p a with
  | true => rfl
  | false => exact (h b a hp).symm

theorem customFieldEntriesOf_ownEvents :
    customFieldEntriesOf tenantId doctype (ownEvents doctype events) = customFieldEntriesOf tenantId doctype events := by
  apply foldl_filter_of_ignored
  intro entries event hother
  rw [decide_eq_false_iff_not] at hother
  apply applyCustomFieldEvent_of_ne
  · intro field hpayload
    exact hother (by rw [changedDocType, hpayload])
  · intro name hpayload
    exact hother (by rw [changedDocType, hpayload])

theorem fieldPropertyEntriesOf_ownEvents :
    fieldPropertyEntriesOf tenantId doctype (ownEvents doctype events) =
      fieldPropertyEntriesOf tenantId doctype events := by
  apply foldl_filter_of_ignored
  intro entries event hother
  rw [decide_eq_false_iff_not] at hother
  apply applyFieldPropertyOverrideEvent_of_ne
  · intro name overrides hpayload
    exact hother (by rw [changedDocType, hpayload])
  · intro name hpayload
    exact hother (by rw [changedDocType, hpayload])

/-- The runtime strategy that some events leave. -/
def strategyOf (doctype : DocTypeName) (events : List MetadataEvent) : Option NamingStrategy :=
  events.foldl (fun strategy event => (namingChange doctype event).getD strategy) none

theorem runtimeStrategyOf_eq (log : MetadataLog) :
    runtimeStrategyOf doctype log = strategyOf doctype (log.map Recorded.event) := by
  unfold runtimeStrategyOf strategyOf
  rw [List.foldl_map]

theorem strategyOf_ownEvents : strategyOf doctype (ownEvents doctype events) = strategyOf doctype events := by
  apply foldl_filter_of_ignored
  intro strategy event hother
  rw [decide_eq_false_iff_not] at hother
  have hnone : namingChange doctype event = none := by
    unfold namingChange
    split
    · rename_i name saved hpayload
      rw [if_neg]
      rintro rfl
      exact hother (by rw [changedDocType, hpayload])
    · rename_i name hpayload
      rw [if_neg]
      rintro rfl
      exact hother (by rw [changedDocType, hpayload])
    · rfl
  rw [hnone]
  rfl

theorem strategyOf_concat {event : MetadataEvent} :
    strategyOf doctype (events ++ [event]) = (namingChange doctype event).getD (strategyOf doctype events) := by
  unfold strategyOf
  rw [List.foldl_append]
  rfl

end

/-! ## The fields of a view -/

namespace MetadataView

variable (tenantId : TenantId) (base : DocTypeDefinition) (view : MetadataView)

/-- An enabled custom field. -/
def Enables (field : PersistedFieldDefinition) : Prop :=
  ∃ entry, Record.get (customFieldEntriesOf tenantId base.name view.customFields) field.name = some entry ∧
    entry.enabled = true ∧ entry.field = field

/-- The fields before they are overridden. -/
def Has (field : FieldDefinition) : Prop :=
  field ∈ base.fields ∨ ∃ custom, view.Enables tenantId base custom ∧ field = PersistedFieldDefinition.toField custom

def overrides (fieldName : JsString) : Option PersistedFieldOverrides :=
  (Record.get (fieldPropertyEntriesOf tenantId base.name view.properties) fieldName).map (·.overrides)

def strategy : Option NamingStrategy := strategyOf base.name view.naming

end MetadataView

/-- A DocType that is made of some fields, each with its overrides. Its own strategy has been checked. -/
structure MadeOf (checks : DocTypeChecks) (base : DocTypeDefinition) (has : FieldDefinition → Prop)
    (overrides : JsString → Option PersistedFieldOverrides) (doctype : DocTypeDefinition) : Prop where
  name : doctype.name = base.name
  naming : doctype.naming = base.naming
  fields : ∀ x, x ∈ doctype.fields ↔ ∃ y, has y ∧ x = applyOverridesToField y (overrides y.name)
  names : (doctype.fields.map (·.name)).Nodup
  checked : ∀ strategy, base.naming = some strategy → ∃ definition : DocTypeDefinition,
    definition.fields = doctype.fields ∧ normalizeNamingStrategy checks.safeRegex definition strategy = .ok strategy

/-! ## A strategy that holds -/

/-- The strategy is valid on a DocType whose fields are known, with the same types, and the known target may be written
by nobody else once it is overridden. -/
def NamingHolds (checks : DocTypeChecks) (has : FieldDefinition → Prop)
    (overrides : JsString → Option PersistedFieldOverrides) (strategy : NamingStrategy) : Prop :=
  ∃ doctype : DocTypeDefinition, normalizeNamingStrategy checks.safeRegex doctype strategy = .ok strategy ∧
    (∀ name field, doctype.field? name = some field → ∃ y, has y ∧ y.name = name ∧ y.type = field.type) ∧
    ∀ series name, strategy = .series series → series.targetField = some name → ∀ y, has y → y.name = name →
      (applyOverridesToField y (overrides y.name)).readOnly = true ∧
        (applyOverridesToField y (overrides y.name)).noCopy = true

section

variable {checks : DocTypeChecks} {base doctype : DocTypeDefinition} {has has' : FieldDefinition → Prop}
variable {overrides overrides' : JsString → Option PersistedFieldOverrides} {strategy : NamingStrategy}

theorem field?_eq_some_iff (hnames : (doctype.fields.map (·.name)).Nodup) {name : JsString} {field : FieldDefinition} :
    doctype.field? name = some field ↔ field ∈ doctype.fields ∧ field.name = name :=
  find?_key_iff hnames

/-- **A strategy that holds** is valid on every DocType that is made of the known fields. -/
theorem NamingHolds.valid (h : NamingHolds checks has overrides strategy)
    (hmade : MadeOf checks base has overrides doctype) :
    normalizeNamingStrategy checks.safeRegex doctype strategy = .ok strategy := by
  obtain ⟨valid, hvalid, htypes, htarget⟩ := h
  refine normalizeNamingStrategy_le ?_ ?_ _ hvalid
  · intro name field hfield
    obtain ⟨y, hy, hyname, hytype⟩ := htypes name field hfield
    refine ⟨applyOverridesToField y (overrides y.name), ?_, (applyOverridesToField_type _ _).trans hytype⟩
    rw [field?_eq_some_iff hmade.names, hmade.fields]
    exact ⟨⟨y, hy, rfl⟩, (applyOverridesToField_name _ _).trans hyname⟩
  · intro series name hseries hseriesTarget field field' _ hfield' _ _
    rw [field?_eq_some_iff hmade.names, hmade.fields] at hfield'
    obtain ⟨⟨y, hy, hsame⟩, hname'⟩ := hfield'
    have hyname : y.name = name := by
      rw [← hname', hsame]
      exact (applyOverridesToField_name _ _).symm
    rw [hsame]
    exact htarget series name hseries hseriesTarget y hy hyname

/-- A strategy that is valid on a DocType holds of what the DocType is made of. -/
theorem NamingHolds.of_valid (h : normalizeNamingStrategy checks.safeRegex doctype strategy = .ok strategy)
    (hmade : MadeOf checks base has overrides doctype) : NamingHolds checks has overrides strategy := by
  refine ⟨doctype, h, ?_, ?_⟩
  · intro name field hfield
    rw [field?_eq_some_iff hmade.names, hmade.fields] at hfield
    obtain ⟨⟨y, hy, hsame⟩, hfieldName⟩ := hfield
    refine ⟨y, hy, ?_, ?_⟩
    · rw [← hfieldName, hsame]
      exact (applyOverridesToField_name _ _).symm
    · rw [hsame]
      exact (applyOverridesToField_type _ _).symm
  · rintro series name rfl hseriesTarget y hy hyname
    obtain ⟨field, hfield, _, hreadOnly, hnoCopy⟩ := (normalizeNamingStrategy_series h).target name hseriesTarget
    have hsame : doctype.field? name = some (applyOverridesToField y (overrides y.name)) := by
      rw [field?_eq_some_iff hmade.names, hmade.fields]
      exact ⟨⟨y, hy, rfl⟩, (applyOverridesToField_name _ _).trans hyname⟩
    rw [hfield, Option.some.injEq] at hsame
    rw [← hsame]
    exact ⟨hreadOnly, hnoCopy⟩

/-- Only two flags of the overrides matter. -/
theorem NamingHolds.of_flags (h : NamingHolds checks has overrides strategy)
    (hflags : ∀ name, (overrides' name).bind (·.readOnly) = (overrides name).bind (·.readOnly) ∧
      (overrides' name).bind (·.noCopy) = (overrides name).bind (·.noCopy)) :
    NamingHolds checks has overrides' strategy := by
  obtain ⟨valid, hvalid, htypes, htarget⟩ := h
  refine ⟨valid, hvalid, htypes, ?_⟩
  intro series name hseries hseriesTarget y hy hyname
  obtain ⟨hreadOnly, hnoCopy⟩ := htarget series name hseries hseriesTarget y hy hyname
  rw [applyOverridesToField_readOnly] at hreadOnly ⊢
  rw [applyOverridesToField_noCopy] at hnoCopy ⊢
  rw [(hflags y.name).1, (hflags y.name).2]
  exact ⟨hreadOnly, hnoCopy⟩

/-- **Other custom fields.** A strategy that holds goes on holding if it is valid on the new fields without their
overrides: an override that would spoil its target would have spoilt it before. -/
theorem NamingHolds.extend (h : NamingHolds checks has overrides strategy)
    (hvalid : normalizeNamingStrategy checks.safeRegex doctype strategy = .ok strategy)
    (hmade : MadeOf checks base has' (fun _ => none) doctype) : NamingHolds checks has' overrides strategy := by
  obtain ⟨valid, hold, htypes, htarget⟩ := h
  have hbare := NamingHolds.of_valid hvalid hmade
  obtain ⟨valid', hvalid', htypes', htarget'⟩ := hbare
  refine ⟨valid', hvalid', htypes', ?_⟩
  rintro series name rfl hseriesTarget y hy hyname
  obtain ⟨hreadOnly, hnoCopy⟩ := htarget' series name rfl hseriesTarget y hy hyname
  -- the target was there before, and its overrides left its flags alone
  obtain ⟨field, hfield, _⟩ := (normalizeNamingStrategy_series hold).target name hseriesTarget
  obtain ⟨before, hbefore, hbeforeName, _⟩ := htypes name field hfield
  obtain ⟨hflag, hflag'⟩ := htarget series name rfl hseriesTarget before hbefore hbeforeName
  rw [applyOverridesToField_readOnly, hbeforeName] at hflag
  rw [applyOverridesToField_noCopy, hbeforeName] at hflag'
  rw [applyOverridesToField_readOnly, applyOverridesToField_noCopy, hyname]
  constructor
  · cases hoverride : (overrides name).bind (·.readOnly) with
    | none => exact hreadOnly
    | some value =>
      rw [hoverride] at hflag
      exact hflag
  · cases hoverride : (overrides name).bind (·.noCopy) with
    | none => exact hnoCopy
    | some value =>
      rw [hoverride] at hflag'
      exact hflag'

/-- The strategy of a DocType itself is valid where the DocType resolves. -/
theorem MadeOf.static_valid (h : MadeOf checks base has overrides doctype) (hnaming : base.naming = some strategy) :
    normalizeNamingStrategy checks.safeRegex doctype strategy = .ok strategy := by
  obtain ⟨definition, hfields, hvalid⟩ := h.checked strategy hnaming
  have hsame : ∀ name, definition.field? name = doctype.field? name := by
    intro name
    unfold DocTypeDefinition.field?
    rw [hfields]
  refine normalizeNamingStrategy_le ?_ ?_ _ hvalid
  · intro name field hfield
    exact ⟨field, (hsame name).symm.trans hfield, rfl⟩
  · intro series name _ _ field field' hfield hfield' hreadOnly hnoCopy
    rw [hsame name, hfield', Option.some.injEq] at hfield
    rw [hfield]
    exact ⟨hreadOnly, hnoCopy⟩

end

/-! ## DocTypes that resolve -/

section

variable {checks : DocTypeChecks} {base composed doctype : DocTypeDefinition} {tenantId : TenantId}

/-- With its custom fields. -/
theorem madeOf_customFields {state : CustomFieldState} {has : FieldDefinition → Prop}
    (hfields : ∀ x, (x ∈ base.fields ∨ ∃ custom, state.Enables custom ∧ x = PersistedFieldDefinition.toField custom) ↔ has x)
    (h : applyCustomFieldsToDocType checks base state = .ok doctype) :
    MadeOf checks base has (fun _ => none) doctype := by
  obtain ⟨_, hname, hnaming, hin, hnames, hchecked⟩ := applyCustomFieldsToDocType_ok h
  refine ⟨hname, hnaming, ?_, hnames, hchecked⟩
  intro x
  rw [hin, List.mem_append, mem_enabledFields, hfields]
  constructor
  · exact fun hx => ⟨x, hx, rfl⟩
  · rintro ⟨y, hy, rfl⟩
    exact hy

/-- With the overrides of its fields. -/
theorem madeOf_properties {state : FieldPropertyOverrideState} {has : FieldDefinition → Prop}
    {overrides : JsString → Option PersistedFieldOverrides} (hmade : MadeOf checks base has (fun _ => none) composed)
    (hoverrides : ∀ name, state.overridesOf name = overrides name)
    (h : applyFieldPropertyOverridesToDocType checks composed state = .ok doctype) :
    MadeOf checks base has overrides doctype := by
  have hchecked : ∀ strategy, composed.naming = some strategy → ∃ definition : DocTypeDefinition,
      definition.fields = composed.fields ∧ normalizeNamingStrategy checks.safeRegex definition strategy = .ok strategy := by
    intro strategy hstrategy
    rw [hmade.naming] at hstrategy
    exact hmade.checked strategy hstrategy
  obtain ⟨hname, hnaming, hfields, hnames, hchecked'⟩ := applyFieldPropertyOverridesToDocType_ok hmade.names hchecked h
  refine ⟨hname.trans hmade.name, hnaming.trans hmade.naming, ?_, hnames, ?_⟩
  · intro x
    rw [hfields, List.mem_map]
    have hoverride : ∀ y, state.override y = applyOverridesToField y (overrides y.name) := by
      intro y
      rw [FieldPropertyOverrideState.override, hoverrides]
    constructor
    · rintro ⟨y, hy, rfl⟩
      obtain ⟨y', hhas, hsame⟩ := (hmade.fields y).mp hy
      have heq : y = y' := hsame
      rw [heq]
      exact ⟨y', hhas, hoverride y'⟩
    · rintro ⟨y, hhas, rfl⟩
      exact ⟨y, (hmade.fields y).mpr ⟨y, hhas, rfl⟩, hoverride y⟩
  · intro strategy hstrategy
    rw [← hmade.naming] at hstrategy
    exact hchecked' strategy hstrategy

end
