import CfFrappe.Application.CustomFieldService

set_option autoImplicit false

/-! # Nested tables

Table fields make a graph of DocTypes, of the static fields and of the enabled custom ones. A save checks what its own
DocType reaches in the states that it has read, with the field that it saves. The new edges are all edges of this
DocType, so with its event in the catalogue the whole graph is still acyclic (`tables_saved_acyclic`).
-/

open Utf CustomFieldPolicy

/-- The DocType of the rows of a table field. -/
def tableTarget (field : PersistedFieldDefinition) : Option DocTypeName :=
  if field.type = .table then nonEmptyText field.tableOf else none

/-- A static field makes an edge. -/
def StaticTable (doctypes : List DocTypeDefinition) (a b : DocTypeName) : Prop :=
  ∃ doctype ∈ doctypes, doctype.name = a ∧ ∃ field ∈ doctype.fields, field.type = .table ∧
    nonEmptyText field.tableOf = some b

/-- **The edges of the graph**: static fields, and enabled fields of the states. -/
theorem tableGraph_edge_iff {doctypes : List DocTypeDefinition} {states : List CustomFieldState}
    {blame : Option JsString} {a b : DocTypeName} :
    (tableGraph (customFieldTableGraph doctypes states) blame).Edge a b ↔
      StaticTable doctypes a b ∨
        ∃ state ∈ states, state.doctype = a ∧ ∃ field, state.Enables field ∧ tableTarget field = some b := by
  unfold PathSearch.Graph.Edge
  show (∃ edge ∈ customFieldTableGraph doctypes states, edge.source = a ∧ edge.target = b) ↔ _
  constructor
  · rintro ⟨edge, hedge, hsource, htarget⟩
    rcases List.mem_append.mp hedge with hstatic | hcustom
    · left
      -- an edge of a declared field
      obtain ⟨doctype, hdoctype, hin⟩ := List.mem_flatMap.mp hstatic
      obtain ⟨field, hfield, hmade⟩ := List.mem_filterMap.mp hin
      split_ifs at hmade with htable
      obtain ⟨target, hof, heq⟩ := Option.map_eq_some_iff.mp hmade
      rw [← heq] at hsource htarget
      exact ⟨doctype, hdoctype, hsource, field, hfield, htable, by rw [hof]; exact congrArg some htarget⟩
    · right
      obtain ⟨state, hstate, hin⟩ := List.mem_flatMap.mp hcustom
      obtain ⟨entry, hentry, hmade⟩ := List.mem_filterMap.mp hin
      split_ifs at hmade with htable
      obtain ⟨target, hof, heq⟩ := Option.map_eq_some_iff.mp hmade
      rw [← heq] at hsource htarget
      refine ⟨state, hstate, hsource, entry.field, ⟨entry, hentry, htable.1, rfl⟩, ?_⟩
      rw [tableTarget, if_pos htable.2, hof]
      exact congrArg some htarget
  · rintro (⟨doctype, hdoctype, rfl, field, hfield, htable, hof⟩ | ⟨state, hstate, rfl, field, henables, htarget⟩)
    · refine ⟨⟨doctype.name, b, field.name, false⟩, List.mem_append_left _ (List.mem_flatMap.mpr ⟨doctype, hdoctype, ?_⟩),
        rfl, rfl⟩
      refine List.mem_filterMap.mpr ⟨field, hfield, ?_⟩
      rw [if_pos htable, hof]
      rfl
    · obtain ⟨entry, hentry, henabled, rfl⟩ := henables
      unfold tableTarget at htarget
      split_ifs at htarget with htable
      refine ⟨⟨state.doctype, b, entry.field.name, true⟩,
        List.mem_append_right _ (List.mem_flatMap.mpr ⟨state, hstate, ?_⟩), rfl, rfl⟩
      refine List.mem_filterMap.mpr ⟨entry, hentry, ?_⟩
      rw [if_pos ⟨henabled, htable⟩, htarget]
      rfl

/-- **The check**: it passes exactly if no cycle can be reached. -/
theorem assertCustomTableGraphAcyclicFrom_iff (root : DocTypeName) (doctypes : List DocTypeDefinition)
    (states : List CustomFieldState) (blame : Option JsString) :
    assertCustomTableGraphAcyclicFrom root doctypes states blame = .ok () ↔
      ¬ (tableGraph (customFieldTableGraph doctypes states) blame).ReachesCycle root := by
  rw [← PathSearch.search_isOk_iff]
  unfold assertCustomTableGraphAcyclicFrom
  cases (tableGraph (customFieldTableGraph doctypes states) blame).search root with
  | ok visited => exact iff_of_true rfl rfl
  | error e =>
    apply iff_of_false
    · intro h
      cases h
    · simp [Except.isOk, Except.toBool]

namespace CustomFieldService

variable {options : Options} {tenantId : TenantId}

/-! ## The graph of a catalogue -/

/-- What is read of a catalogue, where older versions have written nothing. -/
def readOf (log : MetadataLog) : CustomFieldEventSet := { catalog := log, legacy := [], catalogVersion := log.length }

/-- The graph of the static fields and of the enabled custom fields of a catalogue. -/
def tables (options : Options) (tenantId : TenantId) (log : MetadataLog) :
    PathSearch.Graph DocTypeName TableGraphEdge FrameworkError :=
  tableGraph (customFieldTableGraph options.registry.doctypes (statesFromEvents options tenantId (readOf log))) none

/-- The catalogue has this field of a DocType, and it is enabled. -/
def EnabledIn (tenantId : TenantId) (doctype : DocTypeName) (log : MetadataLog) (field : PersistedFieldDefinition) : Prop :=
  ∃ entry, Record.get (customFieldEntriesOf tenantId doctype (log.map Recorded.event)) field.name = some entry ∧
    entry.enabled = true ∧ entry.field = field

theorem enables_stateFromEvents {doctype : DocTypeName} {log : MetadataLog} {field : PersistedFieldDefinition} :
    (stateFromEvents options tenantId doctype (readOf log)).Enables field ↔ EnabledIn tenantId doctype log field := by
  have hfold : (stateFromEvents options tenantId doctype (readOf log)).Enables field ↔
      (foldCustomFields options.localeCompare tenantId doctype (resequenceCustomFieldEventsForFold log)).Enables field :=
    Iff.rfl
  have hevents : (sortRecorded (resequenceCustomFieldEventsForFold log)).map Recorded.event = log.map Recorded.event := by
    unfold resequenceCustomFieldEventsForFold
    rw [(numbered_recorded 0 _).sorted, recorded_map_event]
  rw [hfold, enables_foldCustomFields, hevents]
  rfl

theorem tables_edge_iff {log : MetadataLog} {a b : DocTypeName} :
    (tables options tenantId log).Edge a b ↔
      StaticTable options.registry.doctypes a b ∨
        (∃ doctype ∈ options.registry.doctypes, doctype.name = a) ∧
          ∃ field, EnabledIn tenantId a log field ∧ tableTarget field = some b := by
  unfold tables
  rw [tableGraph_edge_iff]
  apply or_congr_right
  constructor
  · rintro ⟨state, hstate, rfl, field, henables, htarget⟩
    obtain ⟨doctype, hdoctype, rfl⟩ := List.mem_map.mp hstate
    exact ⟨⟨doctype, hdoctype, rfl⟩, field, enables_stateFromEvents.mp henables, htarget⟩
  · rintro ⟨⟨doctype, hdoctype, rfl⟩, field, henabled, htarget⟩
    exact ⟨_, List.mem_map_of_mem hdoctype, rfl, field, enables_stateFromEvents.mpr henabled, htarget⟩

/-! ## One more event -/

section Events

variable {log : MetadataLog} {doctype : DocTypeName} {sequence : Nat} {occurredAt : Timestamp}

theorem enabledIn_saved {saved field : PersistedFieldDefinition} :
    EnabledIn tenantId doctype (log ++ [⟨sequence, { payload := .customFieldSaved doctype saved, occurredAt }⟩]) field ↔
      field = saved ∨ field.name ≠ saved.name ∧ EnabledIn tenantId doctype log field := by
  unfold EnabledIn
  rw [List.map_append, List.map_singleton, customFieldEntriesOf_concat]
  exact enabled_applyCustomFieldEvent_saved rfl

theorem enabledIn_disabled {disabled : JsString} {field : PersistedFieldDefinition} :
    EnabledIn tenantId doctype (log ++ [⟨sequence, { payload := .customFieldDisabled doctype disabled, occurredAt }⟩])
        field ↔
      field.name ≠ disabled ∧ EnabledIn tenantId doctype log field := by
  unfold EnabledIn
  rw [List.map_append, List.map_singleton, customFieldEntriesOf_concat]
  exact enabled_applyCustomFieldEvent_disabled rfl

/-- An event of another DocType. -/
theorem enabledIn_other {other : DocTypeName} (hne : other ≠ doctype) {event : MetadataEvent}
    (hevent : customFieldDocType event = some other) {field : PersistedFieldDefinition} :
    EnabledIn tenantId doctype (log ++ [⟨sequence, event⟩]) field ↔ EnabledIn tenantId doctype log field := by
  unfold EnabledIn
  rw [List.map_append, List.map_singleton, customFieldEntriesOf_concat, applyCustomFieldEvent_of_ne]
  · intro saved hpayload
    rw [customFieldDocType, hpayload] at hevent
    exact hne (Option.some.inj hevent).symm
  · intro name hpayload
    rw [customFieldDocType, hpayload] at hevent
    exact hne (Option.some.inj hevent).symm

/-- **Disabling a field** only takes an edge away. -/
theorem tables_disabled_acyclic (h : (tables options tenantId log).Acyclic) (disabled : JsString) :
    (tables options tenantId
      (log ++ [⟨sequence, { payload := .customFieldDisabled doctype disabled, occurredAt }⟩])).Acyclic := by
  apply h.of_edges
  intro a b hedge
  rw [tables_edge_iff] at hedge ⊢
  apply hedge.imp_right
  rintro ⟨ha, field, henabled, htarget⟩
  refine ⟨ha, field, ?_, htarget⟩
  by_cases hdoctype : doctype = a
  · subst hdoctype
    exact (enabledIn_disabled.mp henabled).2
  · exact (enabledIn_other hdoctype rfl).mp henabled

/-- **Saving a field** whose DocType reaches no cycle with it. -/
theorem tables_saved_acyclic (h : (tables options tenantId log).Acyclic) {saved : PersistedFieldDefinition}
    {now : Timestamp} {blame : Option JsString}
    (hcheck : assertCustomTableGraphAcyclicFrom doctype options.registry.doctypes
      (projectPendingCustomFieldState tenantId (statesFromEvents options tenantId (readOf log)) doctype saved now)
        blame = .ok ()) :
    (tables options tenantId
      (log ++ [⟨sequence, { payload := .customFieldSaved doctype saved, occurredAt }⟩])).Acyclic := by
  rw [assertCustomTableGraphAcyclicFrom_iff] at hcheck
  -- with the pending field there are new edges of its DocType only
  have hpending : (tableGraph (customFieldTableGraph options.registry.doctypes
      (projectPendingCustomFieldState tenantId (statesFromEvents options tenantId (readOf log)) doctype saved now))
        blame).Acyclic := by
    apply PathSearch.Graph.acyclic_of_edges_from h _ hcheck
    intro a b hedge
    rw [tableGraph_edge_iff] at hedge
    rcases hedge with hstatic | ⟨state, hstate, rfl, field, henables, htarget⟩
    · exact Or.inl (tables_edge_iff.mpr (Or.inl hstatic))
    · obtain ⟨old, hold, heq⟩ := List.mem_map.mp hstate
      obtain ⟨definition, hdefinition, rfl⟩ := List.mem_map.mp hold
      split_ifs at heq with hname
      · right
        rw [← heq]
        exact hname
      · left
        rw [← heq] at henables ⊢
        exact tables_edge_iff.mpr
          (Or.inr ⟨⟨definition, hdefinition, rfl⟩, field, enables_stateFromEvents.mp henables, htarget⟩)
  apply hpending.of_edges
  intro a b hedge
  rw [tables_edge_iff] at hedge
  rw [tableGraph_edge_iff]
  apply hedge.imp_right
  rintro ⟨⟨definition, hdefinition, rfl⟩, field, henabled, htarget⟩
  have hmem : stateFromEvents options tenantId definition.name (readOf log) ∈
      statesFromEvents options tenantId (readOf log) := List.mem_map_of_mem hdefinition
  refine ⟨_, List.mem_map_of_mem hmem, ?_, field, ?_, htarget⟩
  · split_ifs <;> rfl
  · have hname : (stateFromEvents options tenantId definition.name (readOf log)).doctype = definition.name := rfl
    by_cases hdoctype : definition.name = doctype
    · subst hdoctype
      rw [if_pos hname, enables_projectPendingState, enables_stateFromEvents]
      exact enabledIn_saved.mp henabled
    · rw [if_neg (fun heq => hdoctype (hname.symm.trans heq)), enables_stateFromEvents]
      exact (enabledIn_other (fun heq => hdoctype heq.symm) rfl).mp henabled

end Events

end CustomFieldService
