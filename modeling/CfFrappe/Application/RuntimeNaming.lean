import CfFrappe.Application.MetadataViews

set_option autoImplicit false

/-! # Metadata edits never invalidate runtime naming

Three services check a change against different parts of a DocType and write different streams. What they have in common
is the revision of the DocType: every change advances it, and every command reads it first. So a command whose batch is
accepted has seen all that was ever changed about its DocType (`Seen`), and the runtime strategy goes on holding of what
the custom fields and the overrides make of it (`MetadataOK`).
-/

open Utf

/-- What is started on the store. -/
inductive MetadataCommand
  | saveField (command : SaveCustomFieldCommand)
  | disableField (command : DisableCustomFieldCommand)
  | saveProperty (command : SaveFieldPropertyOverrideCommand)
  | clearProperty (command : ClearFieldPropertyOverrideCommand)
  | saveNaming (command : SaveNamingStrategyCommand)
  | clearNaming (command : ClearNamingStrategyCommand)

/-- The command, without its result. -/
def MetadataCommand.start (options : NamingService.Options) : MetadataCommand → MetadataProgram Unit
  | .saveField command => do
      let _ ← CustomFieldService.saveField options.fieldProperties.customFields command
      return ()
  | .disableField command => do
      let _ ← CustomFieldService.disableField options.fieldProperties.customFields command
      return ()
  | .saveProperty command => do
      let _ ← FieldPropertyService.save options.fieldProperties command
      return ()
  | .clearProperty command => do
      let _ ← FieldPropertyService.clear options.fieldProperties command
      return ()
  | .saveNaming command => do
      let _ ← NamingService.save options command
      return ()
  | .clearNaming command => do
      let _ ← NamingService.clear options command
      return ()

namespace RuntimeNaming

/-! ## The streams of a DocType -/

/-- The service that an event is of. -/
inductive Source
  | customFields
  | properties
  | naming
  deriving DecidableEq

structure Streams where
  catalog : StreamName
  overrides : StreamName
  naming : StreamName
  revision : StreamName

def Streams.source (streams : Streams) : Source → StreamName
  | .customFields => streams.catalog
  | .properties => streams.overrides
  | .naming => streams.naming

/-- The second part of the name of a stream. -/
def Source.kind : Source → JsString
  | .customFields => js "__CustomFields"
  | .properties => js "__FieldProperties"
  | .naming => js "__NamingConfiguration"

/-- The names of the streams. -/
structure Named (tenantId : TenantId) (doctype : DocTypeName) (streams : Streams) : Prop where
  catalog : customFieldsCatalogStream tenantId = some streams.catalog
  overrides : fieldPropertyOverridesStream tenantId = some streams.overrides
  naming : namingConfigurationStream tenantId doctype = some streams.naming
  revision : metadataRevisionStream tenantId doctype = some streams.revision

section Names

variable {tenantId tenantId' : TenantId} {doctype doctype' : DocTypeName} {streams streams' : Streams}

/-- A DocType that has a revision has the other streams. -/
theorem exists_named {revision : StreamName} (h : metadataRevisionStream tenantId doctype = some revision) :
    ∃ streams, Named tenantId doctype streams ∧ streams.revision = revision := by
  have hparts : ∃ tenant name, escapePart tenantId = some tenant ∧ escapePart doctype = some name := by
    unfold metadataRevisionStream documentStream at h
    simp only [Option.bind_eq_bind, Option.bind_eq_some_iff] at h
    obtain ⟨tenant, htenant, _, _, name, hname, _⟩ := h
    exact ⟨tenant, name, htenant, hname⟩
  obtain ⟨tenant, name, htenant, hname⟩ := hparts
  have hstream : ∀ kind part escapedKind escapedPart, escapePart kind = some escapedKind →
      escapePart part = some escapedPart → ∃ stream, documentStream tenantId kind part = some stream := by
    intro kind part escapedKind escapedPart hkind hpart
    unfold documentStream
    rw [htenant, hkind, hpart]
    exact ⟨_, rfl⟩
  obtain ⟨catalog, hcatalog⟩ := hstream (js "__CustomFields") (js "__catalog") _ _ rfl rfl
  obtain ⟨overrides, hoverrides⟩ := hstream (js "__FieldProperties") (js "overrides") _ _ rfl rfl
  obtain ⟨naming, hnaming⟩ := hstream (js "__NamingConfiguration") doctype _ name rfl hname
  exact ⟨⟨catalog, overrides, naming, revision⟩, ⟨hcatalog, hoverrides, hnaming, h⟩, rfl⟩

theorem Named.stream (h : Named tenantId doctype streams) (source : Source) :
    ∃ part, documentStream tenantId source.kind part = some (streams.source source) := by
  cases source with
  | customFields => exact ⟨_, h.catalog⟩
  | properties => exact ⟨_, h.overrides⟩
  | naming => exact ⟨_, h.naming⟩

/-- What a service writes of a tenant is its own. -/
theorem Named.source_injective (h : Named tenantId doctype streams) (h' : Named tenantId' doctype' streams')
    {source source' : Source} (heq : streams.source source = streams'.source source') :
    tenantId = tenantId' ∧ source = source' := by
  obtain ⟨part, hstream⟩ := h.stream source
  obtain ⟨part', hstream'⟩ := h'.stream source'
  rw [heq] at hstream
  have hparts := StreamRef.documentStream_injective hstream hstream'
  simp only [Prod.mk.injEq] at hparts
  refine ⟨hparts.1, ?_⟩
  have hkind := hparts.2.1
  cases source <;> cases source' <;> first | rfl | exact absurd hkind (by decide +kernel)

theorem Named.source_ne_revision (h : Named tenantId doctype streams) {revision : StreamName}
    (hrevision : metadataRevisionStream tenantId' doctype' = some revision) (source : Source) :
    streams.source source ≠ revision := by
  rintro rfl
  obtain ⟨part, hstream⟩ := h.stream source
  have hparts := StreamRef.documentStream_injective hstream hrevision
  simp only [Prod.mk.injEq] at hparts
  have hkind := hparts.2.1
  cases source <;> exact absurd hkind (by decide +kernel)

theorem Named.revision_injective (h : Named tenantId doctype streams) (h' : Named tenantId' doctype' streams')
    (heq : streams.revision = streams'.revision) : tenantId = tenantId' ∧ doctype = doctype' := by
  have hrevision := h.revision
  rw [heq] at hrevision
  have hparts := StreamRef.documentStream_injective hrevision h'.revision
  simp only [Prod.mk.injEq] at hparts
  exact ⟨hparts.1, hparts.2.2⟩

theorem Named.unique (h : Named tenantId doctype streams) (h' : Named tenantId doctype streams') : streams = streams' := by
  have hcatalog := h.catalog.symm.trans h'.catalog
  have hoverrides := h.overrides.symm.trans h'.overrides
  have hnaming := h.naming.symm.trans h'.naming
  have hrevision := h.revision.symm.trans h'.revision
  cases streams
  cases streams'
  simp only [Option.some.injEq] at hcatalog hoverrides hnaming hrevision
  rw [hcatalog, hoverrides, hnaming, hrevision]

/-- The streams of older versions are not written. -/
theorem Named.source_ne_legacy (h : Named tenantId doctype streams) {registry : ModelRegistry}
    {definition : DocTypeDefinition} (hdefinition : definition ∈ registry.doctypes) {legacy : StreamName}
    (hlegacy : customFieldsStream tenantId' definition.name = some legacy) (source : Source) :
    legacy ≠ streams.source source := by
  rintro rfl
  cases source with
  | customFields =>
    have hparts := StreamRef.documentStream_injective hlegacy h.catalog
    simp only [Prod.mk.injEq] at hparts
    have hname := registry.identifiers definition hdefinition
    rw [hparts.2.2] at hname
    exact absurd hname (by decide)
  | properties =>
    have hparts := StreamRef.documentStream_injective hlegacy h.overrides
    simp only [Prod.mk.injEq] at hparts
    exact absurd hparts.2.1 (by decide +kernel)
  | naming =>
    have hparts := StreamRef.documentStream_injective hlegacy h.naming
    simp only [Prod.mk.injEq] at hparts
    exact absurd hparts.2.1 (by decide +kernel)

theorem Named.legacy_ne_revision {legacy revision : StreamName} (hlegacy : customFieldsStream tenantId doctype = some legacy)
    (hrevision : metadataRevisionStream tenantId' doctype' = some revision) : legacy ≠ revision := by
  rintro rfl
  have hparts := StreamRef.documentStream_injective hlegacy hrevision
  simp only [Prod.mk.injEq] at hparts
  exact absurd hparts.2.1 (by decide +kernel)

end Names

/-! ## What a command has seen -/

/-- The events of a service about the DocType. -/
def ownOf (doctype : DocTypeName) (streams : Streams) (logs : MetadataStore) (source : Source) : List MetadataEvent :=
  ownEvents doctype ((logs (streams.source source)).map Recorded.event)

/-- How many events there are about the DocType. -/
def ownCount (doctype : DocTypeName) (streams : Streams) (logs : MetadataStore) : Nat :=
  (ownOf doctype streams logs .customFields).length + (ownOf doctype streams logs .properties).length +
    (ownOf doctype streams logs .naming).length

/-- All that is said of the DocType; older versions have written some of its custom fields. -/
def viewOf (legacy : MetadataLog) (doctype : DocTypeName) (streams : Streams) (logs : MetadataStore) : MetadataView where
  customFields := ownEvents doctype (legacy.map Recorded.event) ++ ownOf doctype streams logs .customFields
  properties := ownOf doctype streams logs .properties
  naming := ownOf doctype streams logs .naming

/-- **What a command that has read the revision knows**: if there is no change of the DocType since, the view is as it
was seen. -/
def Seen (legacy : MetadataLog) (doctype : DocTypeName) (streams : Streams) (revision : Nat) (P : MetadataView → Prop)
    (logs : MetadataStore) : Prop :=
  revision ≤ ownCount doctype streams logs ∧
    (ownCount doctype streams logs = revision → P (viewOf legacy doctype streams logs))

section Seen

variable {legacy : MetadataLog} {doctype : DocTypeName} {streams : Streams} {revision : Nat}
variable {P P' : MetadataView → Prop} {logs logs' : MetadataStore}

theorem ownOf_later (h : logs.Later logs') (source : Source) :
    ownOf doctype streams logs source <+: ownOf doctype streams logs' source :=
  ((h (streams.source source)).map Recorded.event).filter _

theorem ownCount_le (h : logs.Later logs') : ownCount doctype streams logs ≤ ownCount doctype streams logs' := by
  have hfields := (@ownOf_later doctype streams logs logs' h .customFields).length_le
  have hproperties := (@ownOf_later doctype streams logs logs' h .properties).length_le
  have hnaming := (@ownOf_later doctype streams logs logs' h .naming).length_le
  unfold ownCount
  omega

/-- No new events, the same view. -/
theorem viewOf_eq (h : logs.Later logs') (hcount : ownCount doctype streams logs' = ownCount doctype streams logs) :
    viewOf legacy doctype streams logs' = viewOf legacy doctype streams logs := by
  have hgrown : ∀ source, ownOf doctype streams logs source <+: ownOf doctype streams logs' source := ownOf_later h
  have hfields := (hgrown .customFields).length_le
  have hproperties := (hgrown .properties).length_le
  have hnaming := (hgrown .naming).length_le
  have hlengths : ∀ source, (ownOf doctype streams logs source).length = (ownOf doctype streams logs' source).length := by
    unfold ownCount at hcount
    intro source
    cases source <;> omega
  have hsame : ∀ source, ownOf doctype streams logs' source = ownOf doctype streams logs source :=
    fun source => ((hgrown source).eq_of_length (hlengths source)).symm
  unfold viewOf
  rw [hsame .customFields, hsame .properties, hsame .naming]

theorem Seen.later (h : Seen legacy doctype streams revision P logs) (hlater : logs.Later logs') :
    Seen legacy doctype streams revision P logs' := by
  have hle := @ownCount_le doctype streams logs logs' hlater
  refine ⟨h.1.trans hle, ?_⟩
  intro hcount
  have hsame : ownCount doctype streams logs' = ownCount doctype streams logs := by
    have hrevision := h.1
    omega
  rw [viewOf_eq hlater hsame]
  exact h.2 (hsame.symm.trans hcount)

theorem Seen.and (h : Seen legacy doctype streams revision P logs) (h' : Seen legacy doctype streams revision P' logs) :
    Seen legacy doctype streams revision (fun view => P view ∧ P' view) logs :=
  ⟨h.1, fun hcount => ⟨h.2 hcount, h'.2 hcount⟩⟩

theorem Seen.mono (h : Seen legacy doctype streams revision P logs) (hP : ∀ view, P view → P' view) :
    Seen legacy doctype streams revision P' logs :=
  ⟨h.1, fun hcount => hP _ (h.2 hcount)⟩

theorem Seen.now (hrevision : revision ≤ ownCount doctype streams logs) (h : P (viewOf legacy doctype streams logs)) :
    Seen legacy doctype streams revision P logs :=
  ⟨hrevision, fun _ => h⟩

end Seen

/-! ## States are read off the events -/

section States

variable {tenantId : TenantId} {doctype : DocTypeName} {log : MetadataLog}

/-- Events of other services are no custom fields. -/
theorem customFieldEntriesOf_filter (events : List MetadataEvent) :
    customFieldEntriesOf tenantId doctype (events.filter isCustomFieldEvent) =
      customFieldEntriesOf tenantId doctype events := by
  apply foldl_filter_of_ignored
  intro entries event hother
  apply applyCustomFieldEvent_of_ne
  · intro field hpayload
    rw [isCustomFieldEvent, hpayload] at hother
    cases hother
  · intro name hpayload
    rw [isCustomFieldEvent, hpayload] at hother
    cases hother

theorem fieldPropertyEntriesOf_filter (events : List MetadataEvent) :
    fieldPropertyEntriesOf tenantId doctype (events.filter isFieldPropertyOverrideEvent) =
      fieldPropertyEntriesOf tenantId doctype events := by
  apply foldl_filter_of_ignored
  intro entries event hother
  apply applyFieldPropertyOverrideEvent_of_ne
  · intro name overrides hpayload
    rw [isFieldPropertyOverrideEvent, hpayload] at hother
    cases hother
  · intro name hpayload
    rw [isFieldPropertyOverrideEvent, hpayload] at hother
    cases hother

theorem map_event_filter {p : MetadataEvent → Bool} :
    (log.filter (fun event => p event.event)).map Recorded.event = (log.map Recorded.event).filter p := by
  rw [List.filter_map]
  rfl

/-- The events that older versions have written about a DocType. -/
def legacyOf (doctype : DocTypeName) (legacy : MetadataLog) : MetadataLog :=
  legacy.filter (fun event => customFieldDocType event.event == some doctype)

theorem enables_stateFromEvents {options : CustomFieldService.Options} {events : CustomFieldEventSet}
    (hcatalog : events.catalog = CustomFieldService.customFieldEvents log) {base : DocTypeDefinition} {view : MetadataView}
    (hview : view.customFields = ownEvents base.name ((legacyOf base.name events.legacy ++ log).map Recorded.event))
    {field : PersistedFieldDefinition} :
    (CustomFieldService.stateFromEvents options tenantId base.name events).Enables field ↔
      view.Enables tenantId base field := by
  have hfold : (CustomFieldService.stateFromEvents options tenantId base.name events).Enables field ↔
      (foldCustomFields options.localeCompare tenantId base.name
        (CustomFieldPolicy.resequenceCustomFieldEventsForFold (legacyOf base.name events.legacy ++ events.catalog))).Enables
          field := Iff.rfl
  have hlegacy : ∀ event ∈ legacyOf base.name events.legacy, isCustomFieldEvent event.event = true := by
    intro event hevent
    have hdoctype := (List.mem_filter.mp hevent).2
    unfold customFieldDocType at hdoctype
    unfold isCustomFieldEvent
    cases hpayload : event.event.payload <;> rw [hpayload] at hdoctype <;> first | rfl | cases hdoctype
  have hevents : legacyOf base.name events.legacy ++ events.catalog =
      (legacyOf base.name events.legacy ++ log).filter (fun event => isCustomFieldEvent event.event) := by
    rw [List.filter_append, List.filter_eq_self.mpr hlegacy, hcatalog]
    rfl
  rw [hfold, enables_foldCustomFields, CustomFieldPolicy.resequenceCustomFieldEventsForFold,
    (numbered_recorded 0 _).sorted, recorded_map_event, hevents, map_event_filter, customFieldEntriesOf_filter,
    MetadataView.Enables, hview, customFieldEntriesOf_ownEvents]

theorem overridesOf_stateFor {localeCompare : JsString → JsString → Ordering} (hnumbered : Numbered 0 log)
    {base : DocTypeDefinition} {view : MetadataView}
    (hview : view.properties = ownEvents base.name (log.map Recorded.event)) (name : JsString) :
    (foldFieldPropertyOverrides localeCompare tenantId base.name
      (log.filter (fun event => isFieldPropertyOverrideEvent event.event))).overridesOf name =
        view.overrides tenantId base name := by
  rw [overridesOf_foldFieldPropertyOverrides, hnumbered.sorted_filter, map_event_filter, fieldPropertyEntriesOf_filter,
    MetadataView.overrides, hview, fieldPropertyEntriesOf_ownEvents]

theorem runtimeStrategy_stateFor (hnumbered : Numbered 0 log) {base composed : DocTypeDefinition}
    (hname : composed.name = base.name) {view : MetadataView}
    (hview : view.naming = ownEvents base.name (log.map Recorded.event)) :
    (foldNamingConfiguration tenantId composed log).runtimeStrategy = view.strategy base := by
  show runtimeStrategyOf composed.name (sortRecorded log) = _
  rw [hnumbered.sorted, runtimeStrategyOf_eq, hname, MetadataView.strategy, hview, strategyOf_ownEvents]

end States

/-! ## The invariant -/

/-- The view with one more event of a service. -/
def addEvent (view : MetadataView) (event : MetadataEvent) : Source → MetadataView
  | .customFields => { view with customFields := view.customFields ++ [event] }
  | .properties => { view with properties := view.properties ++ [event] }
  | .naming => { view with naming := view.naming ++ [event] }

/-- The runtime strategy, if there is one, holds of the fields and the overrides of the view. -/
def Holds (checks : DocTypeChecks) (tenantId : TenantId) (base : DocTypeDefinition) (view : MetadataView) : Prop :=
  ∀ strategy, view.strategy base = some strategy →
    NamingHolds checks (view.Has tenantId base) (view.overrides tenantId base) strategy

section Invariant

variable (options : NamingService.Options) (init : MetadataStore)

/-- What older versions have written of a tenant, as the service reads it. -/
def legacyLogs (tenantId : TenantId) (doctypes : List DocTypeDefinition) : MetadataLog :=
  doctypes.flatMap (fun definition => ((customFieldsStream tenantId definition.name).map
    (fun stream => CustomFieldService.customFieldEvents (init stream))).getD [])

/-- The view of a DocType of the application. -/
def registeredView (tenantId : TenantId) (base : DocTypeDefinition) (streams : Streams) (logs : MetadataStore) :
    MetadataView :=
  viewOf (legacyOf base.name (legacyLogs init tenantId options.registry.doctypes)) base.name streams logs

/-- **The invariant**: the revision of a DocType counts its changes, and its runtime strategy holds. -/
structure MetadataOK (logs : MetadataStore) : Prop where
  numbered : ∀ stream, Numbered 0 (logs stream)
  legacy : ∀ tenantId, ∀ definition ∈ options.registry.doctypes, ∀ stream,
    customFieldsStream tenantId definition.name = some stream → logs stream = init stream
  counted : ∀ tenantId doctype streams, Named tenantId doctype streams →
    ownCount doctype streams logs = (logs streams.revision).length
  holds : ∀ tenantId streams, ∀ base ∈ options.registry.doctypes, Named tenantId base.name streams →
    Holds options.checks tenantId base (registeredView options init tenantId base streams logs)

variable {options init}
variable {tenantId tenantId' : TenantId} {doctype doctype' : DocTypeName} {streams streams' : Streams}
variable (logs : MetadataStore) {input : MetadataMutation} {source : Source}

/-- **What a mutation adds** to the events of a DocType. -/
theorem ownOf_pushAll (hnamed : Named tenantId doctype streams) (hnamed' : Named tenantId' doctype' streams')
    (hsource : input.sourceStream = streams.source source) (hown : changedDocType input.sourceEvent = some doctype)
    (source' : Source) :
    ownOf doctype' streams' (logs.pushAll (input.writes streams.revision)) source' =
      ownOf doctype' streams' logs source' ++
        if tenantId' = tenantId ∧ doctype' = doctype ∧ source' = source then [input.sourceEvent] else [] := by
  unfold ownOf
  by_cases hstream : streams'.source source' = streams.source source
  · obtain ⟨htenant, hsame⟩ := hnamed'.source_injective hnamed hstream
    have hne : input.sourceStream ≠ streams.revision := by
      rw [hsource]
      exact hnamed.source_ne_revision hnamed.revision source
    rw [hstream, ← hsource, MetadataMutation.pushAll_source hne, List.map_append, ownEvents, List.filter_append]
    congr 1
    show List.filter _ [input.sourceEvent] = _
    by_cases hdoctype : doctype' = doctype
    · rw [if_pos ⟨htenant, hdoctype, hsame⟩]
      simp [hown, hdoctype]
    · rw [if_neg (fun hall => hdoctype hall.2.1)]
      simp [hown, Ne.symm hdoctype]
  · have hother : streams'.source source' ≠ input.sourceStream := by
      rw [hsource]
      exact hstream
    rw [MetadataMutation.pushAll_other hother (hnamed'.source_ne_revision hnamed.revision source'), if_neg, List.append_nil]
    rintro ⟨rfl, rfl, rfl⟩
    exact hstream (by rw [hnamed.unique hnamed'])

/-- The view of the DocType that a mutation changes. -/
theorem viewOf_pushAll (legacy : MetadataLog) (hnamed : Named tenantId doctype streams)
    (hsource : input.sourceStream = streams.source source) (hown : changedDocType input.sourceEvent = some doctype) :
    viewOf legacy doctype streams (logs.pushAll (input.writes streams.revision)) =
      addEvent (viewOf legacy doctype streams logs) input.sourceEvent source := by
  have hadded := fun source' => ownOf_pushAll logs hnamed hnamed hsource hown source'
  unfold viewOf
  rw [hadded .customFields, hadded .properties, hadded .naming]
  cases source <;> simp [addEvent]

/-- Other DocTypes, and other tenants, are left alone. -/
theorem ownOf_pushAll_of_ne (hnamed : Named tenantId doctype streams) (hnamed' : Named tenantId' doctype' streams')
    (hsource : input.sourceStream = streams.source source) (hown : changedDocType input.sourceEvent = some doctype)
    (hne : ¬ (tenantId' = tenantId ∧ doctype' = doctype)) (source' : Source) :
    ownOf doctype' streams' (logs.pushAll (input.writes streams.revision)) source' = ownOf doctype' streams' logs source' := by
  rw [ownOf_pushAll logs hnamed hnamed' hsource hown, if_neg (fun hall => hne ⟨hall.1, hall.2.1⟩), List.append_nil]

/-- **A mutation keeps the invariant** if the strategy holds with its event. -/
theorem metadataOK_pushAll {logs : MetadataStore} (h : MetadataOK options init logs) (hnamed : Named tenantId doctype streams)
    (hsource : input.sourceStream = streams.source source) (hown : changedDocType input.sourceEvent = some doctype)
    (hholds : ∀ base ∈ options.registry.doctypes, base.name = doctype → Holds options.checks tenantId base
      (addEvent (registeredView options init tenantId base streams logs) input.sourceEvent source)) :
    MetadataOK options init (logs.pushAll (input.writes streams.revision)) := by
  have hapart : input.sourceStream ≠ streams.revision := by
    rw [hsource]
    exact hnamed.source_ne_revision hnamed.revision source
  constructor
  · exact EventLogs.numbered_pushAll h.numbered _
  · intro tenantId' definition hdefinition stream hstream
    have hne : stream ≠ input.sourceStream := by
      rw [hsource]
      exact hnamed.source_ne_legacy hdefinition hstream source
    rw [MetadataMutation.pushAll_other hne (Named.legacy_ne_revision hstream hnamed.revision)]
    exact h.legacy tenantId' definition hdefinition stream hstream
  · intro tenantId' doctype' streams' hnamed'
    have hcounted := h.counted tenantId' doctype' streams' hnamed'
    by_cases hsame : tenantId' = tenantId ∧ doctype' = doctype
    · obtain ⟨rfl, rfl⟩ := hsame
      obtain rfl := hnamed.unique hnamed'
      rw [MetadataMutation.length_pushAll_revision hapart, ← hcounted]
      -- the stream of the source and the revision grow by one event each
      have hadded := fun source' => ownOf_pushAll logs hnamed hnamed hsource hown source'
      unfold ownCount
      rw [hadded .customFields, hadded .properties, hadded .naming]
      cases source <;> simp <;> omega
    · have hkept := ownOf_pushAll_of_ne logs hnamed hnamed' hsource hown hsame
      have hrevision : streams'.revision ≠ streams.revision := fun heq => hsame (hnamed'.revision_injective hnamed heq)
      have hne : streams'.revision ≠ input.sourceStream := by
        rw [hsource]
        exact (hnamed.source_ne_revision hnamed'.revision source).symm
      rw [MetadataMutation.pushAll_other hne hrevision, ← hcounted]
      unfold ownCount
      rw [hkept .customFields, hkept .properties, hkept .naming]
  · intro tenantId' streams' base hbase hnamed'
    by_cases hsame : tenantId' = tenantId ∧ base.name = doctype
    · obtain ⟨rfl, hname⟩ := hsame
      subst hname
      obtain rfl := hnamed.unique hnamed'
      have hview := viewOf_pushAll logs (legacyOf base.name (legacyLogs init tenantId' options.registry.doctypes)) hnamed
        hsource hown
      unfold registeredView
      rw [hview]
      exact hholds base hbase rfl
    · have hkept := ownOf_pushAll_of_ne logs hnamed hnamed' hsource hown hsame
      have hview : registeredView options init tenantId' base streams' (logs.pushAll (input.writes streams.revision)) =
          registeredView options init tenantId' base streams' logs := by
        unfold registeredView viewOf
        rw [hkept .customFields, hkept .properties, hkept .naming]
      rw [hview]
      exact h.holds tenantId' streams' base hbase hnamed'

end Invariant

/-! ## What a checked change keeps -/

section Changes

variable {checks : DocTypeChecks} {tenantId : TenantId} {base composed : DocTypeDefinition} {view : MetadataView}
variable {occurredAt : Timestamp}

/-- **Other custom fields**, on which the strategy is valid. -/
theorem holds_customFields {event : MetadataEvent} (h : Holds checks tenantId base view)
    (hvalid : ∀ strategy, view.strategy base = some strategy →
      normalizeNamingStrategy checks.safeRegex composed strategy = .ok strategy)
    (hmade : MadeOf checks base ((addEvent view event .customFields).Has tenantId base) (fun _ => none) composed) :
    Holds checks tenantId base (addEvent view event .customFields) := by
  intro strategy hstrategy
  exact (h strategy hstrategy).extend (hvalid strategy hstrategy) hmade

/-- **Other overrides**, with which the strategy is valid. -/
theorem holds_properties {event : MetadataEvent} {overrides : JsString → Option PersistedFieldOverrides}
    (hvalid : ∀ strategy, view.strategy base = some strategy →
      normalizeNamingStrategy checks.safeRegex composed strategy = .ok strategy)
    (hmade : MadeOf checks base (view.Has tenantId base) overrides composed)
    (hflags : ∀ name,
      ((addEvent view event .properties).overrides tenantId base name).bind (·.readOnly) =
        (overrides name).bind (·.readOnly) ∧
      ((addEvent view event .properties).overrides tenantId base name).bind (·.noCopy) =
        (overrides name).bind (·.noCopy)) :
    Holds checks tenantId base (addEvent view event .properties) := by
  intro strategy hstrategy
  exact (NamingHolds.of_valid (hvalid strategy hstrategy) hmade).of_flags hflags

/-- **A strategy that is saved** is valid on the DocType. -/
theorem holds_strategySaved {strategy : NamingStrategy}
    (hvalid : normalizeNamingStrategy checks.safeRegex composed strategy = .ok strategy)
    (hmade : MadeOf checks base (view.Has tenantId base) (view.overrides tenantId base) composed) :
    Holds checks tenantId base
      (addEvent view { payload := .namingStrategySaved base.name strategy, occurredAt } .naming) := by
  intro saved hsaved
  have hstrategy : saved = strategy := by
    have hfold : strategyOf base.name (view.naming ++ [{ payload := .namingStrategySaved base.name strategy, occurredAt }]) =
        some saved := hsaved
    rw [strategyOf_concat, namingChange] at hfold
    dsimp only at hfold
    rw [if_pos rfl] at hfold
    exact (Option.some.inj hfold).symm
  rw [hstrategy]
  exact NamingHolds.of_valid hvalid hmade

theorem holds_strategyCleared :
    Holds checks tenantId base (addEvent view { payload := .namingStrategyCleared base.name, occurredAt } .naming) := by
  intro saved hsaved
  have hfold : strategyOf base.name (view.naming ++ [{ payload := .namingStrategyCleared base.name, occurredAt }]) =
      some saved := hsaved
  rw [strategyOf_concat, namingChange] at hfold
  dsimp only at hfold
  rw [if_pos rfl] at hfold
  cases hfold

/-! ### Pending states -/

/-- What is pending is what the event brings: a custom field. -/
theorem madeOf_pendingField {state : CustomFieldState} {field : PersistedFieldDefinition} {now : Timestamp}
    (hview : ∀ custom, state.Enables custom ↔ view.Enables tenantId base custom)
    (h : applyCustomFieldsToDocType checks base (CustomFieldPolicy.projectPendingState tenantId state field now) =
      .ok composed) :
    MadeOf checks base
      ((addEvent view { payload := .customFieldSaved base.name field, occurredAt } .customFields).Has tenantId base)
      (fun _ => none) composed := by
  apply madeOf_customFields _ h
  intro x
  apply or_congr_right
  apply exists_congr
  intro custom
  apply and_congr_left
  intro _
  rw [CustomFieldPolicy.enables_projectPendingState, hview]
  unfold MetadataView.Enables
  show _ ↔ ∃ entry, Record.get (customFieldEntriesOf tenantId base.name (view.customFields ++
    [{ payload := .customFieldSaved base.name field, occurredAt }])) custom.name = some entry ∧ _ ∧ _
  rw [customFieldEntriesOf_concat]
  exact (enabled_applyCustomFieldEvent_saved rfl).symm

theorem madeOf_withoutField {state : CustomFieldState} {fieldName : JsString} {now : Timestamp}
    (hview : ∀ custom, state.Enables custom ↔ view.Enables tenantId base custom)
    (h : applyCustomFieldsToDocType checks base (CustomFieldPolicy.withoutField state fieldName now) = .ok composed) :
    MadeOf checks base
      ((addEvent view { payload := .customFieldDisabled base.name fieldName, occurredAt } .customFields).Has tenantId base)
      (fun _ => none) composed := by
  apply madeOf_customFields _ h
  intro x
  apply or_congr_right
  apply exists_congr
  intro custom
  apply and_congr_left
  intro _
  rw [CustomFieldPolicy.enables_withoutField, hview]
  unfold MetadataView.Enables
  show _ ↔ ∃ entry, Record.get (customFieldEntriesOf tenantId base.name (view.customFields ++
    [{ payload := .customFieldDisabled base.name fieldName, occurredAt }])) custom.name = some entry ∧ _ ∧ _
  rw [customFieldEntriesOf_concat]
  exact (enabled_applyCustomFieldEvent_disabled rfl).symm

/-- The overrides of a field, with those that are saved. -/
theorem overrides_saved {fieldName : JsString} {saved : PersistedFieldOverrides} (name : JsString) :
    (addEvent view { payload := .fieldPropertyOverrideSaved base.name fieldName saved, occurredAt } .properties).overrides
      tenantId base name = if fieldName = name then some saved else view.overrides tenantId base name := by
  unfold MetadataView.overrides
  show (Record.get (fieldPropertyEntriesOf tenantId base.name (view.properties ++
    [{ payload := .fieldPropertyOverrideSaved base.name fieldName saved, occurredAt }])) name).map _ = _
  rw [fieldPropertyEntriesOf_concat]
  exact get_applyFieldPropertyOverrideEvent_saved rfl name

theorem overrides_cleared {fieldName : JsString} (name : JsString) :
    (addEvent view { payload := .fieldPropertyOverrideCleared base.name fieldName, occurredAt } .properties).overrides
      tenantId base name = if fieldName = name then none else view.overrides tenantId base name := by
  unfold MetadataView.overrides
  show (Record.get (fieldPropertyEntriesOf tenantId base.name (view.properties ++
    [{ payload := .fieldPropertyOverrideCleared base.name fieldName, occurredAt }])) name).map _ = _
  rw [fieldPropertyEntriesOf_concat]
  exact get_applyFieldPropertyOverrideEvent_cleared rfl name

end Changes

end RuntimeNaming
