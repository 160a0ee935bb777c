import CfFrappe.Application.RuntimeNaming
import CfFrappe.Lib.Alone

set_option autoImplicit false

/-! # Runtime naming in runs

What each service reads, and what it appends. A command carries what it has seen to its append (`Seen`); there the
revision says that nothing has changed, so what was checked is what holds with the event (`wp_start`). The strategy of a
DocType that resolves is valid in every state of every run (`naming_applies`).
-/

open Utf CustomFieldPolicy FieldPropertyPolicy
open Program (eval_bind_ok eval_ofExcept eval_ofExcept_ok of_eval_bind_ok of_eval_ofExcept_ok)
open SharedState (wp_checked wp_mono wp_ofExcept wp_pure wp_then wp_throw)

variable {doctype : DocTypeDefinition} {P : MetadataView → Prop} {events : CustomFieldEventSet}
variable {doctypeName : DocTypeName} {Q : Unit → MetadataStore → Prop} {payload : MetadataPayload}

namespace RuntimeNaming

section Programs

variable {options : NamingService.Options} {init : MetadataStore}

abbrev namingShared (options : NamingService.Options) (init : MetadataStore) :
    SharedState MetadataStore MetadataAction MetadataReply :=
  EventLogs.shared FrameworkError CustomFieldService.metadataCalls CustomFieldService.AnyAction (MetadataOK options init)

abbrev NamingWp {α : Type} (options : NamingService.Options) (init : MetadataStore) (p : MetadataProgram α)
    (Q : α → MetadataStore → Prop) (logs : MetadataStore) : Prop := (namingShared options init).Wp p Q logs

/-- What has been seen of a DocType of the application. -/
abbrev SeenOf (options : NamingService.Options) (init : MetadataStore) (tenantId : TenantId) (base : DocTypeDefinition)
    (streams : Streams) (revision : Nat) (P : MetadataView → Prop) (logs : MetadataStore) : Prop :=
  Seen (legacyOf base.name (legacyLogs init tenantId options.registry.doctypes)) base.name streams revision P logs

variable {tenantId : TenantId} {streams : Streams} {base composed : DocTypeDefinition} {revision : Nat}
variable {logs : MetadataStore}

/-! ## Reads -/

theorem wp_metadataRevisionVersion {doctype : DocTypeName} {Q : Nat → MetadataStore → Prop}
    (h : ∀ streams t, Named tenantId doctype streams → Q (ownCount doctype streams t) t) :
    NamingWp options init (metadataRevisionVersion tenantId doctype) Q logs := by
  apply wp_checked
  intro stream hrequire
  obtain ⟨streams, hnamed, hrevision⟩ := exists_named (requireStream_ok hrequire)
  apply EventLogs.wp_currentVersion
  intro t _ hok
  rw [← hrevision, ← hok.counted tenantId doctype streams hnamed]
  exact h streams t hnamed

theorem wp_legacyEvents {Q : MetadataLog → MetadataStore → Prop} {doctypes : List DocTypeDefinition}
    (hdoctypes : ∀ definition ∈ doctypes, definition ∈ options.registry.doctypes)
    (h : ∀ t, logs.Later t → Q (legacyLogs init tenantId doctypes) t) :
    NamingWp options init (CustomFieldService.legacyEvents tenantId doctypes) Q logs := by
  induction doctypes generalizing logs Q with
  | nil => exact wp_pure (h logs (.refl logs))
  | cons definition doctypes ih =>
    apply wp_checked
    intro stream hrequire
    have hstream : customFieldsStream tenantId definition.name = some stream := requireStream_ok hrequire
    apply wp_then
    apply EventLogs.wp_readStream
    intro t hlater hok
    rw [hok.legacy tenantId definition (hdoctypes definition List.mem_cons_self) stream hstream]
    apply wp_then
    apply ih (fun other hother => hdoctypes other (List.mem_cons_of_mem _ hother))
    intro u hlater'
    apply wp_pure
    have hlegacy : legacyLogs init tenantId (definition :: doctypes) =
        CustomFieldService.customFieldEvents (init stream) ++ legacyLogs init tenantId doctypes := by
      unfold legacyLogs
      rw [List.flatMap_cons, hstream]
      rfl
    rw [← hlegacy]
    exact h u (hlater.trans hlater')

/-- **Custom fields** as they are read. -/
theorem wp_tenantCustomFieldEvents (hnamed : Named tenantId base.name streams)
    (hrevision : revision ≤ ownCount base.name streams logs) {Q : CustomFieldEventSet → MetadataStore → Prop}
    (h : ∀ events t, logs.Later t →
      SeenOf options init tenantId base streams revision
        (fun view => ∀ field, (CustomFieldService.stateFromEvents options.fieldProperties.customFields tenantId base.name
          events).Enables field ↔ view.Enables tenantId base field) t → Q events t) :
    NamingWp options init (CustomFieldService.tenantCustomFieldEvents options.fieldProperties.customFields tenantId) Q
      logs := by
  apply wp_checked
  intro catalog hrequire
  have hcatalog : catalog = streams.catalog := by
    have hsame := (requireStream_ok hrequire).symm.trans hnamed.catalog
    exact Option.some.inj hsame
  apply wp_then
  apply EventLogs.wp_readStream
  intro t hlater _
  apply wp_then
  apply wp_legacyEvents (fun definition hdefinition => hdefinition)
  intro u hlater'
  apply wp_pure
  apply h _ u (hlater.trans hlater')
  -- the catalogue was read before the other streams
  apply Seen.later _ hlater'
  apply Seen.now (hrevision.trans (ownCount_le hlater))
  intro field
  apply enables_stateFromEvents rfl
  rw [hcatalog, List.map_append, ownEvents, List.filter_append]
  rfl

/-- **Overrides** as they are read. -/
theorem wp_propertyStateFor (hnamed : Named tenantId base.name streams)
    (hrevision : revision ≤ ownCount base.name streams logs) {Q : FieldPropertyOverrideState → MetadataStore → Prop}
    (h : ∀ state t, logs.Later t → state.tenantId = tenantId → state.doctype = base.name →
      (state.fields.map (·.fieldName)).Nodup →
      SeenOf options init tenantId base streams revision
        (fun view => ∀ name, state.overridesOf name = view.overrides tenantId base name) t → Q state t) :
    NamingWp options init (FieldPropertyService.stateFor options.fieldProperties tenantId base.name) Q logs := by
  apply wp_checked
  intro overrides hrequire
  have hoverrides : overrides = streams.overrides := by
    have hsame := (requireStream_ok hrequire).symm.trans hnamed.overrides
    exact Option.some.inj hsame
  apply wp_then
  apply EventLogs.wp_readStream
  intro t hlater hok
  apply wp_pure
  apply h _ t hlater rfl rfl (nodup_foldFieldPropertyOverrides _)
  apply Seen.now (hrevision.trans (ownCount_le hlater))
  intro name
  apply overridesOf_stateFor (hok.numbered overrides)
  rw [hoverrides]
  rfl

/-- **The runtime strategy** as it is read. -/
theorem wp_namingStateFor (hnamed : Named tenantId base.name streams)
    (hrevision : revision ≤ ownCount base.name streams logs) (hname : composed.name = base.name)
    {Q : NamingConfigurationState → MetadataStore → Prop}
    (h : ∀ state t, logs.Later t →
      state.effectiveStrategy = state.runtimeStrategy.or composed.naming → state.doctype = composed.name →
      SeenOf options init tenantId base streams revision (fun view => state.runtimeStrategy = view.strategy base) t →
        Q state t) :
    NamingWp options init (NamingService.stateFor tenantId composed) Q logs := by
  apply wp_checked
  intro naming hrequire
  have hnaming : naming = streams.naming := by
    have hsame := (requireStream_ok hrequire).symm.trans ((congrArg (namingConfigurationStream tenantId) hname).trans
      hnamed.naming)
    exact Option.some.inj hsame
  apply wp_then
  apply EventLogs.wp_readStream
  intro t hlater hok
  apply wp_pure
  apply h _ t hlater rfl rfl
  apply Seen.now (hrevision.trans (ownCount_le hlater))
  apply runtimeStrategy_stateFor (hok.numbered naming) hname
  rw [hnaming]
  rfl

/-! ## DocTypes that resolve -/

theorem ModelRegistry.get_mem {registry : ModelRegistry} {base : DocTypeDefinition} (h : base ∈ registry.doctypes) :
    registry.get base.name = .ok base := by
  unfold ModelRegistry.get
  rw [(find?_key_iff registry.names).mpr ⟨h, rfl⟩]

/-- The custom fields that are read make the DocType. -/
theorem madeOf_effectiveDocTypeOf {view : MetadataView}
    (hview : ∀ field, (CustomFieldService.stateFromEvents options.fieldProperties.customFields tenantId base.name
      events).Enables field ↔ view.Enables tenantId base field)
    (h : CustomFieldService.effectiveDocTypeOf options.fieldProperties.customFields base tenantId events = .ok doctype) :
    MadeOf options.checks base (view.Has tenantId base) (fun _ => none) doctype := by
  obtain ⟨_, _, h⟩ := except_bind_eq_ok h
  obtain ⟨_, _, happlied⟩ := except_bind_eq_ok h
  apply madeOf_customFields _ happlied
  intro x
  unfold MetadataView.Has
  apply or_congr_right
  constructor
  · rintro ⟨custom, henables, hx⟩
    exact ⟨custom, (hview custom).mp henables, hx⟩
  · rintro ⟨custom, henables, hx⟩
    exact ⟨custom, (hview custom).mpr henables, hx⟩

theorem name_of_effectiveDocTypeOf
    (h : CustomFieldService.effectiveDocTypeOf options.fieldProperties.customFields base tenantId events = .ok doctype) :
    doctype.name = base.name := by
  obtain ⟨_, _, h⟩ := except_bind_eq_ok h
  obtain ⟨_, _, happlied⟩ := except_bind_eq_ok h
  exact (applyCustomFieldsToDocType_ok happlied).2.1

theorem name_of_applyFieldPropertyOverrides {checks : DocTypeChecks} {state : FieldPropertyOverrideState}
    (h : applyFieldPropertyOverridesToDocType checks composed state = .ok doctype) :
    doctype.name = composed.name := by
  obtain ⟨_, _, h⟩ := except_bind_eq_ok h
  by_cases hempty : state.fields.isEmpty = true
  · rw [if_pos hempty] at h
    rw [← Except.ok.inj h]
  · rw [if_neg hempty] at h
    cases hunknown : state.fields.find? (fun entry => !composed.fields.any (fun field => field.name == entry.fieldName)) with
    | some entry =>
      rw [hunknown] at h
      cases h
    | none =>
      rw [hunknown] at h
      obtain ⟨effective, heffective, h⟩ := except_bind_eq_ok h
      obtain ⟨_, _, h⟩ := except_bind_eq_ok h
      rw [← Except.ok.inj h]
      exact (defineDocType_ok heffective).name

/-- **The DocType with its custom fields.** -/
theorem wp_prePropertyDocTypeFor (hnamed : Named tenantId doctypeName streams)
    (hrevision : revision ≤ ownCount doctypeName streams logs) {Q : DocTypeDefinition → MetadataStore → Prop}
    (h : ∀ base doctype t, base ∈ options.registry.doctypes → base.name = doctypeName → doctype.name = base.name →
      logs.Later t →
      SeenOf options init tenantId base streams revision
        (fun view => MadeOf options.checks base (view.Has tenantId base) (fun _ => none) doctype) t → Q doctype t) :
    NamingWp options init (FieldPropertyService.prePropertyDocTypeFor options.fieldProperties doctypeName tenantId) Q
      logs := by
  apply wp_checked
  intro base hbase
  obtain ⟨hmem, hname⟩ := ModelRegistry.get_ok hbase
  subst hname
  apply wp_checked
  intro definition hdefinition
  have hsame : definition = base := Except.ok.inj (hdefinition.symm.trans (ModelRegistry.get_mem hmem))
  rw [hsame]
  apply wp_then
  apply wp_tenantCustomFieldEvents hnamed hrevision
  intro events t hlater hseen
  apply wp_ofExcept
  intro doctype hdoctype
  exact h base doctype t hmem rfl (name_of_effectiveDocTypeOf hdoctype) hlater
    (hseen.mono (fun view hview => madeOf_effectiveDocTypeOf hview hdoctype))

/-- **The DocType with its custom fields and their overrides.** -/
theorem wp_preNamingDocTypeFor (hnamed : Named tenantId doctypeName streams)
    (hrevision : revision ≤ ownCount doctypeName streams logs) {Q : DocTypeDefinition → MetadataStore → Prop}
    (h : ∀ base doctype t, base ∈ options.registry.doctypes → base.name = doctypeName → doctype.name = base.name →
      logs.Later t →
      SeenOf options init tenantId base streams revision
        (fun view => MadeOf options.checks base (view.Has tenantId base) (view.overrides tenantId base) doctype) t →
          Q doctype t) :
    NamingWp options init (NamingService.preNamingDocTypeFor options doctypeName tenantId) Q logs := by
  apply wp_checked
  intro registered hregistered
  have hname := (ModelRegistry.get_ok hregistered).2
  rw [hname]
  apply wp_then
  apply wp_prePropertyDocTypeFor hnamed hrevision
  intro base composed t hmem hbase hcomposed hlater hseen
  subst hbase
  rw [hcomposed]
  apply wp_then
  apply wp_propertyStateFor hnamed (hrevision.trans (ownCount_le hlater))
  intro state u hlater' _ _ _ hstate
  apply wp_ofExcept
  intro doctype hdoctype
  have hdoctypeName := (name_of_applyFieldPropertyOverrides hdoctype).trans hcomposed
  apply h base doctype u hmem rfl hdoctypeName (hlater.trans hlater')
  apply ((hseen.later hlater').and hstate).mono
  intro view hview
  exact madeOf_properties hview.1 hview.2 hdoctype

/-! ## Checks and appends -/

/-- A strategy that is put into a DocType is valid there. -/
theorem valid_of_applyNamingConfiguration {state : NamingConfigurationState} {named : DocTypeDefinition}
    {checks : DocTypeChecks} (heffective : state.effectiveStrategy = state.runtimeStrategy.or composed.naming)
    (h : applyNamingConfigurationToDocType checks composed state = .ok named) {strategy : NamingStrategy}
    (hstrategy : state.runtimeStrategy = some strategy) :
    normalizeNamingStrategy checks.safeRegex composed strategy = .ok strategy := by
  apply checked_of_applyNamingConfigurationToDocType h
  rw [heffective, hstrategy]
  rfl

/-- **The check of the naming** on a DocType that a change would make. -/
theorem wp_checkNaming {naming : StreamName} (hrevision : revision ≤ ownCount base.name streams logs)
    (hname : composed.name = base.name) (hnaming : naming = streams.naming)
    (h : ∀ t, logs.Later t →
      SeenOf options init tenantId base streams revision (fun view => ∀ strategy, view.strategy base = some strategy →
        normalizeNamingStrategy options.checks.safeRegex composed strategy = .ok strategy) t → Q () t) :
    NamingWp options init
      (do
        let log ← BatchProgram.readStream naming
        let _ ← Program.ofExcept (applyNamingConfigurationToDocType options.checks composed
          (foldNamingConfiguration tenantId composed log))
        return ()) Q logs := by
  apply wp_then
  apply EventLogs.wp_readStream
  intro t hlater hok
  apply wp_checked
  intro named happlied
  apply wp_pure
  apply h t hlater
  apply Seen.now (hrevision.trans (ownCount_le hlater))
  intro strategy hstrategy
  apply valid_of_applyNamingConfiguration rfl happlied
  rw [← hstrategy]
  apply runtimeStrategy_stateFor (hok.numbered naming) hname
  rw [hnaming]
  rfl

theorem wp_fieldsAssertNaming (hnamed : Named tenantId base.name streams)
    (hrevision : revision ≤ ownCount base.name streams logs) {state : CustomFieldState}
    (h : ∀ composed t, logs.Later t → applyCustomFieldsToDocType options.checks base state = .ok composed →
      SeenOf options init tenantId base streams revision (fun view => ∀ strategy, view.strategy base = some strategy →
        normalizeNamingStrategy options.checks.safeRegex composed strategy = .ok strategy) t → Q () t) :
    NamingWp options init (CustomFieldService.assertNamingConfigurationRemainsValid options.fieldProperties.customFields
      tenantId base state) Q logs := by
  apply wp_checked
  intro composed hcomposed
  apply wp_checked
  intro naming hrequire
  have hnaming : naming = streams.naming := Option.some.inj ((requireStream_ok hrequire).symm.trans hnamed.naming)
  apply wp_checkNaming hrevision (applyCustomFieldsToDocType_ok hcomposed).2.1 hnaming
  intro t hlater hseen
  exact h composed t hlater hcomposed hseen

theorem wp_propertiesAssertNaming (hnamed : Named tenantId base.name streams)
    (hrevision : revision ≤ ownCount base.name streams logs) (hname : composed.name = base.name)
    (h : ∀ t, logs.Later t →
      SeenOf options init tenantId base streams revision (fun view => ∀ strategy, view.strategy base = some strategy →
        normalizeNamingStrategy options.checks.safeRegex composed strategy = .ok strategy) t → Q () t) :
    NamingWp options init (FieldPropertyService.assertNamingConfigurationRemainsValid options.fieldProperties tenantId
      composed) Q logs := by
  apply wp_checked
  intro naming hrequire
  have hstream := (requireStream_ok hrequire).symm.trans ((congrArg (namingConfigurationStream tenantId) hname).trans
    hnamed.naming)
  exact wp_checkNaming hrevision hname (Option.some.inj hstream) h

/-- **The append of a change**: where it is made, the DocType is as the command has seen it. -/
theorem wp_appendMetadataMutation {input : MetadataMutation} {source : Source}
    (hbase : base ∈ options.registry.doctypes) (hnamed : Named tenantId base.name streams)
    (htenant : input.tenantId = tenantId) (hdoctype : input.doctype = base.name)
    (hrevision : input.metadataRevision = revision) (hsource : input.sourceStream = streams.source source)
    (hown : changedDocType input.sourceEvent = some base.name)
    (hseen : SeenOf options init tenantId base streams revision P logs)
    (hkeeps : ∀ view, P view → Holds options.checks tenantId base view →
      Holds options.checks tenantId base (addEvent view input.sourceEvent source))
    {Q : Recorded MetadataEvent → MetadataStore → Prop} (hQ : ∀ saved t, Q saved t) :
    NamingWp options init (appendMetadataMutation input) Q logs := by
  apply wp_checked
  intro revisionStream hrequire
  have hstream : revisionStream = streams.revision := by
    have hname := requireStream_ok hrequire
    rw [htenant, hdoctype] at hname
    exact Option.some.inj (hname.symm.trans hnamed.revision)
  rw [hstream]
  apply wp_then
  apply EventLogs.wp_appendBatch
  · intro t error _ _
    exact wp_then (wp_ofExcept (fun saved hsaved => by cases hsaved))
  · intro t hlater hok _ haccepts
    have hlength : (t streams.revision).length = input.metadataRevision :=
      haccepts _ (List.mem_cons_of_mem _ List.mem_cons_self)
    -- the revision is still the one that was read, so what was seen is what there is
    have hcount : ownCount base.name streams t = revision := by
      rw [hok.counted tenantId base.name streams hnamed, hlength, hrevision]
    have hview := (hseen.later hlater).2 hcount
    constructor
    · apply metadataOK_pushAll hok hnamed hsource hown
      intro other hother hname
      have hsame : other = base := by
        have hget := ModelRegistry.get_mem hother
        rw [hname, ModelRegistry.get_mem hbase] at hget
        exact (Except.ok.inj hget).symm
      rw [hsame]
      exact hkeeps _ hview (hok.holds tenantId streams base hbase hnamed)
    · apply wp_checked
      intro saved _
      cases saved.find? (fun event => event.1 == input.sourceStream) with
      | none => exact wp_throw
      | some source => exact wp_pure (hQ source.2 _)

/-! ## The commands -/

/-- The append of a custom field. -/
theorem wp_appendField (hbase : base ∈ options.registry.doctypes) (hnamed : Named tenantId base.name streams)
    {state : CustomFieldState} (hown : ∀ occurredAt, changedDocType { payload, occurredAt } = some base.name)
    (hseen : SeenOf options init tenantId base streams revision P logs)
    (hkeeps : ∀ view occurredAt, P view → Holds options.checks tenantId base view →
      Holds options.checks tenantId base (addEvent view { payload, occurredAt } .customFields)) :
    NamingWp options init (CustomFieldService.appendChange options.fieldProperties.customFields tenantId base events state
      payload revision) (fun _ _ => True) logs := by
  apply wp_checked
  intro catalog hrequire
  have hcatalog : catalog = streams.source .customFields :=
    Option.some.inj ((requireStream_ok hrequire).symm.trans hnamed.catalog)
  apply wp_then
  apply EventLogs.wp_other
  intro t occurredAt hlater _ _
  apply wp_then
  apply wp_appendMetadataMutation hbase hnamed rfl rfl rfl hcatalog (hown occurredAt) (hseen.later hlater)
  · exact fun view => hkeeps view occurredAt
  · exact fun saved u => wp_pure trivial

theorem wp_saveField (command : SaveCustomFieldCommand) :
    NamingWp options init (CustomFieldService.saveField options.fieldProperties.customFields command) (fun _ _ => True)
      logs := by
  apply wp_checked
  intro _ _
  apply wp_checked
  intro base hget
  obtain ⟨hbase, hname⟩ := ModelRegistry.get_ok hget
  rw [← hname]
  apply wp_checked
  intro tenantId _
  apply wp_then
  apply wp_metadataRevisionVersion
  intro streams t hnamed
  apply wp_checked
  intro normalized _
  apply wp_then
  apply wp_tenantCustomFieldEvents hnamed (Nat.le_refl _)
  intro events t₁ hlater₁ hfields
  apply wp_then
  apply EventLogs.wp_other
  intro t₂ now hlater₂ _ _
  apply wp_checked
  intro field _
  apply wp_checked
  intro _ _
  generalize hstate : CustomFieldService.stateFromEvents options.fieldProperties.customFields tenantId base.name events =
    state at hfields
  -- what is read before the append is the view that the append is checked against
  have happend : NamingWp options init
      (do
        let now ← clockNow
        CustomFieldService.assertNamingConfigurationRemainsValid options.fieldProperties.customFields tenantId base
          (projectPendingState tenantId state field now)
        CustomFieldService.appendChange options.fieldProperties.customFields tenantId base events state
          (.customFieldSaved base.name field) (ownCount base.name streams t))
      (fun _ _ => True) t₂ := by
    apply wp_then
    apply EventLogs.wp_other
    intro t₃ pendingAt hlater₃ _ _
    have hlater := (hlater₁.trans hlater₂).trans hlater₃
    apply wp_then
    apply wp_fieldsAssertNaming hnamed (ownCount_le hlater)
    intro composed t₄ hlater₄ hcomposed hvalid
    have hseen := ((hfields.later ((hlater₂.trans hlater₃).trans hlater₄)).and hvalid)
    apply wp_appendField hbase hnamed (fun _ => rfl) hseen
    intro view occurredAt hview hholds
    exact holds_customFields hholds hview.2 (madeOf_pendingField hview.1 hcomposed)
  cases planCustomFieldSave (findCustomFieldEntry state field.name) field with
  | noop => exact wp_pure trivial
  | missing error => exact happend
  | append => exact happend

theorem wp_disableField (command : DisableCustomFieldCommand) :
    NamingWp options init (CustomFieldService.disableField options.fieldProperties.customFields command)
      (fun _ _ => True) logs := by
  apply wp_checked
  intro _ _
  apply wp_checked
  intro base hget
  obtain ⟨hbase, hname⟩ := ModelRegistry.get_ok hget
  rw [← hname]
  apply wp_checked
  intro tenantId _
  apply wp_then
  apply wp_metadataRevisionVersion
  intro streams t hnamed
  apply wp_checked
  intro fieldName _
  apply wp_then
  apply wp_tenantCustomFieldEvents hnamed (Nat.le_refl _)
  intro events t₁ hlater₁ hfields
  apply wp_checked
  intro _ _
  generalize hstate : CustomFieldService.stateFromEvents options.fieldProperties.customFields tenantId base.name events =
    state at hfields
  cases planCustomFieldDisable (findCustomFieldEntry state fieldName) fieldName with
  | noop => exact wp_pure trivial
  | missing error => exact wp_throw
  | append =>
    apply wp_then
    apply EventLogs.wp_other
    intro t₂ pendingAt hlater₂ _ _
    apply wp_then
    apply wp_fieldsAssertNaming hnamed (ownCount_le (hlater₁.trans hlater₂))
    intro composed t₃ hlater₃ hcomposed hvalid
    have hseen := (hfields.later (hlater₂.trans hlater₃)).and hvalid
    apply wp_appendField hbase hnamed (fun _ => rfl) hseen
    intro view occurredAt hview hholds
    exact holds_customFields hholds hview.2 (madeOf_withoutField hview.1 hcomposed)

/-- The append of overrides. -/
theorem wp_appendProperty (hbase : base ∈ options.registry.doctypes) (hnamed : Named tenantId base.name streams)
    {state : FieldPropertyOverrideState} (htenant : state.tenantId = tenantId) (hdoctype : state.doctype = base.name)
    (hown : ∀ occurredAt, changedDocType { payload, occurredAt } = some base.name)
    (hseen : SeenOf options init tenantId base streams revision P logs)
    (hkeeps : ∀ view occurredAt, P view → Holds options.checks tenantId base view →
      Holds options.checks tenantId base (addEvent view { payload, occurredAt } .properties)) :
    NamingWp options init (FieldPropertyService.appendAndFold options.fieldProperties state revision payload)
      (fun _ _ => True) logs := by
  apply wp_checked
  intro overrides hrequire
  have hoverrides : overrides = streams.source .properties := by
    have hname := requireStream_ok hrequire
    rw [htenant] at hname
    exact Option.some.inj (hname.symm.trans hnamed.overrides)
  apply wp_then
  apply EventLogs.wp_other
  intro t occurredAt hlater _ _
  apply wp_then
  apply wp_appendMetadataMutation hbase hnamed htenant hdoctype rfl hoverrides (hown occurredAt) (hseen.later hlater)
  · exact fun view => hkeeps view occurredAt
  · intro saved u
    apply wp_then
    apply EventLogs.wp_readStream
    intro u' _ _
    exact wp_pure trivial

theorem wp_saveProperty (command : SaveFieldPropertyOverrideCommand) :
    NamingWp options init (FieldPropertyService.save options.fieldProperties command) (fun _ _ => True) logs := by
  apply wp_checked
  intro tenantId _
  apply wp_then
  apply wp_metadataRevisionVersion
  intro streams t hnamed
  apply wp_then
  apply wp_prePropertyDocTypeFor hnamed (Nat.le_refl _)
  intro base doctype t₁ hbase hname hdoctype hlater₁ hmade
  rw [← hname] at hnamed hmade ⊢
  apply wp_checked
  intro field _
  apply wp_checked
  intro overrides _
  rw [hdoctype]
  apply wp_then
  apply wp_propertyStateFor hnamed (ownCount_le hlater₁)
  intro state t₂ hlater₂ htenant hstateDoctype hnodup hstate
  apply wp_checked
  intro _ _
  apply wp_then
  apply EventLogs.wp_other
  intro t₃ now hlater₃ _ _
  apply wp_checked
  intro effective heffective
  apply wp_checked
  intro saved hsaved
  have heffectiveName := (name_of_applyFieldPropertyOverrides heffective).trans hdoctype
  apply wp_then
  apply wp_propertiesAssertNaming hnamed (ownCount_le ((hlater₁.trans hlater₂).trans hlater₃)) heffectiveName
  intro t₄ hlater₄ hvalid
  cases planFieldPropertyOverrideSave (findFieldPropertyOverride state field.name) saved with
  | noop => exact wp_pure trivial
  | append =>
    have hlater := hlater₃.trans hlater₄
    have hseen := ((hmade.later (hlater₂.trans hlater)).and (hstate.later hlater)).and hvalid
    apply wp_appendProperty hbase hnamed htenant hstateDoctype (fun _ => rfl) hseen
    intro view occurredAt hview _
    -- the check was made with the overrides as they came, which are saved with normalized conditions
    have hpending := madeOf_properties hview.1.1 (fun _ => rfl) heffective
    apply holds_properties hview.2 hpending
    intro name
    have hreplaced : (replaceFieldPropertyOverride options.fieldProperties.customFields.localeCompare state field.name
        overrides now).overridesOf name = if field.name = name then some overrides else state.overridesOf name :=
      overridesOf_replace hnodup name
    rw [overrides_saved, hreplaced, hview.1.2]
    split_ifs
    · have hflags := normalizeFieldPropertyOverrideExpressions_flags hsaved
      exact hflags
    · exact ⟨rfl, rfl⟩

theorem wp_clearProperty (command : ClearFieldPropertyOverrideCommand) :
    NamingWp options init (FieldPropertyService.clear options.fieldProperties command) (fun _ _ => True) logs := by
  apply wp_checked
  intro tenantId _
  apply wp_then
  apply wp_metadataRevisionVersion
  intro streams t hnamed
  apply wp_then
  apply wp_prePropertyDocTypeFor hnamed (Nat.le_refl _)
  intro base doctype t₁ hbase hname hdoctype hlater₁ hmade
  rw [← hname] at hnamed hmade ⊢
  apply wp_checked
  intro fieldName _
  rw [hdoctype]
  apply wp_then
  apply wp_propertyStateFor hnamed (ownCount_le hlater₁)
  intro state t₂ hlater₂ htenant hstateDoctype _ hstate
  apply wp_checked
  intro _ _
  apply wp_checked
  intro _ _
  cases planFieldPropertyOverrideClear (findFieldPropertyOverride state fieldName) with
  | noop => exact wp_pure trivial
  | append =>
    apply wp_checked
    intro effective heffective
    have heffectiveName := (name_of_applyFieldPropertyOverrides heffective).trans hdoctype
    apply wp_then
    apply wp_propertiesAssertNaming hnamed (ownCount_le (hlater₁.trans hlater₂)) heffectiveName
    intro t₃ hlater₃ hvalid
    have hseen := ((hmade.later (hlater₂.trans hlater₃)).and (hstate.later hlater₃)).and hvalid
    apply wp_appendProperty hbase hnamed htenant hstateDoctype (fun _ => rfl) hseen
    intro view occurredAt hview _
    have hpending := madeOf_properties hview.1.1 (fun _ => rfl) heffective
    apply holds_properties hview.2 hpending
    intro name
    rw [overrides_cleared, overridesOf_withoutOverride, hview.1.2]
    exact ⟨rfl, rfl⟩

/-- The append of a strategy. -/
theorem wp_appendStrategy (hbase : base ∈ options.registry.doctypes) (hnamed : Named tenantId base.name streams)
    (hname : composed.name = base.name) {state : NamingConfigurationState}
    (hown : ∀ occurredAt, changedDocType { payload, occurredAt } = some base.name)
    (hseen : SeenOf options init tenantId base streams revision P logs)
    (hkeeps : ∀ view occurredAt, P view →
      Holds options.checks tenantId base (addEvent view { payload, occurredAt } .naming)) :
    NamingWp options init (NamingService.appendChange tenantId composed state revision payload) (fun _ _ => True) logs := by
  apply wp_checked
  intro naming hrequire
  have hnaming : naming = streams.source .naming := by
    have hstream := (requireStream_ok hrequire).symm.trans ((congrArg (namingConfigurationStream tenantId) hname).trans
      hnamed.naming)
    exact Option.some.inj hstream
  apply wp_then
  apply EventLogs.wp_other
  intro t occurredAt hlater _ _
  apply wp_then
  apply wp_appendMetadataMutation hbase hnamed rfl hname rfl hnaming (hown occurredAt) (hseen.later hlater)
  · exact fun view hview _ => hkeeps view occurredAt hview
  · intro saved u
    apply wp_checked
    intro stream _
    apply wp_then
    apply EventLogs.wp_readStream
    intro u' _ _
    exact wp_pure trivial

theorem wp_saveNaming (command : SaveNamingStrategyCommand) :
    NamingWp options init (NamingService.save options command) (fun _ _ => True) logs := by
  apply wp_checked
  intro tenantId _
  apply wp_then
  apply wp_metadataRevisionVersion
  intro streams t hnamed
  apply wp_then
  apply wp_preNamingDocTypeFor hnamed (Nat.le_refl _)
  intro base doctype t₁ hbase hname hdoctype hlater₁ hmade
  rw [← hname] at hnamed hmade ⊢
  apply wp_checked
  intro strategy hstrategy
  have hsame : strategy = command.strategy := normalizeNamingStrategy_eq hstrategy
  rw [← hsame] at hstrategy
  apply wp_then
  apply wp_namingStateFor hnamed (ownCount_le hlater₁) hdoctype
  intro state t₂ hlater₂ _ _ _
  apply wp_checked
  intro _ _
  split_ifs
  · exact wp_pure trivial
  · rw [hdoctype]
    apply wp_appendStrategy hbase hnamed hdoctype (fun _ => rfl) (hmade.later hlater₂)
    intro view occurredAt hview
    exact holds_strategySaved hstrategy hview

theorem wp_clearNaming (command : ClearNamingStrategyCommand) :
    NamingWp options init (NamingService.clear options command) (fun _ _ => True) logs := by
  apply wp_checked
  intro tenantId _
  apply wp_then
  apply wp_metadataRevisionVersion
  intro streams t hnamed
  apply wp_then
  apply wp_preNamingDocTypeFor hnamed (Nat.le_refl _)
  intro base doctype t₁ hbase hname hdoctype hlater₁ hmade
  rw [← hname] at hnamed hmade ⊢
  apply wp_then
  apply wp_namingStateFor hnamed (ownCount_le hlater₁) hdoctype
  intro state t₂ hlater₂ _ _ _
  apply wp_checked
  intro _ _
  split_ifs
  · exact wp_pure trivial
  · rw [hdoctype]
    apply wp_appendStrategy hbase hnamed hdoctype (fun _ => rfl) (hmade.later hlater₂)
    intro view occurredAt _
    exact holds_strategyCleared

/-- **Every command** keeps the runtime strategies valid. -/
theorem wp_start (command : MetadataCommand) : NamingWp options init (command.start options) (fun _ _ => True) logs := by
  have hdone : ∀ {α : Type} {p : MetadataProgram α}, NamingWp options init p (fun _ _ => True) logs →
      NamingWp options init (do let _ ← p; return ()) (fun _ _ => True) logs := by
    intro α p h
    exact wp_then (wp_mono h (fun _ _ _ => wp_pure trivial))
  cases command with
  | saveField command => exact hdone (wp_saveField command)
  | disableField command => exact hdone (wp_disableField command)
  | saveProperty command => exact hdone (wp_saveProperty command)
  | clearProperty command => exact hdone (wp_clearProperty command)
  | saveNaming command => exact hdone (wp_saveNaming command)
  | clearNaming command => exact hdone (wp_clearNaming command)

end Programs

/-! ## DocTypes that resolve, in one state -/

section Alone

variable {options : NamingService.Options} {init logs t : MetadataStore} {tenantId : TenantId}
variable {conflict : FrameworkError} {answer : MetadataStore → (call : MetadataCall) → call.Reply}

theorem eval_legacyEvents (hok : MetadataOK options init logs) {doctypes : List DocTypeDefinition}
    (hdoctypes : ∀ definition ∈ doctypes, definition ∈ options.registry.doctypes) {legacy : MetadataLog}
    (h : (CustomFieldService.legacyEvents tenantId doctypes).eval (EventLogs.reply conflict answer) logs = (.ok legacy, t)) :
    legacy = legacyLogs init tenantId doctypes ∧ t = logs ∧
      ∀ definition ∈ doctypes, ∃ stream, customFieldsStream tenantId definition.name = some stream := by
  induction doctypes generalizing legacy t with
  | nil =>
    have hpair := Prod.mk.inj h
    exact ⟨(Except.ok.inj hpair.1).symm, hpair.2.symm, fun _ hnone => absurd hnone List.not_mem_nil⟩
  | cons definition doctypes ih =>
    obtain ⟨stream, t₁, hrequire, h⟩ := of_eval_bind_ok h
    obtain ⟨hname, ht₁⟩ := of_eval_ofExcept_ok hrequire
    rw [ht₁] at h
    have hstream : customFieldsStream tenantId definition.name = some stream := requireStream_ok hname
    obtain ⟨log, t₂, hread, h⟩ := of_eval_bind_ok h
    obtain ⟨hlog, ht₂⟩ := EventLogs.of_eval_readStream hread
    rw [ht₂] at h
    obtain ⟨rest, t₃, hrest, h⟩ := of_eval_bind_ok h
    obtain ⟨hlegacy, ht₃, hstreams⟩ := ih (fun other hother => hdoctypes other (List.mem_cons_of_mem _ hother)) hrest
    have hpair := Prod.mk.inj h
    refine ⟨?_, hpair.2.symm.trans ht₃, ?_⟩
    · rw [← Except.ok.inj hpair.1, hlegacy, hlog,
        hok.legacy tenantId definition (hdoctypes definition List.mem_cons_self) stream hstream]
      unfold legacyLogs
      rw [List.flatMap_cons, hstream]
      rfl
    · intro other hother
      rcases List.mem_cons.mp hother with rfl | hin
      · exact ⟨stream, hstream⟩
      · exact hstreams other hin

/-- **A DocType that resolves with its custom fields** is made of the view of the state. -/
theorem eval_customFieldsDocType (hok : MetadataOK options init logs) {base : DocTypeDefinition}
    (hbase : base ∈ options.registry.doctypes)
    (h : (CustomFieldService.effectiveDocType options.fieldProperties.customFields base.name tenantId).eval
      (EventLogs.reply conflict answer) logs = (.ok doctype, t)) :
    t = logs ∧ doctype.name = base.name ∧
      (∃ catalog legacy, customFieldsCatalogStream tenantId = some catalog ∧
        customFieldsStream tenantId base.name = some legacy) ∧
      ∀ streams, Named tenantId base.name streams →
        MadeOf options.checks base ((registeredView options init tenantId base streams logs).Has tenantId base)
          (fun _ => none) doctype := by
  obtain ⟨definition, t₁, hget, h⟩ := of_eval_bind_ok h
  obtain ⟨hdefinition, ht₁⟩ := of_eval_ofExcept_ok hget
  have hsame : definition = base := Except.ok.inj (hdefinition.symm.trans (ModelRegistry.get_mem hbase))
  rw [ht₁, hsame] at h
  obtain ⟨events, t₂, hevents, h⟩ := of_eval_bind_ok h
  obtain ⟨hdoctype, ht⟩ := of_eval_ofExcept_ok h
  obtain ⟨catalog, t₃, hrequire, hevents⟩ := of_eval_bind_ok hevents
  obtain ⟨hname, ht₃⟩ := of_eval_ofExcept_ok hrequire
  rw [ht₃] at hevents
  have hcatalog : customFieldsCatalogStream tenantId = some catalog := requireStream_ok hname
  obtain ⟨log, t₄, hread, hevents⟩ := of_eval_bind_ok hevents
  obtain ⟨hlog, ht₄⟩ := EventLogs.of_eval_readStream hread
  rw [ht₄] at hevents
  obtain ⟨legacy, t₅, hlegacyEvents, hevents⟩ := of_eval_bind_ok hevents
  obtain ⟨hlegacy, ht₅, hstreams⟩ := eval_legacyEvents hok (fun _ hin => hin) hlegacyEvents
  have hpair := Prod.mk.inj hevents
  obtain ⟨legacyStream, hlegacyStream⟩ := hstreams base hbase
  refine ⟨ht.trans (hpair.2.symm.trans ht₅), name_of_effectiveDocTypeOf hdoctype,
    ⟨catalog, legacyStream, hcatalog, hlegacyStream⟩, ?_⟩
  intro streams hnamed
  have hsameCatalog : catalog = streams.catalog := Option.some.inj (hcatalog.symm.trans hnamed.catalog)
  apply madeOf_effectiveDocTypeOf _ hdoctype
  intro field
  rw [← Except.ok.inj hpair.1]
  apply enables_stateFromEvents rfl
  rw [hlegacy, hlog, hsameCatalog, List.map_append, ownEvents, List.filter_append]
  rfl

/-- **A DocType that resolves with its overrides** is made of the view of the state. -/
theorem eval_fieldPropertiesDocType (hok : MetadataOK options init logs)
    (h : (FieldPropertyService.effectiveDocType options.fieldProperties doctypeName tenantId).eval
      (EventLogs.reply conflict answer) logs = (.ok doctype, t)) :
    t = logs ∧ ∃ base ∈ options.registry.doctypes, base.name = doctypeName ∧ doctype.name = base.name ∧
      ∃ streams, Named tenantId base.name streams ∧
        MadeOf options.checks base ((registeredView options init tenantId base streams logs).Has tenantId base)
          ((registeredView options init tenantId base streams logs).overrides tenantId base) doctype := by
  obtain ⟨composed, t₁, hcomposed, h⟩ := of_eval_bind_ok h
  obtain ⟨base, t₂, hget, hcomposed⟩ := of_eval_bind_ok hcomposed
  obtain ⟨hregistered, ht₂⟩ := of_eval_ofExcept_ok hget
  rw [ht₂] at hcomposed
  obtain ⟨hbase, hname⟩ := ModelRegistry.get_ok hregistered
  obtain ⟨ht₁, hcomposedName, ⟨catalog, legacy, _, hlegacy⟩, hmade⟩ := eval_customFieldsDocType hok hbase hcomposed
  rw [ht₁, hcomposedName] at h
  obtain ⟨state, t₃, hstate, h⟩ := of_eval_bind_ok h
  obtain ⟨hdoctype, ht⟩ := of_eval_ofExcept_ok h
  obtain ⟨overrides, t₄, hrequire, hstate⟩ := of_eval_bind_ok hstate
  obtain ⟨hoverridesName, ht₄⟩ := of_eval_ofExcept_ok hrequire
  rw [ht₄] at hstate
  have hoverrides : fieldPropertyOverridesStream tenantId = some overrides := requireStream_ok hoverridesName
  obtain ⟨log, t₅, hread, hstate⟩ := of_eval_bind_ok hstate
  obtain ⟨hlog, ht₅⟩ := EventLogs.of_eval_readStream hread
  have hpair := Prod.mk.inj hstate
  have ht₃ : t₃ = logs := hpair.2.symm.trans ht₅
  -- the name of the DocType can be escaped, so its other streams have names
  obtain ⟨revision, hrevision⟩ : ∃ revision, metadataRevisionStream tenantId base.name = some revision := by
    unfold customFieldsStream documentStream at hlegacy
    simp only [Option.bind_eq_bind, Option.bind_eq_some_iff] at hlegacy
    obtain ⟨tenant, htenant, _, _, name, hescaped, _⟩ := hlegacy
    unfold metadataRevisionStream documentStream
    rw [htenant, hescaped]
    exact ⟨_, rfl⟩
  obtain ⟨streams, hnamed, _⟩ := exists_named hrevision
  have hsameOverrides : overrides = streams.overrides := Option.some.inj (hoverrides.symm.trans hnamed.overrides)
  refine ⟨ht.trans ht₃, base, hbase, hname, (name_of_applyFieldPropertyOverrides hdoctype).trans hcomposedName, streams,
    hnamed, ?_⟩
  apply madeOf_properties (hmade streams hnamed) _ hdoctype
  intro fieldName
  rw [← Except.ok.inj hpair.1]
  apply overridesOf_stateFor
  · rw [hlog]
    exact hok.numbered overrides
  · rw [hlog, hsameOverrides]
    rfl

end Alone

/-! ## Runs -/

/-- Where commands start from: nothing has been changed yet, by these versions of the services. -/
structure Fresh (init : MetadataStore) : Prop where
  numbered : ∀ stream, Numbered 0 (init stream)
  empty : ∀ tenantId doctype streams, Named tenantId doctype streams →
    (∀ source, init (streams.source source) = []) ∧ init streams.revision = []

section Runs

variable {options : NamingService.Options} {init logs : MetadataStore}

theorem Fresh.metadataOK (h : Fresh init) : MetadataOK options init init := by
  have hown : ∀ tenantId doctype streams, Named tenantId doctype streams → ∀ source, ownOf doctype streams init source = [] := by
    intro tenantId doctype streams hnamed source
    rw [ownOf, (h.empty tenantId doctype streams hnamed).1 source]
    rfl
  constructor
  · exact h.numbered
  · exact fun _ _ _ _ _ => rfl
  · intro tenantId doctype streams hnamed
    unfold ownCount
    rw [hown _ _ _ hnamed, hown _ _ _ hnamed, hown _ _ _ hnamed, (h.empty _ _ _ hnamed).2]
    rfl
  · intro tenantId streams base _ hnamed strategy hstrategy
    have hnone : (registeredView options init tenantId base streams init).naming = [] := hown _ _ _ hnamed .naming
    rw [MetadataView.strategy, hnone] at hstrategy
    cases hstrategy

/-- **The invariant of runs.** -/
theorem run_metadataOK (hinit : Fresh init) {threads : List (MetadataCommand × MetadataProgram Unit)}
    {steps : List (RunStep MetadataCommand MetadataStore MetadataAction MetadataReply)}
    (hrun : Run (EventLogs.exec CustomFieldService.metadataCalls) (MetadataCommand.start options) (fun _ => True) init
      threads logs steps) : MetadataOK options init logs :=
  EventLogs.run hrun (fun _ _ => trivial) hinit.metadataOK (fun command _ _ _ => wp_start command)

/-- **Runtime naming stays valid.** In every state of every run in which a DocType resolves with its custom fields and
their overrides, it resolves with its naming strategy; and what a series refers to is there. -/
theorem naming_applies (hinit : Fresh init) {threads : List (MetadataCommand × MetadataProgram Unit)}
    {steps : List (RunStep MetadataCommand MetadataStore MetadataAction MetadataReply)}
    (hrun : Run (EventLogs.exec CustomFieldService.metadataCalls) (MetadataCommand.start options) (fun _ => True) init
      threads logs steps) {tenantId : TenantId} {doctypeName : DocTypeName} {resolved : DocTypeDefinition}
    {conflict : FrameworkError} {answer : MetadataStore → (call : MetadataCall) → call.Reply}
    (hresolves : ((FieldPropertyService.effectiveDocType options.fieldProperties doctypeName tenantId).eval
      (EventLogs.reply conflict answer) logs).1 = .ok resolved) :
    ∃ named, ((NamingService.effectiveDocType options doctypeName tenantId).eval (EventLogs.reply conflict answer) logs).1 =
        .ok named ∧
      named.fields = resolved.fields ∧ ∀ series, named.naming = some (.series series) → SeriesFieldsOK named series := by
  have hok : MetadataOK options init logs := run_metadataOK hinit hrun
  generalize heval : (FieldPropertyService.effectiveDocType options.fieldProperties doctypeName tenantId).eval
    (EventLogs.reply conflict answer) logs = result at hresolves
  obtain ⟨outcome, t⟩ := result
  obtain rfl : outcome = .ok resolved := hresolves
  obtain ⟨ht, base, hbase, hname, hresolvedName, streams, hnamed, hmade⟩ := eval_fieldPropertiesDocType hok heval
  subst ht hname
  have hnaming : namingConfigurationStream tenantId resolved.name = some streams.naming := by
    rw [hresolvedName]
    exact hnamed.naming
  -- the strategy in force is valid on what the DocType resolves to
  generalize hstate : foldNamingConfiguration tenantId resolved (t streams.naming) = state
  have hruntime : state.runtimeStrategy = (registeredView options init tenantId base streams t).strategy base := by
    rw [← hstate]
    exact runtimeStrategy_stateFor (hok.numbered streams.naming) hresolvedName rfl
  have heffective : state.effectiveStrategy = state.runtimeStrategy.or resolved.naming := by
    rw [← hstate]
    rfl
  have hvalid : ∀ strategy, state.effectiveStrategy = some strategy →
      normalizeNamingStrategy options.checks.safeRegex resolved strategy = .ok strategy := by
    intro strategy hstrategy
    rw [heffective] at hstrategy
    cases hsaved : state.runtimeStrategy with
    | none =>
      rw [hsaved, Option.none_or, hmade.naming] at hstrategy
      exact hmade.static_valid hstrategy
    | some saved =>
      rw [hsaved, Option.some_or] at hstrategy
      have hholds := hok.holds tenantId streams base hbase hnamed strategy (by rw [← hruntime, hsaved, hstrategy])
      exact hholds.valid hmade
  have happlied : applyNamingConfigurationToDocType options.checks resolved state =
      .ok { resolved with naming := state.effectiveStrategy } := by
    apply applyNamingConfigurationToDocType_ok _ hvalid
    rw [← hstate]
    rfl
  refine ⟨{ resolved with naming := state.effectiveStrategy }, ?_, rfl, ?_⟩
  · have hpre : (NamingService.preNamingDocTypeFor options base.name tenantId).eval (EventLogs.reply conflict answer) t =
        (.ok resolved, t) := by
      rw [NamingService.preNamingDocTypeFor, eval_bind_ok (eval_ofExcept_ok (ModelRegistry.get_mem hbase) t)]
      exact heval
    have hread : (NamingService.stateFor tenantId resolved).eval (EventLogs.reply conflict answer) t = (.ok state, t) := by
      have hrequired : requireStream (namingConfigurationStream tenantId resolved.name) = .ok streams.naming := by
        rw [hnaming]
        rfl
      rw [NamingService.stateFor, eval_bind_ok (eval_ofExcept_ok hrequired t), ← hstate]
      rfl
    rw [NamingService.effectiveDocType, eval_bind_ok hpre, eval_bind_ok hread, eval_ofExcept]
    exact happlied
  · intro series hseries
    have hnormalized := hvalid (.series series) hseries
    have hkept : normalizeNamingStrategy options.checks.safeRegex { resolved with naming := state.effectiveStrategy }
        (.series series) = .ok (.series series) := by
      refine normalizeNamingStrategy_le ?_ ?_ _ hnormalized
      · intro name field hfield
        exact ⟨field, hfield, rfl⟩
      · intro _ name _ _ field field' hfield hfield' hreadOnly hnoCopy
        have hsame : field = field' := Option.some.inj (hfield.symm.trans hfield')
        rw [← hsame]
        exact ⟨hreadOnly, hnoCopy⟩
    exact normalizeNamingStrategy_series hkept

end Runs

namespace Tickets

def registry : ModelRegistry where
  doctypes := [{ name := js "Ticket", fields := [{ name := js "subject", type := .text }] }]
  names := by decide +kernel
  identifiers := by decide +kernel

def services : NamingService.Options where
  fieldProperties :=
    { customFields :=
        { registry := registry
          adminRoles := [js "System Manager"]
          checks := { canonicalize := id, safeRegex := fun _ _ => .ok (fun _ => true)
                      assertViewsAndRules := fun _ => .ok (), assertDefaultValuesValid := fun _ => .ok () }
          localeCompare := fun _ _ => .eq }
      adminRoles := [js "System Manager"] }
  adminRoles := [js "System Manager"]

def manager : Actor := { id := js "owner@example.com", roles := [js "System Manager"] }

/-- The strategy of the tickets. -/
def name (strategy : NamingStrategy) : MetadataCommand :=
  .saveNaming { actor := manager, doctype := js "Ticket", strategy }

/-- The number of a ticket is a custom field that the series fills in; then somebody wants to make it editable. -/
def commands : List MetadataCommand :=
  [.saveField { actor := manager, doctype := js "Ticket"
                field := { name := js "number", type := .text, readOnly := some true, noCopy := some true } },
   name (.series { pattern := js "TKT-####", targetField := some (js "number") }),
   .saveProperty { actor := manager, doctype := js "Ticket", fieldName := js "number"
                   overrides := { readOnly := some false } },
   .disableField { actor := manager, doctype := js "Ticket", fieldName := js "number" }]

def now (_ : MetadataStore) : (call : MetadataCall) → call.Reply
  | .now => js "2026-01-05T00:00:00.000Z"

def reply : MetadataStore → (action : MetadataAction) → MetadataReply action × MetadataStore :=
  EventLogs.reply (.conflict (js "Expected another version")) now

/-- The state that commands lead to, one after the other. -/
def logsOf (commands : List MetadataCommand) : MetadataStore :=
  Program.evalAll reply (MetadataCommand.start services) commands (fun _ => [])

theorem exec_reply (logs : MetadataStore) (action : MetadataAction) :
    EventLogs.exec CustomFieldService.metadataCalls logs action (reply logs action).1 (reply logs action).2 :=
  EventLogs.exec_reply (fun _ _ => trivial) logs action

theorem fresh : Fresh (fun _ => []) := ⟨fun _ => trivial, fun _ _ _ _ => ⟨fun _ => rfl, rfl⟩⟩

/-- The tickets, as they resolve without and with their strategy. -/
def resolved (logs : MetadataStore) : Except FrameworkError DocTypeDefinition :=
  ((FieldPropertyService.effectiveDocType services.fieldProperties (js "Ticket") defaultTenantId).eval reply logs).1

def named (logs : MetadataStore) : Except FrameworkError DocTypeDefinition :=
  ((NamingService.effectiveDocType services (js "Ticket") defaultTenantId).eval reply logs).1

end Tickets

/-- The edits of the target are refused, and the series stays. -/
theorem naming_applies_ticket :
    ∃ named series, Tickets.named (Tickets.logsOf Tickets.commands) = .ok named ∧
      named.naming = some (.series series) ∧ series.targetField = some (js "number") ∧ SeriesFieldsOK named series := by
  obtain ⟨threads, hrun⟩ := Program.run_evalAll Tickets.exec_reply Tickets.commands (fun _ _ => trivial) Run.nil
  have hok : (Tickets.resolved (Tickets.logsOf Tickets.commands)).isOk = true := by decide +kernel
  cases hresolved : Tickets.resolved (Tickets.logsOf Tickets.commands) with
  | error e =>
    rw [hresolved] at hok
    cases hok
  | ok resolved =>
    obtain ⟨named, hnamed, _, hseries⟩ := naming_applies Tickets.fresh hrun hresolved
    have hnaming : (Tickets.named (Tickets.logsOf Tickets.commands)).toOption.bind (·.naming) =
        some (.series { pattern := js "TKT-####", targetField := some (js "number") }) := by
      decide +kernel
    have hsame : Tickets.named (Tickets.logsOf Tickets.commands) = .ok named := hnamed
    rw [hsame] at hnaming
    exact ⟨named, _, hsame, hnaming, rfl, hseries _ hnaming⟩

/-- A strategy that is no series is saved without a look at the fields that it refers to. -/
theorem not_naming_fields_exist :
    ∃ threads steps, Run (EventLogs.exec CustomFieldService.metadataCalls) (MetadataCommand.start Tickets.services)
        (fun _ => True) (fun _ => []) threads (Tickets.logsOf [Tickets.name (.field (js "reference"))]) steps ∧
      ∃ named, Tickets.named (Tickets.logsOf [Tickets.name (.field (js "reference"))]) = .ok named ∧
        named.naming = some (.field (js "reference")) ∧ named.field? (js "reference") = none := by
  obtain ⟨threads, hrun⟩ := Program.run_evalAll Tickets.exec_reply [Tickets.name (.field (js "reference"))]
    (fun _ _ => trivial) Run.nil
  refine ⟨threads, _, hrun, ?_⟩
  have hfields : (Tickets.named (Tickets.logsOf [Tickets.name (.field (js "reference"))])).toOption.map
      (fun named => (named.naming, (named.field? (js "reference")).isNone)) =
        some (some (.field (js "reference")), true) := by
    decide +kernel
  obtain ⟨named, hnamed, hpair⟩ := Option.map_eq_some_iff.mp hfields
  rw [Prod.mk.injEq, Option.isNone_iff_eq_none] at hpair
  refine ⟨named, ?_, hpair⟩
  cases heval : Tickets.named (Tickets.logsOf [Tickets.name (.field (js "reference"))]) with
  | error e =>
    rw [heval] at hnamed
    cases hnamed
  | ok resolved =>
    rw [heval] at hnamed
    rw [Option.some.inj hnamed]

end RuntimeNaming
