import CfFrappe.Application.NestedTables
import CfFrappe.Lib.Traces

set_option autoImplicit false

/-! # Nested tables in runs

Commands for any DocTypes of any tenants interleave. What a command has read of a catalogue is a part of what it holds
later, and an event goes in only if the catalogue is still what was read: then what was checked is what holds.
So the graph of every tenant stays acyclic (`tables_acyclic`).
-/

open Utf CustomFieldPolicy
open SharedState (wp_checked wp_mono wp_ofExcept wp_pure wp_then wp_throw)

namespace CustomFieldService

variable {options : Options} {tenantId : TenantId}

/-! ## What a mutation keeps -/

/-- What holds of a tenant's streams. -/
structure CatalogOK (options : Options) (tenantId : TenantId) (logs : MetadataStore) (catalog : StreamName) : Prop where
  events : ∀ event ∈ logs catalog, isCustomFieldEvent event.event = true
  legacy : ∀ doctype ∈ options.registry.doctypes, ∀ stream, customFieldsStream tenantId doctype.name = some stream →
    logs stream = []
  acyclic : (tables options tenantId (logs catalog)).Acyclic

/-- **The invariant**: the graph of every tenant is acyclic. -/
structure TablesOK (options : Options) (logs : MetadataStore) : Prop where
  numbered : ∀ stream, Numbered 0 (logs stream)
  catalogs : ∀ tenantId catalog, customFieldsCatalogStream tenantId = some catalog →
    CatalogOK options tenantId logs catalog

abbrev metadataShared (options : Options) : SharedState MetadataStore MetadataAction MetadataReply :=
  EventLogs.shared FrameworkError metadataCalls AnyAction (TablesOK options)

abbrev FieldWp {α : Type} (options : Options) (p : MetadataProgram α) (Q : α → MetadataStore → Prop)
    (logs : MetadataStore) : Prop := (metadataShared options).Wp p Q logs

/-- The names of the streams are apart. -/
theorem catalog_ne_legacy {tenantId' : TenantId} {doctype : DocTypeDefinition}
    (hdoctype : doctype ∈ options.registry.doctypes) {catalog legacy : StreamName}
    (hcatalog : customFieldsCatalogStream tenantId = some catalog)
    (hlegacy : customFieldsStream tenantId' doctype.name = some legacy) : legacy ≠ catalog := by
  rintro rfl
  have hparts := StreamRef.documentStream_injective hlegacy hcatalog
  simp only [Prod.mk.injEq] at hparts
  have hname := options.registry.identifiers doctype hdoctype
  rw [hparts.2.2] at hname
  exact absurd hname (by decide)

theorem catalog_ne_revision {tenantId' : TenantId} {doctype : DocTypeName} {catalog revision : StreamName}
    (hcatalog : customFieldsCatalogStream tenantId = some catalog)
    (hrevision : metadataRevisionStream tenantId' doctype = some revision) : catalog ≠ revision := by
  rintro rfl
  have hparts := StreamRef.documentStream_injective hcatalog hrevision
  simp only [Prod.mk.injEq] at hparts
  exact absurd hparts.2.1 (by decide)

theorem legacy_ne_revision {tenantId' : TenantId} {doctype doctype' : DocTypeName} {legacy revision : StreamName}
    (hlegacy : customFieldsStream tenantId doctype = some legacy)
    (hrevision : metadataRevisionStream tenantId' doctype' = some revision) : legacy ≠ revision := by
  rintro rfl
  have hparts := StreamRef.documentStream_injective hlegacy hrevision
  simp only [Prod.mk.injEq] at hparts
  exact absurd hparts.2.1 (by decide)

theorem lastSequence_numbered {log : MetadataLog} (h : Numbered 0 log) : lastSequence log = log.length := by
  -- by induction on the log, from any version
  have hfrom : ∀ (log : MetadataLog) (version : Nat), Numbered version log →
      log.foldl (fun version event => max version event.sequence) version = version + log.length := by
    intro log
    induction log with
    | nil => exact fun version _ => rfl
    | cons event log ih =>
      intro version hnumbered
      have hmax : max version event.sequence = version + 1 := by
        rw [hnumbered.1]
        omega
      rw [List.foldl_cons, hmax, ih _ hnumbered.2, List.length_cons]
      omega
  rw [lastSequence, hfrom log 0 h, Nat.zero_add]

theorem customFieldEvents_eq {log : MetadataLog} (h : ∀ event ∈ log, isCustomFieldEvent event.event = true) :
    customFieldEvents log = log := List.filter_eq_self.mpr h

/-- **A mutation**: its event goes in behind what was read, or not at all. -/
theorem tablesOK_pushAll {logs : MetadataStore} (h : TablesOK options logs) {catalog revision : StreamName}
    (hcatalog : customFieldsCatalogStream tenantId = some catalog) {input : MetadataMutation}
    (hrevision : metadataRevisionStream input.tenantId input.doctype = some revision)
    (hsource : input.sourceStream = catalog) (hevent : isCustomFieldEvent input.sourceEvent = true)
    (hacyclic : ∀ sequence, (tables options tenantId (logs catalog ++ [⟨sequence, input.sourceEvent⟩])).Acyclic) :
    TablesOK options (logs.pushAll (input.writes revision)) := by
  have hapart : catalog ≠ revision := catalog_ne_revision hcatalog hrevision
  have hwritten : logs.pushAll (input.writes revision) catalog =
      logs catalog ++ [⟨(logs catalog).length + 1, input.sourceEvent⟩] := by
    have hne : input.sourceStream ≠ revision := by
      rw [hsource]
      exact hapart
    rw [← hsource]
    exact MetadataMutation.pushAll_source hne
  -- only the catalogue and the revision are written
  have hsame : ∀ stream, stream ≠ catalog → stream ≠ revision → logs.pushAll (input.writes revision) stream = logs stream := by
    intro stream hne hne'
    apply MetadataMutation.pushAll_other _ hne'
    rw [hsource]
    exact hne
  constructor
  · exact EventLogs.numbered_pushAll h.numbered _
  · intro tenantId' catalog' hcatalog'
    have hok := h.catalogs tenantId' catalog' hcatalog'
    have hlegacy : ∀ doctype ∈ options.registry.doctypes, ∀ stream, customFieldsStream tenantId' doctype.name = some stream →
        logs.pushAll (input.writes revision) stream = [] := by
      intro doctype hdoctype stream hstream
      rw [hsame stream (catalog_ne_legacy hdoctype hcatalog hstream) (legacy_ne_revision hstream hrevision)]
      exact hok.legacy doctype hdoctype stream hstream
    by_cases htenant : catalog' = catalog
    · subst htenant
      have hparts := StreamRef.documentStream_injective hcatalog' hcatalog
      simp only [Prod.mk.injEq, and_true] at hparts
      subst hparts
      refine ⟨?_, hlegacy, ?_⟩
      · rw [hwritten]
        intro event hin
        rcases List.mem_append.mp hin with hold | hnew
        · exact hok.events event hold
        · rw [List.mem_singleton.mp hnew]
          exact hevent
      · rw [hwritten]
        exact hacyclic _
    · have hother := hsame catalog' htenant (catalog_ne_revision hcatalog' hrevision)
      refine ⟨?_, hlegacy, ?_⟩
      · rw [hother]
        exact hok.events
      · rw [hother]
        exact hok.acyclic

/-! ## The programs -/

section Programs

variable {logs : MetadataStore} {catalog : StreamName} {log : MetadataLog}

/-- Older versions have written nothing. -/
theorem wp_legacyEvents (hcatalog : customFieldsCatalogStream tenantId = some catalog) {Q : MetadataLog → MetadataStore → Prop}
    {doctypes : List DocTypeDefinition} (hdoctypes : ∀ doctype ∈ doctypes, doctype ∈ options.registry.doctypes)
    (h : ∀ t, logs.Later t → Q [] t) : FieldWp options (legacyEvents tenantId doctypes) Q logs := by
  induction doctypes generalizing logs Q with
  | nil => exact wp_pure (h logs (.refl logs))
  | cons doctype doctypes ih =>
    apply wp_checked
    intro stream hstream
    apply wp_then
    apply EventLogs.wp_readStream
    intro t hlater hok
    have hempty : t stream = [] :=
      (hok.catalogs tenantId catalog hcatalog).legacy doctype (hdoctypes doctype List.mem_cons_self) stream
        (requireStream_ok hstream)
    rw [hempty]
    apply wp_then
    apply ih (fun other hother => hdoctypes other (List.mem_cons_of_mem _ hother))
    intro u hlater'
    exact wp_pure (h u (hlater.trans hlater'))

/-- **What is read of a tenant**: the catalogue as it was, which makes an acyclic graph. -/
theorem wp_tenantCustomFieldEvents {Q : CustomFieldEventSet → MetadataStore → Prop}
    (h : ∀ catalog log t, customFieldsCatalogStream tenantId = some catalog → log <+: t catalog →
      (tables options tenantId log).Acyclic → Q (readOf log) t) :
    FieldWp options (tenantCustomFieldEvents options tenantId) Q logs := by
  apply wp_checked
  intro catalog hrequire
  have hcatalog : customFieldsCatalogStream tenantId = some catalog := requireStream_ok hrequire
  apply wp_then
  apply EventLogs.wp_readStream
  intro t _ hok
  have hread := hok.catalogs tenantId catalog hcatalog
  apply wp_then
  apply wp_legacyEvents hcatalog (fun doctype hdoctype => hdoctype)
  intro u hlater
  apply wp_pure
  rw [customFieldEvents_eq hread.events, lastSequence_numbered (hok.numbered catalog)]
  exact h catalog (t catalog) u hcatalog (hlater catalog) hread.acyclic

theorem wp_assertNamingConfigurationRemainsValid {base : DocTypeDefinition} {state : CustomFieldState}
    {Q : Unit → MetadataStore → Prop} (h : ∀ t, logs.Later t → Q () t) :
    FieldWp options (assertNamingConfigurationRemainsValid options tenantId base state) Q logs := by
  apply wp_checked
  intro withCustomFields _
  apply wp_checked
  intro stream _
  apply wp_then
  apply EventLogs.wp_readStream
  intro t hlater _
  apply wp_checked
  intro _ _
  exact wp_pure (h t hlater)

/-- **The append of a change**: if it is made, the catalogue is the one that was read. -/
theorem wp_appendChange (hcatalog : customFieldsCatalogStream tenantId = some catalog) (hlog : log <+: logs catalog)
    {doctype : DocTypeDefinition} {state : CustomFieldState} (hversion : state.version = log.length)
    {payload : MetadataPayload} {metadataRevision : Nat}
    (hevent : ∀ occurredAt, isCustomFieldEvent { payload, occurredAt } = true)
    (hacyclic : ∀ sequence occurredAt,
      (tables options tenantId (log ++ [⟨sequence, { payload, occurredAt }⟩])).Acyclic) :
    FieldWp options (appendChange options tenantId doctype (readOf log) state payload metadataRevision)
      (fun _ _ => True) logs := by
  apply wp_checked
  intro stream hrequire
  have hstream : stream = catalog := by
    have hsame := (requireStream_ok hrequire).symm.trans hcatalog
    exact Option.some.inj hsame
  apply wp_then
  apply EventLogs.wp_other
  intro t₁ occurredAt hlater₁ _ _
  apply wp_then
  apply wp_checked
  intro revisionStream hrevision
  apply wp_then
  apply EventLogs.wp_appendBatch
  · intro t error _ _
    exact wp_then (wp_ofExcept (fun saved hsaved => by cases hsaved))
  · intro t hlater hok _ haccepts
    have hlength : (t stream).length = state.version := haccepts _ List.mem_cons_self
    -- the append is accepted at the version that was read, so the log has not grown since
    have hread : t catalog = log := by
      have hgrown : log <+: t catalog := hlog.trans ((hlater₁.trans hlater) catalog)
      rw [hstream, hversion] at hlength
      exact (hgrown.eq_of_length hlength.symm).symm
    constructor
    · apply tablesOK_pushAll hok hcatalog (requireStream_ok hrevision) hstream (hevent occurredAt)
      intro sequence
      rw [hread]
      exact hacyclic sequence occurredAt
    · apply wp_checked
      intro saved _
      cases saved.find? (fun event => event.1 == stream) with
      | none => exact wp_throw
      | some source => exact wp_pure (wp_pure trivial)

/-- The last check of a field before it is saved is the one of its tables. -/
theorem checkedField_acyclic {doctype : DocTypeDefinition} {field saved : PersistedFieldDefinition}
    {states : List CustomFieldState} {now : Timestamp}
    (h : checkedField options doctype tenantId field states now = .ok saved) :
    assertCustomTableGraphAcyclicFrom doctype.name options.registry.doctypes
      (projectPendingCustomFieldState tenantId states doctype.name saved now) (some saved.name) = .ok () := by
  obtain ⟨_, _, h⟩ := except_bind_eq_ok h
  obtain ⟨_, _, h⟩ := except_bind_eq_ok h
  obtain ⟨normalized, _, h⟩ := except_bind_eq_ok h
  obtain ⟨_, _, h⟩ := except_bind_eq_ok h
  obtain ⟨_, _, h⟩ := except_bind_eq_ok h
  obtain ⟨_, _, h⟩ := except_bind_eq_ok h
  obtain ⟨_, hcheck, h⟩ := except_bind_eq_ok h
  have hsaved : normalized = saved := Except.ok.inj h
  rw [← hsaved]
  exact hcheck

/-- **Saving a field.** -/
theorem wp_saveField (command : SaveCustomFieldCommand) :
    FieldWp options (saveField options command) (fun _ _ => True) logs := by
  apply wp_checked
  intro _ _
  apply wp_checked
  intro doctype _
  apply wp_checked
  intro tenantId _
  apply wp_then
  apply wp_checked
  intro revisionStream _
  apply EventLogs.wp_currentVersion
  intro t _ _
  apply wp_checked
  intro normalized _
  apply wp_then
  apply wp_tenantCustomFieldEvents
  intro catalog log t₁ hcatalog hlog hgraph
  apply wp_then
  apply EventLogs.wp_other
  intro t₂ now hlater₂ _ _
  apply wp_checked
  intro field hchecked
  apply wp_checked
  intro _ _
  -- where the field is not the saved one already
  have happend : FieldWp options
      (do
        let now ← clockNow
        assertNamingConfigurationRemainsValid options tenantId doctype
          (projectPendingState tenantId (stateFromEvents options tenantId doctype.name (readOf log)) field now)
        appendChange options tenantId doctype (readOf log) (stateFromEvents options tenantId doctype.name (readOf log))
          (.customFieldSaved doctype.name field) (t revisionStream).length)
      (fun _ _ => True) t₂ := by
    apply wp_then
    apply EventLogs.wp_other
    intro t₃ pendingAt hlater₃ _ _
    apply wp_then
    apply wp_assertNamingConfigurationRemainsValid
    intro t₄ hlater₄
    apply wp_appendChange hcatalog
    · exact hlog.trans (((hlater₂.trans hlater₃).trans hlater₄) catalog)
    · rfl
    · intro occurredAt
      rfl
    · intro sequence occurredAt
      exact tables_saved_acyclic hgraph (checkedField_acyclic hchecked)
  cases planCustomFieldSave
      (findCustomFieldEntry (stateFromEvents options tenantId doctype.name (readOf log)) field.name) field with
  | noop => exact wp_pure trivial
  | missing error => exact happend
  | append => exact happend

/-- **Disabling a field.** -/
theorem wp_disableField (command : DisableCustomFieldCommand) :
    FieldWp options (disableField options command) (fun _ _ => True) logs := by
  apply wp_checked
  intro _ _
  apply wp_checked
  intro doctype _
  apply wp_checked
  intro tenantId _
  apply wp_then
  apply wp_checked
  intro revisionStream _
  apply EventLogs.wp_currentVersion
  intro t _ _
  apply wp_checked
  intro fieldName _
  apply wp_then
  apply wp_tenantCustomFieldEvents
  intro catalog log t₁ hcatalog hlog hgraph
  apply wp_checked
  intro _ _
  cases planCustomFieldDisable
      (findCustomFieldEntry (stateFromEvents options tenantId doctype.name (readOf log)) fieldName) fieldName with
  | noop => exact wp_pure trivial
  | missing error => exact wp_throw
  | append =>
    apply wp_then
    apply EventLogs.wp_other
    intro t₂ pendingAt hlater₂ _ _
    apply wp_then
    apply wp_assertNamingConfigurationRemainsValid
    intro t₃ hlater₃
    apply wp_appendChange hcatalog
    · exact hlog.trans ((hlater₂.trans hlater₃) catalog)
    · rfl
    · intro occurredAt
      rfl
    · intro sequence occurredAt
      exact tables_disabled_acyclic hgraph fieldName

/-- **Every command** keeps the graphs acyclic. -/
theorem wp_start (command : CustomFieldCommand) : FieldWp options (command.start options) (fun _ _ => True) logs := by
  cases command with
  | saveField command =>
    exact wp_then (wp_mono (wp_saveField command) (fun _ _ _ => wp_pure trivial))
  | disableField command =>
    exact wp_then (wp_mono (wp_disableField command) (fun _ _ _ => wp_pure trivial))
  | effectiveDocType doctypeName tenantId =>
    apply wp_then
    apply wp_checked
    intro doctype _
    apply wp_then
    apply wp_tenantCustomFieldEvents
    intro catalog log t _ _ _
    apply wp_ofExcept
    intro effective _
    exact wp_pure trivial

end Programs

/-! ## Runs -/

/-- Where commands start from: no custom fields, and nothing of older versions. -/
structure Started (options : Options) (logs : MetadataStore) : Prop where
  numbered : ∀ stream, Numbered 0 (logs stream)
  catalog : ∀ tenantId stream, customFieldsCatalogStream tenantId = some stream → logs stream = []
  legacy : ∀ tenantId, ∀ doctype ∈ options.registry.doctypes, ∀ stream,
    customFieldsStream tenantId doctype.name = some stream → logs stream = []

/-- The tables of the static fields. -/
def staticTables (registry : ModelRegistry) : PathSearch.Graph DocTypeName TableGraphEdge FrameworkError :=
  tableGraph (customFieldTableGraph registry.doctypes []) none

/-- The replies to the actions of a run. -/
def AnsweredIn (steps : List (RunStep CustomFieldCommand MetadataStore MetadataAction MetadataReply))
    (action : MetadataAction) (reply : MetadataReply action) : Prop :=
  ∃ label before after, (⟨label, before, action, reply, after⟩ : RunStep _ _ _ _) ∈ steps

theorem Started.tablesOK {logs : MetadataStore} (h : Started options logs) (hstatic : (staticTables options.registry).Acyclic) :
    TablesOK options logs := by
  constructor
  · exact h.numbered
  · intro tenantId catalog hcatalog
    have hempty : logs catalog = [] := h.catalog tenantId catalog hcatalog
    refine ⟨?_, h.legacy tenantId, ?_⟩
    · rw [hempty]
      exact fun event hevent => absurd hevent List.not_mem_nil
    · rw [hempty]
      apply hstatic.of_edges
      intro a b hedge
      rw [tables_edge_iff] at hedge
      rcases hedge with hfield | ⟨_, field, ⟨entry, hentry, _⟩, _⟩
      · exact tableGraph_edge_iff.mpr (Or.inl hfield)
      · cases hentry

section Runs

variable {init logs : MetadataStore} {threads : List (CustomFieldCommand × MetadataProgram Unit)}
variable {steps : List (RunStep CustomFieldCommand MetadataStore MetadataAction MetadataReply)}

/-- **The invariant of runs.** -/
theorem run_tablesOK (hinit : TablesOK options init)
    (hrun : Run (EventLogs.exec metadataCalls) (CustomFieldCommand.start options) (fun _ => True) init threads logs steps) :
    TablesOK options logs ∧ ∀ step ∈ steps, TablesOK options step.before := by
  have hshared : Run (metadataShared options).exec (CustomFieldCommand.start options) (fun _ => True) init threads logs
      steps := by
    apply hrun.strengthen
    intro step hstep
    exact ⟨hrun.leads.exec_of_mem hstep, trivial⟩
  have hkept := SharedState.run hshared hinit (fun command _ _ _ => wp_start command)
  exact ⟨hkept.1, fun step hstep => (hkept.2 step hstep).1⟩

theorem answeredIn_readStream (hinit : TablesOK options init)
    (hrun : Run (EventLogs.exec metadataCalls) (CustomFieldCommand.start options) (fun _ => True) init threads logs steps)
    {stream : StreamName} {log : MetadataLog} (h : AnsweredIn steps (.readStream stream) log) :
    ∃ t, TablesOK options t ∧ log = t stream := by
  obtain ⟨label, before, after, hstep⟩ := h
  have hread := hrun.leads.exec_of_mem hstep
  exact ⟨before, (run_tablesOK hinit hrun).2 _ hstep, hread.1⟩

end Runs

section Traces

variable {answers : (action : MetadataAction) → MetadataReply action → Prop}
variable {trace : List ((action : MetadataAction) × MetadataReply action)}

theorem legacyEvents_eq_nil {doctypes : List DocTypeDefinition} {legacy : MetadataLog}
    (hanswers : ∀ doctype ∈ doctypes, ∀ stream, customFieldsStream tenantId doctype.name = some stream →
      ∀ log, answers (.readStream stream) log → log = [])
    (h : Program.Traces answers (legacyEvents tenantId doctypes) trace (.ok legacy)) : legacy = [] := by
  induction doctypes generalizing trace legacy with
  | nil =>
    cases h
    rfl
  | cons doctype doctypes ih =>
    rcases h.of_bind with ⟨e, _, he⟩ | ⟨stream, _, _, hrequire, hrest, _⟩
    · cases he
    have hstream := requireStream_ok hrequire.of_ofExcept.2.symm
    rcases hrest.of_bind with ⟨e, _, he⟩ | ⟨log, _, _, hread, hrest', _⟩
    · cases he
    obtain ⟨read, hanswer, _, hlog⟩ := hread.of_perform
    have hempty : read = [] := hanswers doctype List.mem_cons_self stream hstream read hanswer
    rcases hrest'.of_bind with ⟨e, _, he⟩ | ⟨rest, _, _, htail, hpure, _⟩
    · cases he
    have hrestEmpty := ih (fun other hother => hanswers other (List.mem_cons_of_mem _ hother)) htail
    cases hpure
    rw [Except.ok.inj hlog, hempty, hrestEmpty]
    rfl

/-- **What is read in a run** is a catalogue as it once was. -/
theorem exists_readOf {events : CustomFieldEventSet}
    (hanswers : ∀ stream log, answers (.readStream stream) log → ∃ t, TablesOK options t ∧ log = t stream)
    (h : Program.Traces answers (tenantCustomFieldEvents options tenantId) trace (.ok events)) :
    ∃ log, events = readOf log ∧ (tables options tenantId log).Acyclic := by
  rcases h.of_bind with ⟨e, _, he⟩ | ⟨catalog, _, _, hrequire, hrest, _⟩
  · cases he
  have hcatalog := requireStream_ok hrequire.of_ofExcept.2.symm
  rcases hrest.of_bind with ⟨e, _, he⟩ | ⟨log, _, _, hread, hrest', _⟩
  · cases he
  obtain ⟨read, hanswer, _, hlog⟩ := hread.of_perform
  obtain ⟨t, hok, heq⟩ := hanswers catalog read hanswer
  rcases hrest'.of_bind with ⟨e, _, he⟩ | ⟨legacy, _, _, hlegacy, hpure, _⟩
  · cases he
  have hempty : legacy = [] := by
    apply legacyEvents_eq_nil _ hlegacy
    intro doctype hdoctype stream hstream other hother
    obtain ⟨u, hok', hsame⟩ := hanswers stream other hother
    rw [hsame]
    exact (hok'.catalogs tenantId catalog hcatalog).legacy doctype hdoctype stream hstream
  have hcat := hok.catalogs tenantId catalog hcatalog
  refine ⟨t catalog, ?_, hcat.acyclic⟩
  cases hpure
  rw [Except.ok.inj hlog, heq, hempty, customFieldEvents_eq hcat.events, lastSequence_numbered (hok.numbered catalog)]
  rfl

end Traces

/-- **Nested tables stay acyclic**: in every run of commands the graph of every tenant is acyclic, and what any command
reads of a tenant passes the check from every DocType. The search ends on every graph, with an error exactly if a
cycle can be reached. -/
theorem tables_acyclic (hstatic : (staticTables options.registry).Acyclic) {init logs : MetadataStore}
    (hinit : Started options init) {threads : List (CustomFieldCommand × MetadataProgram Unit)}
    {steps : List (RunStep CustomFieldCommand MetadataStore MetadataAction MetadataReply)}
    (hrun : Run (EventLogs.exec metadataCalls) (CustomFieldCommand.start options) (fun _ => True) init threads logs steps) :
    (∀ tenantId catalog, customFieldsCatalogStream tenantId = some catalog →
      (tables options tenantId (logs catalog)).Acyclic) ∧
    (∀ tenantId trace events,
      Program.Traces (AnsweredIn steps) (tenantCustomFieldEvents options tenantId) trace (.ok events) →
        ∀ doctype ∈ options.registry.doctypes,
          assertCustomTableGraphAcyclicFrom doctype.name options.registry.doctypes
            (statesFromEvents options tenantId events) none = .ok ()) ∧
    ∀ (root : DocTypeName) (doctypes : List DocTypeDefinition) (states : List CustomFieldState) (blame : Option JsString),
      (∀ fuel, (customFieldTableGraph doctypes states).length + 1 ≤ fuel →
        PathSearch.visit (tableGraph (customFieldTableGraph doctypes states) blame) fuel [] root [root] =
          some ((tableGraph (customFieldTableGraph doctypes states) blame).search root)) ∧
      ((∃ error, assertCustomTableGraphAcyclicFrom root doctypes states blame = .error error) ↔
        (tableGraph (customFieldTableGraph doctypes states) blame).ReachesCycle root) := by
  have hok := hinit.tablesOK hstatic
  refine ⟨?_, ?_, ?_⟩
  · intro tenantId catalog hcatalog
    exact ((run_tablesOK hok hrun).1.catalogs tenantId catalog hcatalog).acyclic
  · intro tenantId trace events htrace doctype _
    obtain ⟨log, hevents, hacyclic⟩ := exists_readOf (fun stream log h => answeredIn_readStream hok hrun h) htrace
    rw [hevents, assertCustomTableGraphAcyclicFrom_iff]
    exact hacyclic.not_reachesCycle doctype.name
  · intro root doctypes states blame
    constructor
    · intro fuel hfuel
      exact PathSearch.visit_eq_search _ root hfuel
    · have hpasses := assertCustomTableGraphAcyclicFrom_iff root doctypes states blame
      rw [← not_iff_not, ← hpasses]
      cases assertCustomTableGraphAcyclicFrom root doctypes states blame with
      | ok _ => simp
      | error e => simp

namespace OrderLines

/-- An order line has taxes, an order has no lines yet. -/
def registry : ModelRegistry where
  doctypes :=
    [{ name := js "Order", fields := [] },
     { name := js "OrderLine", fields := [{ name := js "taxes", type := .table, tableOf := some (js "Tax") }] },
     { name := js "Tax", fields := [] }]
  names := by decide +kernel
  identifiers := by decide +kernel

def service : Options where
  registry := registry
  adminRoles := [js "System Manager"]
  checks := { canonicalize := id, safeRegex := fun _ _ => .ok (fun _ => true)
              assertViewsAndRules := fun _ => .ok (), assertDefaultValuesValid := fun _ => .ok () }
  localeCompare _ _ := .eq

/-- A custom table field. -/
def table (doctype name tableOf : JsString) : CustomFieldCommand :=
  .saveField
    { actor := { id := js "owner@example.com", roles := [js "System Manager"] }, doctype
      field := { name, type := .table, tableOf := some tableOf } }

/-- Lines in the orders, then orders in the taxes, which would close a cycle. -/
def commands : List CustomFieldCommand :=
  [table (js "Order") (js "lines") (js "OrderLine"), table (js "Tax") (js "orders") (js "Order")]

def now : (call : MetadataCall) → call.Reply
  | .now => js "2026-01-05T00:00:00.000Z"

def reply (logs : MetadataStore) (action : MetadataAction) : MetadataReply action × MetadataStore :=
  logs.reply (.conflict (js "Expected another version")) (fun _ call => now call) action

def logs : MetadataStore := Program.evalAll reply (CustomFieldCommand.start service) commands (fun _ => [])

theorem exec_reply (logs : MetadataStore) (action : MetadataAction) :
    EventLogs.exec metadataCalls logs action (reply logs action).1 (reply logs action).2 :=
  EventLogs.exec_reply (fun _ _ => trivial) logs action

theorem started : Started service (fun _ => []) := ⟨fun _ => trivial, fun _ _ _ => rfl, fun _ _ _ _ _ => rfl⟩

theorem static_acyclic : (staticTables registry).Acyclic := by
  have hedge : ∀ a b, (staticTables registry).Edge a b → a = js "OrderLine" ∧ b = js "Tax" := by
    rintro a b ⟨edge, hin, hsource, htarget⟩
    have hone : (staticTables registry).edges = [⟨js "OrderLine", js "Tax", js "taxes", false⟩] := rfl
    rw [hone, List.mem_singleton] at hin
    rw [← hsource, ← htarget, hin]
    exact ⟨rfl, rfl⟩
  intro a hcycle
  obtain ⟨b, hfirst, _⟩ := Relation.TransGen.head'_iff.mp hcycle
  obtain ⟨c, _, hlast⟩ := Relation.TransGen.tail'_iff.mp hcycle
  have hsame : js "OrderLine" = js "Tax" := (hedge a b hfirst).1.symm.trans (hedge c a hlast).2
  exact absurd hsame (by decide +kernel)

end OrderLines

/-- The lines are saved, the orders in the taxes are not. -/
theorem tables_acyclic_orderLines :
    ∃ catalog, customFieldsCatalogStream defaultTenantId = some catalog ∧
      (OrderLines.logs catalog).map (fun event => customFieldDocType event.event) = [some (js "Order")] ∧
      (tables OrderLines.service defaultTenantId (OrderLines.logs catalog)).Acyclic := by
  obtain ⟨threads, hrun⟩ := Program.run_evalAll OrderLines.exec_reply OrderLines.commands (fun _ _ => trivial) Run.nil
  have hacyclic := (tables_acyclic OrderLines.static_acyclic OrderLines.started hrun).1
  exact ⟨_, rfl, by decide +kernel, hacyclic _ _ rfl⟩

end CustomFieldService
