import CfFrappe.Application.CustomFieldPolicy
import CfFrappe.Core.NamingConfiguration
import CfFrappe.Core.Streams
import CfFrappe.Lib.EventBatches

set_option autoImplicit false

/-! # The service of custom fields

A tenant's custom fields are events of one catalogue, and every change advances the revision of its DocType in
the same batch (`appendMetadataMutation`). The fields of a DocType are folded from the catalogue and from a stream of
its own that older versions wrote. The service is a program on the shared store of these streams.
-/

open Utf

/-- The DocTypes of an application, in the order of `list`. -/
structure ModelRegistry where
  doctypes : List DocTypeDefinition
  names : (doctypes.map (·.name)).Nodup
  identifiers : ∀ doctype ∈ doctypes, isMetadataName doctype.name = true

namespace ModelRegistry

variable (registry : ModelRegistry)

def get (name : DocTypeName) : Except FrameworkError DocTypeDefinition :=
  match registry.doctypes.find? (fun doctype => doctype.name == name) with
  | some doctype => .ok doctype
  | none => .error { code := .doctypeNotFound, message := js "DocType '" ++ name ++ js "' is not registered", status := 404 }

def has (name : DocTypeName) : Bool := registry.doctypes.any (fun doctype => doctype.name == name)

theorem get_ok {registry : ModelRegistry} {name : DocTypeName} {doctype : DocTypeDefinition}
    (h : registry.get name = .ok doctype) : doctype ∈ registry.doctypes ∧ doctype.name = name := by
  unfold get at h
  cases hfind : registry.doctypes.find? (fun doctype => doctype.name == name) with
  | none =>
    rw [hfind] at h
    cases h
  | some found =>
    rw [hfind] at h
    cases h
    exact ⟨List.mem_of_find?_eq_some hfind, by simpa using List.find?_some hfind⟩

end ModelRegistry

/-! ## The store -/

/-- Besides its streams, a service asks for the time. -/
inductive MetadataCall
  | now

def MetadataCall.Reply : MetadataCall → Type
  | .now => Timestamp

abbrev MetadataProgram (α : Type) :=
  BatchProgram StreamName MetadataEvent MetadataCall FrameworkError MetadataCall.Reply α

abbrev MetadataAction := BatchAction StreamName MetadataEvent MetadataCall

abbrev MetadataReply : MetadataAction → Type := BatchAction.Reply FrameworkError MetadataCall.Reply

abbrev MetadataStore := EventLogs StreamName MetadataEvent

def clockNow : MetadataProgram Timestamp := BatchProgram.other .now

namespace CustomFieldService

/-- Nothing is known of the time. -/
def metadataCalls (_ : MetadataStore) (call : MetadataCall) (_ : call.Reply) : Prop := True

/-- Every action of a run is one of the store. -/
abbrev AnyAction (_ : MetadataStore) (_ : MetadataAction) : Prop := True

end CustomFieldService

/-! ## Revisions -/

def metadataRevisionVersion (tenantId : TenantId) (doctype : DocTypeName) : MetadataProgram Nat := do
  let stream ← Program.ofExcept (requireStream (metadataRevisionStream tenantId doctype))
  BatchProgram.currentVersion stream

structure MetadataMutation where
  tenantId : TenantId
  doctype : DocTypeName
  sourceStream : StreamName
  sourceExpectedVersion : Nat
  sourceEvent : MetadataEvent
  metadataRevision : Nat

/-- The batch of a mutation: its event, and the next revision of the DocType. -/
def MetadataMutation.writes (input : MetadataMutation) (revisionStream : StreamName) :
    List (LogWrite StreamName MetadataEvent) :=
  [{ stream := input.sourceStream, expectedVersion := input.sourceExpectedVersion, events := [input.sourceEvent] },
   { stream := revisionStream, expectedVersion := input.metadataRevision
     events := [{ payload := .metadataRevision (input.metadataRevision + 1), occurredAt := input.sourceEvent.occurredAt }] }]

section Writes

variable {logs : MetadataStore} {input : MetadataMutation} {revisionStream : StreamName}

/-- The event goes into its stream. -/
theorem MetadataMutation.pushAll_source (hne : input.sourceStream ≠ revisionStream) :
    logs.pushAll (input.writes revisionStream) input.sourceStream =
      logs input.sourceStream ++ [⟨(logs input.sourceStream).length + 1, input.sourceEvent⟩] := by
  have hnodup : ((input.writes revisionStream).map LogWrite.stream).Nodup := by
    show [input.sourceStream, revisionStream].Nodup
    simpa using hne
  exact EventLogs.pushAll_of_mem List.mem_cons_self hnodup

/-- The revision advances by one. -/
theorem MetadataMutation.length_pushAll_revision (hne : input.sourceStream ≠ revisionStream) :
    (logs.pushAll (input.writes revisionStream) revisionStream).length = (logs revisionStream).length + 1 := by
  have hnodup : ((input.writes revisionStream).map LogWrite.stream).Nodup := by
    show [input.sourceStream, revisionStream].Nodup
    simpa using hne
  have hpush : logs.pushAll (input.writes revisionStream) revisionStream =
      logs revisionStream ++ recorded (logs revisionStream).length
        [{ payload := .metadataRevision (input.metadataRevision + 1), occurredAt := input.sourceEvent.occurredAt }] :=
    EventLogs.pushAll_of_mem (List.mem_cons_of_mem _ List.mem_cons_self) hnodup
  rw [hpush, List.length_append, recorded_length]
  rfl

/-- Nothing else changes. -/
theorem MetadataMutation.pushAll_other {stream : StreamName} (hsource : stream ≠ input.sourceStream)
    (hrevision : stream ≠ revisionStream) : logs.pushAll (input.writes revisionStream) stream = logs stream := by
  apply EventLogs.pushAll_of_notMem
  intro write hwrite
  rcases List.mem_cons.mp hwrite with rfl | hwrite
  · exact hsource
  · rw [List.mem_singleton.mp hwrite]
    exact hrevision

end Writes

/-- The saved event is the one of the source stream, as its id says. -/
def appendMetadataMutation (input : MetadataMutation) : MetadataProgram (Recorded MetadataEvent) := do
  let revisionStream ← Program.ofExcept (requireStream (metadataRevisionStream input.tenantId input.doctype))
  let appended ← BatchProgram.appendBatch (input.writes revisionStream)
  let saved ← Program.ofExcept appended
  match saved.find? (fun event => event.1 == input.sourceStream) with
  | some (_, source) => return source
  | none => .throw { code := .documentInvalid, message := js "Metadata mutation source event was not committed", status := 500 }

/-! ## The service -/

structure CustomFieldEventSet where
  catalog : MetadataLog
  legacy : MetadataLog
  catalogVersion : Nat

def withSavedCustomFieldCatalogEvents (events : CustomFieldEventSet) (saved : MetadataLog) : CustomFieldEventSet :=
  { events with
    catalog := events.catalog ++ saved
    catalogVersion := saved.foldl (fun version event => max version event.sequence) events.catalogVersion }

/-- The DocType that an event of custom fields is about. -/
def customFieldDocType (event : MetadataEvent) : Option DocTypeName :=
  match event.payload with
  | .customFieldSaved doctypeName _ | .customFieldDisabled doctypeName _ => some doctypeName
  | _ => none

structure SaveCustomFieldCommand where
  actor : Actor
  doctype : DocTypeName
  field : FieldSettings JsValue
  tenantId : Option TenantId := none
  expectedVersion : Option Nat := none

structure DisableCustomFieldCommand where
  actor : Actor
  doctype : DocTypeName
  fieldName : JsString
  tenantId : Option TenantId := none
  expectedVersion : Option Nat := none

def resolveCustomFieldTenant (actor : Actor) (tenantId : Option TenantId) : Except FrameworkError TenantId := do
  let actorTenantId := actor.tenantId.getD defaultTenantId
  let resolved := tenantId.getD actorTenantId
  ensure (resolved == actorTenantId)
    (.denied (js "Actor '" ++ actor.id ++ js "' cannot manage custom fields for tenant '" ++ resolved ++ js "'"))
  return resolved

def authorizeCustomFieldAdministration (adminRoles : List JsString) (actor : Actor) (tenantId : Option TenantId) :
    Except FrameworkError TenantId := do
  ensure (adminRoles.any (fun role => actor.roles.contains role))
    (.denied (js "Actor '" ++ actor.id ++ js "' cannot manage custom fields"))
  resolveCustomFieldTenant actor tenantId

namespace CustomFieldService

open CustomFieldPolicy

/-- What the service was made with, and the comparison of names. -/
structure Options where
  registry : ModelRegistry
  adminRoles : List JsString
  checks : DocTypeChecks
  localeCompare : JsString → JsString → Ordering

variable (options : Options)

def customFieldEvents (log : MetadataLog) : MetadataLog := log.filter (fun event => isCustomFieldEvent event.event)

/-- The streams of the DocTypes, one after the other. -/
def legacyEvents (tenantId : TenantId) : List DocTypeDefinition → MetadataProgram MetadataLog
  | [] => return []
  | doctype :: doctypes => do
      let stream ← Program.ofExcept (requireStream (customFieldsStream tenantId doctype.name))
      let log ← BatchProgram.readStream stream
      let rest ← legacyEvents tenantId doctypes
      return customFieldEvents log ++ rest

def tenantCustomFieldEvents (tenantId : TenantId) : MetadataProgram CustomFieldEventSet := do
  let stream ← Program.ofExcept (requireStream (customFieldsCatalogStream tenantId))
  let log ← BatchProgram.readStream stream
  let legacy ← legacyEvents tenantId options.registry.doctypes
  return { catalog := customFieldEvents log, legacy, catalogVersion := lastSequence (customFieldEvents log) }

def stateFromEvents (tenantId : TenantId) (doctype : DocTypeName) (events : CustomFieldEventSet) : CustomFieldState :=
  let legacyForDoctype := events.legacy.filter (fun event => customFieldDocType event.event == some doctype)
  { foldCustomFields options.localeCompare tenantId doctype
      (resequenceCustomFieldEventsForFold (legacyForDoctype ++ events.catalog)) with
    version := events.catalogVersion }

def statesFromEvents (tenantId : TenantId) (events : CustomFieldEventSet) : List CustomFieldState :=
  options.registry.doctypes.map (fun doctype => stateFromEvents options tenantId doctype.name events)

def assertNamingConfigurationRemainsValid (tenantId : TenantId) (base : DocTypeDefinition) (state : CustomFieldState) :
    MetadataProgram Unit := do
  let withCustomFields ← Program.ofExcept (applyCustomFieldsToDocType options.checks base state)
  let stream ← Program.ofExcept (requireStream (namingConfigurationStream tenantId base.name))
  let log ← BatchProgram.readStream stream
  let _ ← Program.ofExcept (applyNamingConfigurationToDocType options.checks withCustomFields
    (foldNamingConfiguration tenantId withCustomFields log))
  return ()

/-- What `effectiveDocType` does with the events that it has read. -/
def effectiveDocTypeOf (doctype : DocTypeDefinition) (tenantId : TenantId) (events : CustomFieldEventSet) :
    Except FrameworkError DocTypeDefinition := do
  let state := stateFromEvents options tenantId doctype.name events
  (state.fields.filter (·.enabled)).forM (fun entry => do
    assertCustomFieldRuntimeSupported entry.field
    assertCustomFieldReferencesResolve entry.field options.registry.has
    assertCustomTableFieldDoesNotSelfTarget doctype.name entry.field)
  assertCustomTableGraphAcyclicFrom doctype.name options.registry.doctypes (statesFromEvents options tenantId events) none
  applyCustomFieldsToDocType options.checks doctype state

def effectiveDocType (doctypeName : DocTypeName) (tenantId : TenantId) : MetadataProgram DocTypeDefinition := do
  let doctype ← Program.ofExcept (options.registry.get doctypeName)
  let events ← tenantCustomFieldEvents options tenantId
  Program.ofExcept (effectiveDocTypeOf options doctype tenantId events)

/-- The checks of a field before it is saved, on the states that were read: the field as it is saved. -/
def checkedField (doctype : DocTypeDefinition) (tenantId : TenantId) (field : PersistedFieldDefinition)
    (states : List CustomFieldState) (now : Timestamp) : Except FrameworkError PersistedFieldDefinition := do
  assertCustomFieldRuntimeSupported field
  assertCustomFieldCanExtend options.checks doctype field
  let field ← normalizeCustomFieldExpressions options.checks doctype field
  assertCustomFieldDefaultValueValid options.checks doctype field
  assertCustomFieldReferencesResolve field options.registry.has
  assertCustomTableFieldDoesNotSelfTarget doctype.name field
  assertCustomTableGraphAcyclicFrom doctype.name options.registry.doctypes
    (projectPendingCustomFieldState tenantId states doctype.name field now) (some field.name)
  return field

/-- The append of a save, with the state that it leads to. -/
def appendChange (tenantId : TenantId) (doctype : DocTypeDefinition) (events : CustomFieldEventSet)
    (state : CustomFieldState) (payload : MetadataPayload) (metadataRevision : Nat) :
    MetadataProgram CustomFieldState := do
  let stream ← Program.ofExcept (requireStream (customFieldsCatalogStream tenantId))
  let occurredAt ← clockNow
  let saved ← appendMetadataMutation
    { tenantId, doctype := doctype.name, sourceStream := stream, sourceExpectedVersion := state.version
      sourceEvent := { payload, occurredAt }, metadataRevision }
  return stateFromEvents options tenantId doctype.name (withSavedCustomFieldCatalogEvents events [saved])

def saveField (command : SaveCustomFieldCommand) : MetadataProgram CustomFieldState := do
  let _ ← Program.ofExcept (authorizeCustomFieldAdministration options.adminRoles command.actor command.tenantId)
  let doctype ← Program.ofExcept (options.registry.get command.doctype)
  let tenantId ← Program.ofExcept (resolveCustomFieldTenant command.actor command.tenantId)
  let metadataRevision ← metadataRevisionVersion tenantId command.doctype
  let normalized ← Program.ofExcept (normalizeCustomField command.field)
  let events ← tenantCustomFieldEvents options tenantId
  let states := statesFromEvents options tenantId events
  let state := stateFromEvents options tenantId doctype.name events
  let now ← clockNow
  let field ← Program.ofExcept (checkedField options doctype tenantId normalized states now)
  Program.ofExcept (ensureCustomFieldExpectedVersion state command.expectedVersion)
  match planCustomFieldSave (findCustomFieldEntry state field.name) field with
  | .noop => return state
  | _ =>
    let now ← clockNow
    assertNamingConfigurationRemainsValid options tenantId doctype (projectPendingState tenantId state field now)
    appendChange options tenantId doctype events state (.customFieldSaved doctype.name field) metadataRevision

def disableField (command : DisableCustomFieldCommand) : MetadataProgram CustomFieldState := do
  let _ ← Program.ofExcept (authorizeCustomFieldAdministration options.adminRoles command.actor command.tenantId)
  let doctype ← Program.ofExcept (options.registry.get command.doctype)
  let tenantId ← Program.ofExcept (resolveCustomFieldTenant command.actor command.tenantId)
  let metadataRevision ← metadataRevisionVersion tenantId command.doctype
  let fieldName ← Program.ofExcept (normalizeRequiredCustomFieldText command.fieldName (js "Custom field name"))
  let events ← tenantCustomFieldEvents options tenantId
  let state := stateFromEvents options tenantId doctype.name events
  Program.ofExcept (ensureCustomFieldExpectedVersion state command.expectedVersion)
  match planCustomFieldDisable (findCustomFieldEntry state fieldName) fieldName with
  | .missing error => .throw error
  | .noop => return state
  | .append =>
    let now ← clockNow
    assertNamingConfigurationRemainsValid options tenantId doctype (withoutField state fieldName now)
    appendChange options tenantId doctype events state (.customFieldDisabled doctype.name fieldName) metadataRevision

end CustomFieldService

/-- What is started on the store. -/
inductive CustomFieldCommand
  | saveField (command : SaveCustomFieldCommand)
  | disableField (command : DisableCustomFieldCommand)
  | effectiveDocType (doctypeName : DocTypeName) (tenantId : TenantId)

/-- The command, without its result. -/
def CustomFieldCommand.start (options : CustomFieldService.Options) : CustomFieldCommand → MetadataProgram Unit
  | .saveField command => do
      let _ ← CustomFieldService.saveField options command
      return ()
  | .disableField command => do
      let _ ← CustomFieldService.disableField options command
      return ()
  | .effectiveDocType doctypeName tenantId => do
      let _ ← CustomFieldService.effectiveDocType options doctypeName tenantId
      return ()
