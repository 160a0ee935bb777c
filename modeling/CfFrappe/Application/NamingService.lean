import CfFrappe.Application.FieldPropertyService

set_option autoImplicit false

/-! # The service of naming strategies

A strategy is checked on the DocType with its custom fields and their overrides before it is saved. A strategy that is
cleared leaves the one of the DocType itself.
-/

open Utf

structure SaveNamingStrategyCommand where
  actor : Actor
  doctype : DocTypeName
  strategy : NamingStrategy
  tenantId : Option TenantId := none
  expectedVersion : Option Nat := none

structure ClearNamingStrategyCommand where
  actor : Actor
  doctype : DocTypeName
  tenantId : Option TenantId := none
  expectedVersion : Option Nat := none

namespace NamingService

/-- What the service was made with: the overrides of fields come before the naming. -/
structure Options where
  fieldProperties : FieldPropertyService.Options
  adminRoles : List JsString

variable (options : Options)

abbrev Options.registry : ModelRegistry := options.fieldProperties.registry

abbrev Options.checks : DocTypeChecks := options.fieldProperties.checks

def authorizeAdministration (actor : Actor) (tenantId : Option TenantId) : Except FrameworkError TenantId := do
  let resolvedTenantId := tenantId.getD (actor.tenantId.getD defaultTenantId)
  ensure (actor.tenantId.all (fun own => own == resolvedTenantId))
    (.denied (js "Actor '" ++ actor.id ++ js "' cannot administer naming for tenant '" ++ resolvedTenantId ++ js "'"))
  ensure (options.adminRoles.any (fun role => actor.roles.contains role))
    (.denied (js "Actor '" ++ actor.id ++ js "' cannot administer naming"))
  return resolvedTenantId

def ensureExpectedVersion (current : Nat) (expected : Option Nat) (label : JsString) : Except FrameworkError Unit :=
  match expected with
  | none => .ok ()
  | some expected =>
    ensure (expected == current)
      (.conflict (label ++ js " expected version " ++ Json.natToString expected ++ js ", found " ++
        Json.natToString current))

/-- The DocType with its custom fields and their overrides. -/
def preNamingDocTypeFor (doctypeName : DocTypeName) (tenantId : TenantId) : MetadataProgram DocTypeDefinition := do
  let base ← Program.ofExcept (options.registry.get doctypeName)
  FieldPropertyService.effectiveDocType options.fieldProperties base.name tenantId

def stateFor (tenantId : TenantId) (doctype : DocTypeDefinition) : MetadataProgram NamingConfigurationState := do
  let stream ← Program.ofExcept (requireStream (namingConfigurationStream tenantId doctype.name))
  let log ← BatchProgram.readStream stream
  return foldNamingConfiguration tenantId doctype log

def effectiveDocType (doctypeName : DocTypeName) (tenantId : TenantId) : MetadataProgram DocTypeDefinition := do
  let doctype ← preNamingDocTypeFor options doctypeName tenantId
  let state ← stateFor tenantId doctype
  Program.ofExcept (applyNamingConfigurationToDocType options.checks doctype state)

/-- The append of a change, and the state that it leads to. -/
def appendChange (tenantId : TenantId) (doctype : DocTypeDefinition) (state : NamingConfigurationState)
    (metadataRevision : Nat) (payload : MetadataPayload) : MetadataProgram NamingConfigurationState := do
  let stream ← Program.ofExcept (requireStream (namingConfigurationStream tenantId doctype.name))
  let occurredAt ← clockNow
  let _ ← appendMetadataMutation
    { tenantId, doctype := doctype.name, sourceStream := stream, sourceExpectedVersion := state.version
      sourceEvent := { payload, occurredAt }, metadataRevision }
  stateFor tenantId doctype

def save (command : SaveNamingStrategyCommand) : MetadataProgram NamingConfigurationState := do
  let tenantId ← Program.ofExcept (authorizeAdministration options command.actor command.tenantId)
  let metadataRevision ← metadataRevisionVersion tenantId command.doctype
  let doctype ← preNamingDocTypeFor options command.doctype tenantId
  let strategy ← Program.ofExcept (normalizeNamingStrategy options.checks.safeRegex doctype command.strategy)
  let state ← stateFor tenantId doctype
  Program.ofExcept (ensureExpectedVersion state.version command.expectedVersion (js "Naming configuration"))
  if state.runtimeStrategy = some strategy then return state
  else appendChange tenantId doctype state metadataRevision (.namingStrategySaved doctype.name strategy)

def clear (command : ClearNamingStrategyCommand) : MetadataProgram NamingConfigurationState := do
  let tenantId ← Program.ofExcept (authorizeAdministration options command.actor command.tenantId)
  let metadataRevision ← metadataRevisionVersion tenantId command.doctype
  let doctype ← preNamingDocTypeFor options command.doctype tenantId
  let state ← stateFor tenantId doctype
  Program.ofExcept (ensureExpectedVersion state.version command.expectedVersion (js "Naming configuration"))
  if state.runtimeStrategy = none then return state
  else appendChange tenantId doctype state metadataRevision (.namingStrategyCleared doctype.name)

end NamingService
