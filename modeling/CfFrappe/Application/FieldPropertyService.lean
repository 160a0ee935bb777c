import CfFrappe.Application.CustomFieldService
import CfFrappe.Application.FieldPropertyPolicy

set_option autoImplicit false

/-! # The service of field properties

Overrides of the fields of a DocType with its custom fields. Before a change is appended, the DocType is composed
with it, and the naming strategy in force is checked there.
-/

open Utf

structure SaveFieldPropertyOverrideCommand where
  actor : Actor
  doctype : DocTypeName
  fieldName : JsString
  overrides : FieldPropertyOverrides JsValue
  tenantId : Option TenantId := none
  expectedVersion : Option Nat := none

structure ClearFieldPropertyOverrideCommand where
  actor : Actor
  doctype : DocTypeName
  fieldName : JsString
  tenantId : Option TenantId := none
  expectedVersion : Option Nat := none

def authorizeFieldPropertyAdministration (adminRoles : List JsString) (actor : Actor) (tenantId : Option TenantId) :
    Except FrameworkError TenantId := do
  ensure (adminRoles.any (fun role => actor.roles.contains role))
    (.denied (js "Actor '" ++ actor.id ++ js "' cannot manage field properties"))
  let actorTenantId := actor.tenantId.getD defaultTenantId
  let resolved := tenantId.getD actorTenantId
  ensure (resolved == actorTenantId)
    (.denied (js "Actor '" ++ actor.id ++ js "' cannot manage field properties for tenant '" ++ resolved ++ js "'"))
  return resolved

namespace FieldPropertyService

open FieldPropertyPolicy

/-- What the service was made with: the custom fields come before the overrides. -/
structure Options where
  customFields : CustomFieldService.Options
  adminRoles : List JsString

variable (options : Options)

abbrev Options.registry : ModelRegistry := options.customFields.registry

abbrev Options.checks : DocTypeChecks := options.customFields.checks

/-- The DocType with its custom fields. -/
def prePropertyDocTypeFor (doctypeName : DocTypeName) (tenantId : TenantId) : MetadataProgram DocTypeDefinition := do
  let base ← Program.ofExcept (options.registry.get doctypeName)
  CustomFieldService.effectiveDocType options.customFields base.name tenantId

def stateFor (tenantId : TenantId) (doctypeName : DocTypeName) : MetadataProgram FieldPropertyOverrideState := do
  let stream ← Program.ofExcept (requireStream (fieldPropertyOverridesStream tenantId))
  let log ← BatchProgram.readStream stream
  return foldFieldPropertyOverrides options.customFields.localeCompare tenantId doctypeName
    (log.filter (fun event => isFieldPropertyOverrideEvent event.event))

def effectiveDocType (doctypeName : DocTypeName) (tenantId : TenantId) : MetadataProgram DocTypeDefinition := do
  let doctype ← prePropertyDocTypeFor options doctypeName tenantId
  let state ← stateFor options tenantId doctype.name
  Program.ofExcept (applyFieldPropertyOverridesToDocType options.checks doctype state)

def assertNamingConfigurationRemainsValid (tenantId : TenantId) (doctype : DocTypeDefinition) : MetadataProgram Unit := do
  let stream ← Program.ofExcept (requireStream (namingConfigurationStream tenantId doctype.name))
  let log ← BatchProgram.readStream stream
  let _ ← Program.ofExcept (applyNamingConfigurationToDocType options.checks doctype
    (foldNamingConfiguration tenantId doctype log))
  return ()

def appendAndFold (state : FieldPropertyOverrideState) (metadataRevision : Nat) (payload : MetadataPayload) :
    MetadataProgram FieldPropertyOverrideState := do
  let stream ← Program.ofExcept (requireStream (fieldPropertyOverridesStream state.tenantId))
  let occurredAt ← clockNow
  let saved ← appendMetadataMutation
    { tenantId := state.tenantId, doctype := state.doctype, sourceStream := stream
      sourceExpectedVersion := state.version, sourceEvent := { payload, occurredAt }, metadataRevision }
  let log ← BatchProgram.readStream stream
  return foldFieldPropertyOverrides options.customFields.localeCompare state.tenantId state.doctype
    (log.filter (fun event => event.sequence ≤ state.version) ++ [saved])

def save (command : SaveFieldPropertyOverrideCommand) : MetadataProgram FieldPropertyOverrideState := do
  let tenantId ← Program.ofExcept
    (authorizeFieldPropertyAdministration options.adminRoles command.actor command.tenantId)
  let metadataRevision ← metadataRevisionVersion tenantId command.doctype
  let doctype ← prePropertyDocTypeFor options command.doctype tenantId
  let field ← Program.ofExcept (requireFieldPropertyField doctype command.fieldName)
  let overrides ← Program.ofExcept (normalizeFieldPropertyOverrides field command.overrides)
  let state ← stateFor options tenantId doctype.name
  Program.ofExcept (ensureFieldPropertyExpectedVersion state command.expectedVersion)
  let now ← clockNow
  let pending := replaceFieldPropertyOverride options.customFields.localeCompare state field.name overrides now
  let effective ← Program.ofExcept (applyFieldPropertyOverridesToDocType options.checks doctype pending)
  let normalized ← Program.ofExcept (normalizeFieldPropertyOverrideExpressions effective field.name overrides)
  assertNamingConfigurationRemainsValid options tenantId effective
  match planFieldPropertyOverrideSave (findFieldPropertyOverride state field.name) normalized with
  | .noop => return state
  | .append =>
    appendAndFold options state metadataRevision (.fieldPropertyOverrideSaved doctype.name field.name normalized)

def clear (command : ClearFieldPropertyOverrideCommand) : MetadataProgram FieldPropertyOverrideState := do
  let tenantId ← Program.ofExcept
    (authorizeFieldPropertyAdministration options.adminRoles command.actor command.tenantId)
  let metadataRevision ← metadataRevisionVersion tenantId command.doctype
  let doctype ← prePropertyDocTypeFor options command.doctype tenantId
  let fieldName ← Program.ofExcept (normalizeRequiredFieldPropertyText command.fieldName (js "Field name"))
  let state ← stateFor options tenantId doctype.name
  Program.ofExcept (ensureFieldPropertyExpectedVersion state command.expectedVersion)
  let existing := findFieldPropertyOverride state fieldName
  Program.ofExcept (ensure (doctype.fields.any (fun field => field.name == fieldName) || existing.isSome)
    (fieldNotDefined doctype fieldName))
  match planFieldPropertyOverrideClear existing with
  | .noop => return state
  | .append =>
    let effective ← Program.ofExcept
      (applyFieldPropertyOverridesToDocType options.checks doctype (withoutOverride state fieldName))
    assertNamingConfigurationRemainsValid options tenantId effective
    appendAndFold options state metadataRevision (.fieldPropertyOverrideCleared doctype.name fieldName)

end FieldPropertyService
