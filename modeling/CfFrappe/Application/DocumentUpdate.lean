import CfFrappe.Application.CommandPolicy
import CfFrappe.Application.FieldAccessPolicy
import CfFrappe.Application.ReferencePolicy

set_option autoImplicit false

/-! # The checks of an update

`applyDocumentUpdate` up to the point where it reserves unique values and commits: the hooks and
the fetched fields complete the patch, every group of checks reports its issues, and without an
issue the data of the document changes.
-/

open Utf

/-! ## Hooks -/

structure HookContext where
  doctype : DocTypeDefinition
  data : DocumentData
  existing : Option DocumentSnapshot

structure DocumentHooks where
  beforeValidate : HookContext → Option MutableDocumentData := fun _ => none
  validate : HookContext → List ValidationIssue := fun _ => []

def mergeDocumentHookPatch (current : MutableDocumentData) (patch : Option MutableDocumentData) :
    MutableDocumentData :=
  match patch with
  | some patch => Record.merge current patch
  | none => current

/-- Data without `undefined` fields, where they are possible. -/
def definedData (data : DocumentData) : MutableDocumentData := data.map (fun entry => (entry.1, some entry.2))

def runDocumentBeforeValidateHooks (hooks : List DocumentHooks) (doctype : DocTypeDefinition)
    (data : DocumentData) (existing : Option DocumentSnapshot) : DocumentData :=
  compactData (hooks.foldl
    (fun current hook =>
      mergeDocumentHookPatch current (hook.beforeValidate { doctype, data := compactData current, existing }))
    (definedData data))

def runDocumentValidationHooks (hooks : List DocumentHooks) (doctype : DocTypeDefinition)
    (hookData : DocumentData) (existing : Option DocumentSnapshot) : List ValidationIssue :=
  hooks.flatMap (fun hook => hook.validate { doctype, data := hookData, existing })

/-! ## The update -/

/-- What the checks of an update use besides the document and the command. -/
structure DocumentUpdateServices where
  canonicalize : UInt16 → UInt16
  relatedDocType : RelatedDocTypeResolver
  readFetchedTarget : DocumentLinkAccessContext → Option DocumentSnapshot
  canReadLinkedTarget : DocumentLinkAccessContext → Bool
  hooks : List DocumentHooks := []

namespace DocumentUpdateServices

variable (services : DocumentUpdateServices) (actor : Actor) (doctype : DocTypeDefinition)
variable (existing : DocumentSnapshot) (patch : DocumentData) (unset : List JsString)

/-- The patch of a command with what the hooks add. -/
def validatedPatch : DocumentData := runDocumentBeforeValidateHooks services.hooks doctype patch (some existing)

/-- The same with the fetched fields. -/
def patchWithFetchedFields : DocumentData :=
  applyFetchedFields services.relatedDocType services.readFetchedTarget doctype
    (services.validatedPatch doctype existing patch) (some existing)

def normalizedPatch : DocumentData :=
  preserveReadOnlyTableValues services.relatedDocType doctype
    (services.patchWithFetchedFields doctype existing patch) existing

/-- The data after the update. -/
def updatedData : DocumentData :=
  applyDocumentDataChange existing.data (services.normalizedPatch doctype existing patch) unset

/-- The document that the permissions of fields are checked on. -/
def draft : DocumentSnapshot :=
  { existing with
    data := services.updatedData doctype existing patch unset
    version := existing.version + 1 }

/-- The issues that are found outside the rules for a field as such. -/
def externalIssues : ExternalIssues :=
  { fieldPermissionIssues :=
      fieldPermissionIssues services.relatedDocType actor .update doctype
        (stripInternalTableFields services.relatedDocType doctype (services.validatedPatch doctype existing patch))
        (some (services.draft doctype existing patch unset)) unset
    hookIssues :=
      runDocumentValidationHooks services.hooks doctype (services.updatedData doctype existing patch unset)
        (some existing)
    linkIssues :=
      validateDocumentLinks services.relatedDocType services.canReadLinkedTarget doctype
        (services.normalizedPatch doctype existing patch) }

def updateIssues : List ValidationIssue :=
  documentUpdateIssues services.canonicalize services.relatedDocType doctype existing
    (services.validatedPatch doctype existing patch) (services.patchWithFetchedFields doctype existing patch) unset
    (services.externalIssues actor doctype existing patch unset)

/-- `applyDocumentUpdate` for the action `update`, up to the reservation of unique values. -/
def applyDocumentUpdate (unset : Option (List JsString)) : Except FrameworkError DocumentData := do
  ensureDocumentUpdateStatus existing (js "update")
  let unset := normalizeUnsetFields unset
  let issues := services.updateIssues actor doctype existing patch unset
  ensure issues.isEmpty (.ofIssues issues)
  return services.updatedData doctype existing patch unset

end DocumentUpdateServices

/-! ## Facts -/

theorem compactData_definedData (data : DocumentData) : compactData (definedData data) = data := by
  unfold compactData definedData
  induction data with
  | nil => rfl
  | cons entry data ih =>
    rw [List.map_cons, List.filterMap_cons, ih]
    rfl

namespace DocumentUpdateServices

variable {services : DocumentUpdateServices} {actor : Actor} {doctype : DocTypeDefinition}
variable {existing : DocumentSnapshot} {patch : DocumentData}

theorem validatedPatch_of_no_hooks (h : services.hooks = []) :
    services.validatedPatch doctype existing patch = patch := by
  unfold validatedPatch runDocumentBeforeValidateHooks
  rw [h, List.foldl_nil, compactData_definedData]

/-- What an update writes once it is accepted. -/
theorem applyDocumentUpdate_ok {unset : Option (List JsString)} {data : DocumentData}
    (h : services.applyDocumentUpdate actor doctype existing patch unset = .ok data) :
    services.updateIssues actor doctype existing patch (normalizeUnsetFields unset) = [] ∧
      data = services.updatedData doctype existing patch (normalizeUnsetFields unset) := by
  obtain ⟨_, -, h⟩ := except_bind_eq_ok h
  obtain ⟨_, hissues, h⟩ := except_bind_eq_ok h
  exact ⟨List.isEmpty_iff.mp (ensure_eq_ok hissues), (Except.ok.inj h).symm⟩

end DocumentUpdateServices
