import CfFrappe.Application.DataPatchPolicy
import CfFrappe.Lib.Program

set_option autoImplicit false

/-! # Applying and rolling back data patches

The runner takes some patches in turn: it claims each in the log, runs it, and records how that went. The service
chooses the patches, for the operators. What a patch does when it runs is not known here: it may return a value that
is JSON or one that is not, or throw, and it may never come back.
-/

open Utf

/-! ## The actions -/

/-- How a run or a rollback of a patch ends. -/
inductive PatchOutcome
  | returned (result : Option Json)
  | notJson
  | threw (message : JsString)
  deriving DecidableEq

inductive PatchAction
  | recordedDataPatches
  | claimDataPatch (patch : ClaimDataPatch)
  | completeDataPatch (patch : CompleteDataPatch)
  | failDataPatch (patch : FailDataPatch)
  | retryFailedDataPatch (patch : RetryFailedDataPatch)
  | claimDataPatchRollback (patch : ClaimDataPatch)
  | completeDataPatchRollback (patch : CompleteRollbackDataPatch)
  | failDataPatchRollback (patch : FailDataPatch)
  | retryFailedDataPatchRollback (patch : ClaimDataPatch)
  | now
  | nextId
  /-- the `run` of a patch -/
  | run (id : JsString)
  /-- the `run` of its rollback -/
  | rollback (id : JsString)
  deriving DecidableEq

def PatchAction.Reply : PatchAction → Type
  | .recordedDataPatches => List RecordedDataPatch
  | .claimDataPatch _ => Except FrameworkError DataPatchClaimResult
  | .completeDataPatch _ => Except FrameworkError Unit
  | .failDataPatch _ => Except FrameworkError Unit
  | .retryFailedDataPatch _ => Except FrameworkError Unit
  | .claimDataPatchRollback _ => Except FrameworkError DataPatchRollbackClaimResult
  | .completeDataPatchRollback _ => Except FrameworkError Unit
  | .failDataPatchRollback _ => Except FrameworkError Unit
  | .retryFailedDataPatchRollback _ => Except FrameworkError ClaimDataPatch
  | .now => Timestamp
  | .nextId => JsString
  | .run _ => PatchOutcome
  | .rollback _ => PatchOutcome

/-- What an operation may throw: an error of the framework, or what a patch has thrown. -/
inductive PatchError
  | framework (error : FrameworkError)
  | thrown (message : JsString)
  deriving DecidableEq

/-- `dataPatchErrorMessage` -/
def PatchError.message : PatchError → JsString
  | framework error => error.message
  | thrown message => message

abbrev PatchProgram (α : Type) := Program PatchAction PatchAction.Reply PatchError α

/-- A check, or the reply of the log. -/
def checked {α : Type} (x : Except FrameworkError α) : PatchProgram α := .ofExcept (x.mapError .framework)

namespace DataPatchRunner

/-! ## The ports -/

def recordedDataPatches : PatchProgram (List RecordedDataPatch) := .perform PatchAction.recordedDataPatches

def claimDataPatch (patch : ClaimDataPatch) : PatchProgram DataPatchClaimResult := do
  let reply ← Program.perform (PatchAction.claimDataPatch patch)
  checked reply

def completeDataPatch (patch : CompleteDataPatch) : PatchProgram Unit := do
  let reply ← Program.perform (PatchAction.completeDataPatch patch)
  checked reply

def failDataPatch (patch : FailDataPatch) : PatchProgram Unit := do
  let reply ← Program.perform (PatchAction.failDataPatch patch)
  checked reply

def retryFailedDataPatch (patch : RetryFailedDataPatch) : PatchProgram Unit := do
  let reply ← Program.perform (PatchAction.retryFailedDataPatch patch)
  checked reply

def claimDataPatchRollback (patch : ClaimDataPatch) : PatchProgram DataPatchRollbackClaimResult := do
  let reply ← Program.perform (PatchAction.claimDataPatchRollback patch)
  checked reply

def completeDataPatchRollback (patch : CompleteRollbackDataPatch) : PatchProgram Unit := do
  let reply ← Program.perform (PatchAction.completeDataPatchRollback patch)
  checked reply

def failDataPatchRollback (patch : FailDataPatch) : PatchProgram Unit := do
  let reply ← Program.perform (PatchAction.failDataPatchRollback patch)
  checked reply

def retryFailedDataPatchRollback (patch : ClaimDataPatch) : PatchProgram ClaimDataPatch := do
  let reply ← Program.perform (PatchAction.retryFailedDataPatchRollback patch)
  checked reply

def clockNow : PatchProgram Timestamp := .perform PatchAction.now

def idsNext : PatchProgram JsString := .perform PatchAction.nextId

/-! ## The runner -/

/-- `dataPatchRunRecord`: it has the fields of an applied patch. -/
abbrev DataPatchRunRecord := AppliedDataPatch

structure DataPatchRunResult where
  applied : List DataPatchRunRecord
  skipped : List AppliedDataPatch
  deriving DecidableEq

structure DataPatchRollbackRecord where
  id : JsString
  checksum : JsString
  rolledBackAt : Timestamp
  result : Option Json
  deriving DecidableEq

structure DataPatchRollbackRunResult where
  rolledBack : List DataPatchRollbackRecord
  skipped : List RolledBackDataPatch
  deriving DecidableEq

/-- What comes of a run: the value, or the error that it is recorded with and that is thrown on. -/
def normalizeDataPatchRunResult (label : JsString) : PatchOutcome → Except PatchError (Option Json)
  | .returned result => .ok result
  | .notJson => .error (.framework (.ofBadRequest (label ++ js " must be JSON-serializable")))
  | .threw message => .error (.thrown message)

/-- `recordedById` -/
def recordedById : PatchProgram (Record JsString RecordedDataPatch) := do
  let recorded ← recordedDataPatches
  return recordedDataPatchesById recorded

def pendingFrom (recordedById : Record JsString RecordedDataPatch) :
    List DataPatchDefinition → Except FrameworkError (List DataPatchDefinition)
  | [] => .ok []
  | patch :: patches =>
    match Record.get recordedById patch.id with
    | none => do
        let pending ← pendingFrom recordedById patches
        return patch :: pending
    | some recorded => do
        let _ ← assertRecordedDataPatchAllowsApplySkip patch recorded
        pendingFrom recordedById patches

def pendingPatches (patches : List DataPatchDefinition) : PatchProgram (List DataPatchDefinition) := do
  let planned ← checked (normalizeDataPatchDefinitions patches)
  let recordedById ← recordedById
  checked (pendingFrom recordedById planned)

/-- The claim of a patch, under a new id. -/
def newClaim (patch : DataPatchDefinition) : PatchProgram ClaimDataPatch := do
  let claimId ← idsNext
  let claimedAt ← clockNow
  return { id := patch.id, checksum := patch.checksum, claimId, claimedAt }

/-- The claimed patch is run, and how that went is recorded. -/
def runClaimedPatch (patch : DataPatchDefinition) (claim : ClaimDataPatch) : PatchProgram DataPatchRunRecord := do
  let outcome ← Program.perform (PatchAction.run patch.id)
  match normalizeDataPatchRunResult (js "Data patch result") outcome with
  | .error error => do
      let failedAt ← clockNow
      failDataPatch
        { id := patch.id, checksum := patch.checksum, claimId := claim.claimId, failedAt, error := error.message }
      .throw error
  | .ok result => do
      let appliedAt ← clockNow
      completeDataPatch { id := patch.id, checksum := patch.checksum, claimId := claim.claimId, appliedAt, result }
      return { id := patch.id, checksum := patch.checksum, appliedAt, result }

def applyFrom (recordedById : Record JsString RecordedDataPatch) (result : DataPatchRunResult) :
    List DataPatchDefinition → PatchProgram DataPatchRunResult
  | [] => return result
  | patch :: patches =>
    match Record.get recordedById patch.id with
    | some existing => do
        let skipped ← checked (assertRecordedDataPatchAllowsApplySkip patch existing)
        applyFrom recordedById { result with skipped := result.skipped ++ [skipped] } patches
    | none => do
        let claim ← newClaim patch
        let claimed ← claimDataPatch claim
        let decision ← checked (dataPatchApplyClaimDecision patch claimed)
        match decision with
        | .skip skipped =>
          applyFrom (Record.set recordedById skipped.id (.applied skipped))
            { result with skipped := result.skipped ++ [skipped] } patches
        | .claimed claim => do
            let record ← runClaimedPatch patch claim
            applyFrom (Record.set recordedById record.id (.applied record))
              { result with applied := result.applied ++ [record] } patches

def apply (patches : List DataPatchDefinition) : PatchProgram DataPatchRunResult := do
  let planned ← checked (normalizeDataPatchDefinitions patches)
  let recordedById ← recordedById
  applyFrom recordedById { applied := [], skipped := [] } planned

/-- The claimed patch is rolled back, and how that went is recorded. -/
def rollbackClaimedPatch (patch : DataPatchDefinition) (claim : ClaimDataPatch) :
    PatchProgram DataPatchRollbackRecord := do
  checked (ensure patch.rollback (dataPatchRollbackNotDeclared patch.id))
  let outcome ← Program.perform (PatchAction.rollback patch.id)
  match normalizeDataPatchRunResult (js "Data patch rollback result") outcome with
  | .error error => do
      let failedAt ← clockNow
      failDataPatchRollback
        { id := patch.id, checksum := patch.checksum, claimId := claim.claimId, failedAt, error := error.message }
      .throw error
  | .ok result => do
      let rolledBackAt ← clockNow
      completeDataPatchRollback
        { id := patch.id, checksum := patch.checksum, claimId := claim.claimId, rolledBackAt, result }
      return { id := patch.id, checksum := patch.checksum, rolledBackAt, result }

def rollbackFrom (result : DataPatchRollbackRunResult) :
    List DataPatchDefinition → PatchProgram DataPatchRollbackRunResult
  | [] => return result
  | patch :: patches => do
      checked (ensure patch.rollback (dataPatchRollbackNotDeclared patch.id))
      let claim ← newClaim patch
      let claimed ← claimDataPatchRollback claim
      let decision ← checked (dataPatchRollbackClaimDecision patch.id claimed)
      match decision with
      | .skip skipped => rollbackFrom { result with skipped := result.skipped ++ [skipped] } patches
      | .claimed claim => do
          let record ← rollbackClaimedPatch patch claim
          rollbackFrom { result with rolledBack := result.rolledBack ++ [record] } patches

def rollback (patches : List DataPatchDefinition) : PatchProgram DataPatchRollbackRunResult := do
  let planned ← checked (normalizeDataPatchDefinitions patches)
  rollbackFrom { rolledBack := [], skipped := [] } planned

def retryRollbackFailed (patch : DataPatchDefinition) : PatchProgram DataPatchRollbackRunResult := do
  let planned ← checked (normalizeSingleDataPatchDefinition patch)
  checked (ensure planned.rollback (dataPatchRollbackNotDeclared planned.id))
  let claim ← newClaim planned
  let claim ← retryFailedDataPatchRollback claim
  let record ← rollbackClaimedPatch planned claim
  return { rolledBack := [record], skipped := [] }

end DataPatchRunner

/-! ## The service -/

/-- The service, with the patches that its constructor has checked. -/
structure DataPatchService where
  adminRoles : List JsString
  patches : List DataPatchDefinition
  declared : snapshotUniqueDataPatchDefinitions patches = .ok patches

/-- `DataPatchApplyOptions` and `DataPatchRollbackOptions` -/
structure DataPatchOptions where
  patchIds : Option (List JsString) := none
  limit : Option Rat := none

/-- `DataPatchApplyPlan` and `DataPatchRollbackPlan` -/
structure DataPatchPlan where
  patchIds : List JsString
  requestedPatchIds : Option (List JsString) := none
  limit : Option Rat := none
  deriving DecidableEq

inductive DataPatchOperation
  | apply (actor : Actor) (options : DataPatchOptions)
  | rollback (actor : Actor) (options : DataPatchOptions)
  | retryFailed (actor : Actor) (patchId : JsString)
  | retryRollbackFailed (actor : Actor) (patchId : JsString)

namespace DataPatchService

open DataPatchRunner

variable (service : DataPatchService)

/-- No two patches have the same id. -/
theorem distinct : (service.patches.map (·.id)).Nodup := (normalizeDataPatchDefinitions_ok service.declared).2

/-- `new DataPatchService(…)` -/
def create (adminRoles : List JsString) (patches : List DataPatchDefinition) :
    Except FrameworkError DataPatchService :=
  match hpatches : snapshotUniqueDataPatchDefinitions patches with
  | .error error => .error error
  | .ok snapshot =>
    .ok {
      adminRoles, patches
      declared := by rw [hpatches, (normalizeDataPatchDefinitions_ok hpatches).1] }

def authorize (actor : Actor) : PatchProgram Unit := checked (planDataPatchAdministrationAccess actor service.adminRoles)

def assertPredecessorsApplied (selected : List DataPatchDefinition) : PatchProgram Unit := do
  let recordedById ← recordedById
  checked (assertSelectedDataPatchPredecessorsApplied service.patches selected recordedById)

/-- What is selected, once it may be applied. -/
def selectedForApply (patchIds : Option (List JsString)) : PatchProgram (List DataPatchDefinition) := do
  let selected ← checked (selectDataPatches service.patches patchIds)
  if patchIds.isSome then do
    service.assertPredecessorsApplied selected
    return selected
  else return selected

def patchesForApply (options : DataPatchOptions) : PatchProgram (List DataPatchDefinition) := do
  checked (assertDataPatchApplyLimit options.limit)
  let selected ← service.selectedForApply options.patchIds
  if options.limit.isSome then do
    let pending ← pendingPatches selected
    return dataPatchApplyRunSelection selected pending options.limit
  else return dataPatchApplyRunSelection selected [] options.limit

def patchesForRollbackPlan (options : DataPatchOptions) : PatchProgram (List DataPatchDefinition) := do
  checked (assertDataPatchApplyLimit options.limit)
  let recordedById ← recordedById
  match options.patchIds with
  | some patchIds => do
      let selected ← checked (selectDataPatches service.patches (some patchIds))
      checked (planSelectedDataPatchRollback service.patches selected options.limit recordedById)
  | none => checked (planAutomaticDataPatchRollback service.patches options.limit recordedById)

def patchForRollbackRetry (patchId : JsString) : PatchProgram DataPatchDefinition := do
  let patch ← checked (selectDataPatch service.patches patchId)
  let recordedById ← recordedById
  checked (assertDataPatchRollbackRetryableWithSuccessors service.patches patch recordedById)
  return patch

def patchesForPlan (options : DataPatchOptions) : PatchProgram (List DataPatchDefinition) := do
  checked (assertDataPatchApplyLimit options.limit)
  let selected ← service.selectedForApply options.patchIds
  let pending ← pendingPatches selected
  return dataPatchApplyPlanSelection pending options.limit

/-- What an apply would apply. -/
def planApply (actor : Actor) (options : DataPatchOptions) : PatchProgram DataPatchPlan := do
  service.authorize actor
  let patches ← service.patchesForPlan options
  return { patchIds := patches.map (·.id), requestedPatchIds := options.patchIds, limit := options.limit }

/-- What a rollback would roll back. -/
def planRollback (actor : Actor) (options : DataPatchOptions) : PatchProgram DataPatchPlan := do
  service.authorize actor
  let patches ← service.patchesForRollbackPlan options
  return { patchIds := patches.map (·.id), requestedPatchIds := options.patchIds, limit := options.limit }

/-- `planRollbackRetry`: the id of the patch whose rollback may be retried. -/
def planRollbackRetry (actor : Actor) (patchId : JsString) : PatchProgram JsString := do
  service.authorize actor
  let patch ← service.patchForRollbackRetry patchId
  return patch.id

def apply (actor : Actor) (options : DataPatchOptions) : PatchProgram DataPatchRunResult := do
  service.authorize actor
  let patches ← service.patchesForApply options
  DataPatchRunner.apply patches

def rollback (actor : Actor) (options : DataPatchOptions) : PatchProgram DataPatchRollbackRunResult := do
  service.authorize actor
  let patches ← service.patchesForRollbackPlan options
  DataPatchRunner.rollback patches

def retryFailed (actor : Actor) (patchId : JsString) : PatchProgram DataPatchRunResult := do
  service.authorize actor
  let patch ← checked (selectDataPatch service.patches patchId)
  service.assertPredecessorsApplied [patch]
  retryFailedDataPatch { id := patch.id, checksum := patch.checksum }
  DataPatchRunner.apply [patch]

def retryRollbackFailed (actor : Actor) (patchId : JsString) : PatchProgram DataPatchRollbackRunResult := do
  service.authorize actor
  let patch ← service.patchForRollbackRetry patchId
  DataPatchRunner.retryRollbackFailed patch

/-- The result of an operation, of whatever kind it is. -/
def program : DataPatchOperation → PatchProgram (DataPatchRunResult ⊕ DataPatchRollbackRunResult)
  | .apply actor options => do
      let result ← service.apply actor options
      return .inl result
  | .rollback actor options => do
      let result ← service.rollback actor options
      return .inr result
  | .retryFailed actor patchId => do
      let result ← service.retryFailed actor patchId
      return .inl result
  | .retryRollbackFailed actor patchId => do
      let result ← service.retryRollbackFailed actor patchId
      return .inr result

end DataPatchService
