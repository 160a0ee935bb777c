import CfFrappe.Application.DataPatchLog
import CfFrappe.Lib.Record

set_option autoImplicit false

/-! # The journal of data patches in memory

`InMemoryDataPatchLog` keeps one entry for a patch, and puts another one in its place with every step. An entry of a
claimed patch remembers the claim id, which the port does not show. A call that throws leaves the entries as they are.
-/

open Utf

/-- What a log lists of a patch. -/
inductive RecordedDataPatch
  | pending (patch : PendingDataPatch)
  | applied (patch : AppliedDataPatch)
  | failed (patch : FailedDataPatch)
  | rollbackPending (patch : RollbackPendingDataPatch)
  | rolledBack (patch : RolledBackDataPatch)
  | rollbackFailed (patch : RollbackFailedDataPatch)
  deriving DecidableEq

/-- The applied patches of a listing. -/
def RecordedDataPatch.applied? : RecordedDataPatch → Option AppliedDataPatch
  | applied patch => some patch
  | _ => none

def RecordedDataPatch.id : RecordedDataPatch → JsString
  | pending patch => patch.id
  | applied patch => patch.id
  | failed patch => patch.id
  | rollbackPending patch => patch.id
  | rolledBack patch => patch.id
  | rollbackFailed patch => patch.id

/-! ## The calls of the port -/

inductive DataPatchLogCall
  | claimDataPatch (patch : ClaimDataPatch)
  | completeDataPatch (patch : CompleteDataPatch)
  | failDataPatch (patch : FailDataPatch)
  | retryFailedDataPatch (patch : RetryFailedDataPatch)
  | claimDataPatchRollback (patch : ClaimDataPatch)
  | completeDataPatchRollback (patch : CompleteRollbackDataPatch)
  | failDataPatchRollback (patch : FailDataPatch)
  | retryFailedDataPatchRollback (patch : ClaimDataPatch)
  | recordedDataPatches
  | appliedDataPatches

/-- The claim id that a call brings along, if it is one that claims. -/
def DataPatchLogCall.newClaimId? : DataPatchLogCall → Option JsString
  | claimDataPatch patch => some patch.claimId
  | claimDataPatchRollback patch => some patch.claimId
  | retryFailedDataPatchRollback patch => some patch.claimId
  | _ => none

inductive DataPatchLogResult
  | nothing
  | claim (result : DataPatchClaimResult)
  | rollbackClaim (result : DataPatchRollbackClaimResult)
  | rollbackClaimed (claim : ClaimDataPatch)
  | recorded (patches : List RecordedDataPatch)
  | applied (patches : List AppliedDataPatch)

/-- The same result, up to the order of a listing. -/
inductive DataPatchLogResult.Same : DataPatchLogResult → DataPatchLogResult → Prop
  | refl (result : DataPatchLogResult) : Same result result
  | recorded {patches patches' : List RecordedDataPatch} (h : patches.Perm patches') :
      Same (.recorded patches) (.recorded patches')
  | applied {patches patches' : List AppliedDataPatch} (h : patches.Perm patches') :
      Same (.applied patches) (.applied patches')

/-! ## Entries -/

inductive InMemoryDataPatchEntry
  | pending (patch : PendingDataPatch) (claimId : JsString)
  | applied (patch : AppliedDataPatch)
  | failed (patch : FailedDataPatch) (claimId : JsString)
  | rollbackPending (patch : RollbackPendingDataPatch) (claimId : JsString)
  | rolledBack (patch : RolledBackDataPatch)
  | rollbackFailed (patch : RollbackFailedDataPatch) (claimId : JsString)
  deriving DecidableEq

namespace InMemoryDataPatchEntry

def journal : InMemoryDataPatchEntry → DataPatchJournalState
  | pending patch _ => { id := patch.id, checksum := patch.checksum, status := .pending }
  | applied patch => { id := patch.id, checksum := patch.checksum, status := .applied }
  | failed patch _ => { id := patch.id, checksum := patch.checksum, status := .failed }
  | rollbackPending patch _ => { id := patch.id, checksum := patch.checksum, status := .rollbackPending }
  | rolledBack patch => { id := patch.id, checksum := patch.checksum, status := .rolledBack }
  | rollbackFailed patch _ => { id := patch.id, checksum := patch.checksum, status := .rollbackFailed }

/-- `recordFromEntry`: the copies that are made of JSON values are the values. -/
def record : InMemoryDataPatchEntry → RecordedDataPatch
  | pending patch _ => .pending patch
  | applied patch => .applied patch
  | failed patch _ => .failed patch
  | rollbackPending patch _ => .rollbackPending patch
  | rolledBack patch => .rolledBack patch
  | rollbackFailed patch _ => .rollbackFailed patch

def claimResult : InMemoryDataPatchEntry → Except FrameworkError DataPatchClaimResult
  | applied patch => .ok (.applied patch)
  | failed patch _ => .ok (.failed patch)
  | pending patch _ => .ok (.pending patch)
  | rollbackPending patch _ => .error (dataPatchApplyUnavailable patch.id (journalStatusIs .rollbackPending))
  | rollbackFailed patch _ => .error (dataPatchApplyUnavailable patch.id (journalStatusIs .rollbackFailed))
  | rolledBack patch => .error (dataPatchApplyUnavailable patch.id (journalStatusIs .rolledBack))

def rollbackClaimResult : InMemoryDataPatchEntry → Except FrameworkError DataPatchRollbackClaimResult
  | pending patch _ => .ok (.pending patch)
  | failed patch _ => .ok (.failed patch)
  | rollbackPending patch _ => .ok (.rollbackPending patch)
  | rollbackFailed patch _ => .ok (.rollbackFailed patch)
  | rolledBack patch => .ok (.rolledBack patch)
  | applied patch => .error (dataPatchRollbackUnavailable patch.id (journalStatusIs .applied))

end InMemoryDataPatchEntry

/-- The entries by the id of their patch, in the order of the map. -/
abbrev InMemoryDataPatchLog := Record JsString InMemoryDataPatchEntry

namespace InMemoryDataPatchLog

def assertPendingClaim (entry : Option InMemoryDataPatchEntry) (id checksum claimId : JsString) :
    Except FrameworkError Unit :=
  ensure
    (match entry with
      | some (.pending patch holder) => patch.checksum = checksum && holder = claimId
      | _ => false)
    (dataPatchError .dataPatchPending (js "Data patch '" ++ id ++ js "' is not claimed by this runner"))

/-- The claimed rollback, for the one who holds it. -/
def assertRollbackPendingClaim (entry : Option InMemoryDataPatchEntry) (id checksum claimId : JsString) :
    Except FrameworkError RollbackPendingDataPatch :=
  let unclaimed := dataPatchError .dataPatchRollbackPending
    (js "Data patch '" ++ id ++ js "' rollback is not claimed by this runner")
  match entry with
  | some (.rollbackPending patch holder) =>
    if patch.checksum = checksum ∧ holder = claimId then .ok patch else .error unclaimed
  | _ => .error unclaimed

/-! ## The methods -/

def recordedDataPatches (localeCompare : JsString → JsString → Ordering) (log : InMemoryDataPatchLog) :
    List RecordedDataPatch :=
  ((log.map Prod.snd).map InMemoryDataPatchEntry.record).insertionSort
    (fun left right => localeCompare left.id right.id ≠ .gt)

def appliedDataPatches (localeCompare : JsString → JsString → Ordering) (log : InMemoryDataPatchLog) :
    List AppliedDataPatch :=
  (recordedDataPatches localeCompare log).filterMap RecordedDataPatch.applied?

def claimDataPatch (log : InMemoryDataPatchLog) (patch : ClaimDataPatch) :
    Except FrameworkError (DataPatchClaimResult × InMemoryDataPatchLog) :=
  match Record.get log patch.id with
  | some existing => do
      assertDataPatchChecksumMatches patch.id patch.checksum existing.journal.checksum
      let result ← existing.claimResult
      pure (result, log)
  | none =>
    .ok (.claimed patch, Record.set log patch.id
      (.pending { id := patch.id, checksum := patch.checksum, claimedAt := patch.claimedAt } patch.claimId))

def completeDataPatch (log : InMemoryDataPatchLog) (patch : CompleteDataPatch) :
    Except FrameworkError InMemoryDataPatchLog := do
  assertPendingClaim (Record.get log patch.id) patch.id patch.checksum patch.claimId
  pure (Record.set log patch.id (.applied
    { id := patch.id, checksum := patch.checksum, appliedAt := patch.appliedAt, result := patch.result }))

def failDataPatch (log : InMemoryDataPatchLog) (patch : FailDataPatch) : Except FrameworkError InMemoryDataPatchLog := do
  assertPendingClaim (Record.get log patch.id) patch.id patch.checksum patch.claimId
  pure (Record.set log patch.id (.failed
    { id := patch.id, checksum := patch.checksum, failedAt := patch.failedAt, error := patch.error } patch.claimId))

def retryFailedDataPatch (log : InMemoryDataPatchLog) (patch : RetryFailedDataPatch) :
    Except FrameworkError InMemoryDataPatchLog := do
  assertRetryableFailedJournal ((Record.get log patch.id).map (·.journal)) patch.id patch.checksum
  pure (Record.without log [patch.id])

/-- The failed rollback is taken up again. -/
def retryFailedDataPatchRollback (log : InMemoryDataPatchLog) (patch : ClaimDataPatch) :
    Except FrameworkError (ClaimDataPatch × InMemoryDataPatchLog) := do
  assertRetryableRollbackFailedJournal ((Record.get log patch.id).map (·.journal)) patch.id patch.checksum
  match Record.get log patch.id with
  | some (.rollbackFailed existing _) =>
    pure (patch, Record.set log patch.id (.rollbackPending
      { id := patch.id, checksum := patch.checksum, appliedAt := existing.appliedAt, result := existing.result
        rollbackClaimedAt := patch.claimedAt } patch.claimId))
  | _ => .error (dataPatchRollbackRetryUnavailable patch.id (js "no failed rollback journal entry exists"))

def claimDataPatchRollback (log : InMemoryDataPatchLog) (patch : ClaimDataPatch) :
    Except FrameworkError (DataPatchRollbackClaimResult × InMemoryDataPatchLog) := do
  assertRollbackClaimableJournal ((Record.get log patch.id).map (·.journal)) patch.id patch.checksum
  match Record.get log patch.id with
  | some (.applied existing) =>
    pure (.claimed patch, Record.set log patch.id
      (.rollbackPending { existing with rollbackClaimedAt := patch.claimedAt } patch.claimId))
  | some existing => do
      let result ← existing.rollbackClaimResult
      pure (result, log)
  | none => .error (dataPatchRollbackUnavailable patch.id (js "no applied journal entry exists"))

def completeDataPatchRollback (log : InMemoryDataPatchLog) (patch : CompleteRollbackDataPatch) :
    Except FrameworkError InMemoryDataPatchLog := do
  let existing ← assertRollbackPendingClaim (Record.get log patch.id) patch.id patch.checksum patch.claimId
  pure (Record.set log patch.id (.rolledBack
    { id := patch.id, checksum := patch.checksum, appliedAt := existing.appliedAt, result := existing.result
      rolledBackAt := patch.rolledBackAt, rollbackResult := patch.result }))

def failDataPatchRollback (log : InMemoryDataPatchLog) (patch : FailDataPatch) :
    Except FrameworkError InMemoryDataPatchLog := do
  let existing ← assertRollbackPendingClaim (Record.get log patch.id) patch.id patch.checksum patch.claimId
  pure (Record.set log patch.id (.rollbackFailed
    { id := patch.id, checksum := patch.checksum, appliedAt := existing.appliedAt, result := existing.result
      rollbackFailedAt := patch.failedAt, rollbackError := patch.error } patch.claimId))

/-! ## Calls -/

/-- What a call that changes the entries answers. -/
def changed (log : InMemoryDataPatchLog) :
    Except FrameworkError InMemoryDataPatchLog → Except FrameworkError DataPatchLogResult × InMemoryDataPatchLog
  | .ok log' => (.ok .nothing, log')
  | .error error => (.error error, log)

/-- What a call with a result of its own answers. -/
def answered {α : Type} (log : InMemoryDataPatchLog) (result : α → DataPatchLogResult) :
    Except FrameworkError (α × InMemoryDataPatchLog) → Except FrameworkError DataPatchLogResult × InMemoryDataPatchLog
  | .ok (a, log') => (.ok (result a), log')
  | .error error => (.error error, log)

def call (localeCompare : JsString → JsString → Ordering) (log : InMemoryDataPatchLog) :
    DataPatchLogCall → Except FrameworkError DataPatchLogResult × InMemoryDataPatchLog
  | .claimDataPatch patch => answered log .claim (claimDataPatch log patch)
  | .completeDataPatch patch => changed log (completeDataPatch log patch)
  | .failDataPatch patch => changed log (failDataPatch log patch)
  | .retryFailedDataPatch patch => changed log (retryFailedDataPatch log patch)
  | .claimDataPatchRollback patch => answered log .rollbackClaim (claimDataPatchRollback log patch)
  | .completeDataPatchRollback patch => changed log (completeDataPatchRollback log patch)
  | .failDataPatchRollback patch => changed log (failDataPatchRollback log patch)
  | .retryFailedDataPatchRollback patch => answered log .rollbackClaimed (retryFailedDataPatchRollback log patch)
  | .recordedDataPatches => (.ok (.recorded (recordedDataPatches localeCompare log)), log)
  | .appliedDataPatches => (.ok (.applied (appliedDataPatches localeCompare log)), log)

end InMemoryDataPatchLog
