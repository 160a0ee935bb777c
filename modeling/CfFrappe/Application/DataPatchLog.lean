import CfFrappe.Core.JsValue

set_option autoImplicit false

/-! # The journal of data patches

What a data patch log records of a patch, the commands of its port and the checks that every log
makes on an entry before it changes it. The columns of a row allow six statuses, so a status
is one of these.
-/

open Utf

inductive DataPatchStatus
  | pending
  | applied
  | failed
  | rollbackPending
  | rolledBack
  | rollbackFailed
  deriving DecidableEq

def DataPatchStatus.text : DataPatchStatus → JsString
  | pending => js "pending"
  | applied => js "applied"
  | failed => js "failed"
  | rollbackPending => js "rollback_pending"
  | rolledBack => js "rolled_back"
  | rollbackFailed => js "rollback_failed"

/-! ## The port -/

/-- `ClaimDataPatch`, and every other claim of a patch: they have the same fields. -/
structure ClaimDataPatch where
  id : JsString
  checksum : JsString
  claimId : JsString
  claimedAt : Timestamp
  deriving DecidableEq

structure CompleteDataPatch where
  id : JsString
  checksum : JsString
  claimId : JsString
  appliedAt : Timestamp
  result : Option Json := none
  deriving DecidableEq

structure CompleteRollbackDataPatch where
  id : JsString
  checksum : JsString
  claimId : JsString
  rolledBackAt : Timestamp
  result : Option Json := none
  deriving DecidableEq

/-- `FailDataPatch` and `FailRollbackDataPatch` -/
structure FailDataPatch where
  id : JsString
  checksum : JsString
  claimId : JsString
  failedAt : Timestamp
  error : JsString
  deriving DecidableEq

structure RetryFailedDataPatch where
  id : JsString
  checksum : JsString
  deriving DecidableEq

structure AppliedDataPatch where
  id : JsString
  checksum : JsString
  appliedAt : Timestamp
  result : Option Json := none
  deriving DecidableEq

structure PendingDataPatch where
  id : JsString
  checksum : JsString
  claimedAt : Timestamp
  deriving DecidableEq

structure FailedDataPatch where
  id : JsString
  checksum : JsString
  failedAt : Timestamp
  error : JsString
  deriving DecidableEq

structure RollbackPendingDataPatch extends AppliedDataPatch where
  rollbackClaimedAt : Timestamp
  deriving DecidableEq

structure RolledBackDataPatch extends AppliedDataPatch where
  rolledBackAt : Timestamp
  rollbackResult : Option Json := none
  deriving DecidableEq

structure RollbackFailedDataPatch extends AppliedDataPatch where
  rollbackFailedAt : Timestamp
  rollbackError : JsString
  deriving DecidableEq

inductive DataPatchClaimResult
  | claimed (claim : ClaimDataPatch)
  | applied (patch : AppliedDataPatch)
  | pending (patch : PendingDataPatch)
  | failed (patch : FailedDataPatch)
  deriving DecidableEq

inductive DataPatchRollbackClaimResult
  | claimed (claim : ClaimDataPatch)
  | pending (patch : PendingDataPatch)
  | failed (patch : FailedDataPatch)
  | rollbackPending (patch : RollbackPendingDataPatch)
  | rolledBack (patch : RolledBackDataPatch)
  | rollbackFailed (patch : RollbackFailedDataPatch)
  deriving DecidableEq

/-! ## Checks on an entry -/

/-- What the checks read of an entry. -/
structure DataPatchJournalState where
  id : JsString
  checksum : JsString
  status : DataPatchStatus
  deriving DecidableEq

/-- An error of the journal: all have the status 409. -/
def dataPatchError (code : FrameworkErrorCode) (message : JsString) : FrameworkError :=
  { code, message, status := 409 }

def dataPatchRetryUnavailable (id reason : JsString) : FrameworkError :=
  dataPatchError .dataPatchRetryUnavailable (js "Data patch '" ++ id ++ js "' cannot be retried because " ++ reason)

def dataPatchApplyUnavailable (id reason : JsString) : FrameworkError :=
  dataPatchError .dataPatchApplyUnavailable (js "Data patch '" ++ id ++ js "' cannot be applied because " ++ reason)

def dataPatchRollbackRetryUnavailable (id reason : JsString) : FrameworkError :=
  dataPatchError .dataPatchRollbackRetryUnavailable
    (js "Data patch '" ++ id ++ js "' rollback cannot be retried because " ++ reason)

def dataPatchRollbackUnavailable (id reason : JsString) : FrameworkError :=
  dataPatchError .dataPatchRollbackUnavailable
    (js "Data patch '" ++ id ++ js "' cannot be rolled back because " ++ reason)

def invalidDataPatchJournalStatus (journal : DataPatchJournalState) : FrameworkError :=
  dataPatchError .dataPatchInvalid
    (js "Data patch '" ++ journal.id ++ js "' has invalid journal status '" ++ journal.status.text ++ js "'")

/-- `journal status is '…'` -/
def journalStatusIs (status : DataPatchStatus) : JsString := js "journal status is '" ++ status.text ++ js "'"

/-- The error of an entry that is claimed for its apply. -/
def dataPatchPending (id : JsString) : FrameworkError :=
  dataPatchError .dataPatchPending (js "Data patch '" ++ id ++ js "' is already claimed and has not completed")

/-- The error of an entry that is claimed for its rollback. -/
def dataPatchRollbackPending (id : JsString) : FrameworkError :=
  dataPatchError .dataPatchRollbackPending
    (js "Data patch '" ++ id ++ js "' rollback is already claimed and has not completed")

/-- The error of an entry whose run has failed. -/
def dataPatchFailed (id failedAt error : JsString) : FrameworkError :=
  dataPatchError .dataPatchFailed
    (js "Data patch '" ++ id ++ js "' previously failed at '" ++ failedAt ++ js "': " ++ error)

/-- The error of an entry whose rollback has failed. -/
def dataPatchRollbackFailed (id failedAt error : JsString) : FrameworkError :=
  dataPatchError .dataPatchRollbackFailed
    (js "Data patch '" ++ id ++ js "' rollback previously failed at '" ++ failedAt ++ js "': " ++ error)

def assertDataPatchChecksumMatches (id plannedChecksum recordedChecksum : JsString) : Except FrameworkError Unit :=
  ensure (decide (plannedChecksum = recordedChecksum))
    (dataPatchError .dataPatchChecksumMismatch
      (js "Recorded data patch '" ++ id ++ js "' has checksum '" ++ recordedChecksum ++ js "' but planned '" ++
        plannedChecksum ++ js "'"))

def assertAppliedDataPatchChecksumMatches (id plannedChecksum appliedChecksum : JsString) :
    Except FrameworkError Unit :=
  ensure (decide (plannedChecksum = appliedChecksum))
    (dataPatchError .dataPatchChecksumMismatch
      (js "Applied data patch '" ++ id ++ js "' has checksum '" ++ appliedChecksum ++ js "' but planned '" ++
        plannedChecksum ++ js "'"))

def assertRetryableFailedJournal (journal : Option DataPatchJournalState) (id checksum : JsString) :
    Except FrameworkError Unit :=
  match journal with
  | none => .error (dataPatchRetryUnavailable id (js "no failed journal entry exists"))
  | some journal => do
      assertDataPatchChecksumMatches id checksum journal.checksum
      match journal.status with
      | .failed => .ok ()
      | .pending => .error (dataPatchPending id)
      | status => .error (dataPatchRetryUnavailable id (journalStatusIs status))

def assertRetryableRollbackFailedJournal (journal : Option DataPatchJournalState) (id checksum : JsString) :
    Except FrameworkError Unit :=
  match journal with
  | none => .error (dataPatchRollbackRetryUnavailable id (js "no failed rollback journal entry exists"))
  | some journal => do
      assertDataPatchChecksumMatches id checksum journal.checksum
      match journal.status with
      | .rollbackFailed => .ok ()
      | .pending => .error (dataPatchPending id)
      | .failed =>
        .error (dataPatchError .dataPatchFailed
          (js "Data patch '" ++ id ++ js "' failed and must be retried first"))
      | .rollbackPending =>
        .error (dataPatchError .dataPatchRollbackPending (js "Data patch '" ++ id ++ js "' rollback is pending"))
      | status => .error (dataPatchRollbackRetryUnavailable id (journalStatusIs status))

def assertRollbackClaimableJournal (journal : Option DataPatchJournalState) (id checksum : JsString) :
    Except FrameworkError Unit :=
  match journal with
  | none => .error (dataPatchRollbackUnavailable id (js "no applied journal entry exists"))
  | some journal => assertDataPatchChecksumMatches id checksum journal.checksum

theorem assertDataPatchChecksumMatches_ok {id planned recorded : JsString}
    (h : assertDataPatchChecksumMatches id planned recorded = .ok ()) : planned = recorded :=
  of_decide_eq_true (ensure_eq_ok h)

theorem assertRetryableFailedJournal_ok {journal : Option DataPatchJournalState} {id checksum : JsString}
    (h : assertRetryableFailedJournal journal id checksum = .ok ()) :
    ∃ entry, journal = some entry ∧ entry.checksum = checksum ∧ entry.status = .failed := by
  cases journal with
  | none => cases h
  | some entry =>
    obtain ⟨_, hchecksum, hentry⟩ := except_bind_eq_ok h
    refine ⟨entry, rfl, (assertDataPatchChecksumMatches_ok hchecksum).symm, ?_⟩
    cases hstatus : entry.status <;> simp [hstatus] at hentry ⊢

theorem assertRetryableRollbackFailedJournal_ok {journal : Option DataPatchJournalState} {id checksum : JsString}
    (h : assertRetryableRollbackFailedJournal journal id checksum = .ok ()) :
    ∃ entry, journal = some entry ∧ entry.checksum = checksum ∧ entry.status = .rollbackFailed := by
  cases journal with
  | none => cases h
  | some entry =>
    obtain ⟨_, hchecksum, hentry⟩ := except_bind_eq_ok h
    refine ⟨entry, rfl, (assertDataPatchChecksumMatches_ok hchecksum).symm, ?_⟩
    cases hstatus : entry.status <;> simp [hstatus] at hentry ⊢

theorem assertRollbackClaimableJournal_ok {journal : Option DataPatchJournalState} {id checksum : JsString}
    (h : assertRollbackClaimableJournal journal id checksum = .ok ()) :
    ∃ entry, journal = some entry ∧ entry.checksum = checksum := by
  cases journal with
  | none => cases h
  | some entry => exact ⟨entry, rfl, (assertDataPatchChecksumMatches_ok h).symm⟩
