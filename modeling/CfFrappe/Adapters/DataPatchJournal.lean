import CfFrappe.Lib.Reporting
import CfFrappe.Application.DataPatchLog

set_option autoImplicit false

/-! # The journal of data patches in the database

`D1DataPatchLog`: every method is a few statements, and other runners may issue theirs in between.
An update says which row it wants and in which condition (`DataPatchUpdate.where_`), and reports how
many rows it has changed. Results are stored as JSON texts; the model stores the values. The two
listing methods only read and are left out.
-/

open Utf

structure DataPatchRow where
  id : JsString
  checksum : JsString
  status : DataPatchStatus
  claim_id : Option JsString := none
  claimed_at : Option Timestamp := none
  applied_at : Option Timestamp := none
  failed_at : Option Timestamp := none
  error : Option JsString := none
  result_json : Option Json := none
  result_present : Bool := false
  rollback_claim_id : Option JsString := none
  rollback_claimed_at : Option Timestamp := none
  rolled_back_at : Option Timestamp := none
  rollback_failed_at : Option Timestamp := none
  rollback_error : Option JsString := none
  rollback_result_json : Option Json := none
  rollback_result_present : Bool := false
  deriving DecidableEq

def DataPatchRow.journal (row : DataPatchRow) : DataPatchJournalState :=
  { id := row.id, checksum := row.checksum, status := row.status }

/-- The rows of the table by their primary key. -/
structure DataPatchTable where
  row : JsString → Option DataPatchRow
  keyed : ∀ {id row'}, row id = some row' → row'.id = id

namespace DataPatchTable

/-- The table with another row, or none, for a key. -/
def set (table : DataPatchTable) (id : JsString) (row : Option DataPatchRow)
    (keyed : ∀ row', row = some row' → row'.id = id) : DataPatchTable where
  row k := if k = id then row else table.row k
  keyed := by
    intro k row' h
    split_ifs at h with hk
    · rw [hk]
      exact keyed row' h
    · exact table.keyed h

def empty : DataPatchTable := ⟨fun _ => none, fun h => by cases h⟩

end DataPatchTable

/-! ## Statements -/

/-- The updates of the table. -/
inductive DataPatchUpdate
  | completeDataPatch (patch : CompleteDataPatch)
  | failDataPatch (patch : FailDataPatch)
  /-- the claim takes over the failed entry that was read -/
  | retryFailedDataPatchRollback (patch : ClaimDataPatch) (seen : DataPatchRow)
  | claimDataPatchRollback (patch : ClaimDataPatch)
  | completeDataPatchRollback (patch : CompleteRollbackDataPatch)
  | failDataPatchRollback (patch : FailDataPatch)

namespace DataPatchUpdate

/-- `WHERE id = ?` -/
def id : DataPatchUpdate → JsString
  | completeDataPatch patch => patch.id
  | failDataPatch patch => patch.id
  | retryFailedDataPatchRollback patch _ => patch.id
  | claimDataPatchRollback patch => patch.id
  | completeDataPatchRollback patch => patch.id
  | failDataPatchRollback patch => patch.id

/-- The rest of the condition. A comparison with a column that is null is not true; `IS` compares
nulls too. -/
def where_ : DataPatchUpdate → DataPatchRow → Bool
  | completeDataPatch patch, row =>
    row.checksum = patch.checksum ∧ row.claim_id = some patch.claimId ∧ row.status = .pending
  | failDataPatch patch, row =>
    row.checksum = patch.checksum ∧ row.claim_id = some patch.claimId ∧ row.status = .pending
  | retryFailedDataPatchRollback patch seen, row =>
    row.checksum = patch.checksum ∧ row.status = .rollbackFailed ∧
      row.rollback_claim_id = seen.rollback_claim_id ∧ row.rollback_claimed_at = seen.rollback_claimed_at ∧
      row.rollback_failed_at = seen.rollback_failed_at ∧ row.rollback_error = seen.rollback_error
  | claimDataPatchRollback patch, row => row.checksum = patch.checksum ∧ row.status = .applied
  | completeDataPatchRollback patch, row =>
    row.checksum = patch.checksum ∧ row.rollback_claim_id = some patch.claimId ∧ row.status = .rollbackPending
  | failDataPatchRollback patch, row =>
    row.checksum = patch.checksum ∧ row.rollback_claim_id = some patch.claimId ∧ row.status = .rollbackPending

/-- `SET …` -/
def set : DataPatchUpdate → DataPatchRow → DataPatchRow
  | completeDataPatch patch, row =>
    { row with
      status := .applied, applied_at := some patch.appliedAt, result_json := patch.result
      result_present := patch.result.isSome, failed_at := none, error := none }
  | failDataPatch patch, row =>
    { row with status := .failed, failed_at := some patch.failedAt, error := some patch.error }
  | retryFailedDataPatchRollback patch _, row =>
    { row with
      status := .rollbackPending, rollback_claim_id := some patch.claimId
      rollback_claimed_at := some patch.claimedAt, rolled_back_at := none, rollback_failed_at := none
      rollback_error := none, rollback_result_json := none, rollback_result_present := false }
  | claimDataPatchRollback patch, row =>
    { row with
      status := .rollbackPending, rollback_claim_id := some patch.claimId
      rollback_claimed_at := some patch.claimedAt, rollback_failed_at := none, rollback_error := none }
  | completeDataPatchRollback patch, row =>
    { row with
      status := .rolledBack, rolled_back_at := some patch.rolledBackAt, rollback_result_json := patch.result
      rollback_result_present := patch.result.isSome, rollback_failed_at := none, rollback_error := none }
  | failDataPatchRollback patch, row =>
    { row with
      status := .rollbackFailed, rollback_failed_at := some patch.failedAt, rollback_error := some patch.error }

theorem set_id (update : DataPatchUpdate) (row : DataPatchRow) : (update.set row).id = row.id := by
  cases update <;> rfl

end DataPatchUpdate

inductive DataPatchStatement
  /-- `CREATE TABLE IF NOT EXISTS` -/
  | ensureDataPatchTable
  | select (id : JsString)
  /-- `INSERT OR IGNORE` of a pending row -/
  | insert (patch : ClaimDataPatch)
  | update (update : DataPatchUpdate)
  /-- `DELETE` of the failed entry that was read -/
  | delete (patch : RetryFailedDataPatch) (seen : DataPatchRow)

/-- An update and a delete report the number of changed rows. -/
def DataPatchStatement.Reply : DataPatchStatement → Type
  | .ensureDataPatchTable => Unit
  | .select _ => Option DataPatchRow
  | .insert _ => Unit
  | .update _ => Nat
  | .delete _ _ => Nat

/-- The row that a claim inserts. -/
def DataPatchRow.claimed (patch : ClaimDataPatch) : DataPatchRow :=
  { id := patch.id, checksum := patch.checksum, status := .pending, claim_id := some patch.claimId
    claimed_at := some patch.claimedAt }

/-- The condition of the delete. -/
def DataPatchRow.isSeenFailure (patch : RetryFailedDataPatch) (seen row : DataPatchRow) : Bool :=
  row.checksum = patch.checksum ∧ row.status = .failed ∧ row.claim_id = seen.claim_id ∧
    row.failed_at = seen.failed_at ∧ row.error = seen.error

namespace DataPatchTable

def insert (table : DataPatchTable) (patch : ClaimDataPatch) : DataPatchTable :=
  match table.row patch.id with
  | some _ => table
  | none => table.set patch.id (some (.claimed patch)) (fun _ h => by rw [← Option.some.inj h]; rfl)

/-- The number of changed rows, and the table after an update. -/
def update (table : DataPatchTable) (u : DataPatchUpdate) : Nat × DataPatchTable :=
  match h : (table.row u.id).filter u.where_ with
  | none => (0, table)
  | some row =>
    (1, table.set u.id (some (u.set row)) (fun _ h' => by
      rw [← Option.some.inj h', u.set_id]
      exact table.keyed (Option.filter_eq_some_iff.mp h).1))

def delete (table : DataPatchTable) (patch : RetryFailedDataPatch) (seen : DataPatchRow) : Nat × DataPatchTable :=
  match (table.row patch.id).filter (DataPatchRow.isSeenFailure patch seen) with
  | none => (0, table)
  | some _ => (1, table.set patch.id none (fun _ h => by cases h))

/-- What a statement replies and how it leaves the table, in one step. -/
def exec (table : DataPatchTable) : (statement : DataPatchStatement) → statement.Reply → DataPatchTable → Prop
  | .ensureDataPatchTable, _, table' => table' = table
  | .select id, row, table' => row = table.row id ∧ table' = table
  | .insert patch, _, table' => table' = table.insert patch
  | .update u, changes, table' => (changes, table') = table.update u
  | .delete patch seen, changes, table' => (changes, table') = table.delete patch seen

theorem insert_row (table : DataPatchTable) (patch : ClaimDataPatch) :
    table.insert patch = table ∨ table.row patch.id = none ∧ (table.insert patch).row patch.id = some (.claimed patch) ∧
      ∀ k, k ≠ patch.id → (table.insert patch).row k = table.row k := by
  unfold insert
  split
  · exact .inl rfl
  · rename_i hrow
    refine .inr ⟨hrow, if_pos rfl, ?_⟩
    intro k hk
    exact if_neg hk

theorem update_row (table : DataPatchTable) (u : DataPatchUpdate) :
    table.update u = (0, table) ∨ (table.update u).1 = 1 ∧ ∃ row, table.row u.id = some row ∧ u.where_ row = true ∧
      (table.update u).2.row u.id = some (u.set row) ∧
      ∀ k, k ≠ u.id → (table.update u).2.row k = table.row k := by
  unfold update
  split
  · exact .inl rfl
  · rename_i row hmatching
    obtain ⟨hrow, hwhere⟩ := Option.filter_eq_some_iff.mp hmatching
    refine .inr ⟨rfl, row, hrow, hwhere, if_pos rfl, ?_⟩
    intro k hk
    exact if_neg hk

theorem delete_row (table : DataPatchTable) (patch : RetryFailedDataPatch) (seen : DataPatchRow) :
    table.delete patch seen = (0, table) ∨ (table.delete patch seen).1 = 1 ∧ ∃ row, table.row patch.id = some row ∧
      DataPatchRow.isSeenFailure patch seen row = true ∧ (table.delete patch seen).2.row patch.id = none ∧
      ∀ k, k ≠ patch.id → (table.delete patch seen).2.row k = table.row k := by
  unfold delete
  split
  · exact .inl rfl
  · rename_i row hmatching
    obtain ⟨hrow, hseen⟩ := Option.filter_eq_some_iff.mp hmatching
    refine .inr ⟨rfl, row, hrow, hseen, if_pos rfl, ?_⟩
    intro k hk
    exact if_neg hk

end DataPatchTable

/-! ## Rows as the port shows them -/

abbrev DataPatchProgram (α : Type) := Program DataPatchStatement DataPatchStatement.Reply FrameworkError α

def DataPatchStatement.perform (statement : DataPatchStatement) : DataPatchProgram statement.Reply :=
  .act statement .pure

namespace DataPatchRow

/-- `parseResult` -/
def parseResult (row : DataPatchRow) : Option Json :=
  if row.result_present then some (row.result_json.getD .null) else none

/-- `parseRollbackResult` -/
def parseRollbackResult (row : DataPatchRow) : Option Json :=
  if row.rollback_result_present then some (row.rollback_result_json.getD .null) else none

/-- `appliedDataPatchFromRow` -/
def applied (row : DataPatchRow) : AppliedDataPatch :=
  { id := row.id, checksum := row.checksum, appliedAt := row.applied_at.getD [], result := row.parseResult }

def pending (row : DataPatchRow) : PendingDataPatch :=
  { id := row.id, checksum := row.checksum, claimedAt := row.claimed_at.getD [] }

def failed (row : DataPatchRow) : FailedDataPatch :=
  { id := row.id, checksum := row.checksum, failedAt := row.failed_at.getD [], error := row.error.getD [] }

/-- `rollbackPendingDataPatchFromRow` -/
def rollbackPending (row : DataPatchRow) : RollbackPendingDataPatch :=
  { row.applied with rollbackClaimedAt := row.rollback_claimed_at.getD [] }

/-- `rolledBackDataPatchFromRow` -/
def rolledBack (row : DataPatchRow) : RolledBackDataPatch :=
  { row.applied with rolledBackAt := row.rolled_back_at.getD [], rollbackResult := row.parseRollbackResult }

/-- `rollbackFailedDataPatchFromRow` -/
def rollbackFailed (row : DataPatchRow) : RollbackFailedDataPatch :=
  { row.applied with
    rollbackFailedAt := row.rollback_failed_at.getD [], rollbackError := row.rollback_error.getD [] }

/-- `claimResultFromRow` -/
def claimResult (row : DataPatchRow) (claimId : JsString) : Except FrameworkError DataPatchClaimResult :=
  match row.status with
  | .applied => .ok (.applied row.applied)
  | .failed => .ok (.failed row.failed)
  | .pending =>
    if row.claim_id = some claimId then
      .ok (.claimed { id := row.id, checksum := row.checksum, claimId, claimedAt := row.claimed_at.getD [] })
    else .ok (.pending row.pending)
  | status => .error (dataPatchApplyUnavailable row.id (journalStatusIs status))

/-- `rollbackClaimResultFromRow` -/
def rollbackClaimResult (row : DataPatchRow) : Except FrameworkError DataPatchRollbackClaimResult :=
  match row.status with
  | .pending => .ok (.pending row.pending)
  | .failed => .ok (.failed row.failed)
  | .rollbackPending => .ok (.rollbackPending row.rollbackPending)
  | .rolledBack => .ok (.rolledBack row.rolledBack)
  | .rollbackFailed => .ok (.rollbackFailed row.rollbackFailed)
  | .applied => .error (invalidDataPatchJournalStatus row.journal)

end DataPatchRow

/-! ## The log -/

namespace D1DataPatchLog

/-- `D1DataPatchLog.row` -/
def row (id : JsString) : DataPatchProgram (Option DataPatchRow) := (DataPatchStatement.select id).perform

/-- `assertChanged` -/
def assertChanged (changes : Nat) (id : JsString) : Except FrameworkError Unit :=
  ensure (changes != 0)
    (dataPatchError .dataPatchPending (js "Data patch '" ++ id ++ js "' is not claimed by this runner"))

/-- `assertRollbackChanged` -/
def assertRollbackChanged (changes : Nat) (id : JsString) : Except FrameworkError Unit :=
  ensure (changes != 0)
    (dataPatchError .dataPatchRollbackPending
      (js "Data patch '" ++ id ++ js "' rollback is not claimed by this runner"))

/-- `assertRetryCleared` -/
def assertRetryCleared (changes : Nat) (id : JsString) : Except FrameworkError Unit :=
  ensure (changes != 0) (dataPatchRetryUnavailable id (js "the failed journal entry changed before retry"))

/-- `assertRollbackRetryClaimed` -/
def assertRollbackRetryClaimed (changes : Nat) (id : JsString) : Except FrameworkError Unit :=
  ensure (changes != 0)
    (dataPatchRollbackRetryUnavailable id (js "the failed rollback journal entry changed before retry claim"))

def claimDataPatch (patch : ClaimDataPatch) : DataPatchProgram DataPatchClaimResult := do
  DataPatchStatement.ensureDataPatchTable.perform
  (DataPatchStatement.insert patch).perform
  match ← row patch.id with
  | none =>
    .throw (dataPatchError .dataPatchPending (js "Data patch '" ++ patch.id ++ js "' claim was not recorded"))
  | some row =>
    Program.ofExcept (assertDataPatchChecksumMatches patch.id patch.checksum row.checksum)
    Program.ofExcept (row.claimResult patch.claimId)

/-- An update that has to change the row: `completeDataPatch` and its siblings. -/
def change (update : DataPatchUpdate) (check : Nat → JsString → Except FrameworkError Unit) : DataPatchProgram Unit := do
  DataPatchStatement.ensureDataPatchTable.perform
  let changes ← (DataPatchStatement.update update).perform
  Program.ofExcept (check changes update.id)

def completeDataPatch (patch : CompleteDataPatch) : DataPatchProgram Unit :=
  change (.completeDataPatch patch) assertChanged

def failDataPatch (patch : FailDataPatch) : DataPatchProgram Unit := change (.failDataPatch patch) assertChanged

def completeDataPatchRollback (patch : CompleteRollbackDataPatch) : DataPatchProgram Unit :=
  change (.completeDataPatchRollback patch) assertRollbackChanged

def failDataPatchRollback (patch : FailDataPatch) : DataPatchProgram Unit :=
  change (.failDataPatchRollback patch) assertRollbackChanged

def retryFailedDataPatch (patch : RetryFailedDataPatch) : DataPatchProgram Unit := do
  DataPatchStatement.ensureDataPatchTable.perform
  let found ← row patch.id
  Program.ofExcept (assertRetryableFailedJournal (found.map (·.journal)) patch.id patch.checksum)
  match found with
  | none => .throw (dataPatchRetryUnavailable patch.id (js "no failed journal entry exists"))
  | some seen =>
    let changes ← (DataPatchStatement.delete patch seen).perform
    Program.ofExcept (assertRetryCleared changes patch.id)

def retryFailedDataPatchRollback (patch : ClaimDataPatch) : DataPatchProgram ClaimDataPatch := do
  DataPatchStatement.ensureDataPatchTable.perform
  let found ← row patch.id
  Program.ofExcept (assertRetryableRollbackFailedJournal (found.map (·.journal)) patch.id patch.checksum)
  match found with
  | none => .throw (dataPatchRollbackRetryUnavailable patch.id (js "no failed rollback journal entry exists"))
  | some seen =>
    let changes ← (DataPatchStatement.update (.retryFailedDataPatchRollback patch seen)).perform
    Program.ofExcept (assertRollbackRetryClaimed changes patch.id)
    return patch

/-- The result for a row that was found not to be claimable now. -/
def rollbackClaimResultOf (patch : ClaimDataPatch) (found : Option DataPatchRow) :
    Except FrameworkError DataPatchRollbackClaimResult :=
  match found with
  | none => .error (dataPatchRollbackUnavailable patch.id (js "no applied journal entry exists"))
  | some row => row.rollbackClaimResult

def claimDataPatchRollback (patch : ClaimDataPatch) : DataPatchProgram DataPatchRollbackClaimResult := do
  DataPatchStatement.ensureDataPatchTable.perform
  let found ← row patch.id
  Program.ofExcept (assertRollbackClaimableJournal (found.map (·.journal)) patch.id patch.checksum)
  if found.map (·.status) = some .applied then
    let changes : Nat ← (DataPatchStatement.update (.claimDataPatchRollback patch)).perform
    if changes = 0 then
      let changed ← row patch.id
      Program.ofExcept (assertRollbackClaimableJournal (changed.map (·.journal)) patch.id patch.checksum)
      Program.ofExcept (rollbackClaimResultOf patch changed)
    else return .claimed patch
  else Program.ofExcept (rollbackClaimResultOf patch found)

end D1DataPatchLog
