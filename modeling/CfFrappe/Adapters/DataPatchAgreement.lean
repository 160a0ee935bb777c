import CfFrappe.Adapters.DataPatchJournal
import CfFrappe.Adapters.InMemoryDataPatchLog
import CfFrappe.Lib.Alone
import CfFrappe.Lib.Sqlite

set_option autoImplicit false

/-! # The two journals of data patches are the same machine

`InMemoryDataPatchLog` replaces an entry as a whole, `D1DataPatchLog` updates some of the columns of a row and leaves
what is in the others. What a row stands for is an entry (`DataPatchRow.entry`), and with every call the entries of
the rows go on as those in memory do (`call_agrees`): a row never shows what an earlier phase has left in it.

Two things are to be known of the calls.

* They claim under new claim ids. With an id that a row holds already the database would hand out the claim a second
  time.
* Their texts are whole characters. The database stores U+FFFD for an unpaired surrogate, and a claim whose checksum
  has one does not find its own checksum in the row that it has just inserted (`dataPatchLogs_agree_loneSurrogate`).
  Results are stored as JSON texts, in which such a surrogate is escaped, so theirs come back as they were.
-/

open Utf
open Program (eval_bind eval_bind_ok eval_ofExcept)

/-! ## What is bound to a statement -/

def ClaimDataPatch.bound (patch : ClaimDataPatch) : ClaimDataPatch :=
  { id := toUsvString patch.id, checksum := toUsvString patch.checksum, claimId := toUsvString patch.claimId
    claimedAt := toUsvString patch.claimedAt }

def CompleteDataPatch.bound (patch : CompleteDataPatch) : CompleteDataPatch :=
  { id := toUsvString patch.id, checksum := toUsvString patch.checksum, claimId := toUsvString patch.claimId
    appliedAt := toUsvString patch.appliedAt, result := patch.result }

def CompleteRollbackDataPatch.bound (patch : CompleteRollbackDataPatch) : CompleteRollbackDataPatch :=
  { id := toUsvString patch.id, checksum := toUsvString patch.checksum, claimId := toUsvString patch.claimId
    rolledBackAt := toUsvString patch.rolledBackAt, result := patch.result }

def FailDataPatch.bound (patch : FailDataPatch) : FailDataPatch :=
  { id := toUsvString patch.id, checksum := toUsvString patch.checksum, claimId := toUsvString patch.claimId
    failedAt := toUsvString patch.failedAt, error := toUsvString patch.error }

def RetryFailedDataPatch.bound (patch : RetryFailedDataPatch) : RetryFailedDataPatch :=
  { id := toUsvString patch.id, checksum := toUsvString patch.checksum }

/-- The update with its parameters as they are bound. A row that was read holds whole characters already. -/
def DataPatchUpdate.bound : DataPatchUpdate → DataPatchUpdate
  | completeDataPatch patch => completeDataPatch patch.bound
  | failDataPatch patch => failDataPatch patch.bound
  | retryFailedDataPatchRollback patch seen => retryFailedDataPatchRollback patch.bound seen
  | claimDataPatchRollback patch => claimDataPatchRollback patch.bound
  | completeDataPatchRollback patch => completeDataPatchRollback patch.bound
  | failDataPatchRollback patch => failDataPatchRollback patch.bound

/-- The texts of a call. -/
def DataPatchLogCall.texts : DataPatchLogCall → List JsString
  | claimDataPatch patch | claimDataPatchRollback patch | retryFailedDataPatchRollback patch =>
    [patch.id, patch.checksum, patch.claimId, patch.claimedAt]
  | completeDataPatch patch => [patch.id, patch.checksum, patch.claimId, patch.appliedAt]
  | completeDataPatchRollback patch => [patch.id, patch.checksum, patch.claimId, patch.rolledBackAt]
  | failDataPatch patch | failDataPatchRollback patch =>
    [patch.id, patch.checksum, patch.claimId, patch.failedAt, patch.error]
  | retryFailedDataPatch patch => [patch.id, patch.checksum]
  | recordedDataPatches | appliedDataPatches => []

/-- The texts of a call have no unpaired surrogates. -/
def DataPatchLogCall.WholeCharacters (call : DataPatchLogCall) : Prop := ∀ text ∈ call.texts, WellFormed text

instance (call : DataPatchLogCall) : Decidable call.WholeCharacters :=
  inferInstanceAs (Decidable (∀ text ∈ call.texts, WellFormed text))

variable {row : DataPatchRow} {patch : ClaimDataPatch} {u : DataPatchUpdate} {claimId : JsString}

section Bound

/-! Texts of whole characters are bound as they are. -/

theorem ClaimDataPatch.bound_eq
    (h : ∀ text ∈ [patch.id, patch.checksum, patch.claimId, patch.claimedAt], WellFormed text) :
    patch.bound = patch := by
  simp only [List.forall_mem_cons] at h
  simp [bound, toUsvString_of_wellFormed, h]

theorem CompleteDataPatch.bound_eq {patch : CompleteDataPatch}
    (h : ∀ text ∈ [patch.id, patch.checksum, patch.claimId, patch.appliedAt], WellFormed text) :
    patch.bound = patch := by
  simp only [List.forall_mem_cons] at h
  simp [bound, toUsvString_of_wellFormed, h]

theorem CompleteRollbackDataPatch.bound_eq {patch : CompleteRollbackDataPatch}
    (h : ∀ text ∈ [patch.id, patch.checksum, patch.claimId, patch.rolledBackAt], WellFormed text) :
    patch.bound = patch := by
  simp only [List.forall_mem_cons] at h
  simp [bound, toUsvString_of_wellFormed, h]

theorem FailDataPatch.bound_eq {patch : FailDataPatch}
    (h : ∀ text ∈ [patch.id, patch.checksum, patch.claimId, patch.failedAt, patch.error], WellFormed text) :
    patch.bound = patch := by
  simp only [List.forall_mem_cons] at h
  simp [bound, toUsvString_of_wellFormed, h]

theorem RetryFailedDataPatch.bound_eq {patch : RetryFailedDataPatch}
    (h : ∀ text ∈ [patch.id, patch.checksum], WellFormed text) : patch.bound = patch := by
  simp only [List.forall_mem_cons] at h
  simp [bound, toUsvString_of_wellFormed, h]

end Bound

/-! ## The database alone -/

/-- The rows by their primary key. -/
abbrev DataPatchRows := Record JsString DataPatchRow

namespace DataPatchRows

/-- `INSERT OR IGNORE` -/
def insert (rows : DataPatchRows) (patch : ClaimDataPatch) : DataPatchRows :=
  match Record.get rows patch.id with
  | some _ => rows
  | none => Record.set rows patch.id (.claimed patch)

/-- The number of changed rows, and the rows after an update. -/
def update (rows : DataPatchRows) (u : DataPatchUpdate) : Nat × DataPatchRows :=
  match (Record.get rows u.id).filter u.where_ with
  | none => (0, rows)
  | some row => (1, Record.set rows u.id (u.set row))

def delete (rows : DataPatchRows) (patch : RetryFailedDataPatch) (seen : DataPatchRow) : Nat × DataPatchRows :=
  match (Record.get rows patch.id).filter (DataPatchRow.isSeenFailure patch seen) with
  | none => (0, rows)
  | some _ => (1, Record.without rows [patch.id])

/-- What a statement replies when no one else issues any, and the rows after it. -/
def reply (rows : DataPatchRows) : (statement : DataPatchStatement) → statement.Reply × DataPatchRows
  | .ensureDataPatchTable => ((), rows)
  | .select id => (Record.get rows (toUsvString id), rows)
  | .insert patch => ((), rows.insert patch.bound)
  | .update u => rows.update u.bound
  | .delete patch seen => rows.delete patch.bound seen

end DataPatchRows

/-! ## The listings -/

namespace DataPatchRow

/-- `recordedDataPatchFromRow` -/
def recorded (row : DataPatchRow) : RecordedDataPatch :=
  match row.status with
  | .applied => .applied row.applied
  | .failed => .failed row.failed
  | .rollbackPending => .rollbackPending row.rollbackPending
  | .rolledBack => .rolledBack row.rolledBack
  | .rollbackFailed => .rollbackFailed row.rollbackFailed
  | .pending => .pending row.pending

end DataPatchRow

namespace D1DataPatchLog

/-- `ORDER BY id ASC` -/
def orderById (rows : List DataPatchRow) : List DataPatchRow :=
  rows.insertionSort (fun left right =>
    Sqlite.compareValues (Sqlite.ofString left.id) (Sqlite.ofString right.id) ≠ .gt)

def recordedDataPatches (rows : DataPatchRows) : List RecordedDataPatch :=
  (orderById (rows.map Prod.snd)).map DataPatchRow.recorded

def appliedDataPatches (rows : DataPatchRows) : List AppliedDataPatch :=
  (orderById ((rows.map Prod.snd).filter (fun row => row.status = .applied))).map DataPatchRow.applied

/-- What a program answers that runs alone. -/
def answered {α : Type} (rows : DataPatchRows) (result : α → DataPatchLogResult) (program : DataPatchProgram α) :
    Except FrameworkError DataPatchLogResult × DataPatchRows :=
  let ended := program.eval DataPatchRows.reply rows
  (ended.1.map result, ended.2)

def call (rows : DataPatchRows) : DataPatchLogCall → Except FrameworkError DataPatchLogResult × DataPatchRows
  | .claimDataPatch patch => answered rows .claim (claimDataPatch patch)
  | .completeDataPatch patch => answered rows (fun _ => .nothing) (completeDataPatch patch)
  | .failDataPatch patch => answered rows (fun _ => .nothing) (failDataPatch patch)
  | .retryFailedDataPatch patch => answered rows (fun _ => .nothing) (retryFailedDataPatch patch)
  | .claimDataPatchRollback patch => answered rows .rollbackClaim (claimDataPatchRollback patch)
  | .completeDataPatchRollback patch => answered rows (fun _ => .nothing) (completeDataPatchRollback patch)
  | .failDataPatchRollback patch => answered rows (fun _ => .nothing) (failDataPatchRollback patch)
  | .retryFailedDataPatchRollback patch => answered rows .rollbackClaimed (retryFailedDataPatchRollback patch)
  | .recordedDataPatches => (.ok (.recorded (recordedDataPatches rows)), rows)
  | .appliedDataPatches => (.ok (.applied (appliedDataPatches rows)), rows)

end D1DataPatchLog

/-! ## What the rows stand for -/

/-- The entry that a row stands for. Columns that its status does not speak of may hold anything. -/
def DataPatchRow.entry (row : DataPatchRow) : InMemoryDataPatchEntry :=
  match row.status with
  | .pending => .pending row.pending (row.claim_id.getD [])
  | .applied => .applied row.applied
  | .failed => .failed row.failed (row.claim_id.getD [])
  | .rollbackPending => .rollbackPending row.rollbackPending (row.rollback_claim_id.getD [])
  | .rolledBack => .rolledBack row.rolledBack
  | .rollbackFailed => .rollbackFailed row.rollbackFailed (row.rollback_claim_id.getD [])

def DataPatchRows.entries (rows : DataPatchRows) : InMemoryDataPatchLog := Record.mapValues DataPatchRow.entry rows

/-- A claimed row holds the id of a claim, and that of an apply is one that was used. -/
structure DataPatchRow.Claimed (used : List JsString) (row : DataPatchRow) : Prop where
  pending : row.status = .pending → ∃ claimId ∈ used, row.claim_id = some claimId
  rollbackPending : row.status = .rollbackPending → row.rollback_claim_id.isSome = true

/-- The rows are kept under their own ids, and claimed under ids that were used. -/
structure DataPatchRows.OK (used : List JsString) (rows : DataPatchRows) : Prop where
  keyed : ∀ id row, Record.get rows id = some row → row.id = id
  claimed : ∀ id row, Record.get rows id = some row → row.Claimed used

theorem DataPatchRow.entry_journal (row : DataPatchRow) : row.entry.journal = row.journal := by
  unfold entry journal InMemoryDataPatchEntry.journal
  cases hstatus : row.status <;> rfl

theorem DataPatchRow.entry_record (row : DataPatchRow) : row.entry.record = row.recorded := by
  unfold entry recorded InMemoryDataPatchEntry.record
  cases row.status <;> rfl

theorem DataPatchRow.Claimed.mono {used used' : List JsString} (h : row.Claimed used) (hused : used ⊆ used') :
    row.Claimed used' := by
  refine ⟨?_, h.rollbackPending⟩
  intro hstatus
  obtain ⟨claimId, hclaimId, hrow⟩ := h.pending hstatus
  exact ⟨claimId, hused hclaimId, hrow⟩

namespace DataPatchRows

variable {used used' : List JsString} {rows : DataPatchRows}

@[simp] theorem get_entries (rows : DataPatchRows) (id : JsString) :
    Record.get rows.entries id = (Record.get rows id).map DataPatchRow.entry := Record.get_mapValues _ _ _

theorem entries_set (rows : DataPatchRows) (id : JsString) (row : DataPatchRow) :
    entries (Record.set rows id row) = Record.set rows.entries id row.entry := Record.mapValues_set _ _ _ _

theorem OK.mono (h : rows.OK used) (hused : used ⊆ used') : rows.OK used' :=
  ⟨h.keyed, fun id row hget => (h.claimed id row hget).mono hused⟩

theorem OK.set (h : rows.OK used) (hused : used ⊆ used') {id : JsString} (hid : row.id = id)
    (hclaimed : row.Claimed used') : OK used' (Record.set rows id row) := by
  constructor
  · intro k row' hget
    rw [Record.get_set] at hget
    split_ifs at hget with hk
    · obtain rfl := Option.some.inj hget
      rw [hid, hk]
    · exact h.keyed k row' hget
  · intro k row' hget
    rw [Record.get_set] at hget
    split_ifs at hget with hk
    · obtain rfl := Option.some.inj hget
      exact hclaimed
    · exact (h.claimed k row' hget).mono hused

theorem OK.without (h : rows.OK used) (ids : List JsString) : OK used (Record.without rows ids) := by
  constructor
  · intro k row hget
    rw [Record.get_without] at hget
    split_ifs at hget
    exact h.keyed k row hget
  · intro k row hget
    rw [Record.get_without] at hget
    split_ifs at hget
    exact h.claimed k row hget

end DataPatchRows

/-! ## One call -/

/-- The same result up to the order of a listing, or the same error. -/
inductive SameAnswer : Except FrameworkError DataPatchLogResult → Except FrameworkError DataPatchLogResult → Prop
  | ok {result result' : DataPatchLogResult} (h : result.Same result') : SameAnswer (.ok result) (.ok result')
  | error (e : FrameworkError) : SameAnswer (.error e) (.error e)

theorem SameAnswer.refl (answer : Except FrameworkError DataPatchLogResult) : SameAnswer answer answer := by
  cases answer with
  | error e => exact .error e
  | ok result => exact .ok (.refl result)

/-- After a call both journals have answered the same, the entries of the rows are those in memory, and the rows are
kept as they should be. -/
structure Agrees (used : List JsString) (memory : Except FrameworkError DataPatchLogResult × InMemoryDataPatchLog)
    (database : Except FrameworkError DataPatchLogResult × DataPatchRows) : Prop where
  answer : SameAnswer memory.1 database.1
  entries : memory.2 = database.2.entries
  ok : database.2.OK used

section Calls

variable {used : List JsString} {rows : DataPatchRows}

theorem Agrees.error (h : rows.OK used) (e : FrameworkError) :
    Agrees used (.error e, rows.entries) (.error e, rows) := ⟨.error e, rfl, h⟩

/-- An update that has to change the row, when no one else writes. -/
theorem eval_change (rows : DataPatchRows) (hbound : u.bound = u) (check : Nat → JsString → Except FrameworkError Unit) :
    (D1DataPatchLog.change u check).eval DataPatchRows.reply rows =
      (check (rows.update u).1 u.id, (rows.update u).2) := by
  have hupdate : (D1DataPatchLog.change u check).eval DataPatchRows.reply rows =
      (Program.ofExcept (check (rows.update u.bound).1 u.id)).eval DataPatchRows.reply (rows.update u.bound).2 := rfl
  rw [hupdate, hbound, eval_ofExcept]

theorem parseResult_stored (result : Option Json) :
    (if result.isSome = true then some (result.getD .null) else none) = result := by
  cases result <;> rfl

/-- The holder of a pending row, and no one else, may go on with it. -/
theorem assertPendingClaim_entry (h : row.Claimed used) (id checksum claimId : JsString) :
    InMemoryDataPatchLog.assertPendingClaim (some row.entry) id checksum claimId =
      D1DataPatchLog.assertChanged
        (if row.checksum = checksum ∧ row.claim_id = some claimId ∧ row.status = .pending then 1 else 0) id := by
  unfold InMemoryDataPatchLog.assertPendingClaim D1DataPatchLog.assertChanged DataPatchRow.entry
  cases hstatus : row.status with
  | pending =>
    obtain ⟨holder, -, hholder⟩ := h.pending hstatus
    rw [hholder, Option.getD_some]
    by_cases hchecksum : row.checksum = checksum
    · by_cases hclaimId : holder = claimId
      · simp [hchecksum, hclaimId, DataPatchRow.pending]
      · simp [hclaimId, DataPatchRow.pending]
    · simp [hchecksum, DataPatchRow.pending]
  | _ => simp

/-- What a row looks like in a phase that claims nothing. -/
theorem claimed_of_status (hpending : row.status ≠ .pending) (hrollback : row.status ≠ .rollbackPending) :
    row.Claimed used :=
  ⟨fun h => absurd h hpending, fun h => absurd h hrollback⟩

/-- **The end of an apply**: both journals let the holder of the claim put the same entry in its place. -/
theorem agrees_pending (h : rows.OK used) (hbound : u.bound = u) {checksum : JsString} {entry : InMemoryDataPatchEntry}
    (hwhere : ∀ row, u.where_ row =
      decide (row.checksum = checksum ∧ row.claim_id = some claimId ∧ row.status = .pending))
    (hentry : ∀ row : DataPatchRow, row.id = u.id → row.checksum = checksum → row.claim_id = some claimId →
      (u.set row).entry = entry) (hset : ∀ row, (u.set row).Claimed used) :
    Agrees used
      (InMemoryDataPatchLog.changed rows.entries (do
        InMemoryDataPatchLog.assertPendingClaim (Record.get rows.entries u.id) u.id checksum claimId
        pure (Record.set rows.entries u.id entry)))
      (D1DataPatchLog.answered rows (fun _ => .nothing) (D1DataPatchLog.change u D1DataPatchLog.assertChanged)) := by
  unfold D1DataPatchLog.answered
  dsimp only
  rw [eval_change rows hbound, DataPatchRows.get_entries]
  unfold DataPatchRows.update
  cases hget : Record.get rows u.id with
  | none => exact Agrees.error h _
  | some row =>
    rw [Option.map_some, assertPendingClaim_entry (h.claimed _ _ hget), Option.filter_some, hwhere]
    by_cases hheld : row.checksum = checksum ∧ row.claim_id = some claimId ∧ row.status = .pending
    · rw [if_pos hheld, if_pos (decide_eq_true hheld)]
      have hid := h.keyed _ _ hget
      refine ⟨SameAnswer.refl _, ?_, h.set (List.Subset.refl _) (by rw [u.set_id, hid]) (hset row)⟩
      change Record.set rows.entries u.id entry = _
      rw [DataPatchRows.entries_set, hentry row hid hheld.1 hheld.2.1]
    · rw [if_neg hheld, if_neg (by simpa using hheld)]
      exact Agrees.error h _

theorem agrees_completeDataPatch (h : rows.OK used) {patch : CompleteDataPatch} (hbound : patch.bound = patch) :
    Agrees used
      (InMemoryDataPatchLog.changed rows.entries (InMemoryDataPatchLog.completeDataPatch rows.entries patch))
      (D1DataPatchLog.answered rows (fun _ => .nothing) (D1DataPatchLog.completeDataPatch patch)) := by
  refine agrees_pending (u := .completeDataPatch patch) h (congrArg _ hbound) (fun _ => rfl) ?_ (fun row => claimed_of_status ?_ ?_)
  · rintro row hid hchecksum -
    have hresult := parseResult_stored patch.result
    change row.id = patch.id at hid
    simp [DataPatchUpdate.set, DataPatchRow.entry, DataPatchRow.applied, DataPatchRow.parseResult, hid, hchecksum,
      hresult]
  · simp [DataPatchUpdate.set]
  · simp [DataPatchUpdate.set]

theorem agrees_failDataPatch (h : rows.OK used) {patch : FailDataPatch} (hbound : patch.bound = patch) :
    Agrees used (InMemoryDataPatchLog.changed rows.entries (InMemoryDataPatchLog.failDataPatch rows.entries patch))
      (D1DataPatchLog.answered rows (fun _ => .nothing) (D1DataPatchLog.failDataPatch patch)) := by
  refine agrees_pending (u := .failDataPatch patch) h (congrArg _ hbound) (fun _ => rfl) ?_ (fun row => claimed_of_status ?_ ?_)
  · intro row hid hchecksum hclaimId
    change row.id = patch.id at hid
    simp [DataPatchUpdate.set, DataPatchRow.entry, DataPatchRow.failed, hid, hchecksum, hclaimId]
  · simp [DataPatchUpdate.set]
  · simp [DataPatchUpdate.set]

/-- The holder of a claimed rollback, and no one else, may go on with it. -/
theorem assertRollbackPendingClaim_entry (h : row.Claimed used) (id checksum claimId : JsString) :
    InMemoryDataPatchLog.assertRollbackPendingClaim (some row.entry) id checksum claimId =
      (D1DataPatchLog.assertRollbackChanged
        (if row.checksum = checksum ∧ row.rollback_claim_id = some claimId ∧ row.status = .rollbackPending then 1
          else 0) id).map (fun _ => row.rollbackPending) := by
  unfold InMemoryDataPatchLog.assertRollbackPendingClaim D1DataPatchLog.assertRollbackChanged DataPatchRow.entry
  cases hstatus : row.status with
  | rollbackPending =>
    obtain ⟨holder, hholder⟩ := Option.isSome_iff_exists.mp (h.rollbackPending hstatus)
    rw [hholder, Option.getD_some]
    by_cases hheld : row.checksum = checksum ∧ holder = claimId
    · simp [hheld, DataPatchRow.rollbackPending, DataPatchRow.applied, ensure, Except.map]
    · have hnot : ¬ (row.checksum = checksum ∧ some holder = some claimId ∧
          DataPatchStatus.rollbackPending = .rollbackPending) := by simpa using hheld
      rw [if_neg hnot]
      dsimp only
      rw [if_neg (by simpa [DataPatchRow.rollbackPending, DataPatchRow.applied] using hheld)]
      rfl
  | _ => simp [ensure, Except.map]

/-- **The end of a rollback**: both journals let the holder of the claim put the same entry in its place. -/
theorem agrees_rollbackPending (h : rows.OK used) (hbound : u.bound = u) {checksum : JsString}
    {entry : RollbackPendingDataPatch → InMemoryDataPatchEntry}
    (hwhere : ∀ row, u.where_ row =
      decide (row.checksum = checksum ∧ row.rollback_claim_id = some claimId ∧ row.status = .rollbackPending))
    (hentry : ∀ row : DataPatchRow, row.id = u.id → row.checksum = checksum → row.rollback_claim_id = some claimId →
      (u.set row).entry = entry row.rollbackPending) (hset : ∀ row, (u.set row).Claimed used) :
    Agrees used
      (InMemoryDataPatchLog.changed rows.entries (do
        let existing ← InMemoryDataPatchLog.assertRollbackPendingClaim (Record.get rows.entries u.id) u.id checksum claimId
        pure (Record.set rows.entries u.id (entry existing))))
      (D1DataPatchLog.answered rows (fun _ => .nothing)
        (D1DataPatchLog.change u D1DataPatchLog.assertRollbackChanged)) := by
  unfold D1DataPatchLog.answered
  dsimp only
  rw [eval_change rows hbound, DataPatchRows.get_entries]
  unfold DataPatchRows.update
  cases hget : Record.get rows u.id with
  | none => exact Agrees.error h _
  | some row =>
    rw [Option.map_some, assertRollbackPendingClaim_entry (h.claimed _ _ hget), Option.filter_some, hwhere]
    by_cases hheld : row.checksum = checksum ∧ row.rollback_claim_id = some claimId ∧ row.status = .rollbackPending
    · rw [if_pos hheld, if_pos (decide_eq_true hheld)]
      have hid := h.keyed _ _ hget
      refine ⟨SameAnswer.refl _, ?_, h.set (List.Subset.refl _) (by rw [u.set_id, hid]) (hset row)⟩
      change Record.set rows.entries u.id (entry row.rollbackPending) = _
      rw [DataPatchRows.entries_set, hentry row hid hheld.1 hheld.2.1]
    · rw [if_neg hheld, if_neg (by simpa using hheld)]
      exact Agrees.error h _

theorem agrees_completeDataPatchRollback (h : rows.OK used) {patch : CompleteRollbackDataPatch} (hbound : patch.bound = patch) :
    Agrees used
      (InMemoryDataPatchLog.changed rows.entries (InMemoryDataPatchLog.completeDataPatchRollback rows.entries patch))
      (D1DataPatchLog.answered rows (fun _ => .nothing) (D1DataPatchLog.completeDataPatchRollback patch)) := by
  refine agrees_rollbackPending (u := .completeDataPatchRollback patch) h (congrArg _ hbound) (fun _ => rfl) ?_
    (fun row => claimed_of_status ?_ ?_)
  · rintro row hid hchecksum -
    have hresult := parseResult_stored patch.result
    change row.id = patch.id at hid
    simp [DataPatchUpdate.set, DataPatchRow.entry, DataPatchRow.rolledBack, DataPatchRow.rollbackPending,
      DataPatchRow.applied, DataPatchRow.parseResult, DataPatchRow.parseRollbackResult, hid, hchecksum, hresult]
  · simp [DataPatchUpdate.set]
  · simp [DataPatchUpdate.set]

theorem agrees_failDataPatchRollback (h : rows.OK used) {patch : FailDataPatch} (hbound : patch.bound = patch) :
    Agrees used
      (InMemoryDataPatchLog.changed rows.entries (InMemoryDataPatchLog.failDataPatchRollback rows.entries patch))
      (D1DataPatchLog.answered rows (fun _ => .nothing) (D1DataPatchLog.failDataPatchRollback patch)) := by
  refine agrees_rollbackPending (u := .failDataPatchRollback patch) h (congrArg _ hbound) (fun _ => rfl) ?_
    (fun row => claimed_of_status ?_ ?_)
  · intro row hid hchecksum hclaimId
    change row.id = patch.id at hid
    simp [DataPatchUpdate.set, DataPatchRow.entry, DataPatchRow.rollbackFailed, DataPatchRow.rollbackPending,
      DataPatchRow.applied, DataPatchRow.parseResult, hid, hchecksum, hclaimId]
  · simp [DataPatchUpdate.set]
  · simp [DataPatchUpdate.set]

/-! ### Claims and retries -/

/-- A row that no claim of this call has inserted shows the result that its entry shows. -/
theorem claimResult_entry (h : row.Claimed used) (hnew : claimId ∉ used) :
    row.claimResult claimId = row.entry.claimResult := by
  unfold DataPatchRow.claimResult DataPatchRow.entry InMemoryDataPatchEntry.claimResult
  cases hstatus : row.status with
  | pending =>
    obtain ⟨holder, hholder, hrow⟩ := h.pending hstatus
    have hne : row.claim_id ≠ some claimId := by
      rw [hrow, ne_eq, Option.some.injEq]
      rintro rfl
      exact hnew hholder
    dsimp only
    rw [if_neg hne]
  | _ => rfl

theorem eval_claimDataPatch (rows : DataPatchRows) (hbound : patch.bound = patch)
    (hrow : Record.get (rows.insert patch) patch.id = some row) :
    (D1DataPatchLog.claimDataPatch patch).eval DataPatchRows.reply rows =
      ((do
        assertDataPatchChecksumMatches patch.id patch.checksum row.checksum
        row.claimResult patch.claimId), rows.insert patch) := by
  have hid : toUsvString patch.id = patch.id := congrArg ClaimDataPatch.id hbound
  have hselect : (D1DataPatchLog.row patch.id).eval DataPatchRows.reply (rows.insert patch) =
      (.ok (Record.get (rows.insert patch) (toUsvString patch.id)), rows.insert patch) := rfl
  rw [hid, hrow] at hselect
  have hinsert : Program.eval (α := Unit) DataPatchRows.reply (DataPatchStatement.insert patch).perform rows =
      (.ok (), rows.insert patch.bound) := rfl
  rw [hbound] at hinsert
  have hensure : Program.eval (α := Unit) DataPatchRows.reply DataPatchStatement.ensureDataPatchTable.perform rows =
      (.ok (), rows) := rfl
  unfold D1DataPatchLog.claimDataPatch
  rw [eval_bind_ok hensure, eval_bind_ok hinsert, eval_bind_ok hselect]
  dsimp only
  rw [eval_bind, eval_ofExcept]
  cases assertDataPatchChecksumMatches patch.id patch.checksum row.checksum with
  | error e => rfl
  | ok u => exact eval_ofExcept _ _

/-- **A claim** goes to the first who asks for it. -/
theorem agrees_claimDataPatch (h : rows.OK used) (hbound : patch.bound = patch) (hnew : patch.claimId ∉ used) :
    Agrees (patch.claimId :: used)
      (InMemoryDataPatchLog.answered rows.entries .claim (InMemoryDataPatchLog.claimDataPatch rows.entries patch))
      (D1DataPatchLog.answered rows .claim (D1DataPatchLog.claimDataPatch patch)) := by
  have hmono : used ⊆ patch.claimId :: used := List.subset_cons_self _ _
  unfold D1DataPatchLog.answered InMemoryDataPatchLog.claimDataPatch
  dsimp only
  rw [DataPatchRows.get_entries]
  cases hget : Record.get rows patch.id with
  | none =>
    -- without a row the insert makes one, and it holds the new claim
    have hinserted : rows.insert patch = Record.set rows patch.id (.claimed patch) := by
      unfold DataPatchRows.insert
      rw [hget]
    have hrow : Record.get (rows.insert patch) patch.id = some (.claimed patch) := by
      rw [hinserted, Record.get_set, if_pos rfl]
    rw [eval_claimDataPatch rows hbound hrow, hinserted]
    have hanswer : (do
        assertDataPatchChecksumMatches patch.id patch.checksum (DataPatchRow.claimed patch).checksum
        (DataPatchRow.claimed patch).claimResult patch.claimId) = Except.ok (.claimed patch) := by
      have hchecksum : assertDataPatchChecksumMatches patch.id patch.checksum patch.checksum = .ok () := by
        simp [assertDataPatchChecksumMatches, ensure]
      change (assertDataPatchChecksumMatches patch.id patch.checksum patch.checksum).bind _ = _
      rw [hchecksum]
      exact if_pos rfl
    rw [hanswer]
    refine ⟨SameAnswer.refl _, ?_, h.set hmono rfl ⟨fun _ => ⟨_, List.mem_cons_self, rfl⟩, fun hstatus => ?_⟩⟩
    · rw [DataPatchRows.entries_set]
      rfl
    · cases hstatus
  | some row =>
    -- with a row the insert does nothing, and the claim read is not the new one
    have hinserted : rows.insert patch = rows := by
      unfold DataPatchRows.insert
      rw [hget]
    rw [eval_claimDataPatch rows hbound (by rw [hinserted]; exact hget), hinserted,
      claimResult_entry (h.claimed _ _ hget) hnew, Option.map_some]
    dsimp only
    rw [row.entry_journal]
    change Agrees _ (InMemoryDataPatchLog.answered rows.entries _
      ((assertDataPatchChecksumMatches patch.id patch.checksum row.checksum).bind _)) (Except.map _
      ((assertDataPatchChecksumMatches patch.id patch.checksum row.checksum).bind _), _)
    cases assertDataPatchChecksumMatches patch.id patch.checksum row.checksum with
    | error e => exact Agrees.error (h.mono hmono) e
    | ok u =>
      change Agrees _ (InMemoryDataPatchLog.answered rows.entries _ (row.entry.claimResult.bind _))
        (Except.map _ row.entry.claimResult, _)
      cases row.entry.claimResult with
      | error e => exact Agrees.error (h.mono hmono) e
      | ok result => exact ⟨SameAnswer.refl _, rfl, h.mono hmono⟩

/-- Reading a row after the table was made sure of. -/
theorem eval_row {α : Type} (rows : DataPatchRows) {id : JsString} (hid : toUsvString id = id)
    (f : Option DataPatchRow → DataPatchProgram α) :
    (do
      DataPatchStatement.ensureDataPatchTable.perform
      let found ← D1DataPatchLog.row id
      f found : DataPatchProgram α).eval DataPatchRows.reply rows =
      (f (Record.get rows id)).eval DataPatchRows.reply rows := by
  conv_rhs => rw [← hid]
  rfl

theorem journal_entries (rows : DataPatchRows) (id : JsString) :
    (Record.get rows.entries id).map (·.journal) = (Record.get rows id).map (·.journal) := by
  rw [DataPatchRows.get_entries, Option.map_map]
  congr 1
  funext row
  exact row.entry_journal

theorem agrees_retryFailedDataPatch (h : rows.OK used) {patch : RetryFailedDataPatch} (hbound : patch.bound = patch) :
    Agrees used
      (InMemoryDataPatchLog.changed rows.entries (InMemoryDataPatchLog.retryFailedDataPatch rows.entries patch))
      (D1DataPatchLog.answered rows (fun _ => .nothing) (D1DataPatchLog.retryFailedDataPatch patch)) := by
  unfold D1DataPatchLog.answered InMemoryDataPatchLog.retryFailedDataPatch D1DataPatchLog.retryFailedDataPatch
  dsimp only
  rw [eval_row rows (congrArg RetryFailedDataPatch.id hbound), journal_entries, eval_bind, eval_ofExcept]
  cases hassert : assertRetryableFailedJournal ((Record.get rows patch.id).map (·.journal)) patch.id patch.checksum with
  | error e => exact Agrees.error h e
  | ok u =>
    obtain ⟨journal, hjournal, hchecksum, hstatus⟩ := assertRetryableFailedJournal_ok hassert
    obtain ⟨row, hget, rfl⟩ := Option.map_eq_some_iff.mp hjournal
    -- the delete finds the row that was just read
    have hseen : DataPatchRow.isSeenFailure patch row row = true := by
      change row.checksum = patch.checksum at hchecksum
      change row.status = .failed at hstatus
      simp [DataPatchRow.isSeenFailure, hchecksum, hstatus]
    have hdelete : rows.delete patch row = (1, Record.without rows [patch.id]) := by
      unfold DataPatchRows.delete
      rw [hget, Option.filter_some, if_pos hseen]
    rw [hget]
    dsimp only
    change Agrees used _
      (Except.map _ ((Program.ofExcept (D1DataPatchLog.assertRetryCleared (rows.delete patch.bound row).1 patch.id) :
          DataPatchProgram Unit).eval DataPatchRows.reply (rows.delete patch.bound row).2).1,
        ((Program.ofExcept (D1DataPatchLog.assertRetryCleared (rows.delete patch.bound row).1 patch.id) :
          DataPatchProgram Unit).eval DataPatchRows.reply (rows.delete patch.bound row).2).2)
    rw [hbound, hdelete]
    exact ⟨SameAnswer.refl _, (Record.mapValues_without _ _ _).symm, h.without _⟩

theorem agrees_retryFailedDataPatchRollback (h : rows.OK used) (hbound : patch.bound = patch) :
    Agrees used
      (InMemoryDataPatchLog.answered rows.entries .rollbackClaimed
        (InMemoryDataPatchLog.retryFailedDataPatchRollback rows.entries patch))
      (D1DataPatchLog.answered rows .rollbackClaimed (D1DataPatchLog.retryFailedDataPatchRollback patch)) := by
  unfold D1DataPatchLog.answered InMemoryDataPatchLog.retryFailedDataPatchRollback
    D1DataPatchLog.retryFailedDataPatchRollback
  dsimp only
  rw [eval_row rows (congrArg ClaimDataPatch.id hbound), journal_entries, eval_bind, eval_ofExcept]
  cases hassert : assertRetryableRollbackFailedJournal ((Record.get rows patch.id).map (·.journal)) patch.id
      patch.checksum with
  | error e => exact Agrees.error h e
  | ok u =>
    obtain ⟨journal, hjournal, hchecksum, hstatus⟩ := assertRetryableRollbackFailedJournal_ok hassert
    obtain ⟨row, hget, rfl⟩ := Option.map_eq_some_iff.mp hjournal
    change row.checksum = patch.checksum at hchecksum
    change row.status = .rollbackFailed at hstatus
    have hid := h.keyed _ _ hget
    let u : DataPatchUpdate := .retryFailedDataPatchRollback patch row
    have hubound : u.bound = u := congrArg (DataPatchUpdate.retryFailedDataPatchRollback · row) hbound
    have hwhere : u.where_ row = true := by
      simp [u, DataPatchUpdate.where_, hchecksum, hstatus]
    -- the row is as it was read, so the update changes it
    have hupdate : rows.update u = (1, Record.set rows patch.id (u.set row)) := by
      have hfound : Record.get rows u.id = some row := hget
      unfold DataPatchRows.update
      rw [hfound, Option.filter_some, if_pos hwhere]
      rfl
    have hentry : row.entry = .rollbackFailed row.rollbackFailed (row.rollback_claim_id.getD []) := by
      unfold DataPatchRow.entry
      rw [hstatus]
    rw [DataPatchRows.get_entries, hget, Option.map_some, hentry]
    dsimp only
    change Agrees used _
      (Except.map _ ((do
          Program.ofExcept (D1DataPatchLog.assertRollbackRetryClaimed (rows.update u.bound).1 patch.id)
          return patch : DataPatchProgram ClaimDataPatch).eval DataPatchRows.reply (rows.update u.bound).2).1,
        ((do
          Program.ofExcept (D1DataPatchLog.assertRollbackRetryClaimed (rows.update u.bound).1 patch.id)
          return patch : DataPatchProgram ClaimDataPatch).eval DataPatchRows.reply (rows.update u.bound).2).2)
    rw [hubound, hupdate]
    refine ⟨SameAnswer.refl _, ?_, h.set (List.Subset.refl _) hid ⟨fun hpending => ?_, fun _ => rfl⟩⟩
    · change Record.set rows.entries patch.id _ = DataPatchRows.entries (Record.set rows patch.id (u.set row))
      rw [DataPatchRows.entries_set]
      congr 1
      simp [u, DataPatchUpdate.set, DataPatchRow.entry, DataPatchRow.rollbackPending, DataPatchRow.rollbackFailed,
        DataPatchRow.applied, DataPatchRow.parseResult, hid, hchecksum]
    · cases hpending

/-- What the rollback of a patch in another phase than `applied` shows. -/
theorem rollbackClaimResult_entry (h : row.status ≠ .applied) :
    row.rollbackClaimResult = row.entry.rollbackClaimResult := by
  unfold DataPatchRow.rollbackClaimResult DataPatchRow.entry InMemoryDataPatchEntry.rollbackClaimResult
  cases hstatus : row.status with
  | applied => exact absurd hstatus h
  | _ => rfl

/-- **A rollback** is claimed once. -/
theorem agrees_claimDataPatchRollback (h : rows.OK used) (hbound : patch.bound = patch) :
    Agrees used
      (InMemoryDataPatchLog.answered rows.entries .rollbackClaim
        (InMemoryDataPatchLog.claimDataPatchRollback rows.entries patch))
      (D1DataPatchLog.answered rows .rollbackClaim (D1DataPatchLog.claimDataPatchRollback patch)) := by
  unfold D1DataPatchLog.answered InMemoryDataPatchLog.claimDataPatchRollback D1DataPatchLog.claimDataPatchRollback
  dsimp only
  rw [eval_row rows (congrArg ClaimDataPatch.id hbound), journal_entries, eval_bind, eval_ofExcept]
  cases hassert : assertRollbackClaimableJournal ((Record.get rows patch.id).map (·.journal)) patch.id
      patch.checksum with
  | error e => exact Agrees.error h e
  | ok u =>
    obtain ⟨journal, hjournal, hchecksum⟩ := assertRollbackClaimableJournal_ok hassert
    obtain ⟨row, hget, rfl⟩ := Option.map_eq_some_iff.mp hjournal
    change row.checksum = patch.checksum at hchecksum
    rw [DataPatchRows.get_entries, hget, Option.map_some, Option.map_some]
    dsimp only
    by_cases hstatus : row.status = .applied
    · have hid := h.keyed _ _ hget
      let u : DataPatchUpdate := .claimDataPatchRollback patch
      have hwhere : u.where_ row = true := by
        simp [u, DataPatchUpdate.where_, hchecksum, hstatus]
      -- the row is as it was read, so the update changes it
      have hupdate : rows.update u = (1, Record.set rows patch.id (u.set row)) := by
        have hfound : Record.get rows u.id = some row := hget
        unfold DataPatchRows.update
        rw [hfound, Option.filter_some, if_pos hwhere]
        rfl
      have hentry : row.entry = .applied row.applied := by
        unfold DataPatchRow.entry
        rw [hstatus]
      have hperform : Program.eval (α := Nat) DataPatchRows.reply
          (DataPatchStatement.update (.claimDataPatchRollback patch)).perform rows =
          (.ok (1 : Nat), Record.set rows patch.id (u.set row)) := by
        have hubound : u.bound = u := congrArg DataPatchUpdate.claimDataPatchRollback hbound
        have hreply : Program.eval (α := Nat) DataPatchRows.reply (DataPatchStatement.update u).perform rows =
            (.ok (rows.update u.bound).1, (rows.update u.bound).2) := rfl
        rw [hreply, hubound, hupdate]
      rw [hstatus, if_pos rfl, hentry, eval_bind_ok hperform, if_neg Nat.one_ne_zero]
      refine ⟨SameAnswer.refl _, ?_, h.set (List.Subset.refl _) hid ⟨?_, fun _ => rfl⟩⟩
      · exact (DataPatchRows.entries_set rows patch.id (u.set row)).symm
      · intro hpending
        cases hpending
    · have hsome : some row.status ≠ some DataPatchStatus.applied := fun heq => hstatus (Option.some.inj heq)
      -- no claim: the answer is made of the row alone
      have hresult := rollbackClaimResult_entry hstatus
      rw [if_neg hsome, eval_ofExcept]
      unfold D1DataPatchLog.rollbackClaimResultOf
      dsimp only
      rw [hresult]
      unfold DataPatchRow.entry InMemoryDataPatchEntry.rollbackClaimResult
      cases hcase : row.status with
      | applied => exact absurd hcase hstatus
      | _ => exact ⟨SameAnswer.refl _, rfl, h⟩

end Calls

/-! ### Listings -/

theorem applied?_recorded (row : DataPatchRow) :
    row.recorded.applied? = if row.status = .applied then some row.applied else none := by
  unfold DataPatchRow.recorded
  cases row.status <;> rfl

theorem filterMap_applied (rows : List DataPatchRow) :
    rows.filterMap (fun row => row.recorded.applied?) =
      (rows.filter (fun row => row.status = .applied)).map DataPatchRow.applied := by
  induction rows with
  | nil => rfl
  | cons row rows ih =>
    rw [List.filterMap_cons, applied?_recorded, List.filter_cons]
    by_cases hstatus : row.status = .applied
    · simp [hstatus, ih]
    · simp [hstatus, ih]

theorem perm_orderById (rows : List DataPatchRow) : (D1DataPatchLog.orderById rows).Perm rows :=
  List.perm_insertionSort _ _

/-- The patches of the rows, before any sorting. -/
theorem records_entries (rows : DataPatchRows) :
    (rows.entries.map Prod.snd).map InMemoryDataPatchEntry.record = (rows.map Prod.snd).map DataPatchRow.recorded := by
  unfold DataPatchRows.entries
  rw [Record.values_mapValues, List.map_map]
  apply List.map_congr_left
  intro row _
  exact row.entry_record

theorem perm_recordedDataPatches (localeCompare : JsString → JsString → Ordering) (rows : DataPatchRows) :
    (InMemoryDataPatchLog.recordedDataPatches localeCompare rows.entries).Perm
      (D1DataPatchLog.recordedDataPatches rows) := by
  unfold InMemoryDataPatchLog.recordedDataPatches D1DataPatchLog.recordedDataPatches
  rw [records_entries]
  exact (List.perm_insertionSort _ _).trans ((perm_orderById _).map _).symm

theorem perm_appliedDataPatches (localeCompare : JsString → JsString → Ordering) (rows : DataPatchRows) :
    (InMemoryDataPatchLog.appliedDataPatches localeCompare rows.entries).Perm
      (D1DataPatchLog.appliedDataPatches rows) := by
  unfold InMemoryDataPatchLog.appliedDataPatches D1DataPatchLog.appliedDataPatches
    InMemoryDataPatchLog.recordedDataPatches
  rw [records_entries]
  have hmemory := (List.perm_insertionSort (fun left right : RecordedDataPatch =>
    localeCompare left.id right.id ≠ .gt) ((rows.map Prod.snd).map DataPatchRow.recorded)).filterMap
      RecordedDataPatch.applied?
  have hvalues : ((rows.map Prod.snd).map DataPatchRow.recorded).filterMap RecordedDataPatch.applied? =
      ((rows.map Prod.snd).filter (fun row => row.status = .applied)).map DataPatchRow.applied := by
    rw [List.filterMap_map]
    exact filterMap_applied _
  rw [hvalues] at hmemory
  exact hmemory.trans ((perm_orderById _).map _).symm

/-! ## Every sequence of calls -/

/-- **One call**: it answers the same in both journals, and leaves them the same. -/
theorem call_agrees (localeCompare : JsString → JsString → Ordering) {used : List JsString} {rows : DataPatchRows}
    (h : rows.OK used) {call : DataPatchLogCall} (hwhole : call.WholeCharacters)
    (hnew : ∀ claimId, call.newClaimId? = some claimId → claimId ∉ used) :
    Agrees (call.newClaimId?.toList ++ used) (InMemoryDataPatchLog.call localeCompare rows.entries call)
      (D1DataPatchLog.call rows call) := by
  have hmono : used ⊆ call.newClaimId?.toList ++ used := List.subset_append_right _ _
  cases call with
  | claimDataPatch patch => exact agrees_claimDataPatch h (ClaimDataPatch.bound_eq hwhole) (hnew _ rfl)
  | completeDataPatch patch => exact agrees_completeDataPatch h (CompleteDataPatch.bound_eq hwhole)
  | failDataPatch patch => exact agrees_failDataPatch h (FailDataPatch.bound_eq hwhole)
  | retryFailedDataPatch patch => exact agrees_retryFailedDataPatch h (RetryFailedDataPatch.bound_eq hwhole)
  | claimDataPatchRollback patch =>
    exact agrees_claimDataPatchRollback (h.mono hmono) (ClaimDataPatch.bound_eq hwhole)
  | completeDataPatchRollback patch =>
    exact agrees_completeDataPatchRollback h (CompleteRollbackDataPatch.bound_eq hwhole)
  | failDataPatchRollback patch => exact agrees_failDataPatchRollback h (FailDataPatch.bound_eq hwhole)
  | retryFailedDataPatchRollback patch =>
    exact agrees_retryFailedDataPatchRollback (h.mono hmono) (ClaimDataPatch.bound_eq hwhole)
  | recordedDataPatches => exact ⟨.ok (.recorded (perm_recordedDataPatches _ _)), rfl, h⟩
  | appliedDataPatches => exact ⟨.ok (.applied (perm_appliedDataPatches _ _)), rfl, h⟩

/-- What the calls of a sequence answer, one after the other, each with the journal after it. -/
def callAll {σ : Type} (call : σ → DataPatchLogCall → Except FrameworkError DataPatchLogResult × σ) :
    σ → List DataPatchLogCall → List (Except FrameworkError DataPatchLogResult × σ)
  | _, [] => []
  | journal, c :: calls => call journal c :: callAll call (call journal c).2 calls

/-- The same answer, and the same patches listed after it. -/
def SameMoment (localeCompare : JsString → JsString → Ordering)
    (memory : Except FrameworkError DataPatchLogResult × InMemoryDataPatchLog)
    (database : Except FrameworkError DataPatchLogResult × DataPatchRows) : Prop :=
  SameAnswer memory.1 database.1 ∧
    (InMemoryDataPatchLog.recordedDataPatches localeCompare memory.2).Perm
      (D1DataPatchLog.recordedDataPatches database.2)

theorem callAll_agrees (localeCompare : JsString → JsString → Ordering) {used : List JsString} {rows : DataPatchRows}
    (h : rows.OK used) (calls : List DataPatchLogCall) (hwhole : ∀ call ∈ calls, call.WholeCharacters)
    (hnodup : (calls.filterMap (·.newClaimId?)).Nodup)
    (hnew : ∀ claimId ∈ calls.filterMap (·.newClaimId?), claimId ∉ used) :
    List.Forall₂ (SameMoment localeCompare) (callAll (InMemoryDataPatchLog.call localeCompare) rows.entries calls)
      (callAll D1DataPatchLog.call rows calls) := by
  induction calls generalizing used rows with
  | nil => exact List.Forall₂.nil
  | cons call calls ih =>
    have hcons : (call :: calls).filterMap (·.newClaimId?) =
        call.newClaimId?.toList ++ calls.filterMap (·.newClaimId?) := by
      rw [List.filterMap_cons]
      cases call.newClaimId? <;> rfl
    rw [hcons] at hnodup hnew
    have hstep := call_agrees localeCompare h (hwhole call List.mem_cons_self) (by
      intro claimId hclaimId
      apply hnew claimId
      rw [hclaimId]
      exact List.mem_cons_self)
    rw [callAll, callAll]
    refine List.Forall₂.cons ⟨hstep.answer, ?_⟩ ?_
    · rw [hstep.entries]
      exact perm_recordedDataPatches _ _
    · rw [hstep.entries]
      apply ih hstep.ok (fun later hlater => hwhole later (List.mem_cons_of_mem _ hlater)) hnodup.of_append_right
      -- the ids of the later calls are neither used before nor new with this call
      intro claimId hlater hused
      rcases List.mem_append.mp hused with hused | hused
      · exact List.disjoint_of_nodup_append hnodup hused hlater
      · exact hnew claimId (List.mem_append_right _ hlater) hused

def loneSurrogateClaim : ClaimDataPatch := { id := js "p", checksum := [0xD800], claimId := js "a", claimedAt := js "1" }

/-- The result of the patch is `null`, its rollback has none. -/
def rolledBackCalls : List DataPatchLogCall :=
  [.claimDataPatch { id := js "p", checksum := js "s", claimId := js "a", claimedAt := js "1" },
   .completeDataPatch { id := js "p", checksum := js "s", claimId := js "a", appliedAt := js "2", result := some .null },
   .claimDataPatchRollback { id := js "p", checksum := js "s", claimId := js "b", claimedAt := js "3" },
   .failDataPatchRollback { id := js "p", checksum := js "s", claimId := js "b", failedAt := js "4", error := [] },
   .retryFailedDataPatchRollback { id := js "p", checksum := js "s", claimId := js "c", claimedAt := js "5" },
   .completeDataPatchRollback { id := js "p", checksum := js "s", claimId := js "c", rolledBackAt := js "6" }]
