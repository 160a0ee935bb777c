import CfFrappe.Adapters.DataPatchJournal

set_option autoImplicit false

/-! # Runners of data patches exclude each other

The row of a patch says which claim holds it: the apply claim while it is pending, the rollback
claim while its rollback is. No statement of another runner changes the holder
(`DataPatchTable.holder_lost`), and a runner that is told that it has claimed a patch holds it then
(`wp_dataPatchCall`). Runners are told apart by their claim ids.
-/

open Discipline (wp_bind wp_checked wp_mono wp_ofExcept wp_perform wp_pure wp_reporting wp_throw)

/-- The claim that holds a row. -/
def DataPatchRow.holder (row : DataPatchRow) : Option JsString :=
  match row.status with
  | .pending => row.claim_id
  | .rollbackPending => row.rollback_claim_id
  | _ => none

def DataPatchTable.holder (table : DataPatchTable) (id : JsString) : Option JsString :=
  (table.row id).bind DataPatchRow.holder

/-- The claim whose end an update records. -/
def DataPatchUpdate.endOf : DataPatchUpdate → Option JsString
  | completeDataPatch patch => some patch.claimId
  | failDataPatch patch => some patch.claimId
  | completeDataPatchRollback patch => some patch.claimId
  | failDataPatchRollback patch => some patch.claimId
  | retryFailedDataPatchRollback _ _ => none
  | claimDataPatchRollback _ => none

/-- The patch and the claim that an update lets go, if it has changed a row. -/
def DataPatchUpdate.released (u : DataPatchUpdate) (changes : Nat) : Option (JsString × JsString) :=
  if changes = 0 then none else u.endOf.map (fun claim => (u.id, claim))

/-- The patch whose entry a delete has removed, if it has. -/
def RetryFailedDataPatch.cleared (patch : RetryFailedDataPatch) (changes : Nat) : Option JsString :=
  if changes = 0 then none else some patch.id

def DataPatchStatement.released : (statement : DataPatchStatement) → statement.Reply → Option (JsString × JsString)
  | .update u, changes => u.released changes
  | .ensureDataPatchTable, _ | .select _, _ | .insert _, _ | .delete _ _, _ => none

def DataPatchStatement.cleared : (statement : DataPatchStatement) → statement.Reply → Option JsString
  | .delete patch _, changes => patch.cleared changes
  | .ensureDataPatchTable, _ | .select _, _ | .insert _, _ | .update _, _ => none

/-! ## What statements do to claims -/

variable {u : DataPatchUpdate} {patch : ClaimDataPatch} {statement : DataPatchStatement} {row : DataPatchRow}
variable {claim claimId : JsString}

namespace DataPatchTable

variable {table table' : DataPatchTable}

theorem holder_eq {id : JsString} (h : table.row id = some row) : table.holder id = row.holder := by
  unfold holder
  rw [h]
  rfl

theorem holder_of_row_eq {id : JsString} (h : table'.row id = table.row id) : table'.holder id = table.holder id := by
  unfold holder
  rw [h]

/-- An update that ends a claim finds the claim on its row. -/
theorem holder_of_end (hend : u.endOf = some claim) (hwhere : u.where_ row = true) : row.holder = some claim := by
  unfold DataPatchRow.holder
  cases u with
  | completeDataPatch patch =>
    simp only [DataPatchUpdate.where_, decide_eq_true_eq] at hwhere
    rw [hwhere.2.2]
    exact hwhere.2.1.trans hend
  | failDataPatch patch =>
    simp only [DataPatchUpdate.where_, decide_eq_true_eq] at hwhere
    rw [hwhere.2.2]
    exact hwhere.2.1.trans hend
  | completeDataPatchRollback patch =>
    simp only [DataPatchUpdate.where_, decide_eq_true_eq] at hwhere
    rw [hwhere.2.2]
    exact hwhere.2.1.trans hend
  | failDataPatchRollback patch =>
    simp only [DataPatchUpdate.where_, decide_eq_true_eq] at hwhere
    rw [hwhere.2.2]
    exact hwhere.2.1.trans hend
  | retryFailedDataPatchRollback patch seen => cases hend
  | claimDataPatchRollback patch => cases hend

/-- An update that ends no claim takes a row that nobody holds. -/
theorem holder_of_claim (hend : u.endOf = none) (hwhere : u.where_ row = true) : row.holder = none := by
  unfold DataPatchRow.holder
  cases u with
  | retryFailedDataPatchRollback patch seen =>
    simp only [DataPatchUpdate.where_, decide_eq_true_eq] at hwhere
    rw [hwhere.2.1]
  | claimDataPatchRollback patch =>
    simp only [DataPatchUpdate.where_, decide_eq_true_eq] at hwhere
    rw [hwhere.2]
  | _ => cases hend

/-- **A claim is lost only through an end of its own.** -/
theorem holder_lost {reply : statement.Reply} (hexec : table.exec statement reply table') {id : JsString}
    (hholder : table.holder id = some claim) (hlost : table'.holder id ≠ some claim) :
    statement.released reply = some (id, claim) := by
  -- only an update can end a claim: an insert finds no row, and a delete one that nobody holds
  cases statement with
  | ensureDataPatchTable =>
    obtain rfl := hexec
    exact absurd hholder hlost
  | select k =>
    obtain ⟨-, rfl⟩ := hexec
    exact absurd hholder hlost
  | insert patch =>
    obtain rfl := hexec
    rcases table.insert_row patch with hsame | ⟨hrow, -, hother⟩
    · rw [hsame] at hlost
      exact absurd hholder hlost
    · by_cases hid : id = patch.id
      · -- an insert finds no row, so nobody held the patch
        rw [hid, holder, hrow] at hholder
        cases hholder
      · rw [holder_of_row_eq (hother id hid)] at hlost
        exact absurd hholder hlost
  | update u =>
    have htable : table' = (table.update u).2 := congrArg Prod.snd hexec
    have hreply : reply = (table.update u).1 := congrArg Prod.fst hexec
    subst htable
    rcases table.update_row u with hsame | ⟨hone, row, hrow, hwhere, -, hother⟩
    · rw [hsame] at hlost
      exact absurd hholder hlost
    · by_cases hid : id = u.id
      · subst hid
        rw [holder_eq hrow] at hholder
        cases hend : u.endOf with
        | none =>
          rw [holder_of_claim hend hwhere] at hholder
          cases hholder
        | some claim' =>
          rw [holder_of_end hend hwhere] at hholder
          obtain rfl := Option.some.inj hholder
          show u.released reply = _
          rw [hreply, hone, DataPatchUpdate.released, hend]
          rfl
      · rw [holder_of_row_eq (hother id hid)] at hlost
        exact absurd hholder hlost
  | delete patch seen =>
    have htable : table' = (table.delete patch seen).2 := congrArg Prod.snd hexec
    subst htable
    rcases table.delete_row patch seen with hsame | ⟨-, row, hrow, hseen, -, hother⟩
    · rw [hsame] at hlost
      exact absurd hholder hlost
    · by_cases hid : id = patch.id
      · -- a failed row is held by nobody
        subst hid
        simp only [DataPatchRow.isSeenFailure, decide_eq_true_eq] at hseen
        rw [holder_eq hrow, DataPatchRow.holder, hseen.2.1] at hholder
        cases hholder
      · rw [holder_of_row_eq (hother id hid)] at hlost
        exact absurd hholder hlost

/-- A row whose claim was just ended is held by nobody. -/
theorem not_released_of_holder {reply : statement.Reply} (hexec : table.exec statement reply table')
    {id claim' : JsString} (hholder : table'.holder id = some claim') :
    statement.released reply ≠ some (id, claim) := by
  intro hreleased
  cases statement with
  | update u =>
    have htable : table' = (table.update u).2 := congrArg Prod.snd hexec
    have hreply : reply = (table.update u).1 := congrArg Prod.fst hexec
    change u.released reply = _ at hreleased
    rw [hreply] at hreleased
    rcases table.update_row u with hsame | ⟨hone, row, -, -, hrow, -⟩
    · rw [hsame] at hreleased
      cases hreleased
    · rw [hone] at hreleased
      obtain ⟨claim'', hend, hpair⟩ := Option.map_eq_some_iff.mp hreleased
      rw [Prod.mk.injEq] at hpair
      rw [htable, ← hpair.1, holder_eq hrow] at hholder
      cases u with
      | retryFailedDataPatchRollback patch seen => cases hend
      | claimDataPatchRollback patch => cases hend
      | _ => cases hholder
  | _ => cases hreleased

/-- An end that is not the holder's changes nothing. -/
theorem end_of_other {changes : Nat} (hend : u.endOf = some claim) (hexec : table.exec (.update u) changes table')
    (hother : table.holder u.id ≠ some claim) :
    table' = table ∧ changes = 0 := by
  have hpair : (changes, table') = table.update u := hexec
  rcases table.update_row u with hsame | ⟨-, row, hrow, hwhere, -⟩
  · rw [hsame, Prod.mk.injEq] at hpair
    exact ⟨hpair.2, hpair.1⟩
  · rw [holder_eq hrow, holder_of_end hend hwhere] at hother
    exact absurd rfl hother

/-! ### Entries -/

/-- The patch has an entry of the claim. -/
def HasEntry (table : DataPatchTable) (id : JsString) (claim : Option JsString) : Prop :=
  ∃ row, table.row id = some row ∧ row.claim_id = claim

theorem set_claim_id (u : DataPatchUpdate) (row : DataPatchRow) : (u.set row).claim_id = row.claim_id := by
  cases u <;> rfl

/-- An entry comes into the table only through the insert of its claim. -/
theorem entry_inserted {reply : statement.Reply} (hexec : table.exec statement reply table') {id : JsString}
    {claim : Option JsString} (hno : ¬ table.HasEntry id claim) (hentry : table'.HasEntry id claim) :
    ∃ patch, statement = .insert patch ∧ claim = some patch.claimId := by
  obtain ⟨row', hrow', hclaim⟩ := hentry
  have hsame : table'.row id ≠ table.row id := by
    intro h
    exact hno ⟨row', h ▸ hrow', hclaim⟩
  cases statement with
  | ensureDataPatchTable =>
    obtain rfl := hexec
    exact absurd rfl hsame
  | select k =>
    obtain ⟨-, rfl⟩ := hexec
    exact absurd rfl hsame
  | insert patch =>
    obtain rfl := hexec
    refine ⟨patch, rfl, ?_⟩
    rcases table.insert_row patch with h | ⟨-, hinserted, hother⟩
    · rw [h] at hsame
      exact absurd rfl hsame
    · by_cases hid : id = patch.id
      · rw [hid, hinserted, Option.some.injEq] at hrow'
        rw [← hclaim, ← hrow']
        rfl
      · exact absurd (hother id hid) hsame
  | update u =>
    have htable : table' = (table.update u).2 := congrArg Prod.snd hexec
    subst htable
    rcases table.update_row u with h | ⟨-, row, hrow, -, hset, hother⟩
    · rw [h] at hsame
      exact absurd rfl hsame
    · by_cases hid : id = u.id
      · -- an update keeps the claim of the entry
        rw [hid, hset, Option.some.injEq] at hrow'
        rw [← hrow', set_claim_id] at hclaim
        exact absurd ⟨row, hid ▸ hrow, hclaim⟩ hno
      · exact absurd (hother id hid) hsame
  | delete patch seen =>
    have htable : table' = (table.delete patch seen).2 := congrArg Prod.snd hexec
    subst htable
    rcases table.delete_row patch seen with h | ⟨-, row, hrow, -, hnone, hother⟩
    · rw [h] at hsame
      exact absurd rfl hsame
    · by_cases hid : id = patch.id
      · rw [hid, hnone] at hrow'
        cases hrow'
      · exact absurd (hother id hid) hsame

end DataPatchTable

/-! ## Calls -/

/-- A call of the log that may change the table. -/
inductive DataPatchCall
  | claimDataPatch (patch : ClaimDataPatch)
  | completeDataPatch (patch : CompleteDataPatch)
  | failDataPatch (patch : FailDataPatch)
  | retryFailedDataPatch (patch : RetryFailedDataPatch)
  | retryFailedDataPatchRollback (patch : ClaimDataPatch)
  | claimDataPatchRollback (patch : ClaimDataPatch)
  | completeDataPatchRollback (patch : CompleteRollbackDataPatch)
  | failDataPatchRollback (patch : FailDataPatch)

/-- What a call is told. -/
inductive DataPatchReport
  | claim (result : DataPatchClaimResult)
  | rollbackClaim (result : DataPatchRollbackClaimResult)
  | retried (claim : ClaimDataPatch)
  | done

namespace DataPatchCall

/-- The claim id that a call brings along. -/
def claimId? : DataPatchCall → Option JsString
  | claimDataPatch patch => some patch.claimId
  | retryFailedDataPatchRollback patch => some patch.claimId
  | claimDataPatchRollback patch => some patch.claimId
  | _ => none

def program : DataPatchCall → DataPatchProgram DataPatchReport
  | claimDataPatch patch => do return .claim (← D1DataPatchLog.claimDataPatch patch)
  | completeDataPatch patch => do
      D1DataPatchLog.completeDataPatch patch
      return .done
  | failDataPatch patch => do
      D1DataPatchLog.failDataPatch patch
      return .done
  | retryFailedDataPatch patch => do
      D1DataPatchLog.retryFailedDataPatch patch
      return .done
  | retryFailedDataPatchRollback patch => do return .retried (← D1DataPatchLog.retryFailedDataPatchRollback patch)
  | claimDataPatchRollback patch => do return .rollbackClaim (← D1DataPatchLog.claimDataPatchRollback patch)
  | completeDataPatchRollback patch => do
      D1DataPatchLog.completeDataPatchRollback patch
      return .done
  | failDataPatchRollback patch => do
      D1DataPatchLog.failDataPatchRollback patch
      return .done

end DataPatchCall

/-- The claim that a call is told it holds. -/
def DataPatchReport.claimed? : DataPatchReport → Option ClaimDataPatch
  | .claim (.claimed held) => some held
  | .rollbackClaim (.claimed held) => some held
  | .retried held => some held
  | _ => none

/-- Statements on the table, any of them at any time. -/
def dataPatchDiscipline : Discipline DataPatchTable DataPatchStatement DataPatchStatement.Reply Empty where
  exec := DataPatchTable.exec
  le _ _ := True
  le_refl _ := trivial
  le_trans _ _ := trivial
  Inv _ := True
  issued _ _ := False
  fresh _ _ _ := False
  keeps _ _ _ := True
  keeps_refl _ _ := trivial
  keeps_trans _ _ := trivial
  issued_le _ h := h
  fresh_new _ h := absurd h id

/-- A row is inserted for the claim id of the call only. -/
def InsertsOwn (call : DataPatchCall) (statement : DataPatchStatement) : Prop :=
  ∀ patch, statement = .insert patch → call.claimId? = some patch.claimId

abbrev dataPatchWp {α : Type} (call : DataPatchCall) (own : Set Empty) (p : DataPatchProgram α)
    (Q : α → Set Empty → DataPatchTable → Prop) (table : DataPatchTable) : Prop :=
  dataPatchDiscipline.wp (fun _ statement _ _ => InsertsOwn call statement) own p Q table

section Rules

variable {call : DataPatchCall} {own : Set Empty} {table : DataPatchTable}

theorem wp_statement {Q : statement.Reply → Set Empty → DataPatchTable → Prop} (hown : InsertsOwn call statement)
    (h : ∀ own (found : DataPatchTable) reply table', found.exec statement reply table' → Q reply own table') :
    dataPatchWp call own statement.perform Q table := by
  apply wp_perform
  intro table' _ _ reply table'' hexec
  exact ⟨⟨trivial, trivial, hown, fun i => i.elim⟩, h _ _ _ _ hexec⟩

theorem wp_ensureDataPatchTable {Q : Unit → Set Empty → DataPatchTable → Prop} (h : ∀ own table, Q () own table) :
    dataPatchWp call own DataPatchStatement.ensureDataPatchTable.perform Q table := by
  apply wp_statement
  · intro patch hpatch
    cases hpatch
  · intro own table reply table' _
    exact h own table'

theorem wp_row {id : JsString} {Q : Option DataPatchRow → Set Empty → DataPatchTable → Prop}
    (h : ∀ own (found : DataPatchTable), Q (found.row id) own found) : dataPatchWp call own (D1DataPatchLog.row id) Q table := by
  apply wp_statement
  · intro patch hpatch
    cases hpatch
  · intro own table reply table' hexec
    obtain ⟨rfl, rfl⟩ := hexec
    exact h own _

theorem wp_update {Q : Nat → Set Empty → DataPatchTable → Prop}
    (h : ∀ own (found : DataPatchTable), Q (found.update u).1 own (found.update u).2) :
    dataPatchWp call own (DataPatchStatement.update u).perform Q table := by
  apply wp_statement
  · intro patch hpatch
    cases hpatch
  · intro own table reply table' hexec
    have hreply : reply = (table.update u).1 := congrArg Prod.fst hexec
    have htable : table' = (table.update u).2 := congrArg Prod.snd hexec
    rw [hreply, htable]
    exact h own table

/-- What a call that is told of a claim knows: it holds the patch. -/
def Told (claim : ClaimDataPatch) (table : DataPatchTable) : Prop := table.holder claim.id = some claim.claimId

/-- A row that shows a claim as granted is held by it. -/
theorem told_of_claimResult {id : JsString} {claim : ClaimDataPatch} (hrow : table.row id = some row)
    (h : row.claimResult claimId = .ok (.claimed claim)) : Told claim table := by
  have hid := table.keyed hrow
  unfold DataPatchRow.claimResult at h
  cases hstatus : row.status with
  | pending =>
    rw [hstatus] at h
    split_ifs at h with hclaim
    · obtain rfl := DataPatchClaimResult.claimed.inj (Except.ok.inj h)
      show table.holder row.id = some claimId
      rw [hid, DataPatchTable.holder_eq hrow, DataPatchRow.holder, hstatus]
      exact hclaim
    · cases h
  | _ =>
    rw [hstatus] at h
    cases h

theorem wp_claimDataPatch (hcall : call.claimId? = some patch.claimId) :
    dataPatchWp call own (D1DataPatchLog.claimDataPatch patch)
      (fun result _ table => ∀ claim, result = .claimed claim → Told claim table) table := by
  unfold D1DataPatchLog.claimDataPatch
  apply wp_bind
  apply wp_ensureDataPatchTable
  intro own₁ table₁
  apply wp_bind
  apply wp_statement
  · intro patch' hpatch
    cases hpatch
    exact hcall
  · intro own₂ table₂ _ table₂' _
    apply wp_bind
    apply wp_row
    intro own₃ table₃
    cases hrow : table₃.row patch.id with
    | none => exact wp_throw
    | some row =>
      apply wp_checked
      intro _ _
      apply wp_ofExcept
      intro result hresult claim hclaim
      rw [hclaim] at hresult
      exact told_of_claimResult hrow hresult

/-- A rollback claim that has changed the row holds the patch. -/
theorem told_of_update (hid : u.id = patch.id) (hset : ∀ row, (u.set row).holder = some patch.claimId)
    (hchanged : (table.update u).1 ≠ 0) :
    Told patch (table.update u).2 := by
  rcases table.update_row u with hsame | ⟨-, row, -, -, hrow, -⟩
  · rw [hsame] at hchanged
    exact absurd rfl hchanged
  · unfold Told
    rw [← hid, DataPatchTable.holder_eq hrow]
    exact hset row

theorem wp_claimDataPatchRollback :
    dataPatchWp call own (D1DataPatchLog.claimDataPatchRollback patch)
      (fun result _ table => ∀ claim, result = .claimed claim → Told claim table) table := by
  -- what is answered without an update is never a claim
  have hnot : ∀ found claim, D1DataPatchLog.rollbackClaimResultOf patch found ≠ .ok (.claimed claim) := by
    intro found claim
    cases found with
    | none =>
      intro h
      cases h
    | some row =>
      intro h
      change row.rollbackClaimResult = _ at h
      unfold DataPatchRow.rollbackClaimResult at h
      cases hstatus : row.status <;> rw [hstatus] at h <;> cases h
  unfold D1DataPatchLog.claimDataPatchRollback
  apply wp_bind
  apply wp_ensureDataPatchTable
  intro own₁ table₁
  apply wp_bind
  apply wp_row
  intro own₂ table₂
  apply wp_checked
  intro _ _
  split_ifs
  · apply wp_bind
    apply wp_update
    intro own₃ table₃
    split_ifs with hchanges
    · apply wp_bind
      apply wp_row
      intro own₄ table₄
      apply wp_checked
      intro _ _
      apply wp_ofExcept
      intro result hresult claim hclaim
      rw [hclaim] at hresult
      exact absurd hresult (hnot _ _)
    · apply wp_pure
      intro claim hclaim
      obtain rfl := DataPatchRollbackClaimResult.claimed.inj hclaim
      exact told_of_update rfl (fun _ => rfl) hchanges
  · apply wp_ofExcept
    intro result hresult claim hclaim
    rw [hclaim] at hresult
    exact absurd hresult (hnot _ _)

theorem wp_retryFailedDataPatchRollback :
    dataPatchWp call own (D1DataPatchLog.retryFailedDataPatchRollback patch)
      (fun claim _ table => Told claim table) table := by
  unfold D1DataPatchLog.retryFailedDataPatchRollback
  apply wp_bind
  apply wp_ensureDataPatchTable
  intro own₁ table₁
  apply wp_bind
  apply wp_row
  intro own₂ table₂
  apply wp_checked
  intro _ _
  cases table₂.row patch.id with
  | none => exact wp_throw
  | some seen =>
    apply wp_bind
    apply wp_update
    intro own₃ table₃
    apply wp_checked
    intro _ hcheck
    apply wp_pure
    have hchanges := ensure_eq_ok hcheck
    rw [bne_iff_ne] at hchanges
    exact told_of_update rfl (fun _ => rfl) hchanges

theorem wp_change {check : Nat → JsString → Except FrameworkError Unit} :
    dataPatchWp call own (D1DataPatchLog.change u check) (fun _ _ _ => True) table := by
  unfold D1DataPatchLog.change
  apply wp_bind
  apply wp_ensureDataPatchTable
  intro own₁ table₁
  apply wp_bind
  apply wp_update
  intro own₂ table₂
  apply wp_ofExcept
  intros
  trivial

theorem wp_retryFailedDataPatch {patch : RetryFailedDataPatch} :
    dataPatchWp call own (D1DataPatchLog.retryFailedDataPatch patch) (fun _ _ _ => True) table := by
  unfold D1DataPatchLog.retryFailedDataPatch
  apply wp_bind
  apply wp_ensureDataPatchTable
  intro own₁ table₁
  apply wp_bind
  apply wp_row
  intro own₂ table₂
  apply wp_checked
  intro _ _
  cases table₂.row patch.id with
  | none => exact wp_throw
  | some seen =>
    apply wp_bind
    apply wp_statement
    · intro patch' hpatch
      cases hpatch
    · intro own₃ table₃ changes table₃' _
      apply wp_ofExcept
      intros
      trivial

/-- **A call that is told it has claimed a patch holds it.** -/
theorem wp_dataPatchCall (call : DataPatchCall) :
    dataPatchWp call own call.program
      (fun report _ table => ∀ claim, report.claimed? = some claim → Told claim table) table := by
  have hdone : ∀ p : DataPatchProgram Unit, dataPatchWp call own p (fun _ _ _ => True) table →
      dataPatchWp call own (do p; return .done)
        (fun report _ table => ∀ claim, DataPatchReport.claimed? report = some claim → Told claim table) table := by
    intro p hp
    apply wp_bind
    apply wp_mono hp
    intro _ _ _ _
    apply wp_pure
    intro claim hclaim
    cases hclaim
  -- three calls answer with a claim; the others tell nobody of one
  cases call with
  | claimDataPatch patch =>
    apply wp_bind
    apply wp_mono (wp_claimDataPatch rfl)
    intro result own' table' htold
    apply wp_pure
    intro claim hclaim
    cases result with
    | claimed claim' => exact htold claim (by rw [Option.some.inj hclaim])
    | _ => cases hclaim
  | claimDataPatchRollback patch =>
    apply wp_bind
    apply wp_mono wp_claimDataPatchRollback
    intro result own' table' htold
    apply wp_pure
    intro claim hclaim
    cases result with
    | claimed claim' => exact htold claim (by rw [Option.some.inj hclaim])
    | _ => cases hclaim
  | retryFailedDataPatchRollback patch =>
    apply wp_bind
    apply wp_mono wp_retryFailedDataPatchRollback
    intro result own' table' htold
    apply wp_pure
    intro claim hclaim
    rwa [← Option.some.inj hclaim]
  | retryFailedDataPatch patch => exact hdone _ wp_retryFailedDataPatch
  | completeDataPatch patch => exact hdone _ wp_change
  | failDataPatch patch => exact hdone _ wp_change
  | completeDataPatchRollback patch => exact hdone _ wp_change
  | failDataPatchRollback patch => exact hdone _ wp_change

end Rules

/-! ## Runs -/

/-- A statement of a run, with what its call is told if it is the last one. -/
abbrev DataPatchStep := RunStep DataPatchCall DataPatchTable
  (Reporting DataPatchStatement DataPatchStatement.Reply (Except FrameworkError DataPatchReport))
  (fun a => a.action.Reply)

/-- The runs of any number of calls whose statements interleave. -/
abbrev DataPatchRun (init : DataPatchTable)
    (threads : List (DataPatchCall × Program
      (Reporting DataPatchStatement DataPatchStatement.Reply (Except FrameworkError DataPatchReport))
      (fun a => a.action.Reply) FrameworkError DataPatchReport))
    (table : DataPatchTable) (steps : List DataPatchStep) : Prop :=
  Run (fun table a reply table' => table.exec a.action reply table') (fun call : DataPatchCall => call.program.reporting)
    (fun _ => True) init threads table steps

/-- A call is told that it holds a claim. -/
def DataPatchStep.Tells (step : DataPatchStep) (claim : ClaimDataPatch) : Prop :=
  ∃ report, step.report = some (.ok report) ∧ report.claimed? = some claim

/-- A claim of a patch is ended: its complete or fail call takes effect. -/
def DataPatchStep.Ends (step : DataPatchStep) (id claimId : JsString) : Prop :=
  step.action.action.released step.reply = some (id, claimId)

/-- The failed entry of a claim is cleared for a retry. -/
def DataPatchStep.Clears (step : DataPatchStep) (id : JsString) (claimId : Option JsString) : Prop :=
  step.action.action.cleared step.reply = some id ∧ step.before.HasEntry id claimId

section Runs

variable {init table : DataPatchTable} {steps : List DataPatchStep}
variable {threads : List (DataPatchCall × Program
  (Reporting DataPatchStatement DataPatchStatement.Reply (Except FrameworkError DataPatchReport))
  (fun a => a.action.Reply) FrameworkError DataPatchReport)}

theorem DataPatchRun.step_told (hrun : DataPatchRun init threads table steps) {step : DataPatchStep}
    (hstep : step ∈ steps) :
    InsertsOwn step.label step.action.action ∧ ∀ claim, step.Tells claim → Told claim step.after := by
  obtain ⟨pool, -, hsound⟩ := Run.sound
    (D := dataPatchDiscipline.reporting (Except FrameworkError DataPatchReport))
    (G := fun call _ a reply table' => InsertsOwn call a.action ∧
      ∀ report, a.report reply = some (.ok report) → ∀ claim, report.claimed? = some claim → Told claim table')
    (Q := fun _ report _ table => ∀ claim, report.claimed? = some claim → Told claim table)
    hrun trivial (fun call _ _ _ => wp_reporting (wp_dataPatchCall call))
  obtain ⟨-, -, -, hinserts, htold⟩ := hsound.met step hstep
  refine ⟨hinserts, ?_⟩
  intro claim htells
  obtain ⟨report, hreport, hclaim⟩ := htells
  exact htold report hreport claim hclaim

end Runs

/-! ### At most one insert -/

def DataPatchStatement.inserts : DataPatchStatement → Bool
  | .insert _ => true
  | _ => false

/-- The program inserts no row. -/
abbrev InsertsNothing {α : Type} (p : DataPatchProgram α) : Prop := p.Within (fun statement => ¬ statement.inserts = true)

theorem inserts_nothing_row {id : JsString} : InsertsNothing (D1DataPatchLog.row id) :=
  Program.Within.perform Bool.false_ne_true

theorem inserts_nothing_ensure : InsertsNothing DataPatchStatement.ensureDataPatchTable.perform :=
  Program.Within.perform Bool.false_ne_true

theorem inserts_nothing_update : InsertsNothing (DataPatchStatement.update u).perform :=
  Program.Within.perform Bool.false_ne_true

theorem inserts_nothing_delete {patch : RetryFailedDataPatch} {seen : DataPatchRow} :
    InsertsNothing (DataPatchStatement.delete patch seen).perform := Program.Within.perform Bool.false_ne_true

theorem inserts_nothing_change {check : Nat → JsString → Except FrameworkError Unit} :
    InsertsNothing (D1DataPatchLog.change u check) := by
  apply Program.Within.bind inserts_nothing_ensure
  intro _
  apply Program.Within.bind inserts_nothing_update
  intro changes
  exact Program.Within.ofExcept _

theorem inserts_nothing_retryFailedDataPatch {patch : RetryFailedDataPatch} :
    InsertsNothing (D1DataPatchLog.retryFailedDataPatch patch) := by
  apply Program.Within.bind inserts_nothing_ensure
  intro _
  apply Program.Within.bind inserts_nothing_row
  intro found
  apply Program.Within.bind (Program.Within.ofExcept _)
  intro _
  cases found with
  | none => trivial
  | some seen =>
    apply Program.Within.bind inserts_nothing_delete
    intro changes
    exact Program.Within.ofExcept _

theorem inserts_nothing_retryFailedDataPatchRollback :
    InsertsNothing (D1DataPatchLog.retryFailedDataPatchRollback patch) := by
  apply Program.Within.bind inserts_nothing_ensure
  intro _
  apply Program.Within.bind inserts_nothing_row
  intro found
  apply Program.Within.bind (Program.Within.ofExcept _)
  intro _
  cases found with
  | none => trivial
  | some seen =>
    apply Program.Within.bind inserts_nothing_update
    intro changes
    apply Program.Within.bind (Program.Within.ofExcept _)
    intro _
    trivial

theorem inserts_nothing_claimDataPatchRollback : InsertsNothing (D1DataPatchLog.claimDataPatchRollback patch) := by
  apply Program.Within.bind inserts_nothing_ensure
  intro _
  apply Program.Within.bind inserts_nothing_row
  intro found
  apply Program.Within.bind (Program.Within.ofExcept _)
  intro _
  split_ifs
  · apply Program.Within.bind inserts_nothing_update
    intro changes
    split_ifs
    · apply Program.Within.bind inserts_nothing_row
      intro changed
      apply Program.Within.bind (Program.Within.ofExcept _)
      intro _
      exact Program.Within.ofExcept _
    · trivial
  · exact Program.Within.ofExcept _

theorem inserts_once_claimDataPatch :
    (D1DataPatchLog.claimDataPatch patch).AtMostOnce (fun statement => statement.inserts = true) := by
  apply Program.AtMostOnce.within_bind inserts_nothing_ensure
  intro _
  apply Program.AtMostOnce.perform_bind
  intro _
  -- after the insert the claim only reads
  apply Program.Within.bind inserts_nothing_row
  intro found
  cases found with
  | none => trivial
  | some row =>
    apply Program.Within.bind (Program.Within.ofExcept _)
    intro _
    exact Program.Within.ofExcept _

theorem program_inserts_once (call : DataPatchCall) :
    call.program.AtMostOnce (fun statement => statement.inserts = true) := by
  cases call with
  | claimDataPatch patch => exact inserts_once_claimDataPatch.bind_pure _
  | completeDataPatch patch => exact .of_within (.bind inserts_nothing_change (fun _ => trivial))
  | failDataPatch patch => exact .of_within (.bind inserts_nothing_change (fun _ => trivial))
  | completeDataPatchRollback patch => exact .of_within (.bind inserts_nothing_change (fun _ => trivial))
  | failDataPatchRollback patch => exact .of_within (.bind inserts_nothing_change (fun _ => trivial))
  | retryFailedDataPatch patch => exact .of_within (.bind inserts_nothing_retryFailedDataPatch (fun _ => trivial))
  | retryFailedDataPatchRollback patch =>
    exact .of_within (.bind inserts_nothing_retryFailedDataPatchRollback (fun _ => trivial))
  | claimDataPatchRollback patch => exact .of_within (.bind inserts_nothing_claimDataPatchRollback (fun _ => trivial))

/-! ### What holds in every run -/

section Runs

variable {init table : DataPatchTable} {steps : List DataPatchStep}
variable {threads : List (DataPatchCall × Program
  (Reporting DataPatchStatement DataPatchStatement.Reply (Except FrameworkError DataPatchReport))
  (fun a => a.action.Reply) FrameworkError DataPatchReport)}

/-- Between two tellings of one patch to different claims the first claim ends. -/
theorem DataPatchRun.exists_end (hrun : DataPatchRun init threads table steps)
    {before middle rest : List DataPatchStep} {first last : DataPatchStep} {claim claim' : ClaimDataPatch}
    (hsteps : steps = before ++ first :: middle ++ last :: rest) (hfirst : first.Tells claim)
    (hlast : last.Tells claim') (hid : claim'.id = claim.id) (hother : claim'.claimId ≠ claim.claimId) :
    ∃ step ∈ middle, step.Ends claim.id claim.claimId := by
  have hmem : first ∈ steps ∧ last ∈ steps := by
    rw [hsteps]
    simp
  have hheld : first.after.holder claim.id = some claim.claimId := (hrun.step_told hmem.1).2 claim hfirst
  have hheld' : last.after.holder claim.id = some claim'.claimId := by
    rw [← hid]
    exact (hrun.step_told hmem.2).2 claim' hlast
  have hleads := Run.leads hrun
  rw [hsteps] at hleads
  obtain ⟨t, hfront, hback⟩ := hleads.split
  obtain ⟨t', -, hfirst', -, hmiddle⟩ := hfront.split
  obtain ⟨rfl, hexec, -⟩ := hback
  by_cases hkept : last.before.holder claim.id = some claim.claimId
  · -- the last step cannot both end the first claim and grant another one
    have hlost : last.after.holder claim.id ≠ some claim.claimId := by
      rw [hheld']
      intro h
      exact hother (Option.some.inj h)
    have hreleased := DataPatchTable.holder_lost hexec hkept hlost
    exact absurd hreleased (DataPatchTable.not_released_of_holder hexec hheld')
  · obtain ⟨step, hstep, hbefore, hafter⟩ := hmiddle.exists_lost
      (P := fun table => table.holder claim.id = some claim.claimId) hheld hkept
    refine ⟨step, hstep, ?_⟩
    exact DataPatchTable.holder_lost (hmiddle.exec_of_mem hstep) hbefore hafter

/-- An end that takes effect is the holder's. -/
theorem DataPatchRun.end_of_holder (hrun : DataPatchRun init threads table steps) {step : DataPatchStep}
    (hstep : step ∈ steps) (hupdate : step.action.action = .update u) (hend : u.endOf = some claimId)
    (hother : step.before.holder u.id ≠ some claimId) : step.after = step.before := by
  have hexec := (Run.leads hrun).exec_of_mem hstep
  obtain ⟨label, before, ⟨statement, report⟩, reply, after⟩ := step
  obtain rfl : statement = .update u := hupdate
  exact (DataPatchTable.end_of_other hend hexec hother).1

theorem cleared_row {table table' : DataPatchTable} {reply : statement.Reply}
    (hexec : table.exec statement reply table') {id : JsString} (hcleared : statement.cleared reply = some id) :
    table'.row id = none := by
  cases statement with
  | delete patch seen =>
    have htable : table' = (table.delete patch seen).2 := congrArg Prod.snd hexec
    have hreply : reply = (table.delete patch seen).1 := congrArg Prod.fst hexec
    change patch.cleared reply = _ at hcleared
    rw [hreply] at hcleared
    rcases table.delete_row patch seen with hsame | ⟨hone, row, -, -, hnone, -⟩
    · rw [hsame] at hcleared
      cases hcleared
    · rw [hone] at hcleared
      obtain rfl := Option.some.inj hcleared
      rw [htable]
      exact hnone
  | _ => cases hcleared

/-- An entry that comes into the table on the way was inserted by a call that brought its claim id. -/
theorem DataPatchRun.exists_insert (hrun : DataPatchRun init threads table steps) {part : List DataPatchStep}
    (hpart : ∀ step ∈ part, step ∈ steps) {t t' : DataPatchTable}
    (hleads : Leads (fun table (a : Reporting DataPatchStatement DataPatchStatement.Reply _) reply table' =>
      table.exec a.action reply table') t part t')
    {id : JsString} {claim : Option JsString} (hno : ¬ t.HasEntry id claim) (hentry : t'.HasEntry id claim) :
    ∃ step ∈ part, step.action.action.inserts = true ∧ step.label.claimId? = claim ∧ claim.isSome = true := by
  obtain ⟨step, hstep, hbefore, hafter⟩ := hleads.exists_lost
    (P := fun table => ¬ table.HasEntry id claim) hno (fun h => h hentry)
  obtain ⟨patch, hinsert, hclaim⟩ := DataPatchTable.entry_inserted (hleads.exec_of_mem hstep) hbefore
    (not_not.mp hafter)
  have hown := (hrun.step_told (hpart step hstep)).1 patch hinsert
  refine ⟨step, hstep, ?_, hown.trans hclaim.symm, ?_⟩
  · rw [hinsert]
    rfl
  · rw [hclaim]
    rfl

/-- At most one call brings a claim id along. -/
theorem started_le_one (hdistinct : (threads.filterMap (fun thread => thread.1.claimId?)).Nodup) :
    Run.started (fun call : DataPatchCall => decide (call.claimId? = some claimId)) threads ≤ 1 := by
  have hcount := List.nodup_iff_count_le_one.mp hdistinct claimId
  rw [List.count_filterMap, List.countP_eq_length_filter] at hcount
  unfold Run.started
  have hsame : (fun thread : DataPatchCall × Program
      (Reporting DataPatchStatement DataPatchStatement.Reply (Except FrameworkError DataPatchReport))
      (fun a => a.action.Reply) FrameworkError DataPatchReport => decide (thread.1.claimId? = some claimId)) =
      (fun thread => thread.1.claimId? == some claimId) := by
    funext thread
    rw [beq_eq_decide]
  rw [hsame]
  exact hcount

/-- The failed entry of a claim is cleared once. -/
theorem DataPatchRun.clear_once (hrun : DataPatchRun init threads table steps)
    (hdistinct : (threads.filterMap (fun thread => thread.1.claimId?)).Nodup)
    (hfresh : ∀ thread ∈ threads, ∀ claimId, thread.1.claimId? = some claimId → ∀ id, ¬ init.HasEntry id (some claimId))
    {before middle rest : List DataPatchStep} {first last : DataPatchStep}
    (hsteps : steps = before ++ first :: middle ++ last :: rest) {id : JsString} {claim : Option JsString}
    (hfirst : first.Clears id claim) (hlast : last.Clears id claim) : False := by
  have hleads := Run.leads hrun
  rw [hsteps] at hleads
  obtain ⟨t, hfront, hback⟩ := hleads.split
  obtain ⟨t', hbefore, hfirst', hexec, hmiddle⟩ := hfront.split
  obtain ⟨rfl, -, -⟩ := hback
  subst hfirst'
  -- after the first clear the entry is gone, before the last one it is there
  have hgone : ¬ first.after.HasEntry id claim := by
    rintro ⟨row, hrow, -⟩
    rw [cleared_row hexec hfirst.1] at hrow
    cases hrow
  have hin_middle : ∀ step ∈ middle, step ∈ steps := by
    intro step hstep
    rw [hsteps]
    simp [hstep]
  have hin_before : ∀ step ∈ before, step ∈ steps := by
    intro step hstep
    rw [hsteps]
    simp [hstep]
  obtain ⟨again, hagain, hinserts, hlabel, hsome⟩ := hrun.exists_insert hin_middle hmiddle hgone hlast.2
  obtain ⟨claimId, rfl⟩ := Option.isSome_iff_exists.mp hsome
  have hinit : ¬ init.HasEntry id (some claimId) := by
    obtain ⟨thread, hthread, hthread'⟩ := List.mem_map.mp (Run.label_mem hrun again (hin_middle again hagain))
    exact hfresh thread hthread claimId (by rw [hthread', hlabel]) id
  obtain ⟨once, honce, hinserts', hlabel', -⟩ := hrun.exists_insert hin_before hbefore hinit hfirst.2
  obtain ⟨b₁, b₂, rfl⟩ := List.append_of_mem honce
  obtain ⟨m₁, m₂, rfl⟩ := List.append_of_mem hagain
  have hsplit : steps = b₁ ++ once :: (b₂ ++ first :: m₁) ++ again :: (m₂ ++ last :: rest) := by
    rw [hsteps]
    simp
  exact Run.not_twice (T := fun call : DataPatchCall => decide (call.claimId? = some claimId)) hrun
    (fun call _ => (program_inserts_once call).reporting) (started_le_one hdistinct) hsplit
    ⟨hinserts', decide_eq_true hlabel'⟩ ⟨hinserts, decide_eq_true hlabel⟩

/-- **Concurrent runners of data patches exclude each other**, over any interleaving of their statements
on any table. From the moment a call is told that it holds a patch no other claim of it is told so
before the first one ends; an end changes the table for the holder only; and with distinct claim ids
the failed entry of a claim is cleared at most once. -/
theorem data_patch_runners_exclude (hrun : DataPatchRun init threads table steps)
    (hdistinct : (threads.filterMap (fun thread => thread.1.claimId?)).Nodup)
    (hfresh : ∀ thread ∈ threads, ∀ claimId, thread.1.claimId? = some claimId →
      ∀ id, ¬ init.HasEntry id (some claimId)) :
    (∀ before middle rest first last claim claim', steps = before ++ first :: middle ++ last :: rest →
      DataPatchStep.Tells first claim → DataPatchStep.Tells last claim' → claim'.id = claim.id →
      claim'.claimId ≠ claim.claimId → ∃ step ∈ middle, step.Ends claim.id claim.claimId) ∧
    (∀ step ∈ steps, ∀ u claimId, step.action.action = .update u → u.endOf = some claimId →
      step.before.holder u.id ≠ some claimId → step.after = step.before) ∧
    (∀ before middle rest first last id claim, steps = before ++ first :: middle ++ last :: rest →
      DataPatchStep.Clears first id claim → ¬ DataPatchStep.Clears last id claim) := by
  refine ⟨?_, ?_, ?_⟩
  · intro before middle rest first last claim claim' hsteps hfirst hlast hid hother
    exact hrun.exists_end hsteps hfirst hlast hid hother
  · intro step hstep u claimId hupdate hend hother
    exact hrun.end_of_holder hstep hupdate hend hother
  · intro before middle rest first last id claim hsteps hfirst hlast
    exact hrun.clear_once hdistinct hfresh hsteps hfirst hlast

end Runs

/-! ### Two runners and a retry -/

/-- The reply to a statement and the table after it. -/
def DataPatchTable.reply (table : DataPatchTable) :
    (statement : DataPatchStatement) → statement.Reply × DataPatchTable
  | .ensureDataPatchTable => ((), table)
  | .select id => (table.row id, table)
  | .insert patch => ((), table.insert patch)
  | .update u => table.update u
  | .delete patch seen => table.delete patch seen

theorem DataPatchTable.exec_reply (table : DataPatchTable) (statement : DataPatchStatement) :
    table.exec statement (table.reply statement).1 (table.reply statement).2 := by
  cases statement with
  | ensureDataPatchTable => exact rfl
  | select id => exact ⟨rfl, rfl⟩
  | insert patch => exact rfl
  | update u => exact rfl
  | delete patch seen => exact rfl

/-- Two runners claim a patch, the one that is told so fails, and after a retry a third one claims it. -/
def twoRunners : List DataPatchCall :=
  [.claimDataPatch ⟨[1], [2], [3], []⟩, .claimDataPatch ⟨[1], [2], [4], []⟩, .failDataPatch ⟨[1], [2], [3], [], []⟩,
    .retryFailedDataPatch ⟨[1], [2]⟩, .claimDataPatch ⟨[1], [2], [5], []⟩]

/-- The first two calls take turns, the others follow one after the other. -/
def twoRunnersSchedule :=
  Program.schedule (fun table (a : Reporting DataPatchStatement DataPatchStatement.Reply _) => table.reply a.action)
    (twoRunners.map (fun call => (call, call.program.reporting))) DataPatchTable.empty
    [0, 1, 0, 1, 1, 0, 2, 2, 3, 3, 3, 4, 4, 4]

/-- The claims that the calls are told they hold, in order. -/
def twoRunnersTold : List ClaimDataPatch :=
  twoRunnersSchedule.2.2.filterMap (fun step =>
    match step.report with
    | some (.ok report) => report.claimed?
    | _ => none)

theorem data_patch_runners_exclude_retried :
    twoRunnersTold = [⟨[1], [2], [3], []⟩, ⟨[1], [2], [5], []⟩] ∧
    ∀ step ∈ twoRunnersSchedule.2.2, ∀ u claimId, step.action.action = .update u → u.endOf = some claimId →
      step.before.holder u.id ≠ some claimId → step.after = step.before := by
  have hrun : DataPatchRun DataPatchTable.empty twoRunnersSchedule.1 twoRunnersSchedule.2.1 twoRunnersSchedule.2.2 :=
    Program.run_schedule (fun table a => table.exec_reply a.action) _
      (Program.run_spawnAll twoRunners (fun _ _ => trivial) Run.nil)
  refine ⟨by decide, (data_patch_runners_exclude hrun (by decide) ?_).2.1⟩
  rintro thread - claimId - id ⟨row, hrow, -⟩
  cases hrow
