import CfFrappe.Application.DataPatchSteps

set_option autoImplicit false

/-! # Data patches run in the declared order, and once

The operations of `DataPatchService`, one after the other. A patch may end its run in any way, and an operation may
stop at any of its actions, as when the process crashes. What the service passes to the runner is `Ready` in the
declared order, and the runner keeps it so from one patch to the next.
-/

open Utf
open SequentialState (sound_action sound_ofExcept sound_pure sound_then sound_throw)

namespace DataPatchRuns

open InOrder DataPatchOrder DataPatchRunner

variable {Q : Unit → List PatchStep → InMemoryDataPatchLog → Prop} {todo : List DataPatchDefinition}
variable {log' : InMemoryDataPatchLog} {claim : ClaimDataPatch}

section Sound

variable {patches : List DataPatchDefinition}
  {operation : DataPatchOperation} {steps : List PatchStep} {log : InMemoryDataPatchLog} {patch : DataPatchDefinition}
  {α : Type}

/-! ## Actions -/

/-- The precondition of a part of an operation. -/
abbrev PatchSound (patches : List DataPatchDefinition)
    (operation : DataPatchOperation) (p : PatchProgram α) (Q : α → List PatchStep → InMemoryDataPatchLog → Prop)
    (steps : List PatchStep) (log : InMemoryDataPatchLog) : Prop :=
  (patchRuns patches).Sound operation p Q steps log

/-- An action that runs nothing is as it should be. -/
theorem inDeclaredOrder_call {action : PatchAction} {reply : action.Reply} (hrun : ∀ id, action ≠ .run id)
    (hrollback : ∀ id, action ≠ .rollback id) (hstatuses : ∀ id, StatusChange (statusOf log id) (statusOf log' id)) :
    InDeclaredOrder patches steps ⟨operation, log, action, reply, log'⟩ where
  earlier id h := absurd h (hrun id)
  claimed id h := absurd h (hrun id)
  once id h := absurd h (hrun id)
  later id h := absurd h (hrollback id)
  statuses := hstatuses

theorem sound_call {action : PatchAction} {Q : action.Reply → List PatchStep → InMemoryDataPatchLog → Prop}
    (hinv : OnceOK steps log) (hrun : ∀ id, action ≠ .run id) (hrollback : ∀ id, action ≠ .rollback id)
    (hfail : ∀ patch, action = .failDataPatch patch → patch.id ∉ succeeded steps)
    (hQ : ∀ reply log', exec log action reply log' →
      OnceOK (steps ++ [⟨operation, log, action, reply, log'⟩]) log' →
      Q reply (steps ++ [⟨operation, log, action, reply, log'⟩]) log') :
    PatchSound patches operation (.perform action) Q steps log := by
  apply sound_action
  intro reply log' hexec
  have hinv' : OnceOK (steps ++ [⟨operation, log, action, reply, log'⟩]) log' := hinv.call hrun hfail hexec
  have hchange := logChange_of_exec hinv.journal hexec
  exact ⟨inDeclaredOrder_call hrun hrollback hchange.status, hinv', hQ reply log' hexec hinv'⟩

theorem sound_checked {x : Except FrameworkError α} {Q : α → List PatchStep → InMemoryDataPatchLog → Prop}
    (h : ∀ a, x = .ok a → Q a steps log) : PatchSound patches operation (checked x) Q steps log := by
  apply sound_ofExcept
  intro a ha
  cases x with
  | ok a' => exact h a (Except.ok.inj ha ▸ rfl)
  | error error => cases ha

/-! ## The ports -/

theorem sound_clockNow {Q : Timestamp → List PatchStep → InMemoryDataPatchLog → Prop} (hinv : OnceOK steps log)
    (hQ : ∀ now steps', OnceOK steps' log → succeeded steps' = succeeded steps → Q now steps' log) :
    PatchSound patches operation clockNow Q steps log := by
  refine sound_call hinv nofun nofun nofun ?_
  rintro reply log' rfl hinv'
  exact hQ reply _ hinv' (succeeded_call nofun)

theorem sound_newClaim {Q : ClaimDataPatch → List PatchStep → InMemoryDataPatchLog → Prop} (hinv : OnceOK steps log)
    (hQ : ∀ claim steps', claim.id = patch.id → OnceOK steps' log → Q claim steps' log) :
    PatchSound patches operation (newClaim patch) Q steps log := by
  apply sound_then
  refine sound_call hinv nofun nofun nofun ?_
  rintro claimId log' rfl hinv'
  apply sound_then
  apply sound_clockNow hinv'
  intro claimedAt steps' hinv'' _
  exact hQ _ steps' rfl hinv''

theorem sound_recordedById {Q : Record JsString RecordedDataPatch → List PatchStep → InMemoryDataPatchLog → Prop}
    (hinv : OnceOK steps log) (hQ : ∀ byId steps', Listed byId log → OnceOK steps' log → Q byId steps' log) :
    PatchSound patches operation recordedById Q steps log := by
  apply sound_then
  refine sound_call hinv nofun nofun nofun ?_
  rintro recorded log' ⟨hperm, rfl⟩ hinv'
  exact hQ _ _ (listed_recorded hinv.journal hperm) hinv'

/-- The claim of a patch that has no entry. -/
theorem sound_claimDataPatch {Q : DataPatchClaimResult → List PatchStep → InMemoryDataPatchLog → Prop}
    (hinv : OnceOK steps log) (hnone : Record.get log claim.id = none)
    (hQ : ∀ steps' log', OnceOK steps' log' → NewlyClaimed steps' claim.id log' → claim.id ∉ succeeded steps' →
      (∀ other, other ≠ claim.id → Record.get log' other = Record.get log other) →
      Q (.claimed claim) steps' log') :
    PatchSound patches operation (claimDataPatch claim) Q steps log := by
  apply sound_then
  refine sound_call hinv nofun nofun nofun ?_
  intro reply log' hexec hinv'
  have hclaimed : InMemoryDataPatchLog.claimDataPatch log claim = .ok (.claimed claim, Record.set log claim.id
      (.pending { id := claim.id, checksum := claim.checksum, claimedAt := claim.claimedAt } claim.claimId)) := by
    unfold InMemoryDataPatchLog.claimDataPatch
    rw [hnone]
  have honce : claim.id ∉ succeeded (steps ++ [⟨operation, log, .claimDataPatch claim, reply, log'⟩]) := by
    rw [succeeded_call (by nofun)]
    exact hinv.not_succeeded hnone
  have hreply : (reply, log') = answered log (InMemoryDataPatchLog.claimDataPatch log claim) := hexec
  rw [hclaimed] at hreply
  obtain ⟨rfl, rfl⟩ := Prod.mk.inj hreply
  apply sound_checked
  intro result hresult
  obtain rfl := Except.ok.inj hresult
  apply hQ _ _ hinv'
  · refine ⟨_, claim, List.getLast?_concat, rfl, rfl, rfl, ?_, statusOf_set _ _ _⟩
    show statusOf log claim.id = none
    rw [statusOf, hnone, Option.map_none]
  · exact honce
  · intro other hother
    exact others_of_exec hinv.journal hexec rfl hother

/-- The end of a run that went well. -/
theorem sound_completeDataPatch {command : CompleteDataPatch} (hinv : OnceOK steps log)
    (hQ : ∀ steps' log', OnceOK steps' log' →
      Record.get log' command.id = some (.applied
        { id := command.id, checksum := command.checksum, appliedAt := command.appliedAt, result := command.result }) →
      (∀ other, other ≠ command.id → Record.get log' other = Record.get log other) → Q () steps' log') :
    PatchSound patches operation (completeDataPatch command) Q steps log := by
  apply sound_then
  refine sound_call hinv nofun nofun nofun ?_
  intro reply log' hexec hinv'
  apply sound_checked
  intro _ hreply
  obtain ⟨_, _, _, hlog⟩ := InMemoryDataPatchLog.completeDataPatch_ok (changed_ok hexec hreply)
  apply hQ _ _ hinv'
  · rw [hlog, Record.get_set, if_pos rfl]
  · intro other hother
    exact others_of_exec hinv.journal hexec rfl hother

/-- A failed patch is unrecorded again. -/
theorem sound_retryFailedDataPatch {command : RetryFailedDataPatch} (hinv : OnceOK steps log)
    (hQ : ∀ steps' log', OnceOK steps' log' →
      (∀ other, other ≠ command.id → Record.get log' other = Record.get log other) → Q () steps' log') :
    PatchSound patches operation (retryFailedDataPatch command) Q steps log := by
  apply sound_then
  refine sound_call hinv nofun nofun nofun ?_
  intro reply log' hexec hinv'
  apply sound_checked
  intro _ _
  exact hQ _ _ hinv' (fun other hother => others_of_exec hinv.journal hexec rfl hother)

/-- The rollback is claimed, or the patch is rolled back already. -/
theorem sound_claimDataPatchRollback {command : ClaimDataPatch}
    {Q : DataPatchRollbackClaimResult → List PatchStep → InMemoryDataPatchLog → Prop} (hinv : OnceOK steps log)
    (hQ : ∀ result steps' log', OnceOK steps' log' →
      (∀ rolledBack, result = .rolledBack rolledBack → statusOf log' command.id = some .rolledBack) →
      (∀ other, other ≠ command.id → Record.get log' other = Record.get log other) → Q result steps' log') :
    PatchSound patches operation (claimDataPatchRollback command) Q steps log := by
  apply sound_then
  refine sound_call hinv nofun nofun nofun ?_
  intro reply log' hexec hinv'
  apply sound_checked
  intro result hreply
  apply hQ _ _ _ hinv'
  · rintro rolledBack rfl
    rcases InMemoryDataPatchLog.claimDataPatchRollback_ok (answered_ok hexec hreply) with
      ⟨rfl, existing, hget, hresult⟩ | ⟨_, _, hclaimed, _⟩
    · rw [statusOf, hget, Option.map_some]
      cases existing with
      | rolledBack _ => rfl
      | _ => cases hresult
    · cases hclaimed
  · intro other hother
    exact others_of_exec hinv.journal hexec rfl hother

theorem sound_retryFailedDataPatchRollback {command : ClaimDataPatch}
    {Q : ClaimDataPatch → List PatchStep → InMemoryDataPatchLog → Prop} (hinv : OnceOK steps log)
    (hQ : ∀ claim steps' log', OnceOK steps' log' →
      (∀ other, other ≠ command.id → Record.get log' other = Record.get log other) → Q claim steps' log') :
    PatchSound patches operation (retryFailedDataPatchRollback command) Q steps log := by
  apply sound_then
  refine sound_call hinv nofun nofun nofun ?_
  intro reply log' hexec hinv'
  apply sound_checked
  intro claim _
  exact hQ claim _ _ hinv' (fun other hother => others_of_exec hinv.journal hexec rfl hother)

/-- The end of a rollback that went well. -/
theorem sound_completeDataPatchRollback {command : CompleteRollbackDataPatch} (hinv : OnceOK steps log)
    (hQ : ∀ steps' log', OnceOK steps' log' → statusOf log' command.id = some .rolledBack →
      (∀ other, other ≠ command.id → Record.get log' other = Record.get log other) → Q () steps' log') :
    PatchSound patches operation (completeDataPatchRollback command) Q steps log := by
  apply sound_then
  refine sound_call hinv nofun nofun nofun ?_
  intro reply log' hexec hinv'
  apply sound_checked
  intro _ hreply
  obtain ⟨_, _, _, hlog⟩ := InMemoryDataPatchLog.completeDataPatchRollback_ok (changed_ok hexec hreply)
  apply hQ _ _ hinv'
  · rw [hlog, statusOf_set]
    rfl
  · intro other hother
    exact others_of_exec hinv.journal hexec rfl hother

/-! ## The runner -/

/-- **The run of a claimed patch.** -/
theorem sound_runClaimedPatch {Q : DataPatchRunRecord → List PatchStep → InMemoryDataPatchLog → Prop}
    (hinv : OnceOK steps log) (hready : ∀ other, Before (order patches) other patch.id → AppliedIn log other)
    (hclaimed : NewlyClaimed steps patch.id log) (honce : patch.id ∉ succeeded steps)
    (hQ : ∀ record steps' log', OnceOK steps' log' → record.id = patch.id →
      Record.get log' patch.id = some (.applied record) →
      (∀ other, other ≠ patch.id → Record.get log' other = Record.get log other) → Q record steps' log') :
    PatchSound patches operation (runClaimedPatch patch claim) Q steps log := by
  apply sound_then
  apply sound_action
  rintro outcome log' rfl
  have hgood : InDeclaredOrder patches steps ⟨operation, log', .run patch.id, outcome, log'⟩ := by
    constructor
    · rintro id ⟨⟩ other hbefore
      exact hready other hbefore
    · rintro id ⟨⟩
      exact hclaimed
    · rintro id ⟨⟩
      exact honce
    · nofun
    · exact fun id => .same _
  have hpending : statusOf log' patch.id = some .pending := by
    obtain ⟨_, _, _, _, _, _, _, hpending⟩ := hclaimed
    exact hpending
  have hinv' : OnceOK (steps ++ [⟨operation, log', .run patch.id, outcome, log'⟩]) log' := hinv.run hpending outcome
  refine ⟨hgood, hinv', ?_⟩
  cases hresult : normalizeDataPatchRunResult (js "Data patch result") outcome with
  | error error =>
    -- the patch has not run well, so it may be recorded as failed
    have honce' : patch.id ∉ succeeded (steps ++ [⟨operation, log', .run patch.id, outcome, log'⟩]) := by
      rw [succeeded_append, succeededIn_run_error hresult, Option.toList_none, List.append_nil]
      exact honce
    apply sound_then
    apply sound_clockNow hinv'
    intro failedAt steps₁ hinv₁ hsucceeded
    apply sound_then
    apply sound_then
    refine sound_call hinv₁ nofun nofun ?_ ?_
    · rintro _ ⟨⟩
      rw [hsucceeded]
      exact honce'
    · intro reply log'' _ _
      apply sound_checked
      intro _ _
      exact sound_throw
  | ok result =>
    apply sound_then
    apply sound_clockNow hinv'
    intro appliedAt steps₁ hinv₁ _
    apply sound_then
    apply sound_completeDataPatch hinv₁
    intro steps₂ log₂ hinv₂ hget hothers
    exact hQ _ steps₂ log₂ hinv₂ rfl hget hothers

theorem AppliedIn.of_get {id : JsString} (h : AppliedIn log id) (hget : Record.get log' id = Record.get log id) :
    AppliedIn log' id := by
  unfold AppliedIn statusOf
  rw [hget]
  exact h

/-- **The patches are applied in their order.** -/
theorem sound_applyFrom {byId : Record JsString RecordedDataPatch} {result : DataPatchRunResult}
    (hnodup : (order patches).Nodup) (hinv : OnceOK steps log) (hlisted : Listed byId log)
    (hready : Ready (order patches) (AppliedIn log) (order todo)) :
    PatchSound patches operation (applyFrom byId result todo) (fun _ _ _ => True) steps log := by
  induction todo generalizing byId result steps log with
  | nil => exact sound_pure trivial
  | cons patch todo ih =>
    -- what comes before the patch has been applied
    have hfirst : ∀ other, Before (order patches) other patch.id → AppliedIn log other :=
      fun other hbefore => hready.head hnodup hbefore
    unfold applyFrom
    cases hexisting : Record.get byId patch.id with
    | some existing =>
      apply sound_then
      apply sound_checked
      intro applied hallowed
      obtain rfl := allowsApplySkip_ok hallowed
      apply ih hinv hlisted
      exact hready.tail (fun _ _ happlied => happlied) (hlisted.applied ⟨_, hexisting, rfl⟩)
    | none =>
      have hnone : Record.get log patch.id = none := hlisted.unrecorded hexisting
      apply sound_then
      apply sound_newClaim hinv
      intro claim steps₁ hid hinv₁
      apply sound_then
      apply sound_claimDataPatch hinv₁ (by rw [hid]; exact hnone)
      rw [hid]
      intro steps₂ log₂ hinv₂ hclaimed honce hothers
      apply sound_then
      apply sound_checked
      intro decision hdecision
      obtain rfl := Except.ok.inj hdecision
      apply sound_then
      have hfirst₂ : ∀ other, Before (order patches) other patch.id → AppliedIn log₂ other :=
        fun other hbefore => (hfirst other hbefore).of_get (hothers other (hbefore.ne hnodup))
      apply sound_runClaimedPatch hinv₂ hfirst₂ hclaimed honce
      intro record steps₃ log₃ hinv₃ hrecord hget hothers₃
      have hkept : ∀ other, other ≠ patch.id → Record.get log₃ other = Record.get log other :=
        fun other hother => (hothers₃ other hother).trans (hothers other hother)
      apply ih hinv₃ (hlisted.set_applied hrecord hget hkept)
      apply hready.tail
      · exact fun other hother happlied => happlied.of_get (hkept other hother)
      · rw [AppliedIn, statusOf, hget]
        rfl

theorem sound_apply (hnodup : (order patches).Nodup) (hinv : OnceOK steps log)
    (hready : Ready (order patches) (AppliedIn log) (order todo)) :
    PatchSound patches operation (DataPatchRunner.apply todo) (fun _ _ _ => True) steps log := by
  apply sound_then
  apply sound_checked
  intro planned hplanned
  obtain ⟨rfl, _⟩ := normalizeDataPatchDefinitions_ok hplanned
  apply sound_then
  apply sound_recordedById hinv
  intro byId steps' hlisted hinv'
  exact sound_applyFrom hnodup hinv' hlisted hready

/-- **The rollback of a claimed patch.** -/
theorem sound_rollbackClaimedPatch {Q : DataPatchRollbackRecord → List PatchStep → InMemoryDataPatchLog → Prop}
    (hinv : OnceOK steps log) (hready : ∀ other, Before (order patches) patch.id other → AwayIn log other)
    (hQ : ∀ record steps' log', OnceOK steps' log' → statusOf log' patch.id = some .rolledBack →
      (∀ other, other ≠ patch.id → Record.get log' other = Record.get log other) → Q record steps' log') :
    PatchSound patches operation (rollbackClaimedPatch patch claim) Q steps log := by
  apply sound_then
  apply sound_checked
  intro _ _
  apply sound_then
  apply sound_action
  rintro outcome log' rfl
  -- a rollback starts when all later patches are away
  have hgood : InDeclaredOrder patches steps ⟨operation, log', .rollback patch.id, outcome, log'⟩ := by
    constructor
    · nofun
    · nofun
    · nofun
    · rintro id ⟨⟩ other hbefore
      exact hready other hbefore
    · exact fun id => .same _
  have hexec : exec log' (.rollback patch.id) outcome log' := rfl
  have hinv' : OnceOK (steps ++ [⟨operation, log', .rollback patch.id, outcome, log'⟩]) log' :=
    hinv.call (by nofun) (by nofun) hexec
  refine ⟨hgood, hinv', ?_⟩
  cases normalizeDataPatchRunResult (js "Data patch rollback result") outcome with
  | error error =>
    apply sound_then
    apply sound_clockNow hinv'
    intro failedAt steps₁ hinv₁ _
    apply sound_then
    apply sound_then
    refine sound_call hinv₁ nofun nofun nofun ?_
    intro reply log'' _ _
    apply sound_checked
    intro _ _
    exact sound_throw
  | ok result =>
    apply sound_then
    apply sound_clockNow hinv'
    intro rolledBackAt steps₁ hinv₁ _
    apply sound_then
    apply sound_completeDataPatchRollback hinv₁
    intro steps₂ log₂ hinv₂ hstatus hothers
    exact hQ _ steps₂ log₂ hinv₂ hstatus hothers

theorem AwayIn.of_get {id : JsString} (h : AwayIn log id) (hget : Record.get log' id = Record.get log id) :
    AwayIn log' id := by
  unfold AwayIn statusOf
  rw [hget]
  exact h

/-- **The patches are rolled back against their order.** -/
theorem sound_rollbackFrom {result : DataPatchRollbackRunResult} (hnodup : (order patches).Nodup)
    (hinv : OnceOK steps log) (hready : Ready (order patches).reverse (AwayIn log) (order todo)) :
    PatchSound patches operation (rollbackFrom result todo) (fun _ _ _ => True) steps log := by
  induction todo generalizing result steps log with
  | nil => exact sound_pure trivial
  | cons patch todo ih =>
    have hfirst : ∀ other, Before (order patches) patch.id other → AwayIn log other :=
      fun other hbefore => hready.head (List.nodup_reverse.mpr hnodup) (before_reverse.mpr hbefore)
    unfold rollbackFrom
    apply sound_then
    apply sound_checked
    intro _ _
    apply sound_then
    apply sound_newClaim hinv
    intro claim steps₁ hid hinv₁
    apply sound_then
    apply sound_claimDataPatchRollback hinv₁
    rw [hid]
    intro claimed steps₂ log₂ hinv₂ hrolledBack hothers
    apply sound_then
    apply sound_checked
    intro decision hdecision
    cases decision with
    | skip skipped =>
      have hstatus : statusOf log₂ patch.id = some .rolledBack := by
        cases claimed with
        | rolledBack rolledBack => exact hrolledBack rolledBack rfl
        | _ => cases hdecision
      apply ih hinv₂
      apply hready.tail
      · exact fun other hother haway => haway.of_get (hothers other hother)
      · exact Or.inr hstatus
    | claimed claim =>
      apply sound_then
      have hfirst₂ : ∀ other, Before (order patches) patch.id other → AwayIn log₂ other :=
        fun other hbefore => (hfirst other hbefore).of_get (hothers other (hbefore.ne hnodup).symm)
      apply sound_rollbackClaimedPatch hinv₂ hfirst₂
      intro record steps₃ log₃ hinv₃ hstatus hothers₃
      apply ih hinv₃
      apply hready.tail
      · exact fun other hother haway => haway.of_get ((hothers₃ other hother).trans (hothers other hother))
      · exact Or.inr hstatus

theorem sound_rollback (hnodup : (order patches).Nodup) (hinv : OnceOK steps log)
    (hready : Ready (order patches).reverse (AwayIn log) (order todo)) :
    PatchSound patches operation (DataPatchRunner.rollback todo) (fun _ _ _ => True) steps log := by
  apply sound_then
  apply sound_checked
  intro planned hplanned
  obtain ⟨rfl, _⟩ := normalizeDataPatchDefinitions_ok hplanned
  exact sound_rollbackFrom hnodup hinv hready

theorem sound_retryRollbackFailed (hnodup : (order patches).Nodup) (hinv : OnceOK steps log)
    (hready : Ready (order patches).reverse (AwayIn log) (order [patch])) :
    PatchSound patches operation (retryRollbackFailed patch) (fun _ _ _ => True) steps log := by
  have hfirst : ∀ other, Before (order patches) patch.id other → AwayIn log other :=
    fun other hbefore => hready.head (List.nodup_reverse.mpr hnodup) (before_reverse.mpr hbefore)
  apply sound_then
  apply sound_checked
  intro planned hplanned
  obtain rfl := defineDataPatch_ok hplanned
  apply sound_then
  apply sound_checked
  intro _ _
  apply sound_then
  apply sound_newClaim hinv
  intro claim steps₁ hid hinv₁
  apply sound_then
  apply sound_retryFailedDataPatchRollback hinv₁
  rw [hid]
  intro claim' steps₂ log₂ hinv₂ hothers
  apply sound_then
  have hfirst₂ : ∀ other, Before (order patches) planned.id other → AwayIn log₂ other :=
    fun other hbefore => (hfirst other hbefore).of_get (hothers other (hbefore.ne hnodup).symm)
  apply sound_rollbackClaimedPatch hinv₂ hfirst₂
  intro record steps₃ log₃ _ _ _
  exact sound_pure trivial

end Sound

/-! ## The service -/

section Service

variable {service : DataPatchService} {operation : DataPatchOperation}
  {steps : List PatchStep} {log : InMemoryDataPatchLog}

theorem order_nodup (service : DataPatchService) : (order service.patches).Nodup := service.distinct

theorem sound_authorize {actor : Actor} (h : Q () steps log) :
    PatchSound service.patches operation (service.authorize actor) Q steps log :=
  sound_checked (fun _ _ => h)

/-- A selection whose predecessors are applied. -/
theorem sound_assertPredecessorsApplied {selected : List DataPatchDefinition} (hinv : OnceOK steps log)
    (hpart : selected.Sublist service.patches)
    (hQ : ∀ steps', OnceOK steps' log → Ready (order service.patches) (AppliedIn log) (order selected) → Q () steps' log) :
    PatchSound service.patches operation (service.assertPredecessorsApplied selected) Q steps log := by
  apply sound_then
  apply sound_recordedById hinv
  intro byId steps' hlisted hinv'
  apply sound_checked
  intro _ happlied
  exact hQ steps' hinv' ((ready_of_predecessorsApplied hpart happlied).mono (fun _ => hlisted.applied))

theorem sound_selectedForApply {patchIds : Option (List JsString)}
    {Q : List DataPatchDefinition → List PatchStep → InMemoryDataPatchLog → Prop} (hinv : OnceOK steps log)
    (hQ : ∀ selected steps', OnceOK steps' log → Ready (order service.patches) (AppliedIn log) (order selected) →
      Q selected steps' log) :
    PatchSound service.patches operation (service.selectedForApply patchIds) Q steps log := by
  apply sound_then
  apply sound_checked
  intro selected hselected
  cases patchIds with
  | none =>
    obtain rfl := Except.ok.inj hselected
    exact hQ _ steps hinv Ready.whole
  | some patchIds =>
    obtain ⟨p, rfl⟩ := selectDataPatches_ok hselected
    apply sound_then
    apply sound_assertPredecessorsApplied hinv List.filter_sublist
    intro steps' hinv' hready
    exact hQ _ steps' hinv' hready

/-- **What may be applied is ready.** -/
theorem sound_patchesForApply {options : DataPatchOptions}
    {Q : List DataPatchDefinition → List PatchStep → InMemoryDataPatchLog → Prop} (hinv : OnceOK steps log)
    (hQ : ∀ selected steps', OnceOK steps' log → Ready (order service.patches) (AppliedIn log) (order selected) →
      Q selected steps' log) :
    PatchSound service.patches operation (service.patchesForApply options) Q steps log := by
  apply sound_then
  apply sound_checked
  intro _ _
  apply sound_then
  apply sound_selectedForApply hinv
  intro selected steps₁ hinv₁ hready
  cases hlimit : options.limit with
  | none => exact hQ _ steps₁ hinv₁ hready
  | some limit =>
    apply sound_then
    apply sound_then
    apply sound_checked
    intro planned hplanned
    obtain ⟨rfl, _⟩ := normalizeDataPatchDefinitions_ok hplanned
    apply sound_then
    apply sound_recordedById hinv₁
    intro byId steps₂ hlisted hinv₂
    apply sound_checked
    intro pending hpending
    have hready₂ : Ready (order service.patches) (AppliedIn log) (order pending) :=
      ready_pendingFrom hready (fun _ => hlisted.applied) hpending
    have hbegin : Ready (order service.patches) (AppliedIn log) (order (sliceTo (some limit) pending)) :=
      ready_sliceTo hready₂ (order_nodup service)
    exact hQ _ steps₂ hinv₂ hbegin

/-- **What may be rolled back is ready** against the order. -/
theorem sound_patchesForRollbackPlan {options : DataPatchOptions}
    {Q : List DataPatchDefinition → List PatchStep → InMemoryDataPatchLog → Prop} (hinv : OnceOK steps log)
    (hQ : ∀ plan steps', OnceOK steps' log → Ready (order service.patches).reverse (AwayIn log) (order plan) →
      Q plan steps' log) :
    PatchSound service.patches operation (service.patchesForRollbackPlan options) Q steps log := by
  apply sound_then
  apply sound_checked
  intro _ _
  apply sound_then
  apply sound_recordedById hinv
  intro byId steps' hlisted hinv'
  cases options.patchIds with
  | none =>
    apply sound_checked
    intro plan hplan
    exact hQ plan steps' hinv' ((ready_planAutomatic (order_nodup service) hplan).mono (fun _ => hlisted.away))
  | some patchIds =>
    apply sound_then
    apply sound_checked
    intro selected hselected
    obtain ⟨p, rfl⟩ := selectDataPatches_ok hselected
    apply sound_checked
    intro plan hplan
    have hready := ready_planSelected (order_nodup service) List.filter_sublist hplan
    exact hQ plan steps' hinv' (hready.mono (fun _ => hlisted.away))

/-- **Every operation is sound.** -/
theorem sound_operation (hinv : OnceOK steps log) :
    PatchSound service.patches operation (service.program operation) (fun _ _ _ => True) steps log := by
  cases operation with
  | apply actor options =>
    apply sound_then
    apply sound_then
    apply sound_authorize
    apply sound_then
    apply sound_patchesForApply hinv
    intro selected steps' hinv' hready
    exact sound_apply (order_nodup service) hinv' hready
  | rollback actor options =>
    apply sound_then
    apply sound_then
    apply sound_authorize
    apply sound_then
    apply sound_patchesForRollbackPlan hinv
    intro plan steps' hinv' hready
    exact sound_rollback (order_nodup service) hinv' hready
  | retryFailed actor patchId =>
    apply sound_then
    apply sound_then
    apply sound_authorize
    apply sound_then
    apply sound_checked
    intro patch hpatch
    apply sound_then
    apply sound_assertPredecessorsApplied hinv (List.singleton_sublist.mpr (selectDataPatch_ok hpatch))
    intro steps₁ hinv₁ hready
    apply sound_then
    apply sound_retryFailedDataPatch hinv₁
    intro steps₂ log₂ hinv₂ hothers
    apply sound_apply (order_nodup service) hinv₂
    -- what is before the patch is not the patch, so it is as it was
    refine ⟨hready.part, ?_⟩
    intro id hid other hbefore hother
    have hne : other ≠ patch.id := fun heq => hother (heq ▸ List.mem_cons_self)
    exact AppliedIn.of_get (hready.before id hid other hbefore hother) (hothers other hne)
  | retryRollbackFailed actor patchId =>
    apply sound_then
    apply sound_then
    apply sound_authorize
    apply sound_then
    apply sound_then
    apply sound_checked
    intro patch hpatch
    apply sound_then
    apply sound_recordedById hinv
    intro byId steps' hlisted hinv'
    apply sound_then
    apply sound_checked
    intro _ hretryable
    have hready := ready_retry (order_nodup service) (selectDataPatch_ok hpatch) hretryable
    apply sound_pure
    exact sound_retryRollbackFailed (order_nodup service) hinv' (hready.mono (fun _ => hlisted.away))

/-- **Patches run in the declared order, and once.** Whatever operations are made, wherever each of them stops and
however the patches end: a patch is run when all earlier ones are applied, is unrecorded but for its new claim, and has
never run well before; it is rolled back when all later ones are unrecorded or rolled back; and the recorded statuses
change along their ways. -/
theorem in_declared_order {operations : List DataPatchOperation} {before after : List PatchStep} {step : PatchStep}
    (h : Program.Series exec service.program [] operations (before ++ step :: after) log) :
    InDeclaredOrder service.patches before step :=
  SequentialState.Series.good (S := patchRuns service.patches)
    (fun _ _ _ hinv => sound_operation hinv) h onceOK_empty

end Service

/-! ### Two patches

The first is applied alone, then the second, and both are rolled back. -/

namespace TwoPatches

def patches : List DataPatchDefinition :=
  [{ id := js "p1", checksum := js "a", rollback := true }, { id := js "p2", checksum := js "b", rollback := true }]

def service : DataPatchService := { adminRoles := [js "Admin"], patches, declared := by decide +kernel }

def admin : Actor := { id := js "ann", roles := [js "Admin"] }

def operations : List DataPatchOperation :=
  [.apply admin { limit := some 1 }, .apply admin { patchIds := some [js "p2"] }, .rollback admin {}]

def localeCompare : JsString → JsString → Ordering := fun _ _ => .eq

/-- The reply to an action and the log after it; every patch runs well. -/
def reply (log : InMemoryDataPatchLog) : (action : PatchAction) → action.Reply × InMemoryDataPatchLog
  | .recordedDataPatches => (InMemoryDataPatchLog.recordedDataPatches localeCompare log, log)
  | .claimDataPatch patch => answered log (log.claimDataPatch patch)
  | .completeDataPatch patch => changed log (log.completeDataPatch patch)
  | .failDataPatch patch => changed log (log.failDataPatch patch)
  | .retryFailedDataPatch patch => changed log (log.retryFailedDataPatch patch)
  | .claimDataPatchRollback patch => answered log (log.claimDataPatchRollback patch)
  | .completeDataPatchRollback patch => changed log (log.completeDataPatchRollback patch)
  | .failDataPatchRollback patch => changed log (log.failDataPatchRollback patch)
  | .retryFailedDataPatchRollback patch => answered log (log.retryFailedDataPatchRollback patch)
  | .now => (js "2026-01-01T00:00:00.000Z", log)
  | .nextId => (js "claim", log)
  | .run _ => (.returned none, log)
  | .rollback _ => (.returned none, log)

theorem exec_reply (log : InMemoryDataPatchLog) (action : PatchAction) :
    exec log action (reply log action).1 (reply log action).2 := by
  cases action with
  | recordedDataPatches => exact ⟨List.perm_insertionSort _ _, rfl⟩
  | _ => rfl

def steps : List PatchStep := Program.evalAllSteps reply service.program operations []

end TwoPatches

/-- The first patch is rolled back after the second. -/
theorem in_declared_order_twoPatches :
    ∃ before step after log,
      Program.Series exec TwoPatches.service.program [] TwoPatches.operations (before ++ step :: after) log ∧
      step.action = .rollback (js "p1") ∧ InDeclaredOrder TwoPatches.service.patches before step := by
  have hseries := Program.series_evalAll TwoPatches.exec_reply TwoPatches.service.program TwoPatches.operations []
  have hany : TwoPatches.steps.any (fun step => step.action = .rollback (js "p1")) = true := by decide +kernel
  obtain ⟨step, hmem, haction⟩ := List.any_eq_true.mp hany
  obtain ⟨before, after, hsplit⟩ := List.append_of_mem hmem
  have hsteps : Program.evalAllSteps TwoPatches.reply TwoPatches.service.program TwoPatches.operations [] =
      before ++ step :: after := hsplit
  rw [hsteps] at hseries
  exact ⟨before, step, after, _, hseries, of_decide_eq_true haction, in_declared_order hseries⟩

end DataPatchRuns
