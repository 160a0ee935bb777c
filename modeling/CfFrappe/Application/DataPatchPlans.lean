import CfFrappe.Application.DataPatchRuns

set_option autoImplicit false

/-! # What is planned is what is done

The service says beforehand what an apply or a rollback would do. Nobody else is at the log here, and nothing stops an
operation, but a patch may end in any way.

* Where there is a plan, the operation goes through its patches in their order, up to the first that fails, and touches
  no other patch (`AsPlanned`).
* Where the plan of a rollback is refused, so is the rollback, with the same error, and the log stays as it is.
* An apply without a limit reads the log once and then goes along the selected patches (`unseenSelection`), so it finds
  out about a patch that is in its way only when it gets there. Where its plan is refused because of such a patch
  (`BlockedAt`), the pending patches before that one are applied first, and one of them may fail (`ApplyAsPlanned`).
-/

open Utf
open Program (comes_ofExcept comes_perform comes_pure comes_then onward_ok)

variable {claim : ClaimDataPatch} {actor : Actor} {recorded : RecordedDataPatch} {patchIds : Option (List JsString)}
variable {patchId : JsString}

namespace DataPatchPlans

open DataPatchRuns DataPatchOrder DataPatchRunner

variable {log log₁ log' : InMemoryDataPatchLog} {patch : DataPatchDefinition} {α β : Type}

/-! ## How an operation ends in view of its plan -/

/-- How the status of a patch goes when something is done with it. -/
structure Course where
  ready : Option DataPatchStatus
  done : DataPatchStatus
  failed : DataPatchStatus
  distinct : ready ≠ some done

namespace Course

def apply : Course := { ready := none, done := .applied, failed := .failed, distinct := by decide }

def rollback : Course :=
  { ready := some .applied, done := .rolledBack, failed := .rollbackFailed, distinct := by decide }

def rollbackRetry : Course :=
  { ready := some .rollbackFailed, done := .rolledBack, failed := .rollbackFailed, distinct := by decide }

end Course

variable {course : Course} {ids : List JsString} {id : JsString}

/-- The patches were ready and are done, and no other one is touched. -/
structure Moved (course : Course) (ids : List JsString) (log log' : InMemoryDataPatchLog) : Prop where
  ready : ∀ id ∈ ids, statusOf log id = course.ready
  done : ∀ id ∈ ids, statusOf log' id = some course.done
  others : ∀ id, id ∉ ids → Record.get log' id = Record.get log id

/-- The patches were ready and are done, the next one was ready and has failed, and no other one is touched. -/
structure Stuck (course : Course) (ids : List JsString) (id : JsString) (log log' : InMemoryDataPatchLog) : Prop where
  ready : ∀ other ∈ ids ++ [id], statusOf log other = course.ready
  done : ∀ other ∈ ids, statusOf log' other = some course.done
  failed : statusOf log' id = some course.failed
  others : ∀ other, other ∉ ids ++ [id] → Record.get log' other = Record.get log other

/-- What comes of a plan. -/
inductive AsPlanned (course : Course) (log log' : InMemoryDataPatchLog) :
    Except PatchError (List JsString) → Except PatchError (List JsString) → Prop
  /-- everything is done -/
  | all {ids : List JsString} (h : Moved course ids log log') : AsPlanned course log log' (.ok ids) (.ok ids)
  /-- one of the patches has failed -/
  | stopped {ids rest : List JsString} {id : JsString} {error : PatchError} (h : Stuck course ids id log log') :
      AsPlanned course log log' (.ok (ids ++ id :: rest)) (.error error)
  /-- the same refusal, and nothing is done -/
  | refused {error : PatchError} (h : log' = log) : AsPlanned course log log' (.error error) (.error error)

theorem Moved.nil : Moved course [] log log where
  ready _ h := absurd h List.not_mem_nil
  done _ h := absurd h List.not_mem_nil
  others _ _ := rfl

/-- What is ready after the first patch is another one, and was ready before. -/
theorem Moved.ready_before (hfirst : Moved course [id] log log₁) {other : JsString}
    (hready : statusOf log₁ other = course.ready) : other ≠ id ∧ statusOf log other = course.ready := by
  have hne : other ≠ id := by
    rintro rfl
    rw [hfirst.done other List.mem_cons_self] at hready
    exact course.distinct hready.symm
  refine ⟨hne, ?_⟩
  rw [statusOf, ← hfirst.others other (by simpa using hne)]
  exact hready

theorem Moved.cons (hfirst : Moved course [id] log log₁) (h : Moved course ids log₁ log') :
    Moved course (id :: ids) log log' := by
  have hnew : id ∉ ids := fun hmem => (hfirst.ready_before (h.ready id hmem)).1 rfl
  constructor
  · intro other hother
    rcases List.mem_cons.mp hother with rfl | hother
    · exact hfirst.ready other List.mem_cons_self
    · exact (hfirst.ready_before (h.ready other hother)).2
  · intro other hother
    rcases List.mem_cons.mp hother with rfl | hother
    · rw [statusOf, h.others other hnew]
      exact hfirst.done other List.mem_cons_self
    · exact h.done other hother
  · intro other hother
    have hne : other ≠ id := List.ne_of_not_mem_cons hother
    have hrest := List.not_mem_of_not_mem_cons hother
    rw [h.others other hrest, hfirst.others other (by simpa using hne)]

theorem Stuck.cons {next : JsString} (hfirst : Moved course [id] log log₁) (h : Stuck course ids next log₁ log') :
    Stuck course (id :: ids) next log log' := by
  have hnew : id ∉ ids ++ [next] := fun hmem => (hfirst.ready_before (h.ready id hmem)).1 rfl
  constructor
  · intro other hother
    rcases List.mem_cons.mp hother with rfl | hother
    · exact hfirst.ready other List.mem_cons_self
    · exact (hfirst.ready_before (h.ready other hother)).2
  · intro other hother
    rcases List.mem_cons.mp hother with rfl | hother
    · rw [statusOf, h.others other hnew]
      exact hfirst.done other List.mem_cons_self
    · exact h.done other hother
  · exact h.failed
  · intro other hother
    have hne : other ≠ id := List.ne_of_not_mem_cons hother
    have hrest := List.not_mem_of_not_mem_cons hother
    rw [h.others other hrest, hfirst.others other (by simpa using hne)]

theorem AsPlanned.stoppedFirst {rest : List JsString} {error : PatchError} (h : Stuck course [] id log log') :
    AsPlanned course log log' (.ok (id :: rest)) (.error error) :=
  @AsPlanned.stopped course log log' [] rest id error h

/-- **A patch that is done goes before the rest of the plan.** -/
theorem AsPlanned.cons {result : Except PatchError (List JsString)} (hfirst : Moved course [id] log log₁)
    (h : AsPlanned course log₁ log' (.ok ids) result) : AsPlanned course log log' (.ok (id :: ids)) (result.map (id :: ·)) := by
  cases h with
  | all h => exact .all (hfirst.cons h)
  | @stopped done rest next error h => exact @AsPlanned.stopped course log log' (id :: done) rest next error (.cons hfirst h)

/-! ## Policies read the listing by the ids -/

section Congr

variable {byId byId' : Record JsString RecordedDataPatch} {patches selected : List DataPatchDefinition}
  {limit : Option Rat}

theorem pendingFrom_congr (h : ∀ id ∈ order patches, Record.get byId id = Record.get byId' id) :
    pendingFrom byId patches = pendingFrom byId' patches := by
  induction patches with
  | nil => rfl
  | cons patch patches ih =>
    have hrest := ih (fun id hid => h id (List.mem_cons_of_mem _ hid))
    unfold pendingFrom
    rw [h patch.id List.mem_cons_self, hrest]

theorem assertPredecessorsAppliedFrom_congr {selectedIds : List JsString} {blocker : Option DataPatchDefinition}
    (h : ∀ id, Record.get byId id = Record.get byId' id) :
    assertPredecessorsAppliedFrom selectedIds byId blocker patches =
      assertPredecessorsAppliedFrom selectedIds byId' blocker patches := by
  induction patches generalizing blocker with
  | nil => rfl
  | cons patch patches ih =>
    unfold assertPredecessorsAppliedFrom
    simp only [h, ih]

theorem assertSuccessorsRolledBack_congr (h : ∀ id, Record.get byId id = Record.get byId' id) :
    assertDataPatchRollbackSuccessorsRolledBack patches selected byId =
      assertDataPatchRollbackSuccessorsRolledBack patches selected byId' := by
  have hcheck : assertSuccessorRolledBack selected byId = assertSuccessorRolledBack selected byId' := by
    funext patch
    unfold assertSuccessorRolledBack
    rw [h]
  rw [assertDataPatchRollbackSuccessorsRolledBack, hcheck]
  rfl

theorem planSelectedDataPatchRollback_congr (h : ∀ id, Record.get byId id = Record.get byId' id) :
    planSelectedDataPatchRollback patches selected limit byId =
      planSelectedDataPatchRollback patches selected limit byId' := by
  unfold planSelectedDataPatchRollback
  simp only [h, assertSuccessorsRolledBack_congr h]

theorem planAutomaticFrom_congr {taken : Nat} (h : ∀ id, Record.get byId id = Record.get byId' id) :
    planAutomaticDataPatchRollbackFrom limit byId taken patches =
      planAutomaticDataPatchRollbackFrom limit byId' taken patches := by
  induction patches generalizing taken with
  | nil => rfl
  | cons patch patches ih =>
    unfold planAutomaticDataPatchRollbackFrom
    simp only [h, ih]

end Congr

/-! ## Reading the log -/

/-- A part of an operation that only reads, and what it comes to. -/
def Reads (log : InMemoryDataPatchLog) (p : PatchProgram α) (x : Except FrameworkError α) : Prop :=
  ∀ Q : Except PatchError α → InMemoryDataPatchLog → Prop, Q (x.mapError .framework) log → Program.Comes exec p Q log

theorem reads_checked {x : Except FrameworkError α} : Reads log (checked x) x := fun _ h => comes_ofExcept h

theorem reads_pure {a : α} : Reads log (pure a) (.ok a) := fun _ h => h

theorem reads_then {p : PatchProgram α} {x : Except FrameworkError α} {f : α → PatchProgram β}
    {g : α → Except FrameworkError β} (hp : Reads log p x) (hf : ∀ a, x = .ok a → Reads log (f a) (g a)) :
    Reads log (p >>= f) (x >>= g) := by
  intro Q hQ
  apply comes_then
  apply hp
  cases x with
  | error error => exact hQ
  | ok a => exact hf a rfl Q hQ

/-- A listing is read by the ids. -/
theorem reads_recordedById {f : Record JsString RecordedDataPatch → PatchProgram β} {y : Except FrameworkError β}
    (hlog : LogOK log) (hf : ∀ byId, Listed byId log → Reads log (f byId) y) : Reads log (recordedById >>= f) y := by
  intro Q hQ
  apply comes_then
  apply comes_then
  apply comes_perform
  rintro recorded log' ⟨hperm, rfl⟩
  exact hf _ (listed_recorded hlog hperm) Q hQ

/-- The log, by the ids. -/
def listing (log : InMemoryDataPatchLog) : Record JsString RecordedDataPatch :=
  recordedDataPatchesById ((log.map Prod.snd).map InMemoryDataPatchEntry.record)

theorem listed_listing (hlog : LogOK log) : Listed (listing log) log := listed_recorded hlog (List.Perm.refl _)

theorem listed_get_eq {byId byId' : Record JsString RecordedDataPatch} (h : Listed byId log) (h' : Listed byId' log)
    (id : JsString) : Record.get byId id = Record.get byId' id := (h id).trans (h' id).symm

/-! ## The runner -/

/-- The ids of what was to be done, or why it was refused. -/
def planIds (plan : Except FrameworkError (List DataPatchDefinition)) : Except PatchError (List JsString) :=
  (plan.map order).mapError .framework

theorem planIds_map_cons (plan : Except FrameworkError (List DataPatchDefinition)) :
    planIds (plan.map (patch :: ·)) = (planIds plan).map (patch.id :: ·) := by
  cases plan <;> rfl

/-- A new claim leaves the log as it is. -/
theorem comes_newClaim {Q : Except PatchError ClaimDataPatch → InMemoryDataPatchLog → Prop}
    (h : ∀ claim : ClaimDataPatch, claim.id = patch.id → claim.checksum = patch.checksum → Q (.ok claim) log) :
    Program.Comes exec (newClaim patch) Q log := by
  apply comes_then
  apply comes_perform
  rintro claimId _ rfl
  apply comes_then
  apply comes_perform
  rintro claimedAt _ rfl
  exact h _ rfl rfl

/-- The claim holds the pending entry of its patch. -/
def Holds (log : InMemoryDataPatchLog) (patch : DataPatchDefinition) (claim : ClaimDataPatch) : Prop :=
  ∃ pending, Record.get log patch.id = some (.pending pending claim.claimId) ∧ pending.checksum = patch.checksum

/-- The claim holds the pending rollback of its patch. -/
def HoldsRollback (log : InMemoryDataPatchLog) (patch : DataPatchDefinition) (claim : ClaimDataPatch) : Prop :=
  ∃ pending, Record.get log patch.id = some (.rollbackPending pending claim.claimId) ∧ pending.checksum = patch.checksum

theorem Holds.assertPendingClaim (h : Holds log patch claim) :
    InMemoryDataPatchLog.assertPendingClaim (Record.get log patch.id) patch.id patch.checksum claim.claimId =
      .ok () := by
  obtain ⟨pending, hget, hchecksum⟩ := h
  simp [InMemoryDataPatchLog.assertPendingClaim, hget, hchecksum, ensure]

theorem HoldsRollback.assertRollbackPendingClaim (h : HoldsRollback log patch claim) :
    ∃ existing, InMemoryDataPatchLog.assertRollbackPendingClaim (Record.get log patch.id) patch.id patch.checksum
      claim.claimId = .ok existing := by
  obtain ⟨pending, hget, hchecksum⟩ := h
  exact ⟨pending, by simp [InMemoryDataPatchLog.assertRollbackPendingClaim, hget, hchecksum]⟩

/-- An entry that is put in the place of that of a patch. -/
structure Put (log : InMemoryDataPatchLog) (id : JsString) (status : DataPatchStatus) (log' : InMemoryDataPatchLog) :
    Prop where
  ok : LogOK log'
  status : statusOf log' id = some status
  others : ∀ other, other ≠ id → Record.get log' other = Record.get log other

theorem put_set (hlog : LogOK log) {entry : InMemoryDataPatchEntry} {status : DataPatchStatus}
    (hid : entry.journal.id = id) (hstatus : entry.journal.status = status) :
    Put log id status (Record.set log id entry) := by
  refine ⟨⟨Record.nodup_keys_set hlog.nodup _ _, ?_⟩, ?_, ?_⟩
  · intro other entry' hget
    rw [Record.get_set] at hget
    split_ifs at hget with hother
    · rw [← Option.some.inj hget, hid, hother]
    · exact hlog.keyed other entry' hget
  · rw [statusOf_set, hstatus]
  · intro other hother
    rw [Record.get_set, if_neg (Ne.symm hother)]

theorem Put.trans {status status' : DataPatchStatus} (h : Put log id status log₁) (h' : Put log₁ id status' log') :
    Put log id status' log' :=
  ⟨h'.ok, h'.status, fun other hother => (h'.others other hother).trans (h.others other hother)⟩

theorem Put.moved (h : Put log id course.done log') (hready : statusOf log id = course.ready) :
    Moved course [id] log log' := by
  refine ⟨?_, ?_, fun other hother => h.others other (by simpa using hother)⟩
  · intro other hother
    rw [List.mem_singleton.mp hother, hready]
  · intro other hother
    rw [List.mem_singleton.mp hother, h.status]

theorem Put.stuck (h : Put log id course.failed log') (hready : statusOf log id = course.ready) :
    Stuck course [] id log log' := by
  refine ⟨?_, fun _ hother => absurd hother List.not_mem_nil, h.status, ?_⟩
  · intro other hother
    rw [List.mem_singleton.mp hother, hready]
  · exact fun other hother => h.others other (by simpa using hother)

/-- **The run of a claimed patch** makes it applied or failed. -/
theorem comes_runClaimedPatch {Q : Except PatchError DataPatchRunRecord → InMemoryDataPatchLog → Prop}
    (hlog : LogOK log) (hclaim : Holds log patch claim)
    (hok : ∀ record log', record.id = patch.id → Record.get log' patch.id = some (.applied record) →
      Put log patch.id .applied log' → Q (.ok record) log')
    (herror : ∀ error log', Put log patch.id .failed log' → Q (.error error) log') :
    Program.Comes exec (runClaimedPatch patch claim) Q log := by
  apply comes_then
  apply comes_perform
  rintro outcome _ rfl
  rw [onward_ok]
  cases normalizeDataPatchRunResult (js "Data patch result") outcome with
  | error error =>
    apply comes_then
    apply comes_perform
    rintro failedAt _ rfl
    apply comes_then
    apply comes_then
    apply comes_perform
    intro reply log' hexec
    have hfailed := hclaim.assertPendingClaim
    simp only [exec, InMemoryDataPatchLog.failDataPatch, hfailed] at hexec
    obtain ⟨rfl, rfl⟩ := Prod.mk.inj hexec
    apply comes_ofExcept
    exact herror error _ (put_set hlog rfl rfl)
  | ok result =>
    apply comes_then
    apply comes_perform
    rintro appliedAt _ rfl
    apply comes_then
    apply comes_then
    apply comes_perform
    intro reply log' hexec
    have happlied := hclaim.assertPendingClaim
    simp only [exec, InMemoryDataPatchLog.completeDataPatch, happlied] at hexec
    obtain ⟨rfl, rfl⟩ := Prod.mk.inj hexec
    apply comes_ofExcept
    apply hok _ _ rfl
    · rw [Record.get_set, if_pos rfl]
    · exact put_set hlog rfl rfl

/-- A patch without an entry is claimed. -/
theorem comes_claimDataPatch {Q : Except PatchError DataPatchClaimResult → InMemoryDataPatchLog → Prop}
    (hlog : LogOK log) (hid : claim.id = patch.id) (hchecksum : claim.checksum = patch.checksum)
    (hnone : Record.get log patch.id = none)
    (h : ∀ log', Holds log' patch claim → Put log patch.id .pending log' → Q (.ok (.claimed claim)) log') :
    Program.Comes exec (claimDataPatch claim) Q log := by
  apply comes_then
  apply comes_perform
  intro reply log' hexec
  have hclaim : Record.get log claim.id = none := by rw [hid, hnone]
  simp only [exec, InMemoryDataPatchLog.claimDataPatch, hclaim] at hexec
  obtain ⟨rfl, rfl⟩ := Prod.mk.inj hexec
  apply comes_ofExcept
  rw [hid]
  refine h _ ?_ (put_set hlog rfl rfl)
  rw [Holds, Record.get_set, if_pos rfl]
  exact ⟨_, rfl, hchecksum⟩

section Pending

variable {byId : Record JsString RecordedDataPatch} {patches : List DataPatchDefinition}

theorem pendingFrom_none (h : Record.get byId patch.id = none) :
    pendingFrom byId (patch :: patches) = (pendingFrom byId patches).map (patch :: ·) := by
  rw [pendingFrom, h]
  cases pendingFrom byId patches <;> rfl

theorem pendingFrom_applied {applied : AppliedDataPatch} (h : Record.get byId patch.id = some recorded)
    (happlied : assertRecordedDataPatchAllowsApplySkip patch recorded = .ok applied) :
    pendingFrom byId (patch :: patches) = pendingFrom byId patches := by
  rw [pendingFrom, h]
  simp only [happlied]
  rfl

theorem pendingFrom_refused {error : FrameworkError} (h : Record.get byId patch.id = some recorded)
    (hrefused : assertRecordedDataPatchAllowsApplySkip patch recorded = .error error) :
    pendingFrom byId (patch :: patches) = .error error := by
  rw [pendingFrom, h]
  simp only [hrefused]
  rfl

theorem pendingFrom_unrecorded (h : ∀ patch ∈ patches, Record.get byId patch.id = none) :
    pendingFrom byId patches = .ok patches := by
  induction patches with
  | nil => rfl
  | cons patch patches ih =>
    have hrest := ih (fun other hother => h other (List.mem_cons_of_mem _ hother))
    rw [pendingFrom_none (h patch List.mem_cons_self), hrest]
    rfl

end Pending

/-! ### Patches that are in the way of an apply -/

/-- One of the patches to go through is recorded otherwise than as applied, which is the error, and none before it is;
`pending` are those before it that are not recorded. -/
def BlockedAt (log : InMemoryDataPatchLog) (todo : List DataPatchDefinition) (pending : List JsString)
    (error : FrameworkError) : Prop :=
  ∃ before blamed after entry, todo = before ++ blamed :: after ∧ Record.get log blamed.id = some entry ∧
    assertRecordedDataPatchAllowsApplySkip blamed entry.record = .error error ∧
    (∀ patch ∈ before, ∀ earlier, Record.get log patch.id = some earlier →
      ∃ applied, assertRecordedDataPatchAllowsApplySkip patch earlier.record = .ok applied) ∧
    pending = order (before.filter (fun patch => statusOf log patch.id = none))

/-- What comes of going through the patches that are selected. -/
inductive GoneThrough (todo : List DataPatchDefinition) (log log' : InMemoryDataPatchLog) :
    Except PatchError (List JsString) → Except PatchError (List JsString) → Prop
  | planned {ids : List JsString} {result : Except PatchError (List JsString)}
      (h : AsPlanned .apply log log' (.ok ids) result) : GoneThrough todo log log' (.ok ids) result
  /-- the same refusal, after the pending patches before the one that it is about -/
  | refused {ids : List JsString} {error : FrameworkError} (hblocked : BlockedAt log todo ids error)
      (h : Moved .apply ids log log') : GoneThrough todo log log' (.error (.framework error)) (.error (.framework error))
  /-- one of these pending patches has failed -/
  | stoppedBefore {ids rest : List JsString} {id : JsString} {error : FrameworkError} {error' : PatchError}
      (hblocked : BlockedAt log todo (ids ++ id :: rest) error) (h : Stuck .apply ids id log log') :
      GoneThrough todo log log' (.error (.framework error)) (.error error')

/-- What comes of the plan for an apply: that of any plan, or, where the apply goes along some patches without having
looked at them before, that of going through these. -/
def ApplyAsPlanned (unseen : Option (List DataPatchDefinition)) (log log' : InMemoryDataPatchLog)
    (plan result : Except PatchError (List JsString)) : Prop :=
  match unseen with
  | none => AsPlanned .apply log log' plan result
  | some todo => GoneThrough todo log log' plan result

section Blocked

variable {todo : List DataPatchDefinition} {pending : List JsString} {error : FrameworkError}
  {plan result : Except PatchError (List JsString)}

theorem BlockedAt.here {entry : InMemoryDataPatchEntry} (hget : Record.get log patch.id = some entry)
    (hrefused : assertRecordedDataPatchAllowsApplySkip patch entry.record = .error error) :
    BlockedAt log (patch :: todo) [] error :=
  ⟨[], patch, todo, entry, rfl, hget, hrefused, fun _ hmem => absurd hmem List.not_mem_nil, rfl⟩

/-- A recorded patch before the one in the way is left out of the pending ones. -/
theorem BlockedAt.skip {own : InMemoryDataPatchEntry} {applied : AppliedDataPatch}
    (hown : Record.get log patch.id = some own)
    (hallowed : assertRecordedDataPatchAllowsApplySkip patch own.record = .ok applied)
    (h : BlockedAt log todo pending error) : BlockedAt log (patch :: todo) pending error := by
  obtain ⟨before, blamed, after, entry, rfl, hget, hrefused, hbefore, rfl⟩ := h
  have hrecorded : statusOf log patch.id ≠ none := by
    rw [statusOf, hown]
    exact Option.some_ne_none _
  refine ⟨patch :: before, blamed, after, entry, rfl, hget, hrefused, ?_, ?_⟩
  · intro other hother earlier hearlier
    rcases List.mem_cons.mp hother with rfl | hother
    · obtain rfl := Option.some.inj (hown.symm.trans hearlier)
      exact ⟨applied, hallowed⟩
    · exact hbefore other hother earlier hearlier
  · rw [List.filter_cons_of_neg (by simpa using hrecorded)]

theorem BlockedAt.cons (hnone : Record.get log patch.id = none) (h : BlockedAt log todo pending error) :
    BlockedAt log (patch :: todo) (patch.id :: pending) error := by
  obtain ⟨before, blamed, after, entry, rfl, hget, hrefused, hbefore, rfl⟩ := h
  have hunrecorded : statusOf log patch.id = none := by
    rw [statusOf, hnone]
    rfl
  refine ⟨patch :: before, blamed, after, entry, rfl, hget, hrefused, ?_, ?_⟩
  · intro other hother earlier hearlier
    rcases List.mem_cons.mp hother with rfl | hother
    · rw [hnone] at hearlier
      cases hearlier
    · exact hbefore other hother earlier hearlier
  · rw [List.filter_cons_of_pos (by simpa using hunrecorded)]
    rfl

/-- The entries of the patches to go through decide. -/
theorem BlockedAt.congr (hsame : ∀ id ∈ order todo, Record.get log' id = Record.get log id)
    (h : BlockedAt log' todo pending error) : BlockedAt log todo pending error := by
  obtain ⟨before, blamed, after, entry, rfl, hget, hrefused, hbefore, rfl⟩ := h
  have hids : ∀ other ∈ before ++ blamed :: after, Record.get log' other.id = Record.get log other.id :=
    fun other hother => hsame other.id (List.mem_map_of_mem hother)
  refine ⟨before, blamed, after, entry, rfl, (hids blamed (by simp)).symm.trans hget, hrefused, ?_, congrArg order ?_⟩
  · intro other hother earlier hearlier
    exact hbefore other hother earlier ((hids other (List.mem_append_left _ hother)).trans hearlier)
  · apply List.filter_congr
    intro other hother
    rw [statusOf, statusOf, hids other (List.mem_append_left _ hother)]

/-- What blocks the plan blocks it somewhere. -/
theorem blockedAt_of_pendingFrom {byId : Record JsString RecordedDataPatch} (hlisted : Listed byId log)
    (h : pendingFrom byId todo = .error error) : ∃ pending, BlockedAt log todo pending error := by
  induction todo with
  | nil => cases h
  | cons patch todo ih =>
    cases hget : Record.get byId patch.id with
    | none =>
      rw [pendingFrom_none hget] at h
      have hrest : pendingFrom byId todo = .error error := by
        cases hpending : pendingFrom byId todo with
        | error error' =>
          rw [hpending] at h
          exact h
        | ok pending =>
          rw [hpending] at h
          cases h
      obtain ⟨pending, hblocked⟩ := ih hrest
      exact ⟨patch.id :: pending, hblocked.cons (hlisted.unrecorded hget)⟩
    | some recorded =>
      obtain ⟨entry, hentry, hrecord⟩ := Option.map_eq_some_iff.mp ((hlisted patch.id).symm.trans hget)
      cases hallowed : assertRecordedDataPatchAllowsApplySkip patch recorded with
      | error error' =>
        rw [pendingFrom_refused hget hallowed] at h
        obtain rfl := Except.error.inj h
        rw [← hrecord] at hallowed
        exact ⟨[], .here hentry hallowed⟩
      | ok applied =>
        rw [pendingFrom_applied hget hallowed] at h
        obtain ⟨pending, hblocked⟩ := ih h
        rw [← hrecord] at hallowed
        exact ⟨pending, hblocked.skip hentry hallowed⟩

theorem GoneThrough.of_ok (h : GoneThrough todo log log' (.ok ids) result) : AsPlanned .apply log log' (.ok ids) result := by
  cases h with
  | planned h => exact h

/-- A patch that is applied already is skipped. -/
theorem GoneThrough.skip {own : InMemoryDataPatchEntry} {applied : AppliedDataPatch}
    (hown : Record.get log patch.id = some own)
    (hallowed : assertRecordedDataPatchAllowsApplySkip patch own.record = .ok applied)
    (h : GoneThrough todo log log' plan result) : GoneThrough (patch :: todo) log log' plan result := by
  cases h with
  | planned h => exact .planned h
  | refused hblocked h => exact .refused (hblocked.skip hown hallowed) h
  | stoppedBefore hblocked h => exact .stoppedBefore (hblocked.skip hown hallowed) h

/-- **A patch that is applied goes before the rest**, or before the refusal. -/
theorem GoneThrough.cons (hnew : patch.id ∉ order todo) (hfirst : Moved .apply [patch.id] log log₁)
    (h : GoneThrough todo log₁ log' plan result) :
    GoneThrough (patch :: todo) log log' (plan.map (patch.id :: ·)) (result.map (patch.id :: ·)) := by
  have hnone : Record.get log patch.id = none := Option.map_eq_none_iff.mp (hfirst.ready patch.id List.mem_cons_self)
  -- the patch that is applied is none of those still to go through
  have hsame : ∀ id ∈ order todo, Record.get log₁ id = Record.get log id := by
    intro id hid
    apply hfirst.others
    intro hmem
    rw [List.mem_singleton] at hmem
    exact hnew (hmem ▸ hid)
  cases h with
  | planned h => exact .planned (.cons hfirst h)
  | refused hblocked h => exact .refused ((hblocked.congr hsame).cons hnone) (hfirst.cons h)
  | @stoppedBefore ids rest id error error' hblocked h =>
    exact @GoneThrough.stoppedBefore _ _ _ (patch.id :: ids) rest id error error' ((hblocked.congr hsame).cons hnone)
      (.cons hfirst h)

end Blocked

def appliedIds (run : DataPatchRunResult) : List JsString := run.applied.map (·.id)

def rolledBackIds (run : DataPatchRollbackRunResult) : List JsString := run.rolledBack.map (·.id)

/-- **The patches are gone through as their pending ones are planned.** -/
theorem comes_applyFrom {todo : List DataPatchDefinition} {byId : Record JsString RecordedDataPatch}
    {acc : DataPatchRunResult} (hlog : LogOK log) (hnodup : (order todo).Nodup) (hlisted : Listed byId log) :
    Program.Comes exec (applyFrom byId acc todo)
      (fun result log' => ∃ attempted, result.map appliedIds = attempted.map (appliedIds acc ++ ·) ∧
        GoneThrough todo log log' (planIds (pendingFrom byId todo)) attempted) log := by
  induction todo generalizing byId acc log with
  | nil => exact ⟨.ok [], by rw [Except.map, Except.map, List.append_nil], .planned (.all .nil)⟩
  | cons patch todo ih =>
    obtain ⟨hnew, hnodup'⟩ := List.nodup_cons.mp hnodup
    unfold applyFrom
    cases hexisting : Record.get byId patch.id with
    | some existing =>
      obtain ⟨entry, hentry, hrecord⟩ := Option.map_eq_some_iff.mp ((hlisted patch.id).symm.trans hexisting)
      apply comes_then
      apply comes_ofExcept
      cases hallowed : assertRecordedDataPatchAllowsApplySkip patch existing with
      | error error =>
        rw [pendingFrom_refused hexisting hallowed]
        rw [← hrecord] at hallowed
        exact ⟨.error (.framework error), rfl, .refused (.here hentry hallowed) .nil⟩
      | ok applied =>
        rw [pendingFrom_applied hexisting hallowed]
        rw [← hrecord] at hallowed
        apply (ih hlog hnodup' hlisted).mono
        rintro result log' ⟨attempted, hresult, hgone⟩
        exact ⟨attempted, hresult, hgone.skip hentry hallowed⟩
    | none =>
      have hnone : Record.get log patch.id = none := hlisted.unrecorded hexisting
      have hready : statusOf log patch.id = Course.apply.ready := by
        rw [statusOf, hnone]
        rfl
      rw [pendingFrom_none hexisting, planIds_map_cons]
      apply comes_then
      apply comes_newClaim
      intro claim hid hchecksum
      apply comes_then
      apply comes_claimDataPatch hlog hid hchecksum hnone
      intro log₁ hholds hclaimed
      apply comes_then
      apply comes_ofExcept
      apply comes_then
      apply comes_runClaimedPatch hclaimed.ok hholds
      · intro record log₂ hrecord hget hput
        have hmoved : Moved .apply [patch.id] log log₂ := (hclaimed.trans hput).moved hready
        have hlisted₂ : Listed (Record.set byId record.id (.applied record)) log₂ :=
          hlisted.set_applied hrecord hget (hclaimed.trans hput).others
        have hrest : pendingFrom (Record.set byId record.id (.applied record)) todo = pendingFrom byId todo := by
          apply pendingFrom_congr
          intro id hmem
          have hne : patch.id ≠ id := by
            rintro rfl
            exact hnew hmem
          rw [hrecord, Record.get_set, if_neg hne]
        rw [onward_ok]
        -- the patch is applied, so the rest of the plan starts from the new log
        apply (ih hput.ok hnodup' hlisted₂).mono
        rintro result log' ⟨attempted, hresult, hgone⟩
        rw [hrest] at hgone
        refine ⟨attempted.map (patch.id :: ·), ?_, hgone.cons hnew hmoved⟩
        rw [hresult]
        cases attempted with
        | error error => rfl
        | ok ids => simp [Except.map, appliedIds, hrecord]
      · intro error log₂ hput
        -- the patch failed: the rest of the plan is not started
        have hstuck : Stuck .apply [] patch.id log log₂ := (hclaimed.trans hput).stuck hready
        refine ⟨.error error, rfl, ?_⟩
        cases hpending : pendingFrom byId todo with
        | error refusal =>
          obtain ⟨rest, hblocked⟩ := blockedAt_of_pendingFrom hlisted hpending
          exact @GoneThrough.stoppedBefore _ _ _ [] rest patch.id refusal error (hblocked.cons hnone) hstuck
        | ok pending => exact .planned (.stoppedFirst hstuck)

/-- **An apply of some patches.** -/
theorem comes_apply {todo : List DataPatchDefinition} (hlog : LogOK log)
    (hplanned : normalizeDataPatchDefinitions todo = .ok todo) :
    Program.Comes exec (DataPatchRunner.apply todo)
      (fun result log' =>
        GoneThrough todo log log' (planIds (pendingFrom (listing log) todo)) (result.map appliedIds)) log := by
  have hnodup : (order todo).Nodup := (normalizeDataPatchDefinitions_ok hplanned).2
  apply comes_then
  apply comes_ofExcept
  rw [hplanned]
  apply comes_then
  apply comes_then
  apply comes_perform
  rintro recorded _ ⟨hperm, rfl⟩
  have hlisted := listed_recorded hlog hperm
  apply (comes_applyFrom hlog hnodup hlisted).mono
  rintro result log' ⟨attempted, hresult, has⟩
  have hsame : attempted.map (appliedIds { applied := [], skipped := [] } ++ ·) = attempted := by
    cases attempted <;> rfl
  rw [hresult, hsame]
  rwa [pendingFrom_congr (fun id _ => listed_get_eq hlisted (listed_listing hlog) id)] at has

/-! ### Rolling back -/

/-- **The rollback of a claimed patch** makes it rolled back or `rollback_failed`. -/
theorem comes_rollbackClaimedPatch {Q : Except PatchError DataPatchRollbackRecord → InMemoryDataPatchLog → Prop}
    (hlog : LogOK log) (hdeclared : patch.rollback = true) (hclaim : HoldsRollback log patch claim)
    (hok : ∀ record log', record.id = patch.id → Put log patch.id .rolledBack log' → Q (.ok record) log')
    (herror : ∀ error log', Put log patch.id .rollbackFailed log' → Q (.error error) log') :
    Program.Comes exec (rollbackClaimedPatch patch claim) Q log := by
  obtain ⟨existing, hexisting⟩ := hclaim.assertRollbackPendingClaim
  apply comes_then
  apply comes_ofExcept
  rw [hdeclared]
  apply comes_then
  apply comes_perform
  rintro outcome _ rfl
  rw [onward_ok]
  cases normalizeDataPatchRunResult (js "Data patch rollback result") outcome with
  | error error =>
    apply comes_then
    apply comes_perform
    rintro failedAt _ rfl
    apply comes_then
    apply comes_then
    apply comes_perform
    intro reply log' hexec
    simp only [exec, InMemoryDataPatchLog.failDataPatchRollback, hexisting] at hexec
    obtain ⟨rfl, rfl⟩ := Prod.mk.inj hexec
    apply comes_ofExcept
    exact herror error _ (put_set hlog rfl rfl)
  | ok result =>
    apply comes_then
    apply comes_perform
    rintro rolledBackAt _ rfl
    apply comes_then
    apply comes_then
    apply comes_perform
    intro reply log' hexec
    simp only [exec, InMemoryDataPatchLog.completeDataPatchRollback, hexisting] at hexec
    obtain ⟨rfl, rfl⟩ := Prod.mk.inj hexec
    apply comes_ofExcept
    exact hok _ _ rfl (put_set hlog rfl rfl)

/-- A patch with a declared rollback that the log holds as applied, with its checksum. -/
def CanRollBack (log : InMemoryDataPatchLog) (patch : DataPatchDefinition) : Prop :=
  patch.rollback = true ∧
    ∃ applied, Record.get log patch.id = some (.applied applied) ∧ applied.checksum = patch.checksum

/-- A patch with a declared rollback that has failed. -/
def CanRetryRollback (log : InMemoryDataPatchLog) (patch : DataPatchDefinition) : Prop :=
  patch.rollback = true ∧
    ∃ failed holder, Record.get log patch.id = some (.rollbackFailed failed holder) ∧ failed.checksum = patch.checksum

theorem assertDataPatchChecksumMatches_same (id checksum : JsString) :
    assertDataPatchChecksumMatches id checksum checksum = .ok () := by
  simp [assertDataPatchChecksumMatches, ensure]

theorem comes_claimDataPatchRollback {Q : Except PatchError DataPatchRollbackClaimResult → InMemoryDataPatchLog → Prop}
    (hlog : LogOK log) (hid : claim.id = patch.id) (hchecksum : claim.checksum = patch.checksum)
    (hcan : CanRollBack log patch)
    (h : ∀ log', HoldsRollback log' patch claim → Put log patch.id .rollbackPending log' →
      Q (.ok (.claimed claim)) log') :
    Program.Comes exec (claimDataPatchRollback claim) Q log := by
  obtain ⟨_, applied, hget, hsame⟩ := hcan
  have hkey : applied.id = patch.id := hlog.keyed _ _ hget
  apply comes_then
  apply comes_perform
  intro reply log' hexec
  have hclaimable : assertRollbackClaimableJournal ((Record.get log claim.id).map (·.journal)) claim.id claim.checksum =
      .ok () := by
    rw [hid, hget, hchecksum, ← hsame]
    exact assertDataPatchChecksumMatches_same _ _
  have hclaimed : InMemoryDataPatchLog.claimDataPatchRollback log claim = .ok (.claimed claim, Record.set log patch.id
      (.rollbackPending { applied with rollbackClaimedAt := claim.claimedAt } claim.claimId)) := by
    unfold InMemoryDataPatchLog.claimDataPatchRollback
    rw [hclaimable, hid, hget]
    rfl
  simp only [exec, hclaimed] at hexec
  obtain ⟨rfl, rfl⟩ := Prod.mk.inj hexec
  apply comes_ofExcept
  refine h _ ?_ (put_set hlog hkey rfl)
  rw [HoldsRollback, Record.get_set, if_pos rfl]
  exact ⟨_, rfl, hsame⟩

theorem comes_retryFailedDataPatchRollback {Q : Except PatchError ClaimDataPatch → InMemoryDataPatchLog → Prop}
    (hlog : LogOK log) (hid : claim.id = patch.id) (hchecksum : claim.checksum = patch.checksum)
    (hcan : CanRetryRollback log patch)
    (h : ∀ log', HoldsRollback log' patch claim → Put log patch.id .rollbackPending log' → Q (.ok claim) log') :
    Program.Comes exec (retryFailedDataPatchRollback claim) Q log := by
  obtain ⟨_, failed, holder, hget, hsame⟩ := hcan
  apply comes_then
  apply comes_perform
  intro reply log' hexec
  have hretryable : assertRetryableRollbackFailedJournal ((Record.get log claim.id).map (·.journal)) claim.id
      claim.checksum = .ok () := by
    rw [hid, hget, hchecksum, ← hsame]
    simp only [Option.map_some, assertRetryableRollbackFailedJournal, InMemoryDataPatchEntry.journal,
      assertDataPatchChecksumMatches_same]
    rfl
  have hclaimed : InMemoryDataPatchLog.retryFailedDataPatchRollback log claim = .ok (claim, Record.set log claim.id
      (.rollbackPending { id := claim.id, checksum := claim.checksum, appliedAt := failed.appliedAt
                          result := failed.result, rollbackClaimedAt := claim.claimedAt } claim.claimId)) := by
    unfold InMemoryDataPatchLog.retryFailedDataPatchRollback
    rw [hretryable, hid, hget]
    rfl
  simp only [exec, hclaimed] at hexec
  obtain ⟨rfl, rfl⟩ := Prod.mk.inj hexec
  apply comes_ofExcept
  rw [hid]
  refine h _ ?_ (put_set hlog rfl rfl)
  rw [HoldsRollback, Record.get_set, if_pos rfl]
  exact ⟨_, rfl, hchecksum⟩

/-- **The patches that can be rolled back are gone through.** -/
theorem comes_rollbackFrom {todo : List DataPatchDefinition} {acc : DataPatchRollbackRunResult} (hlog : LogOK log)
    (hnodup : (order todo).Nodup) (hcan : ∀ patch ∈ todo, CanRollBack log patch) :
    Program.Comes exec (rollbackFrom acc todo)
      (fun result log' => ∃ attempted, result.map rolledBackIds = attempted.map (rolledBackIds acc ++ ·) ∧
        AsPlanned .rollback log log' (.ok (order todo)) attempted) log := by
  induction todo generalizing acc log with
  | nil => exact ⟨.ok [], by rw [Except.map, Except.map, List.append_nil], .all .nil⟩
  | cons patch todo ih =>
    obtain ⟨hnew, hnodup'⟩ := List.nodup_cons.mp hnodup
    have hfirst : CanRollBack log patch := hcan patch List.mem_cons_self
    have hdeclared : patch.rollback = true := hfirst.1
    have hready : statusOf log patch.id = Course.rollback.ready := by
      obtain ⟨_, applied, hget, _⟩ := hfirst
      rw [statusOf, hget]
      rfl
    unfold rollbackFrom
    apply comes_then
    apply comes_ofExcept
    rw [hdeclared]
    apply comes_then
    apply comes_newClaim
    intro claim hid hchecksum
    apply comes_then
    apply comes_claimDataPatchRollback hlog hid hchecksum hfirst
    intro log₁ hholds hclaimed
    apply comes_then
    apply comes_ofExcept
    apply comes_then
    apply comes_rollbackClaimedPatch hclaimed.ok hdeclared hholds
    · intro record log₂ hrecord hput
      have hmoved : Moved .rollback [patch.id] log log₂ := (hclaimed.trans hput).moved hready
      -- only this patch has changed, so the others can still be rolled back
      have hcan₂ : ∀ other ∈ todo, CanRollBack log₂ other := by
        intro other hother
        have hne : other.id ≠ patch.id := fun heq => hnew (List.mem_map.mpr ⟨other, hother, heq⟩)
        obtain ⟨hdeclared', applied', hget', hsame'⟩ := hcan other (List.mem_cons_of_mem _ hother)
        exact ⟨hdeclared', applied', ((hclaimed.trans hput).others _ hne).trans hget', hsame'⟩
      rw [onward_ok]
      apply (ih hput.ok hnodup' hcan₂).mono
      rintro result log' ⟨attempted, hresult, hplanned⟩
      refine ⟨attempted.map (patch.id :: ·), ?_, hplanned.cons hmoved⟩
      rw [hresult]
      cases attempted with
      | error error => rfl
      | ok ids => simp [Except.map, rolledBackIds, hrecord]
    · intro error log₂ hput
      exact ⟨.error error, rfl, .stoppedFirst ((hclaimed.trans hput).stuck hready)⟩

theorem comes_rollback {todo : List DataPatchDefinition} (hlog : LogOK log)
    (hplanned : normalizeDataPatchDefinitions todo = .ok todo) (hcan : ∀ patch ∈ todo, CanRollBack log patch) :
    Program.Comes exec (DataPatchRunner.rollback todo)
      (fun result log' => AsPlanned .rollback log log' (.ok (order todo)) (result.map rolledBackIds)) log := by
  have hnodup : (order todo).Nodup := (normalizeDataPatchDefinitions_ok hplanned).2
  apply comes_then
  apply comes_ofExcept
  rw [hplanned]
  apply (comes_rollbackFrom hlog hnodup hcan).mono
  rintro result log' ⟨attempted, hresult, has⟩
  have hsame : attempted.map (rolledBackIds { rolledBack := [], skipped := [] } ++ ·) = attempted := by
    cases attempted <;> rfl
  rwa [hresult, hsame]

theorem comes_retryRollbackFailed (hlog : LogOK log) (hdefined : defineDataPatch patch = .ok patch)
    (hcan : CanRetryRollback log patch) :
    Program.Comes exec (DataPatchRunner.retryRollbackFailed patch)
      (fun result log' => AsPlanned .rollbackRetry log log' (.ok [patch.id]) (result.map rolledBackIds)) log := by
  have hready : statusOf log patch.id = Course.rollbackRetry.ready := by
    obtain ⟨_, failed, holder, hget, _⟩ := hcan
    rw [statusOf, hget]
    rfl
  apply comes_then
  apply comes_ofExcept
  rw [normalizeSingleDataPatchDefinition, hdefined]
  apply comes_then
  apply comes_ofExcept
  rw [hcan.1]
  apply comes_then
  apply comes_newClaim
  intro claim hid hchecksum
  apply comes_then
  apply comes_retryFailedDataPatchRollback hlog hid hchecksum hcan
  intro log₁ hholds hclaimed
  apply comes_then
  apply comes_rollbackClaimedPatch hclaimed.ok hcan.1 hholds
  · intro record log₂ hrecord hput
    have hids : rolledBackIds { rolledBack := [record], skipped := [] } = [patch.id] := by
      rw [rolledBackIds, List.map_singleton, hrecord]
    rw [onward_ok]
    apply comes_pure
    rw [Except.map, hids]
    exact .all ((hclaimed.trans hput).moved hready)
  · intro error log₂ hput
    exact .stoppedFirst ((hclaimed.trans hput).stuck hready)

/-! ## What a service plans -/

section Service

variable (service : DataPatchService)

/-- What is selected for an apply, as the listing has it. -/
def selection (patchIds : Option (List JsString)) (byId : Record JsString RecordedDataPatch) :
    Except FrameworkError (List DataPatchDefinition) := do
  let selected ← selectDataPatches service.patches patchIds
  if patchIds.isSome then do
    assertSelectedDataPatchPredecessorsApplied service.patches selected byId
    return selected
  else return selected

/-- The pending ones of what is selected. -/
def applyPlan (options : DataPatchOptions) (byId : Record JsString RecordedDataPatch) :
    Except FrameworkError (List DataPatchDefinition) := do
  assertDataPatchApplyLimit options.limit
  let selected ← selection service options.patchIds byId
  let pending ← pendingFrom byId selected
  return dataPatchApplyPlanSelection pending options.limit

/-- The patches that an apply goes along without having looked at them before: what is selected, where nothing else
refuses the apply and no limit makes it look up the pending ones first. -/
def unseenSelection (actor : Actor) (options : DataPatchOptions) (byId : Record JsString RecordedDataPatch) :
    Option (List DataPatchDefinition) :=
  if options.limit.isSome then none
  else (do
    planDataPatchAdministrationAccess actor service.adminRoles
    selection service options.patchIds byId).toOption

def rollbackPlan (options : DataPatchOptions) (byId : Record JsString RecordedDataPatch) :
    Except FrameworkError (List DataPatchDefinition) := do
  assertDataPatchApplyLimit options.limit
  match options.patchIds with
  | some patchIds => do
      let selected ← selectDataPatches service.patches (some patchIds)
      planSelectedDataPatchRollback service.patches selected options.limit byId
  | none => planAutomaticDataPatchRollback service.patches options.limit byId

def rollbackRetryPlan (patchId : JsString) (byId : Record JsString RecordedDataPatch) :
    Except FrameworkError DataPatchDefinition := do
  let patch ← selectDataPatch service.patches patchId
  assertDataPatchRollbackRetryableWithSuccessors service.patches patch byId
  return patch

variable {service} {options : DataPatchOptions} {selected plan : List DataPatchDefinition}

theorem selection_selected {byId : Record JsString RecordedDataPatch}
    (h : selection service patchIds byId = .ok selected) :
    selectDataPatches service.patches patchIds = .ok selected := by
  obtain ⟨chosen, hchosen, hselected⟩ := except_bind_eq_ok h
  cases patchIds with
  | none =>
    obtain rfl := Except.ok.inj hselected
    exact hchosen
  | some patchIds =>
    obtain ⟨_, _, hsame⟩ := except_bind_eq_ok hselected
    obtain rfl := Except.ok.inj hsame
    exact hchosen

theorem selection_part {byId : Record JsString RecordedDataPatch} (h : selection service patchIds byId = .ok selected) :
    selected.Sublist service.patches := by
  obtain ⟨p, rfl⟩ := selectDataPatches_ok (selection_selected h)
  exact List.filter_sublist

/-- Every declared patch is well defined. -/
theorem defined_of_normalized {seen : List JsString} {patches planned : List DataPatchDefinition}
    (h : normalizeDataPatchDefinitionsFrom seen patches = .ok planned) :
    ∀ patch ∈ patches, defineDataPatch patch = .ok patch := by
  induction patches generalizing seen planned with
  | nil => exact fun _ hpatch => absurd hpatch List.not_mem_nil
  | cons first patches ih =>
    obtain ⟨definition, hdefinition, hdefined⟩ := except_bind_eq_ok h
    obtain ⟨_, _, hunseen⟩ := except_bind_eq_ok hdefined
    obtain ⟨rest, hrest, _⟩ := except_bind_eq_ok hunseen
    intro patch hpatch
    rcases List.mem_cons.mp hpatch with rfl | hpatch
    · rw [hdefinition, defineDataPatch_ok hdefinition]
    · exact ih hrest patch hpatch

theorem normalized_of_defined {seen : List JsString} {patches : List DataPatchDefinition}
    (hdefined : ∀ patch ∈ patches, defineDataPatch patch = .ok patch) (hnodup : (order patches).Nodup)
    (hseen : ∀ id ∈ order patches, id ∉ seen) : normalizeDataPatchDefinitionsFrom seen patches = .ok patches := by
  induction patches generalizing seen with
  | nil => rfl
  | cons patch patches ih =>
    obtain ⟨hnew, hnodup'⟩ := List.nodup_cons.mp hnodup
    have hrest : normalizeDataPatchDefinitionsFrom (patch.id :: seen) patches = .ok patches := by
      apply ih (fun other hother => hdefined other (List.mem_cons_of_mem _ hother)) hnodup'
      intro id hid hmem
      rcases List.mem_cons.mp hmem with rfl | hmem
      · exact hnew hid
      · exact hseen id (List.mem_cons_of_mem _ hid) hmem
    have hunseen : seen.contains patch.id = false := by
      simpa using hseen patch.id List.mem_cons_self
    rw [normalizeDataPatchDefinitionsFrom, hdefined patch List.mem_cons_self]
    simp only [bind, Except.bind, hunseen, Bool.not_false, ensure, hrest]
    rfl

/-- **What a service passes to the runner** is well defined. -/
theorem normalized_of_part {patches : List DataPatchDefinition} (hpart : ∀ patch ∈ patches, patch ∈ service.patches)
    (hnodup : (order patches).Nodup) : normalizeDataPatchDefinitions patches = .ok patches := by
  apply normalized_of_defined _ hnodup (fun _ _ => List.not_mem_nil)
  exact fun patch hpatch => defined_of_normalized service.declared patch (hpart patch hpatch)

theorem normalized_of_sublist (h : selected.Sublist service.patches) :
    normalizeDataPatchDefinitions selected = .ok selected :=
  normalized_of_part (fun _ hpatch => h.subset hpatch) (service.distinct.sublist (h.map _))

/-! ### The plans that are read -/

theorem reads_selectedForApply (hlog : LogOK log) :
    Reads log (service.selectedForApply patchIds) (selection service patchIds (listing log)) := by
  apply reads_then reads_checked
  intro selected _
  cases patchIds with
  | none => exact reads_pure
  | some patchIds =>
    apply reads_then
    · apply reads_recordedById hlog
      intro byId hlisted
      rw [assertSelectedDataPatchPredecessorsApplied,
        assertPredecessorsAppliedFrom_congr (listed_get_eq hlisted (listed_listing hlog))]
      exact reads_checked
    · exact fun _ _ => reads_pure

theorem reads_pendingPatches (hlog : LogOK log) (hnormalized : normalizeDataPatchDefinitions selected = .ok selected) :
    Reads log (pendingPatches selected) (pendingFrom (listing log) selected) := by
  have hreads : Reads log (pendingPatches selected)
      (normalizeDataPatchDefinitions selected >>= pendingFrom (listing log)) := by
    apply reads_then reads_checked
    intro planned _
    apply reads_recordedById hlog
    intro byId hlisted
    rw [pendingFrom_congr (fun id _ => listed_get_eq hlisted (listed_listing hlog) id)]
    exact reads_checked
  rwa [hnormalized] at hreads

theorem reads_patchesForPlan (hlog : LogOK log) :
    Reads log (service.patchesForPlan options) (applyPlan service options (listing log)) := by
  apply reads_then reads_checked
  intro _ _
  apply reads_then (reads_selectedForApply hlog)
  intro selected hselected
  apply reads_then (reads_pendingPatches hlog (normalized_of_sublist (selection_part hselected)))
  exact fun _ _ => reads_pure

theorem reads_patchesForRollbackPlan (hlog : LogOK log) :
    Reads log (service.patchesForRollbackPlan options) (rollbackPlan service options (listing log)) := by
  apply reads_then reads_checked
  intro _ _
  apply reads_recordedById hlog
  intro byId hlisted
  have hget := listed_get_eq hlisted (listed_listing hlog)
  cases options.patchIds with
  | none =>
    rw [planAutomaticDataPatchRollback, planAutomaticFrom_congr hget]
    exact reads_checked
  | some patchIds =>
    apply reads_then reads_checked
    intro selected _
    rw [planSelectedDataPatchRollback_congr hget]
    exact reads_checked

theorem reads_patchForRollbackRetry (hlog : LogOK log) :
    Reads log (service.patchForRollbackRetry patchId) (rollbackRetryPlan service patchId (listing log)) := by
  apply reads_then reads_checked
  intro patch _
  apply reads_recordedById hlog
  intro byId hlisted
  have hget := listed_get_eq hlisted (listed_listing hlog)
  rw [assertDataPatchRollbackRetryableWithSuccessors, hget, assertSuccessorsRolledBack_congr hget]
  apply reads_then reads_checked
  exact fun _ _ => reads_pure

/-! ### What may be rolled back -/

/-- The patches of a plan for a rollback. -/
structure RollbackReady (patches plan : List DataPatchDefinition) (log : InMemoryDataPatchLog) : Prop where
  part : plan.Sublist patches
  ready : ∀ patch ∈ plan, CanRollBack log patch

/-- A recorded patch that a check has found to be applied, with its checksum. -/
theorem canRollBack_of_recorded (hget : Record.get (listing log) patch.id = some recorded) (hlog : LogOK log)
    (hdeclared : patch.rollback = true) (hchecksum : patch.checksum = recorded.journal.checksum)
    (hstatus : recorded.journal.status = .applied) :
    CanRollBack log patch := by
  rw [listed_listing hlog] at hget
  obtain ⟨entry, hentry, rfl⟩ := Option.map_eq_some_iff.mp hget
  rw [record_journal] at hchecksum hstatus
  cases entry with
  | applied applied => exact ⟨hdeclared, applied, hentry, hchecksum.symm⟩
  | _ => cases hstatus

theorem canRollBack_of_selected (hlog : LogOK log)
    (h : assertSelectedDataPatchRollbackable patch (Record.get (listing log) patch.id) = .ok ()) :
    CanRollBack log patch := by
  cases hget : Record.get (listing log) patch.id with
  | none =>
    rw [hget] at h
    cases h
  | some recorded =>
    rw [hget] at h
    obtain ⟨_, hchecksum, hsettled⟩ := except_bind_eq_ok h
    obtain ⟨_, hready, hrolledBack⟩ := except_bind_eq_ok hsettled
    obtain ⟨_, hstatus, hdeclared⟩ := except_bind_eq_ok hrolledBack
    have hnot : recorded.journal.status ≠ .rolledBack := of_decide_eq_true (ensure_eq_ok hstatus)
    have happlied : recorded.journal.status = .applied := (settled_ok hready).resolve_right hnot
    exact canRollBack_of_recorded hget hlog (ensure_eq_ok hdeclared) (assertDataPatchChecksumMatches_ok hchecksum)
      happlied

theorem canRetryRollback_of_retryable (hlog : LogOK log)
    (h : assertDataPatchRollbackRetryable patch (Record.get (listing log) patch.id) = .ok ()) :
    CanRetryRollback log patch := by
  cases hget : Record.get (listing log) patch.id with
  | none =>
    rw [hget] at h
    cases h
  | some recorded =>
    rw [hget] at h
    obtain ⟨_, hchecksum, hstatus⟩ := except_bind_eq_ok h
    have hsame := assertDataPatchChecksumMatches_ok hchecksum
    rw [listed_listing hlog] at hget
    obtain ⟨entry, hentry, rfl⟩ := Option.map_eq_some_iff.mp hget
    rw [record_journal] at hsame
    cases entry with
    | rollbackFailed failed holder => exact ⟨ensure_eq_ok hstatus, failed, holder, hentry, hsame.symm⟩
    | _ => cases hstatus

theorem sliceTo_sublist {limit : Option Rat} (patches : List DataPatchDefinition) :
    (sliceTo limit patches).Sublist patches := by
  cases limit with
  | none => exact List.Sublist.refl _
  | some limit => exact List.take_sublist _ _

theorem rollbackReady_automatic {limit : Option Rat} {taken : Nat} {patches : List DataPatchDefinition}
    (hlog : LogOK log) (h : planAutomaticDataPatchRollbackFrom limit (listing log) taken patches = .ok plan) :
    RollbackReady patches plan log := by
  induction patches generalizing taken plan with
  | nil =>
    obtain rfl := Except.ok.inj h
    exact ⟨List.Sublist.refl _, fun _ hpatch => absurd hpatch List.not_mem_nil⟩
  | cons patch patches ih =>
    obtain ⟨decision, hdecision, hplan⟩ := except_bind_eq_ok h
    cases decision with
    | skip =>
      have hrest := ih hplan
      exact ⟨hrest.part.cons _, hrest.ready⟩
    | stop =>
      obtain rfl := Except.ok.inj hplan
      exact ⟨List.nil_sublist _, fun _ hpatch => absurd hpatch List.not_mem_nil⟩
    | included =>
      -- a patch is included only if it is applied as it is declared
      have hcan : CanRollBack log patch := by
        cases hget : Record.get (listing log) patch.id with
        | none =>
          rw [hget] at hdecision
          cases hdecision
        | some recorded =>
          rw [hget] at hdecision
          obtain ⟨_, hchecksum, hsettled⟩ := except_bind_eq_ok hdecision
          obtain ⟨_, hready, hincluded⟩ := except_bind_eq_ok hsettled
          have hincluded' := Except.ok.inj hincluded
          split_ifs at hincluded' with hrolledBack hdeclared
          exact canRollBack_of_recorded hget hlog hdeclared (assertDataPatchChecksumMatches_ok hchecksum)
            ((settled_ok hready).resolve_right hrolledBack)
      split_ifs at hplan
      · obtain rfl := Except.ok.inj hplan
        refine ⟨(List.nil_sublist _).cons_cons _, ?_⟩
        intro other hother
        rwa [List.mem_singleton.mp hother]
      · obtain ⟨rest, hrest, hcons⟩ := except_bind_eq_ok hplan
        obtain rfl := Except.ok.inj hcons
        have hready := ih hrest
        refine ⟨hready.part.cons_cons _, ?_⟩
        intro other hother
        rcases List.mem_cons.mp hother with rfl | hother
        · exact hcan
        · exact hready.ready other hother

/-- **What is planned to be rolled back can be**, from the last patch to the first. -/
theorem rollbackPlan_ok (hlog : LogOK log) (h : rollbackPlan service options (listing log) = .ok plan) :
    RollbackReady service.patches.reverse plan log := by
  obtain ⟨_, _, hplan⟩ := except_bind_eq_ok h
  cases hids : options.patchIds with
  | none =>
    rw [hids] at hplan
    exact rollbackReady_automatic hlog hplan
  | some patchIds =>
    rw [hids] at hplan
    obtain ⟨selected, hselected, hplanned⟩ := except_bind_eq_ok hplan
    obtain ⟨_, hchecked, hsuccessors⟩ := except_bind_eq_ok hplanned
    obtain ⟨_, _, hslice⟩ := except_bind_eq_ok hsuccessors
    obtain rfl := Except.ok.inj hslice
    obtain ⟨p, rfl⟩ := selectDataPatches_ok hselected
    refine ⟨(sliceTo_sublist _).trans List.filter_sublist.reverse, ?_⟩
    intro patch hpatch
    have hmem := List.mem_reverse.mp ((sliceTo_sublist _).subset hpatch)
    exact canRollBack_of_selected hlog (forM_ok hchecked patch hmem)

/-! ### Plans and operations -/

/-- The plan is what is read, and the log is left as it is. -/
theorem reads_planApply (hlog : LogOK log) :
    Reads log (service.planApply actor options) (do
      planDataPatchAdministrationAccess actor service.adminRoles
      let plan ← applyPlan service options (listing log)
      return { patchIds := plan.map (·.id), requestedPatchIds := options.patchIds, limit := options.limit }) := by
  apply reads_then reads_checked
  intro _ _
  apply reads_then (reads_patchesForPlan hlog)
  exact fun _ _ => reads_pure

theorem reads_planRollback (hlog : LogOK log) :
    Reads log (service.planRollback actor options) (do
      planDataPatchAdministrationAccess actor service.adminRoles
      let plan ← rollbackPlan service options (listing log)
      return { patchIds := plan.map (·.id), requestedPatchIds := options.patchIds, limit := options.limit }) := by
  apply reads_then reads_checked
  intro _ _
  apply reads_then (reads_patchesForRollbackPlan hlog)
  exact fun _ _ => reads_pure

theorem reads_planRollbackRetry (hlog : LogOK log) :
    Reads log (service.planRollbackRetry actor patchId) (do
      planDataPatchAdministrationAccess actor service.adminRoles
      let patch ← rollbackRetryPlan service patchId (listing log)
      return patch.id) := by
  apply reads_then reads_checked
  intro _ _
  apply reads_then (reads_patchForRollbackRetry hlog)
  exact fun _ _ => reads_pure

/-- A plan that comes to an end. -/
theorem Reads.ends {p : PatchProgram α} {x : Except FrameworkError α} {result : Except PatchError α} (h : Reads log p x)
    (hends : Program.Ends exec log p result log') : result = x.mapError .framework ∧ log' = log :=
  (h (fun result log' => result = x.mapError .framework ∧ log' = log) ⟨rfl, rfl⟩).of_ends hends

/-- **What is selected is applied as its pending patches are planned**, with a limit or without. -/
theorem comes_applySelected {limit : Option Rat} (hlog : LogOK log) (hpart : selected.Sublist service.patches) :
    Program.Comes exec
      (if limit.isSome then do
        let pending ← pendingPatches selected
        return dataPatchApplyRunSelection selected pending limit
      else return dataPatchApplyRunSelection selected [] limit)
      (Program.Onward exec DataPatchRunner.apply (fun result log' => ApplyAsPlanned (if limit.isSome then none else some selected)
        log log' (planIds ((pendingFrom (listing log) selected).map (dataPatchApplyPlanSelection · limit)))
        (result.map appliedIds))) log := by
  have hnormalized := normalized_of_sublist hpart
  cases limit with
  | none =>
    -- everything selected is gone through
    have hwhole : (pendingFrom (listing log) selected).map (dataPatchApplyPlanSelection · none) =
        pendingFrom (listing log) selected := by
      cases pendingFrom (listing log) selected <;> rfl
    rw [hwhole]
    exact comes_apply hlog hnormalized
  | some limit =>
    apply comes_then
    apply reads_pendingPatches hlog hnormalized
    cases hpending : pendingFrom (listing log) selected with
    | error error => exact AsPlanned.refused rfl
    | ok pending =>
      obtain ⟨hfilter, _⟩ := pendingFrom_ok hpending
      have hslice : (sliceTo (some limit) pending).Sublist selected := by
        rw [hfilter]
        exact (sliceTo_sublist _).trans List.filter_sublist
      have hunrecorded : ∀ patch ∈ sliceTo (some limit) pending, Record.get (listing log) patch.id = none := by
        intro patch hpatch
        have hmem := (sliceTo_sublist _).subset hpatch
        rw [hfilter] at hmem
        exact Option.isNone_iff_eq_none.mp (List.mem_filter.mp hmem).2
      have happly := comes_apply hlog (normalized_of_sublist (hslice.trans hpart))
      rw [pendingFrom_unrecorded hunrecorded] at happly
      exact happly.mono (fun _ _ hgone => hgone.of_ok)

/-- An apply that is refused before it has selected anything. -/
theorem ApplyAsPlanned.refused {limit : Option Rat} {error : PatchError} :
    ApplyAsPlanned (if limit.isSome then none else none) log log (.error error) (.error error) := by
  rw [ite_self]
  exact AsPlanned.refused rfl

/-- **An apply goes along its plan.** -/
theorem comes_service_apply (hlog : LogOK log) :
    Program.Comes exec (service.apply actor options)
      (fun result log' => ApplyAsPlanned (unseenSelection service actor options (listing log)) log log'
        (planIds (planDataPatchAdministrationAccess actor service.adminRoles >>= fun _ =>
          applyPlan service options (listing log))) (result.map appliedIds)) log := by
  unfold unseenSelection
  apply comes_then
  apply comes_ofExcept
  cases planDataPatchAdministrationAccess actor service.adminRoles with
  | error error => exact ApplyAsPlanned.refused
  | ok _ =>
    unfold applyPlan
    apply comes_then
    apply comes_then
    apply comes_ofExcept
    cases hlimit : assertDataPatchApplyLimit options.limit with
    | error error =>
      cases hgiven : options.limit with
      | none =>
        rw [hgiven] at hlimit
        cases hlimit
      | some limit => exact AsPlanned.refused rfl
    | ok _ =>
      apply comes_then
      apply reads_selectedForApply hlog
      cases hselected : selection service options.patchIds (listing log) with
      | error error => exact ApplyAsPlanned.refused
      | ok selected => exact comes_applySelected hlog (selection_part hselected)

/-- **A rollback goes along its plan.** -/
theorem comes_service_rollback (hlog : LogOK log) :
    Program.Comes exec (service.rollback actor options)
      (fun result log' => AsPlanned .rollback log log'
        (planIds (planDataPatchAdministrationAccess actor service.adminRoles >>= fun _ =>
          rollbackPlan service options (listing log))) (result.map rolledBackIds)) log := by
  apply comes_then
  apply comes_ofExcept
  cases planDataPatchAdministrationAccess actor service.adminRoles with
  | error error => exact .refused rfl
  | ok _ =>
    apply comes_then
    apply reads_patchesForRollbackPlan hlog
    show Program.Onward exec _ (fun result log' => AsPlanned .rollback log log'
      (planIds (rollbackPlan service options (listing log))) (result.map rolledBackIds)) _ log
    cases hplan : rollbackPlan service options (listing log) with
    | error error => exact .refused rfl
    | ok plan =>
      have hready := rollbackPlan_ok hlog hplan
      have hnodup : (order plan).Nodup := by
        have hreversed : (order service.patches.reverse).Nodup := by
          rw [order_reverse, List.nodup_reverse]
          exact service.distinct
        exact hreversed.sublist (hready.part.map _)
      have hmem : ∀ patch ∈ plan, patch ∈ service.patches :=
        fun patch hpatch => List.mem_reverse.mp (hready.part.subset hpatch)
      exact comes_rollback hlog (normalized_of_part hmem hnodup) hready.ready

/-- **A retried rollback goes along its plan.** -/
theorem comes_service_retryRollbackFailed (hlog : LogOK log) :
    Program.Comes exec (service.retryRollbackFailed actor patchId)
      (fun result log' => AsPlanned .rollbackRetry log log'
        (planIds (planDataPatchAdministrationAccess actor service.adminRoles >>= fun _ =>
          (rollbackRetryPlan service patchId (listing log)).map ([·]))) (result.map rolledBackIds)) log := by
  apply comes_then
  apply comes_ofExcept
  cases planDataPatchAdministrationAccess actor service.adminRoles with
  | error error => exact .refused rfl
  | ok _ =>
    apply comes_then
    apply reads_patchForRollbackRetry hlog
    show Program.Onward exec _ (fun result log' => AsPlanned .rollbackRetry log log'
      (planIds ((rollbackRetryPlan service patchId (listing log)).map ([·]))) (result.map rolledBackIds)) _ log
    cases hplan : rollbackRetryPlan service patchId (listing log) with
    | error error => exact .refused rfl
    | ok patch =>
      obtain ⟨chosen, hchosen, hchecked⟩ := except_bind_eq_ok hplan
      obtain ⟨_, hretryable, hsame⟩ := except_bind_eq_ok hchecked
      obtain rfl := Except.ok.inj hsame
      obtain ⟨_, hcan, _⟩ := except_bind_eq_ok hretryable
      have hdefined := defined_of_normalized service.declared chosen (selectDataPatch_ok hchosen)
      exact comes_retryRollbackFailed hlog hdefined (canRetryRollback_of_retryable hlog hcan)

/-- The ids of a plan that is read. -/
theorem planIds_read (access : Except FrameworkError Unit) (plan : Except FrameworkError (List DataPatchDefinition)) :
    (Except.mapError .framework (do
      access
      let plan ← plan
      return { patchIds := plan.map (·.id), requestedPatchIds := options.patchIds, limit := options.limit })).map
        DataPatchPlan.patchIds = planIds (access >>= fun _ => plan) := by
  cases access <;> cases plan <;> rfl

theorem planIds_readRetry (access : Except FrameworkError Unit) (plan : Except FrameworkError DataPatchDefinition) :
    (Except.mapError .framework (do
      access
      let patch ← plan
      return patch.id)).map ([·]) = planIds (access >>= fun _ => plan.map ([·])) := by
  cases access <;> cases plan <;> rfl

end Service

/-- The second patch has failed before. -/
def secondFailedLog : InMemoryDataPatchLog :=
  [(js "p2", .failed { id := js "p2", checksum := js "b", failedAt := js "2026-01-01T00:00:00.000Z", error := js "busy" }
    (js "claim"))]

theorem logOK_of_entries (log : InMemoryDataPatchLog) (hnodup : (Record.keys log).Nodup)
    (hkeyed : ∀ e ∈ log, e.2.journal.id = e.1) : LogOK log :=
  ⟨hnodup, fun id entry hget => hkeyed (id, entry) (Record.mem_of_get hget)⟩

section Service

variable {service : DataPatchService} {log : InMemoryDataPatchLog}

end Service

namespace RollbackLogs

def applied (id checksum : JsString) : AppliedDataPatch :=
  { id, checksum, appliedAt := js "2026-01-01T00:00:00.000Z" }

/-- Both patches are applied. -/
def bothApplied : InMemoryDataPatchLog :=
  [(js "p1", .applied (applied (js "p1") (js "a"))), (js "p2", .applied (applied (js "p2") (js "b")))]

/-- The rollback of the second patch has failed. -/
def secondFailed : InMemoryDataPatchLog :=
  [(js "p1", .applied (applied (js "p1") (js "a"))),
    (js "p2", .rollbackFailed
      { applied (js "p2") (js "b") with
        rollbackFailedAt := js "2026-01-02T00:00:00.000Z", rollbackError := js "busy" }
      (js "claim"))]

theorem bothApplied_ok : LogOK bothApplied := logOK_of_entries _ (by decide +kernel) (by decide +kernel)

theorem secondFailed_ok : LogOK secondFailed := logOK_of_entries _ (by decide +kernel) (by decide +kernel)

end RollbackLogs

section

open TwoPatches

end

end DataPatchPlans
