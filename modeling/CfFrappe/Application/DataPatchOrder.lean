import CfFrappe.Application.DataPatchService
import CfFrappe.Lib.InOrder
import CfFrappe.Lib.Record

set_option autoImplicit false

/-! # The order of data patches

What the policies let through is ready in the declared order: of what is to be applied everything earlier is applied
or to be applied as well, and of what is to be rolled back everything later is unrecorded, rolled back or to be rolled
back as well.
-/

namespace DataPatchOrder

open InOrder

variable {patches selected pending plan : List DataPatchDefinition} {recordedById : Record JsString RecordedDataPatch}
  {limit : Option Rat}

/-- The ids in the order of the declarations. -/
def order (patches : List DataPatchDefinition) : List JsString := patches.map (·.id)

/-- A patch is recorded as applied. -/
def Applied (recordedById : Record JsString RecordedDataPatch) (id : JsString) : Prop :=
  ∃ recorded, Record.get recordedById id = some recorded ∧ recorded.journal.status = .applied

/-- A patch is unrecorded or rolled back. -/
def Away (recordedById : Record JsString RecordedDataPatch) (id : JsString) : Prop :=
  ∀ recorded, Record.get recordedById id = some recorded → recorded.journal.status = .rolledBack

theorem order_filter (p : JsString → Bool) :
    order (patches.filter (fun patch => p patch.id)) = (order patches).filter p := by
  rw [order, order, List.filter_map]
  rfl

theorem order_reverse : order patches.reverse = (order patches).reverse := List.map_reverse

/-- The beginning of what is ready is ready. -/
theorem ready_sliceTo {ids : List JsString} {done : JsString → Prop} (h : Ready ids done (order patches))
    (hnodup : ids.Nodup) : Ready ids done (order (sliceTo limit patches)) := by
  cases limit with
  | none => exact h
  | some limit =>
    have htake : order (sliceTo (some limit) patches) = (order patches).take limit.num.toNat := List.map_take
    rw [htake]
    exact h.take hnodup _

/-- `for (const patch of patches) check(patch)` has come to its end. -/
theorem forM_ok {check : DataPatchDefinition → Except FrameworkError Unit} (h : patches.forM check = .ok ()) :
    ∀ patch ∈ patches, check patch = .ok () := by
  induction patches with
  | nil => exact fun _ hpatch => absurd hpatch List.not_mem_nil
  | cons first patches ih =>
    obtain ⟨_, hfirst, hrest⟩ := except_bind_eq_ok h
    intro patch hpatch
    rcases List.mem_cons.mp hpatch with rfl | hpatch
    · exact hfirst
    · exact ih hrest patch hpatch

/-! ## Selections -/

theorem selectDataPatches_ok {patchIds : Option (List JsString)} (h : selectDataPatches patches patchIds = .ok selected) :
    ∃ p : JsString → Bool, selected = patches.filter (fun patch => p patch.id) := by
  cases patchIds with
  | none =>
    obtain rfl := Except.ok.inj h
    exact ⟨fun _ => true, by simp⟩
  | some patchIds =>
    obtain ⟨_, _, hsome⟩ := except_bind_eq_ok h
    obtain ⟨_, _, hids⟩ := except_bind_eq_ok hsome
    refine ⟨patchIds.contains, ?_⟩
    dsimp only at hids
    split at hids
    · cases hids
    · exact (Except.ok.inj hids).symm

theorem selectDataPatch_ok {patchId : JsString} {patch : DataPatchDefinition}
    (h : selectDataPatch patches patchId = .ok patch) : patch ∈ patches := by
  obtain ⟨selected, hselected, hfirst⟩ := except_bind_eq_ok h
  obtain ⟨p, rfl⟩ := selectDataPatches_ok hselected
  split at hfirst
  · rename_i first rest hcons
    obtain rfl := Except.ok.inj hfirst
    have hmem : first ∈ patches.filter (fun patch => p patch.id) := hcons ▸ List.mem_cons_self
    exact List.mem_of_mem_filter hmem
  · cases hfirst

/-! ## Applying -/

theorem allowsApplySkip_ok {patch : DataPatchDefinition} {recorded : RecordedDataPatch} {applied : AppliedDataPatch}
    (h : assertRecordedDataPatchAllowsApplySkip patch recorded = .ok applied) : recorded = .applied applied := by
  cases recorded with
  | applied recorded =>
    obtain ⟨_, _, hrecorded⟩ := except_bind_eq_ok h
    rw [Except.ok.inj hrecorded]
  | pending recorded | rollbackPending recorded | rollbackFailed recorded | rolledBack recorded | failed recorded =>
    obtain ⟨_, _, hrefused⟩ := except_bind_eq_ok h
    cases hrefused

/-- What is not pending is applied. -/
theorem pendingFrom_ok (h : DataPatchRunner.pendingFrom recordedById patches = .ok pending) :
    pending = patches.filter (fun patch => (Record.get recordedById patch.id).isNone) ∧
      ∀ id ∈ order patches, (Record.get recordedById id).isNone = false → Applied recordedById id := by
  induction patches generalizing pending with
  | nil =>
    obtain rfl := Except.ok.inj h
    exact ⟨rfl, fun _ hid => absurd hid List.not_mem_nil⟩
  | cons patch patches ih =>
    unfold DataPatchRunner.pendingFrom at h
    cases hrecorded : Record.get recordedById patch.id with
    | none =>
      rw [hrecorded] at h
      obtain ⟨rest, hrest, hcons⟩ := except_bind_eq_ok h
      obtain ⟨rfl, happlied⟩ := ih hrest
      obtain rfl := Except.ok.inj hcons
      refine ⟨by rw [List.filter_cons_of_pos (by rw [hrecorded]; rfl)], ?_⟩
      intro id hid hsome
      rcases List.mem_cons.mp hid with rfl | hid
      · rw [hrecorded] at hsome
        cases hsome
      · exact happlied id hid hsome
    | some recorded =>
      rw [hrecorded] at h
      obtain ⟨applied, hallowed, hrest⟩ := except_bind_eq_ok h
      obtain ⟨rfl, happlied⟩ := ih hrest
      obtain rfl := allowsApplySkip_ok hallowed
      refine ⟨by rw [List.filter_cons_of_neg (by rw [hrecorded]; exact Bool.false_ne_true)], ?_⟩
      intro id hid hsome
      rcases List.mem_cons.mp hid with rfl | hid
      · exact ⟨_, hrecorded, rfl⟩
      · exact happlied id hid hsome

/-- **What is pending of a ready selection is ready.** -/
theorem ready_pendingFrom {ids : List JsString} {done : JsString → Prop} (hready : Ready ids done (order selected))
    (hdone : ∀ id, Applied recordedById id → done id)
    (h : DataPatchRunner.pendingFrom recordedById selected = .ok pending) : Ready ids done (order pending) := by
  obtain ⟨rfl, happlied⟩ := pendingFrom_ok h
  rw [order_filter (fun id => (Record.get recordedById id).isNone)]
  exact hready.filter (fun id hid hsome => hdone id (happlied id hid hsome))

/-- While there is a blocker nothing is selected, and what is not selected before something that is, is applied. -/
theorem assertPredecessorsAppliedFrom_ok {selectedIds : List JsString} {blocker : Option DataPatchDefinition}
    (h : assertPredecessorsAppliedFrom selectedIds recordedById blocker patches = .ok ()) :
    (blocker.isSome → ∀ i ∈ order patches, i ∉ selectedIds) ∧
      ∀ i j, Before (order patches) j i → i ∈ selectedIds → j ∉ selectedIds → Applied recordedById j := by
  induction patches generalizing blocker with
  | nil => exact ⟨fun _ _ hi => absurd hi List.not_mem_nil, fun _ _ hbefore => absurd hbefore.left_mem List.not_mem_nil⟩
  | cons patch patches ih =>
    have hcons : order (patch :: patches) = patch.id :: order patches := rfl
    rw [hcons]
    unfold assertPredecessorsAppliedFrom at h
    by_cases hselected : patch.id ∈ selectedIds
    · rw [if_pos (List.contains_iff_mem.mpr hselected)] at h
      cases blocker with
      | some blocker => cases h
      | none =>
        refine ⟨fun hsome => absurd hsome Bool.false_ne_true, ?_⟩
        intro i j hbefore hi hj
        rcases before_cons.mp hbefore with hrest | ⟨rfl, _⟩
        · exact (ih h).2 i j hrest hi hj
        · exact absurd hselected hj
    · rw [if_neg (by simpa using hselected)] at h
      -- a patch that is not selected: once it blocks, no later patch is selected
      cases hrecorded : Record.get recordedById patch.id with
      | none =>
        rw [hrecorded] at h
        obtain ⟨hblocked, _⟩ := ih h
        have hnone : ∀ i ∈ patch.id :: order patches, i ∉ selectedIds := by
          intro i hi
          rcases List.mem_cons.mp hi with rfl | hi
          · exact hselected
          · exact hblocked rfl i hi
        exact ⟨fun _ => hnone, fun i j hbefore hi _ => absurd hi (hnone i hbefore.right_mem)⟩
      | some recorded =>
        rw [hrecorded] at h
        obtain ⟨_, _, hrest⟩ := except_bind_eq_ok h
        obtain ⟨hblocked, happlied⟩ := ih hrest
        have hblocker : (blocker.isSome ∨ recorded.journal.status ≠ .applied) →
            ∀ i ∈ patch.id :: order patches, i ∉ selectedIds := by
          intro hcase i hi
          rcases List.mem_cons.mp hi with rfl | hi
          · exact hselected
          · apply hblocked _ i hi
            rcases hcase with hsome | hstatus
            · split_ifs <;> simp [hsome]
            · rw [if_neg hstatus]
              rfl
        refine ⟨fun hsome => hblocker (Or.inl hsome), ?_⟩
        intro i j hbefore hi hj
        by_cases hstatus : recorded.journal.status = .applied
        · rcases before_cons.mp hbefore with hlater | ⟨rfl, _⟩
          · exact happlied i j hlater hi hj
          · exact ⟨recorded, hrecorded, hstatus⟩
        · exact absurd hi (hblocker (Or.inr hstatus) i hbefore.right_mem)

/-- **A selection that may be applied is ready.** -/
theorem ready_of_predecessorsApplied (hpart : selected.Sublist patches)
    (h : assertSelectedDataPatchPredecessorsApplied patches selected recordedById = .ok ()) :
    Ready (order patches) (Applied recordedById) (order selected) :=
  ⟨hpart.map _, fun i hi j hbefore hj => (assertPredecessorsAppliedFrom_ok h).2 i j hbefore hi hj⟩

/-! ## Rolling back -/

theorem settled_ok {id : JsString} {recorded : RecordedDataPatch} (h : assertDataPatchSettled id recorded = .ok ()) :
    recorded.journal.status = .applied ∨ recorded.journal.status = .rolledBack := by
  unfold assertDataPatchSettled at h
  cases hstatus : recorded.journal.status <;> simp [hstatus] at h ⊢

/-- **The automatic plan is ready** against the order it walks along. -/
theorem ready_planAutomaticFrom {taken : Nat} (hnodup : (order patches).Nodup)
    (h : planAutomaticDataPatchRollbackFrom limit recordedById taken patches = .ok plan) :
    Ready (order patches) (Away recordedById) (order plan) := by
  induction patches generalizing taken plan with
  | nil =>
    obtain rfl := Except.ok.inj h
    exact Ready.nil
  | cons patch patches ih =>
    obtain ⟨hnew, hnodup'⟩ := List.nodup_cons.mp hnodup
    obtain ⟨decision, hdecision, hplan⟩ := except_bind_eq_ok h
    cases decision with
    | skip =>
      apply (ih hnodup' hplan).skip
      intro recorded hrecorded
      rw [hrecorded] at hdecision
      obtain ⟨_, _, hready⟩ := except_bind_eq_ok hdecision
      obtain ⟨_, _, hskip⟩ := except_bind_eq_ok hready
      by_contra hstatus
      have hskip' := Except.ok.inj hskip
      rw [if_neg hstatus] at hskip'
      split_ifs at hskip'
    | stop =>
      obtain rfl := Except.ok.inj hplan
      exact Ready.nil
    | included =>
      have hkeep : ∀ rest, Ready (order patches) (Away recordedById) (order rest) →
          Ready (order (patch :: patches)) (Away recordedById) (order (patch :: rest)) :=
        fun rest hrest => hrest.keep hnew
      split_ifs at hplan
      · obtain rfl := Except.ok.inj hplan
        exact hkeep [] Ready.nil
      · obtain ⟨rest, hrest, hcons⟩ := except_bind_eq_ok hplan
        obtain rfl := Except.ok.inj hcons
        exact hkeep rest (ih hnodup' hrest)

theorem ready_planAutomatic (hnodup : (order patches).Nodup)
    (h : planAutomaticDataPatchRollback patches limit recordedById = .ok plan) :
    Ready (order patches).reverse (Away recordedById) (order plan) := by
  rw [← order_reverse]
  apply ready_planAutomaticFrom _ h
  rw [order_reverse, List.nodup_reverse]
  exact hnodup

/-- The order of the ids is that of the patches. -/
theorem before_of_order {patch later : DataPatchDefinition} (hnodup : (order patches).Nodup) (hpatch : patch ∈ patches)
    (hlater : later ∈ patches) (h : Before (order patches) patch.id later.id) : Before patches patch later := by
  obtain ⟨pair, hpair, hids⟩ := List.sublist_map_iff.mp h
  obtain ⟨first, rest, rfl, hfirst, hrest⟩ := List.map_eq_cons_iff.mp hids.symm
  obtain ⟨second, tail, rfl, hsecond, htail⟩ := List.map_eq_cons_iff.mp hrest
  obtain rfl := List.map_eq_nil_iff.mp htail
  obtain rfl := eq_of_key_eq hnodup (hpair.subset List.mem_cons_self) hpatch hfirst
  obtain rfl := eq_of_key_eq hnodup (hpair.subset (List.mem_cons_of_mem _ List.mem_cons_self)) hlater hsecond
  exact hpair

/-- What is after a selected patch is after the earliest of them. -/
theorem mem_afterEarliestSelected {patch later : DataPatchDefinition} (hpatch : patch ∈ selected)
    (hafter : later ∈ patches.drop (patches.idxOf patch + 1)) : later ∈ afterEarliestSelected patches selected := by
  unfold afterEarliestSelected
  have hmem : patches.idxOf patch ∈ selected.map (fun patch => patches.idxOf patch) := List.mem_map_of_mem hpatch
  cases hmin : (selected.map (fun patch => patches.idxOf patch)).min? with
  | none =>
    rw [List.min?_eq_none_iff] at hmin
    rw [hmin] at hmem
    exact absurd hmem List.not_mem_nil
  | some earliest =>
    have hle : earliest ≤ patches.idxOf patch := (List.min?_eq_some_iff.mp hmin).2 _ hmem
    exact (List.drop_sublist_drop_left patches (by omega)).subset hafter

/-- **A selection that may be rolled back is ready** against the order. -/
theorem ready_of_successorsRolledBack (hnodup : (order patches).Nodup) (hpart : selected.Sublist patches)
    (h : assertDataPatchRollbackSuccessorsRolledBack patches selected recordedById = .ok ()) :
    Ready (order patches).reverse (Away recordedById) (order selected.reverse) := by
  rw [order_reverse]
  refine ⟨(hpart.map _).reverse, ?_⟩
  intro i hi j hbefore hj
  rw [List.mem_reverse] at hi hj
  rw [before_reverse] at hbefore
  obtain ⟨patch, hpatch, rfl⟩ := List.mem_map.mp hi
  obtain ⟨later, hlater, rfl⟩ := List.mem_map.mp hbefore.right_mem
  have hpair := before_of_order hnodup (hpart.subset hpatch) hlater hbefore
  have hchecked := forM_ok h later (mem_afterEarliestSelected hpatch hpair.mem_drop)
  unfold assertSuccessorRolledBack at hchecked
  rw [if_neg (by simpa [order] using hj)] at hchecked
  intro recorded hrecorded
  rw [hrecorded] at hchecked
  obtain ⟨_, _, hsafe⟩ := except_bind_eq_ok hchecked
  obtain ⟨_, _, hstatus⟩ := except_bind_eq_ok hsafe
  exact of_decide_eq_true (ensure_eq_ok hstatus)

theorem ready_planSelected (hnodup : (order patches).Nodup) (hpart : selected.Sublist patches)
    (h : planSelectedDataPatchRollback patches selected limit recordedById = .ok plan) :
    Ready (order patches).reverse (Away recordedById) (order plan) := by
  obtain ⟨_, _, hafter⟩ := except_bind_eq_ok h
  obtain ⟨_, hsuccessors, hplan⟩ := except_bind_eq_ok hafter
  obtain rfl := Except.ok.inj hplan
  exact ready_sliceTo (ready_of_successorsRolledBack hnodup hpart hsuccessors) (List.nodup_reverse.mpr hnodup)

theorem ready_retry {patch : DataPatchDefinition} (hnodup : (order patches).Nodup) (hpatch : patch ∈ patches)
    (h : assertDataPatchRollbackRetryableWithSuccessors patches patch recordedById = .ok ()) :
    Ready (order patches).reverse (Away recordedById) (order [patch]) := by
  obtain ⟨_, _, hsuccessors⟩ := except_bind_eq_ok h
  exact ready_of_successorsRolledBack hnodup (List.singleton_sublist.mpr hpatch) hsuccessors

end DataPatchOrder
