import CfFrappe.Adapters.InMemoryDataPatchLog
import CfFrappe.Core.Json

set_option autoImplicit false

/-! # What may be done with a data patch

The declared patches, the selections that operators make of them, and the policies that compare a patch with what the
log records of it. Each of the policies either refuses with an error or says what is to be done.
-/

open Utf

/-! ## Definitions -/

/-- What is declared of a patch besides what it does. -/
structure DataPatchDefinition where
  id : JsString
  checksum : JsString
  /-- whether a rollback is declared -/
  rollback : Bool := false
  deriving DecidableEq

/-- `[a-z0-9]` -/
def isDataPatchIdStart (c : UInt16) : Bool := (0x61 ≤ c && c ≤ 0x7A) || (0x30 ≤ c && c ≤ 0x39)

/-- `[a-z0-9_.-]` -/
def isDataPatchIdPart (c : UInt16) : Bool := isDataPatchIdStart c || c == 0x5F || c == 0x2E || c == 0x2D

/-- `/^[a-z0-9][a-z0-9_.-]*$/u` -/
def isDataPatchId : JsString → Bool
  | [] => false
  | c :: rest => isDataPatchIdStart c && rest.all isDataPatchIdPart

def assertDataPatchId (id : JsString) : Except FrameworkError Unit :=
  ensure (isDataPatchId id)
    { code := .dataPatchInvalid, message := js "Invalid data patch id '" ++ id ++ js "'", status := 400 }

def assertDataPatchChecksum (checksum id : JsString) : Except FrameworkError Unit :=
  ensure ((Json.trim checksum).length != 0)
    { code := .dataPatchInvalid, message := js "Data patch '" ++ id ++ js "' must define a non-empty checksum"
      status := 400 }

def defineDataPatch (definition : DataPatchDefinition) : Except FrameworkError DataPatchDefinition := do
  assertDataPatchId definition.id
  assertDataPatchChecksum definition.checksum definition.id
  return definition

/-- The definitions in their order, when none has an id of those that were seen. -/
def normalizeDataPatchDefinitionsFrom (seen : List JsString) :
    List DataPatchDefinition → Except FrameworkError (List DataPatchDefinition)
  | [] => .ok []
  | patch :: patches => do
      let definition ← defineDataPatch patch
      ensure (!seen.contains definition.id)
        (dataPatchError .dataPatchDuplicate (js "Data patch '" ++ definition.id ++ js "' is defined more than once"))
      let rest ← normalizeDataPatchDefinitionsFrom (definition.id :: seen) patches
      return definition :: rest

def normalizeDataPatchDefinitions (patches : List DataPatchDefinition) :
    Except FrameworkError (List DataPatchDefinition) := normalizeDataPatchDefinitionsFrom [] patches

/-- The same as `normalizeDataPatchDefinitions`, frozen. -/
def snapshotUniqueDataPatchDefinitions (patches : List DataPatchDefinition) :
    Except FrameworkError (List DataPatchDefinition) := normalizeDataPatchDefinitions patches

def normalizeSingleDataPatchDefinition (patch : DataPatchDefinition) : Except FrameworkError DataPatchDefinition :=
  defineDataPatch patch

theorem defineDataPatch_ok {patch definition : DataPatchDefinition} (h : defineDataPatch patch = .ok definition) :
    definition = patch := by
  obtain ⟨_, _, h⟩ := except_bind_eq_ok h
  obtain ⟨_, _, h⟩ := except_bind_eq_ok h
  exact (Except.ok.inj h).symm

theorem normalizeDataPatchDefinitionsFrom_ok {seen : List JsString} {patches planned : List DataPatchDefinition}
    (h : normalizeDataPatchDefinitionsFrom seen patches = .ok planned) :
    planned = patches ∧ (patches.map (·.id)).Nodup ∧ ∀ patch ∈ patches, patch.id ∉ seen := by
  induction patches generalizing seen planned with
  | nil =>
    obtain rfl := Except.ok.inj h
    exact ⟨rfl, List.nodup_nil, fun _ hpatch => absurd hpatch List.not_mem_nil⟩
  | cons patch patches ih =>
    obtain ⟨definition, hdefinition, hdefined⟩ := except_bind_eq_ok h
    obtain ⟨_, hnew, hunseen⟩ := except_bind_eq_ok hdefined
    obtain ⟨rest, hrest, hplanned⟩ := except_bind_eq_ok hunseen
    obtain rfl := Except.ok.inj hplanned
    obtain rfl := defineDataPatch_ok hdefinition
    obtain ⟨rfl, hnodup, hseen⟩ := ih hrest
    have hnew' : definition.id ∉ seen := by simpa using ensure_eq_ok hnew
    refine ⟨rfl, ?_, ?_⟩
    · rw [List.map_cons, List.nodup_cons]
      refine ⟨?_, hnodup⟩
      intro hmem
      obtain ⟨other, hother, hid⟩ := List.mem_map.mp hmem
      exact hseen other hother (hid ▸ List.mem_cons_self)
    · intro other hother
      rcases List.mem_cons.mp hother with rfl | hother
      · exact hnew'
      · exact fun hmem => hseen other hother (List.mem_cons_of_mem _ hmem)

theorem normalizeDataPatchDefinitions_ok {patches planned : List DataPatchDefinition}
    (h : normalizeDataPatchDefinitions patches = .ok planned) : planned = patches ∧ (patches.map (·.id)).Nodup := by
  obtain ⟨hplanned, hnodup, _⟩ := normalizeDataPatchDefinitionsFrom_ok h
  exact ⟨hplanned, hnodup⟩

/-! ## Selections -/

def selectDataPatches (patches : List DataPatchDefinition) :
    Option (List JsString) → Except FrameworkError (List DataPatchDefinition)
  | none => .ok patches
  | some patchIds => do
      ensure (!patchIds.isEmpty) (.ofBadRequest (js "At least one data patch id is required"))
      patchIds.forM assertDataPatchId
      let selected := patches.filter (fun patch => patchIds.contains patch.id)
      match patchIds.find? (fun id => !(selected.map (·.id)).contains id) with
      | some missing =>
        .error {
          code := .dataPatchNotFound, message := js "Data patch '" ++ missing ++ js "' is not registered"
          status := 404 }
      | none => return selected

def selectDataPatch (patches : List DataPatchDefinition) (patchId : JsString) :
    Except FrameworkError DataPatchDefinition := do
  let selected ← selectDataPatches patches (some [patchId])
  match selected with
  | patch :: _ => return patch
  | [] =>
    .error {
      code := .dataPatchNotFound, message := js "Data patch '" ++ patchId ++ js "' is not registered", status := 404 }

/-- `Number.isInteger(limit)`, and at least one. -/
def assertDataPatchApplyLimit (limit : Option Rat) : Except FrameworkError Unit :=
  ensure (limit.all (fun limit => limit.den == 1 && 1 ≤ limit))
    (.ofBadRequest (js "Data patch apply limit must be a positive integer"))

/-- `patches.slice(0, limit)` -/
def sliceTo {α : Type} (limit : Option Rat) (l : List α) : List α :=
  match limit with
  | none => l
  | some limit => l.take limit.num.toNat

/-! ## What is recorded -/

namespace RecordedDataPatch

def journal : RecordedDataPatch → DataPatchJournalState
  | pending patch => { id := patch.id, checksum := patch.checksum, status := .pending }
  | applied patch => { id := patch.id, checksum := patch.checksum, status := .applied }
  | failed patch => { id := patch.id, checksum := patch.checksum, status := .failed }
  | rollbackPending patch => { id := patch.id, checksum := patch.checksum, status := .rollbackPending }
  | rolledBack patch => { id := patch.id, checksum := patch.checksum, status := .rolledBack }
  | rollbackFailed patch => { id := patch.id, checksum := patch.checksum, status := .rollbackFailed }

end RecordedDataPatch

/-- `new Map(recorded.map((patch) => [patch.id, patch]))` -/
def recordedDataPatchesById (recorded : List RecordedDataPatch) : Record JsString RecordedDataPatch :=
  recorded.foldl (fun byId patch => Record.set byId patch.id patch) []

/-! ## Applying -/

/-- What is recorded lets an apply go on to the next patch. -/
def assertRecordedDataPatchAllowsApplySkip (patch : DataPatchDefinition) :
    RecordedDataPatch → Except FrameworkError AppliedDataPatch
  | .applied applied => do
      assertAppliedDataPatchChecksumMatches patch.id patch.checksum applied.checksum
      return applied
  | .pending recorded => do
      assertDataPatchChecksumMatches patch.id patch.checksum recorded.checksum
      .error (dataPatchPending patch.id)
  | .rollbackPending recorded => do
      assertDataPatchChecksumMatches patch.id patch.checksum recorded.checksum
      .error (dataPatchRollbackPending patch.id)
  | .rollbackFailed recorded => do
      assertDataPatchChecksumMatches patch.id patch.checksum recorded.checksum
      .error (dataPatchRollbackFailed patch.id recorded.rollbackFailedAt recorded.rollbackError)
  | .rolledBack recorded => do
      assertDataPatchChecksumMatches patch.id patch.checksum recorded.checksum
      .error (dataPatchError .dataPatchRollbackUnavailable
        (js "Data patch '" ++ patch.id ++ js "' has already been rolled back"))
  | .failed recorded => do
      assertDataPatchChecksumMatches patch.id patch.checksum recorded.checksum
      .error (dataPatchFailed patch.id recorded.failedAt recorded.error)

inductive DataPatchApplyClaimDecision
  | claimed (claim : ClaimDataPatch)
  | skip (patch : AppliedDataPatch)

def dataPatchApplyClaimDecision (patch : DataPatchDefinition) :
    DataPatchClaimResult → Except FrameworkError DataPatchApplyClaimDecision
  | .claimed claim => .ok (.claimed claim)
  | .applied applied => do
      assertAppliedDataPatchChecksumMatches patch.id patch.checksum applied.checksum
      return .skip applied
  | .pending pending => do
      assertDataPatchChecksumMatches patch.id patch.checksum pending.checksum
      .error (dataPatchPending patch.id)
  | .failed failed => do
      assertDataPatchChecksumMatches patch.id patch.checksum failed.checksum
      .error (dataPatchFailed patch.id failed.failedAt failed.error)

def dataPatchApplyRunSelection (selected pending : List DataPatchDefinition) (limit : Option Rat) :
    List DataPatchDefinition :=
  match limit with
  | none => selected
  | some limit => sliceTo (some limit) pending

def dataPatchApplyPlanSelection (pending : List DataPatchDefinition) (limit : Option Rat) : List DataPatchDefinition :=
  sliceTo limit pending

/-- The walk along the declared patches; `blocker` is the first one so far that is neither selected nor applied. -/
def assertPredecessorsAppliedFrom (selectedIds : List JsString) (recordedById : Record JsString RecordedDataPatch) :
    Option DataPatchDefinition → List DataPatchDefinition → Except FrameworkError Unit
  | _, [] => .ok ()
  | blocker, patch :: patches =>
    if selectedIds.contains patch.id then
      match blocker with
      | some blocker =>
        .error (dataPatchError .dataPatchOrderViolation (js "Data patch '" ++ patch.id ++
          js "' cannot run before earlier patch '" ++ blocker.id ++ js "' is applied"))
      | none => assertPredecessorsAppliedFrom selectedIds recordedById none patches
    else
      match Record.get recordedById patch.id with
      | none => assertPredecessorsAppliedFrom selectedIds recordedById (some (blocker.getD patch)) patches
      | some recorded => do
          assertDataPatchChecksumMatches patch.id patch.checksum recorded.journal.checksum
          assertPredecessorsAppliedFrom selectedIds recordedById
            (if recorded.journal.status = .applied then blocker else some (blocker.getD patch)) patches

def assertSelectedDataPatchPredecessorsApplied (patches selected : List DataPatchDefinition)
    (recordedById : Record JsString RecordedDataPatch) : Except FrameworkError Unit :=
  assertPredecessorsAppliedFrom (selected.map (·.id)) recordedById none patches

/-! ## Rolling back -/

/-- Nothing is under way, and nothing has failed. -/
def assertDataPatchSettled (id : JsString) (recorded : RecordedDataPatch) : Except FrameworkError Unit :=
  match recorded.journal.status with
  | .pending => .error (dataPatchError .dataPatchPending (js "Data patch '" ++ id ++ js "' is pending"))
  | .failed =>
    .error (dataPatchError .dataPatchFailed (js "Data patch '" ++ id ++ js "' failed and must be retried first"))
  | .rollbackPending =>
    .error (dataPatchError .dataPatchRollbackPending (js "Data patch '" ++ id ++ js "' rollback is pending"))
  | .rollbackFailed =>
    .error (dataPatchError .dataPatchRollbackFailed
      (js "Data patch '" ++ id ++ js "' rollback failed and must be investigated first"))
  | .applied => .ok ()
  | .rolledBack => .ok ()

def assertDataPatchRollbackStatusReady (id : JsString) (recorded : RecordedDataPatch) : Except FrameworkError Unit :=
  assertDataPatchSettled id recorded

def assertDataPatchRollbackSuccessorSafe (id : JsString) (recorded : RecordedDataPatch) : Except FrameworkError Unit :=
  assertDataPatchSettled id recorded

def dataPatchRollbackNotDeclared (id : JsString) : FrameworkError :=
  dataPatchError .dataPatchRollbackUnavailable (js "Data patch '" ++ id ++ js "' does not declare a rollback")

inductive DataPatchRollbackPlanDecision
  | included
  | skip
  | stop
  deriving DecidableEq

def dataPatchRollbackPlanDecision (patch : DataPatchDefinition) :
    Option RecordedDataPatch → Except FrameworkError DataPatchRollbackPlanDecision
  | none => .ok .skip
  | some recorded => do
      assertDataPatchChecksumMatches patch.id patch.checksum recorded.journal.checksum
      assertDataPatchRollbackStatusReady patch.id recorded
      return (if recorded.journal.status = .rolledBack then .skip else if patch.rollback then .included else .stop)

def assertSelectedDataPatchRollbackable (patch : DataPatchDefinition) :
    Option RecordedDataPatch → Except FrameworkError Unit
  | none => .error (dataPatchRollbackUnavailable patch.id (js "it has not been applied"))
  | some recorded => do
      assertDataPatchChecksumMatches patch.id patch.checksum recorded.journal.checksum
      assertDataPatchRollbackStatusReady patch.id recorded
      ensure (decide (recorded.journal.status ≠ .rolledBack))
        (dataPatchError .dataPatchRollbackUnavailable
          (js "Data patch '" ++ patch.id ++ js "' has already been rolled back"))
      ensure patch.rollback (dataPatchRollbackNotDeclared patch.id)

def assertDataPatchRollbackRetryable (patch : DataPatchDefinition) :
    Option RecordedDataPatch → Except FrameworkError Unit
  | none => .error (dataPatchRollbackRetryUnavailable patch.id (js "no failed rollback journal entry exists"))
  | some recorded => do
      assertDataPatchChecksumMatches patch.id patch.checksum recorded.journal.checksum
      match recorded.journal.status with
      | .rollbackFailed => ensure patch.rollback (dataPatchRollbackNotDeclared patch.id)
      | .pending => .error (dataPatchError .dataPatchPending (js "Data patch '" ++ patch.id ++ js "' is pending"))
      | .failed =>
        .error (dataPatchError .dataPatchFailed
          (js "Data patch '" ++ patch.id ++ js "' failed and must be retried first"))
      | .rollbackPending =>
        .error (dataPatchError .dataPatchRollbackPending
          (js "Data patch '" ++ patch.id ++ js "' rollback is pending"))
      | status => .error (dataPatchRollbackRetryUnavailable patch.id (journalStatusIs status))

/-- What a patch after the selected ones has to be like. -/
def assertSuccessorRolledBack (selected : List DataPatchDefinition)
    (recordedById : Record JsString RecordedDataPatch) (patch : DataPatchDefinition) : Except FrameworkError Unit :=
  if (selected.map (·.id)).contains patch.id then .ok ()
  else
    match Record.get recordedById patch.id with
    | none => .ok ()
    | some recorded => do
        assertDataPatchChecksumMatches patch.id patch.checksum recorded.journal.checksum
        assertDataPatchRollbackSuccessorSafe patch.id recorded
        ensure (decide (recorded.journal.status = .rolledBack))
          (dataPatchError .dataPatchOrderViolation (js "Data patch '" ++ ((selected.head?.map (·.id)).getD []) ++
            js "' cannot roll back before later patch '" ++ patch.id ++ js "' is rolled back"))

/-- The patches after the earliest of the selected ones; after `Math.min()` of nothing there are none. -/
def afterEarliestSelected (patches selected : List DataPatchDefinition) : List DataPatchDefinition :=
  match (selected.map (fun patch => patches.idxOf patch)).min? with
  | none => []
  | some earliest => patches.drop (earliest + 1)

def assertDataPatchRollbackSuccessorsRolledBack (patches selected : List DataPatchDefinition)
    (recordedById : Record JsString RecordedDataPatch) : Except FrameworkError Unit :=
  (afterEarliestSelected patches selected).forM (assertSuccessorRolledBack selected recordedById)

def planSelectedDataPatchRollback (patches selected : List DataPatchDefinition) (limit : Option Rat)
    (recordedById : Record JsString RecordedDataPatch) : Except FrameworkError (List DataPatchDefinition) := do
  selected.forM (fun patch => assertSelectedDataPatchRollbackable patch (Record.get recordedById patch.id))
  assertDataPatchRollbackSuccessorsRolledBack patches selected recordedById
  return sliceTo limit selected.reverse

/-- The walk along the reversed patches, with what is taken up already. -/
def planAutomaticDataPatchRollbackFrom (limit : Option Rat) (recordedById : Record JsString RecordedDataPatch) (taken : Nat) :
    List DataPatchDefinition → Except FrameworkError (List DataPatchDefinition)
  | [] => .ok []
  | patch :: patches => do
      let decision ← dataPatchRollbackPlanDecision patch (Record.get recordedById patch.id)
      match decision with
      | .skip => planAutomaticDataPatchRollbackFrom limit recordedById taken patches
      | .stop => .ok []
      | .included =>
        if limit.any (fun bound => bound ≤ ((taken + 1 : Nat) : Rat)) then .ok [patch]
        else do
          let rest ← planAutomaticDataPatchRollbackFrom limit recordedById (taken + 1) patches
          return patch :: rest

def planAutomaticDataPatchRollback (patches : List DataPatchDefinition) (limit : Option Rat)
    (recordedById : Record JsString RecordedDataPatch) : Except FrameworkError (List DataPatchDefinition) :=
  planAutomaticDataPatchRollbackFrom limit recordedById 0 patches.reverse

def assertDataPatchRollbackRetryableWithSuccessors (patches : List DataPatchDefinition) (patch : DataPatchDefinition)
    (recordedById : Record JsString RecordedDataPatch) : Except FrameworkError Unit := do
  assertDataPatchRollbackRetryable patch (Record.get recordedById patch.id)
  assertDataPatchRollbackSuccessorsRolledBack patches [patch] recordedById

inductive DataPatchRollbackClaimDecision
  | claimed (claim : ClaimDataPatch)
  | skip (patch : RolledBackDataPatch)

def dataPatchRollbackClaimDecision (patchId : JsString) :
    DataPatchRollbackClaimResult → Except FrameworkError DataPatchRollbackClaimDecision
  | .claimed claim => .ok (.claimed claim)
  | .rolledBack patch => .ok (.skip patch)
  | .pending _ => .error (dataPatchPending patchId)
  | .failed patch => .error (dataPatchFailed patchId patch.failedAt patch.error)
  | .rollbackPending _ => .error (dataPatchRollbackPending patchId)
  | .rollbackFailed patch => .error (dataPatchRollbackFailed patchId patch.rollbackFailedAt patch.rollbackError)

/-! ## Who may -/

def planDataPatchAdministrationAccess (actor : Actor) (adminRoles : List JsString) : Except FrameworkError Unit :=
  ensure (adminRoles.any (fun role => actor.roles.contains role))
    (.denied (js "Actor '" ++ actor.id ++ js "' cannot manage data patches"))
