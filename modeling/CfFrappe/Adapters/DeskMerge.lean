import CfFrappe.Core.DocumentMergePlan
import CfFrappe.Core.Streams
import CfFrappe.Adapters.DeskMergeValues

set_option autoImplicit false

/-! # The desk client's merge plan

The desk client plans a merge itself, with its own copy of `planDocumentFieldMerge`. The copy drops the fields
whose names objects inherit, since it looks a name up in `{}`, and compares copies of the snapshots' values.
`documentMergePlan_eq_iff` says for which inputs the two plans are the same.
-/

open Utf

namespace DeskMerge

open DocumentMerge

/-! ## The client's plan -/

/-- The members of `DocumentMergePlan` are those of the core's plan. -/
abbrev DocumentMergePlan := DocumentFieldMergePlan

structure MergeSnapshot where
  version : Rat
  data : DocumentData
  docstatus : Option Json

def isPlainObject : Option Json → Bool
  | some (.obj _) => true
  | _ => false

/-- The members of a plain object, or `{}`. -/
def membersOf : Option Json → Record JsString Json
  | some (.obj members) => members
  | _ => []

def mergeSnapshot (value : Json) (fallbackVersion : Rat) : MergeSnapshot :=
  let source := membersOf (some value)
  { version :=
      match source.get (js "version") with
      | some (.num version) => version
      | _ => fallbackVersion
    data := cloneMergeMembers
      (if isPlainObject (source.get (js "data")) then membersOf (source.get (js "data")) else source)
    docstatus := source.get (js "docstatus") }

/-- `seen[name]`, which is also true for what `{}` inherits. -/
def isSeen (seen : Record JsString Bool) (name : JsString) : Bool :=
  match seen.get name with
  | some own => own
  | none => inheritedValue name ≠ .undefined

/-- One turn of the loop of the client's `mergeFields`. -/
def addName (state : Record JsString Bool × List JsString) (field : JsString) : Record JsString Bool × List JsString :=
  let name := Json.trim field
  if name.isEmpty || isSeen state.1 name then state
  else (Record.set state.1 name true, state.2 ++ [name])

def mergeFields (base remote : DocumentData) (draft : MutableDocumentData) (fields : Option (List JsString)) :
    List JsString :=
  ((fields.getD (Record.keys base ++ Record.keys remote ++ Record.keys draft)).foldl addName ([], [])).2

/-- The comparison of the client is a copy of the core's. -/
def mergeJsonEqual (left right : FieldValue) : Bool := jsonEqual left right

def cloneMergeValue : FieldValue → FieldValue
  | .value json => .value (cloneMergeJson json)
  | .objectPrototype => .value (.obj [])
  | value => value

def mergeConflict (field : JsString) (reason : DocumentFieldMergeConflictReason) (values : FieldSides) :
    DocumentFieldMergeConflict where
  field
  reason
  basePresent := values.basePresent
  localPresent := values.localPresent
  remotePresent := values.remotePresent
  baseValue := cloneMergeValue values.baseValue
  localValue := cloneMergeValue values.localValue
  remoteValue := cloneMergeValue values.remoteValue

def statusConflicts (base remote : Option Json) : List DocumentFieldMergeConflict :=
  match base, remote with
  | some base, some remote =>
    if base = remote then []
    else
      [mergeConflict (js "docstatus") .remoteStatusChanged
        { basePresent := true, localPresent := true, remotePresent := true
          baseValue := .value base, localValue := .value base, remoteValue := .value remote }]
  | _, _ => []

/-- One turn of the loop of `documentMergePlan`, after the field has been read. -/
def mergeSides (plan : DocumentMergePlan) (field : JsString) (sides : FieldSides) : DocumentMergePlan :=
  let localChanged :=
    if sides.localPresent then !mergeJsonEqual sides.localValue sides.baseValue else sides.basePresent
  let remoteChanged := !mergeJsonEqual sides.remoteValue sides.baseValue
  let plan :=
    { plan with
      localChangedFields := plan.localChangedFields ++ if localChanged then [field] else []
      remoteChangedFields := plan.remoteChangedFields ++ if remoteChanged then [field] else [] }
  if !localChanged then plan
  else if remoteChanged && !mergeJsonEqual sides.localValue sides.remoteValue then
    { plan with conflicts := plan.conflicts ++ [mergeConflict field .remoteChanged sides] }
  else if mergeJsonEqual sides.localValue sides.remoteValue then
    { plan with mergedFields := plan.mergedFields ++ [field] }
  else
    let plan := { plan with mergedFields := plan.mergedFields ++ [field] }
    if sides.localValue = .undefined then { plan with unset := plan.unset ++ [field] }
    else { plan with patch := plan.patch.assign field (cloneMergeValue sides.localValue) }

def mergeField (base remote : DocumentData) (draft : MutableDocumentData) (plan : DocumentMergePlan)
    (field : JsString) : DocumentMergePlan :=
  mergeSides plan field (sidesOf (inheritedValue field) (base.get field) (remote.get field) (draft.get field))

def withStatus (plan : DocumentMergePlan) : DocumentMergePlan :=
  { plan with status := if plan.conflicts.isEmpty then .clean else .conflict }

/-- The snapshots are JSON values, as a response holds them. A draft that is no plain object is `none`. -/
def documentMergePlan (base remote : Json) (draft : Option MutableDocumentData) (fields : Option (List JsString)) :
    DocumentMergePlan :=
  let baseSnapshot := mergeSnapshot base 0
  let remoteSnapshot := mergeSnapshot remote baseSnapshot.version
  let draftData := draft.getD []
  let start : DocumentMergePlan :=
    { baseVersion := baseSnapshot.version, remoteVersion := remoteSnapshot.version
      conflicts := statusConflicts baseSnapshot.docstatus remoteSnapshot.docstatus }
  withStatus ((mergeFields baseSnapshot.data remoteSnapshot.data draftData fields).foldl
    (mergeField baseSnapshot.data remoteSnapshot.data draftData) start)

/-! ## What a field adds to a plan -/

/-- What one turn of a loop finds out about a field. -/
structure FieldPlan where
  localChanged : Bool
  remoteChanged : Bool
  outcome : FieldOutcome
  conflict : DocumentFieldMergeConflict

def addFieldPlan (planned : JsString → FieldPlan) (plan : DocumentMergePlan) (field : JsString) : DocumentMergePlan :=
  let plan :=
    { plan with
      localChangedFields := plan.localChangedFields ++ if (planned field).localChanged then [field] else []
      remoteChangedFields := plan.remoteChangedFields ++ if (planned field).remoteChanged then [field] else [] }
  match (planned field).outcome with
  | .unchanged => plan
  | .conflicting => { plan with conflicts := plan.conflicts ++ [(planned field).conflict] }
  | .agreed => { plan with mergedFields := plan.mergedFields ++ [field] }
  | .unset => { plan with mergedFields := plan.mergedFields ++ [field], unset := plan.unset ++ [field] }
  | .patched value =>
    { plan with mergedFields := plan.mergedFields ++ [field], patch := plan.patch.assign field value }

def FieldPlan.isMerged (planned : FieldPlan) : Bool :=
  match planned.outcome with
  | .agreed | .unset | .patched _ => true
  | .unchanged | .conflicting => false

def FieldPlan.conflict? (planned : FieldPlan) : Option DocumentFieldMergeConflict :=
  if planned.outcome = .conflicting then some planned.conflict else none

def FieldPlan.patched? (planned : FieldPlan) : Option FieldValue :=
  match planned.outcome with
  | .patched value => some value
  | _ => none

/-- The fields that are patched, with their values. -/
def patchEntries (planned : JsString → FieldPlan) (fields : List JsString) : Record JsString FieldValue :=
  fields.filterMap (fun field => (planned field).patched?.map (fun value => (field, value)))

/-- The members that a loop over the fields leaves in a plan. -/
structure Collects (planned : JsString → FieldPlan) (fields : List JsString) (before after : DocumentMergePlan) :
    Prop where
  status : after.status = before.status
  baseVersion : after.baseVersion = before.baseVersion
  remoteVersion : after.remoteVersion = before.remoteVersion
  localChangedFields : after.localChangedFields =
    before.localChangedFields ++ fields.filter (fun field => (planned field).localChanged)
  remoteChangedFields : after.remoteChangedFields =
    before.remoteChangedFields ++ fields.filter (fun field => (planned field).remoteChanged)
  mergedFields : after.mergedFields = before.mergedFields ++ fields.filter (fun field => (planned field).isMerged)
  unset : after.unset = before.unset ++ fields.filter (fun field => (planned field).outcome = .unset)
  patch : after.patch =
    (patchEntries planned fields).foldl (fun patch entry => patch.assign entry.1 entry.2) before.patch
  conflicts : after.conflicts = before.conflicts ++ fields.filterMap (fun field => (planned field).conflict?)

theorem addFieldPlan_collects (planned : JsString → FieldPlan) (plan : DocumentMergePlan) (field : JsString) :
    Collects planned [field] plan (addFieldPlan planned plan field) := by
  unfold addFieldPlan
  cases houtcome : (planned field).outcome <;>
    constructor <;>
      simp [houtcome, FieldPlan.isMerged, FieldPlan.conflict?, FieldPlan.patched?, patchEntries, List.filter_cons]

theorem foldl_addFieldPlan (planned : JsString → FieldPlan) (fields : List JsString) (plan : DocumentMergePlan) :
    Collects planned fields plan (fields.foldl (addFieldPlan planned) plan) := by
  induction fields generalizing plan with
  | nil => constructor <;> simp [patchEntries]
  | cons field fields ih =>
    have hhead := addFieldPlan_collects planned plan field
    have htail := ih (addFieldPlan planned plan field)
    have hsplit : field :: fields = [field] ++ fields := rfl
    rw [List.foldl_cons, hsplit]
    constructor
    · rw [htail.status, hhead.status]
    · rw [htail.baseVersion, hhead.baseVersion]
    · rw [htail.remoteVersion, hhead.remoteVersion]
    · rw [htail.localChangedFields, hhead.localChangedFields, List.append_assoc, List.filter_append]
    · rw [htail.remoteChangedFields, hhead.remoteChangedFields, List.append_assoc, List.filter_append]
    · rw [htail.mergedFields, hhead.mergedFields, List.append_assoc, List.filter_append]
    · rw [htail.unset, hhead.unset, List.append_assoc, List.filter_append]
    · rw [htail.patch, hhead.patch, ← List.foldl_append]
      unfold patchEntries
      rw [← List.filterMap_append]
    · rw [htail.conflicts, hhead.conflicts, List.append_assoc, List.filterMap_append]

/-! ## When two loops leave the same plan -/

theorem filter_eq_iff {α : Type} {p q : α → Bool} {l : List α} : l.filter p = l.filter q ↔ ∀ x ∈ l, p x = q x := by
  constructor
  · intro h x hx
    have hmem : x ∈ l.filter p ↔ x ∈ l.filter q := by rw [h]
    rw [List.mem_filter, List.mem_filter, and_iff_right hx, and_iff_right hx] at hmem
    exact Bool.eq_iff_iff.mpr hmem
  · exact List.filter_congr

/-- Lists of what the elements give are the same when each element gives the same, if what is given tells the
element it comes from. -/
theorem filterMap_eq_iff {α β : Type} {f g : α → Option β} {l : List α} (source : β → α)
    (hf : ∀ x y, f x = some y → source y = x) (hg : ∀ x y, g x = some y → source y = x) :
    l.filterMap f = l.filterMap g ↔ ∀ x ∈ l, f x = g x := by
  constructor
  · intro h x hx
    have hgives : ∀ y, f x = some y ↔ g x = some y := by
      intro y
      have hmem : y ∈ l.filterMap f ↔ y ∈ l.filterMap g := by rw [h]
      rw [List.mem_filterMap, List.mem_filterMap] at hmem
      constructor
      · intro hy
        obtain ⟨x', -, hx'⟩ := hmem.mp ⟨x, hx, hy⟩
        rwa [(hg x' y hx').symm.trans (hf x y hy)] at hx'
      · intro hy
        obtain ⟨x', -, hx'⟩ := hmem.mpr ⟨x, hx, hy⟩
        rwa [(hf x' y hx').symm.trans (hg x y hy)] at hx'
    exact Option.ext hgives
  · intro h
    exact List.filterMap_congr h

theorem keys_patchEntries (planned : JsString → FieldPlan) (fields : List JsString) :
    Record.keys (patchEntries planned fields) = fields.filter (fun field => (planned field).patched?.isSome) := by
  induction fields with
  | nil => rfl
  | cons field fields ih =>
    unfold patchEntries Record.keys at ih ⊢
    cases hvalue : (planned field).patched? <;> simp [hvalue, ih]

/-- What is assigned to `{}` under different names, none of them `__proto__`, are its members. -/
theorem foldl_assign {entries : Record JsString FieldValue} (hkeys : (Record.keys entries).Nodup)
    (hprototype : prototypeName ∉ Record.keys entries) (patch : PlannedPatch)
    (hnew : ∀ key ∈ Record.keys entries, key ∉ Record.keys patch.own) :
    entries.foldl (fun patch entry => patch.assign entry.1 entry.2) patch =
      { patch with own := patch.own ++ entries } := by
  induction entries generalizing patch with
  | nil => simp
  | cons entry entries ih =>
    obtain ⟨hentry, hkeys⟩ := List.nodup_cons.mp hkeys
    have hname : entry.1 ≠ prototypeName := fun h => hprototype (h ▸ List.mem_cons_self)
    have hset : Record.set patch.own entry.1 entry.2 = patch.own ++ [entry] :=
      Record.set_of_not_mem (hnew entry.1 List.mem_cons_self)
    have hassign : patch.assign entry.1 entry.2 = { patch with own := patch.own ++ [entry] } := by
      unfold PlannedPatch.assign
      rw [if_neg hname, hset]
    rw [List.foldl_cons, hassign, ih hkeys (fun h => hprototype (List.mem_cons_of_mem _ h))]
    · rw [List.append_assoc]
      rfl
    · intro key hkey hown
      unfold Record.keys at hown
      rw [List.map_append, List.mem_append] at hown
      rcases hown with hown | hown
      · exact hnew key (List.mem_cons_of_mem _ hkey) hown
      · obtain rfl : key = entry.1 := List.mem_singleton.mp hown
        exact hentry hkey

/-- The same traces in a plan. -/
structure SameTraces (a b : FieldPlan) : Prop where
  localChanged : a.localChanged = b.localChanged
  remoteChanged : a.remoteChanged = b.remoteChanged
  outcome : a.outcome = b.outcome
  conflict : a.outcome = .conflicting → a.conflict = b.conflict

theorem SameTraces.of_lists {a b : FieldPlan} (hlocal : a.localChanged = b.localChanged)
    (hremote : a.remoteChanged = b.remoteChanged) (hmerged : a.isMerged = b.isMerged)
    (hunset : a.outcome = .unset ↔ b.outcome = .unset) (hpatched : a.patched? = b.patched?)
    (hconflict : a.conflict? = b.conflict?) : SameTraces a b := by
  unfold FieldPlan.isMerged at hmerged
  unfold FieldPlan.patched? at hpatched
  unfold FieldPlan.conflict? at hconflict
  have houtcome : a.outcome = b.outcome := by
    generalize a.outcome = outcome at hmerged hunset hpatched hconflict ⊢
    generalize b.outcome = outcome' at hmerged hunset hpatched hconflict ⊢
    cases outcome <;> cases outcome' <;> simp_all
  refine ⟨hlocal, hremote, houtcome, fun hconflicting => ?_⟩
  rw [← houtcome, if_pos hconflicting, if_pos hconflicting] at hconflict
  exact Option.some.inj hconflict

/-- **Two loops leave the same plan exactly when** every field leaves the same traces. -/
theorem foldl_eq_iff {planned planned' : JsString → FieldPlan} {fields : List JsString} (hfields : fields.Nodup)
    (hprototype : prototypeName ∉ fields) {start after after' : DocumentMergePlan} (hstart : start.patch = {})
    (hafter : Collects planned fields start after) (hafter' : Collects planned' fields start after')
    (hconflict : ∀ field, (planned field).conflict.field = field)
    (hconflict' : ∀ field, (planned' field).conflict.field = field) :
    after = after' ↔ ∀ field ∈ fields, SameTraces (planned field) (planned' field) := by
  -- every list of a plan holds some of the fields, in their order, so the lists are compared field by field
  have hpatch : ∀ planned : JsString → FieldPlan, (patchEntries planned fields).foldl
      (fun patch entry => patch.assign entry.1 entry.2) start.patch = { own := patchEntries planned fields } := by
    intro planned
    have hkeys := keys_patchEntries planned fields
    rw [foldl_assign, hstart]
    · rfl
    · rw [hkeys]
      exact hfields.filter _
    · rw [hkeys]
      exact fun h => hprototype (List.mem_of_mem_filter h)
    · rw [hstart]
      exact fun _ _ => List.not_mem_nil
  have hconflicts : fields.filterMap (fun field => (planned field).conflict?) =
      fields.filterMap (fun field => (planned' field).conflict?) ↔
        ∀ field ∈ fields, (planned field).conflict? = (planned' field).conflict? := by
    refine filterMap_eq_iff DocumentFieldMergeConflict.field ?_ ?_ <;>
      intro field conflict h <;> unfold FieldPlan.conflict? at h <;> split at h <;> cases h
    · exact hconflict field
    · exact hconflict' field
  have hpatches : patchEntries planned fields = patchEntries planned' fields ↔
      ∀ field ∈ fields, (planned field).patched? = (planned' field).patched? := by
    unfold patchEntries
    rw [filterMap_eq_iff Prod.fst]
    · refine forall₂_congr (fun field _ => ?_)
      cases (planned field).patched? <;> cases (planned' field).patched? <;> simp
    · intro field entry h
      obtain ⟨value, -, rfl⟩ := Option.map_eq_some_iff.mp h
      rfl
    · intro field entry h
      obtain ⟨value, -, rfl⟩ := Option.map_eq_some_iff.mp h
      rfl
  constructor
  · rintro rfl field hfield
    have hlocal := hafter.localChangedFields.symm.trans hafter'.localChangedFields
    have hremote := hafter.remoteChangedFields.symm.trans hafter'.remoteChangedFields
    have hmerged := hafter.mergedFields.symm.trans hafter'.mergedFields
    have hunset := hafter.unset.symm.trans hafter'.unset
    have hentries := hafter.patch.symm.trans hafter'.patch
    have hlists := hafter.conflicts.symm.trans hafter'.conflicts
    rw [List.append_cancel_left_eq] at hlocal hremote hmerged hunset hlists
    rw [hpatch, hpatch, PlannedPatch.mk.injEq] at hentries
    refine SameTraces.of_lists (filter_eq_iff.mp hlocal field hfield) (filter_eq_iff.mp hremote field hfield)
      (filter_eq_iff.mp hmerged field hfield) ?_ (hpatches.mp hentries.1 field hfield)
      (hconflicts.mp hlists field hfield)
    have hthis := filter_eq_iff.mp hunset field hfield
    rw [decide_eq_decide] at hthis
    exact hthis
  · intro h
    -- what is patched and what is in conflict follow from the outcome
    have hpatched : ∀ field ∈ fields, (planned field).patched? = (planned' field).patched? := by
      intro field hfield
      unfold FieldPlan.patched?
      rw [(h field hfield).outcome]
    have hlisted : ∀ field ∈ fields, (planned field).conflict? = (planned' field).conflict? := by
      intro field hfield
      unfold FieldPlan.conflict?
      by_cases hconflicting : (planned field).outcome = .conflicting
      · have hconflicting' := hconflicting
        rw [(h field hfield).outcome] at hconflicting'
        rw [if_pos hconflicting, if_pos hconflicting', (h field hfield).conflict hconflicting]
      · have hconflicting' := hconflicting
        rw [(h field hfield).outcome] at hconflicting'
        rw [if_neg hconflicting, if_neg hconflicting']
    have hlocal := filter_eq_iff.mpr (fun field hfield => (h field hfield).localChanged)
    have hremote := filter_eq_iff.mpr (fun field hfield => (h field hfield).remoteChanged)
    have hmerged : fields.filter (fun field => (planned field).isMerged) =
        fields.filter (fun field => (planned' field).isMerged) := by
      refine filter_eq_iff.mpr (fun field hfield => ?_)
      unfold FieldPlan.isMerged
      rw [(h field hfield).outcome]
    have hunset : fields.filter (fun field => (planned field).outcome = .unset) =
        fields.filter (fun field => (planned' field).outcome = .unset) := by
      refine filter_eq_iff.mpr (fun field hfield => ?_)
      rw [(h field hfield).outcome]
    have hentries := hpatches.mpr hpatched
    have hlists := hconflicts.mpr hlisted
    obtain ⟨status, baseVersion, remoteVersion, localChangedFields, remoteChangedFields, mergedFields, patch, unset,
      conflicts⟩ := after
    obtain ⟨status', baseVersion', remoteVersion', localChangedFields', remoteChangedFields', mergedFields', patch',
      unset', conflicts'⟩ := after'
    rw [DocumentFieldMergePlan.mk.injEq]
    refine ⟨hafter.status.trans hafter'.status.symm, hafter.baseVersion.trans hafter'.baseVersion.symm,
      hafter.remoteVersion.trans hafter'.remoteVersion.symm, ?_, ?_, ?_, ?_, ?_, ?_⟩
    · exact hafter.localChangedFields.trans (by rw [hlocal]; exact hafter'.localChangedFields.symm)
    · exact hafter.remoteChangedFields.trans (by rw [hremote]; exact hafter'.remoteChangedFields.symm)
    · exact hafter.mergedFields.trans (by rw [hmerged]; exact hafter'.mergedFields.symm)
    · exact hafter.patch.trans (by rw [hentries]; exact hafter'.patch.symm)
    · exact hafter.unset.trans (by rw [hunset]; exact hafter'.unset.symm)
    · exact hafter.conflicts.trans (by rw [hlists]; exact hafter'.conflicts.symm)

/-! ## The fields of the two plans -/

theorem foldl_addFieldName_nodup {names normalized : List JsString} (h : normalized.Nodup) :
    (names.foldl addFieldName normalized).Nodup := by
  induction names generalizing normalized with
  | nil => exact h
  | cons name names ih =>
    rw [List.foldl_cons]
    refine ih ?_
    unfold addFieldName
    by_cases hskipped : ((Json.trim name).isEmpty || normalized.contains (Json.trim name)) = true
    · rw [if_pos hskipped]
      exact h
    · rw [if_neg hskipped]
      rw [Bool.or_eq_true, not_or, List.contains_iff_mem] at hskipped
      rw [List.nodup_append]
      refine ⟨h, List.nodup_singleton _, fun a ha b hb hab => ?_⟩
      obtain rfl : b = Json.trim name := List.mem_singleton.mp hb
      exact hskipped.2 (hab ▸ ha)

theorem mem_of_mem_foldl_addFieldName {names normalized : List JsString} {field : JsString}
    (h : field ∈ names.foldl addFieldName normalized) :
    field ∈ normalized ∨ ∃ name ∈ names, Json.trim name = field := by
  induction names generalizing normalized with
  | nil => exact .inl h
  | cons name names ih =>
    rw [List.foldl_cons] at h
    rcases ih h with hnormalized | ⟨other, hother, htrim⟩
    · simp only [addFieldName] at hnormalized
      split at hnormalized
      · exact .inl hnormalized
      · rcases List.mem_append.mp hnormalized with hnormalized | hname
        · exact .inl hnormalized
        · exact .inr ⟨name, List.mem_cons_self, (List.mem_singleton.mp hname).symm⟩
    · exact .inr ⟨other, List.mem_cons_of_mem _ hother, htrim⟩

/-- Whether objects inherit nothing under a name. -/
def isOwnName (name : JsString) : Bool := inheritedValue name = .undefined

/-- The client's loop keeps the names that objects do not inherit. -/
structure Keeps (normalized : List JsString) (state : Record JsString Bool × List JsString) : Prop where
  result : state.2 = normalized.filter isOwnName
  seen : ∀ name, Record.get state.1 name = if name ∈ state.2 then some true else none

theorem Keeps.isSeen_iff {normalized : List JsString} {state : Record JsString Bool × List JsString}
    (h : Keeps normalized state) (name : JsString) :
    isSeen state.1 name = true ↔ name ∈ normalized ∨ inheritedValue name ≠ .undefined := by
  have hresult : name ∈ state.2 ↔ name ∈ normalized ∧ inheritedValue name = .undefined := by
    rw [h.result, List.mem_filter, isOwnName, decide_eq_true_eq]
  unfold isSeen
  rw [h.seen]
  by_cases hmem : name ∈ state.2
  · rw [if_pos hmem]
    exact iff_of_true rfl (.inl (hresult.mp hmem).1)
  · rw [if_neg hmem]
    by_cases hown : inheritedValue name = .undefined
    · have hnormalized : name ∉ normalized := fun hname => hmem (hresult.mpr ⟨hname, hown⟩)
      simp [hown, hnormalized]
    · simp [hown]

theorem addName_keeps {normalized : List JsString} {state : Record JsString Bool × List JsString}
    (h : Keeps normalized state) (field : JsString) :
    Keeps (addFieldName normalized field) (addName state field) := by
  have hisSeen := h.isSeen_iff (Json.trim field)
  simp only [addFieldName, addName]
  generalize Json.trim field = name at hisSeen ⊢
  by_cases hempty : name.isEmpty = true
  · rw [if_pos (by simp [hempty]), if_pos (by simp [hempty])]
    exact h
  · by_cases hseen : isSeen state.1 name = true
    · rw [@if_pos ((name.isEmpty || isSeen state.1 name) = true) _ (by rw [hseen, Bool.or_true])]
      by_cases hmem : name ∈ normalized
      · rw [if_pos (by simp [hmem])]
        exact h
      · -- the core keeps a name that objects inherit
        have hinherited : inheritedValue name ≠ .undefined := (hisSeen.mp hseen).resolve_left hmem
        rw [if_neg (by simp [hempty, hmem])]
        refine ⟨?_, h.seen⟩
        rw [h.result, List.filter_append]
        simp [isOwnName, hinherited]
    · rw [hisSeen, not_or, not_not] at hseen
      have hnot : isSeen state.1 name = false := by
        rw [← Bool.not_eq_true, hisSeen, not_or, not_not]
        exact hseen
      rw [if_neg (by simp [hempty, hseen.1]), if_neg (by simp [hempty, hnot])]
      constructor
      · dsimp only
        rw [h.result, List.filter_append]
        simp [isOwnName, hseen.2]
      · intro other
        rw [Record.get_set, h.seen]
        by_cases hname : name = other
        · simp [hname]
        · simp [hname, Ne.symm hname]

theorem mergeFields_eq_filter (input : PlanDocumentFieldMergeInput) {base remote : DocumentData}
    (hkeys : Record.keys base = Record.keys input.base.data) (hkeys' : Record.keys remote = Record.keys input.remote.data) :
    mergeFields base remote input.draft input.fields = input.mergeFields.filter isOwnName := by
  have hrun : ∀ (names normalized : List JsString) (state : Record JsString Bool × List JsString),
      Keeps normalized state → Keeps (names.foldl addFieldName normalized) (names.foldl addName state) := by
    intro names
    induction names with
    | nil => exact fun _ _ h => h
    | cons name names ih => exact fun normalized state h => ih _ _ (addName_keeps h name)
  unfold mergeFields PlanDocumentFieldMergeInput.mergeFields
  rw [hkeys, hkeys']
  exact (hrun _ [] ([], []) ⟨rfl, fun name => by simp⟩).result

/-! ## What the plans find out about a field -/

section

variable (sides : FieldSides) (field : JsString)

def corePlan : FieldPlan where
  localChanged := sides.localChanged
  remoteChanged := sides.remoteChanged
  outcome := sides.outcome
  conflict := conflictFor field .remoteChanged sides

/-- The branches of the client's loop. -/
def mergeOutcome : FieldOutcome :=
  if !sides.localChanged then .unchanged
  else if sides.remoteChanged && !mergeJsonEqual sides.localValue sides.remoteValue then .conflicting
  else if mergeJsonEqual sides.localValue sides.remoteValue then .agreed
  else if sides.localValue = .undefined then .unset
  else .patched (cloneMergeValue sides.localValue)

def clientPlan : FieldPlan where
  localChanged := sides.localChanged
  remoteChanged := sides.remoteChanged
  outcome := mergeOutcome sides
  conflict := mergeConflict field .remoteChanged sides

/-- What the client finds out about a field that it drops. -/
def droppedPlan : FieldPlan where
  localChanged := false
  remoteChanged := false
  outcome := .unchanged
  conflict := mergeConflict field .remoteChanged sides

end

theorem mergeSides_eq (planned : JsString → FieldPlan) (plan : DocumentMergePlan) (field : JsString)
    {sides : FieldSides} (h : planned field = clientPlan sides field) :
    mergeSides plan field sides = addFieldPlan planned plan field := by
  have hlocal : (if sides.localPresent then !mergeJsonEqual sides.localValue sides.baseValue
      else sides.basePresent) = sides.localChanged := rfl
  have hremote : (!mergeJsonEqual sides.remoteValue sides.baseValue) = sides.remoteChanged := rfl
  unfold mergeSides addFieldPlan
  rw [h, hlocal, hremote]
  unfold clientPlan mergeOutcome
  by_cases hchanged : sides.localChanged = true
  · by_cases hagreed : mergeJsonEqual sides.localValue sides.remoteValue = true
    · simp [hchanged, hagreed]
    · by_cases hother : sides.remoteChanged = true
      · simp [hchanged, hagreed, hother]
      · rw [Bool.not_eq_true] at hagreed
        by_cases hvalue : sides.localValue = .undefined
        · simp only [hchanged, hagreed, hother, if_pos hvalue]
          simp
        · simp only [hchanged, hagreed, hother, if_neg hvalue]
          simp
  · simp [hchanged]

/-! ## When a field leaves the same traces -/

section

variable (base remote : Option Json) (draft : Option (Option Json))

/-- No object of the value has a member `__proto__`. -/
def PrototypeFree (value : Option Json) : Prop := ∀ json, value = some json → hasPrototypeKey json = false

/-- The client's copies read as the values do: the members `__proto__` that they lack make no difference. -/
structure ReadsAlike : Prop where
  /-- A draft that is like the base otherwise: the base has none. -/
  draftLike : SameValue ((ownDraft draft).map cloneMergeJson) (base.map cloneMergeJson) → PrototypeFree base
  /-- A remote value that is like the base otherwise is the same. -/
  remoteLike : SameValue (remote.map cloneMergeJson) (base.map cloneMergeJson) → SameValue remote base
  /-- A value that the draft changes has none. -/
  changedFree : ¬SameValue (ownDraft draft) base → PrototypeFree (ownDraft draft)
  /-- Where both sides changed the field, the other values that are shown have none. -/
  shownFree : BothChanged base remote draft → PrototypeFree base ∧ PrototypeFree remote

/-- Nobody changed the field. -/
structure Untouched : Prop where
  defined : draft ≠ some none
  draftSame : SameValue (ownDraft draft) base
  remoteSame : SameValue remote base

end

/-- The value of a field is the value of the language. -/
def IsFieldValue (value : Option Json) : Prop := ∀ json, value = some json → json.IsValue

theorem IsFieldValue.copy {value : Option Json} (h : IsFieldValue value) : IsFieldValue (value.map cloneMergeJson) := by
  intro json hjson
  obtain ⟨original, horiginal, rfl⟩ := Option.map_eq_some_iff.mp hjson
  exact isValue_cloneMergeJson (h original horiginal)

theorem sameValue_symm {a b : Option Json} (h : SameValue a b) : SameValue b a := by
  cases a <;> cases b
  case none.none => trivial
  case some.some => exact Json.Same.symm h
  all_goals exact h

theorem sameValue_copy {a b : Option Json} (h : SameValue a b) :
    SameValue (a.map cloneMergeJson) (b.map cloneMergeJson) := by
  cases a <;> cases b
  case none.none => trivial
  case some.some => exact same_cloneMergeJson h
  all_goals exact h

theorem prototypeFree_of_sameValue {a b : Option Json} (h : SameValue a b) (hb : IsFieldValue b) (hfree : PrototypeFree a) :
    PrototypeFree b := by
  intro json hjson
  subst hjson
  cases a with
  | none => exact False.elim h
  | some a =>
    have hsame : Json.Same json a := Json.Same.symm h
    rw [← Bool.not_eq_true]
    intro hkey
    have hkey' := hasPrototypeKey_of_same hsame (hb json rfl) hkey
    rw [hfree a rfl] at hkey'
    cases hkey'

theorem prototypeFree_copy (value : Option Json) : PrototypeFree (value.map cloneMergeJson) := by
  intro json hjson
  obtain ⟨original, -, rfl⟩ := Option.map_eq_some_iff.mp hjson
  exact hasPrototypeKey_cloneMergeJson original

theorem PrototypeFree.copy_eq {value : Option Json} (h : PrototypeFree value) : value.map cloneMergeJson = value := by
  cases value with
  | none => rfl
  | some json => exact congrArg some (cloneMergeJson_eq_self (h json rfl))

theorem prototypeFree_of_readValue {value : Option Json}
    (h : readValue .undefined value = cloneMergeValue (readValue .undefined value)) : PrototypeFree value := by
  rintro json rfl
  have hcopy : FieldValue.value json = .value (cloneMergeJson json) := h
  rw [FieldValue.value.injEq] at hcopy
  exact cloneMergeJson_eq_self_iff.mp hcopy.symm

theorem cloneMergeValue_readValue (value : Option Json) :
    cloneMergeValue (readValue .undefined value) = readValue .undefined (value.map cloneMergeJson) := by
  cases value <;> rfl

theorem cloneJsonValue_readValue (value : Option Json) :
    cloneJsonValue (readValue .undefined value) = readValue .undefined value := by
  cases value <;> rfl

theorem readDraft_undefined (draft : Option (Option Json)) :
    readDraft .undefined draft = readValue .undefined (ownDraft draft) := by
  rcases draft with _ | _ | json <;> rfl

section

variable {base remote : Option Json} {draft : Option (Option Json)} {field : JsString}

theorem localChanged_iff (hbase : IsFieldValue base) (hdraft : IsFieldValue (ownDraft draft)) :
    (sidesOf .undefined base remote draft).localChanged = true ↔ ¬SameValue (ownDraft draft) base := by
  unfold FieldSides.localChanged sidesOf
  dsimp only
  by_cases hpresent : draft.isSome = true
  · rw [if_pos hpresent, readDraft_undefined, Bool.not_eq_true', ← Bool.not_eq_true,
      jsonEqual_readValue_iff (.inl rfl) hdraft hbase]
  · rw [if_neg hpresent]
    cases draft with
    | some own => exact absurd rfl hpresent
    | none => cases base <;> simp [ownDraft, SameValue]

theorem remoteChanged_iff (hbase : IsFieldValue base) (hremote : IsFieldValue remote) :
    (sidesOf .undefined base remote draft).remoteChanged = true ↔ ¬SameValue remote base := by
  unfold FieldSides.remoteChanged sidesOf
  dsimp only
  rw [Bool.not_eq_true', ← Bool.not_eq_true, jsonEqual_readValue_iff (.inl rfl) hremote hbase]

theorem agreed_iff (hremote : IsFieldValue remote) (hdraft : IsFieldValue (ownDraft draft)) :
    jsonEqual (sidesOf .undefined base remote draft).localValue (sidesOf .undefined base remote draft).remoteValue =
      true ↔ SameValue (ownDraft draft) remote := by
  unfold sidesOf
  dsimp only
  rw [readDraft_undefined, jsonEqual_readValue_iff (.inl rfl) hdraft hremote]

end

section

variable {base remote : Option Json} {draft : Option (Option Json)} {field : JsString}

/-- The two plans for a field, from the comparisons that each of them makes. -/
theorem sameTraces_of_comparisons {sides copies : FieldSides}
    (hvalue : sides.localValue = copies.localValue) :
    SameTraces (corePlan sides field) (clientPlan copies field) ↔
      (sides.localChanged = true ↔ copies.localChanged = true) ∧
      (sides.remoteChanged = true ↔ copies.remoteChanged = true) ∧
      (sides.localChanged = true →
        (jsonEqual sides.localValue sides.remoteValue = true ↔
          jsonEqual copies.localValue copies.remoteValue = true) ∧
        (¬jsonEqual sides.localValue sides.remoteValue = true →
          (¬sides.remoteChanged = true → cloneJsonValue sides.localValue = cloneMergeValue sides.localValue) ∧
          (sides.remoteChanged = true →
            conflictFor field .remoteChanged sides = mergeConflict field .remoteChanged copies))) := by
  constructor
  · rintro ⟨hlocal, hremote, houtcome, hconflict⟩
    dsimp only [corePlan, clientPlan] at hlocal hremote houtcome hconflict
    rw [hlocal, hremote]
    refine ⟨Iff.rfl, Iff.rfl, fun hchanged => ?_⟩
    unfold mergeOutcome mergeJsonEqual at houtcome
    unfold FieldSides.outcome at houtcome hconflict
    rw [hlocal, hchanged, hremote, ← hvalue] at houtcome
    rw [hlocal, hchanged, hremote] at hconflict
    rw [← hvalue]
    -- the outcome depends on four answers; all their combinations are gone through
    generalize jsonEqual sides.localValue sides.remoteValue = agreed at houtcome hconflict ⊢
    generalize jsonEqual sides.localValue copies.remoteValue = agreed' at houtcome ⊢
    generalize copies.remoteChanged = remoteChanged at houtcome hconflict ⊢
    clear hvalue hremote
    generalize sides.localValue = value at houtcome hconflict ⊢
    have hundefined : value = .undefined → cloneJsonValue value = cloneMergeValue value := by
      rintro rfl
      rfl
    generalize cloneJsonValue value = clone at houtcome hconflict hundefined ⊢
    generalize cloneMergeValue value = copy at houtcome hundefined ⊢
    cases agreed <;> cases agreed' <;> cases remoteChanged <;>
      by_cases hvalue : value = .undefined <;> simp_all
  · rintro ⟨hlocal, hremote, hrest⟩
    rw [← Bool.eq_iff_iff] at hlocal hremote
    have houtcome : sides.outcome = mergeOutcome copies ∧ (sides.outcome = .conflicting →
        conflictFor field .remoteChanged sides = mergeConflict field .remoteChanged copies) := by
      unfold mergeOutcome mergeJsonEqual FieldSides.outcome
      rw [← hlocal, ← hremote, ← hvalue]
      rw [← hvalue] at hrest
      clear hlocal hremote hvalue
      generalize jsonEqual sides.localValue sides.remoteValue = agreed at hrest ⊢
      generalize jsonEqual sides.localValue copies.remoteValue = agreed' at hrest ⊢
      by_cases hchanged : sides.localChanged = true
      · obtain ⟨hagree, hshown⟩ := hrest hchanged
        rw [← Bool.eq_iff_iff] at hagree
        rw [hchanged, ← hagree]
        by_cases hagreed : agreed = true
        · simp [hagreed]
        · by_cases hother : sides.remoteChanged = true
          · have hconflict := (hshown hagreed).2 hother
            rw [Bool.not_eq_true] at hagreed
            rw [hagreed, hother]
            exact ⟨rfl, fun _ => hconflict⟩
          · have hclone := (hshown hagreed).1 hother
            rw [Bool.not_eq_true] at hagreed hother
            rw [hagreed, hother, hclone]
            refine ⟨rfl, fun hconflicting => ?_⟩
            by_cases hundefined : sides.localValue = .undefined <;> simp [hundefined] at hconflicting
      · rw [Bool.not_eq_true] at hchanged
        rw [hchanged]
        exact ⟨rfl, fun hconflicting => by cases hconflicting⟩
    exact ⟨hlocal, hremote, houtcome.1, houtcome.2⟩

/-- The client's conflict is the core's when no value that it shows has a member `__proto__`. -/
theorem conflictFor_eq_iff :
    conflictFor field .remoteChanged (sidesOf .undefined base remote draft) =
        mergeConflict field .remoteChanged
          (sidesOf .undefined (base.map cloneMergeJson) (remote.map cloneMergeJson) draft) ↔
      PrototypeFree base ∧ PrototypeFree (ownDraft draft) ∧ PrototypeFree remote := by
  have hpresent : ∀ value : Option Json, (value.map cloneMergeJson).isSome = value.isSome :=
    fun value => Option.isSome_map
  have htwice : ∀ value : Option Json, cloneMergeValue (readValue .undefined (value.map cloneMergeJson)) =
      cloneMergeValue (readValue .undefined value) := by
    intro value
    rw [cloneMergeValue_readValue, cloneMergeValue_readValue, (prototypeFree_copy value).copy_eq]
  have hvalue : ∀ value : Option Json,
      readValue .undefined value = cloneMergeValue (readValue .undefined value) ↔ PrototypeFree value := by
    intro value
    constructor
    · exact prototypeFree_of_readValue
    · intro hfree
      rw [cloneMergeValue_readValue, hfree.copy_eq]
  unfold conflictFor mergeConflict sidesOf
  dsimp only
  rw [DocumentFieldMergeConflict.mk.injEq, readDraft_undefined, hpresent, hpresent, htwice, htwice,
    cloneJsonValue_readValue, cloneJsonValue_readValue, cloneJsonValue_readValue, hvalue, hvalue, hvalue]
  simp

/-- **A field is planned alike exactly when** the client's copies read as the values do. -/
theorem sameTraces_iff_readsAlike (hbase : IsFieldValue base) (hremote : IsFieldValue remote)
    (hdraft : IsFieldValue (ownDraft draft)) :
    SameTraces (corePlan (sidesOf .undefined base remote draft) field)
        (clientPlan (sidesOf .undefined (base.map cloneMergeJson) (remote.map cloneMergeJson) draft) field) ↔
      ReadsAlike base remote draft := by
  have hlocal := @localChanged_iff base remote draft hbase hdraft
  have hlocal' := @localChanged_iff (base.map cloneMergeJson) (remote.map cloneMergeJson) draft hbase.copy hdraft
  have hother := @remoteChanged_iff base remote draft hbase hremote
  have hother' := @remoteChanged_iff (base.map cloneMergeJson) (remote.map cloneMergeJson) draft hbase.copy hremote.copy
  have hagreed := @agreed_iff base remote draft hremote hdraft
  have hagreed' := @agreed_iff (base.map cloneMergeJson) (remote.map cloneMergeJson) draft hremote.copy hdraft
  have hpatched : cloneJsonValue (sidesOf .undefined base remote draft).localValue =
      cloneMergeValue (sidesOf .undefined base remote draft).localValue ↔ PrototypeFree (ownDraft draft) := by
    unfold sidesOf
    dsimp only
    rw [readDraft_undefined, cloneJsonValue_readValue]
    constructor
    · exact prototypeFree_of_readValue
    · intro hfree
      rw [cloneMergeValue_readValue, hfree.copy_eq]
  have htraces := @sameTraces_of_comparisons field (sidesOf .undefined base remote draft)
    (sidesOf .undefined (base.map cloneMergeJson) (remote.map cloneMergeJson) draft) rfl
  rw [htraces, conflictFor_eq_iff, hpatched, hlocal, hlocal', hother, hother', hagreed, hagreed']
  constructor
  · rintro ⟨hsame, hsame', hrest⟩
    -- a draft that differs from its base is shown: patched, or in a conflict
    have hchanged : ¬SameValue (ownDraft draft) base → PrototypeFree (ownDraft draft) := by
      intro hdiffers
      obtain ⟨hagree, hshown⟩ := hrest hdiffers
      by_cases hremoteSame : SameValue (ownDraft draft) remote
      · exact prototypeFree_of_sameValue (sameValue_symm (hagree.mp hremoteSame)) hdraft (prototypeFree_copy remote)
      · by_cases hremoteChanged : SameValue remote base
        · exact (hshown hremoteSame).1 (not_not.mpr hremoteChanged)
        · exact ((hshown hremoteSame).2 hremoteChanged).2.1
    refine ⟨fun hlike => ?_, fun hlike => ?_, hchanged, fun hboth => ?_⟩
    · by_cases hdraftSame : SameValue (ownDraft draft) base
      · have hcopySame := (not_iff_not.mp hsame).mp hdraftSame
        have hfree := prototypeFree_of_sameValue (sameValue_symm hcopySame) hdraft (prototypeFree_copy base)
        exact prototypeFree_of_sameValue hdraftSame hbase hfree
      · -- the draft would be like the copy of the base
        rw [(hchanged hdraftSame).copy_eq] at hlike
        exact absurd hlike (hsame.mp hdraftSame)
    · exact (not_iff_not.mp hsame').mpr hlike
    · obtain ⟨hdiffers, hremoteChanged, hclash⟩ := hboth
      obtain ⟨hfree, -, hfree'⟩ := ((hrest hdiffers).2 hclash).2 hremoteChanged
      exact ⟨hfree, hfree'⟩
  · intro h
    -- the comparisons with a copy come out as those with the original
    have hsame : SameValue (ownDraft draft) base ↔ SameValue (ownDraft draft) (base.map cloneMergeJson) := by
      constructor
      · intro hdraftSame
        rw [(h.draftLike (sameValue_copy hdraftSame)).copy_eq]
        exact hdraftSame
      · intro hcopySame
        have hfree := prototypeFree_of_sameValue (sameValue_symm hcopySame) hdraft (prototypeFree_copy base)
        have hlike := hcopySame
        rw [← hfree.copy_eq] at hlike
        rwa [(h.draftLike hlike).copy_eq] at hcopySame
    refine ⟨not_congr hsame, not_congr ⟨sameValue_copy, h.remoteLike⟩, fun hdiffers => ?_⟩
    have hfree := h.changedFree hdiffers
    have hagree : SameValue (ownDraft draft) remote ↔ SameValue (ownDraft draft) (remote.map cloneMergeJson) := by
      constructor
      · intro hremoteSame
        rw [(prototypeFree_of_sameValue hremoteSame hremote hfree).copy_eq]
        exact hremoteSame
      · intro hcopySame
        by_contra hclash
        by_cases hremoteSame : SameValue remote base
        · exact hdiffers (hsame.mpr (hcopySame.trans (sameValue_copy hremoteSame)))
        · rw [(h.shownFree ⟨hdiffers, hremoteSame, hclash⟩).2.copy_eq] at hcopySame
          exact hclash hcopySame
    refine ⟨hagree, fun hclash => ⟨fun _ => hfree, fun hremoteChanged => ?_⟩⟩
    obtain ⟨hfreeBase, hfreeRemote⟩ := h.shownFree ⟨hdiffers, hremoteChanged, hclash⟩
    exact ⟨hfreeBase, hfree, hfreeRemote⟩

/-- **A field that the client drops is planned alike exactly when** nobody changed it. -/
theorem sameTraces_iff_untouched {name : JsString} {dropped : FieldSides} (hbase : IsFieldValue base)
    (hremote : IsFieldValue remote) (hdraft : IsFieldValue (ownDraft draft)) :
    SameTraces (corePlan (sidesOf (.method name) base remote draft) field) (droppedPlan dropped field) ↔
      Untouched base remote draft := by
  have hordinary : IsOrdinary (.method name) := .inr ⟨name, rfl⟩
  have hother : (sidesOf (.method name) base remote draft).remoteChanged = true ↔ ¬SameValue remote base := by
    unfold FieldSides.remoteChanged sidesOf
    dsimp only
    rw [Bool.not_eq_true', ← Bool.not_eq_true, jsonEqual_readValue_iff hordinary hremote hbase]
  -- a field that the draft has as undefined counts as changed; else its own value decides
  have hlocal : (sidesOf (.method name) base remote draft).localChanged = true ↔
      ¬(draft ≠ some none ∧ SameValue (ownDraft draft) base) := by
    unfold FieldSides.localChanged sidesOf
    rcases draft with _ | _ | json
    · cases base <;> simp [ownDraft, SameValue]
    · cases base <;> simp [readDraft, readValue, jsonEqual]
    · dsimp only
      rw [if_pos Option.isSome_some, Bool.not_eq_true', ← Bool.not_eq_true]
      have hread : readDraft (.method name) (some (some json)) = readValue (.method name) (some json) := rfl
      have hown : ownDraft (some (some json)) = some json := rfl
      rw [hown] at hdraft ⊢
      rw [hread, jsonEqual_readValue_iff hordinary hdraft hbase]
      simp
  constructor
  · rintro ⟨hlocalSame, hotherSame, -, -⟩
    dsimp only [corePlan, droppedPlan] at hlocalSame hotherSame
    rw [← Bool.not_eq_true, hlocal, not_not] at hlocalSame
    rw [← Bool.not_eq_true, hother, not_not] at hotherSame
    exact ⟨hlocalSame.1, hlocalSame.2, hotherSame⟩
  · rintro ⟨hdefined, hdraftSame, hremoteSame⟩
    have hlocalFalse : (sidesOf (.method name) base remote draft).localChanged = false := by
      rw [← Bool.not_eq_true, hlocal, not_not]
      exact ⟨hdefined, hdraftSame⟩
    have hotherFalse : (sidesOf (.method name) base remote draft).remoteChanged = false := by
      rw [← Bool.not_eq_true, hother, not_not]
      exact hremoteSame
    have houtcome : (sidesOf (.method name) base remote draft).outcome = .unchanged := by
      unfold FieldSides.outcome
      rw [hlocalFalse]
      rfl
    refine ⟨hlocalFalse, hotherFalse, houtcome, fun hconflicting => ?_⟩
    dsimp only [corePlan] at hconflicting
    rw [houtcome] at hconflicting
    cases hconflicting

end

/-! ## The plans as wholes -/

/-- A snapshot as the client gets it: an object with the snapshot's members. -/
structure IsSnapshot (members : Record JsString Json) (snapshot : DocumentMergeSnapshot) : Prop where
  version : Record.get members (js "version") = some (.num snapshot.version)
  data : Record.get members (js "data") = some (.obj snapshot.data)
  docstatus : Record.get members (js "docstatus") = snapshot.docstatus.map (fun status => .str status.toText)

theorem mergeSnapshot_eq {members : Record JsString Json} {snapshot : DocumentMergeSnapshot}
    (h : IsSnapshot members snapshot) (fallbackVersion : Rat) :
    mergeSnapshot (.obj members) fallbackVersion =
      { version := snapshot.version, data := cloneMergeMembers snapshot.data
        docstatus := snapshot.docstatus.map (fun status => .str status.toText) } := by
  unfold mergeSnapshot membersOf
  dsimp only
  rw [h.version, h.data, h.docstatus]
  rfl

theorem statusConflicts_eq (base remote : Option DocStatus) :
    statusConflicts (base.map (fun status => .str status.toText)) (remote.map (fun status => .str status.toText)) =
      DocumentMerge.statusConflicts base remote := by
  cases base with
  | none => rfl
  | some base =>
    cases remote with
    | none => rfl
    | some remote =>
      cases base <;> cases remote <;> rfl

/-- The input of a merge: data and a draft of JSON values, and no field called `__proto__`, which is no valid
name of a field. -/
structure IsInput (input : PlanDocumentFieldMergeInput) : Prop where
  base : (Json.obj input.base.data).IsValue
  remote : (Json.obj input.remote.data).IsValue
  draft : ∀ field json, Record.get input.draft field = some (some json) → json.IsValue
  names : ∀ name ∈ Record.keys input.base.data ++ Record.keys input.remote.data ++ Record.keys input.draft,
    Json.trim name ≠ prototypeName
  fields : ∀ name ∈ input.fields.getD [], Json.trim name ≠ prototypeName

/-- A valid name is not `__proto__`, with or without blanks at its end. -/
theorem trim_ne_prototypeName {name : JsString} (h : isMetadataName name = true) : Json.trim name ≠ prototypeName := by
  cases name with
  | nil => decide
  | cons u rest =>
    rw [isMetadataName, Bool.and_eq_true] at h
    have hletter : ∀ v : UInt16, isAsciiLetter v = true → Json.isWhitespace v = false ∧ v ≠ 0x5F := by
      intro v hv
      unfold isAsciiLetter at hv
      unfold Json.isWhitespace
      simp only [Bool.or_eq_true, Bool.and_eq_true, decide_eq_true_eq, UInt16.le_iff_toNat_le] at hv
      simp only [Bool.or_eq_false_iff, Bool.and_eq_false_iff, decide_eq_false_iff_not, beq_eq_false_iff_ne,
        UInt16.le_iff_toNat_le, ne_eq, ← UInt16.toNat_inj]
      simp only [UInt16.reduceToNat] at hv ⊢
      omega
    obtain ⟨hblank, hunderscore⟩ := hletter u h.1
    intro htrim
    -- the first letter stays
    have hfirst : (Json.trim (u :: rest)).head? = some u := by
      unfold Json.trim
      rw [List.dropWhile_cons_of_neg (by rw [hblank]; exact Bool.false_ne_true), List.head?_reverse]
      have hlast : ((u :: rest).reverse.dropWhile Json.isWhitespace) =
          (rest.reverse.dropWhile Json.isWhitespace) ++ [u] := by
        rw [List.reverse_cons, List.dropWhile_append]
        split
        · rename_i hnil
          rw [List.isEmpty_iff] at hnil
          rw [hnil, List.dropWhile_cons_of_neg (by rw [hblank]; exact Bool.false_ne_true)]
          rfl
        · rfl
      rw [hlast, List.getLast?_concat]
    rw [htrim] at hfirst
    have hu : some (0x5F : UInt16) = some u := hfirst
    exact hunderscore (Option.some.inj hu).symm

section

variable {input : PlanDocumentFieldMergeInput} (h : IsInput input)
include h

theorem prototypeName_notMem : prototypeName ∉ input.mergeFields := by
  intro hmem
  unfold PlanDocumentFieldMergeInput.mergeFields at hmem
  rcases mem_of_mem_foldl_addFieldName hmem with hnone | ⟨name, hname, htrim⟩
  · exact absurd hnone List.not_mem_nil
  · cases hfields : input.fields with
    | none =>
      rw [hfields, Option.getD_none] at hname
      exact h.names name hname htrim
    | some fields =>
      have hthis := h.fields name
      rw [hfields, Option.getD_some] at hname hthis
      exact hthis hname htrim

theorem prototypeName_notMem_keys :
    prototypeName ∉ Record.keys input.base.data ∧ prototypeName ∉ Record.keys input.remote.data := by
  have htrim : Json.trim prototypeName = prototypeName := by decide +kernel
  constructor
  · exact fun hmem => h.names _ (List.mem_append_left _ (List.mem_append_left _ hmem)) htrim
  · exact fun hmem => h.names _ (List.mem_append_left _ (List.mem_append_right _ hmem)) htrim

omit h in
theorem keys_cloneMergeMembers {members : DocumentData} (hmembers : prototypeName ∉ Record.keys members) :
    Record.keys (cloneMergeMembers members) = Record.keys members := by
  induction members with
  | nil => rfl
  | cons entry members ih =>
    have hname : entry.1 ≠ prototypeName := fun hname => hmembers (hname ▸ List.mem_cons_self)
    rw [cloneMergeMembers, if_neg hname]
    exact congrArg (entry.1 :: ·) (ih (fun hmem => hmembers (List.mem_cons_of_mem _ hmem)))

omit h in
theorem get_copy {members : DocumentData} {field : JsString} (hfield : field ≠ prototypeName) :
    Record.get (cloneMergeMembers members) field = (Record.get members field).map cloneMergeJson := by
  rw [get_cloneMergeMembers, if_neg hfield]

end

/-- What the client's loop would find out about each field if it did not drop any. -/
def allFieldsPlan (input : PlanDocumentFieldMergeInput) (field : JsString) : FieldPlan :=
  if isOwnName field then
    clientPlan (sidesOf (inheritedValue field) (Record.get (cloneMergeMembers input.base.data) field)
      (Record.get (cloneMergeMembers input.remote.data) field) (Record.get input.draft field)) field
  else droppedPlan (input.sides field) field

theorem allFieldsPlan_conflict (input : PlanDocumentFieldMergeInput) (field : JsString) :
    (allFieldsPlan input field).conflict.field = field := by
  unfold allFieldsPlan
  by_cases hown : isOwnName field = true
  · rw [if_pos hown]
    rfl
  · rw [if_neg hown]
    rfl

/-- The client's loop over the fields it keeps is a loop over all fields in which it adds nothing for the others. -/
theorem foldl_kept (input : PlanDocumentFieldMergeInput) (fields : List JsString) (plan : DocumentMergePlan) :
    (fields.filter isOwnName).foldl
        (mergeField (cloneMergeMembers input.base.data) (cloneMergeMembers input.remote.data) input.draft) plan =
      fields.foldl (addFieldPlan (allFieldsPlan input)) plan := by
  induction fields generalizing plan with
  | nil => rfl
  | cons field fields ih =>
    by_cases hown : isOwnName field = true
    · have hstep : mergeField (cloneMergeMembers input.base.data) (cloneMergeMembers input.remote.data)
          input.draft plan field = addFieldPlan (allFieldsPlan input) plan field :=
        mergeSides_eq (allFieldsPlan input) plan field (by unfold allFieldsPlan; rw [if_pos hown])
      rw [List.filter_cons_of_pos hown, List.foldl_cons, List.foldl_cons, ih, hstep]
    · have hdropped : allFieldsPlan input field = droppedPlan (input.sides field) field := by
        unfold allFieldsPlan
        rw [if_neg hown]
      have hnothing : addFieldPlan (allFieldsPlan input) plan field = plan := by
        unfold addFieldPlan
        rw [hdropped]
        simp [droppedPlan]
      rw [List.filter_cons_of_neg hown, List.foldl_cons, hnothing, ih]

theorem documentMergePlan_eq {input : PlanDocumentFieldMergeInput}
    (hbaseKeys : prototypeName ∉ Record.keys input.base.data)
    (hremoteKeys : prototypeName ∉ Record.keys input.remote.data) {base remote : Record JsString Json}
    (hbase : IsSnapshot base input.base) (hremote : IsSnapshot remote input.remote) :
    documentMergePlan (.obj base) (.obj remote) (some input.draft) input.fields =
      withStatus (input.mergeFields.foldl (addFieldPlan (allFieldsPlan input)) input.start) := by
  unfold documentMergePlan
  dsimp only
  rw [mergeSnapshot_eq hbase, mergeSnapshot_eq hremote]
  dsimp only [Option.getD_some]
  rw [mergeFields_eq_filter input (keys_cloneMergeMembers hbaseKeys) (keys_cloneMergeMembers hremoteKeys), foldl_kept,
    statusConflicts_eq]
  rfl

theorem withStatus_inj {a b : DocumentMergePlan} (hstatus : a.status = b.status) :
    withStatus a = withStatus b ↔ a = b := by
  constructor
  · intro h
    unfold withStatus at h
    rw [DocumentFieldMergePlan.mk.injEq] at h
    obtain ⟨_, _, _, _, _, _, _, _, _⟩ := a
    obtain ⟨_, _, _, _, _, _, _, _, _⟩ := b
    rw [DocumentFieldMergePlan.mk.injEq]
    exact ⟨hstatus, h.2⟩
  · exact congrArg withStatus

/-- For a field, the condition under which the two plans have the same of it. -/
def PlansAlike (field : JsString) (base remote : Option Json) (draft : Option (Option Json)) : Prop :=
  if inheritedValue field = .undefined then ReadsAlike base remote draft else Untouched base remote draft

/-- **The client's plan is the core's exactly when** nobody changed a field whose name objects inherit, and the
copies of the other fields read alike. -/
theorem documentMergePlan_eq_iff {input : PlanDocumentFieldMergeInput} (h : IsInput input)
    {base remote : Record JsString Json} (hbase : IsSnapshot base input.base) (hremote : IsSnapshot remote input.remote) :
    documentMergePlan (.obj base) (.obj remote) (some input.draft) input.fields = planDocumentFieldMerge input ↔
      ∀ field ∈ input.mergeFields, input.At (PlansAlike field) field := by
  obtain ⟨hbaseKeys, hremoteKeys⟩ := prototypeName_notMem_keys h
  have hprototype := prototypeName_notMem h
  have hnodup : input.mergeFields.Nodup := foldl_addFieldName_nodup List.nodup_nil
  let core : JsString → FieldPlan := fun field => corePlan (input.sides field) field
  have hcore : planDocumentFieldMerge input = withStatus (input.mergeFields.foldl (addFieldPlan core) input.start) := rfl
  have hclient := documentMergePlan_eq hbaseKeys hremoteKeys hbase hremote
  have hstatus : ∀ planned : JsString → FieldPlan,
      (input.mergeFields.foldl (addFieldPlan planned) input.start).status = .clean :=
    fun planned => (foldl_addFieldPlan planned input.mergeFields input.start).status
  -- both plans are made field by field
  have hsame : input.mergeFields.foldl (addFieldPlan core) input.start =
      input.mergeFields.foldl (addFieldPlan (allFieldsPlan input)) input.start ↔
        ∀ field ∈ input.mergeFields, SameTraces (core field) (allFieldsPlan input field) :=
    foldl_eq_iff hnodup hprototype rfl (foldl_addFieldPlan _ _ _) (foldl_addFieldPlan _ _ _) (fun _ => rfl)
      (allFieldsPlan_conflict input)
  rw [hclient, hcore, eq_comm, withStatus_inj ((hstatus core).trans (hstatus (allFieldsPlan input)).symm), hsame]
  refine forall₂_congr (fun field hfield => ?_)
  have hname : field ≠ prototypeName := fun hname => hprototype (hname ▸ hfield)
  have hbaseValue : IsFieldValue (Record.get input.base.data field) :=
    fun _ hget => Json.IsValue.get h.base.members.2 hget
  have hremoteValue : IsFieldValue (Record.get input.remote.data field) :=
    fun _ hget => Json.IsValue.get h.remote.members.2 hget
  have hdraftValue : IsFieldValue (ownDraft (Record.get input.draft field)) :=
    fun json hget => h.draft field json (Option.join_eq_some_iff.mp hget)
  unfold PlanDocumentFieldMergeInput.At PlansAlike allFieldsPlan isOwnName
  by_cases hown : inheritedValue field = .undefined
  · rw [decide_eq_true hown, if_pos rfl, if_pos hown, get_copy hname, get_copy hname]
    simp only [core, PlanDocumentFieldMergeInput.sides]
    rw [hown]
    exact sameTraces_iff_readsAlike hbaseValue hremoteValue hdraftValue
  · have hmethod : inheritedValue field = .method field := by
      unfold inheritedValue at hown ⊢
      rw [if_neg hname] at hown ⊢
      by_cases hmem : field ∈ methodNames
      · rw [if_pos hmem]
      · rw [if_neg hmem] at hown
        exact absurd rfl hown
    rw [decide_eq_false hown, if_neg Bool.false_ne_true, if_neg hown]
    simp only [core, PlanDocumentFieldMergeInput.sides]
    rw [hmethod]
    exact sameTraces_iff_untouched hbaseValue hremoteValue hdraftValue

/-! ### A field that objects inherit -/

/-- A draft that sets the field `constructor` of a document that has no data yet. -/
def setConstructor : PlanDocumentFieldMergeInput where
  base := { version := 1, docstatus := some .draft, data := [] }
  remote := { version := 1, docstatus := some .draft, data := [] }
  draft := [(js "constructor", some (.str (js "Acme")))]

/-- The document as the client gets it. -/
def emptySnapshot : Record JsString Json :=
  [(js "version", .num 1), (js "docstatus", .str (js "draft")), (js "data", .obj [])]

theorem isInput_setConstructor : IsInput setConstructor where
  base := .obj List.nodup_nil (fun _ hentry => absurd hentry List.not_mem_nil)
  remote := .obj List.nodup_nil (fun _ hentry => absurd hentry List.not_mem_nil)
  draft := by
    intro field json hget
    obtain rfl : json = .str (js "Acme") := by
      have hmem := Record.mem_of_get hget
      simp only [setConstructor, List.mem_singleton, Prod.mk.injEq, Option.some.injEq] at hmem
      exact hmem.2
    exact .str _
  names := by
    intro name hname
    obtain rfl : name = js "constructor" := List.mem_singleton.mp hname
    exact trim_ne_prototypeName (by decide +kernel)
  fields := fun _ hname => absurd hname List.not_mem_nil

theorem isSnapshot_empty : IsSnapshot emptySnapshot setConstructor.base where
  version := by decide +kernel
  data := by decide +kernel
  docstatus := by decide +kernel

theorem documentMergePlan_eq_iff_setConstructor :
    documentMergePlan (.obj emptySnapshot) (.obj emptySnapshot) (some setConstructor.draft) setConstructor.fields =
        planDocumentFieldMerge setConstructor ↔
      ∀ field ∈ setConstructor.mergeFields, setConstructor.At (PlansAlike field) field :=
  documentMergePlan_eq_iff isInput_setConstructor isSnapshot_empty isSnapshot_empty

/-- The core patches the field, the client finds nothing to merge. -/
theorem documentMergePlan_ne_setConstructor :
    isMetadataName (js "constructor") = true ∧ IsInput setConstructor ∧
      IsSnapshot emptySnapshot setConstructor.base ∧ IsSnapshot emptySnapshot setConstructor.remote ∧
      (documentMergePlan (.obj emptySnapshot) (.obj emptySnapshot) (some setConstructor.draft) none).patch.own = [] ∧
      (planDocumentFieldMerge setConstructor).patch.own = [(js "constructor", .value (.str (js "Acme")))] ∧
      documentMergePlan (.obj emptySnapshot) (.obj emptySnapshot) (some setConstructor.draft) setConstructor.fields ≠
        planDocumentFieldMerge setConstructor := by
  have hclient : (documentMergePlan (.obj emptySnapshot) (.obj emptySnapshot) (some setConstructor.draft)
      setConstructor.fields).patch.own = [] := by
    decide +kernel
  have hcore : (planDocumentFieldMerge setConstructor).patch.own =
      [(js "constructor", .value (.str (js "Acme")))] := by
    decide +kernel
  refine ⟨by decide +kernel, isInput_setConstructor, isSnapshot_empty, isSnapshot_empty, hclient, hcore, ?_⟩
  intro hsame
  rw [hsame, hcore] at hclient
  cases hclient

end DeskMerge
