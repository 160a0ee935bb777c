import CfFrappe.Core.DocumentMerge

set_option autoImplicit false

/-! # Correct merges

A plan collects the outcomes of all fields: those in conflict are listed, the others go into the patch or into
the fields to unset (`Adds`). So a plan that is clean can be applied, and leaves each field as its outcome says
(`lands_of_applyPlan`), if its patch is an object of JSON values. `mergesCorrectly_iff` says for which inputs a
plan does what a merge is for.
-/

open Utf

namespace DocumentMerge

/-! ## The plan as a whole -/

section

variable (input : PlanDocumentFieldMergeInput)

/-- What a field is patched with. -/
def patchedValue (field : JsString) : Option FieldValue :=
  match (input.sides field).outcome with
  | .patched value => some value
  | _ => none

def patches (fields : List JsString) : Record JsString FieldValue :=
  fields.filterMap (fun field => (patchedValue input field).map (fun value => (field, value)))

/-- What turns of the loop add to a plan. -/
structure Adds (fields : List JsString) (before after : DocumentFieldMergePlan) : Prop where
  conflicts : after.conflicts = before.conflicts ++
    (fields.filter (fun field => (input.sides field).outcome = .conflicting)).map
      (fun field => conflictFor field .remoteChanged (input.sides field))
  unset : after.unset = before.unset ++ fields.filter (fun field => (input.sides field).outcome = .unset)
  patch : after.patch = (patches input fields).foldl (fun patch entry => patch.assign entry.1 entry.2) before.patch

theorem mergeField_adds (plan : DocumentFieldMergePlan) (field : JsString) :
    Adds input [field] plan (input.mergeField plan field) := by
  unfold PlanDocumentFieldMergeInput.mergeField
  cases h : (input.sides field).outcome <;>
    exact ⟨by simp [h], by simp [h], by simp [h, patches, patchedValue]⟩

theorem foldl_mergeField_adds (fields : List JsString) (plan : DocumentFieldMergePlan) :
    Adds input fields plan (fields.foldl input.mergeField plan) := by
  induction fields generalizing plan with
  | nil => exact ⟨by simp, by simp, rfl⟩
  | cons field fields ih =>
    have hhead := mergeField_adds input plan field
    have htail := ih (input.mergeField plan field)
    rw [List.foldl_cons]
    refine ⟨?_, ?_, ?_⟩
    · rw [htail.conflicts, hhead.conflicts, List.append_assoc, ← List.map_append, ← List.filter_append]
      rfl
    · rw [htail.unset, hhead.unset, List.append_assoc, ← List.filter_append]
      rfl
    · rw [htail.patch, hhead.patch, ← List.foldl_append]
      unfold patches
      rw [← List.filterMap_append]
      rfl

theorem planDocumentFieldMerge_adds : Adds input input.mergeFields input.start (planDocumentFieldMerge input) :=
  have h := foldl_mergeField_adds input input.mergeFields input.start
  ⟨h.conflicts, h.unset, h.patch⟩

theorem get_patches (fields : List JsString) (field : JsString) :
    Record.get (patches input fields) field = if field ∈ fields then patchedValue input field else none := by
  induction fields with
  | nil => rfl
  | cons head fields ih =>
    unfold patches at ih ⊢
    rw [List.filterMap_cons]
    by_cases hhead : head = field
    · subst hhead
      rw [if_pos List.mem_cons_self]
      cases hvalue : patchedValue input head with
      | some value => simp [Record.get_cons]
      | none =>
        dsimp only [Option.map_none]
        rw [ih, hvalue]
        simp
    · have hmem : field ∈ head :: fields ↔ field ∈ fields := by
        rw [List.mem_cons, or_iff_right (Ne.symm hhead)]
      simp only [hmem]
      cases hvalue : patchedValue input head with
      | some value =>
        dsimp only [Option.map_some]
        rw [Record.get_cons, if_neg hhead, ih]
      | none => exact ih

theorem nodup_keys_patches {fields : List JsString} (h : fields.Nodup) :
    (Record.keys (patches input fields)).Nodup := by
  have hkeys : Record.keys (patches input fields) =
      fields.filter (fun field => (patchedValue input field).isSome) := by
    unfold patches Record.keys
    induction fields with
    | nil => rfl
    | cons field fields ih =>
      have ih' := ih (List.nodup_cons.mp h).2
      cases hvalue : patchedValue input field <;> simp [hvalue, ih']
  rw [hkeys]
  exact h.filter _

end

/-- What is assigned to a patch can be read from it, except for `__proto__`. -/
theorem get_foldl_assign {entries : Record JsString FieldValue} (hkeys : (Record.keys entries).Nodup)
    (patch : PlannedPatch) {field : JsString} :
    Record.get (entries.foldl (fun patch entry => patch.assign entry.1 entry.2) patch).own field =
      if field = prototypeName then Record.get patch.own field
      else (Record.get entries field).or (Record.get patch.own field) := by
  induction entries generalizing patch with
  | nil => simp
  | cons entry entries ih =>
    obtain ⟨hnew, hkeys⟩ := List.nodup_cons.mp hkeys
    rw [List.foldl_cons, ih hkeys, Record.get_cons]
    unfold PlannedPatch.assign
    by_cases hprototype : field = prototypeName
    · rw [if_pos hprototype, if_pos hprototype]
      by_cases hname : entry.1 = prototypeName
      · rw [if_pos hname]
        split <;> rfl
      · rw [if_neg hname]
        simp [hprototype, hname]
    · rw [if_neg hprototype, if_neg hprototype]
      by_cases hentry : entry.1 = field
      · rw [if_neg (fun h => hprototype (hentry.symm.trans h)), if_pos hentry]
        have hnone : Record.get entries field = none := by
          rw [← hentry]
          by_contra hsome
          exact hnew (Record.mem_keys.mpr hsome)
        simp [hnone, hentry]
      · rw [if_neg hentry]
        by_cases hname : entry.1 = prototypeName
        · rw [if_pos hname]
          split <;> rfl
        · rw [if_neg hname]
          simp [hentry]

theorem plain_foldl_assign {entries : Record JsString FieldValue} (h : prototypeName ∉ Record.keys entries)
    (patch : PlannedPatch) :
    (entries.foldl (fun patch entry => patch.assign entry.1 entry.2) patch).plain = patch.plain := by
  induction entries generalizing patch with
  | nil => rfl
  | cons entry entries ih =>
    obtain ⟨hentry, hentries⟩ := not_or.mp (fun hor => h (List.mem_cons.mpr hor))
    rw [List.foldl_cons, ih hentries]
    unfold PlannedPatch.assign
    rw [if_neg (Ne.symm hentry)]

theorem nodup_keys_foldl_assign (entries : Record JsString FieldValue) {patch : PlannedPatch}
    (h : (Record.keys patch.own).Nodup) :
    (Record.keys (entries.foldl (fun patch entry => patch.assign entry.1 entry.2) patch).own).Nodup := by
  induction entries generalizing patch with
  | nil => exact h
  | cons entry entries ih =>
    rw [List.foldl_cons]
    apply ih
    unfold PlannedPatch.assign
    by_cases hname : entry.1 = prototypeName
    · rw [if_pos hname]
      split <;> exact h
    · rw [if_neg hname]
      exact Record.nodup_keys_set h _ _

/-! ### Patches as data -/

theorem get_mapM_json {own : Record JsString FieldValue} {data : DocumentData}
    (h : own.mapM jsonEntry? = some data) (field : JsString) :
    Record.get data field = (Record.get own field).bind FieldValue.json? := by
  induction own generalizing data with
  | nil =>
    cases h
    rfl
  | cons entry own ih =>
    rw [List.mapM_cons, jsonEntry?] at h
    cases hjson : entry.2.json? with
    | none =>
      rw [hjson] at h
      cases h
    | some json =>
      rw [hjson] at h
      cases hrest : own.mapM jsonEntry? with
      | none =>
        rw [hrest] at h
        cases h
      | some rest =>
        rw [hrest] at h
        cases h
        rw [Record.get_cons, Record.get_cons]
        by_cases hname : entry.1 = field
        · rw [if_pos hname, if_pos hname, Option.bind_some, hjson]
        · rw [if_neg hname, if_neg hname, ih hrest]

theorem isSome_mapM_json_iff {own : Record JsString FieldValue} :
    (own.mapM jsonEntry?).isSome = true ↔ ∀ entry ∈ own, entry.2.json?.isSome = true := by
  induction own with
  | nil => simp
  | cons entry own ih =>
    rw [List.mapM_cons, List.forall_mem_cons, ← ih, jsonEntry?]
    cases entry.2.json? with
    | none => simp
    | some json =>
      cases own.mapM jsonEntry? <;> simp

/-! ### The fields -/

theorem foldl_addFieldName_spec {names : List JsString} (htrimmed : ∀ name ∈ names, Json.trim name = name ∧ name ≠ [])
    {seen : List JsString} (hseen : seen.Nodup) :
    (names.foldl addFieldName seen).Nodup ∧
      ∀ name, name ∈ names.foldl addFieldName seen ↔ name ∈ seen ∨ name ∈ names := by
  induction names generalizing seen with
  | nil => simpa using hseen
  | cons first names ih =>
    obtain ⟨hfirst, hrest⟩ := List.forall_mem_cons.mp htrimmed
    rw [List.foldl_cons, addFieldName, hfirst.1]
    by_cases hmem : first ∈ seen
    · rw [if_pos (by simp [hmem])]
      obtain ⟨hnodup, hiff⟩ := ih hrest hseen
      refine ⟨hnodup, fun name => ?_⟩
      rw [hiff, List.mem_cons]
      constructor
      · exact fun h => h.elim Or.inl (fun h => Or.inr (Or.inr h))
      · rintro (h | rfl | h)
        · exact Or.inl h
        · exact Or.inl hmem
        · exact Or.inr h
    · rw [if_neg (by simp [hmem, hfirst.2])]
      have hseen' : (seen ++ [first]).Nodup := by
        rw [List.nodup_append]
        exact ⟨hseen, List.nodup_singleton first, fun a ha b hb h => hmem (by simp_all)⟩
      obtain ⟨hnodup, hiff⟩ := ih hrest hseen'
      refine ⟨hnodup, fun name => ?_⟩
      rw [hiff, List.mem_append, List.mem_singleton, List.mem_cons, or_assoc]

/-- The three sides of a merge over all their fields: JSON objects, and a draft, whose values may be `undefined`. -/
structure PlanDocumentFieldMergeInput.IsMerge (input : PlanDocumentFieldMergeInput) : Prop where
  base : (Json.obj input.base.data).IsValue
  remote : (Json.obj input.remote.data).IsValue
  draft : ∀ field json, Record.get input.draft field = some (some json) → json.IsValue
  allFields : input.fields = none
  trimmed : ∀ name ∈ Record.keys input.base.data ++ Record.keys input.remote.data ++ Record.keys input.draft,
    Json.trim name = name ∧ name ≠ []

section

variable {input : PlanDocumentFieldMergeInput} (h : input.IsMerge)
include h

theorem nodup_mergeFields : input.mergeFields.Nodup := by
  unfold PlanDocumentFieldMergeInput.mergeFields
  rw [h.allFields]
  exact (foldl_addFieldName_spec h.trimmed List.nodup_nil).1

theorem mem_mergeFields (field : JsString) :
    field ∈ input.mergeFields ↔ Record.get input.base.data field ≠ none ∨ Record.get input.remote.data field ≠ none ∨
      Record.get input.draft field ≠ none := by
  unfold PlanDocumentFieldMergeInput.mergeFields
  rw [h.allFields]
  have hspec := (foldl_addFieldName_spec h.trimmed List.nodup_nil).2 field
  dsimp only [Option.getD_none] at hspec ⊢
  rw [hspec, or_iff_right List.not_mem_nil, List.mem_append, List.mem_append, Record.mem_keys, Record.mem_keys,
    Record.mem_keys, or_assoc]

theorem base_isValue (field : JsString) : ∀ json, Record.get input.base.data field = some json → json.IsValue :=
  fun _ hget => Json.IsValue.get h.base.members.2 hget

theorem remote_isValue (field : JsString) : ∀ json, Record.get input.remote.data field = some json → json.IsValue :=
  fun _ hget => Json.IsValue.get h.remote.members.2 hget

end

/-! ## Correct merges -/

namespace PlanDocumentFieldMergeInput

variable (input : PlanDocumentFieldMergeInput)

/-- The other side has another `docstatus` than the base. -/
def StatusChanged : Prop :=
  ∃ before after, input.base.docstatus = some before ∧ input.remote.docstatus = some after ∧ before ≠ after

/-- What holds of a field on the three sides. -/
def At (holds : Option Json → Option Json → Option (Option Json) → Prop) (field : JsString) : Prop :=
  holds (Record.get input.base.data field) (Record.get input.remote.data field) (Record.get input.draft field)

end PlanDocumentFieldMergeInput

/-- A plan in conflict about a field, which it leaves alone. -/
structure DocumentFieldMergePlan.Lists (plan : DocumentFieldMergePlan) (field : JsString) : Prop where
  status : plan.status = .conflict
  conflict : ∃ conflict ∈ plan.conflicts, conflict.field = field
  patch : field ∉ Record.keys plan.patch.own
  unset : field ∉ plan.unset

/-- **The purpose of a merge**: a clean plan can be applied to the other side and keeps the changes of both; what
both changed differently is in conflict, and so is the `docstatus` if it changed. -/
structure MergesCorrectly (input : PlanDocumentFieldMergeInput) : Prop where
  clean : (planDocumentFieldMerge input).status = .clean →
    ∃ data, applyPlan input.remote.data (planDocumentFieldMerge input) = .ok data ∧
      ∀ field, input.At (fun base remote draft => Keeps base remote draft (Record.get data field)) field
  conflict : ∀ field, input.At BothChanged field → (planDocumentFieldMerge input).Lists field
  docstatus : input.StatusChanged → (planDocumentFieldMerge input).Lists (js "docstatus")

/-- The inputs that are merged correctly. -/
structure Mergeable (input : PlanDocumentFieldMergeInput) : Prop where
  seen : ¬input.At PrototypeClash prototypeName
  docstatus : input.StatusChanged →
    ¬input.At (fun base remote draft => ¬SameValue (ownDraft draft) base ∧ SameValue remote base) (js "docstatus")
  kept : ¬input.StatusChanged → (∀ field, ¬input.At (InConflict (inheritedValue field)) field) →
    ∀ field, ¬input.At (Lost (inheritedValue field)) field

theorem inheritedValue_eq_prototype {field : JsString} (h : inheritedValue field = .objectPrototype) :
    field = prototypeName := by
  unfold inheritedValue at h
  by_cases hname : field = prototypeName
  · exact hname
  · rw [if_neg hname] at h
    split_ifs at h

theorem statusConflicts_eq_nil_iff (input : PlanDocumentFieldMergeInput) :
    statusConflicts input.base.docstatus input.remote.docstatus = [] ↔ ¬input.StatusChanged := by
  unfold statusConflicts PlanDocumentFieldMergeInput.StatusChanged
  cases input.base.docstatus with
  | none => simp
  | some before =>
    cases input.remote.docstatus with
    | none => simp
    | some after => by_cases hsame : before = after <;> simp [hsame]

theorem field_of_mem_statusConflicts {base remote : Option DocStatus} {conflict : DocumentFieldMergeConflict}
    (h : conflict ∈ statusConflicts base remote) : conflict.field = js "docstatus" := by
  unfold statusConflicts at h
  split at h
  · split_ifs at h
    · cases h
    · rw [List.mem_singleton.mp h]
      rfl
  · cases h

section

variable {input : PlanDocumentFieldMergeInput} (h : input.IsMerge)
include h

theorem sides_conflicting_iff (hseen : ¬input.At PrototypeClash prototypeName) (field : JsString) :
    (input.sides field).outcome = .conflicting ↔ input.At (InConflict (inheritedValue field)) field := by
  unfold PlanDocumentFieldMergeInput.sides PlanDocumentFieldMergeInput.At
  rcases inheritedValue_cases field with hordinary | hprototype
  · exact conflicting_iff_of_ordinary (base_isValue h field) (remote_isValue h field) (h.draft field) hordinary
  · rw [hprototype]
    obtain rfl := inheritedValue_eq_prototype hprototype
    exact conflicting_iff_of_prototype (base_isValue h _) (remote_isValue h _) (h.draft _) hseen

theorem sides_lands_iff (hseen : ¬input.At PrototypeClash prototypeName) {field : JsString}
    (hclean : (input.sides field).outcome ≠ .conflicting) :
    (∃ result, Lands (inheritedValue field) (Record.get input.remote.data field) (input.sides field).outcome result ∧
        input.At (fun base remote draft => Keeps base remote draft result) field) ↔
      ¬input.At (Lost (inheritedValue field)) field := by
  unfold PlanDocumentFieldMergeInput.sides at hclean ⊢
  unfold PlanDocumentFieldMergeInput.At
  rcases inheritedValue_cases field with hordinary | hprototype
  · exact lands_iff_of_ordinary (base_isValue h field) (remote_isValue h field) (h.draft field) hordinary hclean
  · rw [hprototype] at hclean ⊢
    obtain rfl := inheritedValue_eq_prototype hprototype
    exact lands_iff_of_prototype (base_isValue h _) (remote_isValue h _) (h.draft _) hseen hclean

/-- A field that is on no side is not concerned. -/
theorem not_mem_mergeFields {field : JsString} (hfield : field ∉ input.mergeFields) :
    Record.get input.base.data field = none ∧ Record.get input.remote.data field = none ∧
      Record.get input.draft field = none := by
  rw [mem_mergeFields h, not_or, not_or, not_not, not_not, not_not] at hfield
  exact hfield

omit h in
theorem status_clean_iff :
    (planDocumentFieldMerge input).status = .clean ↔
      ¬input.StatusChanged ∧ ∀ field ∈ input.mergeFields, (input.sides field).outcome ≠ .conflicting := by
  have hconflicts := (planDocumentFieldMerge_adds input).conflicts
  have hstatus : (planDocumentFieldMerge input).status = .clean ↔ (planDocumentFieldMerge input).conflicts = [] := by
    unfold planDocumentFieldMerge
    dsimp only
    split_ifs with hempty
    · exact iff_of_true rfl (List.isEmpty_iff.mp hempty)
    · exact iff_of_false nofun (fun hnil => hempty (List.isEmpty_iff.mpr hnil))
  rw [hstatus, hconflicts, List.append_eq_nil_iff, List.map_eq_nil_iff, List.filter_eq_nil_iff]
  refine and_congr (statusConflicts_eq_nil_iff input) ?_
  simp only [decide_eq_true_eq, ne_eq]

theorem get_patch (field : JsString) :
    Record.get (planDocumentFieldMerge input).patch.own field =
      if field ∈ input.mergeFields ∧ field ≠ prototypeName then patchedValue input field else none := by
  rw [(planDocumentFieldMerge_adds input).patch, get_foldl_assign (nodup_keys_patches input (nodup_mergeFields h)),
    get_patches]
  show (if field = prototypeName then none else Option.or _ none) = _
  by_cases hname : field = prototypeName <;> simp [hname]

omit h in
theorem mem_unset_iff (field : JsString) :
    field ∈ (planDocumentFieldMerge input).unset ↔
      field ∈ input.mergeFields ∧ (input.sides field).outcome = .unset := by
  rw [(planDocumentFieldMerge_adds input).unset]
  simp [PlanDocumentFieldMergeInput.start]

theorem mem_patch_iff (field : JsString) :
    field ∈ Record.keys (planDocumentFieldMerge input).patch.own ↔
      field ∈ input.mergeFields ∧ field ≠ prototypeName ∧ ∃ value, (input.sides field).outcome = .patched value := by
  rw [Record.mem_keys, get_patch h]
  unfold patchedValue
  by_cases hfield : field ∈ input.mergeFields ∧ field ≠ prototypeName
  · rw [if_pos hfield]
    cases houtcome : (input.sides field).outcome <;> simp [hfield]
  · rw [if_neg hfield]
    exact iff_of_false (fun hnone => hnone rfl) (fun hmem => hfield ⟨hmem.1, hmem.2.1⟩)

/-- A field that is in conflict is listed and left alone. -/
theorem lists_of_conflicting {field : JsString} (hfield : field ∈ input.mergeFields)
    (hconflict : (input.sides field).outcome = .conflicting) : (planDocumentFieldMerge input).Lists field where
  status := by
    cases hstatus : (planDocumentFieldMerge input).status with
    | conflict => rfl
    | clean => exact absurd hconflict ((status_clean_iff.mp hstatus).2 field hfield)
  conflict := by
    refine ⟨conflictFor field .remoteChanged (input.sides field), ?_, rfl⟩
    rw [(planDocumentFieldMerge_adds input).conflicts]
    refine List.mem_append_right _ (List.mem_map.mpr ⟨field, ?_, rfl⟩)
    exact List.mem_filter.mpr ⟨hfield, decide_eq_true hconflict⟩
  patch := by
    rw [mem_patch_iff h, hconflict]
    simp
  unset := by
    rw [mem_unset_iff, hconflict]
    simp

omit h in
theorem get_applyPlan {data : DocumentData}
    (happly : applyPlan input.remote.data (planDocumentFieldMerge input) = .ok data) :
    (∀ entry ∈ (planDocumentFieldMerge input).patch.own, entry.2.json?.isSome = true) ∧
      ∀ field, Record.get data field =
        if field ∈ (planDocumentFieldMerge input).unset then none
        else ((Record.get (planDocumentFieldMerge input).patch.own field).bind FieldValue.json?).or
          (Record.get input.remote.data field) := by
  unfold applyPlan at happly
  cases hpatch : (planDocumentFieldMerge input).patch.data? with
  | none =>
    rw [hpatch] at happly
    cases happly
  | some patch =>
    rw [hpatch] at happly
    have hjson : (planDocumentFieldMerge input).patch.own.mapM jsonEntry? = some patch := by
      unfold PlannedPatch.data? at hpatch
      split_ifs at hpatch
      exact hpatch
    refine ⟨isSome_mapM_json_iff.mp (by rw [hjson]; rfl), fun field => ?_⟩
    rw [← Except.ok.inj happly, applyDocumentDataChange, Record.get_without, Record.get_merge, get_mapM_json hjson]
    split_ifs <;> rfl

/-- **An applied plan** leaves every field as its outcome says. -/
theorem lands_of_applyPlan {data : DocumentData}
    (happly : applyPlan input.remote.data (planDocumentFieldMerge input) = .ok data) {field : JsString}
    (hfield : field ∈ input.mergeFields)
    (hprototype : ∀ value, (input.sides field).outcome = .patched value → field ≠ prototypeName) :
    Lands (inheritedValue field) (Record.get input.remote.data field) (input.sides field).outcome
      (Record.get data field) := by
  obtain ⟨hvalues, hget⟩ := get_applyPlan happly
  have hunset := @mem_unset_iff input field
  have hown := get_patch h field
  rw [and_iff_right hfield] at hunset
  rw [hget]
  simp only [hunset]
  cases houtcome : (input.sides field).outcome with
  | unset =>
    rw [if_pos rfl]
    rfl
  | patched value =>
    have hname := hprototype value houtcome
    have hvalue : patchedValue input field = some value := by
      unfold patchedValue
      rw [houtcome]
    rw [if_pos ⟨hfield, hname⟩, hvalue] at hown
    obtain ⟨json, hread⟩ := Option.isSome_iff_exists.mp (hvalues (field, value) (Record.mem_of_get hown))
    rw [if_neg nofun, hown, Option.bind_some, hread, Option.some_or]
    refine ⟨fun hinherited => hname (inheritedValue_eq_prototype hinherited), json, ?_, rfl⟩
    cases value with
    | value own => exact congrArg FieldValue.value (Option.some.inj hread)
    | undefined | method | objectPrototype => cases hread
  | unchanged | conflicting | agreed =>
    have hvalue : patchedValue input field = none := by
      unfold patchedValue
      rw [houtcome]
    rw [hvalue, ite_self] at hown
    rw [if_neg nofun, hown]
    rfl

/-- A plan whose patch has only JSON values, and none for `__proto__`, can be applied. -/
theorem applyPlan_ok (hpatched : ∀ field value, (input.sides field).outcome = .patched value →
      field ∈ input.mergeFields → field ≠ prototypeName ∧ value.json?.isSome = true) :
    ∃ data, applyPlan input.remote.data (planDocumentFieldMerge input) = .ok data := by
  have hplain : (planDocumentFieldMerge input).patch.plain = true := by
    rw [(planDocumentFieldMerge_adds input).patch, plain_foldl_assign]
    · rfl
    · rw [Record.mem_keys, not_not, get_patches]
      by_cases hfield : prototypeName ∈ input.mergeFields
      · rw [if_pos hfield]
        unfold patchedValue
        cases houtcome : (input.sides prototypeName).outcome with
        | patched value => exact absurd rfl (hpatched _ value houtcome hfield).1
        | _ => rfl
      · rw [if_neg hfield]
  have hvalues : ∀ entry ∈ (planDocumentFieldMerge input).patch.own, entry.2.json?.isSome = true := by
    intro entry hentry
    have hnodup : (Record.keys (planDocumentFieldMerge input).patch.own).Nodup := by
      rw [(planDocumentFieldMerge_adds input).patch]
      exact nodup_keys_foldl_assign _ List.nodup_nil
    have hget := Record.get_of_mem hnodup hentry
    rw [get_patch h] at hget
    split_ifs at hget with hfield
    unfold patchedValue at hget
    cases houtcome : (input.sides entry.1).outcome with
    | patched value =>
      rw [houtcome] at hget
      rw [← Option.some.inj hget]
      exact (hpatched _ value houtcome hfield.1).2
    | _ =>
      rw [houtcome] at hget
      cases hget
  obtain ⟨patch, hpatch⟩ := Option.isSome_iff_exists.mp (isSome_mapM_json_iff.mpr hvalues)
  refine ⟨applyDocumentDataChange input.remote.data patch (planDocumentFieldMerge input).unset, ?_⟩
  unfold applyPlan PlannedPatch.data?
  rw [if_pos hplain, hpatch]

/-- Where both sides changed a field, one of them has it. -/
theorem mem_mergeFields_of_bothChanged {field : JsString} (hboth : input.At BothChanged field) :
    field ∈ input.mergeFields := by
  by_contra hfield
  obtain ⟨hbase, hremote, -⟩ := not_mem_mergeFields h hfield
  unfold PlanDocumentFieldMergeInput.At at hboth
  rw [hbase, hremote] at hboth
  exact hboth.2.1 trivial

/-- A field that nobody has is not lost, and kept by every result. -/
theorem not_lost_of_not_mem {field : JsString} (hfield : field ∉ input.mergeFields) :
    ¬input.At (Lost (inheritedValue field)) field := by
  obtain ⟨hbase, hremote, hdraft⟩ := not_mem_mergeFields h hfield
  unfold PlanDocumentFieldMergeInput.At Lost MisreadRemoval PrototypeChanged PrototypeAdded
  rw [hbase, hremote, hdraft]
  simp

theorem not_inConflict_of_not_mem {field : JsString} (hfield : field ∉ input.mergeFields) :
    ¬input.At (InConflict (inheritedValue field)) field := by
  obtain ⟨hbase, hremote, hdraft⟩ := not_mem_mergeFields h hfield
  unfold PlanDocumentFieldMergeInput.At InConflict BothChanged MisreadAbsence
  rw [hbase, hremote, hdraft]
  simp [SameValue]

/-- A changed `docstatus` is listed, except where the draft changes a field of this name. -/
theorem lists_docstatus_iff (hchanged : input.StatusChanged) :
    (planDocumentFieldMerge input).Lists (js "docstatus") ↔
      ¬input.At (fun base remote draft => ¬SameValue (ownDraft draft) base ∧ SameValue remote base) (js "docstatus") := by
  have hread : readDraft .undefined (Record.get input.draft (js "docstatus")) =
      readValue .undefined (ownDraft (Record.get input.draft (js "docstatus"))) := by
    rcases Record.get input.draft (js "docstatus") with _ | _ | json <;> rfl
  have hdecided := outcome_of_read (base_isValue h (js "docstatus")) (remote_isValue h (js "docstatus"))
    (h.draft (js "docstatus")) (Or.inl rfl) hread
  have hsides : (input.sides (js "docstatus")) = sidesOf .undefined (Record.get input.base.data (js "docstatus"))
      (Record.get input.remote.data (js "docstatus")) (Record.get input.draft (js "docstatus")) := by
    unfold PlanDocumentFieldMergeInput.sides
    rw [show inheritedValue (js "docstatus") = .undefined by decide +kernel]
  rw [← hsides] at hdecided
  have hname : js "docstatus" ≠ prototypeName := by decide +kernel
  -- the status alone puts the plan in conflict
  have hlists : (planDocumentFieldMerge input).Lists (js "docstatus") ↔
      js "docstatus" ∉ Record.keys (planDocumentFieldMerge input).patch.own ∧
        js "docstatus" ∉ (planDocumentFieldMerge input).unset := by
    refine ⟨fun hl => ⟨hl.patch, hl.unset⟩, fun hleft => ⟨?_, ?_, hleft.1, hleft.2⟩⟩
    · cases hstatus : (planDocumentFieldMerge input).status with
      | conflict => rfl
      | clean => exact absurd hchanged (status_clean_iff.mp hstatus).1
    · obtain ⟨conflict, hmem⟩ := List.exists_mem_of_ne_nil _
        (fun hnil => (statusConflicts_eq_nil_iff input).mp hnil hchanged)
      refine ⟨conflict, ?_, field_of_mem_statusConflicts hmem⟩
      rw [(planDocumentFieldMerge_adds input).conflicts]
      exact List.mem_append_left _ hmem
  have hpresent : ¬SameValue (ownDraft (Record.get input.draft (js "docstatus"))) (Record.get input.base.data (js "docstatus")) →
      js "docstatus" ∈ input.mergeFields := by
    intro hdiffer
    by_contra hfield
    obtain ⟨hbase, -, hdraft⟩ := not_mem_mergeFields h hfield
    rw [hbase, hdraft] at hdiffer
    exact hdiffer trivial
  rw [hlists, mem_patch_iff h, mem_unset_iff]
  unfold PlanDocumentFieldMergeInput.At
  generalize (input.sides (js "docstatus")).outcome = outcome at hdecided
  cases hdecided with
  | unchanged hl => exact iff_of_true (by simp) (fun hlost => hlost.1 (not_not.mp hl))
  | conflicting hl hr ha => exact iff_of_true (by simp) (fun hlost => hr hlost.2)
  | agreed hl ha => exact iff_of_true (by simp) (fun hlost => hl (ha.trans hlost.2))
  | unset hl hr ha => exact iff_of_false (fun hleft => hleft.2 ⟨hpresent hl, rfl⟩) (not_not.mpr ⟨hl, not_not.mp hr⟩)
  | patched hl hr ha =>
    exact iff_of_false (fun hleft => hleft.1 ⟨hpresent hl, hname, _, rfl⟩) (not_not.mpr ⟨hl, not_not.mp hr⟩)

/-- **Merges are correct** for the mergeable inputs, and for no others. -/
theorem mergesCorrectly_iff : MergesCorrectly input ↔ Mergeable input := by
  constructor
  · intro hcorrect
    have hseen : ¬input.At PrototypeClash prototypeName := by
      intro hclash
      have hinherited : inheritedValue prototypeName = .objectPrototype := rfl
      obtain ⟨hboth, hunseen⟩ := not_conflicting_of_clash (base_isValue h prototypeName)
        (remote_isValue h prototypeName) (h.draft prototypeName) hclash
      obtain ⟨conflict, hmem, hname⟩ := (hcorrect.conflict prototypeName hboth).conflict
      rw [(planDocumentFieldMerge_adds input).conflicts, List.mem_append] at hmem
      rcases hmem with hstatus | hfield
      · rw [field_of_mem_statusConflicts hstatus] at hname
        exact absurd hname (by decide +kernel)
      · obtain ⟨field, hconflicting, rfl⟩ := List.mem_map.mp hfield
        have houtcome := of_decide_eq_true (List.mem_filter.mp hconflicting).2
        rw [show field = prototypeName from hname] at houtcome
        exact hunseen houtcome
    refine ⟨hseen, fun hchanged => (lists_docstatus_iff h hchanged).mp (hcorrect.docstatus hchanged), ?_⟩
    intro hstatus hagreed field
    have houtcomes : ∀ field, (input.sides field).outcome ≠ .conflicting := fun field =>
      (sides_conflicting_iff h hseen field).not.mpr (hagreed field)
    obtain ⟨data, happly, hkeeps⟩ := hcorrect.clean (status_clean_iff.mpr ⟨hstatus, fun field _ => houtcomes field⟩)
    by_cases hfield : field ∈ input.mergeFields
    · refine (sides_lands_iff h hseen (houtcomes field)).mp ⟨Record.get data field, ?_, hkeeps field⟩
      refine lands_of_applyPlan h happly hfield ?_
      rintro value hpatched rfl
      -- what is assigned to `__proto__` is not in the patch, so that the other side's value is left
      have hleft : Record.get data prototypeName = Record.get input.remote.data prototypeName := by
        have hunset : prototypeName ∉ (planDocumentFieldMerge input).unset := by
          rw [mem_unset_iff, hpatched]
          simp
        rw [(get_applyPlan happly).2, if_neg hunset, get_patch h, if_neg (fun hpatch => hpatch.2 rfl)]
        rfl
      have hkept := hkeeps prototypeName
      rw [hleft] at hkept
      exact not_keeps_of_patched (base_isValue h _) (remote_isValue h _) (h.draft _) hpatched hkept
    · exact not_lost_of_not_mem h hfield
  · intro hmergeable
    have hconflicting := sides_conflicting_iff h hmergeable.seen
    refine ⟨?_, ?_, fun hchanged => (lists_docstatus_iff h hchanged).mpr (hmergeable.docstatus hchanged)⟩
    · intro hclean
      obtain ⟨hstatus, houtcomes⟩ := status_clean_iff.mp hclean
      have hagreed : ∀ field, ¬input.At (InConflict (inheritedValue field)) field := by
        intro field
        by_cases hfield : field ∈ input.mergeFields
        · exact (hconflicting field).not.mp (houtcomes field hfield)
        · exact not_inConflict_of_not_mem h hfield
      have hlands := fun field hfield => (sides_lands_iff h hmergeable.seen (houtcomes field hfield)).mpr
        (hmergeable.kept hstatus hagreed field)
      have hpatched : ∀ field value, (input.sides field).outcome = .patched value →
          field ∈ input.mergeFields → field ≠ prototypeName ∧ value.json?.isSome = true := by
        intro field value houtcome hfield
        obtain ⟨result, hresult, -⟩ := hlands field hfield
        rw [houtcome] at hresult
        obtain ⟨hinherited, json, rfl, -⟩ := hresult
        refine ⟨?_, rfl⟩
        rintro rfl
        exact hinherited rfl
      obtain ⟨data, happly⟩ := applyPlan_ok h hpatched
      refine ⟨data, happly, fun field => ?_⟩
      by_cases hfield : field ∈ input.mergeFields
      · obtain ⟨result, hresult, hkeeps⟩ := hlands field hfield
        have hlanded := lands_of_applyPlan h happly hfield
          (fun value houtcome => (hpatched field value houtcome hfield).1)
        rw [hlanded.unique hresult]
        exact hkeeps
      · obtain ⟨hbase, hremote, hdraft⟩ := not_mem_mergeFields h hfield
        have hnone : Record.get data field = none := by
          have hunset : field ∉ (planDocumentFieldMerge input).unset := by
            rw [mem_unset_iff]
            exact fun hunset => hfield hunset.1
          rw [(get_applyPlan happly).2, if_neg hunset, get_patch h, if_neg (fun hpatch => hfield hpatch.1), hremote]
          rfl
        unfold PlanDocumentFieldMergeInput.At
        rw [hbase, hremote, hdraft, hnone]
        exact ⟨fun _ => trivial, fun _ => rfl⟩
    · intro field hboth
      refine lists_of_conflicting h (mem_mergeFields_of_bothChanged h hboth) ((hconflicting field).mpr (Or.inl hboth))

end

/-! ### A field with the name of an inherited function -/

/-- A draft that has removed the field `constructor`, which the other side left alone. -/
def removedConstructor : PlanDocumentFieldMergeInput where
  base := { version := 1, docstatus := some .draft, data := [(js "constructor", .str (js "Acme"))] }
  remote := { version := 2, docstatus := some .draft, data := [(js "constructor", .str (js "Acme"))] }
  draft := []

theorem removedConstructor_isMerge : removedConstructor.IsMerge where
  base := .obj (List.nodup_singleton _) (fun entry hentry => by
    rw [List.mem_singleton.mp hentry]
    exact .str _)
  remote := .obj (List.nodup_singleton _) (fun entry hentry => by
    rw [List.mem_singleton.mp hentry]
    exact .str _)
  draft := nofun
  allFields := rfl
  trimmed := by decide +kernel

theorem mergesCorrectly_iff_removedConstructor : MergesCorrectly removedConstructor ↔ Mergeable removedConstructor :=
  mergesCorrectly_iff removedConstructor_isMerge

/-- The plan is clean, but instead of unsetting the field it patches it with the inherited function, and cannot
be applied. -/
theorem not_mergesCorrectly_removedConstructor :
    removedConstructor.IsMerge ∧ (planDocumentFieldMerge removedConstructor).status = .clean ∧
    (planDocumentFieldMerge removedConstructor).unset = [] ∧
    (planDocumentFieldMerge removedConstructor).patch.own = [(js "constructor", .method (js "constructor"))] ∧
    applyPlan removedConstructor.remote.data (planDocumentFieldMerge removedConstructor) =
      .error { code := .eventInvalid, message := js "Document event data must be a JSON object", status := 409 } ∧
    ¬MergesCorrectly removedConstructor := by
  refine ⟨removedConstructor_isMerge, rfl, rfl, rfl, rfl, ?_⟩
  intro hcorrect
  obtain ⟨data, happly, -⟩ := hcorrect.clean rfl
  cases happly

end DocumentMerge
