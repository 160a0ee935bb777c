import CfFrappe.Application.DocumentUpdate

set_option autoImplicit false

/-! # The checks of a patch of one field

What every check of `applyDocumentUpdate` says of a patch that sets one field which is not a table:
each looks at the definition of that field only. The codes of the issues tell the rules for a field
(`fieldCheckCodes`) from the schema (`schemaCodes`).
-/

open Utf

namespace Record

variable {κ α : Type} [DecidableEq κ]

/-- Setting a property to the value it has changes nothing. -/
theorem set_of_get {r : Record κ α} (hkeys : (keys r).Nodup) {k : κ} {v : α} (h : get r k = some v) :
    set r k v = r := by
  have hmem : k ∈ keys r := mem_keys.mpr (by rw [h]; exact Option.some_ne_none v)
  rw [set_of_mem hmem]
  conv_rhs => rw [← List.map_id r]
  apply List.map_congr_left
  rintro ⟨k', v'⟩ he
  by_cases hk : k = k'
  · have hv : get r k' = some v' := get_of_mem hkeys he
    rw [← hk, h] at hv
    simp [hk, Option.some.inj hv]
  · simp [hk]

theorem without_nil (r : Record κ α) : without r [] = r := by simp [without]

end Record

theorem applyDocumentDataChange_one (data : DocumentData) (name : JsString) (value : Json) :
    applyDocumentDataChange data [(name, value)] [] = Record.set data name value := by
  rw [applyDocumentDataChange, Record.without_nil]
  rfl

/-! ## Codes -/

/-- The codes of the issues that the rules for a field raise. -/
def fieldCheckCodes : List JsString :=
  [js "allow_on_submit", js "readonly", js "workflow_state_protected", js "generated_name", js "field_permission"]

/-- The codes of `validateDocumentData`, tables apart. -/
def schemaCodes : List JsString :=
  [js "required", js "unknown_field", js "type", js "nul", js "option", js "min", js "max"]

theorem schemaCodes_disjoint {code : JsString} (h : code ∈ schemaCodes) : code ∉ fieldCheckCodes := by
  revert code
  decide +kernel

/-- The type of a value is reported under the codes of the schema. -/
theorem code_fieldTypeIssues {field : FieldDefinition} (hfield : field.type ≠ .table) {value : Json}
    {tableIssues : List ValidationIssue} :
    ∀ issue ∈ fieldTypeIssues field value tableIssues, issue.code ∈ schemaCodes := by
  have htype : js "type" ∈ schemaCodes := by decide +kernel
  have hnul : js "nul" ∈ schemaCodes := by decide +kernel
  have hoption : js "option" ∈ schemaCodes := by decide +kernel
  intro issue hissue
  unfold fieldTypeIssues at hissue
  dsimp only at hissue
  -- along the types and the values that they take: a branch raises nothing, or one issue with one of these codes
  repeat' split at hissue
  all_goals first
    | exact absurd hissue List.not_mem_nil
    | exact absurd (by assumption) hfield
    | (rw [List.mem_singleton.mp hissue]
       assumption)

theorem code_fieldBoundIssues {field : FieldDefinition} {value : Json} :
    ∀ issue ∈ fieldBoundIssues field value, issue.code ∈ schemaCodes := by
  have hmin : js "min" ∈ schemaCodes := by decide +kernel
  have hmax : js "max" ∈ schemaCodes := by decide +kernel
  intro issue hissue
  unfold fieldBoundIssues at hissue
  dsimp only at hissue
  -- texts and numbers have a lower and an upper bound
  split at hissue
  case h_3 => exact absurd hissue List.not_mem_nil
  all_goals
    rcases List.mem_append.mp hissue with hlow | hhigh
    · repeat' split at hlow
      all_goals first
        | exact absurd hlow List.not_mem_nil
        | (rw [List.mem_singleton.mp hlow]
           exact hmin)
    · repeat' split at hhigh
      all_goals first
        | exact absurd hhigh List.not_mem_nil
        | (rw [List.mem_singleton.mp hhigh]
           exact hmax)

/-- Data without a table raises the issues of the schema only. -/
theorem code_validateDocumentData {canonicalize : UInt16 → UInt16} {doctype : DocTypeDefinition}
    {data : DocumentData} {options : ValidationOptions}
    (htables : ∀ field ∈ doctype.fields, field.type = .table → Record.get data field.name = none) :
    ∀ issue ∈ validateDocumentData canonicalize doctype data options, issue.code ∈ schemaCodes := by
  have hrequired : js "required" ∈ schemaCodes := by decide +kernel
  have hunknown : js "unknown_field" ∈ schemaCodes := by decide +kernel
  intro issue hissue
  unfold validateDocumentData validateDocumentDataWith at hissue
  rcases List.mem_append.mp hissue with hissue | hissue
  · unfold unknownFieldIssues at hissue
    split_ifs at hissue
    · exact absurd hissue List.not_mem_nil
    · obtain ⟨key, -, hissue⟩ := List.mem_flatMap.mp hissue
      cases hfield : doctype.field? key with
      | some field => simp [hfield] at hissue
      | none =>
        rw [hfield] at hissue
        rw [List.mem_singleton.mp hissue]
        exact hunknown
  · obtain ⟨field, hmem, hissue⟩ := List.mem_flatMap.mp hissue
    unfold validateDeclaredField at hissue
    dsimp only at hissue
    split_ifs at hissue
    · rw [List.mem_singleton.mp hissue]
      exact hrequired
    · cases hvalue : Record.get data field.name with
      | none => simp [hvalue] at hissue
      | some value =>
        -- tables alone have issues of their rows
        have htable : field.type ≠ .table := by
          intro htype
          have hnone := htables field hmem htype
          rw [hvalue] at hnone
          cases hnone
        rw [hvalue] at hissue
        dsimp only at hissue
        split_ifs at hissue
        · exact absurd hissue List.not_mem_nil
        · rcases List.mem_append.mp hissue with htypes | hbounds
          · exact code_fieldTypeIssues htable issue htypes
          · exact code_fieldBoundIssues issue hbounds

/-! ## An update of one field -/

section

variable {canonicalize : UInt16 → UInt16} {relatedDocType : RelatedDocTypeResolver}
variable {doctype : DocTypeDefinition} {name : JsString} {field : FieldDefinition} {value : Json}

/-- In a DocType with distinct field names a field of another type is another field. -/
theorem name_ne_of_type (hnames : (doctype.fields.map (·.name)).Nodup) (hfield : doctype.field? name = some field)
    {other : FieldDefinition} (hother : other ∈ doctype.fields) (htype : other.type ≠ field.type) :
    name ≠ other.name := by
  intro heq
  have hfound := DocTypeDefinition.field?_of_mem hnames hother
  rw [← heq, hfield] at hfound
  exact htype (by rw [Option.some.inj hfound])

/-- A table is not a field of any other type. -/
theorem name_ne_of_table (hnames : (doctype.fields.map (·.name)).Nodup) (hfield : doctype.field? name = some field)
    (htable : field.type ≠ .table) {table : FieldDefinition}
    (hmem : table ∈ doctype.fields.filter (fun field => field.type == .table)) : name ≠ table.name := by
  rw [List.mem_filter, beq_iff_eq] at hmem
  apply name_ne_of_type hnames hfield hmem.1
  rw [hmem.2]
  exact htable.symm

theorem normalizeTableFields_one (hfield : doctype.field? name = some field) (htable : field.type ≠ .table)
    (existingData : Option DocumentData) :
    normalizeTableFields relatedDocType doctype [(name, value)] existingData = [(name, value)] := by
  unfold normalizeTableFields
  rw [normalizeFields, normalizeFields, normalizeFieldValue_of_ne_table]
  intro definition hdefinition
  rw [hfield] at hdefinition
  rw [← Option.some.inj hdefinition]
  exact htable

/-- The issue of a field that is closed after submit. -/
def allowOnSubmitIssue (fieldName : JsString) : ValidationIssue :=
  { field := some fieldName, code := js "allow_on_submit",
    message := js "Field '" ++ fieldName ++ js "' cannot be updated after submit" }

theorem allowOnSubmitIssues_one (hfield : doctype.field? name = some field) :
    allowOnSubmitIssues doctype [(name, value)] [] =
      if field.allowOnSubmit then [] else [allowOnSubmitIssue name] := by
  have hkeys : (Record.keys [(name, value)] ++ []).eraseDups = [name] := by
    rw [List.append_nil]
    rfl
  rw [allowOnSubmitIssues, hkeys, List.flatMap_singleton, hfield]
  rfl

theorem childTableOriginIssues_one (hnames : (doctype.fields.map (·.name)).Nodup)
    (hfield : doctype.field? name = some field) (htable : field.type ≠ .table) (existingData : DocumentData) :
    childTableOriginIssues relatedDocType doctype [(name, value)] existingData = [] := by
  unfold childTableOriginIssues childTableOriginIssuesWith
  rw [List.flatMap_eq_nil_iff]
  intro table hmem
  rw [originCheckers, originCheckers, Record.get_cons, if_neg (name_ne_of_table hnames hfield htable hmem),
    Record.get_nil]

theorem workflowStateMutationIssues_one (issue : ValidationIssue) :
    issue ∈ workflowStateMutationIssues doctype [(name, value)] [] [] ↔
      issue = workflowStateProtectedIssue name ∧ ∃ workflow ∈ doctype.workflows, workflow.stateField = name := by
  unfold workflowStateMutationIssues
  rw [List.mem_flatMap]
  constructor
  · rintro ⟨workflow, hworkflow, hissue⟩
    by_cases hstate : workflow.stateField = name
    · refine ⟨?_, workflow, hworkflow, hstate⟩
      simpa [Record.has, Record.get_cons, hstate] using hissue
    · simp [Record.has, Record.get_cons, Ne.symm hstate] at hissue
  · rintro ⟨rfl, workflow, hworkflow, hstate⟩
    refine ⟨workflow, hworkflow, ?_⟩
    simp [Record.has, Record.get_cons, hstate]

theorem readonlyIssues_one (hnames : (doctype.fields.map (·.name)).Nodup)
    (hfield : doctype.field? name = some field) (htable : field.type ≠ .table) (finalData : DocumentData) :
    readonlyIssues canonicalize relatedDocType doctype [(name, value)] finalData [] =
      if fieldIsReadOnlyForData canonicalize doctype field finalData then [readOnlyIssue name] else [] := by
  unfold readonlyIssues readonlyIssuesWith
  refine (congrArg₂ HAppend.hAppend ?_ (List.flatMap_eq_nil_iff.mpr ?_)).trans (List.append_nil _)
  · simp only [Record.keys, List.map_cons, List.map_nil, List.flatMap_singleton, hfield, List.filter_nil,
      List.flatMap_nil, List.append_nil]
    rfl
  · intro table hmem
    rw [rowCheckers, rowCheckers, Record.get_cons, if_neg (name_ne_of_table hnames hfield htable hmem),
      Record.get_nil]

theorem fieldPermissionIssues_one {actor : Actor} (hfield : doctype.field? name = some field)
    (htable : field.type ≠ .table) (document : DocumentSnapshot) :
    fieldPermissionIssues relatedDocType actor .update doctype [(name, value)] (some document) [] =
      if canWriteField field (writeContext actor .update (some document) (some value)) then []
      else [fieldPermissionIssue actor .update name] := by
  have hkeys : (Record.keys [(name, value)] ++ []).eraseDups = [name] := by
    rw [List.append_nil]
    rfl
  have hname : field.name = name := DocTypeDefinition.field?_name hfield
  have hrows : childFieldPermissionIssues relatedDocType actor .update value field ([] ++ field.name) (some document) =
      [] := by
    cases value <;> simp [childFieldPermissionIssues, htable]
  unfold fieldPermissionIssues documentFieldPermissionIssuesWith
  rw [hkeys, List.flatMap_singleton, hfield]
  dsimp only
  rw [hname] at hrows ⊢
  simp only [permissionCheckers, Record.get_cons, if_true, hrows]
  rfl

end
