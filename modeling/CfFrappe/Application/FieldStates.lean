import CfFrappe.Application.OneFieldUpdate
import CfFrappe.Core.NamingConfiguration

set_option autoImplicit false

/-! # Advertised field states and the update they promise

`documentFieldStates` says `write` for a field when an update of that field alone would pass the
checks that look at fields: the status of the document, `allowOnSubmit`, read-only rules, the
state fields of workflows, generated names and field permissions. Here the update is
`applyDocumentUpdate` on a patch of one field. Hooks run first and may change the patch, so the two
agree for hooks that leave the field alone (`HooksLeaveField`).
-/

open Utf

/-! ## What the two sides look at -/

/-- A naming series writes into a read-only field. -/
def SeriesTargetReadOnly (doctype : DocTypeDefinition) : Prop :=
  ∀ strategy target, doctype.naming = some (.series strategy) → strategy.targetField = some target →
    ∀ field, doctype.field? target = some field → field.readOnly = true

/-- The conditions of the permissions of a field say the same of every version of a document. -/
def PermissionsIgnoreVersion (field : FieldDefinition) : Prop :=
  ∀ rule ∈ field.permissions, ∀ condition, rule.condition = some condition →
    ∀ (context : FieldPermissionContext) (document : DocumentSnapshot) (version : Nat),
      condition { context with document := some { document with version } } =
        condition { context with document := some document }

/-- The rules of a field depend neither on its value nor, through their conditions, on the field in
the document. -/
structure RulesIgnoreField (canonicalize : UInt16 → UInt16) (doctype : DocTypeDefinition)
    (field : FieldDefinition) : Prop where
  permissions : ∀ rule ∈ field.permissions, ∀ condition, rule.condition = some condition →
    ∀ (context : FieldPermissionContext) (document : DocumentSnapshot) (value : Json) (earlier : Option Json),
      condition { context with
          document := some { document with data := Record.set document.data field.name value }
          value := some value } =
        condition { context with document := some document, value := earlier }
  readOnly : ∀ (data : DocumentData) (value : Json),
    fieldIsReadOnlyForData canonicalize doctype field (Record.set data field.name value) =
      fieldIsReadOnlyForData canonicalize doctype field data

/-- Hooks that leave an update of one field to the rules for the field: they do not change its patch,
and what they report themselves is something else. -/
structure HooksLeaveField (hooks : List DocumentHooks) (doctype : DocTypeDefinition) (existing : DocumentSnapshot)
    (name : JsString) (value : Json) : Prop where
  patch : runDocumentBeforeValidateHooks hooks doctype [(name, value)] (some existing) = [(name, value)]
  issues : ∀ issue ∈ runDocumentValidationHooks hooks doctype (Record.set existing.data name value) (some existing),
    issue.field = some name → issue.code ∉ fieldCheckCodes

/-- An update is refused because of a field: for the status of its document, or with an issue that
the rules for the field raise. -/
def RefusesField (outcome : Except FrameworkError DocumentData) (name : JsString) : Prop :=
  ∃ error, outcome = .error error ∧
    (error.code = .documentStatusConflict ∨
      ∃ issue ∈ error.issues, issue.field = some name ∧ issue.code ∈ fieldCheckCodes)

/-- Conditions that agree give the same access. -/
theorem canAccessField_congr {field : FieldDefinition} {context context' : FieldPermissionContext}
    (hactor : context.actor = context'.actor) (haction : context.action = context'.action)
    (hconditions : ∀ rule ∈ field.permissions, ∀ condition, rule.condition = some condition →
      condition context = condition context') :
    canAccessField field context = canAccessField field context' := by
  have hrules : field.permissions.any (fun rule => fieldPermissionRuleAllows rule context) =
      field.permissions.any (fun rule => fieldPermissionRuleAllows rule context') := by
    rw [Bool.eq_iff_iff, List.any_eq_true, List.any_eq_true]
    refine exists_congr fun rule => and_congr_right fun hrule => ?_
    rw [← Bool.eq_iff_iff]
    unfold fieldPermissionRuleAllows
    rw [hactor, haction]
    cases hcondition : rule.condition with
    | none => rfl
    | some condition => rw [Option.all_some, Option.all_some, hconditions rule hrule condition hcondition]
  unfold canAccessField
  rw [hrules, hactor]

section

variable {services : DocumentUpdateServices} {actor : Actor} {doctype : DocTypeDefinition}
variable {existing : DocumentSnapshot} {name : JsString} {value : Json} {field : FieldDefinition}

/-- **An update of one field**: what the pieces of `applyDocumentUpdate` are for such a patch. -/
structure UpdatesOne (services : DocumentUpdateServices) (doctype : DocTypeDefinition) (existing : DocumentSnapshot)
    (name : JsString) (value : Json) : Prop where
  validated : services.validatedPatch doctype existing [(name, value)] = [(name, value)]
  fetched : services.patchWithFetchedFields doctype existing [(name, value)] = [(name, value)]
  normalized : services.normalizedPatch doctype existing [(name, value)] = [(name, value)]
  data : services.updatedData doctype existing [(name, value)] [] = Record.set existing.data name value
  links : validateDocumentLinks services.relatedDocType services.canReadLinkedTarget doctype [(name, value)] = []

theorem updatesOne (hnames : (doctype.fields.map (·.name)).Nodup) (hfield : doctype.field? name = some field)
    (htable : field.type ≠ .table) (hlink : field.type ≠ .link)
    (hhooks : HooksLeaveField services.hooks doctype existing name value) :
    UpdatesOne services doctype existing name value := by
  have habsent {other : FieldDefinition} (hother : other ∈ doctype.fields) (htype : other.type ≠ field.type) :
      Record.has [(name, value)] other.name = false := by
    rw [Record.has_eq_false, Record.get_cons, if_neg (name_ne_of_type hnames hfield hother htype), Record.get_nil]
  have hvalidated : services.validatedPatch doctype existing [(name, value)] = [(name, value)] := hhooks.patch
  have hfetched : services.patchWithFetchedFields doctype existing [(name, value)] = [(name, value)] := by
    unfold DocumentUpdateServices.patchWithFetchedFields
    rw [hvalidated]
    apply applyFetchedFields_of_no_link
    intro linkField hmem htype
    apply habsent hmem
    rw [htype]
    exact hlink.symm
  have hnormalized : services.normalizedPatch doctype existing [(name, value)] = [(name, value)] := by
    unfold DocumentUpdateServices.normalizedPatch preserveReadOnlyTableValues
    rw [hfetched, normalizeTableFields_one hfield htable]
  refine ⟨hvalidated, hfetched, hnormalized, ?_, ?_⟩
  · unfold DocumentUpdateServices.updatedData
    rw [hnormalized, applyDocumentDataChange_one]
  · apply validateDocumentLinks_of_no_link
    intro other hmem htype
    apply habsent hmem
    rcases htype with htype | htype
    · rw [htype]
      exact hlink.symm
    · rw [htype]
      exact htable.symm

/-- The draft that an update of one field is checked on. -/
def draftOne (existing : DocumentSnapshot) (name : JsString) (value : Json) : DocumentSnapshot :=
  { existing with data := Record.set existing.data name value, version := existing.version + 1 }

/-- **The issues of an update of one field**, group by group. -/
theorem mem_updateIssues (hone : UpdatesOne services doctype existing name value)
    (hnames : (doctype.fields.map (·.name)).Nodup) (hfield : doctype.field? name = some field)
    (htable : field.type ≠ .table) (issue : ValidationIssue) :
    issue ∈ services.updateIssues actor doctype existing [(name, value)] [] ↔
      ((((((existing.docstatus = .submitted ∧ issue ∈ allowOnSubmitIssues doctype [(name, value)] []) ∨
        issue ∈ workflowStateMutationIssues doctype [(name, value)] [] []) ∨
        issue ∈ generatedNamingFieldMutationIssues doctype [name]) ∨
        issue ∈ readonlyIssues services.canonicalize services.relatedDocType doctype [(name, value)]
          (Record.set existing.data name value) []) ∨
        issue ∈ fieldPermissionIssues services.relatedDocType actor .update doctype [(name, value)]
          (some (draftOne existing name value)) []) ∨
        (issue ∈ validateDocumentData services.canonicalize doctype [(name, value)]
            { isPartial := true, relatedDocType := services.relatedDocType } ∨
          issue ∈ runDocumentValidationHooks services.hooks doctype (Record.set existing.data name value)
            (some existing))) := by
  have hstrip : stripInternalTableFields services.relatedDocType doctype [(name, value)] = [(name, value)] :=
    normalizeTableFields_one hfield htable none
  have hpreserve : preserveReadOnlyTableValues services.relatedDocType doctype [(name, value)] existing =
      [(name, value)] := normalizeTableFields_one hfield htable (some existing.data)
  have hkeys : Record.keys [(name, value)] ++ [] = [name] := rfl
  have hunset (patch : DocumentData) : documentUnsetIssues doctype [] existing.data patch = [] := rfl
  have hdraft : services.draft doctype existing [(name, value)] [] = draftOne existing name value := by
    unfold DocumentUpdateServices.draft
    rw [hone.data]
    rfl
  unfold DocumentUpdateServices.updateIssues documentUpdateIssues documentUpdateValidationIssues
  unfold DocumentUpdateServices.externalIssues validate
  dsimp only
  rw [hone.validated, hone.fetched, hone.normalized, hone.data, hone.links, hstrip, hpreserve, hkeys, hunset, hdraft,
    childTableOriginIssues_one hnames hfield htable, applyDocumentDataChange_one]
  simp only [List.mem_append, List.append_nil]
  split_ifs with hsubmitted
  · simp [hsubmitted]
  · simp [hsubmitted]

/-- The rules for a field pass an update that sets the field to a value. -/
structure PassesFieldRules (services : DocumentUpdateServices) (actor : Actor) (doctype : DocTypeDefinition)
    (existing : DocumentSnapshot) (field : FieldDefinition) (value : Json) : Prop where
  status : documentStatusAllowsFieldUpdate existing field = true
  workflow : ∀ workflow ∈ doctype.workflows, workflow.stateField ≠ field.name
  readOnly : fieldIsReadOnlyForData services.canonicalize doctype field
    (Record.set existing.data field.name value) = false
  permission : canWriteField field
    (writeContext actor .update (some (draftOne existing field.name value)) (some value)) = true

theorem documentStatusAllowsFieldUpdate_eq_true :
    documentStatusAllowsFieldUpdate existing field = true ↔
      existing.docstatus = .draft ∨ existing.docstatus = .submitted ∧ field.allowOnSubmit = true := by
  unfold documentStatusAllowsFieldUpdate
  split_ifs with hdraft
  · simp [hdraft]
  · simp [hdraft]

/-- The status guard lets through drafts and submitted documents. -/
theorem ensureDocumentUpdateStatus_cases (document : DocumentSnapshot) (action : JsString) :
    ((document.docstatus = .draft ∨ document.docstatus = .submitted) ∧
        ensureDocumentUpdateStatus document action = .ok ()) ∨
      (document.docstatus ≠ .draft ∧ document.docstatus ≠ .submitted ∧
        ∃ error, ensureDocumentUpdateStatus document action = .error error ∧
          error.code = .documentStatusConflict) := by
  unfold ensureDocumentUpdateStatus
  split_ifs with hstatus
  · refine Or.inr ⟨hstatus.1, hstatus.2, ?_⟩
    unfold ensureDocumentStatus ensure
    have hallowed : [DocStatus.draft].contains document.docstatus = false := by simpa using hstatus.1
    rw [hallowed]
    exact ⟨_, rfl, rfl⟩
  · refine Or.inl ⟨?_, rfl⟩
    by_contra hboth
    exact hstatus (not_or.mp hboth)

/-- What the update answers when its status allows it. -/
theorem applyDocumentUpdate_of_status (services : DocumentUpdateServices) (actor : Actor)
    (doctype : DocTypeDefinition) (patch : DocumentData)
    (h : ensureDocumentUpdateStatus existing (js "update") = .ok ()) :
    (services.updateIssues actor doctype existing patch [] = [] ∧
        services.applyDocumentUpdate actor doctype existing patch none =
          .ok (services.updatedData doctype existing patch [])) ∨
      services.applyDocumentUpdate actor doctype existing patch none =
        .error (.ofIssues (services.updateIssues actor doctype existing patch [])) := by
  unfold DocumentUpdateServices.applyDocumentUpdate
  rw [h]
  dsimp only [normalizeUnsetFields]
  cases hissues : services.updateIssues actor doctype existing patch [] with
  | nil => exact Or.inl ⟨rfl, rfl⟩
  | cons issue issues => exact Or.inr rfl

/-- A generated field is read-only, whatever the document holds. -/
theorem readOnly_of_generated (htarget : SeriesTargetReadOnly doctype) (hfield : doctype.field? name = some field)
    {issue : ValidationIssue} (h : issue ∈ generatedNamingFieldMutationIssues doctype [name]) (data : DocumentData) :
    fieldIsReadOnlyForData services.canonicalize doctype field data = true := by
  unfold generatedNamingFieldMutationIssues at h
  cases hnaming : doctype.naming with
  | none => simp [hnaming] at h
  | some naming =>
    cases naming with
    | series strategy =>
      rw [hnaming] at h
      dsimp only at h
      cases hname : strategy.targetField with
      | none => simp [hname] at h
      | some target =>
        rw [hname] at h
        dsimp only at h
        split_ifs at h with htouched
        · have heq : target = name := by simpa using htouched
          rw [heq] at hname
          have hreadOnly := htarget strategy name hnaming hname field hfield
          simp [fieldIsReadOnlyForData, fieldIsReadOnly, hreadOnly]
        · exact absurd h List.not_mem_nil
    | uuid => simp [hnaming] at h
    | field _ => simp [hnaming] at h
    | provided _ => simp [hnaming] at h

/-- **Which update of one field raises an issue of a field rule.** -/
theorem exists_check_issue_iff (actor : Actor) (hone : UpdatesOne services doctype existing name value)
    (hnames : (doctype.fields.map (·.name)).Nodup) (hfield : doctype.field? name = some field)
    (htable : field.type ≠ .table) (htarget : SeriesTargetReadOnly doctype)
    (hhooks : HooksLeaveField services.hooks doctype existing name value) :
    (∃ issue ∈ services.updateIssues actor doctype existing [(name, value)] [],
        issue.field = some name ∧ issue.code ∈ fieldCheckCodes) ↔
      (existing.docstatus = .submitted ∧ field.allowOnSubmit = false) ∨
        (∃ workflow ∈ doctype.workflows, workflow.stateField = name) ∨
        fieldIsReadOnlyForData services.canonicalize doctype field (Record.set existing.data name value) = true ∨
        canWriteField field (writeContext actor .update (some (draftOne existing name value)) (some value)) = false := by
  have htables (table : FieldDefinition) (hmem : table ∈ doctype.fields) (htype : table.type = .table) :
      Record.get [(name, value)] table.name = none := by
    rw [Record.get_cons, if_neg (name_ne_of_type hnames hfield hmem (by rw [htype]; exact htable.symm)),
      Record.get_nil]
  simp only [mem_updateIssues hone hnames hfield htable, allowOnSubmitIssues_one hfield,
    workflowStateMutationIssues_one, readonlyIssues_one hnames hfield htable,
    fieldPermissionIssues_one hfield htable]
  -- each check has a code of its own, which tells whose issue it is
  constructor
  · rintro ⟨issue, hissue, hname, hcode⟩
    rcases hissue with ((((⟨hsubmitted, hissue⟩ | ⟨-, hworkflow⟩) | hgenerated) | hreadOnly) | hpermission) |
      hschema | hhook
    · left
      refine ⟨hsubmitted, ?_⟩
      split_ifs at hissue with hallow
      · exact absurd hissue List.not_mem_nil
      · simpa using hallow
    · exact Or.inr (Or.inl hworkflow)
    · exact Or.inr (Or.inr (Or.inl (readOnly_of_generated htarget hfield hgenerated _)))
    · right; right; left
      split_ifs at hreadOnly with hfinal
      · exact hfinal
      · exact absurd hreadOnly List.not_mem_nil
    · right; right; right
      split_ifs at hpermission with hwrite
      · exact absurd hpermission List.not_mem_nil
      · simpa using hwrite
    · -- the schema and the hooks report other issues
      exact absurd hcode (schemaCodes_disjoint (code_validateDocumentData htables issue hschema))
    · exact absurd hcode (hhooks.issues issue hhook hname)
  · rintro (⟨hsubmitted, hallow⟩ | hworkflow | hreadOnly | hpermission)
    · refine ⟨allowOnSubmitIssue name, Or.inl (Or.inl (Or.inl (Or.inl (Or.inl ⟨hsubmitted, ?_⟩)))), rfl, ?_⟩
      · rw [hallow]
        exact List.mem_singleton.mpr rfl
      · show js "allow_on_submit" ∈ fieldCheckCodes
        decide +kernel
    · refine ⟨_, Or.inl (Or.inl (Or.inl (Or.inl (Or.inr ⟨rfl, hworkflow⟩)))), rfl, ?_⟩
      show js "workflow_state_protected" ∈ fieldCheckCodes
      decide +kernel
    · refine ⟨readOnlyIssue name, Or.inl (Or.inl (Or.inr ?_)), rfl, ?_⟩
      · rw [if_pos hreadOnly]
        exact List.mem_singleton.mpr rfl
      · show js "readonly" ∈ fieldCheckCodes
        decide +kernel
    · refine ⟨fieldPermissionIssue actor .update name, Or.inl (Or.inr ?_), rfl, ?_⟩
      · rw [hpermission]
        exact List.mem_singleton.mpr rfl
      · show js "field_permission" ∈ fieldCheckCodes
        decide +kernel

/-- **An update of one field is refused because of the field exactly when a rule for it fails.** -/
theorem refusesField_iff (hone : UpdatesOne services doctype existing name value)
    (hnames : (doctype.fields.map (·.name)).Nodup) (hfield : doctype.field? name = some field)
    (htable : field.type ≠ .table) (htarget : SeriesTargetReadOnly doctype)
    (hhooks : HooksLeaveField services.hooks doctype existing name value) :
    RefusesField (services.applyDocumentUpdate actor doctype existing [(name, value)] none) name ↔
      ¬PassesFieldRules services actor doctype existing field value := by
  obtain rfl : field.name = name := DocTypeDefinition.field?_name hfield
  have hissues := exists_check_issue_iff actor hone hnames hfield htable htarget hhooks
  rcases ensureDocumentUpdateStatus_cases existing (js "update") with ⟨hstatus, hok⟩ | ⟨hdraft, hsubmitted, hrefused⟩
  · have hrefuses : RefusesField (services.applyDocumentUpdate actor doctype existing [(field.name, value)] none)
          field.name ↔
        ∃ issue ∈ services.updateIssues actor doctype existing [(field.name, value)] [],
          issue.field = some field.name ∧ issue.code ∈ fieldCheckCodes := by
      rcases applyDocumentUpdate_of_status services actor doctype [(field.name, value)] hok with ⟨hnone, haccepted⟩ | herror
      · rw [haccepted, hnone]
        simp [RefusesField]
      · rw [herror]
        simp [RefusesField, FrameworkError.ofIssues]
    -- a refusal of the whole update is told by an issue of this field
    rw [hrefuses, hissues]
    constructor
    · rintro (⟨hsubmitted, hallow⟩ | ⟨workflow, hmem, hstate⟩ | hreadOnly | hpermission) hpasses
      · rcases documentStatusAllowsFieldUpdate_eq_true.mp hpasses.status with hdraft | ⟨-, hallowed⟩
        · rw [hsubmitted] at hdraft
          cases hdraft
        · rw [hallow] at hallowed
          cases hallowed
      · exact hpasses.workflow workflow hmem hstate
      · rw [hpasses.readOnly] at hreadOnly
        cases hreadOnly
      · rw [hpasses.permission] at hpermission
        cases hpermission
    · intro hfails
      by_contra hnone
      simp only [not_or, not_and, not_exists, Bool.not_eq_true, Bool.not_eq_false] at hnone
      obtain ⟨hsubmit, hworkflow, hreadOnly, hpermission⟩ := hnone
      refine hfails ⟨?_, hworkflow, hreadOnly, hpermission⟩
      rw [documentStatusAllowsFieldUpdate_eq_true]
      rcases hstatus with hdraft | hsubmitted
      · exact Or.inl hdraft
      · exact Or.inr ⟨hsubmitted, hsubmit hsubmitted⟩
  -- a document that can not be updated at all
  · obtain ⟨error, hguard, hcode⟩ := hrefused
    have hleft : RefusesField (services.applyDocumentUpdate actor doctype existing [(field.name, value)] none)
        field.name := by
      refine ⟨error, ?_, Or.inl hcode⟩
      unfold DocumentUpdateServices.applyDocumentUpdate
      rw [hguard]
      rfl
    refine iff_of_true hleft ?_
    intro hpasses
    rcases documentStatusAllowsFieldUpdate_eq_true.mp hpasses.status with hstatus | ⟨hstatus, -⟩
    · exact hdraft hstatus
    · exact hsubmitted hstatus

end

/-! ## Redaction -/

section

variable {relatedDocType : RelatedDocTypeResolver} {actor : Actor} {data : DocumentData}
variable {document : DocumentSnapshot} {tenantId : TenantId} {name : JsString} {field : FieldDefinition}

theorem get_redactors (data : DocumentData) (name : JsString) :
    Record.get (redactors relatedDocType actor data tenantId) name =
      (Record.get data name).map (fun value => redactFieldValue relatedDocType actor value tenantId) := by
  induction data with
  | nil => rfl
  | cons entry data ih =>
    obtain ⟨key, value⟩ := entry
    rw [redactors, Record.get_cons, Record.get_cons, ih]
    split_ifs <;> rfl

/-- A turn of the loop looks at its own field only. -/
theorem get_redactField_of_ne {values : Redactors} {redacted : DocumentData} (hne : field.name ≠ name) :
    Record.get (redactField actor values data document tenantId redacted field) name = Record.get redacted name := by
  unfold redactField
  split
  · split_ifs
    · rw [Record.get_set, if_neg hne]
    · rw [Record.get_without, if_neg (by simpa using Ne.symm hne)]
  · rfl

theorem get_foldl_redactField_of_not_mem {values : Redactors} (fields : List FieldDefinition)
    (redacted : DocumentData) (hnot : ∀ field ∈ fields, field.name ≠ name) :
    Record.get (fields.foldl (redactField actor values data document tenantId) redacted) name =
      Record.get redacted name := by
  induction fields generalizing redacted with
  | nil => rfl
  | cons first fields ih =>
    rw [List.foldl_cons, ih _ (fun field hmem => hnot field (List.mem_cons_of_mem _ hmem)),
      get_redactField_of_ne (hnot first List.mem_cons_self)]

/-- The turn of a field decides whether its value stays. -/
theorem has_redactField {values : Redactors} {redacted : DocumentData} {value : Json}
    {redact : FieldDefinition → DocumentSnapshot → Json} (hvalue : Record.get data field.name = some value)
    (hredact : Record.get values field.name = some redact) :
    Record.has (redactField actor values data document tenantId redacted field) field.name =
      canReadField field (readContext actor document tenantId (some value)) := by
  unfold redactField
  rw [hvalue, hredact]
  dsimp only
  split_ifs with hread
  · rw [Record.has, Record.get_set, if_pos rfl, hread]
    rfl
  · rw [Record.has, Record.get_without, if_pos (List.mem_singleton.mpr rfl)]
    simpa using hread

/-- **Redaction keeps a value that is there exactly when the actor may read it.** -/
theorem has_redactDocumentSnapshot {doctype : DocTypeDefinition} (hnames : (doctype.fields.map (·.name)).Nodup)
    (hmem : field ∈ doctype.fields) {value : Json} (hvalue : Record.get document.data field.name = some value) :
    Record.has (redactDocumentSnapshot relatedDocType actor doctype document).data field.name =
      canReadField field (readContext actor document document.tenantId (some value)) := by
  obtain ⟨before, after, hfields⟩ := List.append_of_mem hmem
  -- no later field has the same name
  have hlater : ∀ other ∈ after, other.name ≠ field.name := by
    intro other hother heq
    rw [hfields, List.map_append, List.map_cons, List.nodup_append] at hnames
    exact (List.nodup_cons.mp hnames.2.1).1 (heq ▸ List.mem_map_of_mem hother)
  change Record.has (redactDocumentDataWith actor _ doctype document.data document document.tenantId) _ = _
  unfold redactDocumentDataWith
  rw [Record.has, hfields, List.foldl_append, List.foldl_cons, get_foldl_redactField_of_not_mem after _ hlater]
  have hredact : Record.get (redactors relatedDocType actor document.data document.tenantId) field.name =
      some (redactFieldValue relatedDocType actor value document.tenantId) := by
    rw [get_redactors, hvalue]
    rfl
  exact has_redactField hvalue hredact

end

/-! ## Agreement -/

section

variable {services : DocumentUpdateServices} {actor : Actor} {doctype : DocTypeDefinition}
variable {existing : DocumentSnapshot} {name : JsString} {value : Json} {field : FieldDefinition}

/-- The state of a field, from the definition of the field. -/
theorem get_documentFieldStates {options : DocumentFormFieldAccessProjectionOptions}
    (hnames : (options.doctype.fields.map (·.name)).Nodup) (hfield : options.doctype.field? name = some field)
    {canonicalize : UInt16 → UInt16} {entry : DocumentFieldState}
    (hentry : Record.get (documentFieldStates canonicalize options) name = some entry) :
    entry.read = options.readable field ∧ entry.write = options.writable canonicalize true field := by
  obtain ⟨field', hmem, heq⟩ := List.mem_map.mp (Record.mem_of_get hentry)
  rw [Prod.mk.injEq] at heq
  obtain ⟨hname, hstate⟩ := heq
  have hfound := DocTypeDefinition.field?_of_mem hnames (List.mem_filter.mp hmem).1
  rw [hname, hfield] at hfound
  rw [Option.some.inj hfound, ← hstate]
  exact ⟨rfl, rfl⟩

/-- The value that an update sets is the stored one, or the rules for the field do not look at it. -/
def SetsStoredOrIgnored (services : DocumentUpdateServices) (doctype : DocTypeDefinition)
    (existing : DocumentSnapshot) (field : FieldDefinition) (value : Json) : Prop :=
  Record.get existing.data field.name = some value ∨ RulesIgnoreField services.canonicalize doctype field

theorem fieldIsReadOnlyForData_draft (hkeys : (Record.keys existing.data).Nodup)
    (hvalue : SetsStoredOrIgnored services doctype existing field value) :
    fieldIsReadOnlyForData services.canonicalize doctype field (Record.set existing.data field.name value) =
      fieldIsReadOnlyForData services.canonicalize doctype field existing.data := by
  rcases hvalue with hstored | hignores
  · rw [Record.set_of_get hkeys hstored]
  · exact hignores.readOnly existing.data value

theorem canWriteField_draft (hkeys : (Record.keys existing.data).Nodup) (hversion : PermissionsIgnoreVersion field)
    (hvalue : SetsStoredOrIgnored services doctype existing field value) :
    canWriteField field (writeContext actor .update (some (draftOne existing field.name value)) (some value)) =
      canWriteField field (writeContext actor .update (some existing) (Record.get existing.data field.name)) := by
  unfold canWriteField
  congr 1
  refine canAccessField_congr ?_ ?_ ?_
  · rfl
  · rfl
  intro rule hrule condition hcondition
  -- the draft is the document with the field set, at the next version
  have hdraft := hversion rule hrule condition hcondition
    (writeContext actor .update (some existing) (some value))
    { existing with data := Record.set existing.data field.name value } (existing.version + 1)
  refine Eq.trans hdraft ?_
  rcases hvalue with hstored | hignores
  · rw [Record.set_of_get hkeys hstored, hstored]
    rfl
  · exact hignores.permissions rule hrule condition hcondition
      (writeContext actor .update (some existing) (some value)) existing value _

theorem writable_iff (hkeys : (Record.keys existing.data).Nodup) (hversion : PermissionsIgnoreVersion field)
    (hvalue : SetsStoredOrIgnored services doctype existing field value) (canUpdateDocument : Bool) :
    DocumentFormFieldAccessProjectionOptions.writable services.canonicalize
        { actor, doctype, document := existing, canUpdateDocument } true field = true ↔
      canUpdateDocument = true ∧ PassesFieldRules services actor doctype existing field value := by
  have hreadOnly : (field.readOnly ||
        (true && fieldIsReadOnlyForData services.canonicalize doctype field existing.data)) =
      fieldIsReadOnlyForData services.canonicalize doctype field existing.data := by
    unfold fieldIsReadOnlyForData fieldIsReadOnly
    cases field.readOnly <;> rfl
  unfold DocumentFormFieldAccessProjectionOptions.writable
  dsimp only
  rw [hreadOnly, ← fieldIsReadOnlyForData_draft hkeys hvalue, ← canWriteField_draft hkeys hversion hvalue]
  simp only [Bool.and_eq_true, Bool.not_eq_true', and_assoc]
  refine and_congr_right fun _ => ?_
  constructor
  · rintro ⟨hstatus, hworkflow, hfinal, hwrite⟩
    exact ⟨hstatus, by simpa using hworkflow, hfinal, hwrite⟩
  · intro hpasses
    exact ⟨hpasses.status, by simpa using hpasses.workflow, hpasses.readOnly, hpasses.permission⟩

end

/-- **Advertised field states match enforcement**: for a field that is neither a table nor a link, the
state says `write` exactly when the actor may update the document and an update that sets the field to
its stored value (or to any value, when no rule for the field looks at it) is not refused because of the
field; and where the document has the field, the state says `read` exactly when redaction keeps it. -/
theorem documentFieldStates_agree (services : DocumentUpdateServices) (actor : Actor) (doctype : DocTypeDefinition)
    (existing : DocumentSnapshot) (canUpdateDocument : Bool) (name : JsString) (field : FieldDefinition)
    (entry : DocumentFieldState) (hnames : (doctype.fields.map (·.name)).Nodup)
    (hkeys : (Record.keys existing.data).Nodup) (htarget : SeriesTargetReadOnly doctype)
    (hfield : doctype.field? name = some field) (htable : field.type ≠ .table) (hlink : field.type ≠ .link)
    (hversion : PermissionsIgnoreVersion field)
    (hentry : Record.get (documentFieldStates services.canonicalize
      { actor, doctype, document := existing, canUpdateDocument }) name = some entry) :
    (∀ value, (Record.get existing.data name = some value ∨ RulesIgnoreField services.canonicalize doctype field) →
      HooksLeaveField services.hooks doctype existing name value →
      (entry.write = true ↔
        canUpdateDocument = true ∧
          ¬RefusesField (services.applyDocumentUpdate actor doctype existing [(name, value)] none) name)) ∧
      (Record.has existing.data name = true →
        (entry.read = true ↔
          Record.has (redactDocumentSnapshot services.relatedDocType actor doctype existing).data name = true)) := by
  obtain rfl : field.name = name := DocTypeDefinition.field?_name hfield
  obtain ⟨hread, hwrite⟩ := get_documentFieldStates hnames hfield hentry
  constructor
  · intro value hvalue hhooks
    have hone := updatesOne hnames hfield htable hlink hhooks
    rw [hwrite, writable_iff hkeys hversion hvalue,
      refusesField_iff hone hnames hfield htable htarget hhooks, not_not]
  · intro hpresent
    obtain ⟨value, hvalue⟩ := Record.has_iff.mp hpresent
    rw [hread, has_redactDocumentSnapshot hnames (DocTypeDefinition.field?_mem hfield) hvalue]
    unfold DocumentFormFieldAccessProjectionOptions.readable
    dsimp only
    rw [hvalue]

/-- What is said of an employee, who alone may read and write it. -/
def noteFeedback : FieldDefinition :=
  { name := js "feedback", type := .text,
    permissions :=
      [{ roles := [js "Employee"], actions := [.read, .update],
         condition := some (fun context => context.document.any (fun document =>
           Record.get document.data (js "employee") == some (.str context.actor.id))) }] }

/-- A note whose summary is closed by the first edit. -/
def closingNote : DocTypeDefinition :=
  { name := js "Note"
    fields :=
      [{ name := js "summary", type := .text,
         readOnlyDependsOn := some (.compare (.field .after (js "edited")) .eq (.literal (.bool true))) },
       { name := js "edited", type := .boolean },
       noteFeedback,
       { name := js "employee", type := .text }] }

def openNote : DocumentSnapshot :=
  { tenantId := js "default", doctype := js "Note", name := js "n1", version := 1, docstatus := .draft
    data := [(js "summary", .str (js "first")), (js "feedback", .str (js "good")), (js "employee", .str (js "alice"))]
    createdAt := js "2024-01-01T00:00:00.000Z", updatedAt := js "2024-01-01T00:00:00.000Z" }

def noteEmployee : Actor := { id := js "alice", roles := [js "Employee"], tenantId := some (js "default") }

def noteServices (hooks : List DocumentHooks) : DocumentUpdateServices :=
  { canonicalize := id, relatedDocType := fun _ => none, readFetchedTarget := fun _ => none
    canReadLinkedTarget := fun _ => false, hooks }

theorem noteFeedback_ignoresVersion : PermissionsIgnoreVersion noteFeedback := by
  intro rule hrule condition hcondition context document version
  cases List.mem_singleton.mp hrule
  cases hcondition
  rfl

theorem closingNote_seriesTarget : SeriesTargetReadOnly closingNote := by
  intro strategy target hnaming
  cases hnaming

/-- The employee may write the feedback of a note and is shown it. -/
theorem documentFieldStates_agree_feedback :
    ¬RefusesField ((noteServices []).applyDocumentUpdate noteEmployee closingNote openNote
        [(js "feedback", .str (js "good"))] none) (js "feedback") ∧
      Record.has (redactDocumentSnapshot (fun _ => none) noteEmployee closingNote openNote).data
        (js "feedback") = true := by
  have h := documentFieldStates_agree (noteServices []) noteEmployee closingNote openNote true (js "feedback")
    noteFeedback { read := true, write := true, redacted := false, hidden := false } (by decide +kernel)
    (by decide +kernel) closingNote_seriesTarget rfl (by decide) (by decide) noteFeedback_ignoresVersion
    (by decide +kernel)
  have hhooks : HooksLeaveField (noteServices []).hooks closingNote openNote (js "feedback") (.str (js "good")) :=
    ⟨rfl, fun issue hissue => absurd hissue List.not_mem_nil⟩
  exact ⟨((h.1 (.str (js "good")) (Or.inl rfl) hhooks).mp rfl).2, (h.2 rfl).mp rfl⟩

/-- A hook that marks a note as edited. -/
def markEdited : DocumentHooks := { beforeValidate := fun _ => some [(js "edited", some (.bool true))] }

/-- The state of a summary says that it can be written; the hook closes it, so that an update that
sets the summary to the value it has is refused for the summary. -/
theorem not_documentFieldStates_agree :
    (Record.get (documentFieldStates id
        { actor := noteEmployee, doctype := closingNote, document := openNote, canUpdateDocument := true })
      (js "summary")).map (·.write) = some true ∧
      Record.get openNote.data (js "summary") = some (.str (js "first")) ∧
      RefusesField ((noteServices [markEdited]).applyDocumentUpdate noteEmployee closingNote openNote
        [(js "summary", .str (js "first"))] none) (js "summary") := by
  refine ⟨by decide +kernel, by decide +kernel, .ofIssues [readOnlyIssue (js "summary")], by decide +kernel, Or.inr ?_⟩
  exact ⟨readOnlyIssue (js "summary"), List.mem_singleton.mpr rfl, rfl, by decide +kernel⟩
