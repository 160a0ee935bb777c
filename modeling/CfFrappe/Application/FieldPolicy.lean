import CfFrappe.Core.Schema
import CfFrappe.Core.Workflow

set_option autoImplicit false

/-! # What a command may do to the fields of a document

The issues that a patch raises (read-only fields, protected workflow states, fields closed
after submit, unset fields, origins of child rows) and the normalization of table values. A
table row may name the row it comes from; `normalizeTableFields` drops that internal name and
keeps the read-only values of the row it came from. It works value by value: the fields of the
data stay what they are, and only table values change (`get_normalizeTableFields`).
-/

open Utf

abbrev RelatedDocTypeResolver := DocTypeName → Option DocTypeDefinition

/-- `CHILD_TABLE_ROW_INDEX_FIELD`. -/
def childTableRowIndexField : JsString := js "__cf_frappe_row_index"

/-! ## Origins of child rows -/

def childRowOriginIndex : Option Json → Option Nat
  | some (.num n) => if Json.isSafeInteger n && 0 ≤ n then some n.num.toNat else none
  | some (.str s) =>
    if !s.isEmpty && s.all isAsciiDigit && Json.digitsValue s ≤ 2 ^ 53 - 1 then some (Json.digitsValue s) else none
  | _ => none

/-- The data of a row, when the value is an object. -/
def rowData : Option Json → Option DocumentData
  | some (.obj row) => some row
  | _ => none

/-- The rows of a table value. -/
def tableRows : Option Json → List Json
  | some (.arr rows) => rows
  | _ => []

/-- The child DocType of a table field, when it can be resolved. -/
def tableChild (relatedDocType : RelatedDocTypeResolver) (field : FieldDefinition) : Option DocTypeDefinition :=
  (nonEmptyText field.tableOf).bind relatedDocType

/-! ## Normalizing table values -/

/-- The fields of a row without the internal one. -/
def withoutRowIndex (row : DocumentData) : DocumentData := Record.without row [childTableRowIndexField]

def stripChildRowInternalFields : Json → Json
  | .obj row => .obj (withoutRowIndex row)
  | _ => .obj []

/-- Read-only fields that a row leaves out keep the values of the row it comes from. -/
def preserveReadOnlyFields (child : DocTypeDefinition) (existingRow row : DocumentData) : DocumentData :=
  (child.fields.filter (fun field => field.readOnly)).foldl
    (fun preserved field =>
      match Record.get existingRow field.name with
      | some value => if Record.has preserved field.name then preserved else Record.set preserved field.name value
      | none => preserved) row

section

variable (relatedDocType : RelatedDocTypeResolver)

mutual

/-- The value of a field, with the value it had before. -/
def normalizeFieldValue : Json → Option FieldDefinition → Option Json → Json
  | .arr rows, some field, existingValue =>
    if field.type = .table ∧ (nonEmptyText field.tableOf).isSome then
      match tableChild relatedDocType field with
      | some child =>
        match existingValue with
        | some (.arr existingRows) => .arr (normalizeRows rows child existingRows)
        | _ => .arr (normalizeRows rows child [])
      | none => .arr (rows.map stripChildRowInternalFields)
    else .arr rows
  | value, _, _ => value

/-- The source strips the internal field of a row before it normalizes the row; both look at
one field at a time, so that the order does not matter. -/
def normalizeRows : List Json → DocTypeDefinition → List Json → List Json
  | [], _, _ => []
  | .obj row :: rows, child, existingRows =>
    (match (childRowOriginIndex (Record.get row childTableRowIndexField)).bind (existingRows[·]?) with
      | some (.obj existingRow) =>
        .obj (preserveReadOnlyFields child existingRow
          (withoutRowIndex (normalizeFields row child (some existingRow))))
      | _ => .obj (withoutRowIndex (normalizeFields row child none))) ::
      normalizeRows rows child existingRows
  | row :: rows, child, existingRows => row :: normalizeRows rows child existingRows

def normalizeFields : List (JsString × Json) → DocTypeDefinition → Option DocumentData →
    List (JsString × Json)
  | [], _, _ => []
  | (name, value) :: rest, doctype, existingData =>
    (name, normalizeFieldValue value (doctype.field? name) (existingData.bind (Record.get · name))) ::
      normalizeFields rest doctype existingData

end

def normalizeTableFields (doctype : DocTypeDefinition) (data : DocumentData)
    (existingData : Option DocumentData) : DocumentData :=
  normalizeFields relatedDocType data doctype existingData

def preserveReadOnlyTableValues (doctype : DocTypeDefinition) (patch : DocumentData)
    (existing : DocumentSnapshot) : DocumentData :=
  normalizeTableFields relatedDocType doctype patch (some existing.data)

def stripInternalTableFields (doctype : DocTypeDefinition) (data : DocumentData) : DocumentData :=
  normalizeTableFields relatedDocType doctype data none

end

/-! ## Issues -/

/-- The document that a field condition is read on. -/
def documentSnapshotForFieldCondition (doctype : DocTypeDefinition) (data : DocumentData) :
    DocumentSnapshot :=
  { tenantId := [], doctype := doctype.name, name := [], version := 0, docstatus := .draft, data,
    createdAt := [], updatedAt := [] }

def readOnlyIssue (fieldName : JsString) : ValidationIssue :=
  { field := some fieldName, code := js "readonly",
    message := js "Field '" ++ fieldName ++ js "' is read only" }

/-- How each value of a record is checked for read-only fields in its rows, given the final
value of the field. -/
abbrev RowCheckers := Record JsString (FieldDefinition → Option Json → List ValidationIssue)

section

variable (canonicalize : UInt16 → UInt16) (relatedDocType : RelatedDocTypeResolver)

def conditionalReadOnlyApplies (field : FieldDefinition) (document : DocumentSnapshot) : Bool :=
  match field.readOnlyDependsOn with
  | some condition => evaluatePredicateExpression canonicalize { after := some document } condition
  | none => false

def fieldIsReadOnly (field : FieldDefinition) (document : DocumentSnapshot) : Bool :=
  field.readOnly || conditionalReadOnlyApplies canonicalize field document

/-- `readonlyIssues`, given how the values of the patch are checked as tables. -/
def readonlyIssuesWith (rows : RowCheckers) (doctype : DocTypeDefinition) (patch : DocumentData)
    (finalData : DocumentData) (unset : List JsString) : List ValidationIssue :=
  let finalDocument := documentSnapshotForFieldCondition doctype finalData
  let patchIssues := (Record.keys patch).flatMap fun fieldName =>
    match doctype.field? fieldName with
    | some field => if fieldIsReadOnly canonicalize field finalDocument then [readOnlyIssue fieldName] else []
    | none => []
  let unsetIssues := (unset.filter (fun fieldName => !Record.has patch fieldName)).flatMap fun fieldName =>
    match doctype.field? fieldName with
    | some field =>
      if !field.readOnly && conditionalReadOnlyApplies canonicalize field finalDocument then
        [readOnlyIssue fieldName]
      else []
    | none => []
  let childIssues := (doctype.fields.filter (fun field => field.type == .table)).flatMap fun field =>
    match Record.get rows field.name with
    | some check => check field (Record.get finalData field.name)
    | none => []
  patchIssues ++ unsetIssues ++ childIssues

mutual

def readonlyTableIssues : Json → FieldDefinition → Option Json → List ValidationIssue
  | .arr rows, field, finalValue =>
    match tableChild relatedDocType field with
    | some child => readonlyRowIssues rows 0 child field (tableRows finalValue)
    | none => []
  | _, _, _ => []

/-- The rows of a table from an index on, each beside the final row at its index. -/
def readonlyRowIssues : List Json → Nat → DocTypeDefinition → FieldDefinition → List Json →
    List ValidationIssue
  | [], _, _, _, _ => []
  | .obj row :: rows, index, child, field, finalRows =>
    let finalRow := (rowData finalRows[index]?).getD row
    (readonlyIssuesWith canonicalize (rowCheckers row) child row finalRow []).map (rowIssue field index) ++
      readonlyRowIssues rows (index + 1) child field finalRows
  | _ :: rows, index, child, field, finalRows => readonlyRowIssues rows (index + 1) child field finalRows

def rowCheckers : List (JsString × Json) → RowCheckers
  | [] => []
  | (name, value) :: rest => (name, readonlyTableIssues value) :: rowCheckers rest

end

def readonlyIssues (doctype : DocTypeDefinition) (patch finalData : DocumentData) (unset : List JsString) :
    List ValidationIssue :=
  readonlyIssuesWith canonicalize (rowCheckers canonicalize relatedDocType patch) doctype patch finalData unset

end

def workflowStateProtectedIssue (field : JsString) : ValidationIssue :=
  { field := some field, code := js "workflow_state_protected",
    message := js "Workflow state field '" ++ field ++ js "' can only be changed through workflow transitions" }

def workflowStateMutationIssues (doctype : DocTypeDefinition) (patch : DocumentData)
    (unset : List JsString) (authorizedTransitions : DocumentData) : List ValidationIssue :=
  doctype.workflows.flatMap fun workflow =>
    let field := workflow.stateField
    if !Record.has patch field && !unset.contains field then []
    else if !unset.contains field && Record.has authorizedTransitions field &&
        strictEqual (Record.get patch field) (Record.get authorizedTransitions field) then []
    else [workflowStateProtectedIssue field]
where
  /-- `===`: two arrays or objects are different ones. -/
  strictEqual : Option Json → Option Json → Bool
    | some (.arr _), _ | some (.obj _), _ => false
    | left, right => left == right

def allowOnSubmitIssues (doctype : DocTypeDefinition) (patch : DocumentData) (unset : List JsString) :
    List ValidationIssue :=
  (Record.keys patch ++ unset).eraseDups.flatMap fun fieldName =>
    match doctype.field? fieldName with
    | some field =>
      if field.allowOnSubmit then []
      else
        [{ field := some fieldName, code := js "allow_on_submit",
           message := js "Field '" ++ fieldName ++ js "' cannot be updated after submit" }]
    | none => []

def documentUnsetIssues (doctype : DocTypeDefinition) (unset : List JsString)
    (existingData patch : DocumentData) : List ValidationIssue :=
  unset.flatMap fun field =>
    let definition := doctype.field? field
    let issue (code message : JsString) : ValidationIssue := { field := some field, code, message }
    let quoted := js "Field '" ++ field ++ js "' "
    (if Record.has patch field then
      [issue (js "unset_patch_conflict") (quoted ++ js "cannot be patched and unset in the same update")]
      else []) ++
    (if definition.any (fun definition => definition.required) then
      [issue (js "required") (quoted ++ js "is required")] else []) ++
    (if definition.any (fun definition => definition.readOnly) then
      [issue (js "readonly") (quoted ++ js "is read only")] else []) ++
    (if definition.isNone && !Record.has existingData field then
      [issue (js "unknown_field") (quoted ++ js "is not defined on " ++ doctype.name)] else [])

/-- How the origins in the rows of a value are checked: with the field, the earlier value of
the field and the path of the field. -/
abbrev OriginCheckers := Record JsString (FieldDefinition → Option Json → JsString → List ValidationIssue)

/-- The issue of a row whose origin is not one. -/
def childRowOriginIssue (field : FieldDefinition) (rowPath message : JsString) : ValidationIssue :=
  { field := some (rowPath ++ js "." ++ childTableRowIndexField), code := js "child_row_origin",
    message := js "Field '" ++ field.name ++ js "' " ++ message }

/-- `childTableOriginIssues`, given how the values of the patch are checked as tables. -/
def childTableOriginIssuesWith (origins : OriginCheckers) (doctype : DocTypeDefinition)
    (existingData : Option DocumentData) (pathPrefix : JsString) : List ValidationIssue :=
  (doctype.fields.filter (fun field => field.type == .table)).flatMap fun field =>
    match Record.get origins field.name with
    | some check => check field (existingData.bind (Record.get · field.name)) pathPrefix
    | none => []

section

variable (relatedDocType : RelatedDocTypeResolver)

mutual

def tableOriginIssues : Json → FieldDefinition → Option Json → JsString → List ValidationIssue
  | .arr rows, field, existingValue, pathPrefix =>
    match tableChild relatedDocType field with
    | some child => rowOriginIssues rows 0 [] child field (tableRows existingValue) pathPrefix
    | none => []
  | _, _, _, _ => []

/-- The rows of a table from an index on; `seenOrigins` are the origins of those before. -/
def rowOriginIssues : List Json → Nat → List Nat → DocTypeDefinition → FieldDefinition → List Json →
    JsString → List ValidationIssue
  | [], _, _, _, _, _, _ => []
  | .obj row :: rows, index, seenOrigins, child, field, existingRows, pathPrefix =>
    let rowPath := pathPrefix ++ field.name ++ js "[" ++ Json.natToString index ++ js "]"
    let rest (seenOrigins : List Nat) :=
      rowOriginIssues rows (index + 1) seenOrigins child field existingRows pathPrefix
    if !Record.has row childTableRowIndexField then rest seenOrigins
    else
      match childRowOriginIndex (Record.get row childTableRowIndexField) with
      | none =>
        childRowOriginIssue field rowPath (js "has an invalid child row origin") :: rest seenOrigins
      | some originIndex =>
        if existingRows.length ≤ originIndex then
          childRowOriginIssue field rowPath
            (js "references a child row origin outside the current table") :: rest seenOrigins
        else if seenOrigins.contains originIndex then
          childRowOriginIssue field rowPath
            (js "cannot reuse the same child row origin more than once") :: rest seenOrigins
        else
          childTableOriginIssuesWith (originCheckers row) child (rowData existingRows[originIndex]?)
            (rowPath ++ js ".") ++ rest (originIndex :: seenOrigins)
  | _ :: rows, index, seenOrigins, child, field, existingRows, pathPrefix =>
    rowOriginIssues rows (index + 1) seenOrigins child field existingRows pathPrefix

def originCheckers : List (JsString × Json) → OriginCheckers
  | [] => []
  | (name, value) :: rest => (name, tableOriginIssues value) :: originCheckers rest

end

def childTableOriginIssues (doctype : DocTypeDefinition) (patch : DocumentData)
    (existingData : DocumentData) : List ValidationIssue :=
  childTableOriginIssuesWith (originCheckers relatedDocType patch) doctype (some existingData) []

end

/-! ## Facts -/

section

variable {relatedDocType : RelatedDocTypeResolver}

/-- **Normalizing works value by value.** -/
theorem get_normalizeTableFields (doctype : DocTypeDefinition) (data : DocumentData)
    (existingData : Option DocumentData) (name : JsString) :
    Record.get (normalizeTableFields relatedDocType doctype data existingData) name =
      (Record.get data name).map (fun value =>
        normalizeFieldValue relatedDocType value (doctype.field? name)
          (existingData.bind (Record.get · name))) := by
  unfold normalizeTableFields
  induction data with
  | nil => rfl
  | cons entry data ih =>
    obtain ⟨key, value⟩ := entry
    rw [normalizeFields, Record.get_cons, Record.get_cons, ih]
    by_cases hkey : key = name
    · subst hkey
      simp
    · simp [hkey]

theorem has_normalizeTableFields (doctype : DocTypeDefinition) (data : DocumentData)
    (existingData : Option DocumentData) (name : JsString) :
    Record.has (normalizeTableFields relatedDocType doctype data existingData) name = Record.has data name := by
  rw [Record.has, get_normalizeTableFields, Option.isSome_map, Record.has]

/-- The values of fields that are no tables are left as they are. -/
theorem normalizeFieldValue_of_ne_table {value : Json} {field : Option FieldDefinition}
    {existingValue : Option Json} (h : ∀ definition, field = some definition → definition.type ≠ .table) :
    normalizeFieldValue relatedDocType value field existingValue = value := by
  cases value with
  | arr rows =>
    cases field with
    | none => rfl
    | some definition =>
      have hne := h definition rfl
      simp [normalizeFieldValue, hne]
  | _ => rfl

theorem get_normalizeTableFields_of_ne_table {doctype : DocTypeDefinition} {data : DocumentData}
    {existingData : Option DocumentData} {name : JsString}
    (h : ∀ definition, doctype.field? name = some definition → definition.type ≠ .table) :
    Record.get (normalizeTableFields relatedDocType doctype data existingData) name = Record.get data name := by
  rw [get_normalizeTableFields]
  cases Record.get data name with
  | none => rfl
  | some value => rw [Option.map_some, normalizeFieldValue_of_ne_table h]

end

/-- Fields that may be unset: not patched as well, and neither required nor read-only. -/
theorem documentUnsetIssues_eq_nil {doctype : DocTypeDefinition} {unset : List JsString}
    {existingData patch : DocumentData} (h : documentUnsetIssues doctype unset existingData patch = [])
    {name : JsString} (hname : name ∈ unset) :
    Record.get patch name = none ∧
      ∀ field, doctype.field? name = some field → field.required = false ∧ field.readOnly = false := by
  rw [documentUnsetIssues, List.flatMap_eq_nil_iff] at h
  have hone := h name hname
  simp only [List.append_eq_nil_iff, ite_eq_right_iff, List.cons_ne_nil, imp_false, Bool.not_eq_true] at hone
  obtain ⟨⟨⟨hpatch, hrequired⟩, hreadOnly⟩, -⟩ := hone
  refine ⟨Record.has_eq_false.mp hpatch, ?_⟩
  intro field hfield
  rw [hfield] at hrequired hreadOnly
  exact ⟨hrequired, hreadOnly⟩
