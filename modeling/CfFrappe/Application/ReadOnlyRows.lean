import CfFrappe.Application.DocumentUpdate
import CfFrappe.Application.UpdateValidity

set_option autoImplicit false

/-! # The rows of an update

A patch gives the rows of a child table anew, and a row may name the row it comes from
(`SubmittedRow`, at any depth). `storedRow` is what becomes of such a row: its own fields, and the
read-only values of its origin that it leaves out. The checks of an update look at the stripped row
beside the stored one; both are followed along the path of the row
(`SubmittedRow.stored`, `SubmittedRow.writable`).
-/

open Utf

/-! ## Stored rows -/

section

variable (relatedDocType : RelatedDocTypeResolver)

/-- A submitted row, completed with the read-only values of its origin. -/
def storedRow (child : DocTypeDefinition) (origin row : DocumentData) : DocumentData :=
  preserveReadOnlyFields child origin (normalizeTableFields relatedDocType child row (some origin))

end

/-- The data at a path of fields and row indexes. -/
def rowAt : DocumentData → List (JsString × Nat) → Option DocumentData
  | data, [] => some data
  | data, (name, index) :: path => (rowData (tableRows (Record.get data name))[index]?).bind (rowAt · path)

section

variable {relatedDocType : RelatedDocTypeResolver} {child : DocTypeDefinition} {origin row : DocumentData}

/-- One turn of the loop of `preserveReadOnlyFields`. -/
def preserveField (existingRow preserved : DocumentData) (field : FieldDefinition) : DocumentData :=
  match Record.get existingRow field.name with
  | some value => if Record.has preserved field.name then preserved else Record.set preserved field.name value
  | none => preserved

theorem get_preserveField (preserved : DocumentData) (field : FieldDefinition) (name : JsString) :
    Record.get (preserveField origin preserved field) name =
      (Record.get preserved name).or (if field.name = name then Record.get origin name else none) := by
  unfold preserveField
  cases hvalue : Record.get origin field.name with
  | none =>
    by_cases hname : field.name = name
    · rw [if_pos hname, ← hname, hvalue, Option.or_none]
    · rw [if_neg hname, Option.or_none]
  | some value =>
    by_cases hname : field.name = name
    · rw [if_pos hname, ← hname, hvalue]
      cases hhas : Record.has preserved field.name with
      | true =>
        obtain ⟨own, hown⟩ := Record.has_iff.mp hhas
        simp [hown]
      | false =>
        rw [Record.has_eq_false.mp hhas]
        simp
    · rw [if_neg hname, Option.or_none]
      dsimp only
      split_ifs
      · rfl
      · rw [Record.get_set, if_neg hname]

theorem get_foldl_preserveField (fields : List FieldDefinition) (preserved : DocumentData) (name : JsString) :
    Record.get (fields.foldl (preserveField origin) preserved) name =
      (Record.get preserved name).or
        (if ∃ field ∈ fields, field.name = name then Record.get origin name else none) := by
  induction fields generalizing preserved with
  | nil => simp
  | cons field fields ih =>
    rw [List.foldl_cons, ih, get_preserveField, Option.or_assoc]
    congr 1
    by_cases hname : field.name = name
    · have hsome : ∃ other ∈ field :: fields, other.name = name := ⟨field, List.mem_cons_self, hname⟩
      rw [if_pos hname, if_pos hsome]
      split_ifs
      · exact Option.or_self
      · exact Option.or_none
    · simp [hname]

/-- **What a stored row holds**: the fields of the row, and the read-only fields of its origin. -/
theorem get_storedRow (name : JsString) :
    Record.get (storedRow relatedDocType child origin row) name =
      ((Record.get row name).map (fun value =>
          normalizeFieldValue relatedDocType value (child.field? name) (Record.get origin name))).or
        (if ∃ field ∈ child.fields, field.readOnly = true ∧ field.name = name then Record.get origin name
          else none) := by
  have hfold : storedRow relatedDocType child origin row =
      (child.fields.filter (fun field => field.readOnly)).foldl (preserveField origin)
        (normalizeTableFields relatedDocType child row (some origin)) := rfl
  rw [hfold, get_foldl_preserveField, get_normalizeTableFields]
  simp only [Option.bind_some, List.mem_filter, and_assoc]

/-- A row that comes from an empty one has nothing to keep. -/
theorem storedRow_nil : storedRow relatedDocType child [] row = stripInternalTableFields relatedDocType child row := by
  have hsame (data : DocumentData) :
      normalizeFields relatedDocType data child (some []) = normalizeFields relatedDocType data child none := by
    induction data with
    | nil => rfl
    | cons entry data ih =>
      obtain ⟨name, value⟩ := entry
      rw [normalizeFields, normalizeFields, ih]
      rfl
  have hkept (fields : List FieldDefinition) (data : DocumentData) :
      fields.foldl (preserveField []) data = data := by
    induction fields generalizing data with
    | nil => rfl
    | cons field fields ih => exact ih data
  unfold storedRow stripInternalTableFields normalizeTableFields
  rw [hsame]
  exact hkept _ _

theorem withoutRowIndex_normalizeFields (data : DocumentData) (existingData : Option DocumentData) :
    withoutRowIndex (normalizeFields relatedDocType data child existingData) =
      normalizeFields relatedDocType (withoutRowIndex data) child existingData := by
  unfold withoutRowIndex Record.without
  induction data with
  | nil => rfl
  | cons entry data ih =>
    obtain ⟨name, value⟩ := entry
    rw [normalizeFields, List.filter_cons, List.filter_cons, ih]
    dsimp only
    split_ifs
    · rw [normalizeFields]
    · rfl

/-- **A row is stored with the read-only values of the row it names.** -/
theorem getElem?_normalizeRows {rows existingRows : List Json} {index originIndex : Nat} {row : DocumentData}
    (hrow : rows[index]? = some (.obj row))
    (horigin : childRowOriginIndex (Record.get row childTableRowIndexField) = some originIndex) :
    (normalizeRows relatedDocType rows child existingRows)[index]? =
      some (.obj (storedRow relatedDocType child ((rowData existingRows[originIndex]?).getD [])
        (withoutRowIndex row))) := by
  induction rows generalizing index with
  | nil => simp at hrow
  | cons first rows ih =>
    cases index with
    | zero =>
      rw [List.getElem?_cons_zero, Option.some.injEq] at hrow
      rw [hrow, normalizeRows, horigin, Option.bind_some, List.getElem?_cons_zero]
      have hfresh : Json.obj (withoutRowIndex (normalizeFields relatedDocType row child none)) =
          .obj (storedRow relatedDocType child [] (withoutRowIndex row)) := by
        rw [storedRow_nil, withoutRowIndex_normalizeFields]
        rfl
      generalize existingRows[originIndex]? = existingRow
      cases existingRow with
      | none => exact congrArg some hfresh
      | some existingRow =>
        cases existingRow with
        | obj existingRow =>
          change some (Json.obj (preserveReadOnlyFields child existingRow
            (withoutRowIndex (normalizeFields relatedDocType row child (some existingRow))))) = _
          rw [withoutRowIndex_normalizeFields]
          rfl
        | _ => exact congrArg some hfresh
    | succ index =>
      rw [List.getElem?_cons_succ] at hrow
      cases first with
      | obj _ => exact ih hrow
      | _ => exact ih hrow

end

/-! ## Submitted rows -/

/-- A row of a table of the patch that names the row it comes from; `row` are its own fields, `origin`
the row that it names. -/
structure TableRow (relatedDocType : RelatedDocTypeResolver) (doctype : DocTypeDefinition)
    (patch existing : DocumentData) (name : JsString) (index : Nat) (child : DocTypeDefinition)
    (row origin : DocumentData) : Prop where
  table : ∃ field, doctype.field? name = some field ∧ field.type = .table ∧ tableChild relatedDocType field = some child
  submitted : ∃ rows submitted originIndex, Record.get patch name = some (.arr rows) ∧
    rows[index]? = some (.obj submitted) ∧ row = withoutRowIndex submitted ∧
    childRowOriginIndex (Record.get submitted childTableRowIndexField) = some originIndex ∧
    origin = (rowData (tableRows (Record.get existing name))[originIndex]?).getD []

/-- The rows of a patch with an origin, in its tables and in the tables of such rows. -/
inductive SubmittedRow (relatedDocType : RelatedDocTypeResolver) :
    DocTypeDefinition → DocumentData → DocumentData → List (JsString × Nat) →
    DocTypeDefinition → DocumentData → DocumentData → Prop
  | own {doctype child patch existing row origin name index}
      (h : TableRow relatedDocType doctype patch existing name index child row origin) :
      SubmittedRow relatedDocType doctype patch existing [(name, index)] child row origin
  | inner {doctype child grandchild patch existing row origin inner innerOrigin name index path}
      (h : TableRow relatedDocType doctype patch existing name index child row origin)
      (hinner : SubmittedRow relatedDocType child row origin path grandchild inner innerOrigin) :
      SubmittedRow relatedDocType doctype patch existing ((name, index) :: path) grandchild inner innerOrigin

section

variable {canonicalize : UInt16 → UInt16} {relatedDocType : RelatedDocTypeResolver}
variable {doctype child : DocTypeDefinition} {patch existing final row origin : DocumentData}
variable {name : JsString} {index : Nat} {path : List (JsString × Nat)}

/-- Data that holds the fields of a patch as an update writes them. -/
def HoldsPatch (relatedDocType : RelatedDocTypeResolver) (doctype : DocTypeDefinition)
    (patch existing final : DocumentData) : Prop :=
  ∀ name value, Record.get patch name = some value →
    Record.get final name =
      some (normalizeFieldValue relatedDocType value (doctype.field? name) (Record.get existing name))

theorem holdsPatch_storedRow : HoldsPatch relatedDocType child row origin (storedRow relatedDocType child origin row) := by
  intro name value hvalue
  rw [get_storedRow, hvalue, Option.map_some, Option.some_or]

/-- What becomes of a table value whose child DocType is known. -/
theorem normalizeFieldValue_table {rows : List Json} {field : FieldDefinition} (htype : field.type = .table)
    (hchild : tableChild relatedDocType field = some child) (existingValue : Option Json) :
    normalizeFieldValue relatedDocType (.arr rows) (some field) existingValue =
      .arr (normalizeRows relatedDocType rows child (tableRows existingValue)) := by
  have htableOf : (nonEmptyText field.tableOf).isSome = true := by
    unfold tableChild at hchild
    cases htext : nonEmptyText field.tableOf with
    | none => simp [htext] at hchild
    | some _ => rfl
  rw [normalizeFieldValue, if_pos ⟨htype, htableOf⟩, hchild]
  cases existingValue with
  | none => rfl
  | some value => cases value <;> rfl

/-- Where a submitted row is stored. -/
theorem TableRow.stored (h : TableRow relatedDocType doctype patch existing name index child row origin)
    (hfinal : HoldsPatch relatedDocType doctype patch existing final) :
    (tableRows (Record.get final name))[index]? = some (.obj (storedRow relatedDocType child origin row)) := by
  obtain ⟨field, hfield, htype, hchild⟩ := h.table
  obtain ⟨rows, submitted, originIndex, hrows, hrow, rfl, horigin, rfl⟩ := h.submitted
  rw [hfinal name (.arr rows) hrows, hfield, normalizeFieldValue_table htype hchild]
  exact getElem?_normalizeRows hrow horigin

/-- **A submitted row is stored at its path.** -/
theorem SubmittedRow.stored
    (h : SubmittedRow relatedDocType doctype patch existing path child row origin)
    (hfinal : HoldsPatch relatedDocType doctype patch existing final) :
    rowAt final path = some (storedRow relatedDocType child origin row) := by
  induction h generalizing final with
  | own h =>
    rw [rowAt, h.stored hfinal]
    rfl
  | inner h _ ih =>
    rw [rowAt, h.stored hfinal]
    exact ih holdsPatch_storedRow

/-! ## What the checks say of a row -/

theorem get_rowCheckers (data : DocumentData) (name : JsString) :
    Record.get (rowCheckers canonicalize relatedDocType data) name =
      (Record.get data name).map (readonlyTableIssues canonicalize relatedDocType) := by
  induction data with
  | nil => rfl
  | cons entry data ih =>
    obtain ⟨key, value⟩ := entry
    rw [rowCheckers, Record.get_cons, Record.get_cons, ih]
    split_ifs <;> rfl

/-- A table without issues: each row is checked beside the final row at its index. -/
theorem readonlyRowIssues_eq_nil {rows finalRows : List Json} {start : Nat} {field : FieldDefinition}
    (h : readonlyRowIssues canonicalize relatedDocType rows start child field finalRows = [])
    (hrow : rows[index]? = some (.obj row)) :
    readonlyIssues canonicalize relatedDocType child row ((rowData finalRows[start + index]?).getD row) [] = [] := by
  induction rows generalizing start index with
  | nil => simp at hrow
  | cons first rows ih =>
    cases index with
    | zero =>
      rw [List.getElem?_cons_zero, Option.some.injEq] at hrow
      rw [hrow, readonlyRowIssues, List.append_eq_nil_iff, List.map_eq_nil_iff] at h
      exact h.1
    | succ index =>
      rw [List.getElem?_cons_succ] at hrow
      have hplace : start + (index + 1) = start + 1 + index := by omega
      rw [hplace]
      cases first with
      | obj _ =>
        rw [readonlyRowIssues, List.append_eq_nil_iff] at h
        exact ih h.2 hrow
      | _ => exact ih h hrow

/-- Without issues no patched field is read-only. -/
theorem has_eq_false_of_readonlyIssues {unset : List JsString}
    (h : readonlyIssues canonicalize relatedDocType doctype patch final unset = []) {field : FieldDefinition}
    (hfield : doctype.field? field.name = some field)
    (hreadOnly : fieldIsReadOnlyForData canonicalize doctype field final = true) :
    Record.has patch field.name = false := by
  unfold readonlyIssues readonlyIssuesWith at h
  dsimp only at h
  rw [List.append_eq_nil_iff, List.append_eq_nil_iff, List.flatMap_eq_nil_iff] at h
  by_contra hhas
  rw [Bool.not_eq_false, Record.has_eq_true] at hhas
  have hone := h.1.1 field.name hhas
  unfold fieldIsReadOnlyForData at hreadOnly
  simp [hfield, hreadOnly] at hone

/-- The checks of a patch check the rows of its tables. -/
theorem TableRow.checked (h : TableRow relatedDocType doctype patch existing name index child row origin)
    (hfinal : HoldsPatch relatedDocType doctype patch existing final) {unset : List JsString}
    (hissues : readonlyIssues canonicalize relatedDocType doctype
      (stripInternalTableFields relatedDocType doctype patch) final unset = []) :
    readonlyIssues canonicalize relatedDocType child (stripInternalTableFields relatedDocType child row)
      (storedRow relatedDocType child origin row) [] = [] := by
  have hstored := h.stored hfinal
  obtain ⟨field, hfield, htype, hchild⟩ := h.table
  obtain ⟨rows, submitted, originIndex, hrows, hrow, rfl, horigin, -⟩ := h.submitted
  have hname : field.name = name := DocTypeDefinition.field?_name hfield
  -- the stripped patch has the stripped rows
  have hstripped : Record.get (stripInternalTableFields relatedDocType doctype patch) name =
      some (.arr (normalizeRows relatedDocType rows child [])) := by
    rw [stripInternalTableFields, get_normalizeTableFields, hrows, hfield, Option.map_some,
      normalizeFieldValue_table htype hchild]
    rfl
  have hstrippedRow : (normalizeRows relatedDocType rows child [])[index]? =
      some (.obj (stripInternalTableFields relatedDocType child (withoutRowIndex submitted))) := by
    rw [getElem?_normalizeRows hrow horigin, List.getElem?_nil, rowData, Option.getD_none, storedRow_nil]
    simp
  unfold readonlyIssues readonlyIssuesWith at hissues
  dsimp only at hissues
  rw [List.append_eq_nil_iff, List.flatMap_eq_nil_iff (l := doctype.fields.filter _)] at hissues
  have htable := hissues.2 field (List.mem_filter.mpr ⟨DocTypeDefinition.field?_mem hfield, by rw [htype]; rfl⟩)
  rw [hname, get_rowCheckers, hstripped, Option.map_some] at htable
  dsimp only at htable
  rw [readonlyTableIssues, hchild] at htable
  have hchecked := readonlyRowIssues_eq_nil htable hstrippedRow
  rw [Nat.zero_add, hstored] at hchecked
  exact hchecked

/-- **A submitted row leaves out every field that is read-only on the row as it is stored.** -/
theorem SubmittedRow.leavesOut
    (h : SubmittedRow relatedDocType doctype patch existing path child row origin)
    (hfinal : HoldsPatch relatedDocType doctype patch existing final) {unset : List JsString}
    (hissues : readonlyIssues canonicalize relatedDocType doctype
      (stripInternalTableFields relatedDocType doctype patch) final unset = []) {field : FieldDefinition}
    (hfield : child.field? field.name = some field)
    (hreadOnly : fieldIsReadOnlyForData canonicalize child field (storedRow relatedDocType child origin row) = true) :
    Record.has row field.name = false := by
  induction h generalizing final unset with
  | own h =>
    have habsent := has_eq_false_of_readonlyIssues (h.checked hfinal hissues) hfield hreadOnly
    rwa [stripInternalTableFields, has_normalizeTableFields] at habsent
  | inner h _ ih => exact ih holdsPatch_storedRow (h.checked hfinal hissues) hfield hreadOnly

/-- The child DocType of a submitted row is one that the resolver knows. -/
theorem SubmittedRow.child_known (h : SubmittedRow relatedDocType doctype patch existing path child row origin) :
    ∃ name, relatedDocType name = some child := by
  induction h with
  | own h =>
    obtain ⟨field, -, -, hchild⟩ := h.table
    obtain ⟨name, -, hname⟩ := Option.bind_eq_some_iff.mp hchild
    exact ⟨name, hname⟩
  | inner _ _ ih => exact ih

end
