import CfFrappe.Core.Events
import CfFrappe.Core.Predicates

set_option autoImplicit false

/-! # Validation of document data

`validateDocumentData` checks data against a DocType, field by field and row by row into child tables. Whole
documents and patches go through the same function: a patch is validated with `isPartial`, and may leave out a
required field, but not set it to nothing.

`validateDocumentData_eq_nil` says what data without issues is. The results about updates rest on that lemma
and never look into the checks of one field.
-/

open Utf

/-! ## Data as commands give it -/

/-- The data of a command, where a field may be `undefined`. -/
abbrev MutableDocumentData := Record JsString (Option Json)

/-- The data without its `undefined` fields. -/
def compactData (input : MutableDocumentData) : DocumentData :=
  input.filterMap (fun entry => entry.2.map (fun value => (entry.1, value)))

/-! ## Validation -/

/-- An optional string that a condition reads: the empty string counts as none. -/
def nonEmptyText (text : Option JsString) : Option JsString := text.filter (fun s => !s.isEmpty)

structure ValidationOptions where
  isPartial : Bool := false
  existing : Option DocumentData := none
  relatedDocType : DocTypeName → Option DocTypeDefinition := fun _ => none

/-- `undefined`, `null`, the empty string, or the empty table. -/
def isMissing (field : FieldDefinition) : Option Json → Bool
  | none => true
  | some .null => true
  | some (.str s) => s.isEmpty
  | some (.arr items) => field.type == .table && items.isEmpty
  | some _ => false

/-- The document that the conditions of fields are read on. -/
def documentSnapshotForValidation (doctype : DocTypeDefinition) (input : DocumentData)
    (options : ValidationOptions) : DocumentSnapshot :=
  { tenantId := [], doctype := doctype.name, name := [], version := 0, docstatus := .draft,
    data := match options.existing with
      | some existing => Record.merge existing input
      | none => input
    createdAt := [], updatedAt := [] }

/-- A field that is required and has no value. -/
def requiredIssue (field : FieldDefinition) : ValidationIssue :=
  { field := some field.name, code := js "required",
    message := js "Field '" ++ field.name ++ js "' is required" }

/-- What `validateField` says of the type of a value; `tableIssues` are those of a table. -/
def fieldTypeIssues (field : FieldDefinition) (value : Json) (tableIssues : List ValidationIssue) :
    List ValidationIssue :=
  let fail (code : JsString) (message : JsString) : List ValidationIssue :=
    [{ field := some field.name, code, message := js "Field '" ++ field.name ++ js "' " ++ message }]
  match field.type with
  | .text | .longText | .date | .datetime | .link =>
    match value with
    | .str s => if s.contains 0 then fail (js "nul") (js "must not contain U+0000") else []
    | _ => fail (js "type") (js "must be a string")
  | .integer =>
    match value with
    | .num n => if n.den = 1 then [] else fail (js "type") (js "must be an integer")
    | _ => fail (js "type") (js "must be an integer")
  | .number =>
    match value with
    | .num _ => []
    | _ => fail (js "type") (js "must be a number")
  | .boolean =>
    match value with
    | .bool _ => []
    | _ => fail (js "type") (js "must be a boolean")
  | .json => []
  | .table => tableIssues
  | .select =>
    match value with
    | .str s =>
      match field.options with
      | some options =>
        if options.contains s then []
        else fail (js "option") (js "must be one of " ++ (js ", ").intercalate options)
      | none => []
    | _ => fail (js "type") (js "must be a string")

/-- The bounds of a field, on the length of a text and on the value of a number. -/
def fieldBoundIssues (field : FieldDefinition) (value : Json) : List ValidationIssue :=
  let fail (code : JsString) (message : JsString) : List ValidationIssue :=
    [{ field := some field.name, code, message := js "Field '" ++ field.name ++ js "' " ++ message }]
  let bounds (size : Rat) (unit : JsString) : List ValidationIssue :=
    (match field.min with
      | some min => if size < min then fail (js "min") (js "must be at least " ++ Json.numberToString min ++ unit)
          else []
      | none => []) ++
    (match field.max with
      | some max => if max < size then fail (js "max") (js "must be at most " ++ Json.numberToString max ++ unit)
          else []
      | none => [])
  match value with
  | .str s => bounds s.length (js " characters")
  | .num n => bounds n []
  | _ => []

/-- The issues of a field's value, with those of a table already found. -/
def validateField (field : FieldDefinition) (value : Json) (tableIssues : List ValidationIssue) :
    List ValidationIssue :=
  fieldTypeIssues field value tableIssues ++ fieldBoundIssues field value

/-- The issues of a row, at the row's place in its table. -/
def rowIssue (field : FieldDefinition) (index : Nat) (issue : ValidationIssue) : ValidationIssue :=
  let place := field.name ++ js "[" ++ Json.natToString index ++ js "]"
  { issue with
    field := some (match nonEmptyText issue.field with
      | some inner => place ++ js "." ++ inner
      | none => place) }

/-- How each value of a record is validated as a table. -/
abbrev TableValidators := Record JsString (FieldDefinition → ValidationOptions → List ValidationIssue)

section

variable (canonicalize : UInt16 → UInt16)

/-- Whether the `mandatoryDependsOn` condition of a field holds. -/
def mandatoryByDependency (doctype : DocTypeDefinition) (field : FieldDefinition) (input : DocumentData)
    (options : ValidationOptions) : Bool :=
  match field.mandatoryDependsOn with
  | some condition =>
    evaluatePredicateExpression canonicalize
      { after := some (documentSnapshotForValidation doctype input options), input } condition
  | none => false

/-- One turn of the loop of `validateDocumentData` over the declared fields. -/
def validateDeclaredField (tables : TableValidators) (definition : DocTypeDefinition) (input : DocumentData)
    (options : ValidationOptions) (field : FieldDefinition) : List ValidationIssue :=
  let value := Record.get input field.name
  let finalValue := Record.get (documentSnapshotForValidation definition input options).data field.name
  if (field.required && isMissing field value && (!options.isPartial || value.isSome)) ||
      (mandatoryByDependency canonicalize definition field input options && isMissing field finalValue) then
    [requiredIssue field]
  else
    match value with
    | none => []
    | some value =>
      if isMissing field (some value) then []
      else
        let tableIssues := match Record.get tables field.name with
          | some validate => validate field options
          | none => []
        validateField field value tableIssues

/-- The names of the input that the DocType does not declare. -/
def unknownFieldIssues (definition : DocTypeDefinition) (input : DocumentData) : List ValidationIssue :=
  if definition.allowUnknownFields then []
  else (Record.keys input).flatMap fun key =>
    match definition.field? key with
    | some _ => []
    | none =>
      [{ field := some key, code := js "unknown_field",
         message := js "Field '" ++ key ++ js "' is not defined on " ++ definition.name }]

/-- `validateDocumentData`, given how the values of the input are validated as tables. -/
def validateDocumentDataWith (tables : TableValidators) (definition : DocTypeDefinition)
    (input : DocumentData) (options : ValidationOptions) : List ValidationIssue :=
  unknownFieldIssues definition input ++
    definition.fields.flatMap (validateDeclaredField canonicalize tables definition input options)

mutual

def validateTableField : Json → FieldDefinition → ValidationOptions → List ValidationIssue
  | .arr rows, field, options =>
    match (nonEmptyText field.tableOf).bind options.relatedDocType with
    | some child => validateTableRows rows 0 child field options
    | none =>
      [{ field := some field.name, code := js "table_target",
         message := js "Field '" ++ field.name ++ js "' references unavailable child DocType '" ++
           field.tableOf.getD [] ++ js "'" }]
  | _, field, _ =>
    [{ field := some field.name, code := js "type",
       message := js "Field '" ++ field.name ++ js "' must be a table array" }]

/-- The rows of a table from a given index on; each is validated as a whole document. -/
def validateTableRows : List Json → Nat → DocTypeDefinition → FieldDefinition → ValidationOptions →
    List ValidationIssue
  | [], _, _, _, _ => []
  | .obj row :: rows, index, child, field, options =>
    (validateDocumentDataWith canonicalize (tableValidators row) child row
      { options with isPartial := false }).map (rowIssue field index) ++
      validateTableRows rows (index + 1) child field options
  | _ :: rows, index, child, field, options =>
    { field := some (field.name ++ js "[" ++ Json.natToString index ++ js "]"), code := js "type",
      message := js "Row " ++ Json.natToString (index + 1) ++ js " in '" ++ field.name ++
        js "' must be an object" } :: validateTableRows rows (index + 1) child field options

def tableValidators : List (JsString × Json) → TableValidators
  | [] => []
  | (key, value) :: rest => (key, validateTableField value) :: tableValidators rest

end

def validateDocumentData (definition : DocTypeDefinition) (input : DocumentData)
    (options : ValidationOptions) : List ValidationIssue :=
  validateDocumentDataWith canonicalize (tableValidators canonicalize input) definition input options

end

/-! ## Data without issues -/

section

variable {canonicalize : UInt16 → UInt16}

theorem get_tableValidators (input : DocumentData) (key : JsString) :
    Record.get (tableValidators canonicalize input) key =
      (Record.get input key).map (validateTableField canonicalize) := by
  induction input with
  | nil => rfl
  | cons entry input ih =>
    obtain ⟨name, value⟩ := entry
    rw [tableValidators, Record.get_cons, Record.get_cons, ih]
    split_ifs <;> rfl

/-- Rows are whole documents, whether their table is part of a patch or not. -/
theorem validateTableRows_isPartial (rows : List Json) (index : Nat) (child : DocTypeDefinition)
    (field : FieldDefinition) (options : ValidationOptions) (isPartial : Bool) :
    validateTableRows canonicalize rows index child field { options with isPartial } =
      validateTableRows canonicalize rows index child field options := by
  induction rows generalizing index with
  | nil => rfl
  | cons row rows ih =>
    cases row <;> simp only [validateTableRows, ih]

theorem validateTableField_isPartial (value : Json) (field : FieldDefinition) (options : ValidationOptions)
    (isPartial : Bool) :
    validateTableField canonicalize value field { options with isPartial } =
      validateTableField canonicalize value field options := by
  cases value with
  | arr rows =>
    simp only [validateTableField, validateTableRows_isPartial]
  | _ => rfl

theorem unknownFieldIssues_eq_nil {definition : DocTypeDefinition} {input : DocumentData} :
    unknownFieldIssues definition input = [] ↔
      definition.allowUnknownFields = true ∨
        ∀ key ∈ Record.keys input, ∃ field, definition.field? key = some field := by
  unfold unknownFieldIssues
  by_cases hallow : definition.allowUnknownFields = true
  · simp [hallow]
  · rw [if_neg hallow, List.flatMap_eq_nil_iff]
    rw [or_iff_right hallow]
    refine forall₂_congr fun key _ => ?_
    cases definition.field? key with
    | none => simp
    | some field => simp

/-- A value that the field accepts, apart from being required. -/
def ValueFits (canonicalize : UInt16 → UInt16) (options : ValidationOptions) (field : FieldDefinition)
    (value : Json) : Prop :=
  isMissing field (some value) = true ∨
    validateField field value (validateTableField canonicalize value field options) = []

/-- What the loop over the declared fields asks of a field when no earlier data is given. -/
structure FieldFits (canonicalize : UInt16 → UInt16) (definition : DocTypeDefinition)
    (input : DocumentData) (options : ValidationOptions) (field : FieldDefinition) : Prop where
  /-- a required field is not left empty; a patch may leave it out -/
  required : field.required = true → isMissing field (Record.get input field.name) = true →
    options.isPartial = true ∧ Record.get input field.name = none
  mandatory : mandatoryByDependency canonicalize definition field input options = true →
    isMissing field (Record.get input field.name) = false
  fits : ∀ value, Record.get input field.name = some value → ValueFits canonicalize options field value

theorem validateDeclaredField_eq_nil {definition : DocTypeDefinition} {input : DocumentData}
    {options : ValidationOptions} {field : FieldDefinition} (hexisting : options.existing = none) :
    validateDeclaredField canonicalize (tableValidators canonicalize input) definition input options field = [] ↔
      FieldFits canonicalize definition input options field := by
  have hdata : (documentSnapshotForValidation definition input options).data = input := by
    simp only [documentSnapshotForValidation, hexisting]
  unfold validateDeclaredField
  simp only [hdata, get_tableValidators]
  constructor
  · intro h
    split_ifs at h with hrequired
    rw [Bool.not_eq_true, Bool.or_eq_false_iff] at hrequired
    refine ⟨?_, ?_, ?_⟩
    · intro hreq hmissing
      have h1 := hrequired.1
      rw [hreq, hmissing] at h1
      simpa using h1
    · intro hmand
      have h2 := hrequired.2
      rw [hmand] at h2
      simpa using h2
    · intro value hvalue
      rw [hvalue] at h
      by_cases hmissing : isMissing field (some value) = true
      · exact Or.inl hmissing
      · simp only [hmissing] at h
        exact Or.inr (by simpa using h)
  · intro h
    -- the field is not missing where it must not be
    have hno : (field.required && isMissing field (Record.get input field.name) &&
        (!options.isPartial || (Record.get input field.name).isSome) ||
        mandatoryByDependency canonicalize definition field input options &&
          isMissing field (Record.get input field.name)) = false := by
      rw [Bool.or_eq_false_iff]
      constructor
      · by_contra hc
        rw [Bool.not_eq_false, Bool.and_eq_true, Bool.and_eq_true] at hc
        obtain ⟨hpart, hnone⟩ := h.required hc.1.1 hc.1.2
        rw [hpart, hnone] at hc
        exact absurd hc.2 (by decide)
      · by_contra hc
        rw [Bool.not_eq_false, Bool.and_eq_true] at hc
        rw [h.mandatory hc.1] at hc
        exact absurd hc.2 (by decide)
    rw [hno, if_neg (by decide)]
    cases hvalue : Record.get input field.name with
    | none => rfl
    | some value =>
      rcases h.fits value hvalue with hmissing | hfits
      · simp [hmissing]
      · simp [hfits]

/-- **Data without issues**: every field is declared or unknown fields are allowed, and every
declared field fits. -/
theorem validateDocumentData_eq_nil {definition : DocTypeDefinition} {input : DocumentData}
    {options : ValidationOptions} (hexisting : options.existing = none) :
    validateDocumentData canonicalize definition input options = [] ↔
      (definition.allowUnknownFields = true ∨
        ∀ key ∈ Record.keys input, ∃ field, definition.field? key = some field) ∧
      ∀ field ∈ definition.fields, FieldFits canonicalize definition input options field := by
  rw [validateDocumentData, validateDocumentDataWith, List.append_eq_nil_iff, unknownFieldIssues_eq_nil,
    List.flatMap_eq_nil_iff]
  refine and_congr_right fun _ => forall₂_congr fun field _ => ?_
  exact validateDeclaredField_eq_nil hexisting

theorem ValueFits.isPartial {options : ValidationOptions} {field : FieldDefinition} {value : Json}
    {isPartial : Bool} (h : ValueFits canonicalize { options with isPartial } field value) :
    ValueFits canonicalize options field value := by
  unfold ValueFits at h ⊢
  rwa [validateTableField_isPartial] at h

end
