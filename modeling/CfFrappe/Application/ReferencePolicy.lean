import CfFrappe.Application.FieldPolicy

set_option autoImplicit false

/-! # Links and the fields fetched through them

A field may take its value from the document that a link field of the same DocType names
(`fetchFrom`), and a command may only link to documents that its actor can read. How a target is
read is the parameter `readFetchedTarget`, whether it may be linked to is `canReadLinkedTarget`.
-/

open Utf

structure FetchFromPath where
  linkField : JsString
  sourceField : JsString

/-- A path is two names around one dot. -/
def parseFetchFrom (fetchFrom : JsString) : Option FetchFromPath :=
  match fetchFrom.splitOn 0x2E with
  | [linkField, sourceField] =>
    if linkField.isEmpty || sourceField.isEmpty then none else some { linkField, sourceField }
  | _ => none

def isEmptyFetchedTarget : Option Json → Bool
  | none | some .null | some (.str []) | some (.arr []) => true
  | _ => false

/-- `left ?? right`. -/
def nullish (left right : Option Json) : Option Json :=
  match left with
  | none | some .null => right
  | some value => some value

structure DocumentLinkAccessContext where
  sourceDoctype : DocTypeDefinition
  field : FieldDefinition
  targetDoctype : DocTypeDefinition
  targetName : DocumentName

section

variable (relatedDocType : RelatedDocTypeResolver)
variable (readFetchedTarget : DocumentLinkAccessContext → Option DocumentSnapshot)

/-- What a field fetches through a link field that is there. -/
def fetchedValue (doctype : DocTypeDefinition) (linkField : FieldDefinition) (sourceField : JsString)
    (linkValue : Option Json) : Option Json :=
  match linkValue with
  | some (.str targetName) =>
    if targetName.isEmpty then none
    else
      (relatedDocType (linkField.linkTo.getD [])).bind fun targetDoctype =>
        (readFetchedTarget { sourceDoctype := doctype, field := linkField, targetDoctype, targetName }).bind
          fun target => Record.get target.data sourceField
  | _ => none

/-- One turn of the loop of `applyFetchedFields`. -/
def applyFetchedField (doctype : DocTypeDefinition) (data : DocumentData) (existing : Option DocumentSnapshot)
    (enriched : DocumentData) (field : FieldDefinition) : DocumentData :=
  if Record.has data field.name then enriched
  else
    match field.fetchFrom.bind parseFetchFrom with
    | none => enriched
    | some fetchPath =>
      match doctype.field? fetchPath.linkField with
      | none => enriched
      | some linkField =>
        let current (name : JsString) : Option Json :=
          nullish (Record.get enriched name) (existing.bind (fun existing => Record.get existing.data name))
        if linkField.type ≠ .link ∨ (existing.isSome ∧ Record.has data linkField.name = false) ∨
            (field.fetchIfEmpty ∧ isEmptyFetchedTarget (current field.name) = false) then
          enriched
        else
          match fetchedValue relatedDocType readFetchedTarget doctype linkField fetchPath.sourceField
              (current linkField.name) with
          | some value => Record.set enriched field.name value
          | none => enriched

def applyFetchedFields (doctype : DocTypeDefinition) (data : DocumentData) (existing : Option DocumentSnapshot) :
    DocumentData :=
  doctype.fields.foldl (applyFetchedField relatedDocType readFetchedTarget doctype data existing) data

end

/-! ## Links -/

/-- How the value of a table field is checked for links, given the path of the field. -/
abbrev LinkCheckers := Record JsString (FieldDefinition → JsString → List ValidationIssue)

section

variable (relatedDocType : RelatedDocTypeResolver) (canReadLinkedTarget : DocumentLinkAccessContext → Bool)

/-- The issue of a link value. -/
def linkValueIssues (doctype : DocTypeDefinition) (field : FieldDefinition) (fieldPath : JsString) :
    Option Json → List ValidationIssue
  | some (.str targetName) =>
    if targetName.isEmpty then []
    else
      match relatedDocType (field.linkTo.getD []) with
      | none => []
      | some targetDoctype =>
        if canReadLinkedTarget { sourceDoctype := doctype, field, targetDoctype, targetName } then []
        else
          [{ field := some fieldPath, code := js "link_not_found",
             message := js "Field '" ++ field.name ++ js "' references missing " ++ targetDoctype.name ++
               js "/" ++ targetName }]
  | _ => []

/-- `validateDocumentLinks`, given how the values of the data are checked as tables. -/
def validateDocumentLinksWith (tables : LinkCheckers) (doctype : DocTypeDefinition) (data : DocumentData)
    (pathPrefix : JsString) : List ValidationIssue :=
  (doctype.fields.filter (fun field =>
      (field.type == .link || field.type == .table) && Record.has data field.name)).flatMap fun field =>
    if field.type = .table then
      match Record.get tables field.name with
      | some check => check field (pathPrefix ++ field.name)
      | none => []
    else
      linkValueIssues relatedDocType canReadLinkedTarget doctype field (pathPrefix ++ field.name)
        (Record.get data field.name)

mutual

def tableLinkIssues : Json → FieldDefinition → JsString → List ValidationIssue
  | .arr rows, field, fieldPath =>
    match tableChild relatedDocType field with
    | some child => rowLinkIssues rows 0 child fieldPath
    | none => []
  | _, _, _ => []

def rowLinkIssues : List Json → Nat → DocTypeDefinition → JsString → List ValidationIssue
  | [], _, _, _ => []
  | .obj row :: rows, index, child, fieldPath =>
    validateDocumentLinksWith relatedDocType canReadLinkedTarget (linkCheckers row) child row
        (fieldPath ++ js "[" ++ Json.natToString index ++ js "].") ++
      rowLinkIssues rows (index + 1) child fieldPath
  | _ :: rows, index, child, fieldPath => rowLinkIssues rows (index + 1) child fieldPath

def linkCheckers : List (JsString × Json) → LinkCheckers
  | [] => []
  | (name, value) :: rest => (name, tableLinkIssues value) :: linkCheckers rest

end

def validateDocumentLinks (doctype : DocTypeDefinition) (data : DocumentData) : List ValidationIssue :=
  validateDocumentLinksWith relatedDocType canReadLinkedTarget
    (linkCheckers relatedDocType canReadLinkedTarget data) doctype data []

end

/-! ## Facts -/

section

variable {relatedDocType : RelatedDocTypeResolver}
variable {readFetchedTarget : DocumentLinkAccessContext → Option DocumentSnapshot}
variable {doctype : DocTypeDefinition} {data : DocumentData} {existing : DocumentSnapshot}

/-- **Nothing is fetched into an update that patches no link**, whatever the target would be. -/
theorem applyFetchedFields_of_no_link
    (h : ∀ linkField ∈ doctype.fields, linkField.type = .link → Record.has data linkField.name = false) :
    applyFetchedFields relatedDocType readFetchedTarget doctype data (some existing) = data := by
  have hturn (enriched : DocumentData) (field : FieldDefinition) :
      applyFetchedField relatedDocType readFetchedTarget doctype data (some existing) enriched field =
        enriched := by
    unfold applyFetchedField
    split_ifs with hexplicit
    · rfl
    · cases hpath : field.fetchFrom.bind parseFetchFrom with
      | none => rfl
      | some fetchPath =>
        dsimp only
        cases hlink : doctype.field? fetchPath.linkField with
        | none => rfl
        | some linkField =>
          -- a field that is a link is not in the patch, so that the loop goes on
          have hskip : linkField.type ≠ .link ∨ Record.has data linkField.name = false := by
            by_cases htype : linkField.type = .link
            · exact Or.inr (h linkField (DocTypeDefinition.field?_mem hlink) htype)
            · exact Or.inl htype
          dsimp only
          rw [if_pos]
          rcases hskip with htype | habsent
          · exact Or.inl htype
          · exact Or.inr (Or.inl ⟨rfl, habsent⟩)
  unfold applyFetchedFields
  refine List.foldlRecOn (motive := fun enriched => enriched = data) doctype.fields _ rfl ?_
  intro enriched henriched field _
  rw [hturn, henriched]

/-- Nor into data of a DocType that fetches nothing. -/
theorem applyFetchedFields_of_no_fetchFrom (existing : Option DocumentSnapshot)
    (h : ∀ field ∈ doctype.fields, field.fetchFrom = none) :
    applyFetchedFields relatedDocType readFetchedTarget doctype data existing = data := by
  unfold applyFetchedFields
  refine List.foldlRecOn (motive := fun enriched => enriched = data) doctype.fields _ rfl ?_
  intro enriched henriched field hfield
  rw [← henriched]
  unfold applyFetchedField
  simp [h field hfield]

theorem validateDocumentLinks_of_no_link {canReadLinkedTarget : DocumentLinkAccessContext → Bool}
    (h : ∀ field ∈ doctype.fields, field.type = .link ∨ field.type = .table → Record.has data field.name = false) :
    validateDocumentLinks relatedDocType canReadLinkedTarget doctype data = [] := by
  unfold validateDocumentLinks validateDocumentLinksWith
  rw [List.filter_eq_nil_iff.mpr, List.flatMap_nil]
  intro field hfield hlinkable
  rw [Bool.and_eq_true, Bool.or_eq_true, beq_iff_eq, beq_iff_eq] at hlinkable
  rw [h field hfield hlinkable.1] at hlinkable
  exact Bool.false_ne_true hlinkable.2

end
