import CfFrappe.Application.ReadOnlyRows

set_option autoImplicit false

/-! # When an accepted update keeps read-only values

A field is read-only by its declaration or by a condition on the data that the update leaves. At
the top level both are protected: a patch or an unset of such a field is refused. A child row
is given anew, and what it leaves out is filled in from the row it comes from for the fields that
are declared read-only, not for those that a condition makes read-only. So an accepted update keeps
the read-only values exactly when no row leaves out a value under a condition that the row meets.
-/

open Utf

section

variable {canonicalize : UInt16 → UInt16} {relatedDocType : RelatedDocTypeResolver}
variable {doctype child : DocTypeDefinition} {origin row : DocumentData}

/-- A field that a row leaves out is stored when it is declared read-only. -/
theorem get_storedRow_of_absent (hnames : (child.fields.map (·.name)).Nodup) {field : FieldDefinition}
    (hmem : field ∈ child.fields) (habsent : Record.has row field.name = false) :
    Record.get (storedRow relatedDocType child origin row) field.name =
      if field.readOnly then Record.get origin field.name else none := by
  have honly : (∃ other ∈ child.fields, other.readOnly = true ∧ other.name = field.name) ↔ field.readOnly = true := by
    constructor
    · rintro ⟨other, hother, hreadOnly, hname⟩
      have hfound := DocTypeDefinition.find?_name_of_mem hnames hother
      rw [hname, DocTypeDefinition.find?_name_of_mem hnames hmem, Option.some.injEq] at hfound
      rw [hfound]
      exact hreadOnly
    · intro hreadOnly
      exact ⟨field, hmem, hreadOnly, rfl⟩
  rw [get_storedRow, Record.has_eq_false.mp habsent, Option.map_none, Option.none_or]
  simp only [honly]

end

/-- Read-only fields of the document and of its rows have the values they had. -/
structure KeepsReadOnlyValues (canonicalize : UInt16 → UInt16) (relatedDocType : RelatedDocTypeResolver)
    (doctype : DocTypeDefinition) (patch existing data : DocumentData) : Prop where
  fields : ∀ field ∈ doctype.fields, fieldIsReadOnlyForData canonicalize doctype field data = true →
    Record.get data field.name = Record.get existing field.name
  rows : ∀ path child row origin, SubmittedRow relatedDocType doctype patch existing path child row origin →
    ∃ stored, rowAt data path = some stored ∧
      ∀ field ∈ child.fields, fieldIsReadOnlyForData canonicalize child field stored = true →
        Record.get stored field.name = Record.get origin field.name

/-- No submitted row leaves out a value of its origin under a `readOnlyDependsOn` condition that the
row meets once it is completed with the declared read-only values of its origin. -/
def LeavesNoConditionalValueOut (canonicalize : UInt16 → UInt16) (relatedDocType : RelatedDocTypeResolver)
    (doctype : DocTypeDefinition) (patch existing : DocumentData) : Prop :=
  ∀ path child row origin, SubmittedRow relatedDocType doctype patch existing path child row origin →
    ∀ field ∈ child.fields, field.readOnly = false → Record.has row field.name = false →
      Record.has origin field.name = true →
      conditionalReadOnlyApplies canonicalize field
        (documentSnapshotForFieldCondition child (storedRow relatedDocType child origin row)) = false

section

variable {services : DocumentUpdateServices} {actor : Actor} {doctype : DocTypeDefinition}
variable {existing : DocumentSnapshot} {patch data : DocumentData} {unset : List JsString}

/-- What the acceptance of an update without hooks and fetched fields says. -/
structure AcceptedUpdate (services : DocumentUpdateServices) (doctype : DocTypeDefinition)
    (existing : DocumentSnapshot) (patch data : DocumentData) (unset : List JsString) : Prop where
  data_eq : data = applyDocumentDataChange existing.data
    (preserveReadOnlyTableValues services.relatedDocType doctype patch existing) unset
  unsetIssues : documentUnsetIssues doctype unset existing.data
    (stripInternalTableFields services.relatedDocType doctype patch) = []
  readOnlyIssues : readonlyIssues services.canonicalize services.relatedDocType doctype
    (stripInternalTableFields services.relatedDocType doctype patch) data unset = []

theorem acceptedUpdate {unset : Option (List JsString)} (hhooks : services.hooks = [])
    (hfetch : ∀ field ∈ doctype.fields, field.fetchFrom = none)
    (haccepted : services.applyDocumentUpdate actor doctype existing patch unset = .ok data) :
    AcceptedUpdate services doctype existing patch data (normalizeUnsetFields unset) := by
  obtain ⟨hissues, hdata⟩ := DocumentUpdateServices.applyDocumentUpdate_ok haccepted
  have hpatch : services.validatedPatch doctype existing patch = patch :=
    DocumentUpdateServices.validatedPatch_of_no_hooks hhooks
  have hfetched : services.patchWithFetchedFields doctype existing patch = patch := by
    unfold DocumentUpdateServices.patchWithFetchedFields
    rw [hpatch, applyFetchedFields_of_no_fetchFrom _ hfetch]
  have hdata' : data = applyDocumentDataChange existing.data
      (preserveReadOnlyTableValues services.relatedDocType doctype patch existing) (normalizeUnsetFields unset) := by
    rw [hdata]
    unfold DocumentUpdateServices.updatedData DocumentUpdateServices.normalizedPatch
    rw [hfetched]
  unfold DocumentUpdateServices.updateIssues documentUpdateIssues at hissues
  rw [hpatch, hfetched] at hissues
  simp only [documentUpdateValidationIssues, List.append_eq_nil_iff, ← hdata'] at hissues
  obtain ⟨⟨⟨⟨⟨⟨⟨⟨-, hunset⟩, -⟩, -⟩, -⟩, hreadOnly⟩, -⟩, -⟩, -⟩ := hissues
  exact ⟨hdata', hunset, hreadOnly⟩

/-- A patched field is not unset. -/
theorem AcceptedUpdate.not_mem_unset (h : AcceptedUpdate services doctype existing patch data unset)
    {name : JsString} (hname : Record.has patch name = true) : name ∉ unset := by
  intro hmem
  have habsent := (documentUnsetIssues_eq_nil h.unsetIssues hmem).1
  rw [← Record.has_eq_false, stripInternalTableFields, has_normalizeTableFields, hname] at habsent
  cases habsent

/-- The data of an accepted update holds its patch. -/
theorem AcceptedUpdate.holdsPatch (h : AcceptedUpdate services doctype existing patch data unset) :
    HoldsPatch services.relatedDocType doctype patch existing.data data := by
  intro name value hvalue
  have hnot := h.not_mem_unset (Record.has_iff.mpr ⟨value, hvalue⟩)
  rw [h.data_eq, get_applyDocumentDataChange, if_neg hnot, preserveReadOnlyTableValues, get_normalizeTableFields,
    hvalue, Option.map_some, Option.some_or, Option.bind_some]

/-- **A read-only field of the document keeps its value**: it is neither patched nor unset. -/
theorem AcceptedUpdate.keeps_field (h : AcceptedUpdate services doctype existing patch data unset)
    {field : FieldDefinition} (hfield : doctype.field? field.name = some field)
    (hreadOnly : fieldIsReadOnlyForData services.canonicalize doctype field data = true) :
    Record.get data field.name = Record.get existing.data field.name := by
  have habsent : Record.has patch field.name = false := by
    have hstripped := has_eq_false_of_readonlyIssues h.readOnlyIssues hfield hreadOnly
    rwa [stripInternalTableFields, has_normalizeTableFields] at hstripped
  have hunset : field.name ∉ unset := by
    intro hmem
    have hdeclared : field.readOnly = false := ((documentUnsetIssues_eq_nil h.unsetIssues hmem).2 field hfield).2
    have hconditional : conditionalReadOnlyApplies services.canonicalize field
        (documentSnapshotForFieldCondition doctype data) = true := by
      unfold fieldIsReadOnlyForData fieldIsReadOnly at hreadOnly
      rwa [hdeclared, Bool.false_or] at hreadOnly
    -- the check of unset fields reports a field that a condition makes read-only
    have hissues := h.readOnlyIssues
    unfold readonlyIssues readonlyIssuesWith at hissues
    dsimp only at hissues
    rw [List.append_eq_nil_iff, List.append_eq_nil_iff] at hissues
    have hone := List.flatMap_eq_nil_iff.mp hissues.1.2 field.name (by
      rw [List.mem_filter, stripInternalTableFields, has_normalizeTableFields, habsent]
      exact ⟨hmem, rfl⟩)
    simp [hfield, hdeclared, hconditional] at hone
  rw [h.data_eq, get_applyDocumentDataChange, if_neg hunset, preserveReadOnlyTableValues, get_normalizeTableFields,
    Record.has_eq_false.mp habsent, Option.map_none, Option.none_or]

end

/-- **When an accepted update keeps read-only values**: without hooks and fetched fields, and with
distinct field names throughout, exactly when no row leaves out a value of its origin under a
condition that the row meets. -/
theorem accepted_update_keeps_readOnly_iff (services : DocumentUpdateServices) (actor : Actor)
    (doctype : DocTypeDefinition) (existing : DocumentSnapshot) (patch data : DocumentData)
    (unset : Option (List JsString)) (hnames : (doctype.fields.map (·.name)).Nodup)
    (hchildren : ∀ name child, services.relatedDocType name = some child → (child.fields.map (·.name)).Nodup)
    (hhooks : services.hooks = []) (hfetch : ∀ field ∈ doctype.fields, field.fetchFrom = none)
    (haccepted : services.applyDocumentUpdate actor doctype existing patch unset = .ok data) :
    KeepsReadOnlyValues services.canonicalize services.relatedDocType doctype patch existing.data data ↔
      LeavesNoConditionalValueOut services.canonicalize services.relatedDocType doctype patch existing.data := by
  have hupdate := acceptedUpdate hhooks hfetch haccepted
  constructor
  · intro hkeeps path child row origin hrow field hmem hdeclared habsent hpresent
    obtain ⟨fieldName, hchild⟩ := hrow.child_known
    obtain ⟨stored, hstored, hfields⟩ := hkeeps.rows path child row origin hrow
    rw [hrow.stored hupdate.holdsPatch, Option.some.injEq] at hstored
    by_contra hconditional
    rw [Bool.not_eq_false] at hconditional
    have hkept := hfields field hmem (by
      unfold fieldIsReadOnlyForData fieldIsReadOnly
      rw [← hstored, hconditional, Bool.or_true])
    -- the value is gone, although its origin has it
    rw [← hstored, get_storedRow_of_absent (hchildren fieldName child hchild) hmem habsent, hdeclared,
      if_neg Bool.false_ne_true] at hkept
    rw [Record.has, ← hkept] at hpresent
    cases hpresent
  · intro hleaves
    refine ⟨?_, ?_⟩
    · intro field hmem hreadOnly
      exact hupdate.keeps_field (DocTypeDefinition.field?_of_mem hnames hmem) hreadOnly
    · intro path child row origin hrow
      obtain ⟨fieldName, hchild⟩ := hrow.child_known
      have hchildNames := hchildren fieldName child hchild
      refine ⟨_, hrow.stored hupdate.holdsPatch, ?_⟩
      intro field hmem hreadOnly
      have habsent := hrow.leavesOut hupdate.holdsPatch hupdate.readOnlyIssues
        (DocTypeDefinition.field?_of_mem hchildNames hmem) hreadOnly
      rw [get_storedRow_of_absent hchildNames hmem habsent]
      split_ifs with hdeclared
      · rfl
      · -- a condition makes the field read-only, so that its origin has no value to lose
        rw [Bool.not_eq_true] at hdeclared
        unfold fieldIsReadOnlyForData fieldIsReadOnly at hreadOnly
        rw [hdeclared, Bool.false_or] at hreadOnly
        by_contra hlost
        have hpresent : Record.has origin field.name = true := by
          rw [Record.has, Option.isSome_iff_ne_none]
          exact Ne.symm hlost
        have hfalse := hleaves path child row origin hrow field hmem hdeclared habsent hpresent
        rw [hfalse] at hreadOnly
        cases hreadOnly

/-! ## An order whose rates are closed by a lock -/

def rateField : FieldDefinition :=
  { name := js "rate", type := .number,
    readOnlyDependsOn := some (.compare (.field .after (js "locked")) .eq (.literal (.bool true))) }

def orderItem : DocTypeDefinition :=
  { name := js "Order Item", fields := [{ name := js "locked", type := .boolean }, rateField] }

def orderOfItems : DocTypeDefinition :=
  { name := js "Order", fields := [{ name := js "items", type := .table, tableOf := some (js "Order Item") }] }

def orderServices : DocumentUpdateServices :=
  { canonicalize := id
    relatedDocType := fun name => if name = js "Order Item" then some orderItem else none
    readFetchedTarget := fun _ => none
    canReadLinkedTarget := fun _ => false }

def orderClerk : Actor := { id := js "clerk", roles := [js "Employee"], tenantId := some (js "default") }

/-- An order of one item with a rate of 5. -/
def itemOrder (locked : Bool) : DocumentSnapshot :=
  { tenantId := js "default", doctype := js "Order", name := js "o1", version := 1, docstatus := .draft
    data := [(js "items", .arr [.obj [(js "locked", .bool locked), (js "rate", .num 5)]])]
    createdAt := js "2024-01-01T00:00:00.000Z", updatedAt := js "2024-01-01T00:00:00.000Z" }

/-- A patch of the item that leaves out its rate. -/
def itemPatch (locked : Bool) : DocumentData :=
  [(js "items", .arr [.obj [(childTableRowIndexField, .num 0), (js "locked", .bool locked)]])]

def itemStored (locked : Bool) : DocumentData := [(js "items", .arr [.obj [(js "locked", .bool locked)]])]

theorem orderServices_names (name : JsString) (child : DocTypeDefinition)
    (h : orderServices.relatedDocType name = some child) : (child.fields.map (·.name)).Nodup := by
  unfold orderServices at h
  dsimp only at h
  split_ifs at h with hname
  · rw [← Option.some.inj h]
    decide +kernel

/-- The rate of an open item may go. -/
theorem accepted_update_keeps_readOnly_iff_open :
    KeepsReadOnlyValues id orderServices.relatedDocType orderOfItems (itemPatch false) (itemOrder false).data
        (itemStored false) ↔
      LeavesNoConditionalValueOut id orderServices.relatedDocType orderOfItems (itemPatch false)
        (itemOrder false).data :=
  accepted_update_keeps_readOnly_iff orderServices orderClerk orderOfItems (itemOrder false) (itemPatch false)
    (itemStored false) none (by decide +kernel) orderServices_names rfl (by decide +kernel) (by decide +kernel)

/-- The patch of a locked item that leaves out its rate is accepted, and the rate is gone. -/
theorem not_accepted_update_keeps_readOnly :
    orderServices.applyDocumentUpdate orderClerk orderOfItems (itemOrder true) (itemPatch true) none =
        .ok (itemStored true) ∧
      ¬KeepsReadOnlyValues id orderServices.relatedDocType orderOfItems (itemPatch true) (itemOrder true).data
        (itemStored true) := by
  refine ⟨by decide +kernel, ?_⟩
  intro hkeeps
  have hrow : SubmittedRow orderServices.relatedDocType orderOfItems (itemPatch true) (itemOrder true).data
      [(js "items", 0)] orderItem [(js "locked", .bool true)] [(js "locked", .bool true), (js "rate", .num 5)] :=
    .own ⟨⟨_, rfl, rfl, rfl⟩, ⟨_, _, 0, rfl, rfl, rfl, rfl, rfl⟩⟩
  obtain ⟨stored, hstored, hfields⟩ := hkeeps.rows _ _ _ _ hrow
  have hlocked : rowAt (itemStored true) [(js "items", 0)] = some [(js "locked", .bool true)] := rfl
  rw [hlocked, Option.some.injEq] at hstored
  rw [← hstored] at hfields
  have hrate := hfields rateField (List.mem_cons_of_mem _ List.mem_cons_self) (by decide +kernel)
  cases hrate
