import CfFrappe.Application.CommandPolicy

set_option autoImplicit false

/-! # When an accepted update leaves a valid document

An update validates its patch in partial mode and checks the unset fields on their own. For
everything but `mandatoryDependsOn` this is enough: a field of the changed document is either
patched (and was validated), unset (and is not required) or untouched (and was valid before).
A `mandatoryDependsOn` condition speaks of other fields, and `validate` evaluates it on the
patch alone although `validateDocumentData` can be given the existing document. So the changed
document is valid exactly when no empty field has a condition that the changed document meets
and the patch alone does not.
-/

open Utf

section

variable {canonicalize : UInt16 → UInt16} {relatedDocType : RelatedDocTypeResolver}
variable {doctype : DocTypeDefinition} {data patch : DocumentData} {unset : List JsString}

/-- A change leaves a field without a value: it unsets the field, or it patches an empty value,
or it does not touch a field that was empty. -/
def leavesEmpty (data patch : DocumentData) (unset : List JsString) (field : FieldDefinition) : Bool :=
  unset.contains field.name || isMissing field ((Record.get patch field.name).or (Record.get data field.name))

/-- Wherever a change leaves a field empty whose `mandatoryDependsOn` condition the changed
document meets, the patch on its own meets the condition already. -/
def ConditionsReadOnPatch (canonicalize : UInt16 → UInt16) (doctype : DocTypeDefinition)
    (data patch : DocumentData) (unset : List JsString) : Prop :=
  ∀ field ∈ doctype.fields, leavesEmpty data patch unset field = true →
    mandatoryByDependency canonicalize doctype field (applyDocumentDataChange data patch unset) {} = true →
    mandatoryByDependency canonicalize doctype field patch {} = true

theorem get_applyDocumentDataChange (name : JsString) :
    Record.get (applyDocumentDataChange data patch unset) name =
      if name ∈ unset then none else (Record.get patch name).or (Record.get data name) := by
  rw [applyDocumentDataChange, Record.get_without, Record.get_merge]
  congr

theorem isMissing_applyDocumentDataChange (field : FieldDefinition) :
    isMissing field (Record.get (applyDocumentDataChange data patch unset) field.name) =
      leavesEmpty data patch unset field := by
  rw [get_applyDocumentDataChange, leavesEmpty]
  by_cases hunset : field.name ∈ unset
  · simp [hunset, isMissing]
  · simp [hunset]

theorem mem_keys_applyDocumentDataChange {name : JsString}
    (h : name ∈ Record.keys (applyDocumentDataChange data patch unset)) :
    name ∈ Record.keys data ∨ name ∈ Record.keys patch := by
  rw [applyDocumentDataChange, Record.mem_keys_without, Record.mem_keys_merge] at h
  exact h.1

/-- What acceptance says of the unset fields of an update. -/
def UnsetAllowed (doctype : DocTypeDefinition) (patch : DocumentData) (unset : List JsString) : Prop :=
  ∀ name ∈ unset, Record.get patch name = none ∧ ∀ field, doctype.field? name = some field → field.required = false

/-- A field of the changed document is patched, unset or untouched; in each case it fits but for
its condition. -/
theorem fieldFits_applyDocumentDataChange {field : FieldDefinition}
    (hfield : doctype.field? field.name = some field) (hunset : UnsetAllowed doctype patch unset)
    (hdata : FieldFits canonicalize doctype data { relatedDocType } field)
    (hpatch : FieldFits canonicalize doctype patch { isPartial := true, relatedDocType } field)
    (hcondition : leavesEmpty data patch unset field = true →
      mandatoryByDependency canonicalize doctype field (applyDocumentDataChange data patch unset) {} = true →
      mandatoryByDependency canonicalize doctype field patch {} = true) :
    FieldFits canonicalize doctype (applyDocumentDataChange data patch unset) { relatedDocType } field := by
  refine ⟨?_, ?_, ?_⟩
  · intro hrequired hmissing
    rw [get_applyDocumentDataChange] at hmissing
    by_cases hmem : field.name ∈ unset
    · have hnot := (hunset field.name hmem).2 field hfield
      rw [hrequired] at hnot
      exact absurd hnot (by decide)
    · rw [if_neg hmem] at hmissing
      cases hvalue : Record.get patch field.name with
      | some value =>
        rw [hvalue, Option.some_or] at hmissing
        have habsent := (hpatch.required hrequired (by rw [hvalue]; exact hmissing)).2
        rw [hvalue] at habsent
        exact nomatch habsent
      | none =>
        rw [hvalue, Option.none_or] at hmissing
        exact absurd (hdata.required hrequired hmissing).1 Bool.false_ne_true
  · intro hmandatory
    rw [isMissing_applyDocumentDataChange]
    by_contra hempty
    rw [Bool.not_eq_false] at hempty
    -- the condition holds on the patch too, so that the patch has a value for the field
    have hpresent := hpatch.mandatory (hcondition hempty hmandatory)
    rw [leavesEmpty, Bool.or_eq_true] at hempty
    cases hvalue : Record.get patch field.name with
    | none =>
      rw [hvalue] at hpresent
      exact absurd hpresent.symm Bool.false_ne_true
    | some value =>
      rw [hvalue] at hempty hpresent
      rcases hempty with hmem | hmissing
      · have habsent := (hunset field.name (by simpa using hmem)).1
        rw [hvalue] at habsent
        exact nomatch habsent
      · rw [Option.some_or, hpresent] at hmissing
        exact absurd hmissing (by decide)
  · intro value hget
    rw [get_applyDocumentDataChange] at hget
    split_ifs at hget
    cases hvalue : Record.get patch field.name with
    | some patched =>
      rw [hvalue, Option.some_or] at hget
      cases hget
      exact (hpatch.fits value hvalue).isPartial
    | none =>
      rw [hvalue, Option.none_or] at hget
      exact hdata.fits value hget

end

section

variable {canonicalize : UInt16 → UInt16} {relatedDocType : RelatedDocTypeResolver}
variable {doctype : DocTypeDefinition} {existing : DocumentSnapshot} {patch fetchedPatch : DocumentData}
variable {unset : List JsString} {external : ExternalIssues}

/-- What an accepted update has checked: its patch in partial mode and its unset fields. -/
theorem documentUpdateIssues_eq_nil
    (h : documentUpdateIssues canonicalize relatedDocType doctype existing patch fetchedPatch unset external = []) :
    validateDocumentData canonicalize doctype
        (preserveReadOnlyTableValues relatedDocType doctype fetchedPatch existing)
        { isPartial := true, relatedDocType } = [] ∧
      UnsetAllowed doctype (preserveReadOnlyTableValues relatedDocType doctype fetchedPatch existing) unset := by
  obtain ⟨-, hunset, -, hvalidation⟩ := documentUpdateValidationIssues_eq_nil h
  refine ⟨(List.append_eq_nil_iff.mp hvalidation).1, ?_⟩
  intro name hname
  obtain ⟨habsent, hfield⟩ := documentUnsetIssues_eq_nil hunset hname
  refine ⟨?_, fun field hf => (hfield field hf).1⟩
  rw [← Record.has_eq_false, stripInternalTableFields, has_normalizeTableFields] at habsent
  rw [← Record.has_eq_false, preserveReadOnlyTableValues, has_normalizeTableFields]
  exact habsent

end

/-- A task whose escalation has to be explained when its priority is high. -/
def escalationTask : DocTypeDefinition :=
  { name := js "Task"
    fields :=
      [{ name := js "priority", type := .select, options := some [js "Low", js "High"] },
       { name := js "escalation_reason", type := .text,
         mandatoryDependsOn :=
           some (.compare (.field .after (js "priority")) .eq (.literal (.str (js "High")))) }] }

def escalatedTask (data : DocumentData) : DocumentSnapshot :=
  { tenantId := js "default", doctype := js "Task", name := js "t1", version := 1, docstatus := .draft, data,
    createdAt := js "2024-01-01T00:00:00.000Z", updatedAt := js "2024-01-01T00:00:00.000Z" }
