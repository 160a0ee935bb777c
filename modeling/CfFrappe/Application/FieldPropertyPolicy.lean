import CfFrappe.Core.FieldPropertyOverrides
import CfFrappe.Core.Schema

set_option autoImplicit false

/-! # The rules of field property overrides

Overrides are normalized before they are saved: texts are trimmed, options and default values have to suit
the field, and an override without properties is refused. A pending state has the overrides of one field
replaced or taken away (`overridesOf_replace`, `overridesOf_withoutOverride`).
-/

open Utf

namespace FieldPropertyPolicy

def fieldPropertyInvalid (message : JsString) : FrameworkError := doctypeError .fieldPropertyInvalid message

def normalizeRequiredFieldPropertyText (value label : JsString) : Except FrameworkError JsString :=
  let normalized := Json.trim value
  if normalized.isEmpty then .error (fieldPropertyInvalid (label ++ js " is required")) else .ok normalized

def fieldNotDefined (doctype : DocTypeDefinition) (fieldName : JsString) : FrameworkError :=
  fieldPropertyInvalid (js "Field '" ++ fieldName ++ js "' is not defined on " ++ doctype.name)

def requireFieldPropertyField (doctype : DocTypeDefinition) (fieldName : JsString) :
    Except FrameworkError FieldDefinition := do
  let normalized ← normalizeRequiredFieldPropertyText fieldName (js "Field name")
  match doctype.field? normalized with
  | some field => return field
  | none => throw (fieldNotDefined doctype normalized)

def ensureFieldPropertyExpectedVersion (state : FieldPropertyOverrideState) (expectedVersion : Option Nat) :
    Except FrameworkError Unit :=
  match expectedVersion with
  | none => .ok ()
  | some expected =>
    ensure (state.version == expected)
      (.conflict (js "Expected field property overrides at version " ++ Json.natToString expected ++ js ", found " ++
        Json.natToString state.version))

def findFieldPropertyOverride (state : FieldPropertyOverrideState) (fieldName : JsString) :
    Option FieldPropertyOverrideEntry :=
  state.fields.find? (fun entry => entry.fieldName == fieldName)

/-! ## Plans and pending states -/

inductive FieldPropertyOverrideChangeDecision
  | append
  | noop

def planFieldPropertyOverrideSave (existing : Option FieldPropertyOverrideEntry) (overrides : PersistedFieldOverrides) :
    FieldPropertyOverrideChangeDecision :=
  if existing.any (fun entry => entry.overrides == overrides) then .noop else .append

def planFieldPropertyOverrideClear : Option FieldPropertyOverrideEntry → FieldPropertyOverrideChangeDecision
  | none => .noop
  | some _ => .append

def replaceFieldPropertyOverride (localeCompare : JsString → JsString → Ordering) (state : FieldPropertyOverrideState)
    (fieldName : JsString) (overrides : PersistedFieldOverrides) (now : Timestamp) : FieldPropertyOverrideState :=
  { state with
    fields := sortFieldPropertyEntries localeCompare
      (state.fields.filter (fun entry => entry.fieldName != fieldName) ++
        [{ tenantId := state.tenantId, doctype := state.doctype, fieldName, overrides
           createdAt := ((findFieldPropertyOverride state fieldName).map (·.createdAt)).getD now
           updatedAt := now }]) }

def withoutOverride (state : FieldPropertyOverrideState) (fieldName : JsString) : FieldPropertyOverrideState :=
  { state with fields := state.fields.filter (fun entry => entry.fieldName != fieldName) }

/-! ## Normalization -/

/-- The text trimmed, `none` if nothing is left. -/
def optionalTrimmedString (value : Option JsString) : Option JsString := nonEmptyText (value.map Json.trim)

def optionalOptions (field : FieldDefinition) (options : Option (List JsString)) :
    Except FrameworkError (Option (List JsString)) :=
  match options with
  | none => .ok none
  | some options => do
      ensure (field.type == .select) (fieldPropertyInvalid (js "Only select fields can override options"))
      ensure (!options.isEmpty) (fieldPropertyInvalid (js "options must contain at least one item"))
      let normalized ← options.mapM (normalizeRequiredFieldPropertyText · (js "Option"))
      match normalized.find? (fun item => normalized.count item > 1) with
      | some item => throw (fieldPropertyInvalid (js "options contains duplicate '" ++ item ++ js "'"))
      | none => return some normalized

def optionalDefaultValue (field : FieldDefinition) : Option JsValue → Except FrameworkError (Option Json)
  | none => .ok none
  | some value =>
    match value.jsonValue? with
    | some json => .ok (some json)
    | none => .error (fieldPropertyInvalid (js "Field '" ++ field.name ++ js "' defaultValue must be JSON-serializable"))

/-- No property is given. -/
def isEmptyOverride (overrides : PersistedFieldOverrides) : Bool := overrides == {}

def normalizeFieldPropertyOverrides (field : FieldDefinition) (overrides : FieldPropertyOverrides JsValue) :
    Except FrameworkError PersistedFieldOverrides := do
  let options ← optionalOptions field overrides.options
  let defaultValue ← optionalDefaultValue field overrides.defaultValue
  let normalized : PersistedFieldOverrides := { overrides with
    label := optionalTrimmedString overrides.label
    description := optionalTrimmedString overrides.description
    placeholder := optionalTrimmedString overrides.placeholder
    fetchFrom := optionalTrimmedString overrides.fetchFrom
    options
    defaultValue }
  ensure (!isEmptyOverride normalized) (fieldPropertyInvalid (js "At least one field property override is required"))
  ensure (!(normalized.inListFilter.getD false && field.type == .table))
    (fieldPropertyInvalid (js "Table field '" ++ field.name ++ js "' cannot be a list filter"))
  match normalized.min.or field.min, normalized.max.or field.max with
  | some min, some max =>
    ensure (min ≤ max) (fieldPropertyInvalid (js "Field '" ++ field.name ++ js "' min cannot exceed max"))
  | _, _ => pure ()
  return normalized

/-- The conditions among the overrides, as the DocType with the overrides normalizes them. -/
def normalizeFieldPropertyOverrideExpressions (effective : DocTypeDefinition) (fieldName : JsString)
    (overrides : PersistedFieldOverrides) : Except FrameworkError PersistedFieldOverrides :=
  match effective.field? fieldName with
  | none => .error (fieldPropertyInvalid (js "Field '" ++ fieldName ++ js "' was not normalized on " ++ effective.name))
  | some field => .ok { overrides with
      mandatoryDependsOn := overrides.mandatoryDependsOn.bind (fun _ => field.mandatoryDependsOn)
      readOnlyDependsOn := overrides.readOnlyDependsOn.bind (fun _ => field.readOnlyDependsOn)
      hiddenDependsOn := overrides.hiddenDependsOn.bind (fun _ => field.hiddenDependsOn) }

/-! ## Facts -/

theorem normalizeFieldPropertyOverrideExpressions_flags {effective : DocTypeDefinition} {fieldName : JsString}
    {overrides result : PersistedFieldOverrides}
    (h : normalizeFieldPropertyOverrideExpressions effective fieldName overrides = .ok result) :
    result.readOnly = overrides.readOnly ∧ result.noCopy = overrides.noCopy := by
  unfold normalizeFieldPropertyOverrideExpressions at h
  split at h
  · cases h
  · rw [← Except.ok.inj h]
    exact ⟨rfl, rfl⟩

/-- **The overrides of a pending state** are the new ones for its field, and the old ones for every other. -/
theorem overridesOf_replace {localeCompare : JsString → JsString → Ordering} {state : FieldPropertyOverrideState}
    {fieldName : JsString} {overrides : PersistedFieldOverrides} {now : Timestamp}
    (hnodup : (state.fields.map (·.fieldName)).Nodup) (name : JsString) :
    (replaceFieldPropertyOverride localeCompare state fieldName overrides now).overridesOf name =
      if fieldName = name then some overrides else state.overridesOf name := by
  unfold FieldPropertyOverrideState.overridesOf replaceFieldPropertyOverride sortFieldPropertyEntries
  generalize hentry : (⟨state.tenantId, state.doctype, fieldName, overrides,
    ((findFieldPropertyOverride state fieldName).map (·.createdAt)).getD now, now⟩ : FieldPropertyOverrideEntry) = entry
  have hname : entry.fieldName = fieldName := by rw [← hentry]
  have hoverrides : entry.overrides = overrides := by rw [← hentry]
  dsimp only
  have hnew := nodup_filter_append hnodup entry
  rw [hname] at hnew
  have hsorted := ((List.perm_insertionSort (fun left right : FieldPropertyOverrideEntry =>
    localeCompare left.fieldName right.fieldName ≠ .gt) _).map (·.fieldName)).nodup_iff.mpr hnew
  by_cases hsame : fieldName = name
  · rw [if_pos hsame, (find?_key_iff hsorted).mpr ⟨(List.mem_insertionSort _).mpr (List.mem_append_right _
      List.mem_cons_self), hname.trans hsame⟩, Option.map_some, hoverrides]
  · rw [if_neg hsame]
    congr 1
    ext found
    rw [find?_key_iff hsorted, find?_key_iff hnodup, List.mem_insertionSort, List.mem_append, List.mem_filter]
    constructor
    · rintro ⟨⟨hmem, -⟩ | hmem, hfound⟩
      · exact ⟨hmem, hfound⟩
      · rw [List.mem_singleton] at hmem
        rw [hmem, hname] at hfound
        exact absurd hfound hsame
    · rintro ⟨hmem, hfound⟩
      refine ⟨Or.inl ⟨hmem, ?_⟩, hfound⟩
      rw [hfound]
      simpa using Ne.symm hsame

theorem overridesOf_withoutOverride {state : FieldPropertyOverrideState} {fieldName : JsString} (name : JsString) :
    (withoutOverride state fieldName).overridesOf name =
      if fieldName = name then none else state.overridesOf name := by
  unfold FieldPropertyOverrideState.overridesOf withoutOverride
  dsimp only
  rw [List.find?_filter]
  by_cases hsame : fieldName = name
  · rw [if_pos hsame, Option.map_eq_none_iff, List.find?_eq_none]
    intro entry _ hboth
    rw [decide_eq_true_eq] at hboth
    simp only [bne_iff_ne, ne_eq, beq_iff_eq] at hboth
    exact hboth.1 (hboth.2.trans hsame.symm)
  · rw [if_neg hsame]
    congr 2
    funext entry
    by_cases hname : entry.fieldName = name
    · simp [hname, Ne.symm hsame]
    · simp [hname]

end FieldPropertyPolicy
