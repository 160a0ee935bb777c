import CfFrappe.Core.JsonEquality
import CfFrappe.Core.Events

set_option autoImplicit false

/-! # Three-way merge of document fields

A draft is merged into a document field by field: what the draft changed since its base goes into a patch, or
into the list of fields to unset, unless the document has changed it as well. Whether a side has a field is
asked with `hasOwn`, but its value is read with `data[field]`, which also finds what objects inherit. So the
values of fields are modelled here as that expression returns them (`FieldValue`); data are plain objects.

`mergesCorrectly_iff` says for which inputs a plan keeps the changes of both sides.
-/

open Utf

namespace DocumentMerge

/-! ## Reading a field -/

/-- A draft: its own properties, which may be `undefined`. -/
abbrev MutableDocumentData := Record JsString (Option Json)

def readDraft (inherited : FieldValue) : Option (Option Json) → FieldValue
  | some (some json) => .value json
  | some none => .undefined
  | none => inherited

def jsonEqual : FieldValue → FieldValue → Bool
  | .undefined, .undefined => true
  | .value a, .value b => Json.valuesEqual a b
  | .method a, .method b => a == b
  | .objectPrototype, .objectPrototype => true
  -- an object without keys of its own
  | .objectPrototype, .value (.obj []) | .value (.obj []), .objectPrototype => true
  | _, _ => false

/-- `cloneJsonValue`. -/
def cloneJsonValue : FieldValue → FieldValue
  | .objectPrototype => .value (.obj [])
  | value => value

/-! ## The plan -/

structure DocumentMergeSnapshot where
  version : Rat
  docstatus : Option DocStatus := none
  data : DocumentData

structure PlanDocumentFieldMergeInput where
  base : DocumentMergeSnapshot
  remote : DocumentMergeSnapshot
  draft : MutableDocumentData
  fields : Option (List JsString) := none

inductive DocumentFieldMergeStatus
  | clean | conflict
  deriving DecidableEq

inductive DocumentFieldMergeConflictReason
  | remoteChanged | remoteStatusChanged
  deriving DecidableEq

/-- A conflict; a value that is `undefined` is not in it. -/
structure DocumentFieldMergeConflict where
  field : JsString
  reason : DocumentFieldMergeConflictReason
  basePresent : Bool
  localPresent : Bool
  remotePresent : Bool
  baseValue : FieldValue
  localValue : FieldValue
  remoteValue : FieldValue

/-- An object that begins as `{}`: its own properties, and whether it still is a plain one. -/
structure PlannedPatch where
  own : Record JsString FieldValue := []
  plain : Bool := true

/-- `patch[field] = value`. An assignment to `__proto__` sets the prototype, or does nothing. -/
def PlannedPatch.assign (patch : PlannedPatch) (field : JsString) (value : FieldValue) : PlannedPatch :=
  if field = prototypeName then
    match value with
    | .value (.obj _) | .value (.arr _) | .objectPrototype | .method _ => { patch with plain := false }
    | _ => patch
  else { patch with own := Record.set patch.own field value }

structure DocumentFieldMergePlan where
  status : DocumentFieldMergeStatus := .clean
  baseVersion : Rat
  remoteVersion : Rat
  localChangedFields : List JsString := []
  remoteChangedFields : List JsString := []
  mergedFields : List JsString := []
  patch : PlannedPatch := {}
  unset : List JsString := []
  conflicts : List DocumentFieldMergeConflict := []

/-- A field on the three sides. -/
structure FieldSides where
  basePresent : Bool
  localPresent : Bool
  remotePresent : Bool
  baseValue : FieldValue
  localValue : FieldValue
  remoteValue : FieldValue

/-- A field from what objects inherit under its name and what the three sides have of their own. -/
def sidesOf (inherited : FieldValue) (base remote : Option Json) (draft : Option (Option Json)) : FieldSides where
  basePresent := base.isSome
  localPresent := draft.isSome
  remotePresent := remote.isSome
  baseValue := readValue inherited base
  localValue := readDraft inherited draft
  remoteValue := readValue inherited remote

def FieldSides.localChanged (sides : FieldSides) : Bool :=
  if sides.localPresent then !jsonEqual sides.localValue sides.baseValue else sides.basePresent

def FieldSides.remoteChanged (sides : FieldSides) : Bool := !jsonEqual sides.remoteValue sides.baseValue

/-- What becomes of a field. -/
inductive FieldOutcome
  | unchanged
  | conflicting
  | agreed
  | unset
  | patched (value : FieldValue)
  deriving DecidableEq

/-- The branches of the loop of `planDocumentFieldMerge`. -/
def FieldSides.outcome (sides : FieldSides) : FieldOutcome :=
  if !sides.localChanged then .unchanged
  else if sides.remoteChanged && !jsonEqual sides.localValue sides.remoteValue then .conflicting
  else if jsonEqual sides.localValue sides.remoteValue then .agreed
  else if sides.localValue = .undefined then .unset
  else .patched (cloneJsonValue sides.localValue)

def conflictFor (field : JsString) (reason : DocumentFieldMergeConflictReason) (values : FieldSides) :
    DocumentFieldMergeConflict where
  field
  reason
  basePresent := values.basePresent
  localPresent := values.localPresent
  remotePresent := values.remotePresent
  baseValue := cloneJsonValue values.baseValue
  localValue := cloneJsonValue values.localValue
  remoteValue := cloneJsonValue values.remoteValue

/-- The conflict of a changed `docstatus`, for which the draft counts as the base. -/
def statusConflict (base remote : DocStatus) : DocumentFieldMergeConflict :=
  conflictFor (js "docstatus") .remoteStatusChanged
    { basePresent := true, localPresent := true, remotePresent := true
      baseValue := .value (.str base.toText), localValue := .value (.str base.toText)
      remoteValue := .value (.str remote.toText) }

def statusConflicts (base remote : Option DocStatus) : List DocumentFieldMergeConflict :=
  match base, remote with
  | some base, some remote => if base = remote then [] else [statusConflict base remote]
  | _, _ => []

/-- One turn of the loop of `mergeFields`. -/
def addFieldName (normalized : List JsString) (field : JsString) : List JsString :=
  let name := Json.trim field
  if name.isEmpty || normalized.contains name then normalized else normalized ++ [name]

namespace PlanDocumentFieldMergeInput

variable (input : PlanDocumentFieldMergeInput)

/-- The distinct names of the fields, trimmed. -/
def mergeFields : List JsString :=
  let fields := input.fields.getD
    (Record.keys input.base.data ++ Record.keys input.remote.data ++ Record.keys input.draft)
  fields.foldl addFieldName []

def sides (field : JsString) : FieldSides :=
  sidesOf (inheritedValue field) (Record.get input.base.data field) (Record.get input.remote.data field)
    (Record.get input.draft field)

/-- One turn of the loop of `planDocumentFieldMerge`. -/
def mergeField (plan : DocumentFieldMergePlan) (field : JsString) : DocumentFieldMergePlan :=
  let sides := input.sides field
  let plan :=
    { plan with
      localChangedFields := plan.localChangedFields ++ if sides.localChanged then [field] else []
      remoteChangedFields := plan.remoteChangedFields ++ if sides.remoteChanged then [field] else [] }
  match sides.outcome with
  | .unchanged => plan
  | .conflicting => { plan with conflicts := plan.conflicts ++ [conflictFor field .remoteChanged sides] }
  | .agreed => { plan with mergedFields := plan.mergedFields ++ [field] }
  | .unset => { plan with mergedFields := plan.mergedFields ++ [field], unset := plan.unset ++ [field] }
  | .patched value =>
    { plan with mergedFields := plan.mergedFields ++ [field], patch := plan.patch.assign field value }

def start : DocumentFieldMergePlan where
  baseVersion := input.base.version
  remoteVersion := input.remote.version
  conflicts := statusConflicts input.base.docstatus input.remote.docstatus

end PlanDocumentFieldMergeInput

def planDocumentFieldMerge (input : PlanDocumentFieldMergeInput) : DocumentFieldMergePlan :=
  let plan := input.mergeFields.foldl input.mergeField input.start
  { plan with status := if plan.conflicts.isEmpty then .clean else .conflict }

/-! ## Applying a plan -/

def jsonEntry? (entry : JsString × FieldValue) : Option (JsString × Json) :=
  entry.2.json?.map (fun json => (entry.1, json))

/-- `cloneData(patch)`: a plain object with JSON values. -/
def PlannedPatch.data? (patch : PlannedPatch) : Option DocumentData :=
  if patch.plain then patch.own.mapM jsonEntry? else none

/-- `applyDocumentDataChange` with the patch of a plan. -/
def applyPlan (data : DocumentData) (plan : DocumentFieldMergePlan) : Except FrameworkError DocumentData :=
  match plan.patch.data? with
  | some patch => .ok (applyDocumentDataChange data patch plan.unset)
  | none =>
    .error { code := .eventInvalid, message := js "Document event data must be a JSON object", status := 409 }

/-! ## What a merge is for -/

/-- The same value, or no value on both sides. -/
def SameValue : Option Json → Option Json → Prop
  | some a, some b => Json.Same a b
  | none, none => True
  | _, _ => False

theorem SameValue.trans {a b c : Option Json} (h : SameValue a b) (h' : SameValue b c) : SameValue a c := by
  cases a <;> cases b <;> cases c
  case none.none.none => trivial
  case some.some.some => exact Json.Same.trans h h'
  all_goals first | exact False.elim h | exact False.elim h'

/-- What a side has of its own: nothing, also where it has `undefined`. -/
def ownDraft (draft : Option (Option Json)) : Option Json := draft.join

section

variable (base remote : Option Json) (draft : Option (Option Json))

/-- Both sides changed the field, to different values. -/
def BothChanged : Prop :=
  ¬SameValue (ownDraft draft) base ∧ ¬SameValue remote base ∧ ¬SameValue (ownDraft draft) remote

/-- A field of the result keeps the changes of both sides: the draft's value if the draft changed it, else the
remote value. -/
structure Keeps (result : Option Json) : Prop where
  changed : ¬SameValue (ownDraft draft) base → SameValue (ownDraft draft) result
  unchanged : SameValue (ownDraft draft) base → result = remote

/-! ## Where reading a field goes wrong -/

/-- The draft has removed the field, but reads what objects inherit under its name. -/
def MisreadRemoval : Prop := draft = none ∧ ∃ a b, base = some a ∧ remote = some b ∧ Json.Same b a

/-- The draft has a new `__proto__`, which a patch cannot have. -/
def PrototypeChanged : Prop :=
  ∃ value, draft = some (some value) ∧ SameValue remote base ∧ ¬SameValue (some value) base

/-- The other side has added an empty `__proto__`, which is taken for none. -/
def PrototypeAdded : Prop := draft = some none ∧ base = none ∧ remote = some (.obj [])

/-- Both sides changed `__proto__`, but an empty object and none are taken for the same. -/
def PrototypeClash : Prop :=
  ∃ other, other ≠ .obj [] ∧
    (base = none ∧ draft = some (some (.obj [])) ∧ remote = some other ∨
      base = none ∧ draft = some (some other) ∧ remote = some (.obj []) ∨
      base = some other ∧ draft = none ∧ remote = some (.obj []) ∨
      base = some other ∧ draft = some (some (.obj [])) ∧ remote = none ∨
      base = some (.obj []) ∧ draft = some (some other) ∧ remote = none)

/-- The draft has `undefined` under an inherited name, one of the other sides has a value and one has none. -/
def MisreadAbsence (inherited : FieldValue) : Prop :=
  draft = some none ∧ ∃ value, (inherited = .objectPrototype → value ≠ .obj []) ∧
    (base = none ∧ remote = some value ∨ base = some value ∧ remote = none)

end

/-! ## The outcome of a field -/

theorem same_empty_iff {value : Json} : Json.Same (.obj []) value ↔ value = .obj [] := by
  constructor
  · intro h
    cases h with
    | @obj _ members hkeys _ =>
      cases members with
      | nil => rfl
      | cons entry members => exact absurd ((hkeys entry.1).mpr List.mem_cons_self) List.not_mem_nil
  · rintro rfl
    exact .obj (fun _ => Iff.rfl) nofun

theorem same_empty_iff' {value : Json} : Json.Same value (.obj []) ↔ value = .obj [] :=
  ⟨fun h => same_empty_iff.mp h.symm, fun h => (same_empty_iff.mpr h).symm⟩

/-- How objects inherit under a name that is not `__proto__`. -/
def IsOrdinary (inherited : FieldValue) : Prop := inherited = .undefined ∨ ∃ name, inherited = .method name

theorem inheritedValue_cases (field : JsString) :
    IsOrdinary (inheritedValue field) ∨ inheritedValue field = .objectPrototype := by
  unfold inheritedValue
  split_ifs
  · exact Or.inr rfl
  · exact Or.inl (Or.inr ⟨field, rfl⟩)
  · exact Or.inl (Or.inl rfl)

/-- Values are read as they are, and compared as they are. -/
theorem jsonEqual_readValue_iff {inherited : FieldValue} (h : IsOrdinary inherited) {a b : Option Json}
    (ha : ∀ json, a = some json → json.IsValue) (hb : ∀ json, b = some json → json.IsValue) :
    jsonEqual (readValue inherited a) (readValue inherited b) = true ↔ SameValue a b := by
  cases a with
  | none =>
    cases b with
    | none => rcases h with rfl | ⟨name, rfl⟩ <;> simp [readValue, jsonEqual, SameValue]
    | some b => rcases h with rfl | ⟨name, rfl⟩ <;> simp [readValue, jsonEqual, SameValue]
  | some a =>
    cases b with
    | none => rcases h with rfl | ⟨name, rfl⟩ <;> simp [readValue, jsonEqual, SameValue]
    | some b => exact Json.valuesEqual_iff (ha a rfl) (hb b rfl)

/-- For `__proto__`, none is an empty object. -/
theorem jsonEqual_prototype_iff {a b : Option Json}
    (ha : ∀ json, a = some json → json.IsValue) (hb : ∀ json, b = some json → json.IsValue) :
    jsonEqual (readValue .objectPrototype a) (readValue .objectPrototype b) = true ↔
      Json.Same (a.getD (.obj [])) (b.getD (.obj [])) := by
  cases a with
  | none =>
    cases b with
    | none => exact iff_of_true rfl (same_empty_iff.mpr rfl)
    | some b =>
      rw [Option.getD_none, Option.getD_some, same_empty_iff]
      constructor
      · intro h
        unfold readValue jsonEqual at h
        split at h <;> simp_all
      · rintro rfl
        rfl
  | some a =>
    cases b with
    | none =>
      rw [Option.getD_none, Option.getD_some]
      constructor
      · intro h
        unfold readValue jsonEqual at h
        split at h <;> simp_all [same_empty_iff]
      · intro h
        rw [same_empty_iff.mp h.symm]
        rfl
    | some b => exact Json.valuesEqual_iff (ha a rfl) (hb b rfl)

/-- How an applied plan leaves a field. -/
def Lands (inherited : FieldValue) (remote : Option Json) : FieldOutcome → Option Json → Prop
  | .patched value, result => inherited ≠ .objectPrototype ∧ ∃ json, value = .value json ∧ result = some json
  | .unset, result => result = none
  | _, result => result = remote

theorem Lands.unique {inherited : FieldValue} {remote : Option Json} {outcome : FieldOutcome} {a b : Option Json}
    (ha : Lands inherited remote outcome a) (hb : Lands inherited remote outcome b) : a = b := by
  cases outcome with
  | patched value =>
    obtain ⟨-, json, rfl, rfl⟩ := ha
    obtain ⟨-, json', hsame, rfl⟩ := hb
    cases hsame
    rfl
  | unset | unchanged | conflicting | agreed => exact Eq.trans ha hb.symm

/-- The code is in conflict about the field. -/
def InConflict (inherited : FieldValue) (base remote : Option Json) (draft : Option (Option Json)) : Prop :=
  BothChanged base remote draft ∨ inherited ≠ .undefined ∧ MisreadAbsence base remote draft inherited

/-- A clean plan loses a change of the field. -/
def Lost (inherited : FieldValue) (base remote : Option Json) (draft : Option (Option Json)) : Prop :=
  inherited ≠ .undefined ∧ MisreadRemoval base remote draft ∨
    inherited = .objectPrototype ∧ (PrototypeChanged base remote draft ∨ PrototypeAdded base remote draft)

/-- The outcomes of a field, by what the three comparisons mean. -/
inductive Decided (localChanged remoteChanged agreed : Prop) (localValue : FieldValue) : FieldOutcome → Prop
  | unchanged (hlocal : ¬localChanged) : Decided localChanged remoteChanged agreed localValue .unchanged
  | conflicting (hlocal : localChanged) (hremote : remoteChanged) (hagreed : ¬agreed) :
      Decided localChanged remoteChanged agreed localValue .conflicting
  | agreed (hlocal : localChanged) (hagreed : agreed) : Decided localChanged remoteChanged agreed localValue .agreed
  | unset (hlocal : localChanged) (hremote : ¬remoteChanged) (hagreed : ¬agreed) (hvalue : localValue = .undefined) :
      Decided localChanged remoteChanged agreed localValue .unset
  | patched (hlocal : localChanged) (hremote : ¬remoteChanged) (hagreed : ¬agreed) (hvalue : localValue ≠ .undefined) :
      Decided localChanged remoteChanged agreed localValue (.patched (cloneJsonValue localValue))

theorem Decided.conflicting_iff {localChanged remoteChanged agreed : Prop} {localValue : FieldValue} {outcome : FieldOutcome}
    (h : Decided localChanged remoteChanged agreed localValue outcome) :
    outcome = .conflicting ↔ localChanged ∧ remoteChanged ∧ ¬agreed := by
  cases h with
  | conflicting hl hr ha => exact iff_of_true rfl ⟨hl, hr, ha⟩
  | unchanged hl => exact iff_of_false nofun (fun h => hl h.1)
  | agreed hl ha => exact iff_of_false nofun (fun h => h.2.2 ha)
  | unset hl hr ha => exact iff_of_false nofun (fun h => hr h.2.1)
  | patched hl hr ha => exact iff_of_false nofun (fun h => hr h.2.1)

/-- Where the draft is not read as it is, it has `undefined` under an inherited name. -/
theorem undefined_of_misread {inherited : FieldValue} {draft : Option (Option Json)} (hinherited : IsOrdinary inherited)
    (h : readDraft inherited draft ≠ readValue inherited (ownDraft draft)) :
    draft = some none ∧ ∃ name, inherited = .method name := by
  rcases draft with _ | _ | json
  · exact absurd rfl h
  · rcases hinherited with rfl | hmethod
    · exact absurd rfl h
    · exact ⟨rfl, hmethod⟩
  · exact absurd rfl h

theorem outcome_decided {sides : FieldSides} {localChanged remoteChanged agreed : Prop}
    (hlocal : sides.localChanged = true ↔ localChanged) (hremote : sides.remoteChanged = true ↔ remoteChanged)
    (hagreed : jsonEqual sides.localValue sides.remoteValue = true ↔ agreed) :
    Decided localChanged remoteChanged agreed sides.localValue sides.outcome := by
  unfold FieldSides.outcome
  by_cases hl : sides.localChanged = true
  · rw [if_neg (by simp [hl])]
    by_cases ha : jsonEqual sides.localValue sides.remoteValue = true
    · rw [if_neg (by simp [ha]), if_pos ha]
      exact .agreed (hlocal.mp hl) (hagreed.mp ha)
    · by_cases hr : sides.remoteChanged = true
      · rw [if_pos (by simp [hr, ha])]
        exact .conflicting (hlocal.mp hl) (hremote.mp hr) (fun h => ha (hagreed.mpr h))
      · rw [if_neg (by simp [hr]), if_neg ha]
        by_cases hv : sides.localValue = .undefined
        · rw [if_pos hv]
          exact .unset (hlocal.mp hl) (fun h => hr (hremote.mpr h)) (fun h => ha (hagreed.mpr h)) hv
        · rw [if_neg hv]
          exact .patched (hlocal.mp hl) (fun h => hr (hremote.mpr h)) (fun h => ha (hagreed.mpr h)) hv
  · rw [if_pos (by simp [hl])]
    exact .unchanged (fun h => hl (hlocal.mpr h))

/-- The draft's `__proto__` is compared with the base's, none as an empty object. -/
def PrototypeLocalChanged (base : Option Json) : Option (Option Json) → Prop
  | none => base ≠ none
  | some none => True
  | some (some json) => ¬Json.Same json (base.getD (.obj []))

def PrototypeAgreed (remote : Option Json) : Option (Option Json) → Prop
  | none => Json.Same (.obj []) (remote.getD (.obj []))
  | some none => False
  | some (some json) => Json.Same json (remote.getD (.obj []))

section

variable {inherited : FieldValue} {base remote : Option Json} {draft : Option (Option Json)}
variable (hbase : ∀ json, base = some json → json.IsValue) (hremote : ∀ json, remote = some json → json.IsValue)
variable (hdraft : ∀ json, draft = some (some json) → json.IsValue)
include hbase hremote hdraft

/-- Where the draft is read as it is, the outcome is the right one. -/
theorem outcome_of_read (hinherited : IsOrdinary inherited)
    (hread : readDraft inherited draft = readValue inherited (ownDraft draft)) :
    Decided (¬SameValue (ownDraft draft) base) (¬SameValue remote base) (SameValue (ownDraft draft) remote)
      (readDraft inherited draft) (sidesOf inherited base remote draft).outcome := by
  have hown : ∀ json, ownDraft draft = some json → json.IsValue := by
    intro json h
    exact hdraft json (Option.join_eq_some_iff.mp h)
  refine @outcome_decided (sidesOf inherited base remote draft) _ _ _ ?_ ?_ ?_
  · unfold FieldSides.localChanged sidesOf
    dsimp only
    by_cases hpresent : draft.isSome = true
    · rw [if_pos hpresent, hread, Bool.not_eq_true', ← Bool.not_eq_true, jsonEqual_readValue_iff hinherited hown hbase]
    · rw [if_neg hpresent]
      cases draft with
      | some own => exact absurd rfl hpresent
      | none => cases base <;> simp [ownDraft, SameValue]
  · unfold FieldSides.remoteChanged sidesOf
    dsimp only
    rw [Bool.not_eq_true', ← Bool.not_eq_true, jsonEqual_readValue_iff hinherited hremote hbase]
  · unfold sidesOf
    dsimp only
    rw [hread, jsonEqual_readValue_iff hinherited hown hremote]

/-- A draft with `undefined` under an inherited name is never like the other sides. -/
theorem outcome_of_undefined {name : JsString} (hundefined : draft = some none) (hinherited : inherited = .method name) :
    Decided True (¬SameValue remote base) False .undefined (sidesOf inherited base remote draft).outcome := by
  subst hundefined hinherited
  have hnever : ∀ value : Option Json, jsonEqual .undefined (readValue (.method name) value) = false := by
    intro value
    cases value <;> rfl
  refine @outcome_decided (sidesOf (.method name) base remote (some none)) _ _ _ ?_ ?_ ?_
  · unfold FieldSides.localChanged sidesOf
    simp [readDraft, hnever]
  · unfold FieldSides.remoteChanged sidesOf
    dsimp only
    rw [Bool.not_eq_true', ← Bool.not_eq_true, jsonEqual_readValue_iff (Or.inr ⟨name, rfl⟩) hremote hbase]
  · unfold sidesOf
    simp [readDraft, hnever]

/-- **The conflicts** under a name other than `__proto__`. -/
theorem conflicting_iff_of_ordinary (hinherited : IsOrdinary inherited) :
    (sidesOf inherited base remote draft).outcome = .conflicting ↔ InConflict inherited base remote draft := by
  unfold InConflict
  by_cases hread : readDraft inherited draft = readValue inherited (ownDraft draft)
  · have hdecided := outcome_of_read hbase hremote hdraft hinherited hread
    have hregular : ¬(inherited ≠ .undefined ∧ MisreadAbsence base remote draft inherited) := by
      rintro ⟨hinherit, hundefined, -⟩
      rw [hundefined] at hread
      exact hinherit hread.symm
    rw [or_iff_left hregular, hdecided.conflicting_iff]
    rfl
  · obtain ⟨hundefined, name, hmethod⟩ := undefined_of_misread hinherited hread
    have hdecided := outcome_of_undefined hbase hremote hdraft hundefined hmethod
    have hconflict : BothChanged base remote draft ∨ inherited ≠ .undefined ∧ MisreadAbsence base remote draft inherited ↔
        ¬SameValue remote base := by
      rw [hundefined, hmethod]
      cases base <;> cases remote <;> simp [BothChanged, MisreadAbsence, ownDraft, SameValue]
    rw [hconflict, hdecided.conflicting_iff, true_and, not_false_iff, and_true]

/-- **The fields of a clean plan** under a name other than `__proto__`. -/
theorem lands_iff_of_ordinary (hinherited : IsOrdinary inherited)
    (hclean : (sidesOf inherited base remote draft).outcome ≠ .conflicting) :
    (∃ result, Lands inherited remote (sidesOf inherited base remote draft).outcome result ∧ Keeps base remote draft result) ↔
      ¬Lost inherited base remote draft := by
  have hproper : inherited ≠ .objectPrototype := by
    rcases hinherited with rfl | ⟨name, rfl⟩ <;> nofun
  have hlost : Lost inherited base remote draft ↔ inherited ≠ .undefined ∧ MisreadRemoval base remote draft := by
    unfold Lost
    rw [or_iff_left (fun h => hproper h.1)]
  rw [hlost]
  -- whether the draft is read as what it has itself
  by_cases hread : readDraft inherited draft = readValue inherited (ownDraft draft)
  · have hdecided := outcome_of_read hbase hremote hdraft hinherited hread
    generalize (sidesOf inherited base remote draft).outcome = outcome at hdecided hclean
    cases hdecided with
    | conflicting => exact absurd rfl hclean
    | unchanged hl =>
      refine iff_of_true ⟨remote, rfl, ⟨fun h => absurd h hl, fun _ => rfl⟩⟩ ?_
      rintro ⟨-, rfl, a, b, rfl, rfl, hsame⟩
      exact hl id
    | agreed hl ha =>
      refine iff_of_true ⟨remote, rfl, ⟨fun _ => ha, fun _ => rfl⟩⟩ ?_
      rintro ⟨-, rfl, a, b, rfl, rfl, hsame⟩
      exact ha
    | unset hl hr ha hvalue =>
      have hnone : ownDraft draft = none := by
        rcases draft with _ | _ | json
        · rfl
        · rfl
        · cases hvalue
      refine iff_of_true ⟨none, rfl, ⟨fun _ => ?_, fun h => absurd h hl⟩⟩ ?_
      · rw [hnone]
        trivial
      · rintro ⟨hinherit, rfl, -⟩
        exact hinherit hvalue
    | patched hl hr ha hvalue =>
      rcases draft with _ | _ | json
      · -- the value that the draft does not have is read from `Object.prototype`
        refine iff_of_false ?_ (not_not.mpr ⟨hvalue, rfl, ?_⟩)
        · rintro ⟨result, ⟨-, json, hjson, -⟩, -⟩
          rcases hinherited with rfl | ⟨name, rfl⟩
          · exact hvalue rfl
          · cases hjson
        · cases base with
          | none => exact absurd trivial hl
          | some a =>
            cases remote with
            | none => exact absurd trivial ha
            | some b => exact ⟨a, b, rfl, rfl, not_not.mp hr⟩
      · rw [hread] at hvalue
        rcases hinherited with rfl | ⟨name, rfl⟩
        · exact absurd rfl hvalue
        · cases hread
      · refine iff_of_true ⟨some json, ⟨hproper, json, rfl, rfl⟩, ⟨fun _ => ?_, fun h => absurd h hl⟩⟩ nofun
        exact (hdraft json rfl).same_self
  · obtain ⟨hundefined, name, hmethod⟩ := undefined_of_misread hinherited hread
    have hdecided := outcome_of_undefined hbase hremote hdraft hundefined hmethod
    have hkept : ¬(inherited ≠ .undefined ∧ MisreadRemoval base remote draft) := by
      rintro ⟨-, hnone, -⟩
      rw [hundefined] at hnone
      cases hnone
    generalize (sidesOf inherited base remote draft).outcome = outcome at hdecided hclean
    cases hdecided with
    | conflicting => exact absurd rfl hclean
    | unchanged hl => exact absurd trivial hl
    | agreed _ ha => cases ha
    | patched _ _ _ hvalue => exact absurd rfl hvalue
    | unset _ hr =>
      refine iff_of_true ⟨none, rfl, ⟨fun _ => ?_, fun h => ?_⟩⟩ hkept
      · rw [hundefined]
        trivial
      · -- the base has no value, so the other side has none
        rw [hundefined] at h
        cases base with
        | some a => cases h
        | none =>
          cases remote with
          | none => rfl
          | some b => exact absurd id hr

/-- The outcome of `__proto__`. -/
theorem outcome_of_prototype :
    Decided (PrototypeLocalChanged base draft) (¬Json.Same (remote.getD (.obj [])) (base.getD (.obj [])))
      (PrototypeAgreed remote draft) (readDraft .objectPrototype draft)
      (sidesOf .objectPrototype base remote draft).outcome := by
  have hnever : ∀ value : Option Json, jsonEqual .undefined (readValue .objectPrototype value) = false := by
    intro value
    cases value <;> rfl
  refine @outcome_decided (sidesOf .objectPrototype base remote draft) _ _ _ ?_ ?_ ?_
  · rcases draft with _ | _ | json
    · show base.isSome = true ↔ base ≠ none
      exact Option.isSome_iff_ne_none
    · show (!jsonEqual .undefined (readValue .objectPrototype base)) = true ↔ True
      rw [hnever]
      exact iff_of_true rfl trivial
    · show (!jsonEqual (.value json) (readValue .objectPrototype base)) = true ↔ _
      rw [Bool.not_eq_true', ← Bool.not_eq_true]
      exact not_congr (@jsonEqual_prototype_iff (some json) base (fun _ h => hdraft _ (congrArg some h)) hbase)
  · unfold FieldSides.remoteChanged sidesOf
    dsimp only
    rw [Bool.not_eq_true', ← Bool.not_eq_true, jsonEqual_prototype_iff hremote hbase]
  · rcases draft with _ | _ | json
    · exact @jsonEqual_prototype_iff none remote nofun hremote
    · show jsonEqual .undefined (readValue .objectPrototype remote) = true ↔ False
      rw [hnever]
      exact iff_of_false Bool.false_ne_true id
    · exact @jsonEqual_prototype_iff (some json) remote (fun _ h => hdraft _ (congrArg some h)) hremote

/-- **The conflicts** under the name `__proto__`. -/
theorem conflicting_iff_of_prototype (hclash : ¬PrototypeClash base remote draft) :
    (sidesOf .objectPrototype base remote draft).outcome = .conflicting ↔
      InConflict .objectPrototype base remote draft := by
  rw [(outcome_of_prototype hbase hremote hdraft).conflicting_iff]
  unfold InConflict BothChanged MisreadAbsence PrototypeLocalChanged PrototypeAgreed
  unfold PrototypeClash at hclash
  clear hbase hremote hdraft
  cases base <;> cases remote <;> rcases draft with _ | _ | ours <;>
    simp [ownDraft, SameValue, same_empty_iff, same_empty_iff'] at hclash ⊢
  case none.some.some.some theirs =>
    constructor
    · exact fun h => h.2.2
    · intro hdiffer
      have hours : ours ≠ .obj [] := by
        rintro rfl
        exact (hclash theirs (fun h => hdiffer (same_empty_iff.mpr h))).1 rfl rfl
      refine ⟨hours, ?_, hdiffer⟩
      exact (hclash ours hours).2 rfl
  case some.none.some.some before =>
    intro hdiffer
    have hbefore : before ≠ .obj [] := by
      rintro rfl
      exact (hclash ours (fun h => hdiffer (same_empty_iff'.mpr h))).2 rfl rfl
    exact ⟨hbefore, (hclash before hbefore).1 rfl⟩
  case some.some.none before theirs =>
    intro hdiffer
    by_cases hbefore : before = .obj []
    · exact fun h => hdiffer (h ▸ same_empty_iff.mpr hbefore)
    · exact hclash hbefore

/-- The code does not see the clash of an empty `__proto__` with none. -/
theorem not_conflicting_of_clash (hclash : PrototypeClash base remote draft) :
    BothChanged base remote draft ∧ (sidesOf .objectPrototype base remote draft).outcome ≠ .conflicting := by
  rw [ne_eq, (outcome_of_prototype hbase hremote hdraft).conflicting_iff]
  unfold BothChanged PrototypeLocalChanged PrototypeAgreed
  obtain ⟨other, hother, h⟩ := hclash
  rcases h with ⟨rfl, rfl, rfl⟩ | ⟨rfl, rfl, rfl⟩ | ⟨rfl, rfl, rfl⟩ | ⟨rfl, rfl, rfl⟩ | ⟨rfl, rfl, rfl⟩ <;>
    simp [ownDraft, SameValue, same_empty_iff, same_empty_iff', hother]

/-- What a patch cannot give `__proto__` is not what it was before. -/
theorem not_keeps_of_patched {value : FieldValue}
    (h : (sidesOf .objectPrototype base remote draft).outcome = .patched value) : ¬Keeps base remote draft remote := by
  have hdecided := outcome_of_prototype hbase hremote hdraft
  rw [h] at hdecided
  rintro ⟨hchanged, -⟩
  cases hdecided with
  | patched hlocal _ hagreed hvalue =>
    unfold PrototypeLocalChanged at hlocal
    unfold PrototypeAgreed at hagreed
    rcases draft with _ | _ | json
    · cases base with
      | none => exact hlocal rfl
      | some before =>
        cases remote with
        | none => exact hagreed (same_empty_iff.mpr rfl)
        | some theirs => exact hchanged id
    · exact hvalue rfl
    · have hours : ¬SameValue (some json) base := by
        cases base with
        | none => exact id
        | some before => exact hlocal
      cases remote with
      | none => exact hchanged hours
      | some theirs => exact hagreed (hchanged hours)

/-- **The fields of a clean plan** under the name `__proto__`. -/
theorem lands_iff_of_prototype (hclash : ¬PrototypeClash base remote draft)
    (hclean : (sidesOf .objectPrototype base remote draft).outcome ≠ .conflicting) :
    (∃ result, Lands .objectPrototype remote (sidesOf .objectPrototype base remote draft).outcome result ∧
        Keeps base remote draft result) ↔
      ¬Lost .objectPrototype base remote draft := by
  have hagreed := (conflicting_iff_of_prototype hbase hremote hdraft hclash).not.mp hclean
  have hdecided := outcome_of_prototype hbase hremote hdraft
  have hkeeps : ∀ result, Keeps base remote draft result ↔
      (¬SameValue (ownDraft draft) base → SameValue (ownDraft draft) result) ∧
        (SameValue (ownDraft draft) base → result = remote) :=
    fun result => ⟨fun h => ⟨h.changed, h.unchanged⟩, fun h => ⟨h.1, h.2⟩⟩
  simp only [hkeeps]
  unfold InConflict BothChanged MisreadAbsence at hagreed
  unfold PrototypeLocalChanged PrototypeAgreed at hdecided
  unfold Lost MisreadRemoval PrototypeChanged PrototypeAdded
  -- what is left is a question about three values that are present or absent
  generalize (sidesOf .objectPrototype base remote draft).outcome = outcome at hdecided hclean
  clear hkeeps hbase hremote hdraft hclash
  cases hdecided with
  | conflicting => exact absurd rfl hclean
  | unchanged hl =>
    simp only [Lands, exists_eq_left]
    cases base <;> cases remote <;> rcases draft with _ | _ | json <;>
      simp [ownDraft, SameValue, same_empty_iff'] at hagreed hl ⊢ <;> tauto
  | agreed hl ha =>
    simp only [Lands, exists_eq_left]
    cases base <;> cases remote <;> rcases draft with _ | _ | json <;>
      simp [ownDraft, SameValue, same_empty_iff, same_empty_iff'] at hagreed hl ha ⊢
    case some.some.some.some => exact iff_of_true (fun _ => ha) (fun h => absurd (ha.trans h) hl)
    all_goals tauto
  | unset hl hr ha hv =>
    simp only [Lands, exists_eq_left]
    cases base <;> cases remote <;> rcases draft with _ | _ | json <;>
      simp [ownDraft, SameValue, same_empty_iff, same_empty_iff', readDraft] at hagreed hl hr ha hv ⊢ <;> tauto
  | patched hl hr ha hv =>
    simp only [Lands]
    cases base <;> cases remote <;> rcases draft with _ | _ | json <;>
      simp [ownDraft, SameValue, same_empty_iff, same_empty_iff', readDraft] at hagreed hl hr ha hv ⊢ <;> tauto

end

end DocumentMerge
