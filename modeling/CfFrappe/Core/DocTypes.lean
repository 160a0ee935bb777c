import CfFrappe.Core.Naming
import CfFrappe.Core.PredicateChecks
import CfFrappe.Core.Workflow

set_option autoImplicit false

/-! # Definitions of DocTypes

`defineDocType` checks a DocType and normalizes it: its fields one by one, its naming strategy and its
workflows. It is run again whenever metadata of a tenant are laid over a DocType. The checks of views,
assignment rules, automation rules and default values return nothing that the modelled code reads; they are
parameters (`DocTypeChecks`), and what is proved here holds whatever they accept.
-/

open Utf

/-! ## Naming strategies -/

section

variable (safeRegex : JsString → Bool → Except FrameworkError (JsString → Bool))

def normalizeNamingStrategy (doctype : DocTypeDefinition) : NamingStrategy → Except FrameworkError NamingStrategy
  | .series strategy => do
      let normalized ← Naming.normalizeSeries safeRegex doctype strategy
      return .series normalized
  | .uuid => .ok .uuid
  | .field field => .ok (.field field)
  | .provided field => .ok (.provided field)

end

/-! ## Fields -/

def assertIdentifier (value label : JsString) : Except FrameworkError Unit :=
  ensure (isMetadataName value) (.ofError (js "Invalid " ++ label ++ js ": '" ++ value ++ js "'"))

def doctypeError (code : FrameworkErrorCode) (message : JsString) : FrameworkError := { code, message, status := 400 }

/-- `Field '…' on …`, as the messages name a field. -/
def fieldPlace (kind : JsString) (doctype : DocTypeDefinition) (field : FieldDefinition) : JsString :=
  kind ++ js " '" ++ field.name ++ js "' on " ++ doctype.name

/-- A field of a type must name its target, and no other field may. -/
def assertTargetedField (type : FieldType) (code : FrameworkErrorCode) (kind property label : JsString)
    (target : FieldDefinition → Option DocTypeName) (doctype : DocTypeDefinition) (field : FieldDefinition) :
    Except FrameworkError Unit :=
  if field.type = type then
    match nonEmptyText (target field) with
    | none => .error (doctypeError code (fieldPlace kind doctype field ++ js " must declare " ++ property))
    | some name => assertIdentifier name (label ++ js " target on " ++ doctype.name ++ js "." ++ field.name)
  else
    ensure (target field).isNone
      (doctypeError code (fieldPlace (js "Field") doctype field ++ js " declares " ++ property ++ js " but is not a " ++
        label ++ js " field"))

def assertLinkFieldDefinition : DocTypeDefinition → FieldDefinition → Except FrameworkError Unit :=
  assertTargetedField .link .doctypeLinkInvalid (js "Link field") (js "linkTo") (js "link") (·.linkTo)

def assertTableFieldDefinition : DocTypeDefinition → FieldDefinition → Except FrameworkError Unit :=
  assertTargetedField .table .doctypeTableInvalid (js "Table field") (js "tableOf") (js "table") (·.tableOf)

def assertUniqueFieldDefinition (doctype : DocTypeDefinition) (field : FieldDefinition) : Except FrameworkError Unit :=
  ensure (!(field.unique && (field.type == .json || field.type == .table)))
    (doctypeError .doctypeFieldInvalid (fieldPlace (js "Unique field") doctype field ++ js " must be scalar"))

/-- The link field and the source field of `linkField.sourceField`. -/
def fetchParts (fetchFrom : JsString) : Option (JsString × JsString) :=
  let link := fetchFrom.takeWhile (· != 0x2E)
  let source := (fetchFrom.dropWhile (· != 0x2E)).drop 1
  if link.isEmpty || source.isEmpty || source.contains 0x2E then none else some (link, source)

def assertFetchFieldDefinition (doctype : DocTypeDefinition) (field : FieldDefinition) : Except FrameworkError Unit :=
  let place := fieldPlace (js "Field") doctype field
  match field.fetchFrom with
  | none =>
    ensure (!field.fetchIfEmpty)
      (doctypeError .doctypeFieldInvalid (place ++ js " cannot declare fetchIfEmpty without fetchFrom"))
  | some fetchFrom =>
    match fetchParts fetchFrom with
    | none => .error (doctypeError .doctypeFieldInvalid (place ++ js " fetchFrom must use linkField.sourceField"))
    | some (linkFieldName, sourceFieldName) => do
        assertIdentifier sourceFieldName (js "fetch source on " ++ doctype.name ++ js "." ++ field.name)
        ensure ((doctype.field? linkFieldName).any (fun linkField => linkField.type == .link))
          (doctypeError .doctypeFieldInvalid (place ++ js " fetchFrom link field '" ++ linkFieldName ++
            js "' must be a link field"))
        ensure (field.type != .table)
          (doctypeError .doctypeFieldInvalid (fieldPlace (js "Table field") doctype field ++
            js " cannot declare fetchFrom"))

/-- A condition of a field, normalized. -/
def normalizeFieldCondition (doctype : DocTypeDefinition) (condition : Option PredicateExpression) :
    Except FrameworkError (Option PredicateExpression) :=
  match condition with
  | none => .ok none
  | some expression => do
      let normalized ← normalizePredicateExpression doctype
        { availableScopes := [.field .after], errorCode := .doctypeFieldInvalid } expression
      return some normalized

def assertFieldPermissionRuleDefinition (doctype : DocTypeDefinition) (field : FieldDefinition)
    (rule : FieldPermissionRule) (index : Nat) : Except FrameworkError Unit := do
  let place := fieldPlace (js "Field") doctype field ++ js " permission rule " ++ Json.natToString (index + 1)
  ensure (!rule.roles.isEmpty) (doctypeError .doctypeFieldInvalid (place ++ js " must include at least one role"))
  ensure (!rule.actions.isEmpty)
    (doctypeError .doctypeFieldInvalid (place ++ js " must include at least one action"))

/-- The checks of one field, in the order of `defineDocType`; `seen` are the names before it. -/
def assertFieldDefinition (doctype : DocTypeDefinition) (seen : List JsString) (field : FieldDefinition) :
    Except FrameworkError Unit := do
  assertIdentifier field.name (js "field name on " ++ doctype.name)
  ensure (!seen.contains field.name)
    (.ofError (js "Duplicate field '" ++ field.name ++ js "' on doctype '" ++ doctype.name ++ js "'"))
  assertLinkFieldDefinition doctype field
  assertTableFieldDefinition doctype field
  assertUniqueFieldDefinition doctype field
  assertFetchFieldDefinition doctype field
  let _ ← normalizeFieldCondition doctype field.mandatoryDependsOn
  let _ ← normalizeFieldCondition doctype field.readOnlyDependsOn
  let _ ← normalizeFieldCondition doctype field.hiddenDependsOn
  let _ ← field.permissions.zipIdx.mapM (fun rule => assertFieldPermissionRuleDefinition doctype field rule.1 rule.2)
  return ()

def assertFieldDefinitions (doctype : DocTypeDefinition) : List JsString → List FieldDefinition →
    Except FrameworkError Unit
  | _, [] => .ok ()
  | seen, field :: fields => do
      assertFieldDefinition doctype seen field
      assertFieldDefinitions doctype (field.name :: seen) fields

/-- The field with its conditions normalized. -/
def freezeFieldDefinition (doctype : DocTypeDefinition) (field : FieldDefinition) :
    Except FrameworkError FieldDefinition := do
  let mandatoryDependsOn ← normalizeFieldCondition doctype field.mandatoryDependsOn
  let readOnlyDependsOn ← normalizeFieldCondition doctype field.readOnlyDependsOn
  let hiddenDependsOn ← normalizeFieldCondition doctype field.hiddenDependsOn
  return { field with mandatoryDependsOn, readOnlyDependsOn, hiddenDependsOn }

/-- A command has a patch or a plan, not both. -/
def freezeCommandDefinitions (commands : List DomainCommandDefinition) : Except FrameworkError Unit :=
  match commands.find? (fun command => command.buildPatch.isSome && command.buildPlan.isSome) with
  | some command => .error (.ofError (js "Domain command '" ++ command.name ++
      js "' cannot define both buildPatch and buildPlan"))
  | none => .ok ()

/-! ## DocTypes -/

/-- What the checks of a DocType need from elsewhere: how the language compares characters, the matcher of
regular expressions, and the checks that are left out here. -/
structure DocTypeChecks where
  canonicalize : UInt16 → UInt16
  safeRegex : JsString → Bool → Except FrameworkError (JsString → Bool)
  /-- `assertFormViewDefinition`, `assertListViewDefinition`, `normalizeAssignmentRules` and
  `normalizeAutomationRules` -/
  assertViewsAndRules : DocTypeDefinition → Except FrameworkError Unit
  /-- the constants among the default values, each validated as data -/
  assertDefaultValuesValid : DocTypeDefinition → Except FrameworkError Unit

section

variable (checks : DocTypeChecks)

def normalizeNaming (doctype : DocTypeDefinition) : Option NamingStrategy → Except FrameworkError (Option NamingStrategy)
  | none => .ok none
  | some strategy => do
      let normalized ← normalizeNamingStrategy checks.safeRegex doctype strategy
      return some normalized

def defineDocType (definition : DocTypeDefinition) : Except FrameworkError DocTypeDefinition := do
  assertIdentifier definition.name (js "doctype name")
  assertFieldDefinitions definition [] definition.fields
  let naming ← normalizeNaming checks definition definition.naming
  checks.assertViewsAndRules definition
  let workflows ← normalizeNamedWorkflows definition definition.workflows {}
  freezeCommandDefinitions definition.commands
  let fields ← definition.fields.mapM (freezeFieldDefinition definition)
  return { definition with fields, naming, workflows }

end

/-! ## What is defined -/

section

variable {checks : DocTypeChecks} {doctype definition : DocTypeDefinition}
variable {safeRegex : JsString → Bool → Except FrameworkError (JsString → Bool)}

theorem normalizeFieldCondition_eq {condition result : Option PredicateExpression}
    (h : normalizeFieldCondition doctype condition = .ok result) : result = condition := by
  cases condition with
  | none => exact (Except.ok.inj h).symm
  | some expression =>
    obtain ⟨normalized, hnormalized, h⟩ := except_bind_eq_ok h
    rw [← Except.ok.inj h, (normalizePredicateExpression_eq hnormalized).1]

theorem freezeFieldDefinition_eq {field result : FieldDefinition}
    (h : freezeFieldDefinition doctype field = .ok result) : result = field := by
  obtain ⟨mandatory, hmandatory, h⟩ := except_bind_eq_ok h
  obtain ⟨readOnly, hreadOnly, h⟩ := except_bind_eq_ok h
  obtain ⟨hidden, hhidden, h⟩ := except_bind_eq_ok h
  rw [← Except.ok.inj h, normalizeFieldCondition_eq hmandatory, normalizeFieldCondition_eq hreadOnly,
    normalizeFieldCondition_eq hhidden]

/-- A function that returns what it was given returns a list as it was. -/
theorem mapM_eq_self {α : Type} {f : α → Except FrameworkError α} (hf : ∀ a b, f a = .ok b → b = a) {l l' : List α}
    (h : l.mapM f = .ok l') : l' = l := by
  induction l generalizing l' with
  | nil =>
    rw [List.mapM_nil] at h
    exact (Except.ok.inj h).symm
  | cons a l ih =>
    rw [List.mapM_cons] at h
    obtain ⟨b, hb, h⟩ := except_bind_eq_ok h
    obtain ⟨rest, hrest, h⟩ := except_bind_eq_ok h
    rw [← Except.ok.inj h, hf a b hb, ih hrest]

theorem normalizeSeries_eq {strategy result : NamingSeriesStrategy}
    (h : Naming.normalizeSeries safeRegex doctype strategy = .ok result) : result = strategy := by
  unfold Naming.normalizeSeries at h
  iterate 10 obtain ⟨_, -, h⟩ := except_bind_eq_ok h
  exact (Except.ok.inj h).symm

/-- Normalizing a strategy checks it and returns it as it is. -/
theorem normalizeNamingStrategy_eq {strategy result : NamingStrategy}
    (h : normalizeNamingStrategy safeRegex doctype strategy = .ok result) : result = strategy := by
  cases strategy with
  | series strategy =>
    obtain ⟨normalized, hnormalized, h⟩ := except_bind_eq_ok h
    rw [← Except.ok.inj h, normalizeSeries_eq hnormalized]
  | uuid => exact (Except.ok.inj h).symm
  | field field => exact (Except.ok.inj h).symm
  | provided field => exact (Except.ok.inj h).symm

theorem normalizeNaming_eq {naming result : Option NamingStrategy}
    (h : normalizeNaming checks doctype naming = .ok result) :
    result = naming ∧ ∀ strategy, naming = some strategy →
      normalizeNamingStrategy checks.safeRegex doctype strategy = .ok strategy := by
  cases naming with
  | none => exact ⟨(Except.ok.inj h).symm, fun strategy hstrategy => by cases hstrategy⟩
  | some strategy =>
    obtain ⟨normalized, hnormalized, hresult⟩ := except_bind_eq_ok h
    have hsame : normalized = strategy := normalizeNamingStrategy_eq hnormalized
    rw [hsame] at hnormalized hresult
    refine ⟨(Except.ok.inj hresult).symm, ?_⟩
    intro strategy' hstrategy'
    cases hstrategy'
    exact hnormalized

theorem assertFieldDefinitions_names {seen : List JsString} {fields : List FieldDefinition} {u : Unit}
    (h : assertFieldDefinitions doctype seen fields = .ok u) :
    (fields.map (·.name)).Nodup ∧ ∀ field ∈ fields, field.name ∉ seen := by
  induction fields generalizing seen with
  | nil => exact ⟨List.nodup_nil, by simp⟩
  | cons field fields ih =>
    obtain ⟨_, hfield, h⟩ := except_bind_eq_ok h
    obtain ⟨hnodup, hseen⟩ := ih h
    have hnew : field.name ∉ seen := by
      obtain ⟨_, -, hfield⟩ := except_bind_eq_ok hfield
      obtain ⟨_, hnew, -⟩ := except_bind_eq_ok hfield
      simpa using ensure_eq_ok hnew
    constructor
    · rw [List.map_cons, List.nodup_cons]
      refine ⟨?_, hnodup⟩
      intro hmem
      obtain ⟨other, hother, hname⟩ := List.mem_map.mp hmem
      apply hseen other hother
      rw [hname]
      exact List.mem_cons_self
    · intro other hother
      rcases List.mem_cons.mp hother with rfl | hother
      · exact hnew
      · exact fun hmem => hseen other hother (List.mem_cons_of_mem _ hmem)

/-- What a defined DocType has of its definition. -/
structure DefinedFrom (checks : DocTypeChecks) (definition doctype : DocTypeDefinition) : Prop where
  name : doctype.name = definition.name
  fields : doctype.fields = definition.fields
  naming : doctype.naming = definition.naming
  names : (doctype.fields.map (·.name)).Nodup
  checked : ∀ strategy, definition.naming = some strategy →
    normalizeNamingStrategy checks.safeRegex definition strategy = .ok strategy

/-- **A DocType keeps its fields and its naming strategy**, and its naming strategy has been checked. -/
theorem defineDocType_ok (h : defineDocType checks definition = .ok doctype) :
    DefinedFrom checks definition doctype := by
  obtain ⟨_, -, h⟩ := except_bind_eq_ok h
  obtain ⟨_, hfields, h⟩ := except_bind_eq_ok h
  obtain ⟨naming, hnaming, h⟩ := except_bind_eq_ok h
  obtain ⟨_, -, h⟩ := except_bind_eq_ok h
  obtain ⟨workflows, -, h⟩ := except_bind_eq_ok h
  obtain ⟨_, -, h⟩ := except_bind_eq_ok h
  obtain ⟨fields, hfrozen, h⟩ := except_bind_eq_ok h
  have hsame : fields = definition.fields := mapM_eq_self (fun _ _ => freezeFieldDefinition_eq) hfrozen
  obtain ⟨hnaming', hchecked⟩ := normalizeNaming_eq hnaming
  subst hsame hnaming'
  rw [← Except.ok.inj h]
  exact ⟨rfl, rfl, rfl, (assertFieldDefinitions_names hfields).1, hchecked⟩

end
