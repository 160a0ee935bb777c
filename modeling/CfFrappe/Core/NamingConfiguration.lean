import CfFrappe.Core.DocTypes
import CfFrappe.Core.MetadataEvents
import CfFrappe.Lib.Outcomes

set_option autoImplicit false

/-! # Runtime naming strategies

The naming strategy of a DocType may be replaced at run time: `foldNamingConfiguration` reads the
strategy in force from its stream, `applyNamingConfigurationToDocType` puts it into the DocType and
checks it there. A check of a series looks at the type of the fields that the series refers to, and at two
flags of its target field; `normalizeNamingStrategy_le` says which changes of a DocType a checked
strategy survives.
-/

open Utf

/-! ## Checked on one DocType, checked on another -/

section

variable {safeRegex : JsString → Bool → Except FrameworkError (JsString → Bool)}
variable {doctype doctype' : DocTypeDefinition} {strategy : NamingSeriesStrategy}

/-- Every field of the first DocType is one of the second, with the same type. -/
def KeepsTypes (doctype doctype' : DocTypeDefinition) : Prop :=
  ∀ name field, doctype.field? name = some field →
    ∃ field', doctype'.field? name = some field' ∧ field'.type = field.type

/-- A field of the first DocType that may be a target may be one in the second. -/
def KeepsTarget (doctype doctype' : DocTypeDefinition) (name : JsString) : Prop :=
  ∀ field field', doctype.field? name = some field → doctype'.field? name = some field' →
    field.readOnly = true → field.noCopy = true → field'.readOnly = true ∧ field'.noCopy = true

namespace Naming

theorem parsePatternToken_le (h : KeepsTypes doctype doctype') (value : JsString) :
    OkLe (parsePatternToken doctype value) (parsePatternToken doctype' value) := by
  unfold parsePatternToken
  repeat refine OkLe.ite (fun _ => OkLe.refl _) (fun _ => ?_)
  -- only a field token looks at the DocType
  refine OkLe.ite (fun _ => ?_) (fun _ => OkLe.refl _)
  apply OkLe.bind_right
  intro field _
  refine OkLe.bind ?_ (fun _ _ => OkLe.refl _)
  intro u hdefined
  obtain ⟨definition, hdefinition⟩ := Option.isSome_iff_exists.mp (ensure_eq_ok hdefined)
  obtain ⟨definition', hdefinition', -⟩ := h _ _ hdefinition
  rw [hdefinition']
  rfl

theorem compileTokens_le (h : KeepsTypes doctype doctype') (fuel : Nat) (literal pattern : JsString) :
    OkLe (compileTokens doctype fuel literal pattern) (compileTokens doctype' fuel literal pattern) := by
  induction fuel generalizing literal pattern with
  | zero => exact OkLe.refl _
  | succ fuel ih =>
    cases pattern with
    | nil => exact OkLe.refl _
    | cons character rest =>
      unfold compileTokens
      refine OkLe.ite (fun _ => ?_) (fun _ => OkLe.ite (fun _ => ?_) (fun _ => OkLe.ite (fun _ => ?_) (fun _ => ?_)))
      · refine OkLe.bind_right (fun _ _ => ?_)
        exact (ih _ _).bind (fun _ _ => OkLe.refl _)
      · refine OkLe.bind_right (fun _ _ => ?_)
        refine (parsePatternToken_le h _).bind (fun _ _ => ?_)
        exact (ih _ _).bind (fun _ _ => OkLe.refl _)
      · exact OkLe.refl _
      · exact ih _ _

theorem compileNamingPattern_le (h : KeepsTypes doctype doctype') :
    OkLe (compileNamingPattern doctype strategy) (compileNamingPattern doctype' strategy) :=
  (compileTokens_le h _ _ _).bind (fun _ _ => OkLe.refl _)

theorem assertTargetField_le (h : KeepsTypes doctype doctype')
    (htarget : ∀ name, strategy.targetField = some name → KeepsTarget doctype doctype' name) :
    OkLe (assertTargetField doctype strategy) (assertTargetField doctype' strategy) := by
  intro u hok
  unfold assertTargetField at hok ⊢
  cases hname : strategy.targetField with
  | none => rfl
  | some name =>
    rw [hname] at hok
    dsimp only at hok ⊢
    cases hfield : doctype.field? name with
    | none =>
      rw [hfield] at hok
      cases hok
    | some field =>
      rw [hfield] at hok
      obtain ⟨_, htext, hok⟩ := except_bind_eq_ok hok
      have hflags := ensure_eq_ok hok
      rw [Bool.and_eq_true] at hflags
      obtain ⟨field', hfield', htype⟩ := h _ _ hfield
      obtain ⟨hreadOnly, hnoCopy⟩ := htarget name hname field field' hfield hfield' hflags.1 hflags.2
      rw [hfield']
      dsimp only
      rw [htype, ensure_eq_ok htext, hreadOnly, hnoCopy]
      rfl

theorem assertScopeField_le (h : KeepsTypes doctype doctype') (field : JsString) :
    OkLe (assertScopeField doctype field) (assertScopeField doctype' field) := by
  intro u hok
  unfold assertScopeField at hok ⊢
  dsimp only at hok ⊢
  cases hdefinition : doctype.field? field with
  | none =>
    rw [hdefinition] at hok
    cases hok
  | some definition =>
    rw [hdefinition] at hok
    obtain ⟨definition', hdefinition', htype⟩ := h _ _ hdefinition
    rw [hdefinition']
    dsimp only at hok ⊢
    rw [htype, ensure_eq_ok hok]
    rfl

theorem assertSeriesDefinition_le (h : KeepsTypes doctype doctype')
    (htarget : ∀ name, strategy.targetField = some name → KeepsTarget doctype doctype' name) :
    OkLe (assertSeriesDefinition doctype strategy) (assertSeriesDefinition doctype' strategy) := by
  refine OkLe.bind_right (fun _ _ => ?_)
  refine (assertTargetField_le h htarget).bind (fun _ _ => ?_)
  refine (OkLe.mapM (assertScopeField_le h) _).bind (fun _ _ => ?_)
  exact (compileNamingPattern_le h).bind (fun _ _ => OkLe.refl _)

/-- Of the DocType a series looks at its definition of the fields only. -/
theorem normalizeSeries_le (h : OkLe (assertSeriesDefinition doctype strategy) (assertSeriesDefinition doctype' strategy)) :
    OkLe (normalizeSeries safeRegex doctype strategy) (normalizeSeries safeRegex doctype' strategy) := by
  unfold normalizeSeries
  iterate 9 refine OkLe.bind_right (fun _ _ => ?_)
  exact h.bind (fun _ _ => OkLe.refl _)

end Naming

/-- **A checked strategy stays valid** where its fields keep their types and its target stays a target. -/
theorem normalizeNamingStrategy_le {strategy : NamingStrategy} (h : KeepsTypes doctype doctype')
    (htarget : ∀ series name, strategy = .series series → series.targetField = some name →
      KeepsTarget doctype doctype' name) :
    OkLe (normalizeNamingStrategy safeRegex doctype strategy) (normalizeNamingStrategy safeRegex doctype' strategy) := by
  cases strategy with
  | series strategy =>
    have hdefinition := Naming.assertSeriesDefinition_le h (fun name => htarget strategy name rfl)
    exact (Naming.normalizeSeries_le hdefinition).bind (fun _ _ => OkLe.refl _)
  | uuid => exact OkLe.refl _
  | field field => exact OkLe.refl _
  | provided field => exact OkLe.refl _

end

/-! ## The fields of a checked series -/

/-- **The fields that a series refers to** exist, with the types and flags that the series needs. -/
structure SeriesFieldsOK (doctype : DocTypeDefinition) (strategy : NamingSeriesStrategy) : Prop where
  target : ∀ name, strategy.targetField = some name →
    ∃ field, doctype.field? name = some field ∧ field.type = .text ∧ field.readOnly = true ∧ field.noCopy = true
  scope : ∀ name ∈ strategy.scopeFields.getD [],
    ∃ field, doctype.field? name = some field ∧ field.type ∉ [FieldType.table, .json, .longText]
  tokens : ∃ compiled, Naming.compileNamingPattern doctype strategy = .ok compiled ∧
    ∀ name, Naming.PatternToken.field name ∈ compiled → ∃ field, doctype.field? name = some field

section

variable {safeRegex : JsString → Bool → Except FrameworkError (JsString → Bool)}
variable {doctype : DocTypeDefinition} {strategy : NamingSeriesStrategy}

namespace Naming

/-- The fields of field tokens are declared. -/
def FieldsDeclared (doctype : DocTypeDefinition) (tokens : List PatternToken) : Prop :=
  ∀ name, PatternToken.field name ∈ tokens → ∃ field, doctype.field? name = some field

theorem parsePatternToken_returns (value : JsString) :
    Returns (parsePatternToken doctype value) (fun token => FieldsDeclared doctype [token]) := by
  unfold parsePatternToken
  repeat refine Returns.ite (fun _ => Returns.ok (by intro name hname; simp at hname)) (fun _ => ?_)
  refine Returns.ite (fun _ => ?_) (fun _ => Returns.error _)
  apply Returns.bind
  intro field _
  apply Returns.bind
  intro u hdefined
  apply Returns.ok
  intro name hname
  rw [List.mem_singleton, PatternToken.field.injEq] at hname
  rw [hname]
  exact Option.isSome_iff_exists.mp (ensure_eq_ok hdefined)

theorem fieldsDeclared_flushLiteral (literal : JsString) : FieldsDeclared doctype (flushLiteral literal) := by
  intro name hname
  unfold flushLiteral at hname
  split_ifs at hname
  · cases hname
  · cases List.mem_singleton.mp hname

theorem FieldsDeclared.append {tokens tokens' : List PatternToken} (h : FieldsDeclared doctype tokens)
    (h' : FieldsDeclared doctype tokens') : FieldsDeclared doctype (tokens ++ tokens') :=
  fun name hname => (List.mem_append.mp hname).elim (h name) (h' name)

theorem compileTokens_returns (fuel : Nat) (literal pattern : JsString) :
    Returns (compileTokens doctype fuel literal pattern) (FieldsDeclared doctype) := by
  induction fuel generalizing literal pattern with
  | zero => exact Returns.ok (fieldsDeclared_flushLiteral _)
  | succ fuel ih =>
    cases pattern with
    | nil => exact Returns.ok (fieldsDeclared_flushLiteral _)
    | cons character rest =>
      unfold compileTokens
      refine Returns.ite (fun _ => ?_) (fun _ => Returns.ite (fun _ => ?_) (fun _ => Returns.ite (fun _ => ?_) (fun _ => ?_)))
      · refine Returns.bind (fun _ _ => Returns.bind (fun tokens htokens => Returns.ok ?_))
        exact ((fieldsDeclared_flushLiteral _).append (by intro name hname; simp at hname)).append (ih _ _ _ htokens)
      · refine Returns.bind (fun _ _ => Returns.bind (fun token htoken => Returns.bind (fun tokens htokens => Returns.ok ?_)))
        exact ((fieldsDeclared_flushLiteral _).append (parsePatternToken_returns _ _ htoken)).append
          (ih _ _ _ htokens)
      · exact Returns.error _
      · exact ih _ _

theorem compileNamingPattern_returns :
    Returns (compileNamingPattern doctype strategy) (FieldsDeclared doctype) := by
  refine Returns.bind (fun tokens htokens => Returns.bind (fun _ _ => Returns.bind (fun _ _ => Returns.ok ?_)))
  exact compileTokens_returns _ _ _ _ htokens

theorem assertTargetField_ok {u : Unit} (h : assertTargetField doctype strategy = .ok u) {name : JsString}
    (hname : strategy.targetField = some name) :
    ∃ field, doctype.field? name = some field ∧ field.type = .text ∧ field.readOnly = true ∧ field.noCopy = true := by
  unfold assertTargetField at h
  rw [hname] at h
  dsimp only at h
  cases hfield : doctype.field? name with
  | none =>
    rw [hfield] at h
    cases h
  | some field =>
    rw [hfield] at h
    obtain ⟨_, htext, h⟩ := except_bind_eq_ok h
    have hflags := ensure_eq_ok h
    rw [Bool.and_eq_true] at hflags
    exact ⟨field, rfl, by simpa using ensure_eq_ok htext, hflags⟩

theorem assertScopeField_ok {name : JsString} {u : Unit} (h : assertScopeField doctype name = .ok u) :
    ∃ field, doctype.field? name = some field ∧ field.type ∉ [FieldType.table, .json, .longText] := by
  unfold assertScopeField at h
  dsimp only at h
  cases hfield : doctype.field? name with
  | none =>
    rw [hfield] at h
    cases h
  | some field =>
    rw [hfield] at h
    refine ⟨field, rfl, ?_⟩
    have hscalar := ensure_eq_ok h
    simpa using hscalar

/-- What returns unit for every element of a list returns it for each. -/
theorem ok_of_mapM {α β : Type} {f : α → Except FrameworkError β} {l : List α} {l' : List β} (h : l.mapM f = .ok l')
    {a : α} (ha : a ∈ l) : ∃ b, f a = .ok b := by
  induction l generalizing l' with
  | nil => cases ha
  | cons first l ih =>
    rw [List.mapM_cons] at h
    obtain ⟨b, hb, h⟩ := except_bind_eq_ok h
    obtain ⟨rest, hrest, -⟩ := except_bind_eq_ok h
    rcases List.mem_cons.mp ha with rfl | ha
    · exact ⟨b, hb⟩
    · exact ih hrest ha

theorem assertSeriesDefinition_ok {u : Unit} (h : assertSeriesDefinition doctype strategy = .ok u) :
    SeriesFieldsOK doctype strategy := by
  obtain ⟨_, -, h⟩ := except_bind_eq_ok h
  obtain ⟨_, htarget, h⟩ := except_bind_eq_ok h
  obtain ⟨_, hscope, h⟩ := except_bind_eq_ok h
  obtain ⟨compiled, hcompiled, -⟩ := except_bind_eq_ok h
  refine ⟨fun name => assertTargetField_ok htarget, ?_, compiled, hcompiled, compileNamingPattern_returns _ hcompiled⟩
  intro name hname
  obtain ⟨u', hok⟩ := ok_of_mapM hscope hname
  exact assertScopeField_ok hok

end Naming

theorem normalizeNamingStrategy_series {result : NamingStrategy}
    (h : normalizeNamingStrategy safeRegex doctype (.series strategy) = .ok result) : SeriesFieldsOK doctype strategy := by
  obtain ⟨normalized, hnormalized, -⟩ := except_bind_eq_ok h
  unfold Naming.normalizeSeries at hnormalized
  iterate 9 obtain ⟨_, -, hnormalized⟩ := except_bind_eq_ok hnormalized
  obtain ⟨u, hassert, -⟩ := except_bind_eq_ok hnormalized
  exact Naming.assertSeriesDefinition_ok hassert

end

/-! ## The strategy in force -/

inductive NamingConfigurationSource
  | default
  | static
  | runtime
  deriving DecidableEq

structure NamingConfigurationState where
  tenantId : TenantId
  doctype : DocTypeName
  version : Nat
  staticStrategy : Option NamingStrategy
  runtimeStrategy : Option NamingStrategy
  effectiveStrategy : Option NamingStrategy
  source : NamingConfigurationSource
  updatedAt : Option Timestamp
  deriving DecidableEq

/-- What an event makes of the runtime strategy of a DocType, `none` if it says nothing about it. -/
def namingChange (doctypeName : DocTypeName) (event : MetadataEvent) : Option (Option NamingStrategy) :=
  match event.payload with
  | .namingStrategySaved name strategy => if name = doctypeName then some (some strategy) else none
  | .namingStrategyCleared name => if name = doctypeName then some none else none
  | _ => none

/-- The runtime strategy after some events, in their order. -/
def runtimeStrategyOf (doctypeName : DocTypeName) (events : MetadataLog) : Option NamingStrategy :=
  events.foldl (fun strategy event => (namingChange doctypeName event.event).getD strategy) none

def foldNamingConfiguration (tenantId : TenantId) (doctype : DocTypeDefinition) (events : MetadataLog) :
    NamingConfigurationState :=
  let own := (sortRecorded events).filter (fun event => (namingChange doctype.name event.event).isSome)
  let runtimeStrategy := runtimeStrategyOf doctype.name (sortRecorded events)
  { tenantId
    doctype := doctype.name
    version := lastSequence own
    staticStrategy := doctype.naming
    runtimeStrategy
    effectiveStrategy := runtimeStrategy.or doctype.naming
    source := if runtimeStrategy.isSome then .runtime else if doctype.naming.isSome then .static else .default
    updatedAt := own.getLast?.map (fun event => event.event.occurredAt) }

def applyNamingConfigurationToDocType (checks : DocTypeChecks) (base : DocTypeDefinition)
    (state : NamingConfigurationState) : Except FrameworkError DocTypeDefinition := do
  ensure (base.name == state.doctype)
    { code := .namingInvalid, status := 400
      message := js "Naming configuration for '" ++ state.doctype ++ js "' cannot be applied to DocType '" ++
        base.name ++ js "'" }
  let naming ← normalizeNaming checks base state.effectiveStrategy
  return { base with naming }

/-- The effective strategy is checked when it is put into the DocType, and nothing else is. -/
theorem applyNamingConfigurationToDocType_ok {checks : DocTypeChecks} {base : DocTypeDefinition}
    {state : NamingConfigurationState} (hname : base.name = state.doctype)
    (h : ∀ strategy, state.effectiveStrategy = some strategy →
      normalizeNamingStrategy checks.safeRegex base strategy = .ok strategy) :
    applyNamingConfigurationToDocType checks base state = .ok { base with naming := state.effectiveStrategy } := by
  unfold applyNamingConfigurationToDocType
  rw [hname, beq_self_eq_true]
  cases hstrategy : state.effectiveStrategy with
  | none => rfl
  | some strategy =>
    change ((normalizeNamingStrategy checks.safeRegex base strategy).bind _).bind _ = _
    rw [h strategy hstrategy]
    rfl

/-- What is checked when a configuration is put into a DocType. -/
theorem checked_of_applyNamingConfigurationToDocType {checks : DocTypeChecks} {base result : DocTypeDefinition}
    {state : NamingConfigurationState} (h : applyNamingConfigurationToDocType checks base state = .ok result)
    {strategy : NamingStrategy} (hstrategy : state.effectiveStrategy = some strategy) :
    normalizeNamingStrategy checks.safeRegex base strategy = .ok strategy := by
  obtain ⟨_, -, h⟩ := except_bind_eq_ok h
  obtain ⟨naming, hnaming, -⟩ := except_bind_eq_ok h
  exact (normalizeNaming_eq hnaming).2 strategy hstrategy
