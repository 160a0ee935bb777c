import CfFrappe.Core.Predicates

set_option autoImplicit false

/-! # List filters in a query string

A list filter travels as the query parameters `filter_<field>__<operator>`, one for each
value, or `filter_<field>` for equality. A field name may itself end in `__<operator>`; the
decoder then takes the whole for the field. One key, `filter_expression`, is kept for filter
expressions.
-/

open Utf

abbrev ListFilterOperator := PredicateOperator

inductive ListFilterValue
  | item (value : JsString)
  | items (values : List JsString)
  deriving DecidableEq

structure ListDocumentsFilter where
  field : JsString
  operator : Option ListFilterOperator
  value : ListFilterValue
  deriving DecidableEq

def listFilterOperators : List ListFilterOperator :=
  [.eq, .ne, .isIn, .notIn, .is, .contains, .like, .notLike, .gt, .gte, .lt, .lte, .between, .notBetween]

theorem mem_listFilterOperators (operator : ListFilterOperator) : operator ∈ listFilterOperators := by
  cases operator <;> decide

def isListMembershipOperator (operator : ListFilterOperator) : Bool := operator = .isIn || operator = .notIn

def isListRangeOperator (operator : ListFilterOperator) : Bool := operator = .between || operator = .notBetween

def isFilterable (field : FieldDefinition) : Bool := field.type ≠ .json && field.type ≠ .table

def supportedListFilterOperatorsForField (field : FieldDefinition) : List ListFilterOperator :=
  if isFilterable field then
    [.eq, .ne, .isIn, .notIn, .is] ++
      (if field.type = .text ∨ field.type = .longText ∨ field.type = .link then
        [.contains, .like, .notLike] else []) ++
      (if field.type = .integer ∨ field.type = .number ∨ field.type = .date ∨ field.type = .datetime then
        [.gt, .gte, .lt, .lte, .between, .notBetween] else [])
  else []

/-! ## Keys -/

/-- `__${operator}`. -/
def operatorSuffix (operator : ListFilterOperator) : JsString := js "__" ++ operator.toText

def listFilterQueryKey (field : JsString) (operator : ListFilterOperator) : JsString :=
  js "filter_" ++ field ++ (if operator = .eq then [] else operatorSuffix operator)

def filterExpressionQueryKey : JsString := js "filter_expression"

/-- `raw.slice(0, -suffix.length)`. -/
def withoutSuffix (raw suffix : JsString) : JsString := raw.take (raw.length - suffix.length)

def parseFilterKey (key : JsString) (fields : List JsString) : Option (JsString × ListFilterOperator) :=
  if ¬ js "filter_" <+: key then none
  else
    let raw := key.drop (js "filter_").length
    if raw ∈ fields then some (raw, .eq)
    else if operatorSuffix .eq <:+ raw then some (withoutSuffix raw (operatorSuffix .eq), .eq)
    else
      match (listFilterOperators.filter (· ≠ .eq)).find? (fun operator => operatorSuffix operator <:+ raw) with
      | some operator => some (withoutSuffix raw (operatorSuffix operator), operator)
      | none => some (raw, .eq)

/-- No operator's suffix ends in another's. -/
theorem operatorSuffix_suffix {left right : ListFilterOperator}
    (h : operatorSuffix left <:+ operatorSuffix right) : left = right := by
  revert h
  cases left <;> cases right <;> decide +kernel

theorem withoutSuffix_append (raw suffix : JsString) : withoutSuffix (raw ++ suffix) suffix = raw := by
  have hlength : (raw ++ suffix).length - suffix.length = raw.length := by simp
  rw [withoutSuffix, hlength, List.take_left]

/-- A text that ends in one operator's suffix ends in no other's. -/
theorem operator_eq_of_suffix_append {raw : JsString} {left right : ListFilterOperator}
    (h : operatorSuffix left <:+ raw ++ operatorSuffix right) : left = right := by
  have hright : operatorSuffix right <:+ raw ++ operatorSuffix right := List.suffix_append _ _
  rcases List.suffix_or_suffix_of_suffix h hright with hsuffix | hsuffix
  · exact operatorSuffix_suffix hsuffix
  · exact (operatorSuffix_suffix hsuffix).symm

variable {field key : JsString} {operator : ListFilterOperator} {fields values : List JsString}

/-- A field's own name is read as equality, whatever it ends in. -/
theorem parseFilterKey_field (h : field ∈ fields) :
    parseFilterKey (js "filter_" ++ field) fields = some (field, .eq) := by
  have hstart : js "filter_" <+: js "filter_" ++ field := List.prefix_append _ _
  rw [parseFilterKey, if_neg (not_not_intro hstart)]
  simp [h]

/-- A field with an operator is read back when the whole is no field's name. -/
theorem parseFilterKey_operator (hoperator : operator ≠ .eq) (h : field ++ operatorSuffix operator ∉ fields) :
    parseFilterKey (js "filter_" ++ field ++ operatorSuffix operator) fields = some (field, operator) := by
  have hstart : js "filter_" <+: js "filter_" ++ field ++ operatorSuffix operator := by
    rw [List.append_assoc]
    exact List.prefix_append _ _
  have hraw : (js "filter_" ++ field ++ operatorSuffix operator).drop (js "filter_").length =
      field ++ operatorSuffix operator := by
    rw [List.append_assoc, List.drop_left]
  have heq : ¬ operatorSuffix .eq <:+ field ++ operatorSuffix operator := by
    intro hsuffix
    exact hoperator (operator_eq_of_suffix_append hsuffix).symm
  -- the first operator found is this one, since its suffix is the only one that fits
  have hfind : (listFilterOperators.filter (· ≠ .eq)).find?
      (fun other => operatorSuffix other <:+ field ++ operatorSuffix operator) = some operator := by
    cases hfound : (listFilterOperators.filter (· ≠ .eq)).find?
        (fun other => operatorSuffix other <:+ field ++ operatorSuffix operator) with
    | some other =>
      have hother := List.find?_some hfound
      rw [decide_eq_true_eq] at hother
      rw [operator_eq_of_suffix_append hother]
    | none =>
      have hmem : operator ∈ listFilterOperators.filter (· ≠ .eq) := by
        rw [List.mem_filter]
        exact ⟨mem_listFilterOperators operator, decide_eq_true hoperator⟩
      have hnot := List.find?_eq_none.mp hfound operator hmem
      exact absurd (decide_eq_true (List.suffix_append _ _)) hnot
  rw [parseFilterKey, if_neg (not_not_intro hstart)]
  simp only [hraw, if_neg h, if_neg heq, hfind, withoutSuffix_append]

/-! ## Reading a query string -/

/-- The search parameters of a URL, in order. -/
abbrev SearchParams := List (JsString × JsString)

def emptyFilterQueryKey : JsString := js "empty_filter"

/-- A filter being read. One with several values is also held in `arrayFilters` under its key. -/
inductive PendingFilter
  | array (key field : JsString) (operator : ListFilterOperator) (values : List JsString)
  | plain (filter : ListDocumentsFilter)
  deriving DecidableEq

/-- `arrayFilters.get(key)` finds this one. -/
def PendingFilter.under (key : JsString) : PendingFilter → Bool
  | .array other _ _ _ => other = key
  | .plain _ => false

/-- `existing.values.push(value)`. -/
def PendingFilter.push (key value : JsString) : PendingFilter → PendingFilter
  | .array other field operator values =>
    .array other field operator (if other = key then values ++ [value] else values)
  | .plain filter => .plain filter

def PendingFilter.finish : PendingFilter → ListDocumentsFilter
  | .array _ field operator values => { field, operator := some operator, value := .items values }
  | .plain filter => filter

def addFilterValue (filters : List PendingFilter) (key value field : JsString) (operator : ListFilterOperator) :
    List PendingFilter :=
  if isListMembershipOperator operator || isListRangeOperator operator then
    if filters.any (·.under key) then filters.map (·.push key value)
    else filters ++ [.array key field operator [value]]
  else
    filters ++ [.plain { field, operator := if operator = .eq then none else some operator, value := .item value }]

/-- What `searchParams.forEach` does with one parameter. -/
def collectFilter (fields emptyFilterKeys : List JsString) (filters : List PendingFilter)
    (param : JsString × JsString) : List PendingFilter :=
  if param.1 = filterExpressionQueryKey then filters
  else
    match parseFilterKey param.1 fields with
    | none => filters
    | some parsed =>
      if param.2 = [] ∧ param.1 ∉ emptyFilterKeys then filters
      else addFilterValue filters param.1 param.2 parsed.1 parsed.2

/-- `searchParams.getAll(key)`. -/
def getAll (params : SearchParams) (key : JsString) : List JsString :=
  (params.filter (fun param => param.1 = key)).map Prod.snd

def listFiltersFromUrl (params : SearchParams) (fields : List JsString) : List ListDocumentsFilter :=
  (params.foldl (collectFilter fields (getAll params emptyFilterQueryKey)) []).map PendingFilter.finish

/-- What the values read so far under one key have become. -/
def collected (key field : JsString) (operator : ListFilterOperator) (values : List JsString) :
    List PendingFilter :=
  if isListMembershipOperator operator || isListRangeOperator operator then
    if values = [] then [] else [.array key field operator values]
  else
    values.map fun value =>
      .plain { field, operator := if operator = .eq then none else some operator, value := .item value }

theorem addFilterValue_collected (key value field : JsString) (operator : ListFilterOperator)
    (values : List JsString) :
    addFilterValue (collected key field operator values) key value field operator =
      collected key field operator (values ++ [value]) := by
  unfold addFilterValue collected
  by_cases harray : (isListMembershipOperator operator || isListRangeOperator operator) = true
  · simp only [if_pos harray]
    by_cases hvalues : values = []
    · simp [hvalues]
    · simp [hvalues, PendingFilter.under, PendingFilter.push]
  · simp only [if_neg harray, List.map_append, List.map_cons, List.map_nil]

/-- A parameter that is not a filter, or one more value under the key. -/
structure Carried (emptyFilterKeys : List JsString) (key : JsString) (param : JsString × JsString) : Prop where
  filter : param.1 = key ∨ ¬ js "filter_" <+: param.1
  value : param.1 = key → param.2 = [] → key ∈ emptyFilterKeys

/-- Reading on appends the values under the key to what was read of it. -/
theorem foldl_collectFilter {emptyFilterKeys : List JsString} (hkey : key ≠ filterExpressionQueryKey)
    (hparse : parseFilterKey key fields = some (field, operator)) (params : SearchParams) (values : List JsString)
    (hparams : ∀ param ∈ params, Carried emptyFilterKeys key param) :
    params.foldl (collectFilter fields emptyFilterKeys) (collected key field operator values) =
      collected key field operator (values ++ getAll params key) := by
  induction params generalizing values with
  | nil => simp [getAll]
  | cons param params ih =>
    have hparam := hparams param List.mem_cons_self
    have hrest : ∀ other ∈ params, Carried emptyFilterKeys key other :=
      fun other hother => hparams other (List.mem_cons_of_mem _ hother)
    rw [List.foldl_cons]
    by_cases hthis : param.1 = key
    · -- one more value
      have hempty : ¬ (param.2 = [] ∧ key ∉ emptyFilterKeys) := by
        rintro ⟨hvalue, hunmarked⟩
        exact hunmarked (hparam.value hthis hvalue)
      have hstep : collectFilter fields emptyFilterKeys (collected key field operator values) param =
          collected key field operator (values ++ [param.2]) := by
        rw [collectFilter, hthis, if_neg hkey, hparse]
        simp only [if_neg hempty]
        exact addFilterValue_collected key param.2 field operator values
      have hall : getAll (param :: params) key = param.2 :: getAll params key := by
        simp [getAll, hthis]
      rw [hstep, ih _ hrest, hall, List.append_assoc, List.singleton_append]
    · -- a parameter that is no filter
      have hother : ¬ js "filter_" <+: param.1 := hparam.filter.resolve_left hthis
      have hstep : collectFilter fields emptyFilterKeys (collected key field operator values) param =
          collected key field operator values := by
        rw [collectFilter]
        by_cases hexpression : param.1 = filterExpressionQueryKey
        · rw [if_pos hexpression]
        · rw [if_neg hexpression, parseFilterKey, if_pos hother]
      have hall : getAll (param :: params) key = getAll params key := by
        simp [getAll, hthis]
      rw [hstep, ih _ hrest, hall]

/-! ## Filters that are read as they were written -/

def listFilterParseFields (doctype : DocTypeDefinition) : List JsString := doctype.fields.map FieldDefinition.name

/-- As many values as the operator takes. -/
def ValuesFor (operator : ListFilterOperator) (values : List JsString) : Prop :=
  if isListRangeOperator operator then values.length = 2
  else if isListMembershipOperator operator then values ≠ []
  else values.length = 1

instance (operator : ListFilterOperator) (values : List JsString) : Decidable (ValuesFor operator values) := by
  unfold ValuesFor; infer_instance

/-- A URL that carries these values under this key and no other filter, with empty values marked. -/
structure CarriesFilter (params : SearchParams) (key : JsString) (values : List JsString) : Prop where
  values_eq : getAll params key = values
  others : ∀ param ∈ params, param.1 = key ∨ ¬ js "filter_" <+: param.1
  marked : [] ∈ values → key ∈ getAll params emptyFilterQueryKey

theorem CarriesFilter.carried {params : SearchParams} (h : CarriesFilter params key values) :
    ∀ param ∈ params, Carried (getAll params emptyFilterQueryKey) key param := by
  intro param hparam
  refine ⟨h.others param hparam, fun hkey hvalue => h.marked ?_⟩
  have hmem : param ∈ params.filter (fun other => other.1 = key) := by
    rw [List.mem_filter]
    exact ⟨hparam, decide_eq_true hkey⟩
  rw [← h.values_eq, ← hvalue]
  exact List.mem_map_of_mem hmem

/-- What a URL is read as when its filter parameters have one key. -/
theorem listFiltersFromUrl_carries {params : SearchParams} (h : CarriesFilter params key values)
    (hkey : key ≠ filterExpressionQueryKey) (hparse : parseFilterKey key fields = some (field, operator)) :
    listFiltersFromUrl params fields = (collected key field operator values).map PendingFilter.finish := by
  have hnone : collected key field operator [] = [] := by
    unfold collected
    split <;> rfl
  have hfold := foldl_collectFilter hkey hparse params [] h.carried
  rw [hnone, h.values_eq, List.nil_append] at hfold
  rw [listFiltersFromUrl, hfold]

/-- The filter on a field with an operator and these values. -/
def listFilter (field : JsString) (operator : ListFilterOperator) (values : List JsString) : ListDocumentsFilter :=
  { field
    operator := if operator = .eq then none else some operator
    value :=
      if isListMembershipOperator operator || isListRangeOperator operator then .items values
      else .item (values.headD []) }

theorem finish_collected (h : ValuesFor operator values) :
    (collected key field operator values).map PendingFilter.finish = [listFilter field operator values] := by
  unfold ValuesFor at h
  unfold collected listFilter
  by_cases hrange : isListRangeOperator operator = true
  · rw [if_pos hrange] at h
    have hvalues : values ≠ [] := by
      rintro rfl
      simp at h
    have hoperator : operator ≠ .eq := by
      rintro rfl
      simp [isListRangeOperator] at hrange
    simp [hrange, hvalues, hoperator, PendingFilter.finish]
  · rw [if_neg hrange] at h
    by_cases hmembership : isListMembershipOperator operator = true
    · rw [if_pos hmembership] at h
      have hoperator : operator ≠ .eq := by
        rintro rfl
        simp [isListMembershipOperator] at hmembership
      simp [hmembership, h, hoperator, PendingFilter.finish]
    · rw [if_neg hmembership] at h
      obtain ⟨value, rfl⟩ := List.length_eq_one_iff.mp h
      simp [hrange, hmembership, PendingFilter.finish]

theorem listFilterQueryKey_eq (field : JsString) : listFilterQueryKey field .eq = js "filter_" ++ field := by
  simp [listFilterQueryKey]

theorem listFilterQueryKey_of_ne (field : JsString) (h : operator ≠ .eq) :
    listFilterQueryKey field operator = js "filter_" ++ field ++ operatorSuffix operator := by
  rw [listFilterQueryKey, if_neg h]

theorem listFilterQueryKey_inj (field other : JsString) (operator operator' : ListFilterOperator) :
    listFilterQueryKey field operator = listFilterQueryKey other operator' ↔
      (field = other ∧ operator = operator') ∨
        (operator = .eq ∧ operator' ≠ .eq ∧ field = other ++ operatorSuffix operator') ∨
        (operator ≠ .eq ∧ operator' = .eq ∧ other = field ++ operatorSuffix operator) := by
  unfold listFilterQueryKey
  rw [List.append_assoc, List.append_assoc, List.append_cancel_left_eq]
  by_cases hleft : operator = .eq
  · by_cases hright : operator' = .eq
    · simp [hleft, hright]
    · simp [hleft, hright, Ne.symm hright]
  · by_cases hright : operator' = .eq
    · simp [hleft, hright, eq_comm]
    · simp only [if_false, hleft, hright, false_and, and_false, or_false]
      constructor
      · intro h
        have hsuffix : operatorSuffix operator <:+ other ++ operatorSuffix operator' := ⟨field, h⟩
        obtain rfl := operator_eq_of_suffix_append hsuffix
        exact ⟨List.append_cancel_right h, rfl⟩
      · rintro ⟨rfl, rfl⟩
        rfl

/-- **A filter parameter is read as the filter it was written for.** A key that is as a whole a
field's name means equality on that field; two filters share a key only in this way. -/
theorem listFiltersFromUrl_listFilterQueryKey (doctype : DocTypeDefinition) :
    (∀ field ∈ doctype.fields, ∀ (operator : ListFilterOperator) (values : List JsString) (params : SearchParams),
      listFilterQueryKey field.name operator ≠ filterExpressionQueryKey → ValuesFor operator values →
      CarriesFilter params (listFilterQueryKey field.name operator) values →
      if operator ≠ .eq ∧ field.name ++ operatorSuffix operator ∈ listFilterParseFields doctype then
        listFiltersFromUrl params (listFilterParseFields doctype) =
          values.map (fun value => listFilter (field.name ++ operatorSuffix operator) .eq [value])
      else
        listFiltersFromUrl params (listFilterParseFields doctype) = [listFilter field.name operator values]) ∧
    (∀ field ∈ doctype.fields, ∀ other ∈ doctype.fields, ∀ operator operator' : ListFilterOperator,
      listFilterQueryKey field.name operator = listFilterQueryKey other.name operator' ↔
        (field.name = other.name ∧ operator = operator') ∨
          (operator = .eq ∧ operator' ≠ .eq ∧ field.name = other.name ++ operatorSuffix operator') ∨
          (operator ≠ .eq ∧ operator' = .eq ∧ other.name = field.name ++ operatorSuffix operator)) := by
  refine ⟨?_, fun field _ other _ operator operator' =>
    listFilterQueryKey_inj field.name other.name operator operator'⟩
  intro field hfield operator values params hkey hvalues hcarries
  by_cases hcollides : operator ≠ .eq ∧ field.name ++ operatorSuffix operator ∈ listFilterParseFields doctype
  · -- the whole key names a field
    rw [if_pos hcollides]
    have hparse : parseFilterKey (listFilterQueryKey field.name operator) (listFilterParseFields doctype) =
        some (field.name ++ operatorSuffix operator, .eq) := by
      rw [listFilterQueryKey_of_ne _ hcollides.1, List.append_assoc]
      exact parseFilterKey_field hcollides.2
    rw [listFiltersFromUrl_carries hcarries hkey hparse]
    simp [collected, listFilter, isListMembershipOperator, isListRangeOperator, PendingFilter.finish]
  · rw [if_neg hcollides]
    have hparse : parseFilterKey (listFilterQueryKey field.name operator) (listFilterParseFields doctype) =
        some (field.name, operator) := by
      by_cases hoperator : operator = .eq
      · subst hoperator
        rw [listFilterQueryKey_eq]
        exact parseFilterKey_field (List.mem_map_of_mem hfield)
      · rw [listFilterQueryKey_of_ne _ hoperator]
        exact parseFilterKey_operator hoperator (fun hmem => hcollides ⟨hoperator, hmem⟩)
    rw [listFiltersFromUrl_carries hcarries hkey hparse, finish_collected hvalues]

/-- A DocType with a field named like a filter on another of its fields. -/
def countsDocType : DocTypeDefinition :=
  { name := js "Counts"
    fields := [{ name := js "count", type := .integer }, { name := js "count__between", type := .integer }] }

def countsRange : SearchParams :=
  [(listFilterQueryKey (js "count") .between, js "1"), (listFilterQueryKey (js "count") .between, js "9")]

theorem countsRange_carries :
    CarriesFilter countsRange (listFilterQueryKey (js "count") .between) [js "1", js "9"] where
  values_eq := by decide +kernel
  others := by decide +kernel
  marked := by decide +kernel

/-- On such a DocType a lower bound is read as it was written, and a range on one field as two equality filters
on the other. -/
theorem listFiltersFromUrl_counts :
    listFiltersFromUrl [(listFilterQueryKey (js "count") .gte, js "1")] (listFilterParseFields countsDocType) =
        [listFilter (js "count") .gte [js "1"]] ∧
      listFiltersFromUrl countsRange (listFilterParseFields countsDocType) =
        [listFilter (js "count__between") .eq [js "1"], listFilter (js "count__between") .eq [js "9"]] := by
  have hread := (listFiltersFromUrl_listFilterQueryKey countsDocType).1 _ List.mem_cons_self
  have hbound : CarriesFilter [(listFilterQueryKey (js "count") .gte, js "1")] (listFilterQueryKey (js "count") .gte)
      [js "1"] := ⟨by decide +kernel, by decide +kernel, by decide +kernel⟩
  constructor
  · have hwritten := hread .gte [js "1"] _ (by decide +kernel) (by decide) hbound
    rwa [if_neg (by decide +kernel)] at hwritten
  · have hmisread := hread .between [js "1", js "9"] countsRange (by decide +kernel) (by decide) countsRange_carries
    rwa [if_pos (by decide +kernel)] at hmisread

/-- A range on one field is read as two equality filters on the other, and the two filters have one key. -/
theorem countsRange_misread :
    (∀ field ∈ countsDocType.fields, isMetadataName field.name = true) ∧
      (∃ field ∈ countsDocType.fields,
        field.name = js "count" ∧ .between ∈ supportedListFilterOperatorsForField field) ∧
      ValuesFor .between [js "1", js "9"] ∧
      CarriesFilter countsRange (listFilterQueryKey (js "count") .between) [js "1", js "9"] ∧
      listFiltersFromUrl countsRange (listFilterParseFields countsDocType) ≠ [listFilter (js "count") .between [js "1", js "9"]] ∧
      listFilterQueryKey (js "count") .between = listFilterQueryKey (js "count__between") .eq := by
  refine ⟨by decide +kernel, by decide +kernel, by decide, countsRange_carries, by decide +kernel, by decide +kernel⟩
