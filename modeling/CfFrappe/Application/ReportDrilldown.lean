import CfFrappe.Application.ReportPolicy
import CfFrappe.Core.Workflow

set_option autoImplicit false

/-! # Drilling down into a chart

A chart point stands for a bucket of documents and carries the query that filters for its key. The
query holds the key as a text; a run that sets the filter from it selects the bucket, except where
the text is empty, which is no filter at all, or is changed by the query (`drilldown_selects_iff`).
-/

open Utf

/-! ## Texts in a query -/

theorem toUsvString_eq_nil_iff {text : JsString} : toUsvString text = [] ↔ text = [] := by
  constructor
  · intro h
    cases text with
    | nil => rfl
    | cons u rest =>
      have hpoints : codePoints (u :: rest) ≠ [] := by
        intro hnone
        have hback := flatMap_utf16_codePoints (u :: rest)
        rw [hnone] at hback
        cases hback
      obtain ⟨c, hc⟩ := List.exists_mem_of_ne_nil _ hpoints
      have hempty := List.flatMap_eq_nil_iff.mp h c hc
      unfold utf16 at hempty
      split at hempty <;> exact absurd hempty (List.cons_ne_nil _ _)
  · rintro rfl
    rfl

theorem wellFormed_numberToString (value : Rat) : WellFormed (Json.numberToString value) := by
  apply SurrogateFree.wellFormed
  intro u hu
  rw [Json.numberToString_eq] at hu
  have hsmall : u.toNat ≤ 0x65 := by
    rcases List.mem_append.mp hu with hu | hu
    · split at hu
      · obtain rfl : u = 0x2D := List.mem_singleton.mp hu
        decide
      · exact absurd hu List.not_mem_nil
    · have hunit := Json.toNat_of_isNumberUnit (Json.isNumberUnit_of_mem_unsignedText hu)
      omega
  unfold isSurrogate
  rw [Bool.and_eq_false_iff, decide_eq_false_iff_not]
  exact .inl (by omega)

/-! ## The values of a field -/

/-- The types of the fields that have exact filters here. -/
def DrilldownType (type : FieldType) : Prop :=
  type = .text ∨ type = .select ∨ type = .integer ∨ type = .number ∨ type = .boolean

/-- A value of the type, or none. Numbers are the ones a double holds. -/
def FieldValueOrMissing (type : FieldType) : Option Json → Prop
  | none | some .null => True
  | some (.str _) => type = .text ∨ type = .select
  | some (.num value) => (type = .integer ∧ value.den = 1) ∨ (type = .number ∧ Json.IsDecimal value)
  | some (.bool _) => type = .boolean
  | some (.arr _) | some (.obj _) => False

theorem isDecimal_of_den {value : Rat} (h : value.den = 1) : Json.IsDecimal value :=
  ⟨0, by decide, by rw [h]; exact Nat.mod_one _⟩

variable {field : JsString} {key : Json} {row : ReportRow} {rows : List ReportRow}
variable {buckets : Record JsString ReportBucket}

/-- The key of a row with a value of the type. -/
theorem isPrimitiveValue_reportGroupKey {type : FieldType} (h : FieldValueOrMissing type (row.get field)) :
    (reportGroupKey field row).IsPrimitiveValue := by
  unfold reportGroupKey primitiveReportRowValue
  cases hvalue : row.get field with
  | none => trivial
  | some value =>
    rw [hvalue] at h
    cases value with
    | null => trivial
    | bool b => trivial
    | str s => trivial
    | num q =>
      rcases h with ⟨-, hden⟩ | ⟨-, hdecimal⟩
      · exact isDecimal_of_den hden
      · exact hdecimal
    | arr items => exact absurd h id
    | obj members => exact absurd h id

/-- A row has a key other than `null` exactly when it has that value. -/
theorem reportGroupKey_eq_iff {type : FieldType} (h : FieldValueOrMissing type (row.get field)) (hkey : key ≠ .null) :
    reportGroupKey field row = key ↔ row.get field = some key := by
  unfold reportGroupKey primitiveReportRowValue
  cases hvalue : row.get field with
  | none =>
    constructor
    · exact fun hnull => absurd hnull.symm hkey
    · exact fun hnone => absurd hnone (by simp)
  | some value =>
    rw [hvalue] at h
    cases value with
    | arr items => exact absurd h id
    | obj members => exact absurd h id
    | _ => simp

/-- **The text of a value is coerced back to it**, as far as the query keeps the text. -/
theorem coerceReportFilterValue_toText {type : FieldType} (htype : DrilldownType type)
    (hkey : FieldValueOrMissing type (some key)) (hnull : key ≠ .null) (hempty : key ≠ .str []) (filterName : JsString) :
    ∃ value, coerceReportFilterValue (some (.str (toUsvString key.toText))) (some type) filterName .eq = .ok (some value) ∧
      value ≠ .null ∧ value ≠ .str [] ∧ (value = key ↔ WellFormed key.toText) := by
  cases key with
  | null => exact absurd rfl hnull
  | arr items => exact absurd hkey id
  | obj members => exact absurd hkey id
  | str s =>
    have hs : s ≠ [] := fun h => hempty (by rw [h])
    have hnil : toUsvString s ≠ [] := fun h => hs (toUsvString_eq_nil_iff.mp h)
    refine ⟨.str (toUsvString s), ?_, by simp, by simpa using hnil, ?_⟩
    · rcases hkey with rfl | rfl <;>
        simp [coerceReportFilterValue, coerceScalarReportFilterValue, isReportFilterArray, Json.toText,
          Except.map, hnil]
    · rw [Json.str.injEq]
      exact toUsvString_eq_iff
  | num q =>
    have hdecimal : Json.IsDecimal q := by
      rcases hkey with ⟨-, hden⟩ | ⟨-, hdecimal⟩
      · exact isDecimal_of_den hden
      · exact hdecimal
    have hwell := wellFormed_numberToString q
    have htext : (Json.num q).toText = Json.numberToString q := rfl
    rw [htext, toUsvString_of_wellFormed hwell]
    refine ⟨.num q, ?_, by simp, by simp, by simp [hwell]⟩
    rcases hkey with ⟨rfl, hden⟩ | ⟨rfl, -⟩ <;>
      simp [coerceReportFilterValue, coerceScalarReportFilterValue, isReportFilterArray, numericFilterValue,
        Json.toNumber_numberToString hdecimal, Json.numberToString_ne_nil, Except.map, bind, Except.bind, pure, Except.pure, *]
  | bool b =>
    obtain rfl : type = .boolean := hkey
    refine ⟨.bool b, ?_, by simp, by simp, ?_⟩
    · cases b <;> rfl
    · have hwell : WellFormed (Json.bool b).toText := by cases b <;> decide
      simp [hwell]

/-! ## Materialized filters -/

section Materialize

variable {report : ReportDefinition} {doctype : DocTypeDefinition} {input : ReportFilters}
  {expression : Option ReportFilterExpression}

/-- Materializing sets the value of each filter, if all are accepted. -/
theorem foldlM_materialize {filters : List ReportFilterDefinition} {start values : ReportFilters}
    (hnames : (filters.map (·.name)).Nodup)
    (h : filters.foldlM (fun values filter => do
      let value ← materializeReportFilter doctype input expression filter
      return Record.set values filter.name value) start = .ok values) :
    (∀ filter ∈ filters, materializeReportFilter doctype input expression filter =
        .ok (ReportFilters.value values filter.name)) ∧
      ∀ name, name ∉ filters.map (·.name) → Record.get values name = Record.get start name := by
  induction filters generalizing start with
  | nil =>
    rw [List.foldlM_nil] at h
    obtain rfl : start = values := Except.ok.inj h
    exact ⟨by simp, fun _ _ => rfl⟩
  | cons filter filters ih =>
    rw [List.foldlM_cons] at h
    obtain ⟨next, hnext, h⟩ := except_bind_eq_ok h
    obtain ⟨value, hvalue, hset⟩ := except_bind_eq_ok hnext
    obtain rfl : Record.set start filter.name value = next := Except.ok.inj hset
    rw [List.map_cons, List.nodup_cons] at hnames
    obtain ⟨hfilters, hrest⟩ := ih hnames.2 h
    constructor
    · intro other hother
      rcases List.mem_cons.mp hother with rfl | hother
      · have hget := hrest other.name hnames.1
        rw [Record.get_set, if_pos rfl] at hget
        rw [hvalue, ReportFilters.value, hget]
        rfl
      · exact hfilters other hother
    · intro name hname
      rw [List.map_cons, List.mem_cons, not_or] at hname
      rw [hrest name hname.2, Record.get_set, if_neg (Ne.symm hname.1)]

theorem foldlM_materialize_ok {filters : List ReportFilterDefinition} {start : ReportFilters}
    (h : ∀ filter ∈ filters, ∃ value, materializeReportFilter doctype input expression filter = .ok value) :
    ∃ values, filters.foldlM (fun values filter => do
      let value ← materializeReportFilter doctype input expression filter
      return Record.set values filter.name value) start = .ok values := by
  induction filters generalizing start with
  | nil => exact ⟨start, rfl⟩
  | cons filter filters ih =>
    obtain ⟨value, hvalue⟩ := h filter List.mem_cons_self
    rw [List.foldlM_cons, hvalue]
    exact ih (fun other hother => h other (List.mem_cons_of_mem _ hother))

theorem materializeReportFilters_value {values : ReportFilters} (hnames : (report.filters.map (·.name)).Nodup)
    (h : materializeReportFilters report doctype input expression = .ok values) :
    ∀ filter ∈ report.filters, materializeReportFilter doctype input expression filter =
      .ok (values.value filter.name) :=
  (foldlM_materialize hnames h).1

/-- A filter other than the one that is set keeps its value. -/
theorem materializeReportFilter_set {filter : ReportFilterDefinition} {name : JsString} (hname : filter.name ≠ name)
    (value : Option ReportFilterValue) :
    materializeReportFilter doctype (Record.set input name value) expression filter =
      materializeReportFilter doctype input expression filter := by
  have hraw : rawFilterValue (Record.set input name value) filter = rawFilterValue input filter := by
    unfold rawFilterValue ReportFilters.value
    rw [Record.get_set, if_neg (Ne.symm hname)]
  unfold materializeReportFilter
  rw [hraw]

/-- Whether a filter may be left empty. -/
def MayBeEmpty (expression : Option ReportFilterExpression) (filter : ReportFilterDefinition) : Prop :=
  filter.required = true → (expression.map (reportFilterExpressionHasValue filter.name)).getD false = true

/-- What a filter set to a text is materialized to. -/
theorem materializeReportFilter_text {filter : ReportFilterDefinition} {type : FieldType}
    (htype : resolvedReportFilterType filter (doctype.field? filter.field) = some type)
    (hoperator : filter.operator.getD .eq = .eq) (text : JsString) :
    materializeReportFilter doctype (Record.set input filter.name (some (.str text))) expression filter =
      (coerceReportFilterValue (some (.str text)) (some type) filter.name .eq).bind fun value =>
        if filter.required ∧ (value = none ∨ value = some (.str [])) ∧
            (expression.map (reportFilterExpressionHasValue filter.name)).getD false = false then
          .error (reportFilterError filter.name (js " is required"))
        else .ok value := by
  have hraw : rawFilterValue (Record.set input filter.name (some (.str text))) filter = some (.str text) := by
    unfold rawFilterValue ReportFilters.value
    rw [Record.get_set, if_pos rfl]
    rfl
  unfold materializeReportFilter
  rw [hraw, htype, hoperator]
  rfl

end Materialize

/-! ## Buckets -/

/-- The buckets of rows: each holds the rows of its key, and every row has one. -/
structure BucketsOf (field : JsString) (rows : List ReportRow) (buckets : Record JsString ReportBucket) : Prop where
  key : ∀ text bucket, buckets.get text = some bucket → Json.stringify bucket.key = text
  selected : ∀ text bucket, buckets.get text = some bucket →
    bucket.rows = rows.filter (fun row => Json.stringify (reportGroupKey field row) = text)
  member : ∀ text bucket, buckets.get text = some bucket → ∃ row ∈ rows, reportGroupKey field row = bucket.key
  all : ∀ row ∈ rows, (buckets.get (Json.stringify (reportGroupKey field row))).isSome

theorem bucketsOf_nil (field : JsString) : BucketsOf field [] [] where
  key := fun _ _ h => by cases h
  selected := fun _ _ h => by cases h
  member := fun _ _ h => by cases h
  all := fun _ h => absurd h List.not_mem_nil

/-- The rows of one key. -/
def rowsOfKey (field : JsString) (rows : List ReportRow) (text : JsString) : List ReportRow :=
  rows.filter (fun row => Json.stringify (reportGroupKey field row) = text)

theorem rowsOfKey_append (field : JsString) (rows : List ReportRow) (row : ReportRow) (text : JsString) :
    rowsOfKey field (rows ++ [row]) text =
      rowsOfKey field rows text ++ if Json.stringify (reportGroupKey field row) = text then [row] else [] := by
  unfold rowsOfKey
  rw [List.filter_append]
  by_cases htext : Json.stringify (reportGroupKey field row) = text <;> simp [htext]

/-- What adding a row puts under its key. -/
theorem addToBucket_eq (h : BucketsOf field rows buckets) (row : ReportRow) :
    ∃ bucket, addToBucket field buckets row = Record.set buckets (Json.stringify (reportGroupKey field row)) bucket ∧
      Json.stringify bucket.key = Json.stringify (reportGroupKey field row) ∧
      bucket.rows = rowsOfKey field rows (Json.stringify (reportGroupKey field row)) ++ [row] ∧
      ∃ first ∈ rows ++ [row], reportGroupKey field first = bucket.key := by
  cases hfound : buckets.get (Json.stringify (reportGroupKey field row)) with
  | some existing =>
    obtain ⟨first, hfirst, hkey⟩ := h.member _ existing hfound
    refine ⟨{ existing with rows := existing.rows ++ [row] }, ?_, h.key _ existing hfound, ?_, first,
      List.mem_append_left _ hfirst, hkey⟩
    · simp only [addToBucket, hfound]
    · rw [h.selected _ existing hfound]
      rfl
  | none =>
    have hnone : rowsOfKey field rows (Json.stringify (reportGroupKey field row)) = [] := by
      unfold rowsOfKey
      rw [List.filter_eq_nil_iff]
      intro other hother hsame
      have hsome := h.all other hother
      rw [of_decide_eq_true hsame, hfound] at hsome
      exact absurd hsome (by decide)
    refine ⟨{ key := reportGroupKey field row, rows := [row] }, ?_, rfl, ?_, row,
      List.mem_append_right _ (List.mem_singleton_self row), rfl⟩
    · simp only [addToBucket, hfound]
    · rw [hnone]
      rfl

theorem BucketsOf.add (h : BucketsOf field rows buckets) (row : ReportRow) :
    BucketsOf field (rows ++ [row]) (addToBucket field buckets row) := by
  obtain ⟨added, hadd, hkey, hrows, hmember⟩ := addToBucket_eq h row
  -- only the bucket of the row changes
  rw [hadd]
  constructor
  · intro text bucket hget
    rw [Record.get_set] at hget
    split at hget
    · rename_i htext
      cases hget
      rw [hkey]
      exact htext
    · exact h.key text bucket hget
  · intro text bucket hget
    rw [Record.get_set] at hget
    change bucket.rows = rowsOfKey field (rows ++ [row]) text
    rw [rowsOfKey_append]
    split at hget
    · rename_i htext
      cases hget
      rw [if_pos htext, hrows, htext]
    · rename_i htext
      rw [if_neg htext, List.append_nil]
      exact h.selected text bucket hget
  · intro text bucket hget
    rw [Record.get_set] at hget
    split at hget
    · cases hget
      exact hmember
    · obtain ⟨first, hfirst, hsame⟩ := h.member text bucket hget
      exact ⟨first, List.mem_append_left _ hfirst, hsame⟩
  · intro other hother
    rw [Record.get_set]
    split
    · rfl
    · rename_i htext
      rcases List.mem_append.mp hother with hother | hother
      · exact h.all other hother
      · exact absurd (by rw [List.mem_singleton.mp hother]) htext

theorem nodup_keys_addToBucket (h : (Record.keys buckets).Nodup) (row : ReportRow) :
    (Record.keys (addToBucket field buckets row)).Nodup := by
  unfold addToBucket
  dsimp only
  split <;> exact Record.nodup_keys_set h _ _

/-- The buckets of all rows, by induction on the rows added. -/
theorem bucketsOf_foldl (field : JsString) (rows : List ReportRow) :
    BucketsOf field rows (rows.foldl (addToBucket field) []) ∧
      (Record.keys (rows.foldl (addToBucket field) [])).Nodup := by
  induction rows using List.reverseRecOn with
  | nil => exact ⟨bucketsOf_nil field, List.nodup_nil⟩
  | append_singleton rows row ih =>
    rw [List.foldl_append]
    exact ⟨ih.1.add row, nodup_keys_addToBucket ih.2 row⟩

/-- **A bucket holds the rows of its key**, and there is one. -/
theorem rows_of_mem_sortedBuckets {localeCompare : JsString → JsString → Ordering} {bucket : ReportBucket}
    (h : bucket ∈ sortedBuckets localeCompare rows field) :
    bucket.rows = rowsOfKey field rows (Json.stringify bucket.key) ∧
      ∃ row ∈ rows, reportGroupKey field row = bucket.key := by
  obtain ⟨hbuckets, hnodup⟩ := bucketsOf_foldl field rows
  rw [sortedBuckets, List.mem_mergeSort] at h
  obtain ⟨⟨text, found⟩, hmem, rfl⟩ := List.mem_map.mp h
  have hget := Record.get_of_mem hnodup hmem
  refine ⟨?_, hbuckets.member text found hget⟩
  rw [hbuckets.key text found hget]
  exact hbuckets.selected text found hget

/-! ## Chart points -/

/-- The query's value for the drilldown's filter, as `URLSearchParams.get` finds it. -/
def ReportChartDrilldown.queryValue (drilldown : ReportChartDrilldown) : JsString :=
  ((drilldown.query.find? (fun param => param.1 = toUsvString (js "filter_" ++ drilldown.filter))).map
    Prod.snd).getD []

section Charts

variable {localeCompare : JsString → JsString → Ordering}

/-- A point with a drilldown shows a row of a group that has an exact filter. -/
theorem drilldown_of_mem_points {groups : List ReportGroupResult} {charts : List ReportChartDefinition}
    {filters : List ReportFilterDefinition} {result : ReportChartResult}
    (hresult : result ∈ buildReportCharts localeCompare groups charts filters) {point : ReportChartPoint}
    (hpoint : point ∈ result.points) {drilldown : ReportChartDrilldown} (h : point.drilldown = some drilldown) :
    ∃ group ∈ groups, ∃ row ∈ group.rows, ∃ filter,
      exactDrilldownFilterForGroup filters group = some filter ∧ point.key = row.key ∧
        reportChartDrilldown filter row.key = some drilldown := by
  obtain ⟨chart, -, rfl⟩ := List.mem_map.mp hresult
  unfold buildReportChart at hpoint
  have hall : point ∈ (((groups.find? (fun item => item.name = chart.group)).map (·.rows)).getD []).map
      (reportChartPoint chart.summary
        ((groups.find? (fun item => item.name = chart.group)).bind (exactDrilldownFilterForGroup filters))) := by
    have hsorted : point ∈ sortReportChartPoints localeCompare
        ((((groups.find? (fun item => item.name = chart.group)).map (·.rows)).getD []).map
          (reportChartPoint chart.summary
            ((groups.find? (fun item => item.name = chart.group)).bind (exactDrilldownFilterForGroup filters))))
        (chart.orderBy.getD .key) (chart.order.getD .asc) := by
      cases hmax : chart.maxPoints with
      | none =>
        rw [hmax] at hpoint
        exact hpoint
      | some maxPoints =>
        rw [hmax] at hpoint
        exact List.mem_of_mem_take hpoint
    rw [sortReportChartPoints, List.mem_mergeSort] at hsorted
    exact hsorted
  cases hgroup : groups.find? (fun item => item.name = chart.group) with
  | none =>
    rw [hgroup] at hall
    exact absurd hall List.not_mem_nil
  | some group =>
    rw [hgroup] at hall
    obtain ⟨row, hrow, rfl⟩ := List.mem_map.mp hall
    refine ⟨group, List.mem_of_find?_eq_some hgroup, row, hrow, ?_⟩
    obtain ⟨filter, hfilter, hdrilldown⟩ := Option.bind_eq_some_iff.mp h
    exact ⟨filter, hfilter, rfl, hdrilldown⟩

/-- A row of a group stands for a bucket. -/
theorem bucket_of_mem_groups {definitions : List ReportGroupDefinition} {groups : List ReportGroupResult}
    (h : buildReportGroups localeCompare rows definitions = .ok groups) {group : ReportGroupResult}
    (hgroup : group ∈ groups) {row : ReportGroupRow} (hrow : row ∈ group.rows) :
    ∃ bucket ∈ sortedBuckets localeCompare rows group.field, row.key = bucket.key := by
  obtain ⟨definition, -, hbuild⟩ := mem_of_mapM_eq_ok h hgroup
  obtain ⟨groupRows, hgroupRows, hresult⟩ := except_bind_eq_ok hbuild
  cases hresult
  obtain ⟨bucket, hbucket, hgroupRow⟩ := mem_of_mapM_eq_ok hgroupRows hrow
  obtain ⟨summaries, -, hresult⟩ := except_bind_eq_ok hgroupRow
  cases hresult
  exact ⟨bucket, hbucket, rfl⟩

/-- What a drilldown carries. -/
theorem reportChartDrilldown_eq {filter : ReportFilterDefinition} {drilldown : ReportChartDrilldown}
    (h : reportChartDrilldown filter key = some drilldown) :
    key ≠ .null ∧ drilldown.filter = filter.name ∧ drilldown.queryValue = toUsvString key.toText := by
  unfold reportChartDrilldown at h
  split at h
  · cases h
  · rename_i hkey
    cases h
    refine ⟨hkey, rfl, ?_⟩
    simp [ReportChartDrilldown.queryValue]

end Charts

/-! ## Selecting a bucket -/

section Selects

variable (localeCompare : JsString → JsString → Ordering) (canonicalize : UInt16 → UInt16)
  (report : ReportDefinition) (doctype : DocTypeDefinition) (expression : Option ReportFilterExpression)
  (documents : List DocumentSnapshot)

/-- The documents that a run shows. -/
def selectedDocuments (filters : ReportFilters) : List DocumentSnapshot :=
  documents.filter (fun document =>
    matchesReportFilters localeCompare canonicalize document report filters expression)

/-- The documents of a key's bucket. -/
def bucketDocuments (field : JsString) (key : Json) (selected : List DocumentSnapshot) : List DocumentSnapshot :=
  selected.filter (fun document => Json.stringify (reportGroupKey field document.data) = Json.stringify key)

/-- The filters of a run that follows a drilldown. -/
def drilldownInput (input : ReportFilters) (drilldown : ReportChartDrilldown) : ReportFilters :=
  Record.set input drilldown.filter (some (.str drilldown.queryValue))

/-- Following the drilldown of a point shows the documents of its bucket. -/
def DrilldownSelects (input filters : ReportFilters) (field : JsString) (point : ReportChartPoint)
    (drilldown : ReportChartDrilldown) : Prop :=
  ∃ filters', materializeReportFilters report doctype (drilldownInput input drilldown) expression = .ok filters' ∧
    selectedDocuments localeCompare canonicalize report expression documents filters' =
      bucketDocuments field point.key
        (selectedDocuments localeCompare canonicalize report expression documents filters)

/-- The point's key is kept by the query and is a filter; an empty text is none, which shows all documents of the
original run. -/
def DrilldownExact (filters : ReportFilters) (filter : ReportFilterDefinition) (key : Json) : Prop :=
  WellFormed key.toText ∧
    (key = .str [] →
      (∀ document ∈ selectedDocuments localeCompare canonicalize report expression documents filters,
        document.data.get filter.field = some (.str [])) ∧
      MayBeEmpty expression filter)

variable {localeCompare canonicalize report doctype expression documents}

/-- What the filters other than one ask of a document, with the expression. -/
def MatchesOthers (localeCompare : JsString → JsString → Ordering) (canonicalize : UInt16 → UInt16)
    (report : ReportDefinition) (expression : Option ReportFilterExpression) (filter : ReportFilterDefinition)
    (filters : ReportFilters) (document : DocumentSnapshot) : Prop :=
  (∀ other ∈ report.filters, other ≠ filter →
      matchesFilter localeCompare canonicalize document.data filters other = true) ∧
    matchesReportFilterExpression localeCompare canonicalize document.data report expression = true

theorem matchesReportFilters_iff {filter : ReportFilterDefinition} (hfilter : filter ∈ report.filters)
    (filters : ReportFilters) (document : DocumentSnapshot) :
    matchesReportFilters localeCompare canonicalize document report filters expression = true ↔
      matchesFilter localeCompare canonicalize document.data filters filter = true ∧
        MatchesOthers localeCompare canonicalize report expression filter filters document := by
  unfold matchesReportFilters matchesReportRowFilters MatchesOthers
  rw [Bool.and_eq_true, List.all_eq_true]
  constructor
  · rintro ⟨hall, hexpression⟩
    exact ⟨hall filter hfilter, fun other hother _ => hall other hother, hexpression⟩
  · rintro ⟨hthis, hothers, hexpression⟩
    refine ⟨fun other hother => ?_, hexpression⟩
    by_cases hsame : other = filter
    · rw [hsame]
      exact hthis
    · exact hothers other hother hsame

/-- The others ask the same when their values are the same. -/
theorem matchesOthers_congr {filter : ReportFilterDefinition} {filters filters' : ReportFilters}
    (h : ∀ other ∈ report.filters, other ≠ filter → filters'.value other.name = filters.value other.name)
    (document : DocumentSnapshot) :
    MatchesOthers localeCompare canonicalize report expression filter filters' document ↔
      MatchesOthers localeCompare canonicalize report expression filter filters document := by
  unfold MatchesOthers
  apply and_congr_left'
  apply forall₃_congr
  intro other hother hne
  unfold matchesFilter
  rw [h other hother hne]

/-- What an exact filter asks. -/
theorem matchesFilter_eq {filter : ReportFilterDefinition} (hoperator : filter.operator.getD .eq = .eq)
    {filters : ReportFilters} :
    matchesFilter localeCompare canonicalize row filters filter = true ↔
      isEmptyReportFilterValue (filters.value filter.name) = true ∨ row.get filter.field = filters.value filter.name := by
  unfold matchesFilter
  cases hvalue : filters.value filter.name with
  | none => simp [isEmptyReportFilterValue]
  | some expected => simp [matchesReportFilterValue, hoperator]

/-- A run with one filter set: the others keep their values. -/
theorem materialize_set {input filters : ReportFilters} {filter : ReportFilterDefinition}
    (hnames : (report.filters.map (·.name)).Nodup) (hfilter : filter ∈ report.filters)
    (hfilters : materializeReportFilters report doctype input expression = .ok filters)
    {raw value : Option ReportFilterValue}
    (hvalue : materializeReportFilter doctype (Record.set input filter.name raw) expression filter = .ok value) :
    ∃ filters', materializeReportFilters report doctype (Record.set input filter.name raw) expression = .ok filters' ∧
      filters'.value filter.name = value ∧
      ∀ other ∈ report.filters, other ≠ filter → filters'.value other.name = filters.value other.name := by
  have hsame : ∀ other ∈ report.filters, other ≠ filter →
      materializeReportFilter doctype (Record.set input filter.name raw) expression other =
        .ok (filters.value other.name) := by
    intro other hother hne
    have hname : other.name ≠ filter.name := fun h => hne (List.inj_on_of_nodup_map hnames hother hfilter h)
    rw [materializeReportFilter_set hname]
    exact materializeReportFilters_value hnames hfilters other hother
  have hall : ∀ other ∈ report.filters, ∃ value,
      materializeReportFilter doctype (Record.set input filter.name raw) expression other = .ok value := by
    intro other hother
    by_cases hother' : other = filter
    · rw [hother']
      exact ⟨value, hvalue⟩
    · exact ⟨_, hsame other hother hother'⟩
  obtain ⟨filters', hok⟩ : ∃ filters', materializeReportFilters report doctype
      (Record.set input filter.name raw) expression = .ok filters' := foldlM_materialize_ok hall
  have hvalues := materializeReportFilters_value hnames hok
  refine ⟨filters', hok, ?_, fun other hother hne => ?_⟩
  · have hthis := hvalues filter hfilter
    rw [hvalue] at hthis
    exact (Except.ok.inj hthis).symm
  · have hthis := hvalues other hother
    rw [hsame other hother hne] at hthis
    exact (Except.ok.inj hthis).symm

theorem materializeReportFilter_of_ok {input filters : ReportFilters} {filter : ReportFilterDefinition}
    (hnames : (report.filters.map (·.name)).Nodup) (hfilter : filter ∈ report.filters)
    (h : materializeReportFilters report doctype input expression = .ok filters) :
    ∃ value, materializeReportFilter doctype input expression filter = .ok value :=
  ⟨_, materializeReportFilters_value hnames h filter hfilter⟩

theorem mem_bucketDocuments {selected : List DocumentSnapshot} {document : DocumentSnapshot} :
    document ∈ bucketDocuments field key selected ↔
      document ∈ selected ∧ Json.stringify (reportGroupKey field document.data) = Json.stringify key := by
  unfold bucketDocuments
  rw [List.mem_filter, decide_eq_true_eq]

theorem mem_selectedDocuments {filters : ReportFilters} {document : DocumentSnapshot} :
    document ∈ selectedDocuments localeCompare canonicalize report expression documents filters ↔
      document ∈ documents ∧
        matchesReportFilters localeCompare canonicalize document report filters expression = true := by
  unfold selectedDocuments
  rw [List.mem_filter]

/-- A second run shows a bucket of the first when the same documents pass. -/
theorem selectedDocuments_eq_bucket {filters filters' : ReportFilters}
    (h : ∀ document ∈ documents,
      (matchesReportFilters localeCompare canonicalize document report filters' expression = true ↔
        matchesReportFilters localeCompare canonicalize document report filters expression = true ∧
          Json.stringify (reportGroupKey field document.data) = Json.stringify key)) :
    selectedDocuments localeCompare canonicalize report expression documents filters' =
      bucketDocuments field key
        (selectedDocuments localeCompare canonicalize report expression documents filters) := by
  unfold selectedDocuments bucketDocuments
  rw [List.filter_filter]
  apply List.filter_congr
  intro document hdocument
  rw [Bool.eq_iff_iff, h document hdocument, Bool.and_eq_true, decide_eq_true_eq]
  exact and_comm

section Exact

variable {input filters : ReportFilters} {filter : ReportFilterDefinition} {type : FieldType}
  {point : ReportChartPoint} {drilldown : ReportChartDrilldown} {counted : DocumentSnapshot}

/-- A row belongs to the bucket of a key when it has the key. -/
theorem stringify_reportGroupKey_iff (hrow : FieldValueOrMissing type (row.get field)) (hkey : key.IsPrimitiveValue)
    (hnull : key ≠ .null) :
    Json.stringify (reportGroupKey field row) = Json.stringify key ↔ row.get field = some key := by
  rw [← reportGroupKey_eq_iff hrow hnull]
  constructor
  · exact Json.stringify_injective (isPrimitiveValue_reportGroupKey hrow) hkey
  · intro h
    rw [h]

/-- The second run differs from the first one in the filter of the drilldown only. -/
theorem drilldownSelects_iff_selected {value : Option ReportFilterValue} (hnames : (report.filters.map (·.name)).Nodup)
    (hfilter : filter ∈ report.filters) (hfilters : materializeReportFilters report doctype input expression = .ok filters)
    (hname : drilldown.filter = filter.name)
    (hset : materializeReportFilter doctype (drilldownInput input drilldown) expression filter = .ok value) :
    ∃ filters' : ReportFilters, filters'.value filter.name = value ∧
      (∀ other ∈ report.filters, other ≠ filter → filters'.value other.name = filters.value other.name) ∧
      (DrilldownSelects localeCompare canonicalize report doctype expression documents input filters filter.field point
          drilldown ↔
        selectedDocuments localeCompare canonicalize report expression documents filters' =
          bucketDocuments filter.field point.key
            (selectedDocuments localeCompare canonicalize report expression documents filters)) := by
  unfold DrilldownSelects
  unfold drilldownInput at hset ⊢
  rw [hname] at hset ⊢
  obtain ⟨filters', hok, hthis, hothers⟩ := materialize_set hnames hfilter hfilters hset
  refine ⟨filters', hthis, hothers, ?_⟩
  constructor
  · rintro ⟨filters'', hok', hselected⟩
    obtain rfl := Except.ok.inj (hok.symm.trans hok')
    exact hselected
  · exact fun h => ⟨filters', hok, h⟩

/-- A key that is no empty text: the second run asks for the value that the text is coerced to. -/
theorem drilldownSelects_filled_iff (hnames : (report.filters.map (·.name)).Nodup) (hfilter : filter ∈ report.filters)
    (hoperator : filter.operator.getD .eq = .eq)
    (htype : resolvedReportFilterType filter (doctype.field? filter.field) = some type) (hkind : DrilldownType type)
    (hvalues : ∀ document ∈ documents, FieldValueOrMissing type (document.data.get filter.field))
    (hfilters : materializeReportFilters report doctype input expression = .ok filters)
    (hname : drilldown.filter = filter.name) (hquery : drilldown.queryValue = toUsvString point.key.toText)
    (hnull : point.key ≠ .null) (hempty : point.key ≠ .str [])
    (hcounted : counted ∈ selectedDocuments localeCompare canonicalize report expression documents filters)
    (hkey : counted.data.get filter.field = some point.key) :
    DrilldownSelects localeCompare canonicalize report doctype expression documents input filters filter.field point
      drilldown ↔ WellFormed point.key.toText := by
  obtain ⟨hcountedIn, hcountedMatches⟩ := mem_selectedDocuments.mp hcounted
  have hkeyRow := hvalues counted hcountedIn
  have hkeyValue := hkeyRow
  rw [hkey] at hkeyValue
  obtain ⟨value, hcoerced, hvalueNull, hvalueEmpty, hvalue⟩ :=
    coerceReportFilterValue_toText hkind hkeyValue hnull hempty filter.name
  have hset : materializeReportFilter doctype (drilldownInput input drilldown) expression filter = .ok (some value) := by
    unfold drilldownInput
    rw [hname, hquery, materializeReportFilter_text htype hoperator, hcoerced]
    have hpresent : ¬ (filter.required ∧ (some value = none ∨ some value = some (.str [])) ∧
        (expression.map (reportFilterExpressionHasValue filter.name)).getD false = false) := by
      rintro ⟨-, hnone | htext, -⟩
      · cases hnone
      · exact hvalueEmpty (Option.some.inj htext)
    simp only [Except.bind, if_neg hpresent]
  have hprimitive : point.key.IsPrimitiveValue := by
    rw [← (reportGroupKey_eq_iff hkeyRow hnull).mpr hkey]
    exact isPrimitiveValue_reportGroupKey hkeyRow
  obtain ⟨filters', hthis, hothers, hselects⟩ := drilldownSelects_iff_selected hnames hfilter hfilters hname hset
  rw [hselects]
  have hnotEmpty : isEmptyReportFilterValue (filters'.value filter.name) = false := by
    rw [hthis]
    simp [isEmptyReportFilterValue, hvalueNull, hvalueEmpty]
  -- what the second run asks of a document
  have hsecond : ∀ document, matchesReportFilters localeCompare canonicalize document report filters' expression = true ↔
      document.data.get filter.field = some value ∧
        MatchesOthers localeCompare canonicalize report expression filter filters document := by
    intro document
    rw [matchesReportFilters_iff hfilter, matchesFilter_eq hoperator, hnotEmpty, matchesOthers_congr hothers, hthis]
    simp
  constructor
  · intro hselected
    -- the document that was counted is among those selected
    have hbucket : counted ∈ bucketDocuments filter.field point.key
        (selectedDocuments localeCompare canonicalize report expression documents filters) := by
      rw [mem_bucketDocuments, (reportGroupKey_eq_iff hkeyRow hnull).mpr hkey]
      exact ⟨hcounted, rfl⟩
    rw [← hselected, mem_selectedDocuments, hsecond, hkey] at hbucket
    exact hvalue.mp (Option.some.inj hbucket.2.1).symm
  · intro hwell
    obtain rfl := hvalue.mpr hwell
    apply selectedDocuments_eq_bucket
    intro document hdocument
    have hbucketKey := stringify_reportGroupKey_iff (hvalues document hdocument) hprimitive hnull
    -- the first run let a document with this value pass
    have hfirst := (matchesReportFilters_iff hfilter filters counted).mp hcountedMatches
    rw [matchesFilter_eq hoperator, hkey] at hfirst
    rw [hsecond, matchesReportFilters_iff hfilter, hbucketKey, matchesFilter_eq hoperator]
    constructor
    · rintro ⟨hget, hrest⟩
      rw [hget]
      exact ⟨⟨hfirst.1, hrest⟩, rfl⟩
    · rintro ⟨⟨-, hrest⟩, hget⟩
      exact ⟨hget, hrest⟩

/-- An empty text is no filter: the second run shows every document that the others let pass. -/
theorem drilldownSelects_empty_iff (hnames : (report.filters.map (·.name)).Nodup) (hfilter : filter ∈ report.filters)
    (hoperator : filter.operator.getD .eq = .eq)
    (htype : resolvedReportFilterType filter (doctype.field? filter.field) = some type)
    (hvalues : ∀ document ∈ documents, FieldValueOrMissing type (document.data.get filter.field))
    (hfilters : materializeReportFilters report doctype input expression = .ok filters)
    (hname : drilldown.filter = filter.name) (hquery : drilldown.queryValue = toUsvString point.key.toText)
    (hempty : point.key = .str [])
    (hcounted : counted ∈ selectedDocuments localeCompare canonicalize report expression documents filters)
    (hkey : counted.data.get filter.field = some point.key) :
    DrilldownSelects localeCompare canonicalize report doctype expression documents input filters filter.field point
        drilldown ↔
      (∀ document ∈ selectedDocuments localeCompare canonicalize report expression documents filters,
        document.data.get filter.field = some (.str [])) ∧ MayBeEmpty expression filter := by
  obtain ⟨hcountedIn, hcountedMatches⟩ := mem_selectedDocuments.mp hcounted
  have hnull : point.key ≠ .null := by
    rw [hempty]
    exact fun h => by cases h
  rw [hempty] at hquery
  have hset : materializeReportFilter doctype (drilldownInput input drilldown) expression filter =
      if filter.required ∧ (expression.map (reportFilterExpressionHasValue filter.name)).getD false = false then
        .error (reportFilterError filter.name (js " is required"))
      else .ok (some (.str [])) := by
    have htext : toUsvString (Json.str []).toText = [] := rfl
    unfold drilldownInput
    rw [hname, hquery, htext, materializeReportFilter_text htype hoperator]
    simp [coerceReportFilterValue, Except.bind]
  -- the first run asks nothing of this filter either, since it counted an empty text
  have hfirst : isEmptyReportFilterValue (filters.value filter.name) = true := by
    have hthis := ((matchesReportFilters_iff hfilter filters counted).mp hcountedMatches).1
    rw [matchesFilter_eq hoperator, hkey, hempty] at hthis
    rcases hthis with hthis | hthis
    · exact hthis
    · rw [← hthis]
      rfl
  by_cases hrequired : filter.required ∧
      (expression.map (reportFilterExpressionHasValue filter.name)).getD false = false
  · -- the second run is refused
    rw [if_pos hrequired] at hset
    constructor
    · rintro ⟨filters', hok, -⟩
      obtain ⟨value, hvalue⟩ := materializeReportFilter_of_ok hnames hfilter hok
      rw [hset] at hvalue
      cases hvalue
    · rintro ⟨-, hmay⟩
      rw [hmay hrequired.1] at hrequired
      exact absurd hrequired.2 (by decide)
  · rw [if_neg hrequired] at hset
    have hmay : MayBeEmpty expression filter := by
      intro hreq
      by_contra hnone
      exact hrequired ⟨hreq, by simpa using hnone⟩
    obtain ⟨filters', hthis, hothers, hselects⟩ := drilldownSelects_iff_selected hnames hfilter hfilters hname hset
    rw [hselects]
    -- the second run lets pass what the first one does: an empty text is no filter
    have hsecond : ∀ document,
        matchesReportFilters localeCompare canonicalize document report filters' expression = true ↔
          matchesReportFilters localeCompare canonicalize document report filters expression = true := by
      intro document
      have hnone : isEmptyReportFilterValue (filters'.value filter.name) = true := by
        rw [hthis]
        rfl
      rw [matchesReportFilters_iff hfilter, matchesReportFilters_iff hfilter, matchesFilter_eq hoperator,
        matchesFilter_eq hoperator, hnone, hfirst, matchesOthers_congr hothers]
      simp
    have hbucketKey : ∀ document ∈ documents,
        (Json.stringify (reportGroupKey filter.field document.data) = Json.stringify point.key ↔
          document.data.get filter.field = some (.str [])) := by
      intro document hdocument
      rw [← hempty]
      exact stringify_reportGroupKey_iff (hvalues document hdocument) (by rw [hempty]; trivial) hnull
    constructor
    · intro hselected
      refine ⟨fun document hdocument => ?_, hmay⟩
      have hin := (mem_selectedDocuments.mp hdocument).1
      have hboth : document ∈
          selectedDocuments localeCompare canonicalize report expression documents filters' := by
        rw [mem_selectedDocuments, hsecond]
        exact mem_selectedDocuments.mp hdocument
      rw [hselected, mem_bucketDocuments, hbucketKey document hin] at hboth
      exact hboth.2
    · rintro ⟨hall, -⟩
      apply selectedDocuments_eq_bucket
      intro document hdocument
      rw [hsecond, hbucketKey document hdocument]
      constructor
      · exact fun h => ⟨h, hall document (mem_selectedDocuments.mpr ⟨hdocument, h⟩)⟩
      · exact fun h => h.1

end Exact

/-- **A drilldown shows its bucket exactly when** the query keeps the key's text and the text is not empty, or
every document of the run has the empty text. -/
theorem drilldown_selects_iff {input filters : ReportFilters} {groups : List ReportGroupResult}
    {result : ReportChartResult} {point : ReportChartPoint} {drilldown : ReportChartDrilldown}
    {filter : ReportFilterDefinition} {type : FieldType} (hnames : (report.filters.map (·.name)).Nodup)
    (hfilters : materializeReportFilters report doctype input expression = .ok filters)
    (hgroups : buildReportGroups localeCompare
      ((selectedDocuments localeCompare canonicalize report expression documents filters).map (·.data))
      report.groups = .ok groups)
    (hresult : result ∈ buildReportCharts localeCompare groups report.charts report.filters)
    (hpoint : point ∈ result.points) (hdrilldown : point.drilldown = some drilldown)
    (hfilter : filter ∈ report.filters) (hname : filter.name = drilldown.filter)
    (htype : resolvedReportFilterType filter (doctype.field? filter.field) = some type) (hkind : DrilldownType type)
    (hvalues : ∀ document ∈ documents, FieldValueOrMissing type (document.data.get filter.field)) :
    (∃ bucket ∈ sortedBuckets localeCompare
        ((selectedDocuments localeCompare canonicalize report expression documents filters).map (·.data)) filter.field,
      bucket.key = point.key ∧
        bucket.rows = (bucketDocuments filter.field point.key
          (selectedDocuments localeCompare canonicalize report expression documents filters)).map (·.data)) ∧
    (DrilldownSelects localeCompare canonicalize report doctype expression documents input filters filter.field point
        drilldown ↔
      DrilldownExact localeCompare canonicalize report expression documents filters filter point.key) := by
  obtain ⟨group, hgroup, row, hrow, found, hfound, hpointKey, hcarried⟩ :=
    drilldown_of_mem_points hresult hpoint hdrilldown
  obtain ⟨hnull, hfoundName, hquery⟩ := reportChartDrilldown_eq hcarried
  obtain ⟨bucket, hbucket, hbucketKey⟩ := bucket_of_mem_groups hgroups hgroup hrow
  -- the drilldown's filter is the exact filter on the group's field
  have hfoundMem := List.mem_of_find?_eq_some hfound
  have hsame : found = filter := List.inj_on_of_nodup_map hnames hfoundMem hfilter (by rw [← hfoundName, hname])
  subst hsame
  have hexact := List.find?_some hfound
  rw [decide_eq_true_eq] at hexact
  obtain ⟨hfield, hoperator⟩ := hexact
  rw [← hpointKey] at hbucketKey hnull hquery
  rw [← hfield] at hbucket
  obtain ⟨hrows, first, hfirst, hfirstKey⟩ := rows_of_mem_sortedBuckets hbucket
  rw [← hbucketKey] at hrows hfirstKey
  refine ⟨⟨bucket, hbucket, hbucketKey.symm, ?_⟩, ?_⟩
  · rw [hrows]
    unfold rowsOfKey bucketDocuments
    rw [List.filter_map]
    rfl
  -- a document that was counted
  obtain ⟨counted, hcounted, rfl⟩ := List.mem_map.mp hfirst
  have hcountedIn := (mem_selectedDocuments.mp hcounted).1
  have hkey := (reportGroupKey_eq_iff (hvalues counted hcountedIn) hnull).mp hfirstKey
  unfold DrilldownExact
  by_cases hempty : point.key = .str []
  · have hwell : WellFormed point.key.toText := by
      rw [hempty]
      decide
    rw [drilldownSelects_empty_iff hnames hfilter hoperator htype hvalues hfilters hname.symm hquery hempty hcounted
      hkey]
    exact ⟨fun h => ⟨hwell, fun _ => h⟩, fun h => h.2 hempty⟩
  · rw [drilldownSelects_filled_iff hnames hfilter hoperator htype hkind hvalues hfilters hname.symm hquery hnull
      hempty hcounted hkey]
    exact ⟨fun h => ⟨h, fun hkey => absurd hkey hempty⟩, fun h => h.1⟩

/-! A board of two tasks, one of them with an empty status. -/

def boardDocType : DocTypeDefinition := { name := js "Task", fields := [{ name := js "status", type := .text }] }

def boardFilter : ReportFilterDefinition := { name := js "status", field := js "status" }

def boardReport : ReportDefinition where
  name := js "Board"
  doctype := js "Task"
  columns := [{ name := js "status" }]
  filters := [boardFilter]
  groups := [{ name := js "by-status", field := js "status",
               summaries := [{ name := js "tasks", aggregate := .count }] }]
  charts := [{ name := js "statuses", group := js "by-status", summary := js "tasks" }]

def boardTask (name status : JsString) : DocumentSnapshot where
  tenantId := js "acme"
  doctype := js "Task"
  name := name
  version := 1
  docstatus := .draft
  data := [(js "status", .str status)]
  createdAt := js "2024-01-01T00:00:00.000Z"
  updatedAt := js "2024-01-01T00:00:00.000Z"

def boardTasks : List DocumentSnapshot := [boardTask (js "T-1") [], boardTask (js "T-2") (js "Open")]

def boardGroup : ReportGroupResult where
  name := js "by-status"
  field := js "status"
  rows := [
    { key := .str [], label := [], summaries := [{ name := js "tasks", value := .num 1 }] },
    { key := .str (js "Open"), label := js "Open", summaries := [{ name := js "tasks", value := .num 1 }] }]

def boardPoint (status : JsString) : ReportChartPoint where
  key := .str status
  label := status
  value := some 1
  drilldown := some { filter := js "status", value := .str status, query := [(js "filter_status", status)] }

def boardChart : ReportChartResult where
  name := js "statuses"
  points := [boardPoint [], boardPoint (js "Open")]

/-- The tasks' buckets, in the order of their keys. -/
theorem sortedBuckets_board : sortedBuckets compareCodeUnits
    ((selectedDocuments compareCodeUnits id boardReport none boardTasks [(js "status", none)]).map (·.data))
    (js "status") =
      [⟨.str [], [[(js "status", .str [])]]⟩, ⟨.str (js "Open"), [[(js "status", .str (js "Open"))]]⟩] := by
  have hbuckets : ((((selectedDocuments compareCodeUnits id boardReport none boardTasks
      [(js "status", none)]).map (·.data)).foldl (addToBucket (js "status")) []).map Prod.snd) =
      [⟨.str [], [[(js "status", .str [])]]⟩, ⟨.str (js "Open"), [[(js "status", .str (js "Open"))]]⟩] := by
    decide +kernel
  unfold sortedBuckets
  rw [hbuckets]
  apply List.mergeSort_of_pairwise
  decide +kernel

theorem buildReportGroups_board : buildReportGroups compareCodeUnits
    ((selectedDocuments compareCodeUnits id boardReport none boardTasks [(js "status", none)]).map (·.data))
    boardReport.groups = .ok [boardGroup] := by
  have hgroup : buildReportGroup compareCodeUnits
      ((selectedDocuments compareCodeUnits id boardReport none boardTasks [(js "status", none)]).map (·.data))
      { name := js "by-status", field := js "status",
        summaries := [{ name := js "tasks", aggregate := .count }] } = .ok boardGroup := by
    unfold buildReportGroup
    rw [sortedBuckets_board]
    decide +kernel
  unfold buildReportGroups
  change ([_].mapM _ : Except _ _) = _
  rw [List.mapM_cons, hgroup]
  rfl

theorem buildReportCharts_board :
    buildReportCharts compareCodeUnits [boardGroup] boardReport.charts boardReport.filters = [boardChart] := by
  have hpoints : sortReportChartPoints compareCodeUnits [boardPoint [], boardPoint (js "Open")] .key .asc =
      [boardPoint [], boardPoint (js "Open")] := by
    apply List.mergeSort_of_pairwise
    decide +kernel
  have hchart : buildReportChart compareCodeUnits [boardGroup] boardReport.filters
      { name := js "statuses", group := js "by-status", summary := js "tasks" } =
        { name := js "statuses"
          points := sortReportChartPoints compareCodeUnits [boardPoint [], boardPoint (js "Open")] .key .asc } := by
    rfl
  unfold buildReportCharts
  change [buildReportChart compareCodeUnits [boardGroup] boardReport.filters _] = _
  rw [hchart, hpoints]
  rfl

theorem materializeReportFilters_board :
    materializeReportFilters boardReport boardDocType [] none = .ok [(js "status", none)] := by
  decide +kernel

/-- The drilldown of the tasks in status "Open" shows them. -/
theorem drilldown_selects_open :
    DrilldownSelects compareCodeUnits id boardReport boardDocType none boardTasks [] [(js "status", none)]
      (js "status") (boardPoint (js "Open"))
      { filter := js "status", value := .str (js "Open"), query := [(js "filter_status", js "Open")] } := by
  have hnotEmpty : Json.str (js "Open") ≠ .str [] := by decide +kernel
  have hexact : DrilldownExact compareCodeUnits id boardReport none boardTasks [(js "status", none)] boardFilter
      (.str (js "Open")) := ⟨by decide +kernel, fun hempty => absurd hempty hnotEmpty⟩
  have hvalues : ∀ document ∈ boardTasks, FieldValueOrMissing .text (document.data.get boardFilter.field) := by
    intro document hdocument
    simp only [boardTasks, List.mem_cons, List.not_mem_nil, or_false] at hdocument
    rcases hdocument with rfl | rfl <;> exact .inl rfl
  have hresult : boardChart ∈ buildReportCharts compareCodeUnits [boardGroup] boardReport.charts
      boardReport.filters := by
    rw [buildReportCharts_board]
    exact List.mem_singleton_self _
  exact (drilldown_selects_iff (by decide +kernel) materializeReportFilters_board buildReportGroups_board hresult
    (List.mem_cons_of_mem _ List.mem_cons_self) rfl List.mem_cons_self rfl rfl (.inl rfl) hvalues).2.mpr hexact

/-- The drilldown of the task with the empty status shows both tasks. -/
theorem drilldown_empty_selects_all :
    (materializeReportFilters boardReport boardDocType [] none = .ok [(js "status", none)] ∧
      buildReportGroups compareCodeUnits
        ((selectedDocuments compareCodeUnits id boardReport none boardTasks [(js "status", none)]).map (·.data))
        boardReport.groups = .ok [boardGroup] ∧
      boardChart ∈ buildReportCharts compareCodeUnits [boardGroup] boardReport.charts boardReport.filters ∧
      boardPoint [] ∈ boardChart.points) ∧
    ∃ drilldown, (boardPoint []).drilldown = some drilldown ∧
      ¬ DrilldownSelects compareCodeUnits id boardReport boardDocType none boardTasks [] [(js "status", none)]
        (js "status") (boardPoint []) drilldown := by
  have hresult : boardChart ∈ buildReportCharts compareCodeUnits [boardGroup] boardReport.charts
      boardReport.filters := by
    rw [buildReportCharts_board]
    exact List.mem_singleton_self _
  refine ⟨⟨materializeReportFilters_board, buildReportGroups_board, hresult, List.mem_cons_self⟩, _, rfl, ?_⟩
  rintro ⟨filters', hfilters', hselected⟩
  have hsecond : materializeReportFilters boardReport boardDocType
      (drilldownInput [] { filter := js "status", value := .str [], query := [(js "filter_status", [])] }) none =
        .ok [(js "status", some (.str []))] := by
    decide +kernel
  obtain rfl : filters' = [(js "status", some (.str []))] := by
    rw [hsecond] at hfilters'
    exact (Except.ok.inj hfilters').symm
  revert hselected
  decide +kernel

end Selects
