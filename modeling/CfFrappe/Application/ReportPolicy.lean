import CfFrappe.Core.JsonText
import CfFrappe.Core.Predicates
import CfFrappe.Core.Reports

set_option autoImplicit false

/-! # Report filters, groups and charts

How a report run turns the filters of a request into typed values (`materializeReportFilters`), which
documents they select (`matchesReportFilters`), how the selected documents fall into groups and what a
chart shows of them. A chart point carries the query that filters for its group.
-/

open Utf

/-- The filters of a request, or their values; a missing value is `undefined`. -/
abbrev ReportFilters := Record JsString (Option ReportFilterValue)

/-- `filters[name]`. -/
def ReportFilters.value (filters : ReportFilters) (name : JsString) : Option ReportFilterValue :=
  (filters.get name).join

def reportFilterError (filterName message : JsString) : FrameworkError :=
  .ofBadRequest (js "Report filter '" ++ filterName ++ js "'" ++ message)

/-! ## Values of filters -/

def isReportFilterArray : ReportFilterValue → Bool
  | .arr _ => true
  | _ => false

def isEmptyReportFilterValue (value : Option ReportFilterValue) : Bool :=
  value = none || value = some .null || value = some (.str [])

def numericFilterValue (value : Json) (filterName expectedType : JsString) : Except FrameworkError Rat :=
  let parsed :=
    match value with
    | .num value => some value
    | .str text => Json.toNumber text
    | _ => none
  match parsed with
  | some parsed => .ok parsed
  | none => .error (reportFilterError filterName (js " must be " ++ expectedType))

/-- The part of `coerceReportFilterValue` for a scalar operator. -/
def coerceScalarReportFilterValue (value : Json) (type : Option FieldType) (filterName : JsString) :
    Except FrameworkError Json :=
  if isReportFilterArray value then .error (reportFilterError filterName (js " must be scalar"))
  else
    match type with
    | some .integer => do
        let parsed ← numericFilterValue value filterName (js "an integer")
        if parsed.den = 1 then return .num parsed
        else throw (reportFilterError filterName (js " must be an integer"))
    | some .number => do
        let parsed ← numericFilterValue value filterName (js "a number")
        return .num parsed
    | some .boolean =>
      match value with
      | .bool b => .ok (.bool b)
      | .str text =>
        if text = js "true" ∨ text = js "1" ∨ text = js "on" then .ok (.bool true)
        else if text = js "false" ∨ text = js "0" ∨ text = js "off" then .ok (.bool false)
        else .error (reportFilterError filterName (js " must be a boolean"))
      | _ => .error (reportFilterError filterName (js " must be a boolean"))
    | _ => .ok (.str value.toText)

def isBlankText : Json → Bool
  | .str text => (Json.trim text).isEmpty
  | _ => false

def coerceRangeFilterEndpoint (value : Json) (type : Option FieldType) (filterName : JsString) :
    Except FrameworkError Json :=
  match value with
  | .null => .error (reportFilterError filterName (js " range values cannot be null"))
  | value =>
    if isBlankText value then
      .error (reportFilterError filterName (js " range values cannot be empty"))
    else if type = some .date ∨ type = some .datetime then
      match value with
      | .str text => .ok (.str text)
      | _ => .error (reportFilterError filterName (js " range values must be strings"))
    else
      match value with
      | .bool _ => .error (reportFilterError filterName (js " range values cannot be boolean"))
      | value => coerceScalarReportFilterValue value type filterName

def coerceReportFilterValue (value : Option ReportFilterValue) (type : Option FieldType) (filterName : JsString)
    (operator : ReportFilterOperator) : Except FrameworkError (Option ReportFilterValue) :=
  match value with
  | none => .ok none
  | some value =>
    if value = .null ∨ value = .str [] then .ok (some value)
    else if operator = .between ∨ operator = .notBetween then
      match value with
      | .arr [minimum, maximum] => do
          let minimum ← coerceRangeFilterEndpoint minimum type filterName
          let maximum ← coerceRangeFilterEndpoint maximum type filterName
          return some (.arr [minimum, maximum])
      | _ => .error (reportFilterError filterName
          (js " must include exactly two values for " ++ operator.toText))
    else (coerceScalarReportFilterValue value type filterName).map some

def resolvedReportFilterType (filter : ReportFilterDefinition) (field : Option FieldDefinition) : Option FieldType :=
  filter.type.or (field.map (·.type))

/-! ## Materializing -/

mutual

def reportFilterExpressionHasValue (filterName : JsString) : ReportFilterExpression → Bool
  | .group _ filters => anyExpressionHasValue filterName filters
  | .predicate filter value => filter = filterName && !isEmptyReportFilterValue (some value)

def anyExpressionHasValue (filterName : JsString) : List ReportFilterExpression → Bool
  | [] => false
  | filter :: filters => reportFilterExpressionHasValue filterName filter || anyExpressionHasValue filterName filters

end

/-- `input[filter.name] ?? filter.defaultValue`. -/
def rawFilterValue (input : ReportFilters) (filter : ReportFilterDefinition) : Option ReportFilterValue :=
  match input.value filter.name with
  | none | some .null => filter.defaultValue
  | some value => some value

/-- What `materializeReportFilters` computes for one filter. -/
def materializeReportFilter (doctype : DocTypeDefinition) (input : ReportFilters)
    (filterExpression : Option ReportFilterExpression) (filter : ReportFilterDefinition) :
    Except FrameworkError (Option ReportFilterValue) := do
  let type := resolvedReportFilterType filter (doctype.field? filter.field)
  let value ← coerceReportFilterValue (rawFilterValue input filter) type filter.name (filter.operator.getD .eq)
  if filter.required ∧ (value = none ∨ value = some (.str [])) ∧
      (filterExpression.map (reportFilterExpressionHasValue filter.name)).getD false = false then
    throw (reportFilterError filter.name (js " is required"))
  else return value

def materializeReportFilters (report : ReportDefinition) (doctype : DocTypeDefinition) (input : ReportFilters)
    (filterExpression : Option ReportFilterExpression) : Except FrameworkError ReportFilters :=
  report.filters.foldlM (fun values filter => do
    let value ← materializeReportFilter doctype input filterExpression filter
    return Record.set values filter.name value) []

/-! ## Matching -/

section

variable (localeCompare : JsString → JsString → Ordering) (canonicalize : UInt16 → UInt16)

/-- The sign of `compareReportValues`. -/
def compareReportValues (actual : Option Json) (expected : Json) : Ordering :=
  match actual, expected with
  | some (.num actual), .num expected => compare actual expected
  | actual, expected => localeCompare (textOrEmpty actual) expected.toText

/-- A value of the wrong shape, which `coerceReportFilterValue` refuses, throws in the source. -/
def matchesReportFilterValue (row : ReportRow) (filter : ReportFilterDefinition) (expected : ReportFilterValue) :
    Bool :=
  let actual := row.get filter.field
  match filter.operator.getD .eq with
  | .eq => actual = some expected
  | .ne => actual ≠ some expected
  | .contains => containsFoldedText canonicalize (textOrEmpty actual) expected.toText
  | .gte => compareReportValues localeCompare actual expected ≠ .lt
  | .lte => compareReportValues localeCompare actual expected ≠ .gt
  | .between =>
    match expected with
    | .arr [minimum, maximum] =>
      actual ≠ none ∧ actual ≠ some .null ∧ compareReportValues localeCompare actual minimum ≠ .lt ∧
        compareReportValues localeCompare actual maximum ≠ .gt
    | _ => false
  | .notBetween =>
    match expected with
    | .arr [minimum, maximum] =>
      actual ≠ none ∧ actual ≠ some .null ∧ (compareReportValues localeCompare actual minimum = .lt ∨
        compareReportValues localeCompare actual maximum = .gt)
    | _ => false

mutual

def matchesExpression (row : ReportRow) (report : ReportDefinition) : ReportFilterExpression → Bool
  | .group .all filters => matchesAllExpressions row report filters
  | .group .any filters => matchesAnyExpression row report filters
  | .predicate name value =>
    match report.filters.find? (fun filter => filter.name = name) with
    | some filter => matchesReportFilterValue localeCompare canonicalize row filter value
    | none => false

def matchesAllExpressions (row : ReportRow) (report : ReportDefinition) : List ReportFilterExpression → Bool
  | [] => true
  | filter :: filters => matchesExpression row report filter && matchesAllExpressions row report filters

def matchesAnyExpression (row : ReportRow) (report : ReportDefinition) : List ReportFilterExpression → Bool
  | [] => false
  | filter :: filters => matchesExpression row report filter || matchesAnyExpression row report filters

end

def matchesReportFilterExpression (row : ReportRow) (report : ReportDefinition)
    (expression : Option ReportFilterExpression) : Bool :=
  match expression with
  | none => true
  | some expression => matchesExpression localeCompare canonicalize row report expression

/-- What one filter asks of a row: an empty value asks nothing. -/
def matchesFilter (row : ReportRow) (filters : ReportFilters) (filter : ReportFilterDefinition) : Bool :=
  match filters.value filter.name with
  | none => true
  | some expected =>
    isEmptyReportFilterValue (some expected) ||
      matchesReportFilterValue localeCompare canonicalize row filter expected

def matchesReportRowFilters (row : ReportRow) (report : ReportDefinition) (filters : ReportFilters)
    (expression : Option ReportFilterExpression) : Bool :=
  report.filters.all (matchesFilter localeCompare canonicalize row filters) &&
    matchesReportFilterExpression localeCompare canonicalize row report expression

def matchesReportFilters (document : DocumentSnapshot) (report : ReportDefinition) (filters : ReportFilters)
    (expression : Option ReportFilterExpression) : Bool :=
  matchesReportRowFilters localeCompare canonicalize document.data report filters expression

/-! ## Groups -/

def primitiveReportRowValue (row : ReportRow) (field : JsString) : Option Json :=
  match row.get field with
  | some (.arr _) | some (.obj _) | none => none
  | some value => some value

def numericReportValues (rows : List ReportRow) (field : JsString) : List Rat :=
  rows.filterMap fun row =>
    match primitiveReportRowValue row field with
    | some (.num value) => some value
    | _ => none

def requiredSummaryField (summary : ReportSummaryDefinition) : Except FrameworkError JsString :=
  match summary.field with
  | some (u :: rest) => .ok (u :: rest)
  | _ => .error (.ofBadRequest
      (js "Report summary '" ++ summary.name ++ js "' requires a field for " ++ summary.aggregate.toText))

/-- The least or the greatest value that is not `null`. -/
def minMaxReportValue (rows : List ReportRow) (field : JsString) (least : Bool) : Json :=
  match (rows.filterMap (primitiveReportRowValue · field)).filter (· ≠ .null) with
  | [] => .null
  | first :: values =>
    values.foldl (fun selected value =>
      let comparison := compareReportValues localeCompare (some value) selected
      if least then (if comparison = .lt then value else selected)
      else if comparison = .gt then value else selected) first

def reportAggregateValue (summary : ReportSummaryDefinition) (rows : List ReportRow) : Except FrameworkError Json :=
  match summary.aggregate with
  | .count =>
    match summary.field with
    | some (u :: rest) => .ok (.num (rows.filter (fun row =>
      row.get (u :: rest) ≠ none ∧ row.get (u :: rest) ≠ some .null)).length)
    | _ => .ok (.num rows.length)
  | .sum => do return .num (numericReportValues rows (← requiredSummaryField summary)).sum
  | .avg => do
      let values := numericReportValues rows (← requiredSummaryField summary)
      return if values = [] then .null else .num (values.sum / values.length)
  | .min => do return minMaxReportValue localeCompare rows (← requiredSummaryField summary) true
  | .max => do return minMaxReportValue localeCompare rows (← requiredSummaryField summary) false

structure ReportSummaryValue where
  name : JsString
  value : Json
  deriving DecidableEq

def reportSummaryValue (rows : List ReportRow) (summary : ReportSummaryDefinition) :
    Except FrameworkError ReportSummaryValue := do
  let value ← reportAggregateValue localeCompare summary rows
  return { name := summary.name, value }

structure ReportBucket where
  key : Json
  rows : List ReportRow
  deriving DecidableEq

/-- The key of the group a row falls into. -/
def reportGroupKey (field : JsString) (row : ReportRow) : Json := (primitiveReportRowValue row field).getD .null

/-- Adds a row to the bucket under its key's JSON text. -/
def addToBucket (field : JsString) (buckets : Record JsString ReportBucket) (row : ReportRow) :
    Record JsString ReportBucket :=
  let key := reportGroupKey field row
  let bucketKey := Json.stringify key
  match buckets.get bucketKey with
  | some existing => Record.set buckets bucketKey { existing with rows := existing.rows ++ [row] }
  | none => Record.set buckets bucketKey { key, rows := [row] }

structure ReportGroupRow where
  key : Json
  label : JsString
  summaries : List ReportSummaryValue
  deriving DecidableEq

structure ReportGroupResult where
  name : JsString
  field : JsString
  rows : List ReportGroupRow
  deriving DecidableEq

def reportGroupLabel (value : Json) : JsString := if value = .null then js "(empty)" else value.toText

def reportGroupRow (group : ReportGroupDefinition) (bucket : ReportBucket) : Except FrameworkError ReportGroupRow := do
  let summaries ← group.summaries.mapM (reportSummaryValue localeCompare bucket.rows)
  return { key := bucket.key, label := reportGroupLabel bucket.key, summaries }

/-- The buckets of a group, in the order of their keys. -/
def sortedBuckets (rows : List ReportRow) (field : JsString) : List ReportBucket :=
  ((rows.foldl (addToBucket field) []).map Prod.snd).mergeSort
    (fun left right => compareReportValues localeCompare (some left.key) right.key ≠ .gt)

def buildReportGroup (rows : List ReportRow) (group : ReportGroupDefinition) :
    Except FrameworkError ReportGroupResult := do
  let groupRows ← (sortedBuckets localeCompare rows group.field).mapM (reportGroupRow localeCompare group)
  return { name := group.name, field := group.field, rows := groupRows }

def buildReportGroups (rows : List ReportRow) (groups : List ReportGroupDefinition) :
    Except FrameworkError (List ReportGroupResult) :=
  groups.mapM (buildReportGroup localeCompare rows)

/-! ## Charts -/

structure ReportChartDrilldown where
  filter : JsString
  value : Json
  query : List (JsString × JsString)
  deriving DecidableEq

structure ReportChartPoint where
  key : Json
  label : JsString
  value : Option Rat
  drilldown : Option ReportChartDrilldown
  deriving DecidableEq

structure ReportChartResult where
  name : JsString
  points : List ReportChartPoint
  deriving DecidableEq

/-- The query holds the parameters that `toString` writes and a URL gives back. -/
def reportChartDrilldown (filter : ReportFilterDefinition) (value : Json) : Option ReportChartDrilldown :=
  if value = .null then none
  else some {
    filter := filter.name
    value
    query := [(toUsvString (js "filter_" ++ filter.name), toUsvString value.toText)] }

def reportChartPoint (summaryName : JsString) (drilldownFilter : Option ReportFilterDefinition)
    (row : ReportGroupRow) : ReportChartPoint where
  key := row.key
  label := row.label
  value :=
    match (row.summaries.find? (fun item => item.name = summaryName)).map ReportSummaryValue.value with
    | some (.num value) => some value
    | _ => none
  drilldown := drilldownFilter.bind (fun filter => reportChartDrilldown filter row.key)

def exactDrilldownFilterForGroup (filters : List ReportFilterDefinition) (group : ReportGroupResult) :
    Option ReportFilterDefinition :=
  filters.find? (fun filter => filter.field = group.field ∧ filter.operator.getD .eq = .eq)

def compareChartPoints (left right : ReportChartPoint) (orderBy : ReportChartOrderBy) (order : ReportOrder) :
    Ordering :=
  match orderBy with
  | .value =>
    match left.value, right.value with
    | none, none => .eq
    | none, some _ => .gt
    | some _, none => .lt
    | some left, some right => order.directed (compare left right)
  | .label => order.directed (localeCompare left.label right.label)
  | .key => order.directed (compareReportValues localeCompare (some left.key) right.key)

def sortReportChartPoints (points : List ReportChartPoint) (orderBy : ReportChartOrderBy) (order : ReportOrder) :
    List ReportChartPoint :=
  points.mergeSort fun left right =>
    ((compareChartPoints localeCompare left right orderBy order).then
      ((localeCompare left.label right.label).then
        (compareReportValues localeCompare (some left.key) right.key))) ≠ .gt

def buildReportChart (groups : List ReportGroupResult) (filters : List ReportFilterDefinition)
    (chart : ReportChartDefinition) : ReportChartResult :=
  let group := groups.find? (fun item => item.name = chart.group)
  let drilldownFilter := group.bind (exactDrilldownFilterForGroup filters)
  let points := sortReportChartPoints localeCompare
    (((group.map (·.rows)).getD []).map (reportChartPoint chart.summary drilldownFilter))
    (chart.orderBy.getD .key) (chart.order.getD .asc)
  { name := chart.name
    points :=
      match chart.maxPoints with
      | some maxPoints => points.take maxPoints
      | none => points }

def buildReportCharts (groups : List ReportGroupResult) (charts : List ReportChartDefinition)
    (filters : List ReportFilterDefinition) : List ReportChartResult :=
  charts.map (buildReportChart localeCompare groups filters)

end
