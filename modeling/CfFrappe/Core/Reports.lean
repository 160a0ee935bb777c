import CfFrappe.Core.Types

set_option autoImplicit false

/-! # Report definitions

What a report over the documents of a DocType shows: its columns (fields or arithmetic formulas
over fields), the filters a reader can set, and the groups its charts draw.
-/

open Utf

inductive ReportOrder
  | asc
  | desc
  deriving DecidableEq

/-- `compared * direction`. -/
def ReportOrder.directed : ReportOrder → Ordering → Ordering
  | .asc, compared => compared
  | .desc, compared => compared.swap

/-! ## Columns -/

inductive ReportFormulaOperator
  | add | subtract | multiply | divide
  deriving DecidableEq

/-- A field's name, a number or a nested formula. -/
inductive ReportFormulaOperand
  | field (name : JsString)
  | number (value : Rat)
  | formula (operator : ReportFormulaOperator) (left right : ReportFormulaOperand)
  deriving DecidableEq

structure ReportFormulaDefinition where
  operator : ReportFormulaOperator
  left : ReportFormulaOperand
  right : ReportFormulaOperand
  deriving DecidableEq

structure ReportColumnDefinition where
  name : JsString
  label : Option JsString := none
  field : Option JsString := none
  type : Option FieldType := none
  formula : Option ReportFormulaDefinition := none
  deriving DecidableEq

/-! ## Filters -/

inductive ReportFilterOperator
  | eq | ne | contains | gte | lte | between | notBetween
  deriving DecidableEq

def ReportFilterOperator.toText : ReportFilterOperator → JsString
  | .eq => js "eq"
  | .ne => js "ne"
  | .contains => js "contains"
  | .gte => js "gte"
  | .lte => js "lte"
  | .between => js "between"
  | .notBetween => js "not_between"

/-- A primitive, or an array of primitives. -/
abbrev ReportFilterValue := Json

structure ReportFilterDefinition where
  name : JsString
  field : JsString
  type : Option FieldType := none
  operator : Option ReportFilterOperator := none
  required : Bool := false
  defaultValue : Option ReportFilterValue := none
  deriving DecidableEq

inductive ReportFilterExpression
  | predicate (filter : JsString) (value : ReportFilterValue)
  | group («match» : GroupMatch) (filters : List ReportFilterExpression)

/-! ## Groups and charts -/

inductive ReportSummaryAggregate
  | count | sum | avg | min | max
  deriving DecidableEq

def ReportSummaryAggregate.toText : ReportSummaryAggregate → JsString
  | .count => js "count"
  | .sum => js "sum"
  | .avg => js "avg"
  | .min => js "min"
  | .max => js "max"

structure ReportSummaryDefinition where
  name : JsString
  aggregate : ReportSummaryAggregate
  field : Option JsString := none
  deriving DecidableEq

structure ReportGroupDefinition where
  name : JsString
  field : JsString
  summaries : List ReportSummaryDefinition := []
  deriving DecidableEq

inductive ReportChartOrderBy
  | key | label | value
  deriving DecidableEq

structure ReportChartDefinition where
  name : JsString
  group : JsString
  summary : JsString
  maxPoints : Option Nat := none
  orderBy : Option ReportChartOrderBy := none
  order : Option ReportOrder := none
  deriving DecidableEq

structure ReportDefinition where
  name : JsString
  doctype : DocTypeName
  columns : List ReportColumnDefinition
  filters : List ReportFilterDefinition := []
  filterExpression : Option ReportFilterExpression := none
  groups : List ReportGroupDefinition := []
  charts : List ReportChartDefinition := []
  orderBy : Option JsString := none
  order : Option ReportOrder := none

/-- A projected row of a report. -/
abbrev ReportRow := Record JsString Json

/-! ## Column values -/

def reportFormulaOperationValue (operator : ReportFormulaOperator) (left right : Option Rat) : Option Rat :=
  match left, right with
  | some left, some right =>
    match operator with
    | .add => some (left + right)
    | .subtract => some (left - right)
    | .multiply => some (left * right)
    | .divide => if right = 0 then none else some (left / right)
  | _, _ => none

/-- The number an operand has in a record, or `null`. -/
def numericFormulaOperand (row : Record JsString Json) : ReportFormulaOperand → Option Rat
  | .number value => some value
  | .formula operator left right =>
    reportFormulaOperationValue operator (numericFormulaOperand row left) (numericFormulaOperand row right)
  | .field name =>
    match row.get name with
    | some (.num value) => some value
    | _ => none

def reportFormulaValue (row : Record JsString Json) (formula : ReportFormulaDefinition) : Json :=
  match reportFormulaOperationValue formula.operator (numericFormulaOperand row formula.left)
      (numericFormulaOperand row formula.right) with
  | some value => .num value
  | none => .null

def reportDocumentFormulaValue (document : DocumentSnapshot) (formula : ReportFormulaDefinition) : Json :=
  reportFormulaValue document.data formula

def reportDocumentColumnValue (document : DocumentSnapshot) (column : ReportColumnDefinition) : Json :=
  match column.formula with
  | some formula => reportDocumentFormulaValue document formula
  | none => (document.data.get (column.field.getD column.name)).getD .null

def projectReportDocumentRow (document : DocumentSnapshot) (columns : List ReportColumnDefinition) : ReportRow :=
  columns.foldl (fun row column => Record.set row column.name (reportDocumentColumnValue document column)) []

def reportSortValue (document : DocumentSnapshot) (columns : List ReportColumnDefinition) (columnName : JsString) :
    Option Json :=
  (columns.find? (fun column => column.name = columnName)).map (reportDocumentColumnValue document)

/-- `String(value ?? "")`. -/
def textOrEmpty : Option Json → JsString
  | none => []
  | some .null => []
  | some value => value.toText

/-- The sign of `compareReportSortValues`, with `localeCompare` for its text comparison. -/
def compareReportSortValues (localeCompare : JsString → JsString → Ordering) (left right : Option Json) : Ordering :=
  match left, right with
  | some (.num left), some (.num right) => compare left right
  | left, right => localeCompare (textOrEmpty left) (textOrEmpty right)
