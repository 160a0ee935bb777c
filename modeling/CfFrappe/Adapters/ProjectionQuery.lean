import CfFrappe.Adapters.ProjectionRow
import CfFrappe.Core.LikeGlob
import CfFrappe.Core.Predicates

set_option autoImplicit false

/-! # List queries in SQL

`d1ProjectionListQuery` compiles a predicate into the `WHERE` clause of a list query. A
condition is a sequence of tokens with positional parameters; conditions are joined without
parentheses where the source joins their texts.
-/

open Utf

abbrev SqlToken := Sqlite.Token ColumnExpr

/-- One condition of a clause, as its tokens. -/
abbrev SqlCondition := List SqlToken

structure PredicateWhere where
  conditions : List SqlCondition
  params : List Json
  complete : Bool

/-- `conditions.join(" AND ")`. -/
def joinAnd (conditions : List SqlCondition) : SqlCondition := List.intercalate [.and] conditions

/-- `conditions.join(" OR ")`. -/
def joinOr (conditions : List SqlCondition) : SqlCondition := List.intercalate [.or] conditions

/-- `(${condition})`. -/
def parenthesize (condition : SqlCondition) : SqlCondition := [.lparen] ++ condition ++ [.rparen]

/-! ## Operands -/

def systemFilterExpression (field : JsString) : Option ColumnExpr :=
  if field = js "system.name" then some .name
  else if field = js "system.docstatus" then some .docstatus
  else if field = js "system.createdAt" then some .createdAt
  else if field = js "system.updatedAt" then some .updatedAt
  else if field = js "system.version" then some .version
  else none

def listFilterExpression (field : JsString) : ColumnExpr :=
  match systemFilterExpression field with
  | some expression => expression
  | none => d1JsonExtract field

def nullEqualityExpression (field : JsString) (expression : ColumnExpr) : SqlCondition :=
  match systemFilterExpression field with
  | none => [.column (d1JsonType field), .operator .eq, .literal (Sqlite.ofString (js "null"))]
  | some _ => [.column expression, .isNull]

def predicateField : PredicateOperand → Except FrameworkError JsString
  | .field .after field => .ok field
  | _ => .error (.ofError (js "D1 projection predicates require an after-field left operand"))

def predicateLiteral : PredicateOperand → Except FrameworkError Json
  | .literal value => .ok value
  | _ => .error (.ofError (js "D1 projection predicates require a literal right operand"))

def isPrimitive : Json → Bool
  | .arr _ | .obj _ => false
  | _ => true

def scalarPredicateValue (value : Json) (operator : PredicateOperator) : Except FrameworkError Json :=
  if isPrimitive value then .ok value
  else .error (.ofError (js "Predicate operator " ++ quoted operator.toText ++ js " requires a scalar value"))

/-- The items of an array of primitives. -/
def primitiveArray : Json → Option (List Json)
  | .arr items => if items.all isPrimitive then some items else none
  | _ => none

def membershipPredicateValues (value : Json) (operator : PredicateOperator) : Except FrameworkError (List Json) :=
  match primitiveArray value with
  | some (item :: items) => .ok (item :: items)
  | _ => .error (.ofError
      (js "Predicate operator " ++ quoted operator.toText ++ js " requires one or more values"))

def nonNullMembershipPredicateValues (value : Json) (operator : PredicateOperator) :
    Except FrameworkError (List Json) := do
  return (← membershipPredicateValues value operator).filter (fun item => item ≠ .null)

/-- Whether `is` asks for a present value. -/
def presencePredicateValue (value : Json) (operator : PredicateOperator) : Except FrameworkError Bool :=
  if value = .str (js "set") then .ok true
  else if value = .str (js "not set") then .ok false
  else .error (.ofError (js "Predicate operator " ++ quoted operator.toText ++ js " requires set or not set"))

def rangePredicateValues (value : Json) (operator : PredicateOperator) : Except FrameworkError (Json × Json) :=
  match primitiveArray value with
  | some [minimum, maximum] =>
    if minimum = .null ∨ maximum = .null then
      .error (.ofError (js "Predicate operator " ++ quoted operator.toText ++ js " requires non-null range values"))
    else .ok (minimum, maximum)
  | _ => .error (.ofError
      (js "Predicate operator " ++ quoted operator.toText ++ js " requires exactly two values"))

def sqliteJsonValue : Json → Json
  | .bool b => .num (if b then 1 else 0)
  | value => value

/-! ## Text operators -/

def d1ProjectionTextPatternMaxBytes : Nat := 4096

def neverMatchesWhere : PredicateWhere :=
  { conditions := [[.literal (.num 0), .operator .eq, .literal (.num 1)]], params := [], complete := true }

def assertTextPatternHasNoNul (field pattern : JsString) : Except FrameworkError Unit :=
  if pattern.contains 0 then
    .error { code := .d1ProjectionTextPatternInvalid, status := 400,
             message := js "Text filter on " ++ quoted field ++
               js (" contains U+0000, which SQLite's pattern matching cannot represent: it " ++
                 "truncates the pattern there and would match every row") }
  else .ok ()

def assertTextPatternWithinLimit (field pattern : JsString) : Except FrameworkError Unit :=
  let bytes := (textEncode pattern).length
  if bytes > d1ProjectionTextPatternMaxBytes then
    .error { code := .d1ProjectionTextPatternTooLong, status := 400,
             message := js "Text filter on " ++ quoted field ++ js " compiles to a " ++
               Json.natToString bytes ++ js "-byte GLOB pattern, over the " ++
               Json.natToString d1ProjectionTextPatternMaxBytes ++
               js ("-byte limit. Case-folding expands a pattern by up to 6x in bytes, so use a " ++
                 "shorter search term.") }
  else .ok ()

def globPredicateWhere (field : JsString) (expression : ColumnExpr) (operator : PredicateOperator)
    (pattern : JsString) : Except FrameworkError PredicateWhere := do
  assertTextPatternHasNoNul field pattern
  match likeGlobPattern pattern with
  | .never =>
    if operator = .notLike then
      return { conditions := [[.column expression, .isNotNull]], params := [], complete := true }
    else return neverMatchesWhere
  | .glob translated =>
    assertTextPatternWithinLimit field translated
    if operator = .notLike then
      return {
        conditions := [[.column expression, .isNotNull] ++ [.and] ++
          parenthesize [.column expression, .operator .glob, .param] ++ [.isNotOne]]
        params := [.str translated]
        complete := true }
    else return {
      conditions := [[.column expression, .operator .glob, .param]]
      params := [.str translated]
      complete := true }

/-- The needle of `contains`; `none` when the in-memory rule cannot match at all. -/
def containsNeedle (value : Json) (operator : PredicateOperator) : Except FrameworkError (Option JsString) :=
  if value = .null then .ok none
  else do return some (← scalarPredicateValue value operator).toText

def textPredicateWhere (field : JsString) (expression : ColumnExpr) (operator : PredicateOperator)
    (value : Json) : Except FrameworkError PredicateWhere :=
  if operator = .contains then do
    match ← containsNeedle value operator with
    | none => return neverMatchesWhere
    | some needle => globPredicateWhere field expression operator (containsLikePattern needle)
  else match value with
    | .str pattern => globPredicateWhere field expression operator pattern
    | _ => .ok neverMatchesWhere

/-! ## Comparisons -/

/-- `${expression} ${op} ?`. -/
def orderedWhere (expression : ColumnExpr) (op : Sqlite.Operator) (operator : PredicateOperator)
    (value : Json) : Except FrameworkError PredicateWhere := do
  let scalar ← scalarPredicateValue value operator
  return { conditions := [[.column expression, .operator op, .param]],
           params := [sqliteJsonValue scalar], complete := true }

def predicateComparisonWhere (left : PredicateOperand) (operator : PredicateOperator)
    (right : PredicateOperand) : Except FrameworkError PredicateWhere := do
  let field ← predicateField left
  let expression := listFilterExpression field
  let value ← predicateLiteral right
  match operator with
  | .eq =>
    let scalar ← scalarPredicateValue value operator
    if scalar = .null then
      return { conditions := [nullEqualityExpression field expression], params := [], complete := true }
    else return {
      conditions := [[.column expression, .operator .eq, .param]]
      params := [sqliteJsonValue scalar]
      complete := true }
  | .ne =>
    let scalar ← scalarPredicateValue value operator
    if scalar = .null then
      return { conditions := [[.column expression, .isNotNull]], params := [], complete := true }
    else return {
      conditions := [[.column expression, .isNotNull] ++ [.and] ++ [.column expression, .operator .ne, .param]]
      params := [sqliteJsonValue scalar]
      complete := true }
  | .isIn =>
    let values ← nonNullMembershipPredicateValues value operator
    return {
      conditions := if values.isEmpty then neverMatchesWhere.conditions
        else [[.column expression, .inParams values.length]]
      params := values.map sqliteJsonValue
      complete := true }
  | .notIn =>
    let values ← nonNullMembershipPredicateValues value operator
    return {
      conditions := if values.isEmpty then [[.column expression, .isNotNull]]
        else [[.column expression, .isNotNull] ++ [.and] ++ [.column expression, .notInParams values.length]]
      params := values.map sqliteJsonValue
      complete := true }
  | .is =>
    let present ← presencePredicateValue value operator
    return { conditions := [[.column expression, if present then .isNotNull else .isNull]],
             params := [], complete := true }
  | .contains | .like | .notLike => textPredicateWhere field expression operator value
  | .gt => orderedWhere expression .gt operator value
  | .gte => orderedWhere expression .ge operator value
  | .lt => orderedWhere expression .lt operator value
  | .lte => orderedWhere expression .le operator value
  | .between =>
    let (minimum, maximum) ← rangePredicateValues value operator
    return {
      conditions := [parenthesize ([.column expression, .operator .ge, .param] ++ [.and] ++
        [.column expression, .operator .le, .param])]
      params := [sqliteJsonValue minimum, sqliteJsonValue maximum]
      complete := true }
  | .notBetween =>
    let (minimum, maximum) ← rangePredicateValues value operator
    return {
      conditions := [[.column expression, .isNotNull] ++ [.and] ++
        parenthesize ([.column expression, .operator .lt, .param] ++ [.or] ++
          [.column expression, .operator .gt, .param])]
      params := [sqliteJsonValue minimum, sqliteJsonValue maximum]
      complete := true }

/-! ## Groups and negation -/

def assertPushedDownExactly (compiled : PredicateWhere) (context : JsString) : Except FrameworkError Unit :=
  if !compiled.complete || compiled.conditions.isEmpty then
    .error (.ofError (js "D1 projection predicates must compile to exact SQL, but " ++ context ++
      js (" did not. An operator without an exact SQL form cannot be pushed down: negating or " ++
        "OR-ing a superset does not produce a superset.")))
  else .ok ()

def predicateNotWhere (compiled : PredicateWhere) : Except FrameworkError PredicateWhere := do
  assertPushedDownExactly compiled (js "a negated predicate")
  return { conditions := [parenthesize (joinAnd compiled.conditions) ++ [.isNotOne]],
           params := compiled.params, complete := true }

def GroupMatch.toText : GroupMatch → JsString
  | .all => js "all"
  | .any => js "any"

def predicateGroupWhere («match» : GroupMatch) (children : List PredicateWhere) :
    Except FrameworkError PredicateWhere := do
  if children.isEmpty then
    throw (.ofError (js "D1 projection predicate groups must contain at least one predicate"))
  for child in children do
    assertPushedDownExactly child (js "a " ++ quoted «match».toText ++ js " predicate group")
  let texts := children.map (fun child => joinAnd child.conditions)
  let joined := match «match» with | .all => joinAnd texts | .any => joinOr texts
  return { conditions := [parenthesize joined],
           params := children.flatMap PredicateWhere.params, complete := true }

mutual

def predicateExpressionWhere : PredicateExpression → Except FrameworkError PredicateWhere
  | .group «match» predicates => do
      predicateGroupWhere «match» (← predicateExpressionsWhere predicates)
  | .not predicate => do predicateNotWhere (← predicateExpressionWhere predicate)
  | .compare left operator right => predicateComparisonWhere left operator right

def predicateExpressionsWhere : List PredicateExpression → Except FrameworkError (List PredicateWhere)
  | [] => .ok []
  | predicate :: rest => do
      let compiled ← predicateExpressionWhere predicate
      return compiled :: (← predicateExpressionsWhere rest)

end

def predicateWhere : Option PredicateExpression → Except FrameworkError PredicateWhere
  | none => .ok { conditions := [], params := [], complete := true }
  | some expression => predicateExpressionWhere expression

/-! ## The query -/

structure ListDocumentsQuery where
  tenantId : TenantId
  doctype : DocTypeName
  predicate : Option PredicateExpression := none

structure D1ProjectionListQuery where
  «where» : SqlCondition
  params : List Json

/-- The `WHERE` clause of a list query and its parameters; paging and order are elsewhere. -/
def d1ProjectionListQuery (query : ListDocumentsQuery) : Except FrameworkError D1ProjectionListQuery := do
  let filtered ← predicateWhere query.predicate
  return {
    «where» := joinAnd ([[.column .tenantId, .operator .eq, .param],
      [.column .doctype, .operator .eq, .param]] ++ filtered.conditions)
    params := [.str query.tenantId, .str query.doctype] ++ filtered.params }

/-- A parameter as it is bound. -/
def bindParam : Json → Sqlite.Value
  | .null => .null
  | .bool b => .num (if b then 1 else 0)
  | .num n => .num n
  | .str s => Sqlite.ofString s
  | value => Sqlite.ofString value.stringify

/-- The value of the clause on the row of a document. -/
def D1ProjectionListQuery.whereValue (query : D1ProjectionListQuery) (document : DocumentSnapshot) :
    Option Sqlite.Value :=
  Sqlite.evaluate (rowValue document) query.where (query.params.map bindParam)
