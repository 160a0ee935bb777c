import CfFrappe.Core.Types
import CfFrappe.Core.Streams
import CfFrappe.Lib.Wildcard

set_option autoImplicit false

/-! # Predicates

A predicate is a tree of comparisons between a field, a path or a literal. It is checked against a DocType before use
(`normalizePredicateExpression`: scopes, operators and types, with a bound on depth and size) and evaluated on a
document in memory (`evaluatePredicateExpression`). The `like` operators match by a case-insensitive regular
expression; how the engine folds case is the parameter `canonicalize`.

The value of a field is read with `data[field]`, which also finds what objects inherit, so operands are
`FieldValue`s: a field that is called like a function of `Object.prototype` has a value on every document. A path is
read step by step through own properties only (`readPredicatePath`).

Absent values (`undefined` and `null`) match no operator but `is "not set"`, `eq` with an absent value, and what
negation makes of the others.
-/

open Utf

def maxPredicateDepth : Nat := 5

def maxPredicateNodes : Nat := 64

def PredicateOperator.toText : PredicateOperator → JsString
  | .eq => js "eq"
  | .ne => js "ne"
  | .isIn => js "in"
  | .notIn => js "not_in"
  | .is => js "is"
  | .contains => js "contains"
  | .like => js "like"
  | .notLike => js "not_like"
  | .gt => js "gt"
  | .gte => js "gte"
  | .lt => js "lt"
  | .lte => js "lte"
  | .between => js "between"
  | .notBetween => js "not_between"

def FieldType.toText : FieldType → JsString
  | .text => js "text"
  | .longText => js "longText"
  | .integer => js "integer"
  | .number => js "number"
  | .boolean => js "boolean"
  | .date => js "date"
  | .datetime => js "datetime"
  | .json => js "json"
  | .select => js "select"
  | .link => js "link"
  | .table => js "table"

/-! ## Normalization -/

/-- The fields every document has beside its data. -/
def systemPredicateFields : List FieldDefinition :=
  [{ name := js "system.name", type := .text, readOnly := true },
   { name := js "system.docstatus", type := .select, readOnly := true,
     options := some [js "draft", js "submitted", js "cancelled", js "deleted"] },
   { name := js "system.createdAt", type := .datetime, readOnly := true },
   { name := js "system.updatedAt", type := .datetime, readOnly := true },
   { name := js "system.version", type := .integer, readOnly := true }]

/-- A scope of either kind of operand. -/
inductive PredicateScope
  | field (scope : FieldScope)
  | path (scope : PathScope)
  deriving DecidableEq

def PredicateScope.toText : PredicateScope → JsString
  | .field .before => js "before"
  | .field .after => js "after"
  | .path .input => js "input"
  | .path .event => js "event"
  | .path .actor => js "actor"

structure NormalizePredicateOptions where
  availableScopes : List PredicateScope := [.field .after]
  errorCode : FrameworkErrorCode := .badRequest
  maxDepth : Nat := maxPredicateDepth
  maxNodes : Nat := maxPredicateNodes

section

variable (doctype : DocTypeDefinition) (options : NormalizePredicateOptions)

def invalidPredicate (message : JsString) : FrameworkError := { code := options.errorCode, message, status := 400 }

def quoted (text : JsString) : JsString := js "'" ++ text ++ js "'"

def requirePredicateField (fieldName : JsString) : Except FrameworkError FieldDefinition :=
  match (systemPredicateFields.find? (fun field => field.name == fieldName)).or (doctype.field? fieldName) with
  | none =>
    .error (invalidPredicate options
      (js "Predicate field " ++ quoted fieldName ++ js " is not defined on " ++ doctype.name))
  | some field =>
    if field.type = .table ∨ field.type = .json then
      .error (invalidPredicate options
        (js "Predicate field " ++ quoted fieldName ++ js " cannot be a " ++ field.type.toText ++ js " field"))
    else .ok field

def assertScopeAvailable (scope : PredicateScope) : Except FrameworkError Unit :=
  if scope ∈ options.availableScopes then .ok ()
  else .error (invalidPredicate options
    (js "Predicate scope " ++ quoted scope.toText ++ js " is not available in this context"))

def unsafePathSegments : List JsString := [js "__proto__", js "constructor", js "prototype"]

def normalizeSegment (segment : JsString) : Except FrameworkError JsString :=
  if (Json.trim segment).isEmpty then
    .error (invalidPredicate options (js "Predicate path segments must be non-empty strings"))
  else if segment ∈ unsafePathSegments then
    .error (invalidPredicate options (js "Predicate path contains unsafe segment " ++ quoted segment))
  else .ok segment

def normalizeOperand : PredicateOperand → Except FrameworkError PredicateOperand
  | .literal value => .ok (.literal value)
  | .field scope field => do
      assertScopeAvailable options (.field scope)
      if (Json.trim field).isEmpty then
        throw (invalidPredicate options (js "Predicate field must be a non-empty string"))
      let _ ← requirePredicateField doctype options field
      return .field scope field
  | .path scope path => do
      assertScopeAvailable options (.path scope)
      if path.isEmpty || path.length > 16 then
        throw (invalidPredicate options (js "Predicate path must contain between 1 and 16 segments"))
      return .path scope (← path.mapM (normalizeSegment options))

/-- The operators a field supports. -/
def supportedOperators (type : FieldType) : List PredicateOperator :=
  [.eq, .ne, .isIn, .notIn, .is] ++
    (if type ∈ [.text, .longText, .link] then [.contains, .like, .notLike] else []) ++
    (if type ∈ [.integer, .number, .date, .datetime] then
      [.gt, .gte, .lt, .lte, .between, .notBetween] else [])

def assertOperatorAllowedForOperand (operand : PredicateOperand) (operator : PredicateOperator) :
    Except FrameworkError Unit :=
  match operand with
  | .field _ fieldName => do
      let field ← requirePredicateField doctype options fieldName
      if operator ∈ supportedOperators field.type then return ()
      else throw (invalidPredicate options
        (js "Predicate field " ++ quoted fieldName ++ js " does not support " ++ operator.toText))
  | _ => .ok ()

def isMembership (operator : PredicateOperator) : Bool := operator == .isIn || operator == .notIn

def isRange (operator : PredicateOperator) : Bool := operator == .between || operator == .notBetween

def assertStaticOperatorValue (operator : PredicateOperator) (right : PredicateOperand) :
    Except FrameworkError Unit :=
  match right with
  | .literal value =>
    let items : Option (List Json) := match value with | .arr items => some items | _ => none
    if isMembership operator && items.isNone then
      .error (invalidPredicate options
        (js "Predicate operator " ++ quoted operator.toText ++ js " requires an array value"))
    else if isRange operator && items.map List.length != some 2 then
      .error (invalidPredicate options
        (js "Predicate operator " ++ quoted operator.toText ++ js " requires exactly two values"))
    else if operator == .is && value != .str (js "set") && value != .str (js "not set") then
      .error (invalidPredicate options (js "Predicate operator 'is' requires 'set' or 'not set'"))
    else .ok ()
  | _ => .ok ()

inductive PredicateValueType
  | array | boolean | date | datetime | null | number | object | string | unknown
  deriving DecidableEq

def PredicateValueType.toText : PredicateValueType → JsString
  | .array => js "array"
  | .boolean => js "boolean"
  | .date => js "date"
  | .datetime => js "datetime"
  | .null => js "null"
  | .number => js "number"
  | .object => js "object"
  | .string => js "string"
  | .unknown => js "unknown"

def literalValueType : Json → PredicateValueType
  | .null => .null
  | .arr _ => .array
  | .obj _ => .object
  | .num _ => .number
  | .bool _ => .boolean
  | .str _ => .string

def fieldValueType : FieldType → PredicateValueType
  | .integer | .number => .number
  | .boolean => .boolean
  | .date => .date
  | .datetime => .datetime
  | .text | .longText | .link | .select => .string
  | .json | .table => .unknown

def predicateOperandType : PredicateOperand → Except FrameworkError PredicateValueType
  | .path _ _ => .ok .unknown
  | .literal value => .ok (literalValueType value)
  | .field _ fieldName => do
      let field ← requirePredicateField doctype options fieldName
      return fieldValueType field.type

def assertStringCompatible (type : PredicateValueType) (operator : PredicateOperator)
    (side : JsString) : Except FrameworkError Unit :=
  if type ≠ .string ∧ type ≠ .unknown then
    .error (invalidPredicate options
      (js "Predicate operator " ++ quoted operator.toText ++ js " requires a string-compatible " ++
        side ++ js " operand"))
  else .ok ()

def assertOrderedType (type : PredicateValueType) (operator : PredicateOperator)
    (side : JsString) : Except FrameworkError Unit :=
  if type ∈ [.number, .date, .datetime, .unknown] then .ok ()
  else .error (invalidPredicate options
    (js "Predicate operator " ++ quoted operator.toText ++ js " requires an ordered " ++ side ++ js " operand"))

def assertCompatibleTypes (left right : PredicateValueType) (operator : PredicateOperator) :
    Except FrameworkError Unit :=
  if left = .unknown ∨ right = .unknown ∨ right = .null ∨ left = right then .ok ()
  else .error (invalidPredicate options
    (js "Predicate operator " ++ quoted operator.toText ++ js " has incompatible " ++ left.toText ++
      js " and " ++ right.toText ++ js " operands"))

/-- A date compared with a literal string. -/
def isDateText (left : PredicateValueType) (value : Json) : Bool :=
  (left == .date || left == .datetime) && literalValueType value == .string

def assertItemsCompatible (left : PredicateValueType) (operator : PredicateOperator) :
    List Json → Except FrameworkError Unit
  | [] => .ok ()
  | value :: rest => do
      if !isDateText left value then
        assertCompatibleTypes options left (literalValueType value) operator
      assertItemsCompatible left operator rest

def assertOperandCompatibility (left : PredicateOperand) (operator : PredicateOperator)
    (right : PredicateOperand) : Except FrameworkError Unit := do
  let leftType ← predicateOperandType doctype options left
  let rightType ← predicateOperandType doctype options right
  if operator == .is then
    match right with
    | .literal _ => return ()
    | _ => throw (invalidPredicate options (js "Predicate operator 'is' requires a literal operand"))
  else if isMembership operator || isRange operator then
    match right with
    | .literal (.arr items) => assertItemsCompatible options leftType operator items
    | _ =>
      throw (invalidPredicate options
        (js "Predicate operator " ++ quoted operator.toText ++ js " requires a literal array operand"))
  else if operator == .contains || operator == .like || operator == .notLike then
    assertStringCompatible options leftType operator (js "left")
    assertStringCompatible options rightType operator (js "right")
  else if operator == .gt || operator == .gte || operator == .lt || operator == .lte then
    assertOrderedType options leftType operator (js "left")
    match right with
    | .literal value =>
      if isDateText leftType value then return ()
      assertOrderedType options rightType operator (js "right")
      assertCompatibleTypes options leftType rightType operator
    | _ =>
      assertOrderedType options rightType operator (js "right")
      assertCompatibleTypes options leftType rightType operator
  else
    match right with
    | .literal value =>
      if isDateText leftType value then return ()
      assertCompatibleTypes options leftType rightType operator
    | _ => assertCompatibleTypes options leftType rightType operator

def normalizeComparison (left : PredicateOperand) (operator : PredicateOperator)
    (right : PredicateOperand) : Except FrameworkError PredicateExpression := do
  let left ← normalizeOperand doctype options left
  let right ← normalizeOperand doctype options right
  assertOperatorAllowedForOperand doctype options left operator
  assertStaticOperatorValue options operator right
  assertOperandCompatibility doctype options left operator right
  return .compare left operator right

/-- Takes one node off the budget. -/
def consumeBudget (budget : Nat) : Except FrameworkError Nat :=
  match budget with
  | 0 => .error (invalidPredicate options
      (js "Predicate expression cannot exceed " ++ Json.natToString options.maxDepth ++
        js " levels or " ++ Json.natToString options.maxNodes ++ js " nodes"))
  | budget + 1 => .ok budget

def assertDepth (depth : Nat) : Except FrameworkError Unit :=
  if depth > options.maxDepth then
    .error (invalidPredicate options
      (js "Predicate expression cannot exceed " ++ Json.natToString options.maxDepth ++ js " levels"))
  else .ok ()

mutual

/-- Checks a node with the budget left, and returns it with what is left of the budget. -/
def normalizePredicateNode (depth budget : Nat) :
    PredicateExpression → Except FrameworkError (PredicateExpression × Nat)
  | .group «match» predicates => do
      let budget ← consumeBudget options budget
      assertDepth options depth
      if predicates.isEmpty then
        throw (invalidPredicate options (js "Predicate group must include at least one predicate"))
      let (predicates, budget) ← normalizePredicateNodes (depth + 1) budget predicates
      return (.group «match» predicates, budget)
  | .not predicate => do
      let budget ← consumeBudget options budget
      assertDepth options depth
      let (predicate, budget) ← normalizePredicateNode (depth + 1) budget predicate
      return (.not predicate, budget)
  | .compare left operator right => do
      let budget ← consumeBudget options budget
      assertDepth options depth
      let comparison ← normalizeComparison doctype options left operator right
      return (comparison, budget)

def normalizePredicateNodes (depth budget : Nat) :
    List PredicateExpression → Except FrameworkError (List PredicateExpression × Nat)
  | [] => .ok ([], budget)
  | predicate :: rest => do
      let (predicate, budget) ← normalizePredicateNode depth budget predicate
      let (rest, budget) ← normalizePredicateNodes depth budget rest
      return (predicate :: rest, budget)

end

def normalizePredicateExpression (expression : PredicateExpression) :
    Except FrameworkError PredicateExpression := do
  let (expression, _) ← normalizePredicateNode doctype options 1 options.maxNodes expression
  return expression

end

/-! ## The text operators -/

/-- The characters a regular expression reads as syntax: `\^$.*+?()[]{}|`. -/
def isRegexSyntax (char : UInt16) : Bool :=
  [0x5C, 0x5E, 0x24, 0x2E, 0x2A, 0x2B, 0x3F, 0x28, 0x29, 0x5B, 0x5D, 0x7B, 0x7D, 0x7C].contains char

def escapeRegex (char : UInt16) : JsString := if isRegexSyntax char then [0x5C, char] else [char]

/-- The source of the regular expression of a `like` pattern. -/
def likePatternRegex : JsString → JsString
  | [] => []
  | char :: rest =>
    if char = 0x5C then
      match rest with
      | [] => js "(?!)"
      | next :: rest => escapeRegex next ++ likePatternRegex rest
    else if char = 0x25 then js "[\\s\\S]*" ++ likePatternRegex rest
    else if char = 0x5F then js "[\\s\\S]" ++ likePatternRegex rest
    else escapeRegex char ++ likePatternRegex rest

/-- The elements of the regular expressions that `likePatternRegex` writes: a character, any
character, any run of characters, and the assertion that always fails. -/
inductive RegexItem
  | char (char : UInt16)
  | any
  | anyRun
  | fail
  deriving DecidableEq

/-- Reads the source of a regular expression of that form; `none` for any other source. -/
def parseRegex : JsString → Option (List RegexItem)
  | [] => some []
  | char :: rest =>
    if char = 0x5B then
      -- `[\s\S]`, alone or repeated
      match rest with
      | 0x5C :: 0x73 :: 0x5C :: 0x53 :: 0x5D :: 0x2A :: rest => (parseRegex rest).map (.anyRun :: ·)
      | 0x5C :: 0x73 :: 0x5C :: 0x53 :: 0x5D :: rest => (parseRegex rest).map (.any :: ·)
      | _ => none
    else if char = 0x28 then
      -- `(?!)`
      match rest with
      | 0x3F :: 0x21 :: 0x29 :: rest => (parseRegex rest).map (.fail :: ·)
      | _ => none
    else if char = 0x5C then
      match rest with
      | next :: rest =>
        if isRegexSyntax next then (parseRegex rest).map (.char next :: ·) else none
      | [] => none
    else if isRegexSyntax char then none
    else (parseRegex rest).map (.char char :: ·)

/-- What an element takes, with case folded by `canonicalize`. -/
def RegexItem.atom (canonicalize : UInt16 → UInt16) : RegexItem → Wildcard.Atom UInt16
  | .char u => .one (fun c => canonicalize c == canonicalize u)
  | .any => .one (fun _ => true)
  | .anyRun => .star
  | .fail => .one (fun _ => false)

/-- `new RegExp("^" + source + "$", "i").test(text)`, for a source of that form. -/
def regexTest (canonicalize : UInt16 → UInt16) (source text : JsString) : Bool :=
  match parseRegex source with
  | some items => Wildcard.accepts (items.map (RegexItem.atom canonicalize)) text
  | none => false

section

variable (canonicalize : UInt16 → UInt16)

def likePatternMatches (actual : FieldValue) (pattern : JsString) : Bool :=
  regexTest canonicalize (likePatternRegex pattern) actual.toText

/-- Keeps the characters with a meaning in a pattern literal. -/
def escapeLikePattern (value : JsString) : JsString :=
  value.flatMap (fun char => if char = 0x5C ∨ char = 0x25 ∨ char = 0x5F then [0x5C, char] else [char])

def containsLikePattern (needle : JsString) : JsString := js "%" ++ escapeLikePattern needle ++ js "%"

def containsFoldedText (value needle : JsString) : Bool :=
  likePatternMatches canonicalize (.value (.str value)) (containsLikePattern needle)

/-! ## Comparison -/

/-- `undefined` or `null`. -/
def isAbsent : FieldValue → Bool
  | .undefined | .value .null => true
  | _ => false

def isScalar : Json → Bool
  | .bool _ | .num _ | .str _ => true
  | _ => false

/-- Not absent, and `typeof value` is not `"object"`. -/
def isComparable : FieldValue → Bool
  | .value json => isScalar json
  | .method _ => true
  | .undefined | .objectPrototype => false

def comparable (left right : FieldValue) : Bool := isComparable left && isComparable right

/-- The difference of the first bytes that differ, or of the lengths. -/
def compareBytes : List Nat → List Nat → Int
  | a :: as, b :: bs => if (a : Int) - b ≠ 0 then (a : Int) - b else compareBytes as bs
  | as, bs => (as.length : Int) - bs.length

def compareTextBinary (left right : JsString) : Int :=
  if left = right then 0 else compareBytes (textEncode left) (textEncode right)

def compareValues : FieldValue → FieldValue → Rat
  | .value (.num left), .value (.num right) => left - right
  | left, right => compareTextBinary left.toText (if isAbsent right then [] else right.toText)

def arrayItems : FieldValue → Option (List Json)
  | .value (.arr items) => some items
  | _ => none

def comparePredicateValues (actual : FieldValue) (operator : PredicateOperator) (expected : FieldValue) : Bool :=
  match operator with
  | .eq => jsonValuesEqual actual expected
  | .ne => !isAbsent actual && !jsonValuesEqual actual expected
  | .isIn =>
    !isAbsent actual && match arrayItems expected with
      | some items => items.any (fun value => jsonValuesEqual actual (.value value))
      | none => false
  | .notIn =>
    !isAbsent actual && match arrayItems expected with
      | some items => !items.any (fun value => jsonValuesEqual actual (.value value))
      | none => false
  | .is =>
    if expected = .value (.str (js "set")) then !isAbsent actual
    else decide (expected = .value (.str (js "not set"))) && isAbsent actual
  | .contains =>
    !isAbsent actual && !isAbsent expected && containsFoldedText canonicalize actual.toText expected.toText
  | .like =>
    match expected with
    | .value (.str pattern) => !isAbsent actual && likePatternMatches canonicalize actual pattern
    | _ => false
  | .notLike =>
    match expected with
    | .value (.str pattern) => !isAbsent actual && !likePatternMatches canonicalize actual pattern
    | _ => false
  | .gt => comparable actual expected && decide (compareValues actual expected > 0)
  | .gte => comparable actual expected && decide (compareValues actual expected ≥ 0)
  | .lt => comparable actual expected && decide (compareValues actual expected < 0)
  | .lte => comparable actual expected && decide (compareValues actual expected ≤ 0)
  | .between =>
    match arrayItems expected with
    | some [low, high] =>
      !isAbsent actual && comparable actual (.value low) && comparable actual (.value high) &&
        decide (compareValues actual (.value low) ≥ 0) && decide (compareValues actual (.value high) ≤ 0)
    | _ => false
  | .notBetween =>
    match arrayItems expected with
    | some [low, high] =>
      !isAbsent actual && comparable actual (.value low) && comparable actual (.value high) &&
        (decide (compareValues actual (.value low) < 0) || decide (compareValues actual (.value high) > 0))
    | _ => false

/-! ## Evaluation -/

/-- What a predicate can read; the event and the actor are given as the JSON they show. -/
structure PredicateEvaluationContext where
  before : Option DocumentSnapshot := none
  after : Option DocumentSnapshot := none
  input : DocumentData := []
  event : Option Json := none
  actor : Option Json := none

def predicateDocumentValue (document : Option DocumentSnapshot) (field : JsString) : FieldValue :=
  match document with
  | none => .undefined
  | some document =>
    if field = js "system.name" then .value (.str document.name)
    else if field = js "system.docstatus" then .value (.str (document.docstatus.toText))
    else if field = js "system.createdAt" then .value (.str document.createdAt)
    else if field = js "system.updatedAt" then .value (.str document.updatedAt)
    else if field = js "system.version" then .value (.num document.version)
    else readField document.data field

/-- A path goes through the own properties of objects. -/
def readPredicatePath : Option Json → List JsString → Option Json
  | current, [] => current
  | some (.obj members), segment :: path => readPredicatePath (Record.get members segment) path
  | _, _ :: _ => none

def predicateOperandValue (context : PredicateEvaluationContext) : PredicateOperand → FieldValue
  | .literal value => .value value
  | .field .before field => predicateDocumentValue context.before field
  | .field .after field => predicateDocumentValue context.after field
  | .path .input path => .ofOption (readPredicatePath (some (.obj context.input)) path)
  | .path .event path => .ofOption (readPredicatePath context.event path)
  | .path .actor path => .ofOption (readPredicatePath context.actor path)

mutual

def evaluatePredicateExpression (context : PredicateEvaluationContext) : PredicateExpression → Bool
  | .group .all predicates => evaluateAll context predicates
  | .group .any predicates => evaluateAny context predicates
  | .not predicate => !evaluatePredicateExpression context predicate
  | .compare left operator right =>
    comparePredicateValues canonicalize (predicateOperandValue context left) operator
      (predicateOperandValue context right)

def evaluateAll (context : PredicateEvaluationContext) : List PredicateExpression → Bool
  | [] => true
  | predicate :: rest => evaluatePredicateExpression context predicate && evaluateAll context rest

def evaluateAny (context : PredicateEvaluationContext) : List PredicateExpression → Bool
  | [] => false
  | predicate :: rest => evaluatePredicateExpression context predicate || evaluateAny context rest

end

end

theorem evaluateAll_eq (canonicalize : UInt16 → UInt16) (context : PredicateEvaluationContext)
    (predicates : List PredicateExpression) :
    evaluateAll canonicalize context predicates =
      predicates.all (evaluatePredicateExpression canonicalize context) := by
  induction predicates with
  | nil => rfl
  | cons predicate rest ih => rw [evaluateAll, ih, List.all_cons]

theorem evaluateAny_eq (canonicalize : UInt16 → UInt16) (context : PredicateEvaluationContext)
    (predicates : List PredicateExpression) :
    evaluateAny canonicalize context predicates =
      predicates.any (evaluatePredicateExpression canonicalize context) := by
  induction predicates with
  | nil => rfl
  | cons predicate rest ih => rw [evaluateAny, ih, List.any_cons]
