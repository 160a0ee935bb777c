import CfFrappe.Core.Schema
import CfFrappe.Core.Streams

set_option autoImplicit false

/-! # Naming series

A naming series renders document names from a pattern with one running number. The number
comes from a counter; which counter a document uses (its identity) may depend on the date and
on fields of the document. Numbers are natural numbers within the safe integers. The engine
that parses the clock's text into a date, and the matcher of regular-expression exclusions, are
parameters.
-/

open Utf

namespace Naming

def maxPatternLength : Nat := 256
def maxPatternTokens : Nat := 32
def maxIdentifierLength : Nat := 255
def maxFieldTokenLength : Nat := 128
def maxCounterLength : Nat := 64
def maxExclusions : Nat := 100
def maxExclusionTextLength : Nat := 255
def maxPadding : Nat := 18
def defaultMaxAttempts : Nat := 10000
def maxSafeInteger : Nat := 2 ^ 53 - 1

def invalidNaming (message : JsString) (status : Nat) : FrameworkError := { code := .namingInvalid, message, status }

def hasUnsafeControlCharacter (value : JsString) : Bool := value.any (fun u => u ≤ 0x1F || u == 0x7F)

/-! ## Dates -/

/-- A date in UTC; the month counts from 1. -/
structure UtcDate where
  year : Int
  month : Nat
  day : Nat
  deriving DecidableEq

/-- `String(n)` of an integer. -/
def intToString (n : Int) : JsString :=
  if n < 0 then js "-" ++ Json.natToString n.natAbs else Json.natToString n.natAbs

/-- The days from 1970-01-01 to a date of the Gregorian calendar. -/
def dayNumber (year : Int) (month day : Nat) : Int :=
  let y := if month ≤ 2 then year - 1 else year
  let era := y.fdiv 400
  let yearOfEra := y - era * 400
  let monthFromMarch : Int := if month ≤ 2 then month + 9 else month - 3
  let dayOfYear := (153 * monthFromMarch + 2) / 5 + day - 1
  era * 146097 + yearOfEra * 365 + yearOfEra / 4 - yearOfEra / 100 + dayOfYear - 719468

/-- The year that `Date.UTC` takes its argument for: years up to 99 are years of the twentieth century. -/
def utcYear (year : Int) : Int := if 0 ≤ year ∧ year ≤ 99 then 1900 + year else year

/-- The days of `Date.UTC(year, month, day)`. Farther than a hundred million days from 1970 there are no dates, and
the result is `NaN`. -/
def dateUtc (year : Int) (month day : Nat) : Option Int :=
  if (dayNumber (utcYear year) month day).natAbs ≤ 100000000 then some (dayNumber (utcYear year) month day) else none

def dayOfYear (date : UtcDate) : Option Int := do
  let start ← dateUtc date.year 1 1
  let day ← dateUtc date.year date.month date.day
  return day - start + 1

/-- The week of the Thursday of the date's week. -/
def isoWeek (date : UtcDate) : Option Int := do
  let days ← dateUtc date.year date.month date.day
  let weekday := (days + 4).fmod 7
  let thursday := days + 4 - (if weekday = 0 then 7 else weekday)
  let year :=
    if thursday < dayNumber (utcYear date.year) 1 1 then utcYear date.year - 1
    else if dayNumber (utcYear date.year + 1) 1 1 ≤ thursday then utcYear date.year + 1
    else utcYear date.year
  let start ← dateUtc year 1 1
  return (thursday - start) / 7 + 1

/-- `String(n)` of an integer or `NaN`. -/
def countText : Option Int → JsString
  | some n => intToString n
  | none => js "NaN"

inductive DateToken
  | yyyy | yy | mm | dd | ddd | ww
  deriving DecidableEq

def renderDateToken (date : UtcDate) : DateToken → JsString
  | .yyyy => Json.padZeros 4 (intToString date.year)
  | .yy => Json.padZeros 2 (intToString (date.year.tmod 100))
  | .mm => Json.padZeros 2 (Json.natToString date.month)
  | .dd => Json.padZeros 2 (Json.natToString date.day)
  | .ddd => Json.padZeros 3 (countText (dayOfYear date))
  | .ww => Json.padZeros 2 (countText (isoWeek date))

/-- The first of January of the year that the dates begin in is no date. -/
example : renderDateToken ⟨-271821, 4, 20⟩ .ddd = js "NaN" := by decide +kernel

def dateBucket (date : UtcDate) (reset : NamingSeriesReset) : JsString :=
  let year := Json.padZeros 4 (intToString date.year)
  let month := Json.padZeros 2 (Json.natToString date.month)
  match reset with
  | .never => []
  | .year => year
  | .month => year ++ js "-" ++ month
  | .day => year ++ js "-" ++ month ++ js "-" ++ Json.padZeros 2 (Json.natToString date.day)

/-! ## Patterns -/

inductive PatternToken
  | literal (value : JsString)
  | sequence (width : Option Nat)
  | date (token : DateToken)
  | tenant
  | doctype
  | field (field : JsString)
  deriving DecidableEq

def requiredText (value label : JsString) (maxLength : Nat) : Except FrameworkError JsString :=
  if (Json.trim value).isEmpty || value.length > maxLength || hasUnsafeControlCharacter value then
    .error (invalidNaming (label ++ js " must contain 1-" ++ Json.natToString maxLength ++ js " safe characters") 400)
  else .ok value

/-- The width in `sequence:1` to `sequence:18`. -/
def sequenceWidth (digits : JsString) : Option Nat :=
  (List.range maxPadding).find? (fun n => Json.natToString (n + 1) == digits) |>.map (· + 1)

def parsePatternToken (doctype : DocTypeDefinition) (value : JsString) : Except FrameworkError PatternToken :=
  if value = js "sequence" then .ok (.sequence none)
  else if (js "sequence:").isPrefixOf value && (sequenceWidth (value.drop 9)).isSome then
    .ok (.sequence (sequenceWidth (value.drop 9)))
  else if value = js "YYYY" then .ok (.date .yyyy)
  else if value = js "YY" then .ok (.date .yy)
  else if value = js "MM" then .ok (.date .mm)
  else if value = js "DD" then .ok (.date .dd)
  else if value = js "DDD" then .ok (.date .ddd)
  else if value = js "WW" then .ok (.date .ww)
  else if value = js "tenant" then .ok .tenant
  else if value = js "doctype" then .ok .doctype
  else if (js "field:").isPrefixOf value then do
    let field ← requiredText (value.drop 6) (js "Naming field token") maxFieldTokenLength
    ensure (doctype.field? field).isSome
      (invalidNaming (js "Naming field token '" ++ field ++ js "' is not defined on " ++ doctype.name) 400)
    return .field field
  else .error (invalidNaming (js "Unknown naming token '\x7b" ++ value ++ js "\x7d'") 400)

/-- The literal that has been read, as a token. -/
def flushLiteral (literal : JsString) : List PatternToken := if literal.isEmpty then [] else [.literal literal]

/-- The loop of `compileNamingPattern`, with the literal read so far. Each turn takes at least one
character, so that the length of the pattern is enough fuel. -/
def compileTokens (doctype : DocTypeDefinition) : Nat → JsString → JsString →
    Except FrameworkError (List PatternToken)
  | 0, literal, _ => .ok (flushLiteral literal)
  | _ + 1, literal, [] => .ok (flushLiteral literal)
  | fuel + 1, literal, character :: rest =>
    if character = 0x23 then do
      let width := (rest.takeWhile (· == 0x23)).length + 1
      ensure (width ≤ maxPadding)
        (invalidNaming (js "Naming sequence width cannot exceed " ++ Json.natToString maxPadding) 400)
      let tokens ← compileTokens doctype fuel [] (rest.dropWhile (· == 0x23))
      return flushLiteral literal ++ [.sequence (some width)] ++ tokens
    else if character = 0x7B then do
      ensure (rest.contains 0x7D) (invalidNaming (js "Naming pattern contains an unclosed token") 400)
      let token ← parsePatternToken doctype (rest.takeWhile (· != 0x7D))
      let tokens ← compileTokens doctype fuel [] ((rest.dropWhile (· != 0x7D)).drop 1)
      return flushLiteral literal ++ [token] ++ tokens
    else if character = 0x7D then
      .error (invalidNaming (js "Naming pattern contains an unmatched closing brace") 400)
    else compileTokens doctype fuel (literal ++ [character]) rest

def isSequenceToken : PatternToken → Bool
  | .sequence _ => true
  | _ => false

def compileNamingPattern (doctype : DocTypeDefinition) (strategy : NamingSeriesStrategy) :
    Except FrameworkError (List PatternToken) := do
  let tokens ← compileTokens doctype strategy.pattern.length [] strategy.pattern
  ensure (tokens.length ≤ maxPatternTokens)
    (invalidNaming (js "Naming pattern cannot contain more than " ++ Json.natToString maxPatternTokens ++
      js " tokens") 400)
  ensure ((tokens.filter isSequenceToken).length == 1)
    (invalidNaming (js "Naming series must contain exactly one sequence token") 400)
  return tokens

/-! ## Rendering -/

structure RenderContext where
  tenantId : TenantId
  now : Timestamp

def namingFieldValue (value : Option Json) (field : JsString) : Except FrameworkError JsString :=
  match value with
  | some (.str _) | some (.num _) | some (.bool _) =>
    let rendered := Json.trim ((value.map Json.toText).getD [])
    if rendered.isEmpty || rendered.length > maxFieldTokenLength || hasUnsafeControlCharacter rendered then
      .error (invalidNaming (js "Naming field '" ++ field ++ js "' must contain 1-" ++
        Json.natToString maxFieldTokenLength ++ js " safe characters") 422)
    else .ok rendered
  | _ => .error (invalidNaming (js "Naming field '" ++ field ++ js "' must contain a scalar value") 422)

section

variable (parseDate : Timestamp → Option UtcDate)

def parsedDate (value : Timestamp) : Except FrameworkError UtcDate :=
  match parseDate value with
  | some date => .ok date
  | none => .error (invalidNaming (js "Naming clock value '" ++ value ++ js "' is invalid") 500)

/-- The text of a token for a sequence value. -/
def renderToken (doctype : DocTypeDefinition) (strategy : NamingSeriesStrategy) (data : DocumentData)
    (tenantId : TenantId) (date : UtcDate) (value : Nat) : PatternToken → Except FrameworkError JsString
  | .literal text => .ok text
  | .sequence width => .ok (Json.padZeros (width.getD (strategy.padding.getD 4)) (Json.natToString value))
  | .date token => .ok (renderDateToken date token)
  | .tenant => .ok tenantId
  | .doctype => .ok doctype.name
  | .field field => namingFieldValue (Record.get data field) field

/-- The texts of the tokens one after the other. -/
def renderTokens (doctype : DocTypeDefinition) (strategy : NamingSeriesStrategy) (data : DocumentData)
    (tenantId : TenantId) (date : UtcDate) (value : Nat) :
    List PatternToken → Except FrameworkError JsString
  | [] => .ok []
  | token :: tokens => do
      let first ← renderToken doctype strategy data tenantId date value token
      let rest ← renderTokens doctype strategy data tenantId date value tokens
      return first ++ rest

def renderNamingCandidate (doctype : DocTypeDefinition) (strategy : NamingSeriesStrategy) (data : DocumentData)
    (context : RenderContext) (value : Nat) (compiled : List PatternToken) :
    Except FrameworkError JsString := do
  ensure (value ≤ maxSafeInteger)
    (invalidNaming (js "Naming sequence value must be a non-negative safe integer") 409)
  let date ← parsedDate parseDate context.now
  let name ← renderTokens doctype strategy data context.tenantId date value compiled
  ensure (!name.isEmpty && name.length ≤ maxIdentifierLength && !hasUnsafeControlCharacter name)
    (invalidNaming (js "Generated name must contain 1-" ++ Json.natToString maxIdentifierLength ++
      js " safe characters") 409)
  return name

/-! ## The identity of a counter -/

structure SeriesIdentity where
  counter : JsString
  scope : JsString
  documentName : DocumentName
  deriving DecidableEq

/-- The part of a scope field: its name and its encoded value. -/
def scopePart (data : DocumentData) (field : JsString) : Except FrameworkError JsString := do
  let value ← namingFieldValue (Record.get data field) field
  match PercentEncoding.encodeURIComponent value with
  | some encoded => return field ++ js "=" ++ encoded
  | none => throw (.ofError (js "URI malformed"))

def scopeParts (data : DocumentData) : List JsString → Except FrameworkError (List JsString)
  | [] => .ok []
  | field :: fields => do
      let first ← scopePart data field
      let rest ← scopeParts data fields
      return first :: rest

def resolveNamingSeriesIdentity (doctype : DocTypeDefinition) (strategy : NamingSeriesStrategy)
    (data : DocumentData) (context : RenderContext) : Except FrameworkError SeriesIdentity := do
  let counter := strategy.counter.getD strategy.pattern
  let datePart ← match strategy.reset.getD .never with
    | .never => .ok []
    | reset => do
        let date ← parsedDate parseDate context.now
        .ok [js "date=" ++ dateBucket date reset]
  let fieldParts ← scopeParts data (strategy.scopeFields.getD [])
  let scope := (js "|").intercalate (datePart ++ fieldParts)
  return { counter, scope
           documentName := doctype.name ++ js ":" ++ counter ++ if scope.isEmpty then [] else js ":" ++ scope }

/-! ## Candidates -/

/-- An exclusion, ready to be tested on a value and its name. -/
abbrev CompiledExclusion := Nat → JsString → Bool

variable (safeRegex : JsString → Bool → Except FrameworkError (JsString → Bool))

def compileExclusion : NamingSeriesExclusion → Except FrameworkError CompiledExclusion
  | .exact value => do
      let value ← requiredText value (js "Naming exact exclusion") maxExclusionTextLength
      return fun _ name => name == value
  | .hasPrefix value => do
      let value ← requiredText value (js "Naming prefix exclusion") maxExclusionTextLength
      return fun _ name => value.isPrefixOf name
  | .hasSuffix value => do
      let value ← requiredText value (js "Naming suffix exclusion") maxExclusionTextLength
      return fun _ name => value.isSuffixOf name
  | .contains value => do
      let value ← requiredText value (js "Naming contains exclusion") maxExclusionTextLength
      return fun _ name => name.tails.any (fun tail => value.isPrefixOf tail)
  | .range first last => do
      ensure (Json.isSafeInteger first && Json.isSafeInteger last && 0 ≤ first && first ≤ last)
        (invalidNaming (js "Naming exclusion range must contain ordered non-negative safe integers") 400)
      return fun value _ => decide (first ≤ value) && decide ((value : Rat) ≤ last)
  | .regex pattern ignoreCase => do
      let matcher ← safeRegex pattern ignoreCase
      return fun _ name => matcher name

def compileExclusions (exclusions : List NamingSeriesExclusion) :
    Except FrameworkError (List CompiledExclusion) := do
  ensure (exclusions.length ≤ maxExclusions)
    (invalidNaming (js "Naming exclusions cannot contain more than " ++ Json.natToString maxExclusions ++
      js " entries") 400)
  exclusions.mapM (compileExclusion safeRegex)

def isExcluded (exclusions : List CompiledExclusion) (value : Nat) (name : JsString) : Bool :=
  exclusions.any (fun exclusion => exclusion value name)

def safeAdd (value increment : Nat) : Except FrameworkError Nat := do
  ensure (value + increment ≤ maxSafeInteger)
    (invalidNaming (js "Naming sequence exhausted the safe integer range") 409)
  return value + increment

structure NamingCandidate where
  value : Nat
  name : DocumentName
  deriving DecidableEq

structure NamingCandidateScan where
  candidates : List NamingCandidate
  attempts : Nat
  deriving DecidableEq

/-- What a scan works with. -/
structure ScanInput where
  doctype : DocTypeDefinition
  strategy : NamingSeriesStrategy
  data : DocumentData
  context : RenderContext
  current : Option Nat := none
  count : Nat := 1
  attemptLimit : Option Nat := none

/-- The loop of `scanNamingCandidates`: `remaining` attempts may still be made, `attempts` have
been, and `found` are the candidates so far. -/
def scanLoop (input : ScanInput) (compiled : List PatternToken) (exclusions : List CompiledExclusion)
    (step : Nat) : (remaining candidate attempts : Nat) → (found : List NamingCandidate) →
    Except FrameworkError NamingCandidateScan
  | remaining, candidate, attempts, found =>
    if input.count ≤ found.length then .ok { candidates := found, attempts }
    else
      match remaining with
      | 0 => .error (invalidNaming (js "Naming series for " ++ input.doctype.name ++
          js " could not find an allowed value within the configured attempt limit") 409)
      | remaining + 1 => do
          let name ← renderNamingCandidate parseDate input.doctype input.strategy input.data input.context
            candidate compiled
          let found := if isExcluded exclusions candidate name then found
            else found ++ [{ value := candidate, name }]
          let next ← safeAdd candidate step
          scanLoop input compiled exclusions step remaining next (attempts + 1) found

/-- The value a scan starts with. -/
def firstCandidate (strategy : NamingSeriesStrategy) : Option Nat → Except FrameworkError Nat
  | none => .ok (strategy.start.getD 1)
  | some current => safeAdd current (strategy.step.getD 1)

def scanNamingCandidates (input : ScanInput) : Except FrameworkError NamingCandidateScan := do
  ensure (1 ≤ input.count && input.count ≤ 100)
    (invalidNaming (js "Naming preview count must be an integer between 1 and 100") 400)
  let compiled ← compileNamingPattern input.doctype input.strategy
  let exclusions ← compileExclusions safeRegex (input.strategy.exclusions.getD [])
  let step := input.strategy.step.getD 1
  let configuredAttemptLimit := input.strategy.maxAttempts.getD defaultMaxAttempts
  let attemptLimit := input.attemptLimit.getD configuredAttemptLimit
  ensure (1 ≤ attemptLimit && attemptLimit ≤ configuredAttemptLimit)
    (invalidNaming (js "Naming attempt limit must be an integer between 1 and " ++
      Json.natToString configuredAttemptLimit) 400)
  let candidate ← firstCandidate input.strategy input.current
  scanLoop parseDate input compiled exclusions step attemptLimit candidate 0 []

end

def namingTargetData (strategy : NamingSeriesStrategy) (data : DocumentData) (name : DocumentName) :
    DocumentData :=
  match strategy.targetField with
  | none => data
  | some targetField => Record.set data targetField (.str name)

/-- The stored value of a counter, when it is a natural number within the safe integers. -/
def namingSeriesCurrentValue (value : Option Json) : Option Nat :=
  match value with
  | some (.num n) => if Json.isSafeInteger n && 0 ≤ n then some n.num.toNat else none
  | _ => none

/-! ## Normalization -/

def optionalText (value : Option JsString) (label : JsString) (maxLength : Nat) : Except FrameworkError Unit :=
  match value with
  | none => .ok ()
  | some value => do
      let _ ← requiredText value label maxLength
      return ()

def optionalInteger (value : Option Nat) (label : JsString) (min max : Nat) : Except FrameworkError Unit :=
  match value with
  | none => .ok ()
  | some value =>
    ensure (min ≤ value && value ≤ max)
      (invalidNaming (label ++ js " must be an integer between " ++ Json.natToString min ++ js " and " ++
        Json.natToString max) 400)

def uniqueStrings (values : List JsString) (label : JsString) (maxLength : Nat) : Except FrameworkError Unit := do
  let normalized ← values.mapM (requiredText · label maxLength)
  ensure (decide normalized.Nodup) (invalidNaming (label ++ js " values must be unique") 400)

def assertTargetField (doctype : DocTypeDefinition) (strategy : NamingSeriesStrategy) :
    Except FrameworkError Unit :=
  match strategy.targetField with
  | none => .ok ()
  | some targetField =>
    let place := js "Naming target field '" ++ targetField ++ js "' "
    match doctype.field? targetField with
    | none => .error (invalidNaming (place ++ js "is not defined on " ++ doctype.name) 400)
    | some field => do
        ensure (field.type == .text)
          (invalidNaming (place ++ js "on " ++ doctype.name ++ js " must be a text field") 400)
        ensure (field.readOnly && field.noCopy)
          (invalidNaming (place ++ js "on " ++ doctype.name ++
            js " must be read-only and excluded from copies") 400)

def assertScopeField (doctype : DocTypeDefinition) (field : JsString) : Except FrameworkError Unit :=
  let place := js "Naming scope field '" ++ field ++ js "' "
  match doctype.field? field with
  | none => .error (invalidNaming (place ++ js "is not defined on " ++ doctype.name) 400)
  | some definition =>
    ensure (!([FieldType.table, .json, .longText].contains definition.type))
      (invalidNaming (place ++ js "on " ++ doctype.name ++ js " must be a scalar field") 400)

/-- The date tokens that a reset period asks for. -/
def assertResetIsVisible (reset : NamingSeriesReset) (compiled : List PatternToken) : Except FrameworkError Unit :=
  let has (token : DateToken) : Bool := compiled.contains (.date token)
  match reset with
  | .never => .ok ()
  | .year =>
    ensure (has .yyyy) (invalidNaming (js "Year-reset naming patterns must include '\x7bYYYY\x7d'") 400)
  | .month =>
    ensure (has .yyyy && has .mm)
      (invalidNaming (js "Month-reset naming patterns must include '\x7bYYYY\x7d' and '\x7bMM\x7d'") 400)
  | .day =>
    ensure (has .yyyy && (has .ddd || (has .mm && has .dd)))
      (invalidNaming (js "Day-reset naming patterns must include '\x7bYYYY\x7d' and either '\x7bDDD\x7d' " ++
        js "or both '\x7bMM\x7d' and '\x7bDD\x7d'") 400)

/-- The parts of a counter's identity are part of the names it renders. -/
def assertCounterScopeIsVisible (strategy : NamingSeriesStrategy) (compiled : List PatternToken) :
    Except FrameworkError Unit :=
  match (strategy.scopeFields.getD []).find? (fun field => !compiled.contains (.field field)) with
  | some field => .error (invalidNaming (js "Naming scope field '" ++ field ++
      js "' must appear in the pattern as '\x7bfield:" ++ field ++ js "\x7d'") 400)
  | none => assertResetIsVisible (strategy.reset.getD .never) compiled

def assertSeriesDefinition (doctype : DocTypeDefinition) (strategy : NamingSeriesStrategy) :
    Except FrameworkError Unit := do
  ensure (strategy.counter.all isNamingCounter)
    (invalidNaming (js "Naming counter may contain only letters, numbers, dot, underscore, and hyphen") 400)
  assertTargetField doctype strategy
  let _ ← (strategy.scopeFields.getD []).mapM (assertScopeField doctype)
  let compiled ← compileNamingPattern doctype strategy
  assertCounterScopeIsVisible strategy compiled

/-- `normalizeNamingStrategy` of a series: it returns the strategy as it is, or throws. -/
def normalizeSeries (safeRegex : JsString → Bool → Except FrameworkError (JsString → Bool))
    (doctype : DocTypeDefinition) (strategy : NamingSeriesStrategy) :
    Except FrameworkError NamingSeriesStrategy := do
  let _ ← requiredText strategy.pattern (js "Naming pattern") maxPatternLength
  optionalText strategy.targetField (js "Naming target field") maxFieldTokenLength
  optionalText strategy.counter (js "Naming counter") maxCounterLength
  optionalInteger strategy.padding (js "Naming padding") 1 maxPadding
  optionalInteger strategy.start (js "Naming start") 1 maxSafeInteger
  optionalInteger strategy.step (js "Naming step") 1 maxSafeInteger
  uniqueStrings (strategy.scopeFields.getD []) (js "Naming scope field") maxFieldTokenLength
  let _ ← compileExclusions safeRegex (strategy.exclusions.getD [])
  optionalInteger strategy.maxAttempts (js "Naming max attempts") 1 defaultMaxAttempts
  assertSeriesDefinition doctype strategy
  return strategy

/-! ## Facts -/

section

variable {parseDate : Timestamp → Option UtcDate}
variable {safeRegex : JsString → Bool → Except FrameworkError (JsString → Bool)}
variable {doctype : DocTypeDefinition} {strategy : NamingSeriesStrategy}

theorem optionalInteger_ok {value : Option Nat} {label : JsString} {min max : Nat} {u : Unit}
    (h : optionalInteger value label min max = .ok u) {n : Nat} (hn : value = some n) : min ≤ n ∧ n ≤ max := by
  subst hn
  have hin := ensure_eq_ok h
  simpa using hin

/-- A normalized series has a positive step. -/
theorem normalizeSeries_step {result : NamingSeriesStrategy}
    (h : normalizeSeries safeRegex doctype strategy = .ok result) : 1 ≤ strategy.step.getD 1 := by
  obtain ⟨_, -, h⟩ := except_bind_eq_ok h
  obtain ⟨_, -, h⟩ := except_bind_eq_ok h
  obtain ⟨_, -, h⟩ := except_bind_eq_ok h
  obtain ⟨_, -, h⟩ := except_bind_eq_ok h
  obtain ⟨_, -, h⟩ := except_bind_eq_ok h
  obtain ⟨_, hstep, h⟩ := except_bind_eq_ok h
  cases hvalue : strategy.step with
  | none => exact Nat.le_refl 1
  | some n => exact (optionalInteger_ok hstep hvalue).1

theorem safeAdd_ok {value increment result : Nat} (h : safeAdd value increment = .ok result) :
    result = value + increment ∧ result ≤ maxSafeInteger := by
  obtain ⟨_, hbound, h⟩ := except_bind_eq_ok h
  have hle := ensure_eq_ok hbound
  cases h
  exact ⟨rfl, by simpa using hle⟩

theorem renderNamingCandidate_ok {data : DocumentData} {context : RenderContext} {value : Nat}
    {compiled : List PatternToken} {name : JsString}
    (h : renderNamingCandidate parseDate doctype strategy data context value compiled = .ok name) :
    value ≤ maxSafeInteger ∧ name ≠ [] ∧ ∃ date, parseDate context.now = some date ∧
      renderTokens doctype strategy data context.tenantId date value compiled = .ok name := by
  obtain ⟨_, hvalue, h⟩ := except_bind_eq_ok h
  obtain ⟨date, hdate, h⟩ := except_bind_eq_ok h
  obtain ⟨rendered, hrendered, h⟩ := except_bind_eq_ok h
  obtain ⟨_, hname, h⟩ := except_bind_eq_ok h
  cases h
  refine ⟨by simpa using ensure_eq_ok hvalue, ?_, date, ?_, hrendered⟩
  · have hchecked := ensure_eq_ok hname
    simp only [Bool.and_eq_true, Bool.not_eq_true', List.isEmpty_eq_false_iff] at hchecked
    exact hchecked.1.1
  · unfold parsedDate at hdate
    split at hdate
    · rename_i found hfound
      rw [hfound, Except.ok.inj hdate]
    · exact nomatch hdate

/-- The candidates of a scan: each was rendered from its value, which is not below the first
value tried. -/
theorem scanLoop_ok {input : ScanInput} {compiled : List PatternToken} {exclusions : List CompiledExclusion}
    {step remaining candidate attempts lowest : Nat} {found : List NamingCandidate}
    {scan : NamingCandidateScan}
    (h : scanLoop parseDate input compiled exclusions step remaining candidate attempts found = .ok scan)
    (hlowest : lowest ≤ candidate)
    (hfound : ∀ c ∈ found, lowest ≤ c.value ∧
      renderNamingCandidate parseDate input.doctype input.strategy input.data input.context c.value compiled =
        .ok c.name) :
    input.count ≤ scan.candidates.length ∧ ∀ c ∈ scan.candidates, lowest ≤ c.value ∧
      renderNamingCandidate parseDate input.doctype input.strategy input.data input.context c.value compiled =
        .ok c.name := by
  induction remaining generalizing candidate attempts found with
  | zero =>
    unfold scanLoop at h
    split_ifs at h with hdone
    rw [← Except.ok.inj h]
    exact ⟨hdone, hfound⟩
  | succ remaining ih =>
    unfold scanLoop at h
    split_ifs at h with hdone
    · rw [← Except.ok.inj h]
      exact ⟨hdone, hfound⟩
    · obtain ⟨name, hname, h⟩ := except_bind_eq_ok h
      obtain ⟨next, hnext, h⟩ := except_bind_eq_ok h
      refine ih h (by rw [(safeAdd_ok hnext).1]; omega) ?_
      intro c hc
      split_ifs at hc
      · exact hfound c hc
      · rcases List.mem_append.mp hc with hold | hnew
        · exact hfound c hold
        · rw [List.mem_singleton] at hnew
          subst hnew
          exact ⟨hlowest, hname⟩

/-- A list with one sequence token: the tokens before and after it are no sequence tokens. -/
theorem split_at_sequence {tokens : List PatternToken} (h : (tokens.filter isSequenceToken).length = 1) :
    ∃ before width after, tokens = before ++ .sequence width :: after ∧
      (∀ token ∈ before, isSequenceToken token = false) ∧ ∀ token ∈ after, isSequenceToken token = false := by
  induction tokens with
  | nil => exact absurd h (by decide)
  | cons token tokens ih =>
    by_cases htoken : isSequenceToken token = true
    · rw [List.filter_cons_of_pos htoken, List.length_cons] at h
      have hnone : tokens.filter isSequenceToken = [] := List.eq_nil_of_length_eq_zero (by omega)
      cases token with
      | sequence width =>
        refine ⟨[], width, tokens, rfl, by simp, ?_⟩
        intro other hother
        have hnot := List.filter_eq_nil_iff.mp hnone other hother
        simpa using hnot
      | _ => exact absurd htoken (by simp [isSequenceToken])
    · rw [List.filter_cons_of_neg htoken] at h
      obtain ⟨before, width, after, rfl, hbefore, hafter⟩ := ih h
      refine ⟨token :: before, width, after, rfl, ?_, hafter⟩
      intro other hother
      rcases List.mem_cons.mp hother with rfl | hother
      · simpa using htoken
      · exact hbefore other hother

theorem compileNamingPattern_ok {compiled : List PatternToken}
    (h : compileNamingPattern doctype strategy = .ok compiled) :
    ∃ before width after, compiled = before ++ .sequence width :: after ∧
      (∀ token ∈ before, isSequenceToken token = false) ∧ ∀ token ∈ after, isSequenceToken token = false := by
  obtain ⟨tokens, -, h⟩ := except_bind_eq_ok h
  obtain ⟨_, -, h⟩ := except_bind_eq_ok h
  obtain ⟨_, hone, h⟩ := except_bind_eq_ok h
  cases h
  exact split_at_sequence (by simpa using ensure_eq_ok hone)

theorem renderTokens_append {data : DocumentData} {tenantId : TenantId} {date : UtcDate} {value : Nat}
    {a b : List PatternToken} {text : JsString}
    (h : renderTokens doctype strategy data tenantId date value (a ++ b) = .ok text) :
    ∃ x y, renderTokens doctype strategy data tenantId date value a = .ok x ∧
      renderTokens doctype strategy data tenantId date value b = .ok y ∧ text = x ++ y := by
  induction a generalizing text with
  | nil => exact ⟨[], text, rfl, h, rfl⟩
  | cons token a ih =>
    obtain ⟨first, hfirst, h⟩ := except_bind_eq_ok h
    obtain ⟨rest, hrest, h⟩ := except_bind_eq_ok h
    cases h
    obtain ⟨x, y, hx, hy, rfl⟩ := ih hrest
    refine ⟨first ++ x, y, ?_, hy, (List.append_assoc _ _ _).symm⟩
    simp only [renderTokens, hfirst, hx]
    rfl

/-- Only the sequence token depends on the value. -/
theorem renderTokens_value {data : DocumentData} {tenantId : TenantId} {date : UtcDate} (value value' : Nat)
    {tokens : List PatternToken} (h : ∀ token ∈ tokens, isSequenceToken token = false) :
    renderTokens doctype strategy data tenantId date value tokens =
      renderTokens doctype strategy data tenantId date value' tokens := by
  induction tokens with
  | nil => rfl
  | cons token tokens ih =>
    have hrest := ih (fun other hother => h other (List.mem_cons_of_mem _ hother))
    have htoken := h token List.mem_cons_self
    simp only [renderTokens, hrest]
    cases token with
    | sequence width => exact absurd htoken (by simp [isSequenceToken])
    | _ => rfl

/-- **Different values render to different names**, from the same data, tenant and date. -/
theorem renderTokens_injective {data : DocumentData} {tenantId : TenantId} {date : UtcDate} {value value' : Nat}
    {compiled : List PatternToken} {name : JsString}
    (hcompiled : compileNamingPattern doctype strategy = .ok compiled)
    (h : renderTokens doctype strategy data tenantId date value compiled = .ok name)
    (h' : renderTokens doctype strategy data tenantId date value' compiled = .ok name) : value = value' := by
  obtain ⟨before, width, after, rfl, hbefore, hafter⟩ := compileNamingPattern_ok hcompiled
  obtain ⟨x, y, hx, hy, hname⟩ := renderTokens_append h
  obtain ⟨x', y', hx', hy', hname'⟩ := renderTokens_append h'
  rw [renderTokens_value value value' hbefore, hx'] at hx
  obtain ⟨rest, hrest, hy⟩ := except_bind_eq_ok hy
  obtain ⟨rest', hrest', hy'⟩ := except_bind_eq_ok hy'
  rw [renderTokens_value value value' hafter, hrest'] at hrest
  cases hx
  cases hy
  cases hy'
  cases hrest
  have heq := hname.symm.trans hname'
  rw [List.append_cancel_left_eq] at heq
  exact Json.padZeros_natToString_injective (List.append_cancel_right heq)

/-- Every candidate of a scan carries the name that its value renders to. -/
theorem scanned_rendered {input : ScanInput} {scan : NamingCandidateScan}
    (h : scanNamingCandidates parseDate safeRegex input = .ok scan) :
    ∃ compiled, compileNamingPattern input.doctype input.strategy = .ok compiled ∧ ∀ c ∈ scan.candidates,
      ∃ date, parseDate input.context.now = some date ∧
        renderTokens input.doctype input.strategy input.data input.context.tenantId date c.value compiled =
          .ok c.name := by
  obtain ⟨_, -, h⟩ := except_bind_eq_ok h
  obtain ⟨compiled, hcompiled, h⟩ := except_bind_eq_ok h
  obtain ⟨_, -, h⟩ := except_bind_eq_ok h
  obtain ⟨_, -, h⟩ := except_bind_eq_ok h
  obtain ⟨candidate, -, h⟩ := except_bind_eq_ok h
  refine ⟨compiled, hcompiled, ?_⟩
  intro c hc
  obtain ⟨_, -, hrendered⟩ := except_bind_eq_ok ((scanLoop_ok h (Nat.zero_le candidate) (by simp)).2 c hc).2
  obtain ⟨date, hdate, hrendered⟩ := except_bind_eq_ok hrendered
  obtain ⟨name, hname, hrendered⟩ := except_bind_eq_ok hrendered
  obtain ⟨_, -, hrendered⟩ := except_bind_eq_ok hrendered
  cases hrendered
  refine ⟨date, ?_, hname⟩
  unfold parsedDate at hdate
  split at hdate
  · rename_i parsed hparsed
    rw [hparsed, Except.ok.inj hdate]
  · cases hdate

/-- What a series leaves out does not show in the names that it renders. -/
theorem renderTokens_exclusions {data : DocumentData} {tenantId : TenantId} {date : UtcDate} {value : Nat}
    (exclusions : Option (List NamingSeriesExclusion)) (tokens : List PatternToken) :
    renderTokens doctype { strategy with exclusions } data tenantId date value tokens =
      renderTokens doctype strategy data tenantId date value tokens := by
  induction tokens with
  | nil => rfl
  | cons token tokens ih =>
    simp only [renderTokens, ih]
    cases token <;> rfl

/-- **A name tells its number**: two scans of a series for the same data, on the same day, propose one name for one
value only, wherever they start and whatever each of them leaves out. -/
theorem scanned_name_value {input : ScanInput} {now : Timestamp} {current attemptLimit : Option Nat} {count : Nat}
    {exclusions : Option (List NamingSeriesExclusion)} {scan scan' : NamingCandidateScan}
    (h : scanNamingCandidates parseDate safeRegex input = .ok scan)
    (h' : scanNamingCandidates parseDate safeRegex
      { input with
        strategy := { input.strategy with exclusions }, context := { input.context with now }, current, count,
        attemptLimit } = .ok scan')
    (hdate : parseDate now = parseDate input.context.now) :
    ∀ c ∈ scan.candidates, ∀ c' ∈ scan'.candidates, c.name = c'.name → c.value = c'.value := by
  intro c hc c' hc' hname
  obtain ⟨compiled, hcompiled, hall⟩ := scanned_rendered h
  obtain ⟨compiled', hcompiled', hall'⟩ := scanned_rendered h'
  obtain ⟨date, hday, hrendered⟩ := hall c hc
  obtain ⟨date', hday', hrendered'⟩ := hall' c' hc'
  have hpattern : compileNamingPattern input.doctype input.strategy = .ok compiled' := hcompiled'
  cases hcompiled.symm.trans hpattern
  cases (hday'.symm.trans hdate).trans hday
  rw [renderTokens_exclusions, ← hname] at hrendered'
  exact renderTokens_injective hcompiled hrendered hrendered'

end

/-- A scan of `INV-#`. -/
def invoices (current : Option Nat) (count : Nat) (exclusions : List NamingSeriesExclusion) : ScanInput where
  doctype := { name := js "Invoice", fields := [] }
  strategy := { pattern := js "INV-#", exclusions := some exclusions }
  data := []
  context := { tenantId := js "acme", now := [] }
  current := current
  count := count

/-- The second scan starts within the first one, and leaves out a name that the first one proposes. -/
theorem scanned_name_value_invoices :
    ∃ scan scan' : NamingCandidateScan, scan.candidates.length = 10 ∧ scan'.candidates.map (·.value) = [10, 11] ∧
      ∀ c ∈ scan.candidates, ∀ c' ∈ scan'.candidates, c.name = c'.name → c.value = c'.value := by
  have hscan : scanNamingCandidates (fun _ => some ⟨2024, 1, 1⟩) (fun _ _ => .ok (fun _ => false))
      (invoices none 10 []) =
        .ok ⟨(List.range' 1 10).map (fun n => ⟨n, js "INV-" ++ Json.natToString n⟩), 10⟩ := by decide +kernel
  have hscan' : scanNamingCandidates (fun _ => some ⟨2024, 1, 1⟩) (fun _ _ => .ok (fun _ => false))
      (invoices (some 8) 2 [.exact (js "INV-9")]) = .ok ⟨[⟨10, js "INV-10"⟩, ⟨11, js "INV-11"⟩], 3⟩ := by
    decide +kernel
  exact ⟨_, _, rfl, rfl, scanned_name_value hscan hscan' rfl⟩

end Naming
