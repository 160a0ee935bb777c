import CfFrappe.Lib.TextOrder
import CfFrappe.Lib.Record

set_option autoImplicit false

/-! # JSON values

The values documents are made of, with the operations of the language the framework applies to them.
`undefined` is `none` where it can occur. An object is a record of its own properties; what a read of a property
finds on `Object.prototype` is a value of its own kind (`FieldValue`) and is looked up where the code looks it up.

Numbers are exact rationals. A number stands for the decimal that denotes it, the shortest one that is read back as
the number, and `String(n)` writes that decimal: plainly from `1e-6` up to below `1e21`, with an exponent outside
(`decimalText`). Objects are equal when their sorted keys and the values under them are (`valuesEqual`).
-/

open Utf

/-- A JSON value. -/
inductive Json
  | null
  | bool (b : Bool)
  | num (n : Rat)
  | str (s : JsString)
  | arr (items : List Json)
  | obj (members : List (JsString × Json))

/-- The data of a document: its own fields. -/
abbrev DocumentData := Record JsString Json

namespace Json

/-! ## Equality -/

mutual

def decEq : (a b : Json) → Decidable (a = b)
  | null, null => isTrue rfl
  | bool a, bool b => decidable_of_iff (a = b) (by simp)
  | num a, num b => decidable_of_iff (a = b) (by simp)
  | str a, str b => decidable_of_iff (a = b) (by simp)
  | arr a, arr b => @decidable_of_iff _ (a = b) (by simp) (decEqItems a b)
  | obj a, obj b => @decidable_of_iff _ (a = b) (by simp) (decEqMembers a b)
  | null, bool _ | null, num _ | null, str _ | null, arr _ | null, obj _
  | bool _, null | bool _, num _ | bool _, str _ | bool _, arr _ | bool _, obj _
  | num _, null | num _, bool _ | num _, str _ | num _, arr _ | num _, obj _
  | str _, null | str _, bool _ | str _, num _ | str _, arr _ | str _, obj _
  | arr _, null | arr _, bool _ | arr _, num _ | arr _, str _ | arr _, obj _
  | obj _, null | obj _, bool _ | obj _, num _ | obj _, str _ | obj _, arr _ =>
    isFalse nofun

def decEqItems : (a b : List Json) → Decidable (a = b)
  | [], [] => isTrue rfl
  | [], _ :: _ | _ :: _, [] => isFalse nofun
  | x :: xs, y :: ys =>
    @decidable_of_iff _ (x = y ∧ xs = ys) (by simp)
      (@instDecidableAnd _ _ (decEq x y) (decEqItems xs ys))

def decEqMembers : (a b : List (JsString × Json)) → Decidable (a = b)
  | [], [] => isTrue rfl
  | [], _ :: _ | _ :: _, [] => isFalse nofun
  | (k, x) :: xs, (l, y) :: ys =>
    @decidable_of_iff _ (k = l ∧ x = y ∧ xs = ys) (by simp [and_assoc])
      (@instDecidableAnd _ _ inferInstance (@instDecidableAnd _ _ (decEq x y) (decEqMembers xs ys)))

end

instance : DecidableEq Json := decEq

/-- The keys of an object, sorted by code units. -/
def sortedKeys (members : List (JsString × Json)) : List JsString :=
  (Record.keys members).insertionSort (fun a b => compareCodeUnits a b ≠ .gt)

mutual

/-- `jsonValuesEqual` on two values: objects are compared without regard to key order. -/
def valuesEqual : Json → Json → Bool
  | null, null => true
  | bool a, bool b => a == b
  | num a, num b => a == b
  | str a, str b => a == b
  | arr a, arr b => itemsEqual a b
  | obj a, obj b => sortedKeys a == sortedKeys b && membersEqual a b
  | _, _ => false

def itemsEqual : List Json → List Json → Bool
  | [], [] => true
  | x :: xs, y :: ys => valuesEqual x y && itemsEqual xs ys
  | _, _ => false

def membersEqual : List (JsString × Json) → List (JsString × Json) → Bool
  | [], _ => true
  | (k, v) :: rest, b =>
    (match Record.get b k with
      | some w => valuesEqual v w
      | none => false) && membersEqual rest b

end

/-! ## Text of values -/

/-- The decimal digits of a natural number. -/
def natToString (n : Nat) : JsString := (Nat.toDigits 10 n).map (fun c => UInt16.ofNat c.toNat)

/-- The number of decimals of an exact decimal with the given denominator. -/
def decimalPlaces (den : Nat) : (fuel places : Nat) → Nat
  | 0, _ => 0
  | fuel + 1, places => if 10 ^ places % den = 0 then places else decimalPlaces den fuel (places + 1)

/-- `text.padStart(width, "0")`. -/
def padZeros (width : Nat) (text : JsString) : JsString := List.replicate (width - text.length) 0x30 ++ text

/-- The digits of a number without the zeros they end with. -/
def significantDigits (digits : JsString) : JsString := (digits.reverse.dropWhile (fun u => u == 0x30)).reverse

/-- Digits with the point behind the first of them. -/
def scientificDigits : JsString → JsString
  | [] => []
  | [digit] => [digit]
  | digit :: rest => digit :: js "." ++ rest

/-- The text of `scaled / 10 ^ places`, where `places` is as small as it can be. From `10 ^ 21` on and below
`10 ^ -6` it has an exponent. -/
def decimalText (places scaled : Nat) : JsString :=
  let digits := natToString scaled
  -- the power of ten that the digits, read behind a point, are multiplied by
  let point : Int := digits.length - places
  if scaled ≠ 0 ∧ (21 < point ∨ point ≤ -6) then
    scientificDigits (significantDigits digits) ++ js "e" ++
      ((if point ≤ 0 then js "-" else js "+") ++ natToString (point - 1).natAbs)
  else if places = 0 then digits
  else natToString (scaled / 10 ^ places) ++ js "." ++ padZeros places (natToString (scaled % 10 ^ places))

/-- The text of a number without its sign. -/
def unsignedText (value : Rat) : JsString :=
  let places := decimalPlaces value.den 1100 0
  decimalText places (value.num.natAbs * 10 ^ places / value.den)

/-- `String(n)` of a number that a decimal writes. -/
def numberToString (q : Rat) : JsString := (if q.num < 0 then js "-" else []) ++ unsignedText q

example : numberToString 123456789012345680000 = js "123456789012345680000" ∧
    numberToString (-1500000000000000000000) = js "-1.5e+21" ∧ numberToString (1 / 1000000) = js "0.000001" ∧
    numberToString (1 / 10000000) = js "1e-7" := by decide +kernel

mutual

/-- `String(value)`. -/
def toText : Json → JsString
  | null => js "null"
  | bool true => js "true"
  | bool false => js "false"
  | num n => numberToString n
  | str s => s
  | arr items => itemsText items
  | obj _ => js "[object Object]"

/-- The items of an array joined by commas, `null` as the empty text. -/
def itemsText : List Json → JsString
  | [] => []
  | [x] => itemText x
  | x :: y :: rest => itemText x ++ js "," ++ itemsText (y :: rest)

def itemText : Json → JsString
  | null => []
  | bool true => js "true"
  | bool false => js "false"
  | num n => numberToString n
  | str s => s
  | arr items => itemsText items
  | obj _ => js "[object Object]"

end

/-! ## JSON text -/

def hexDigit4 (n : Nat) : UInt16 := UInt16.ofNat (if n < 10 then 0x30 + n else 0x57 + n)

/-- A code unit as it stands in a JSON string. -/
def quoteUnit (u : UInt16) : JsString :=
  if u = 0x22 then js "\\\"" else if u = 0x5C then js "\\\\"
  else if u = 0x8 then js "\\b" else if u = 0xC then js "\\f"
  else if u = 0xA then js "\\n" else if u = 0xD then js "\\r" else if u = 0x9 then js "\\t"
  else if u < 0x20 then
    js "\\u00" ++ [hexDigit4 (u.toNat / 16), hexDigit4 (u.toNat % 16)]
  else [u]

/-- A JSON string literal of well-formed text. -/
def quote (s : JsString) : JsString := js "\"" ++ s.flatMap quoteUnit ++ js "\""

mutual

/-- `JSON.stringify(value)`. -/
def stringify : Json → JsString
  | null => js "null"
  | bool true => js "true"
  | bool false => js "false"
  | num n => numberToString n
  | str s => quote s
  | arr items => js "[" ++ stringifyItems items ++ js "]"
  | obj members => js "\x7b" ++ stringifyMembers members ++ js "\x7d"

def stringifyItems : List Json → JsString
  | [] => []
  | [x] => stringify x
  | x :: y :: rest => stringify x ++ js "," ++ stringifyItems (y :: rest)

def stringifyMembers : List (JsString × Json) → JsString
  | [] => []
  | [(k, v)] => quote k ++ js ":" ++ stringify v
  | (k, v) :: e :: rest => quote k ++ js ":" ++ stringify v ++ js "," ++ stringifyMembers (e :: rest)

end

/-- `Number.isSafeInteger(n)`. -/
def isSafeInteger (n : Rat) : Bool := n.den == 1 && n.num.natAbs ≤ 2 ^ 53 - 1

/-- The white space `String.prototype.trim` removes. -/
def isWhitespace (u : UInt16) : Bool :=
  (0x9 ≤ u && u ≤ 0xD) || u == 0x20 || u == 0xA0 || u == 0x1680 || (0x2000 ≤ u && u ≤ 0x200A) ||
    u == 0x2028 || u == 0x2029 || u == 0x202F || u == 0x205F || u == 0x3000 || u == 0xFEFF

/-- `text.trim()`. -/
def trim (text : JsString) : JsString := ((text.dropWhile isWhitespace).reverse.dropWhile isWhitespace).reverse

/-- The number that a string of digits writes. -/
def digitsValue (digits : JsString) : Nat := digits.foldl (fun value digit => 10 * value + (digit.toNat - 0x30)) 0

/-! ## Facts -/

theorem natToString_of_lt {n : Nat} (h : n < 10) : digitsValue (natToString n) = n := by
  interval_cases n <;> decide

theorem natToString_of_ge {n : Nat} (h : 10 ≤ n) :
    natToString n = natToString (n / 10) ++ natToString (n % 10) := by
  have hlast : n % 10 < 10 := Nat.mod_lt _ (by decide)
  unfold natToString
  rw [Nat.toDigits_of_base_le (by decide) h, Nat.toDigits_of_lt_base hlast, List.map_append, List.map_singleton]

/-- The digits of a number are read back. -/
theorem digitsValue_natToString (n : Nat) : digitsValue (natToString n) = n := by
  induction n using Nat.strong_induction_on with
  | _ n ih =>
    by_cases h : n < 10
    · exact natToString_of_lt h
    · have hlast : n % 10 < 10 := Nat.mod_lt _ (by decide)
      have hdigit := natToString_of_lt hlast
      have hrest := ih (n / 10) (by omega)
      have hone : natToString (n % 10) = [UInt16.ofNat (Nat.digitChar (n % 10)).toNat] := by
        unfold natToString
        rw [Nat.toDigits_of_lt_base hlast, List.map_singleton]
      rw [natToString_of_ge (by omega), hone]
      rw [hone] at hdigit
      unfold digitsValue at hdigit hrest ⊢
      rw [List.foldl_append, hrest]
      simp only [List.foldl_cons, List.foldl_nil] at hdigit ⊢
      omega

theorem digitsValue_padZeros (width : Nat) (text : JsString) :
    digitsValue (padZeros width text) = digitsValue text := by
  have hzeros : ∀ n : Nat, (List.replicate n (0x30 : UInt16)).foldl
      (fun value digit => 10 * value + (digit.toNat - 0x30)) 0 = 0 := by
    intro n
    induction n with
    | zero => rfl
    | succ n ih =>
      rw [List.replicate_succ, List.foldl_cons]
      exact ih
  unfold padZeros digitsValue
  rw [List.foldl_append, hzeros]

/-- Padded numbers are different when the numbers are. -/
theorem padZeros_natToString_injective {width m n : Nat}
    (h : padZeros width (natToString m) = padZeros width (natToString n)) : m = n := by
  have hvalue := congrArg digitsValue h
  rwa [digitsValue_padZeros, digitsValue_padZeros, digitsValue_natToString, digitsValue_natToString] at hvalue

theorem valuesEqual_str (a b : JsString) : valuesEqual (str a) (str b) = decide (a = b) := by
  simp [valuesEqual, Bool.beq_eq_decide_eq]

theorem valuesEqual_num (a b : Rat) : valuesEqual (num a) (num b) = decide (a = b) := by
  simp [valuesEqual, Bool.beq_eq_decide_eq]

end Json

/-! ## Reading a property

`data[field]` finds a property of the object itself, or else what the object inherits from `Object.prototype`. A
field may be called like one of the functions there, `constructor` say, and then a document without the field still
has a value for it.
-/

/-- What `data[field]` returns. -/
inductive FieldValue
  | undefined
  | value (json : Json)
  /-- a function of `Object.prototype` -/
  | method (name : JsString)
  /-- `Object.prototype` -/
  | objectPrototype
  deriving DecidableEq

/-- The names of the functions that objects inherit. -/
def methodNames : List JsString :=
  [js "constructor", js "hasOwnProperty", js "isPrototypeOf", js "propertyIsEnumerable", js "toLocaleString",
    js "toString", js "valueOf", js "__defineGetter__", js "__defineSetter__", js "__lookupGetter__",
    js "__lookupSetter__"]

def prototypeName : JsString := js "__proto__"

/-- What a plain object without the property returns for it. -/
def inheritedValue (field : JsString) : FieldValue :=
  if field = prototypeName then .objectPrototype
  else if field ∈ methodNames then .method field
  else .undefined

def readValue (inherited : FieldValue) : Option Json → FieldValue
  | some json => .value json
  | none => inherited

/-- `data[field]` -/
def readField (data : DocumentData) (field : JsString) : FieldValue :=
  readValue (inheritedValue field) (Record.get data field)

namespace FieldValue

/-- A value that may be missing; nothing is inherited. -/
@[coe] def ofOption : Option Json → FieldValue := readValue .undefined

instance : Coe (Option Json) FieldValue := ⟨ofOption⟩

instance : Coe Json FieldValue := ⟨value⟩

@[simp] theorem ofOption_some (json : Json) : ofOption (some json) = value json := rfl

@[simp] theorem ofOption_none : ofOption none = undefined := rfl

/-- The name that a function shows in its text. -/
def methodText (name : JsString) : JsString :=
  js "function " ++ (if name = js "constructor" then js "Object" else name) ++ js "() \x7b [native code] \x7d"

/-- `String(value)` -/
def toText : FieldValue → JsString
  | undefined => js "undefined"
  | value json => json.toText
  | method name => methodText name
  | objectPrototype => js "[object Object]"

/-- The value, if it is a JSON value. -/
def json? : FieldValue → Option Json
  | value json => some json
  | _ => none

end FieldValue

/-- `jsonValuesEqual`: the same value, or JSON values with the same contents. A function is equal to itself only, and
`Object.prototype`, which has no keys of its own, to every empty object. -/
def jsonValuesEqual : FieldValue → FieldValue → Bool
  | .undefined, .undefined => true
  | .value a, .value b => Json.valuesEqual a b
  | .method a, .method b => a == b
  | .objectPrototype, .objectPrototype => true
  | .objectPrototype, .value (.obj []) | .value (.obj []), .objectPrototype => true
  | _, _ => false

/-- Under a name that nothing is inherited by, a field has its own value or none. -/
theorem readField_of_undefined {data : DocumentData} {field : JsString}
    (h : Record.get data field = none → inheritedValue field = .undefined) :
    readField data field = FieldValue.ofOption (Record.get data field) := by
  unfold readField
  cases hget : Record.get data field with
  | none => exact h hget
  | some json => rfl
