import CfFrappe.Core.Types

set_option autoImplicit false

/-! # Values of the language

What an application's own code hands to the framework: a value of any type, or an exception.
The framework keeps JSON values only; `jsonValue?` tells them from the others.
-/

/-- A value, as the JSON guard tells values apart. A hole of an array reads as `undefined`. -/
inductive JsValue
  | undefined
  | null
  | bool (b : Bool)
  | num (n : Rat)
  /-- `NaN` and the infinities -/
  | nonFinite
  | str (s : JsString)
  | arr (items : List JsValue)
  /-- a plain object -/
  | obj (members : List (JsString × JsValue))
  /-- a function, a symbol, an instance of a class, a value that contains itself -/
  | other

namespace JsValue

mutual

/-- `isJsonValue` and `cloneJsonValue`: the copy of a JSON value, `none` for any other value. -/
def jsonValue? : JsValue → Option Json
  | null => some .null
  | bool b => some (.bool b)
  | num n => some (.num n)
  | str s => some (.str s)
  | arr items => (jsonItems? items).map .arr
  | obj members => (jsonMembers? members).map .obj
  | undefined | nonFinite | other => none

def jsonItems? : List JsValue → Option (List Json)
  | [] => some []
  | item :: items => do
      let value ← jsonValue? item
      let values ← jsonItems? items
      return value :: values

def jsonMembers? : List (JsString × JsValue) → Option (List (JsString × Json))
  | [] => some []
  | (key, item) :: members => do
      let value ← jsonValue? item
      let values ← jsonMembers? members
      return (key, value) :: values

end

end JsValue

/-- What can be thrown: an error of the framework, or anything else, by the text that
`error instanceof Error ? error.message : String(error)` makes of it. Some values have none:
`String(error)` throws for an object without a prototype. -/
inductive JsError
  | framework (error : FrameworkError)
  | thrown (text : Option JsString)

/-- `error instanceof Error ? error.message : String(error)` -/
def JsError.text : JsError → Except JsError JsString
  | .framework error => .ok error.message
  | .thrown (some text) => .ok text
  | .thrown none => .error (.thrown (some (Utf.js "Cannot convert object to primitive value")))
