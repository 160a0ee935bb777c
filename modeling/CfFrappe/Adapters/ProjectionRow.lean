import CfFrappe.Core.Types
import CfFrappe.Core.Streams
import CfFrappe.Lib.Sqlite

set_option autoImplicit false

/-! # Rows of the projection table

A document is stored as one row: its tenant, DocType, name, version, status and times in
columns of their own, its data as one JSON text. Queries read a field of the data with
`json_extract` and its JSON type with `json_type`, both through a path built in one place
(`d1JsonPathLiteral`).
-/

open Utf Sqlite

/-- The column expressions queries use. -/
inductive ColumnExpr
  | tenantId
  | doctype
  | name
  | version
  | docstatus
  | createdAt
  | updatedAt
  | jsonExtract (path : JsString)
  | jsonType (path : JsString)
  deriving DecidableEq

/-- The JSON path of a field. -/
def d1JsonPathLiteral (field : JsString) : JsString := js "$." ++ field

def d1JsonExtract (field : JsString) : ColumnExpr := .jsonExtract (d1JsonPathLiteral field)

def d1JsonType (field : JsString) : ColumnExpr := .jsonType (d1JsonPathLiteral field)

/-! ## Reading the data column -/

/-- A unit that ends or quotes a label of a JSON path. -/
def endsPathLabel (u : UInt16) : Bool := u == 0x2E || u == 0x5B || u == 0x22

/-- The value at a path of one plain label; longer and quoted paths are not modelled and read
nothing. -/
def jsonAtPath (data : DocumentData) : JsString → Option Json
  | 0x24 :: 0x2E :: label => if label.any endsPathLabel then none else Record.get data label
  | _ => none

/-- `json_extract`: `NULL` for a missing key and for a JSON null, 0 and 1 for booleans, the
JSON text for arrays and objects. -/
def extractValue : Option Json → Value
  | none => .null
  | some .null => .null
  | some (.bool b) => .num (if b then 1 else 0)
  | some (.num n) => .num n
  | some (.str s) => ofString s
  | some (.arr items) => ofString (Json.stringify (.arr items))
  | some (.obj members) => ofString (Json.stringify (.obj members))

/-- `json_type`: `NULL` for a missing key. -/
def typeValue : Option Json → Value
  | none => .null
  | some .null => ofString (js "null")
  | some (.bool true) => ofString (js "true")
  | some (.bool false) => ofString (js "false")
  | some (.num n) => ofString (if n.den = 1 then js "integer" else js "real")
  | some (.str _) => ofString (js "text")
  | some (.arr _) => ofString (js "array")
  | some (.obj _) => ofString (js "object")

/-- The value of a column expression on the row of a document. -/
def rowValue (document : DocumentSnapshot) : ColumnExpr → Value
  | .tenantId => ofString document.tenantId
  | .doctype => ofString document.doctype
  | .name => ofString document.name
  | .version => .num document.version
  | .docstatus => ofString document.docstatus.toText
  | .createdAt => ofString document.createdAt
  | .updatedAt => ofString document.updatedAt
  | .jsonExtract path => extractValue (jsonAtPath document.data path)
  | .jsonType path => typeValue (jsonAtPath document.data path)

/-! ## Facts -/

theorem metadataName_notMem_endsPathLabel {field : JsString} (h : isMetadataName field = true) :
    field.any endsPathLabel = false := by
  cases field with
  | nil => rfl
  | cons u rest =>
    rw [isMetadataName, Bool.and_eq_true, List.all_eq_true] at h
    have hunit : ∀ c : UInt16, endsPathLabel c = true →
        (isAsciiLetter c || isAsciiDigit c || c == 0x5F || c == 0x20) = false := by
      intro c hc
      simp only [endsPathLabel, Bool.or_eq_true, beq_iff_eq] at hc
      rcases hc with (rfl | rfl) | rfl <;> decide
    rw [List.any_eq_false]
    intro c hc hend
    rcases List.mem_cons.1 hc with rfl | hc
    · have hfalse := hunit c hend
      rw [h.1] at hfalse
      simp at hfalse
    · have hfalse := hunit c hend
      rw [h.2 c hc] at hfalse
      simp at hfalse

/-- The path of a metadata name reads the field of that name. -/
theorem jsonAtPath_field (data : DocumentData) {field : JsString}
    (h : isMetadataName field = true) :
    jsonAtPath data (d1JsonPathLiteral field) = Record.get data field := by
  show (if field.any endsPathLabel then none else Record.get data field) = _
  rw [metadataName_notMem_endsPathLabel h]
  rfl

theorem rowValue_jsonExtract (document : DocumentSnapshot) {field : JsString}
    (h : isMetadataName field = true) :
    rowValue document (d1JsonExtract field) = extractValue (Record.get document.data field) := by
  rw [d1JsonExtract, rowValue, jsonAtPath_field _ h]

theorem rowValue_jsonType (document : DocumentSnapshot) {field : JsString}
    (h : isMetadataName field = true) :
    rowValue document (d1JsonType field) = typeValue (Record.get document.data field) := by
  rw [d1JsonType, rowValue, jsonAtPath_field _ h]

theorem ofString_of_wellFormed {s : JsString} (h : WellFormed s) : ofString s = .text (codePoints s) := by
  rw [ofString, map_scalarOf_codePoints h]

/-- Bound well-formed strings compare by their UTF-8 bytes. -/
theorem compareValues_ofString {s t : JsString} (hs : WellFormed s) (ht : WellFormed t) :
    compareValues (ofString s) (ofString t) = compare (textEncode s) (textEncode t) := by
  rw [ofString_of_wellFormed hs, ofString_of_wellFormed ht, textEncode_of_wellFormed hs,
    textEncode_of_wellFormed ht]
  rfl
