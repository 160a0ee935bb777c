import CfFrappe.Adapters.ProjectionRow

set_option autoImplicit false

/-! # The order of a list

Both stores sort the documents of a list: the in-memory one with `compareListDocuments`, the SQL one with the clause
`listOrderExpression` builds. Missing values come last in both, then the newest document, then the name.

The two come apart in two ways. The in-memory comparison of strings is by UTF-16 code units and the SQL one by UTF-8
bytes, which differ on an astral character against one in U+E000..U+FFFF (`surrogateInversion`). And the in-memory one
reads the value with `data[orderBy]`: under the name of a function that objects inherit, a document without the field
is not sorted as one with a missing value, but by the text of the function (`LacksLast`).

`sign_compareListDocuments_iff` says for every pair of documents when the two orders agree. Its proof compares the
ordering values first (`primary_cases`), then the strings that break a tie (`tie_iff`).
-/

open Utf Sqlite

inductive ListOrderDirection
  | asc
  | desc
  deriving DecidableEq

/-! ## The in-memory order -/

def compareBinaryStrings (left right : JsString) : Rat :=
  if compareCodeUnits left right = .lt then -1
  else if compareCodeUnits left right = .gt then 1
  else 0

def listOrderValue (document : DocumentSnapshot) (orderBy : JsString) : FieldValue :=
  if orderBy = js "name" then .value (.str document.name)
  else if orderBy = js "createdAt" then .value (.str document.createdAt)
  else if orderBy = js "updatedAt" then .value (.str document.updatedAt)
  else if orderBy = js "version" then .value (.num document.version)
  else readField document.data orderBy

/-- `undefined` or `null`. -/
def isMissingValue : FieldValue → Bool
  | .undefined | .value .null => true
  | _ => false

def boolNumber (b : Bool) : Rat := if b then 1 else 0

def compareListValues (left right : FieldValue) (direction : Rat) : Rat :=
  if isMissingValue left || isMissingValue right then
    if isMissingValue left = isMissingValue right then 0 else if isMissingValue left then 1 else -1
  else match left, right with
    | .value (.num a), .value (.num b) => (a - b) * direction
    | .value (.bool a), .value (.bool b) => (boolNumber a - boolNumber b) * direction
    | left, right => compareBinaryStrings left.toText right.toText * direction

def compareListDocuments (left right : DocumentSnapshot) (orderBy : JsString) (order : ListOrderDirection) : Rat :=
  let direction := if order = .desc then -1 else 1
  let primary := compareListValues (listOrderValue left orderBy) (listOrderValue right orderBy) direction
  if primary ≠ 0 then primary
  else if orderBy = js "updatedAt" then 0
  else
    let updated := compareListValues (.value (.str left.updatedAt)) (.value (.str right.updatedAt)) (-1)
    if updated ≠ 0 then updated else compareBinaryStrings left.name right.name

/-! ## The SQL order -/

/-- One term of an `ORDER BY` clause; texts compare with the `BINARY` collation. -/
inductive OrderTerm
  | value (expression : ColumnExpr) (direction : ListOrderDirection)
  | isNull (expression : ColumnExpr)
  deriving DecidableEq

def systemOrderExpression (orderBy : JsString) : Option ColumnExpr :=
  if orderBy = js "name" then some .name
  else if orderBy = js "createdAt" then some .createdAt
  else if orderBy = js "updatedAt" then some .updatedAt
  else if orderBy = js "version" then some .version
  else none

def listOrderExpression (orderBy : JsString) (order : ListOrderDirection) : List OrderTerm :=
  match systemOrderExpression orderBy with
  | some .version => [.value .version order, .value .updatedAt .desc, .value .name .asc]
  | some .updatedAt => [.value .updatedAt order]
  | some .name => [.value .name order, .value .updatedAt .desc]
  | some expression => [.value expression order, .value .updatedAt .desc, .value .name .asc]
  | none =>
    let expression := d1JsonExtract orderBy
    [.isNull expression, .value expression order, .value .updatedAt .desc, .value .name .asc]

/-- How one term of the clause orders two rows. -/
def OrderTerm.compare (left right : DocumentSnapshot) : OrderTerm → Ordering
  | .value e .asc => compareValues (rowValue left e) (rowValue right e)
  | .value e .desc => (compareValues (rowValue left e) (rowValue right e)).swap
  | .isNull e =>
    compareValues (ofTruth (some (rowValue left e == .null))) (ofTruth (some (rowValue right e == .null)))

/-- The order of two rows under a clause: the first term that tells them apart decides. -/
def compareRows (terms : List OrderTerm) (left right : DocumentSnapshot) : Ordering :=
  terms.foldr (fun term rest => (term.compare left right).then rest) .eq

/-- The sign of a comparison result. -/
def sign (n : Rat) : Ordering := compareNum n 0

/-! ## The strings that decide -/

/-- The strings that decide between two documents when the ordering values are equal. -/
def tieStrings (left right : DocumentSnapshot) (orderBy : JsString) : Option (JsString × JsString) :=
  if orderBy = js "updatedAt" then none
  else if left.updatedAt ≠ right.updatedAt then some (left.updatedAt, right.updatedAt)
  else if left.name ≠ right.name then some (left.name, right.name)
  else none

/-- The value that a row keeps for the field of an order. -/
def orderedValue (document : DocumentSnapshot) (orderBy : JsString) : Option Json :=
  if orderBy = js "name" then some (.str document.name)
  else if orderBy = js "createdAt" then some (.str document.createdAt)
  else if orderBy = js "updatedAt" then some (.str document.updatedAt)
  else if orderBy = js "version" then some (.num document.version)
  else Record.get document.data orderBy

/-- The strings that decide between two documents, if it is strings that do. -/
def decidingStrings (left right : DocumentSnapshot) (orderBy : JsString) : Option (JsString × JsString) :=
  let v := orderedValue left orderBy
  let w := orderedValue right orderBy
  if v = w ∨ (isMissingValue v = true ∧ isMissingValue w = true) then tieStrings left right orderBy
  else match v, w with
    | some (.str s), some (.str t) => some (s, t)
    | _, _ => none

/-- The text of the function that a document without the field has for it. -/
def inheritedText (document : DocumentSnapshot) (orderBy : JsString) : Option JsString :=
  match orderedValue document orderBy, inheritedValue orderBy with
  | none, .method name => some (FieldValue.methodText name)
  | _, _ => none

/-- A comparison turned by the direction of the order. -/
def orient (order : ListOrderDirection) (o : Ordering) : Ordering :=
  match order with
  | .asc => o
  | .desc => o.swap

/-- How a tie of the ordering values is broken, by an order of strings: the newest document first, then the name. -/
def tieOrder (compare : JsString → JsString → Ordering) (left right : DocumentSnapshot) (orderBy : JsString) : Ordering :=
  if orderBy = js "updatedAt" then .eq
  else (compare left.updatedAt right.updatedAt).swap.then (compare left.name right.name)

/-- The order of strings by their UTF-8 bytes. -/
def compareUtf8 (s t : JsString) : Ordering := compare (textEncode s) (textEncode t)

/-- Where a document that lacks the field comes out behind another one although it has the text of a function for it:
the text sorts behind the value of the other document, or is that value and loses the tie. If the other value is null,
memory puts the lacking document first, and so do the bytes of the tie. -/
def LacksLast (order : ListOrderDirection) (orderBy : JsString) (text : JsString) (lacking other : DocumentSnapshot) : Prop :=
  match orderedValue other orderBy with
  | none | some .null => tieOrder compareUtf8 lacking other orderBy = .lt
  | some value =>
    (orient order (compareCodeUnits text value.toText)).then (tieOrder compareCodeUnits lacking other orderBy) = .gt

/-- When the two orders agree on two documents. If both or neither of them has a function for the field, the strings
that decide are not inverted; if one has, that one comes last. -/
def OrdersAgree (left right : DocumentSnapshot) (orderBy : JsString) (order : ListOrderDirection) : Prop :=
  match inheritedText left orderBy, inheritedText right orderBy with
  | some text, none => LacksLast order orderBy text left right
  | none, some text => LacksLast order orderBy text right left
  | _, _ => ∀ s t, decidingStrings left right orderBy = some (s, t) → surrogateInversion s t = false

/-- A scalar of the declared type; strings hold no unpaired surrogate. -/
def IsScalarOf : FieldType → Json → Prop
  | .text, .str s | .longText, .str s | .date, .str s | .datetime, .str s | .select, .str s
  | .link, .str s => WellFormed s
  | .integer, .num n => n.den = 1
  | .number, .num _ => True
  | .boolean, .bool _ => True
  | _, _ => False

/-- Absent, null, or a scalar of the declared type. -/
def OrderValue (type : FieldType) : Option Json → Prop
  | none | some .null => True
  | some v => IsScalarOf type v

/-! ## Signs -/

theorem sign_eq_eq {n : Rat} : sign n = .eq ↔ n = 0 := by
  unfold sign compareNum
  split_ifs with h h'
  · simp [h.ne]
  · simp [h']
  · simp [h']

theorem sign_mul_neg_one (n : Rat) : sign (n * -1) = (sign n).swap := by
  unfold sign compareNum
  rcases lt_trichotomy n 0 with h | rfl | h
  · simp [h, h.ne, not_lt.2 h.le]
  · simp
  · simp [h, h.ne', not_lt.2 h.le]

theorem sign_sub (a b : Rat) : sign (a - b) = compareNum a b := by
  simp only [sign, compareNum, sub_neg, sub_eq_zero]

theorem sign_compareBinaryStrings (s t : JsString) : sign (compareBinaryStrings s t) = compareCodeUnits s t := by
  unfold compareBinaryStrings
  cases h : compareCodeUnits s t <;> simp [sign, compareNum]

/-- The first of two results that is not a tie. -/
theorem sign_then (primary rest : Rat) :
    sign (if primary ≠ 0 then primary else rest) = (sign primary).then (sign rest) := by
  by_cases h : primary = 0
  · rw [if_neg (by simp [h]), sign_eq_eq.2 h]
    rfl
  · rw [if_pos h]
    cases hs : sign primary with
    | eq => exact absurd (sign_eq_eq.1 hs) h
    | lt => rfl
    | gt => rfl

def directionFactor (order : ListOrderDirection) : Rat := if order = .desc then -1 else 1

theorem sign_mul_direction (order : ListOrderDirection) (n : Rat) :
    sign (n * directionFactor order) = orient order (sign n) := by
  cases order with
  | asc => simp [directionFactor, orient]
  | desc => exact sign_mul_neg_one n

variable {orderBy : JsString} {o : Ordering} {v w : Option Json} {left right : DocumentSnapshot}

theorem orient_eq_eq {order : ListOrderDirection} : orient order o = .eq ↔ o = .eq := by
  cases order <;> cases o <;> decide

theorem orient_inj {order : ListOrderDirection} {o' : Ordering} : orient order o = orient order o' ↔ o = o' := by
  cases order <;> cases o <;> cases o' <;> decide

/-! ## The ordering value -/

/-- How the SQL clause orders two ordering values: missing ones last. -/
def sqlPrimary (order : ListOrderDirection) (v w : Option Json) : Ordering :=
  (compareValues (ofTruth (some (extractValue v == .null)))
      (ofTruth (some (extractValue w == .null)))).then
    (orient order (compareValues (extractValue v) (extractValue w)))

theorem extractValue_isMissingValue (v : Option Json) : (extractValue v == .null) = isMissingValue v := by
  rcases v with _ | ⟨_ | b | n | s | items | members⟩ <;> rfl

/-- The declared type makes every present value a string, every one a number, or every one a
boolean. -/
theorem orderValue_kind (type : FieldType) :
    (∀ v, OrderValue type v → isMissingValue v = true ∨ ∃ s, v = some (.str s) ∧ WellFormed s) ∨
    (∀ v, OrderValue type v → isMissingValue v = true ∨ ∃ n, v = some (.num n)) ∨
    (∀ v, OrderValue type v → isMissingValue v = true ∨ ∃ b, v = some (.bool b)) := by
  cases type with
  | integer | number =>
    refine Or.inr (Or.inl ?_)
    rintro (_ | ⟨_ | b | n | s | items | members⟩) h <;> simp_all [OrderValue, IsScalarOf, isMissingValue]
  | boolean =>
    refine Or.inr (Or.inr ?_)
    rintro (_ | ⟨_ | b | n | s | items | members⟩) h <;> simp_all [OrderValue, IsScalarOf, isMissingValue]
  | text | longText | date | datetime | json | select | link | table =>
    refine Or.inl ?_
    rintro (_ | ⟨_ | b | n | s | items | members⟩) h <;> simp_all [OrderValue, IsScalarOf, isMissingValue]

theorem compareNum_self (a : Rat) : compareNum a a = .eq := by simp [compareNum]

theorem compareNum_zero_one : compareNum 0 1 = .lt := by decide

theorem compareNum_one_zero : compareNum 1 0 = .gt := by decide

/-- Truth values order as the numbers 0 and 1. -/
theorem compareValues_ofTruth (b c : Bool) :
    compareValues (ofTruth (some b)) (ofTruth (some c)) = compareNum (boolNumber b) (boolNumber c) := by
  cases b <;> cases c <;> rfl

/-- A missing value ties with a missing one and comes after every other, in both orders. -/
theorem primary_of_missing (order : ListOrderDirection) (h : isMissingValue v = true ∨ isMissingValue w = true) :
    sign (compareListValues v w (directionFactor order)) = sqlPrimary order v w ∧
      (sqlPrimary order v w = .eq ↔ isMissingValue v = isMissingValue w) := by
  have hc : compareListValues v w (directionFactor order) =
      if isMissingValue v = isMissingValue w then 0 else if isMissingValue v = true then 1 else -1 := by
    unfold compareListValues
    rw [if_pos (by rw [Bool.or_eq_true]; exact h)]
  have hnull : ∀ u : Option Json, isMissingValue u = true → extractValue u = .null := by
    rintro (_ | ⟨_ | b | n | s | items | members⟩) hu <;> simp_all [isMissingValue, extractValue]
  rw [hc, sqlPrimary, extractValue_isMissingValue, extractValue_isMissingValue, compareValues_ofTruth]
  cases hv : isMissingValue v <;> cases hw : isMissingValue w
  · simp [hv, hw] at h
  · simp [sign, boolNumber, compareNum_zero_one, show compareNum (-1) 0 = .lt from by decide]
  · simp [sign, boolNumber, compareNum_one_zero]
  · rw [hnull v hv, hnull w hw]
    cases order <;> simp [sign, compareNum_self, Sqlite.compareValues, orient]

/-- Two present values of one kind. -/
theorem sqlPrimary_of_present (order : ListOrderDirection) (hv : isMissingValue v = false)
    (hw : isMissingValue w = false) :
    sqlPrimary order v w = orient order (compareValues (extractValue v) (extractValue w)) := by
  rw [sqlPrimary, extractValue_isMissingValue, extractValue_isMissingValue, hv, hw, compareValues_ofTruth,
    compareNum_self]
  rfl

theorem compareNum_eq_eq {a b : Rat} : compareNum a b = .eq ↔ a = b := by
  rw [← sign_sub, sign_eq_eq, sub_eq_zero]

theorem compareCodeUnits_self (s : JsString) : compareCodeUnits s s = .eq := by
  simp [compareCodeUnits]

theorem compareCodeUnits_eq_eq {s t : JsString} : compareCodeUnits s t = .eq ↔ s = t := by
  constructor
  · intro h
    have hlist := Std.LawfulEqOrd.eq_of_compare h
    exact List.map_injective_iff.2 (fun _ _ => UInt16.toNat_inj.1) hlist
  · rintro rfl
    exact compareCodeUnits_self s

theorem then_of_ne {p : Ordering} (h : o ≠ .eq) : o.then p = o := by
  cases o <;> first | rfl | exact absurd rfl h

/-- How the in-memory and the SQL comparison of the ordering values are related: a tie in both,
or two different strings, or the same strict order. -/
theorem primary_cases {type : FieldType} (order : ListOrderDirection) (hv : OrderValue type v) (hw : OrderValue type w) :
    (sign (compareListValues v w (directionFactor order)) = .eq ∧ sqlPrimary order v w = .eq ∧
      (v = w ∨ (isMissingValue v = true ∧ isMissingValue w = true))) ∨
    (∃ s t, v = some (.str s) ∧ w = some (.str t) ∧ s ≠ t ∧ WellFormed s ∧ WellFormed t ∧
      sign (compareListValues v w (directionFactor order)) = orient order (compareCodeUnits s t) ∧
      sqlPrimary order v w = orient order (compare (textEncode s) (textEncode t))) ∨
    (sign (compareListValues v w (directionFactor order)) = sqlPrimary order v w ∧
      sqlPrimary order v w ≠ .eq ∧ v ≠ w ∧ ¬ (isMissingValue v = true ∧ isMissingValue w = true) ∧
      ¬ ∃ s t, v = some (.str s) ∧ w = some (.str t)) := by
  -- a missing value is last on both sides; two present values are of the kind that the type says
  by_cases hmiss : isMissingValue v = true ∨ isMissingValue w = true
  · obtain ⟨hsign, heq⟩ := primary_of_missing order hmiss
    by_cases hboth : isMissingValue v = isMissingValue w
    · refine Or.inl ⟨hsign.trans (heq.2 hboth), heq.2 hboth, Or.inr ?_⟩
      rcases hmiss with h | h
      · exact ⟨h, hboth ▸ h⟩
      · exact ⟨hboth.symm ▸ h, h⟩
    · refine Or.inr (Or.inr ⟨hsign, fun h => hboth (heq.1 h), ?_, ?_, ?_⟩)
      · rintro rfl
        exact hboth rfl
      · rintro ⟨h, h'⟩
        exact hboth (h.trans h'.symm)
      · rintro ⟨s, t, rfl, rfl⟩
        simp [isMissingValue] at hmiss
  · rw [not_or, Bool.not_eq_true, Bool.not_eq_true] at hmiss
    rw [sqlPrimary_of_present order hmiss.1 hmiss.2]
    rcases orderValue_kind type with hk | hk | hk
    · rcases hk v hv with h | ⟨s, rfl, hs⟩
      · simp [hmiss.1] at h
      · rcases hk w hw with h | ⟨t, rfl, ht⟩
        · simp [hmiss.2] at h
        · have hjs : sign (compareListValues (some (Json.str s)) (some (Json.str t)) (directionFactor order)) =
              orient order (compareCodeUnits s t) := by
            show sign (compareBinaryStrings s t * directionFactor order) = _
            rw [sign_mul_direction, sign_compareBinaryStrings]
          have hsql : compareValues (extractValue (some (.str s))) (extractValue (some (.str t))) =
              compare (textEncode s) (textEncode t) := compareValues_ofString hs ht
          rw [hjs, hsql]
          by_cases hst : s = t
          · subst hst
            refine Or.inl ⟨orient_eq_eq.2 (compareCodeUnits_self s), orient_eq_eq.2 ?_, Or.inl rfl⟩
            simp
          · exact Or.inr (Or.inl ⟨s, t, rfl, rfl, hst, hs, ht, rfl, rfl⟩)
    · rcases hk v hv with h | ⟨a, rfl⟩
      · simp [hmiss.1] at h
      · rcases hk w hw with h | ⟨b, rfl⟩
        · simp [hmiss.2] at h
        · have hjs : sign (compareListValues (some (Json.num a)) (some (Json.num b)) (directionFactor order)) =
              orient order (compareNum a b) := by
            show sign ((a - b) * directionFactor order) = _
            rw [sign_mul_direction, sign_sub]
          rw [hjs]
          by_cases hab : a = b
          · subst hab
            exact Or.inl ⟨orient_eq_eq.2 (compareNum_self a), orient_eq_eq.2 (compareNum_self a), Or.inl rfl⟩
          · exact Or.inr (Or.inr ⟨rfl, fun h => hab (compareNum_eq_eq.1 (orient_eq_eq.1 h)),
              by simpa using hab, by simp [isMissingValue], by simp⟩)
    · rcases hk v hv with h | ⟨a, rfl⟩
      · simp [hmiss.1] at h
      · rcases hk w hw with h | ⟨b, rfl⟩
        · simp [hmiss.2] at h
        · have hjs : sign (compareListValues (some (Json.bool a)) (some (Json.bool b)) (directionFactor order)) =
              orient order (compareNum (boolNumber a) (boolNumber b)) := by
            show sign ((boolNumber a - boolNumber b) * directionFactor order) = _
            rw [sign_mul_direction, sign_sub]
          rw [hjs]
          by_cases hab : a = b
          · subst hab
            exact Or.inl ⟨orient_eq_eq.2 (compareNum_self _), orient_eq_eq.2 (compareNum_self _), Or.inl rfl⟩
          · have hne : boolNumber a ≠ boolNumber b := by
              cases a <;> cases b <;> first | exact absurd rfl hab | decide
            exact Or.inr (Or.inr ⟨rfl, fun h => hne (compareNum_eq_eq.1 (orient_eq_eq.1 h)),
              by simpa using hab, by simp [isMissingValue], by simp⟩)

/-! ## The whole order -/

/-- The tie-breaking terms of the clause. -/
def sqlTie (left right : DocumentSnapshot) (orderBy : JsString) : Ordering :=
  tieOrder (fun s t => compareValues (ofString s) (ofString t)) left right orderBy

theorem OrderTerm.compare_value (left right : DocumentSnapshot) (e : ColumnExpr)
    (order : ListOrderDirection) :
    (OrderTerm.value e order).compare left right =
      orient order (compareValues (rowValue left e) (rowValue right e)) := by
  cases order <;> rfl

/-- The clause compares the ordering value first, then breaks ties. -/
theorem compareRows_listOrderExpression (left right : DocumentSnapshot) (order : ListOrderDirection)
    (hname : isMetadataName orderBy = true) :
    compareRows (listOrderExpression orderBy order) left right =
      (sqlPrimary order (orderedValue left orderBy) (orderedValue right orderBy)).then
        (sqlTie left right orderBy) := by
  by_cases h1 : orderBy = js "name"
  · -- the clause has no third term here: a tie of the first is a tie of the names
    subst h1
    show ((OrderTerm.value .name order).compare left right).then
      (((OrderTerm.value .updatedAt .desc).compare left right).then .eq) = _
    rw [OrderTerm.compare_value, OrderTerm.compare_value]
    show _ = (sqlPrimary order (some (.str left.name)) (some (.str right.name))).then
      ((compareValues (ofString left.updatedAt) (ofString right.updatedAt)).swap.then
        (compareValues (ofString left.name) (ofString right.name)))
    rw [sqlPrimary_of_present order rfl rfl]
    show (orient order (compareValues (ofString left.name) (ofString right.name))).then
        ((compareValues (ofString left.updatedAt) (ofString right.updatedAt)).swap.then .eq) =
      (orient order (compareValues (ofString left.name) (ofString right.name))).then _
    cases compareValues (ofString left.name) (ofString right.name) <;> cases order <;> rfl
  · by_cases h2 : orderBy = js "createdAt"
    · subst h2
      show ((OrderTerm.value .createdAt order).compare left right).then
        (((OrderTerm.value .updatedAt .desc).compare left right).then
          (((OrderTerm.value .name .asc).compare left right).then .eq)) = _
      rw [OrderTerm.compare_value, Ordering.then_eq]
      show _ = (sqlPrimary order (some (.str left.createdAt)) (some (.str right.createdAt))).then _
      rw [sqlPrimary_of_present order rfl rfl]
      rfl
    · by_cases h3 : orderBy = js "updatedAt"
      · subst h3
        show ((OrderTerm.value .updatedAt order).compare left right).then .eq = _
        rw [OrderTerm.compare_value]
        show _ = (sqlPrimary order (some (.str left.updatedAt)) (some (.str right.updatedAt))).then .eq
        rw [sqlPrimary_of_present order rfl rfl]
        rfl
      · by_cases h4 : orderBy = js "version"
        · subst h4
          show ((OrderTerm.value .version order).compare left right).then
            (((OrderTerm.value .updatedAt .desc).compare left right).then
              (((OrderTerm.value .name .asc).compare left right).then .eq)) = _
          rw [OrderTerm.compare_value, Ordering.then_eq]
          show _ = (sqlPrimary order (some (.num left.version)) (some (.num right.version))).then _
          rw [sqlPrimary_of_present order rfl rfl]
          rfl
        · have hexpr : listOrderExpression orderBy order =
              [.isNull (d1JsonExtract orderBy), .value (d1JsonExtract orderBy) order,
                .value .updatedAt .desc, .value .name .asc] := by
            simp [listOrderExpression, systemOrderExpression, h1, h2, h3, h4]
          have hvalue : ∀ d, orderedValue d orderBy = Record.get d.data orderBy := by
            intro d
            simp [orderedValue, h1, h2, h3, h4]
          rw [hexpr, hvalue, hvalue, sqlPrimary, sqlTie, tieOrder, if_neg h3, ← rowValue_jsonExtract left hname,
            ← rowValue_jsonExtract right hname, Ordering.then_assoc]
          show ((OrderTerm.isNull (d1JsonExtract orderBy)).compare left right).then
            (((OrderTerm.value (d1JsonExtract orderBy) order).compare left right).then
              (((OrderTerm.value .updatedAt .desc).compare left right).then
                (((OrderTerm.value .name .asc).compare left right).then .eq))) = _
          rw [OrderTerm.compare_value, Ordering.then_eq]
          rfl

/-- The in-memory comparison compares the ordering value first, then breaks ties. -/
theorem sign_compareListDocuments (left right : DocumentSnapshot) (orderBy : JsString)
    (order : ListOrderDirection) :
    sign (compareListDocuments left right orderBy order) =
      (sign (compareListValues (listOrderValue left orderBy) (listOrderValue right orderBy)
        (directionFactor order))).then
        (tieOrder compareCodeUnits left right orderBy) := by
  have hupdated : sign (compareListValues (.value (.str left.updatedAt)) (.value (.str right.updatedAt)) (-1)) =
      (compareCodeUnits left.updatedAt right.updatedAt).swap := by
    show sign (compareBinaryStrings left.updatedAt right.updatedAt * -1) = _
    rw [sign_mul_neg_one, sign_compareBinaryStrings]
  unfold compareListDocuments tieOrder
  rw [sign_then]
  congr 1
  split_ifs with h
  · rfl
  · rw [sign_then, hupdated, sign_compareBinaryStrings]

/-- The in-memory tie break agrees with the clause when the deciding strings are not inverted. -/
theorem tie_iff (orderBy : JsString) (hln : WellFormed left.name) (hrn : WellFormed right.name)
    (hlu : WellFormed left.updatedAt) (hru : WellFormed right.updatedAt) :
    tieOrder compareCodeUnits left right orderBy = sqlTie left right orderBy ↔
      ∀ s t, tieStrings left right orderBy = some (s, t) → surrogateInversion s t = false := by
  rw [sqlTie, tieOrder, tieOrder, tieStrings, compareValues_ofString hlu hru, compareValues_ofString hln hrn]
  by_cases hu : orderBy = js "updatedAt"
  · simp [hu]
  · rw [if_neg hu, if_neg hu, if_neg hu]
    by_cases heq : left.updatedAt = right.updatedAt
    · rw [if_neg (by simp [heq]), heq, compareCodeUnits_self]
      by_cases hn : left.name = right.name
      · simp [hn, compareCodeUnits_self]
      · simp [hn, compareCodeUnits_eq_compare_iff hln hrn]
    · have hjs : compareCodeUnits left.updatedAt right.updatedAt ≠ .eq :=
        fun h => heq (compareCodeUnits_eq_eq.1 h)
      have hsql : compare (textEncode left.updatedAt) (textEncode right.updatedAt) ≠ .eq :=
        fun h => heq (textEncode_injective hlu hru (Std.LawfulEqOrd.eq_of_compare h))
      have hstrict : ∀ o o' p p' : Ordering, o ≠ .eq → o' ≠ .eq →
          (o.swap.then p = o'.swap.then p' ↔ o = o') := by decide
      rw [hstrict _ _ _ _ hjs hsql, compareCodeUnits_eq_compare_iff hlu hru]
      simp [heq]

/-- A document of a list ordered by a field of the given type. -/
structure ListedDocument (type : FieldType) (orderBy : JsString) (document : DocumentSnapshot) :
    Prop where
  value : OrderValue type (orderedValue document orderBy)
  name : WellFormed document.name
  updatedAt : WellFormed document.updatedAt

/-! ### What a document is ordered by -/

/-- A field is no `__proto__`: what it inherits is a function, or nothing. -/
theorem inheritedValue_of_metadataName (hname : isMetadataName orderBy = true) :
    inheritedValue orderBy = .undefined ∨ ∃ name, inheritedValue orderBy = .method name := by
  unfold inheritedValue
  have hne : orderBy ≠ prototypeName := by
    rintro rfl
    exact absurd hname (by decide)
  rw [if_neg hne]
  split_ifs
  · exact Or.inr ⟨orderBy, rfl⟩
  · exact Or.inl rfl

/-- A system field has a value of its own. -/
theorem listOrderValue_cases (document : DocumentSnapshot) (orderBy : JsString) :
    (∃ value, listOrderValue document orderBy = .value value ∧ orderedValue document orderBy = some value) ∨
      (listOrderValue document orderBy = inheritedValue orderBy ∧ orderedValue document orderBy = none) := by
  unfold listOrderValue orderedValue
  split_ifs
  · exact Or.inl ⟨_, rfl, rfl⟩
  · exact Or.inl ⟨_, rfl, rfl⟩
  · exact Or.inl ⟨_, rfl, rfl⟩
  · exact Or.inl ⟨_, rfl, rfl⟩
  · unfold readField
    cases Record.get document.data orderBy with
    | none => exact Or.inr ⟨rfl, rfl⟩
    | some value => exact Or.inl ⟨value, rfl, rfl⟩

/-- **A document is ordered by the value of its row**, or by the function that it has instead of one. -/
theorem listOrderValue_eq (hname : isMetadataName orderBy = true) (document : DocumentSnapshot) :
    (inheritedText document orderBy = none ∧
        listOrderValue document orderBy = FieldValue.ofOption (orderedValue document orderBy)) ∨
      ∃ name, inheritedText document orderBy = some (FieldValue.methodText name) ∧
        listOrderValue document orderBy = .method name ∧ orderedValue document orderBy = none ∧
        inheritedValue orderBy = .method name := by
  unfold inheritedText
  rcases listOrderValue_cases document orderBy with ⟨value, hlist, hordered⟩ | ⟨hlist, hordered⟩
  · rw [hordered, hlist]
    exact Or.inl ⟨rfl, rfl⟩
  · rw [hordered, hlist]
    rcases inheritedValue_of_metadataName hname with hinherited | ⟨name, hinherited⟩
    · rw [hinherited]
      exact Or.inl ⟨rfl, rfl⟩
    · rw [hinherited]
      exact Or.inr ⟨name, rfl, rfl, rfl, rfl⟩

/-! ### One document with a function -/

theorem compareCodeUnits_swap (s t : JsString) : (compareCodeUnits s t).swap = compareCodeUnits t s :=
  (Std.OrientedOrd.eq_swap).symm

theorem compareUtf8_swap (s t : JsString) : (compareUtf8 s t).swap = compareUtf8 t s :=
  (Std.OrientedOrd.eq_swap).symm

theorem orient_swap (order : ListOrderDirection) (o : Ordering) : (orient order o).swap = orient order o.swap := by
  cases order <;> rfl

theorem tieOrder_swap {compare : JsString → JsString → Ordering} (hcompare : ∀ s t, (compare s t).swap = compare t s)
    (left right : DocumentSnapshot) (orderBy : JsString) :
    (tieOrder compare left right orderBy).swap = tieOrder compare right left orderBy := by
  unfold tieOrder
  split_ifs
  · rfl
  · rw [Ordering.swap_then, hcompare left.name, hcompare left.updatedAt]

theorem sqlTie_eq (orderBy : JsString) (hln : WellFormed left.name) (hrn : WellFormed right.name)
    (hlu : WellFormed left.updatedAt) (hru : WellFormed right.updatedAt) :
    sqlTie left right orderBy = tieOrder compareUtf8 left right orderBy := by
  unfold sqlTie tieOrder compareUtf8
  dsimp only
  rw [compareValues_ofString hlu hru, compareValues_ofString hln hrn]

/-- How the text of a function compares with a present value. -/
theorem sign_compareListValues_method (order : ListOrderDirection) (name : JsString) {value : Json}
    (hvalue : isMissingValue (.value value) = false) :
    sign (compareListValues (.method name) (.value value) (directionFactor order)) =
        orient order (compareCodeUnits (FieldValue.methodText name) value.toText) ∧
      sign (compareListValues (.value value) (.method name) (directionFactor order)) =
        orient order (compareCodeUnits value.toText (FieldValue.methodText name)) := by
  have hleft : compareListValues (.method name) (.value value) (directionFactor order) =
      compareBinaryStrings (FieldValue.methodText name) value.toText * directionFactor order := by
    unfold compareListValues
    rw [hvalue]
    rfl
  have hright : compareListValues (.value value) (.method name) (directionFactor order) =
      compareBinaryStrings value.toText (FieldValue.methodText name) * directionFactor order := by
    unfold compareListValues
    rw [hvalue]
    cases value <;> rfl
  rw [hleft, hright, sign_mul_direction, sign_mul_direction, sign_compareBinaryStrings, sign_compareBinaryStrings]
  exact ⟨rfl, rfl⟩

/-- The clause puts the document without a value behind one with a value. -/
theorem sqlPrimary_none (order : ListOrderDirection) {value : Json} (hvalue : isMissingValue (.value value) = false) :
    sqlPrimary order none (some value) = .gt ∧ sqlPrimary order (some value) none = .lt := by
  have hpresent : (extractValue (some value) == Sqlite.Value.null) = false :=
    (extractValue_isMissingValue (some value)).trans hvalue
  unfold sqlPrimary
  rw [hpresent]
  exact ⟨rfl, rfl⟩

/-- **A document with a function against one without**: the orders agree when it comes last. -/
theorem lacksLast_iff {name : JsString} {lacking other : DocumentSnapshot} (order : ListOrderDirection)
    (hlacking : listOrderValue lacking orderBy = .method name ∧ orderedValue lacking orderBy = none)
    (hother : listOrderValue other orderBy = FieldValue.ofOption (orderedValue other orderBy))
    (hsome : orderedValue other orderBy ≠ none)
    (htie : sqlTie lacking other orderBy = tieOrder compareUtf8 lacking other orderBy) :
    (sign (compareListValues (listOrderValue lacking orderBy) (listOrderValue other orderBy) (directionFactor order))).then
        (tieOrder compareCodeUnits lacking other orderBy) =
      (sqlPrimary order (orderedValue lacking orderBy) (orderedValue other orderBy)).then (sqlTie lacking other orderBy) ↔
    LacksLast order orderBy (FieldValue.methodText name) lacking other := by
  unfold LacksLast
  rw [hlacking.1, hlacking.2, hother, htie]
  cases hvalue : orderedValue other orderBy with
  | none => exact absurd hvalue hsome
  | some value =>
    rw [FieldValue.ofOption_some]
    cases hmissing : isMissingValue (.value value) with
    | true =>
      -- the other value is null: memory has the lacking document first, the clause has a tie
      have hnull : value = .null := by
        cases value <;> first | rfl | exact absurd hmissing Bool.false_ne_true
      subst hnull
      have hmemory : sign (compareListValues (.method name) (.value .null) (directionFactor order)) = .lt := by
        have hvalue : compareListValues (.method name) (.value .null) (directionFactor order) = -1 := rfl
        rw [hvalue]
        decide
      have hsql : sqlPrimary order none (some .null) = .eq := by cases order <;> rfl
      rw [hmemory, hsql]
      exact eq_comm
    | false =>
      have hmatch : (match some value with
          | none | some .null => tieOrder compareUtf8 lacking other orderBy = .lt
          | some value => (orient order (compareCodeUnits (FieldValue.methodText name) value.toText)).then
              (tieOrder compareCodeUnits lacking other orderBy) = .gt) =
          ((orient order (compareCodeUnits (FieldValue.methodText name) value.toText)).then
            (tieOrder compareCodeUnits lacking other orderBy) = .gt) := by
        cases value <;> first | rfl | exact absurd hmissing.symm Bool.false_ne_true
      rw [(sign_compareListValues_method order name hmissing).1, (sqlPrimary_none order hmissing).1]
      exact iff_of_eq hmatch.symm

/-- The same with the two documents the other way round. -/
theorem lacksLast_iff_swap {name : JsString} {lacking other : DocumentSnapshot} (order : ListOrderDirection)
    (hlacking : listOrderValue lacking orderBy = .method name ∧ orderedValue lacking orderBy = none)
    (hother : listOrderValue other orderBy = FieldValue.ofOption (orderedValue other orderBy))
    (hsome : orderedValue other orderBy ≠ none)
    (htie : sqlTie lacking other orderBy = tieOrder compareUtf8 lacking other orderBy)
    (htie' : sqlTie other lacking orderBy = tieOrder compareUtf8 other lacking orderBy) :
    (sign (compareListValues (listOrderValue other orderBy) (listOrderValue lacking orderBy) (directionFactor order))).then
        (tieOrder compareCodeUnits other lacking orderBy) =
      (sqlPrimary order (orderedValue other orderBy) (orderedValue lacking orderBy)).then (sqlTie other lacking orderBy) ↔
    LacksLast order orderBy (FieldValue.methodText name) lacking other := by
  -- in memory the order is the reverse one when the documents change places
  have hmemory : (sign (compareListValues (listOrderValue lacking orderBy) (listOrderValue other orderBy)
        (directionFactor order))).swap =
      sign (compareListValues (listOrderValue other orderBy) (listOrderValue lacking orderBy) (directionFactor order)) := by
    rw [hlacking.1, hother]
    cases hvalue : orderedValue other orderBy with
    | none => exact absurd hvalue hsome
    | some value =>
      rw [FieldValue.ofOption_some]
      cases hmissing : isMissingValue (.value value) with
      | true =>
        have hnull : value = .null := by
          cases value <;> first | rfl | exact absurd hmissing Bool.false_ne_true
        subst hnull
        have hfirst : compareListValues (.method name) (.value .null) (directionFactor order) = -1 := rfl
        have hlast : compareListValues (.value .null) (.method name) (directionFactor order) = 1 := rfl
        rw [hfirst, hlast]
        decide
      | false =>
        obtain ⟨hleft, hright⟩ := sign_compareListValues_method order name hmissing
        rw [hleft, hright, orient_swap, compareCodeUnits_swap]
  -- and so it is in SQL
  have hsql : (sqlPrimary order (orderedValue lacking orderBy) (orderedValue other orderBy)).swap =
      sqlPrimary order (orderedValue other orderBy) (orderedValue lacking orderBy) := by
    rw [hlacking.2]
    cases hvalue : orderedValue other orderBy with
    | none => exact absurd hvalue hsome
    | some value =>
      cases hmissing : isMissingValue (.value value) with
      | true =>
        have hnull : value = .null := by
          cases value <;> first | rfl | exact absurd hmissing Bool.false_ne_true
        subst hnull
        cases order <;> rfl
      | false => rw [(sqlPrimary_none order hmissing).1, (sqlPrimary_none order hmissing).2]; rfl
  rw [← lacksLast_iff order hlacking hother hsome htie, ← hmemory, ← hsql, htie', htie,
    ← tieOrder_swap compareCodeUnits_swap lacking other, ← tieOrder_swap compareUtf8_swap lacking other,
    ← Ordering.swap_then, ← Ordering.swap_then]
  exact Ordering.swap_inj

/-! ### Both documents by their rows -/

/-- The ordering values of two rows, then the tie: the orders agree when the strings that decide are not inverted. -/
theorem rows_agree_iff (order : ListOrderDirection) {type : FieldType} (hl : ListedDocument type orderBy left)
    (hr : ListedDocument type orderBy right) :
    (sign (compareListValues (orderedValue left orderBy) (orderedValue right orderBy) (directionFactor order))).then
        (tieOrder compareCodeUnits left right orderBy) =
      (sqlPrimary order (orderedValue left orderBy) (orderedValue right orderBy)).then (sqlTie left right orderBy) ↔
    ∀ s t, decidingStrings left right orderBy = some (s, t) → surrogateInversion s t = false := by
  have htie := tie_iff orderBy hl.name hr.name hl.updatedAt hr.updatedAt
  rcases primary_cases order hl.value hr.value with ⟨hjs, hsql, hvw⟩ |
      ⟨s, t, hv, hw, hst, hs, ht, hjs, hsql⟩ | ⟨hjs, hsql, hne, hmiss, hstr⟩
  · -- the ordering values tie: the tie break decides
    rw [hjs, hsql, Ordering.eq_then, Ordering.eq_then, htie]
    have hd : decidingStrings left right orderBy = tieStrings left right orderBy := if_pos hvw
    rw [hd]
  · -- two different strings decide
    have hd : decidingStrings left right orderBy = some (s, t) := by
      simp [decidingStrings, hv, hw, hst, isMissingValue]
    have hjs' : compareCodeUnits s t ≠ .eq := by
      intro h
      exact hst (compareCodeUnits_eq_eq.1 h)
    have hsql' : compare (textEncode s) (textEncode t) ≠ .eq :=
      fun h => hst (textEncode_injective hs ht (Std.LawfulEqOrd.eq_of_compare h))
    rw [hjs, hsql, hd, then_of_ne (orient_eq_eq.not.2 hjs'), then_of_ne (orient_eq_eq.not.2 hsql'),
      orient_inj, compareCodeUnits_eq_compare_iff hs ht]
    simp
  · -- something else than strings decides, in the same way
    have hd : decidingStrings left right orderBy = none := by
      rw [decidingStrings, if_neg (not_or.2 ⟨hne, hmiss⟩)]
      split
      · rename_i s t hv hw
        exact absurd ⟨s, t, hv, hw⟩ hstr
      · rfl
    rw [hjs, hd, then_of_ne hsql, then_of_ne hsql]
    simp

/-- **The in-memory order of two documents is the SQL order exactly when `OrdersAgree`**: the strings that decide
between them do not first differ in an astral character and one in U+E000..U+FFFF, and a document that has a function
for a field it lacks comes last as it is. -/
theorem sign_compareListDocuments_iff (left right : DocumentSnapshot) (orderBy : JsString)
    (order : ListOrderDirection) (type : FieldType) (hname : isMetadataName orderBy = true)
    (hl : ListedDocument type orderBy left) (hr : ListedDocument type orderBy right) :
    sign (compareListDocuments left right orderBy order) =
        compareRows (listOrderExpression orderBy order) left right ↔
      OrdersAgree left right orderBy order := by
  rw [sign_compareListDocuments, compareRows_listOrderExpression left right order hname]
  have htie := sqlTie_eq orderBy hl.name hr.name hl.updatedAt hr.updatedAt
  have htie' := sqlTie_eq orderBy hr.name hl.name hr.updatedAt hl.updatedAt
  unfold OrdersAgree
  rcases listOrderValue_eq hname left with ⟨hltext, hlvalue⟩ | ⟨lname, hltext, hlvalue, hlnone, hlinherited⟩ <;>
    rcases listOrderValue_eq hname right with ⟨hrtext, hrvalue⟩ | ⟨rname, hrtext, hrvalue, hrnone, hrinherited⟩
  · rw [hltext, hrtext, hlvalue, hrvalue]
    exact rows_agree_iff order hl hr
  · -- the right document has a function
    have hsome : orderedValue left orderBy ≠ none := by
      intro hnone
      rw [inheritedText, hnone, hrinherited] at hltext
      cases hltext
    rw [hltext, hrtext]
    exact lacksLast_iff_swap order ⟨hrvalue, hrnone⟩ hlvalue hsome htie' htie
  · -- the left document has a function
    have hsome : orderedValue right orderBy ≠ none := by
      intro hnone
      rw [inheritedText, hnone, hlinherited] at hrtext
      cases hrtext
    rw [hltext, hrtext]
    exact lacksLast_iff order ⟨hlvalue, hlnone⟩ hrvalue hsome htie
  · -- both have the same function: a tie on both sides
    obtain rfl : lname = rname := FieldValue.method.inj (hlinherited.symm.trans hrinherited)
    have hmemory : sign (compareListValues (.method lname) (.method lname) (directionFactor order)) =
        sign (compareListValues (orderedValue left orderBy) (orderedValue right orderBy) (directionFactor order)) := by
      have hsame : compareListValues (.method lname) (.method lname) (directionFactor order) =
          compareBinaryStrings (FieldValue.methodText lname) (FieldValue.methodText lname) * directionFactor order := rfl
      have hmissing : compareListValues (FieldValue.ofOption none) (FieldValue.ofOption none) (directionFactor order) = 0 := rfl
      rw [hsame, sign_mul_direction, sign_compareBinaryStrings, compareCodeUnits_self, hlnone, hrnone, hmissing]
      cases order <;> decide
    rw [hltext, hrtext, hlvalue, hrvalue, hmemory]
    exact rows_agree_iff order hl hr

/-- A document with one field, for the examples. -/
def titled (name title : JsString) : DocumentSnapshot :=
  { tenantId := js "t", doctype := js "Note", name, version := 1, docstatus := .draft,
    data := [(js "title", .str title)], createdAt := js "2026", updatedAt := js "2026" }

theorem titled_listed (name title : JsString) (hn : WellFormed name) (ht : WellFormed title) :
    ListedDocument .text (js "title") (titled name title) where
  value := ht
  name := hn
  updatedAt := (by decide : WellFormed (js "2026"))

theorem decidingStrings_titled : decidingStrings (titled (js "a") (js "apple"))
    (titled (js "b") (js "B")) (js "title") = some (js "apple", js "B") := by
  decide +kernel

theorem sign_compareListDocuments_iff_titles :
    sign (compareListDocuments (titled (js "a") (js "apple")) (titled (js "b") (js "B")) (js "title") .asc) =
      compareRows (listOrderExpression (js "title") .asc) (titled (js "a") (js "apple"))
        (titled (js "b") (js "B")) :=
  (sign_compareListDocuments_iff _ _ (js "title") .asc .text (by decide)
    (titled_listed _ _ (by decide) (by decide)) (titled_listed _ _ (by decide) (by decide))).2
    (by
      intro s t h
      obtain ⟨rfl, rfl⟩ := Prod.mk.inj (Option.some.inj (decidingStrings_titled.symm.trans h))
      decide)

/-- A grinning face sorts before U+E000 in memory and after it in SQL. -/
theorem listOrder_disagrees_on_astral :
    ¬ ∀ (left right : DocumentSnapshot) (orderBy : JsString) (order : ListOrderDirection)
      (type : FieldType), isMetadataName orderBy = true → ListedDocument type orderBy left →
      ListedDocument type orderBy right →
      sign (compareListDocuments left right orderBy order) =
        compareRows (listOrderExpression orderBy order) left right := by
  intro h
  have h' := h (titled (js "a") (js "😀")) (titled (js "b") [0xE000]) (js "title") .asc .text
    (by decide) (titled_listed _ _ (by decide) (by decide)) (titled_listed _ _ (by decide) (by decide))
  exact absurd h' (by decide +kernel)
