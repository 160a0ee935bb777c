import CfFrappe.Adapters.ListOrder
import CfFrappe.Adapters.ProjectionQuery
import CfFrappe.Core.PredicateChecks

set_option autoImplicit false

/-! # Comparing a stored value with a literal

What a comparison of a column with a bound literal is worth in SQL, against its value in memory: by order, by
equality and by membership, for a stored value that is absent or of the kind of the literal. An absent value makes
every SQL comparison unknown, and the comparison in memory false; a present one of the same kind compares the same way
on both sides, texts by their bytes.

The column a predicate reads holds the stored value of the field (`rowValue_listFilterExpression`): that of a system
field, or the document's own one. In memory the predicate reads that same value, unless the document lacks the field
and objects inherit something under its name (`predicateDocumentValue_of_own`).
-/

open Utf

open Sqlite (Truth TermDenotes kand kany orderTruth)

/-! ## Values of one kind -/

/-- Two present values of one kind; texts hold no unpaired surrogate. -/
inductive SameKind : Json → Json → Prop
  | text {s t : JsString} (hs : WellFormed s) (ht : WellFormed t) : SameKind (.str s) (.str t)
  | number (a b : Rat) : SameKind (.num a) (.num b)
  | boolean (a b : Bool) : SameKind (.bool a) (.bool b)

theorem bindParam_sqliteJsonValue (value : Json) :
    bindParam (sqliteJsonValue value) = extractValue (some value) := by
  cases value <;> rfl

theorem sign_ofInt (n : Int) : sign (n : Rat) = compare n 0 := by
  rcases lt_trichotomy n 0 with h | rfl | h
  · have hn : (n : Rat) < 0 := by exact_mod_cast h
    rw [sign, Sqlite.compareNum, if_pos hn, Int.compare_eq_lt.2 h]
  · rfl
  · have hn : (0 : Rat) < n := by exact_mod_cast h
    rw [sign, Sqlite.compareNum, if_neg hn.le.not_gt, if_neg hn.ne', Int.compare_eq_gt.2 h]

theorem compare_sub_zero (a b : Nat) : compare ((a : Int) - b) 0 = compare a b := by
  rcases lt_trichotomy a b with h | rfl | h
  · rw [Nat.compare_eq_lt.2 h, Int.compare_eq_lt.2 (by omega)]
  · simp
  · rw [Nat.compare_eq_gt.2 h, Int.compare_eq_gt.2 (by omega)]

/-- The difference of two byte sequences has the sign of their order. -/
theorem sign_compareBytes (as bs : List Nat) : sign (compareBytes as bs : Int) = compare as bs := by
  induction as generalizing bs with
  | nil =>
    rw [sign_ofInt]
    cases bs with
    | nil => rfl
    | cons b bs =>
      rw [List.compare_nil_cons, Int.compare_eq_lt]
      simp only [compareBytes, List.length_nil, List.length_cons]
      omega
  | cons a as ih =>
    cases bs with
    | nil =>
      rw [sign_ofInt, List.compare_cons_nil, Int.compare_eq_gt]
      simp only [compareBytes, List.length_nil, List.length_cons]
      omega
    | cons b bs =>
      rw [compareBytes, List.compare_cons_cons]
      split_ifs with h
      · rw [sign_ofInt, compare_sub_zero]
        have hne : compare a b ≠ .eq := fun heq => h (by rw [Nat.compare_eq_eq.1 heq]; simp)
        rw [then_of_ne hne]
      · have hab : a = b := by omega
        rw [ih, hab, Nat.compare_eq_eq.2 rfl]
        rfl

theorem sign_compareTextBinary {s t : JsString} (hs : WellFormed s) (ht : WellFormed t) :
    sign (compareTextBinary s t : Int) = Sqlite.compareValues (Sqlite.ofString s) (Sqlite.ofString t) := by
  rw [compareValues_ofString hs ht, compareTextBinary]
  split_ifs with h
  · rw [h, Std.ReflOrd.compare_self]
    rfl
  · exact sign_compareBytes _ _

theorem compareValues_ofString_eq {s t : JsString} (hs : WellFormed s) (ht : WellFormed t) :
    Sqlite.compareValues (Sqlite.ofString s) (Sqlite.ofString t) = .eq ↔ s = t := by
  rw [compareValues_ofString hs ht]
  constructor
  · intro h
    exact textEncode_injective hs ht (Std.LawfulEqOrd.eq_of_compare h)
  · rintro rfl
    exact Std.ReflOrd.compare_self

namespace SameKind

variable {a l : Json}

theorem compare_eq_eq (h : SameKind a l) :
    Sqlite.compareValues (extractValue (some a)) (extractValue (some l)) = .eq ↔ Json.valuesEqual a l = true := by
  cases h with
  | text hs ht =>
    rw [Json.valuesEqual_str, decide_eq_true_eq]
    exact compareValues_ofString_eq hs ht
  | number a b =>
    rw [Json.valuesEqual_num, decide_eq_true_eq]
    exact compareNum_eq_eq
  | boolean a b => cases a <;> cases b <;> decide

theorem sign_compareValues (h : SameKind a l) :
    sign (compareValues (.value a) (.value l)) =
      Sqlite.compareValues (extractValue (some a)) (extractValue (some l)) := by
  cases h with
  | text hs ht => exact sign_compareTextBinary hs ht
  | number a b => exact sign_sub a b
  | boolean a b => cases a <;> cases b <;> decide +kernel

theorem comparable (h : SameKind a l) : comparable (.value a) (.value l) = true := by
  cases h <;> rfl

end SameKind

/-! ## A stored value and a literal -/

/-- The literal is a scalar, of the kind of the stored value if one is present. -/
structure LiteralFor (v : Option Json) (l : Json) : Prop where
  scalar : isScalar l = true
  sameKind : ∀ a, v = some a → a ≠ .null → SameKind a l

theorem extractValue_isAbsent (v : Option Json) : (extractValue v == .null) = isAbsent v := by
  rcases v with _ | ⟨_ | b | n | s | items | members⟩ <;> rfl

theorem extractValue_of_absent {v : Option Json} (h : isAbsent v = true) : extractValue v = .null := by
  rw [← extractValue_isAbsent] at h
  exact beq_iff_eq.1 h

theorem exists_present {v : Option Json} (h : isAbsent v = false) : ∃ a, v = some a ∧ a ≠ .null := by
  cases v with
  | none => exact nomatch h
  | some a => exact ⟨a, rfl, fun ha => by rw [ha] at h; exact nomatch h⟩

theorem orderTruth_present (holds : Ordering → Bool) {a b : Sqlite.Value} (ha : a ≠ .null)
    (hb : b ≠ .null) : orderTruth holds a b = some (holds (Sqlite.compareValues a b)) := by
  cases a with
  | null => exact absurd rfl ha
  | num n => cases b <;> first | exact absurd rfl hb | rfl
  | text cs => cases b <;> first | exact absurd rfl hb | rfl

theorem SameKind.orderTruth {a l : Json} (h : SameKind a l) (holds : Ordering → Bool) :
    Sqlite.orderTruth holds (extractValue (some a)) (extractValue (some l)) =
      some (holds (Sqlite.compareValues (extractValue (some a)) (extractValue (some l)))) := by
  cases h <;> exact orderTruth_present holds (by simp [extractValue, Sqlite.ofString])
    (by simp [extractValue, Sqlite.ofString])

theorem orderTruth_null (holds : Ordering → Bool) (b : Sqlite.Value) : orderTruth holds .null b = none := rfl

namespace LiteralFor

variable {v : Option Json} {l : Json}

/-- There is no value, or one of the kind of the literal. -/
theorem absent_or_sameKind (h : LiteralFor v l) : isAbsent v = true ∨ ∃ a, v = some a ∧ SameKind a l := by
  cases hv : isAbsent v with
  | true => exact Or.inl rfl
  | false =>
    obtain ⟨a, rfl, ha⟩ := exists_present hv
    exact Or.inr ⟨a, rfl, h.sameKind a rfl ha⟩

theorem comparable_of_absent {v : FieldValue} (hv : isAbsent v = true) (l : FieldValue) : comparable v l = false := by
  rcases v with _ | ⟨_ | b | n | s | items | members⟩ | name | _ <;> first | rfl | exact absurd hv Bool.false_ne_true

theorem comparable_of_present (h : LiteralFor v l) (hv : isAbsent v = false) : comparable v (.value l) = true := by
  rcases h.absent_or_sameKind with habsent | ⟨a, rfl, hk⟩
  · rw [hv] at habsent
    exact nomatch habsent
  · exact hk.comparable

/-- **A comparison by order** is true in SQL exactly when it is in memory. -/
theorem orderTruth_eq_true (h : LiteralFor v l) (holds : Ordering → Bool) :
    orderTruth holds (extractValue v) (extractValue (some l)) = some true ↔
      (comparable v (.value l) && holds (sign (compareValues v (.value l)))) = true := by
  rcases h.absent_or_sameKind with hv | ⟨a, rfl, hk⟩
  · rw [extractValue_of_absent hv, orderTruth_null, comparable_of_absent hv]
    simp
  · rw [hk.orderTruth, FieldValue.ofOption_some, hk.sign_compareValues, hk.comparable, Bool.true_and, Option.some_inj]

theorem jsonValuesEqual_of_absent (h : isScalar l = true) (hv : isAbsent v = true) :
    jsonValuesEqual v (.value l) = false := by
  rcases v with _ | a
  · rfl
  · cases a with
    | null => cases l <;> first | rfl | exact absurd h Bool.false_ne_true
    | _ => exact absurd hv Bool.false_ne_true

/-- **An equality** is true in SQL exactly when it is in memory. -/
theorem eqTruth_eq_true (h : LiteralFor v l) :
    orderTruth (· == .eq) (extractValue v) (extractValue (some l)) = some true ↔
      jsonValuesEqual v (.value l) = true := by
  rcases h.absent_or_sameKind with hv | ⟨a, rfl, hk⟩
  · rw [extractValue_of_absent hv, orderTruth_null, jsonValuesEqual_of_absent h.scalar hv]
    simp
  · rw [hk.orderTruth, Option.some_inj, beq_iff_eq, hk.compare_eq_eq]
    rfl

/-- **An inequality** of a present value. -/
theorem neTruth_eq_true (h : LiteralFor v l) :
    kand (some (extractValue v != .null))
        (orderTruth (· != .eq) (extractValue v) (extractValue (some l))) = some true ↔
      (!isAbsent v && !jsonValuesEqual v (.value l)) = true := by
  rw [Sqlite.kand_eq_true, Option.some_inj, bne, extractValue_isAbsent, Bool.and_eq_true]
  refine and_congr_right (fun hv => ?_)
  rcases h.absent_or_sameKind with habsent | ⟨a, rfl, hk⟩
  · rw [habsent] at hv
    exact absurd hv (by decide)
  · rw [hk.orderTruth, Option.some_inj, bne, Bool.eq_iff_iff.2
      (show (Sqlite.compareValues _ _ == .eq) = true ↔ _ from beq_iff_eq.trans hk.compare_eq_eq)]
    rfl

end LiteralFor

theorem valuesEqual_null {a : Json} (h : a ≠ .null) : Json.valuesEqual a .null = false := by
  cases a with
  | null => exact absurd rfl h
  | _ => rfl

/-! ### Membership -/

section

variable {v : Option Json} {items : List Json}

/-- The items that take part in a membership test. -/
theorem any_filter_null {a : Json} (ha : a ≠ .null) :
    (items.filter (fun item => item ≠ .null)).any (fun item => Json.valuesEqual a item) =
      items.any (fun item => Json.valuesEqual a item) := by
  induction items with
  | nil => rfl
  | cons item items ih =>
    by_cases hitem : item = .null
    · rw [List.filter_cons_of_neg (by simp [hitem]), List.any_cons, hitem, valuesEqual_null ha,
        Bool.false_or, ih]
    · rw [List.filter_cons_of_pos (by simpa using hitem), List.any_cons, ih, List.any_cons]

/-- Membership of a present value is never unknown. -/
theorem inTruth_present {a : Json} {literals : List Json} (h : ∀ l ∈ literals, SameKind a l) :
    Sqlite.inTruth (extractValue (some a)) (literals.map (fun l => extractValue (some l))) =
      some (literals.any (fun l => Json.valuesEqual a l)) := by
  induction literals with
  | nil => rfl
  | cons l literals ih =>
    have hl : SameKind a l := h l (by simp)
    have hrest := ih (fun l' hl' => h l' (List.mem_cons_of_mem l hl'))
    have heq : (Sqlite.compareValues (extractValue (some a)) (extractValue (some l)) == .eq) =
        Json.valuesEqual a l := by
      rw [Bool.eq_iff_iff, beq_iff_eq, hl.compare_eq_eq]
    rw [List.map_cons, Sqlite.inTruth, List.map_cons, kany, List.foldr_cons, hl.orderTruth, heq,
      ← kany, ← Sqlite.inTruth, hrest, List.any_cons]
    cases Json.valuesEqual a l <;> cases literals.any (fun l => Json.valuesEqual a l) <;> rfl

theorem inTruth_null {values : List Sqlite.Value} : Sqlite.inTruth .null values ≠ some true := by
  rw [Sqlite.inTruth, ne_eq, Sqlite.kany_eq_true]
  rintro ⟨t, ht, rfl⟩
  obtain ⟨value, _, hvalue⟩ := List.mem_map.1 ht
  exact absurd hvalue (by simp [orderTruth_null])

/-- The items of the list that are not null, as they are bound. -/
def boundItems (items : List Json) : List Sqlite.Value :=
  (items.filter (fun item => item ≠ .null)).map (fun l => extractValue (some l))

theorem sameKind_of_literalFor {a : Json} (ha : a ≠ .null)
    (h : ∀ item ∈ items, item ≠ .null → LiteralFor (some a) item) :
    ∀ l ∈ items.filter (fun item => item ≠ .null), SameKind a l := by
  intro l hl
  rw [List.mem_filter, decide_eq_true_eq] at hl
  exact (h l hl.1 hl.2).sameKind a rfl ha

theorem inTruth_eq_true (h : ∀ item ∈ items, item ≠ .null → LiteralFor v item) :
    Sqlite.inTruth (extractValue v) (boundItems items) = some true ↔
      (!isAbsent v && items.any (fun item => jsonValuesEqual v (.value item))) = true := by
  by_cases hv : isAbsent v = true
  · rw [extractValue_of_absent hv, hv]
    simpa using inTruth_null
  · rw [Bool.not_eq_true] at hv
    obtain ⟨a, rfl, ha⟩ := exists_present hv
    rw [boundItems, inTruth_present (sameKind_of_literalFor ha h), any_filter_null ha,
      Option.some_inj, hv, Bool.not_false, Bool.true_and]
    rfl

theorem notInTruth_eq_true (h : ∀ item ∈ items, item ≠ .null → LiteralFor v item) :
    kand (some (extractValue v != .null))
        (Sqlite.knot (Sqlite.inTruth (extractValue v) (boundItems items))) = some true ↔
      (!isAbsent v && !items.any (fun item => jsonValuesEqual v (.value item))) = true := by
  rw [Sqlite.kand_eq_true, Option.some_inj, bne, extractValue_isAbsent, Bool.and_eq_true]
  refine and_congr_right (fun hv => ?_)
  obtain ⟨a, rfl, ha⟩ := exists_present (Bool.not_eq_true' _ ▸ hv)
  rw [boundItems, inTruth_present (sameKind_of_literalFor ha h), any_filter_null ha,
    Sqlite.knot, Option.map_some, Option.some_inj]
  rfl

end

/-! ### Order by sign -/

theorem gt_zero_eq (x : Rat) : decide (x > 0) = (sign x == .gt) := by
  unfold sign Sqlite.compareNum
  rcases lt_trichotomy x 0 with h | rfl | h
  · simp [h, h.le]
  · rfl
  · simp [h, h.ne', h.le]

theorem ge_zero_eq (x : Rat) : decide (x ≥ 0) = (sign x != .lt) := by
  unfold sign Sqlite.compareNum
  rcases lt_trichotomy x 0 with h | rfl | h
  · simp [h]
  · rfl
  · simp [h.ne', h.le]

theorem lt_zero_eq (x : Rat) : decide (x < 0) = (sign x == .lt) := by
  rw [← Bool.not_inj_iff, ← decide_not, decide_eq_decide.2 not_lt]
  exact ge_zero_eq x

theorem le_zero_eq (x : Rat) : decide (x ≤ 0) = (sign x != .gt) := by
  rw [← Bool.not_inj_iff, ← decide_not, decide_eq_decide.2 not_le, bne, Bool.not_not]
  exact gt_zero_eq x

theorem isAbsent_of_comparable {v l : FieldValue} (h : comparable v l = true) : isAbsent v = false := by
  cases hv : isAbsent v with
  | false => rfl
  | true =>
    rw [LiteralFor.comparable_of_absent hv] at h
    exact nomatch h

/-! ## Fields and rows -/

variable {field : JsString} {type : FieldType} {definition : FieldDefinition}

section

variable {doctype : DocTypeDefinition} {options : NormalizePredicateOptions}

/-- The names of the declared fields are metadata names, as a DocType definition checks. -/
def DocTypeDefinition.NamesValid (doctype : DocTypeDefinition) : Prop :=
  ∀ field ∈ doctype.fields, isMetadataName field.name = true

theorem isMetadataName_of_requirePredicateField (hnames : doctype.NamesValid)
    (h : requirePredicateField doctype options field = .ok definition) (hsystem : systemFilterExpression field = none) :
    isMetadataName field = true := by
  unfold requirePredicateField at h
  cases hfind : systemPredicateFields.find? (fun f => f.name == field) with
  | some f =>
    -- the system fields are the ones with a column of their own
    have hname := List.find?_some hfind
    have hmem := List.mem_of_find?_eq_some hfind
    rw [beq_iff_eq] at hname
    rw [← hname] at hsystem
    simp only [systemPredicateFields, List.mem_cons, List.not_mem_nil, or_false] at hmem
    rcases hmem with rfl | rfl | rfl | rfl | rfl <;> exact absurd hsystem (by decide)
  | none =>
    rw [hfind, Option.none_or] at h
    cases hdecl : doctype.field? field with
    | none =>
      rw [hdecl] at h
      exact nomatch h
    | some f =>
      rw [← DocTypeDefinition.field?_name hdecl]
      exact hnames f (DocTypeDefinition.field?_mem hdecl)

/-- The value that a row keeps for a field: that of a system field, or the document's own one. -/
def storedValue (document : DocumentSnapshot) (field : JsString) : Option Json :=
  if field = js "system.name" then some (.str document.name)
  else if field = js "system.docstatus" then some (.str (document.docstatus.toText))
  else if field = js "system.createdAt" then some (.str document.createdAt)
  else if field = js "system.updatedAt" then some (.str document.updatedAt)
  else if field = js "system.version" then some (.num document.version)
  else Record.get document.data field

/-- Where the document lacks the field, objects inherit nothing under its name. -/
def OwnField (document : DocumentSnapshot) (field : JsString) : Prop :=
  Record.get document.data field = none → inheritedValue field = .undefined

/-- **What a predicate reads is what is stored**, if nothing is inherited. -/
theorem predicateDocumentValue_of_own {document : DocumentSnapshot} (h : OwnField document field) :
    predicateDocumentValue (some document) field = FieldValue.ofOption (storedValue document field) := by
  unfold predicateDocumentValue storedValue
  dsimp only
  split_ifs
  all_goals first | rfl | exact readField_of_undefined h

theorem storedValue_system (document : DocumentSnapshot) {expression : ColumnExpr}
    (h : systemFilterExpression field = some expression) :
    extractValue (storedValue document field) = rowValue document expression ∧
      isAbsent (storedValue document field) = false := by
  unfold systemFilterExpression at h
  unfold storedValue
  split_ifs at h ⊢ <;> (obtain rfl := Option.some.inj h; exact ⟨rfl, rfl⟩)

theorem storedValue_data (document : DocumentSnapshot) (h : systemFilterExpression field = none) :
    storedValue document field = Record.get document.data field := by
  unfold systemFilterExpression at h
  unfold storedValue
  split_ifs at h ⊢
  rfl

/-- **The column a predicate reads holds the stored value.** -/
theorem rowValue_listFilterExpression (hnames : doctype.NamesValid) (document : DocumentSnapshot)
    (h : requirePredicateField doctype options field = .ok definition) :
    rowValue document (listFilterExpression field) = extractValue (storedValue document field) := by
  unfold listFilterExpression
  cases hsystem : systemFilterExpression field with
  | some expression => exact (storedValue_system document hsystem).1.symm
  | none =>
    rw [storedValue_data document hsystem]
    exact rowValue_jsonExtract document (isMetadataName_of_requirePredicateField hnames h hsystem)

/-- The JSON types other than null. -/
def jsonTypeNames : List JsString :=
  [js "true", js "false", js "integer", js "real", js "text", js "array", js "object"]

theorem typeValue_present {a : Json} (h : a ≠ .null) :
    ∃ name ∈ jsonTypeNames, typeValue (some a) = Sqlite.ofString name := by
  cases a with
  | null => exact absurd rfl h
  | bool b => cases b <;> exact ⟨_, by decide, rfl⟩
  | num n =>
    by_cases hden : n.den = 1
    · exact ⟨js "integer", by decide, by rw [typeValue, if_pos hden]⟩
    · exact ⟨js "real", by decide, by rw [typeValue, if_neg hden]⟩
  | str s => exact ⟨js "text", by decide, rfl⟩
  | arr items => exact ⟨js "array", by decide, rfl⟩
  | obj members => exact ⟨js "object", by decide, rfl⟩

theorem jsonTypeNames_ne_null : ∀ name ∈ jsonTypeNames,
    orderTruth (· == .eq) (Sqlite.ofString name) (Sqlite.ofString (js "null")) ≠ some true := by
  decide +kernel

theorem typeTruth_eq_true (v : Option Json) :
    orderTruth (· == .eq) (typeValue v) (Sqlite.ofString (js "null")) = some true ↔
      jsonValuesEqual v (.value .null) = true := by
  cases v with
  | none => exact iff_of_false (by simp [typeValue, orderTruth]) Bool.false_ne_true
  | some a =>
    by_cases ha : a = .null
    · rw [ha]
      exact iff_of_true (by decide +kernel) rfl
    · obtain ⟨name, hname, htype⟩ := typeValue_present ha
      have hvalues : jsonValuesEqual (some a) (.value .null) = false := valuesEqual_null ha
      rw [htype, hvalues]
      exact iff_of_false (jsonTypeNames_ne_null name hname) Bool.false_ne_true

/-- **Equality with null** tells a JSON null from a missing key. -/
theorem nullEquality_denotes (hnames : doctype.NamesValid) (document : DocumentSnapshot)
    (h : requirePredicateField doctype options field = .ok definition) :
    ∃ t, TermDenotes (rowValue document) (nullEqualityExpression field (listFilterExpression field)) [] t ∧
      (t = some true ↔ jsonValuesEqual (storedValue document field) (.value .null) = true) := by
  unfold nullEqualityExpression
  cases hsystem : systemFilterExpression field with
  | none =>
    refine ⟨_, Sqlite.termDenotes_compareLiteral _ _ _ rfl, ?_⟩
    rw [storedValue_data document hsystem,
      rowValue_jsonType document (isMetadataName_of_requirePredicateField hnames h hsystem)]
    exact typeTruth_eq_true _
  | some expression =>
    obtain ⟨-, hpresent⟩ := storedValue_system document hsystem
    refine ⟨_, Sqlite.termDenotes_isNull _, ?_⟩
    obtain ⟨a, ha, hne⟩ := exists_present hpresent
    rw [rowValue_listFilterExpression hnames document h, extractValue_isAbsent, hpresent, ha]
    have hvalues : jsonValuesEqual (some a) (.value .null) = false := valuesEqual_null hne
    rw [hvalues, Option.some_inj]

end

/-! ## Stored values of the declared type -/

/-- A text without surrogates and without NUL. -/
def IsPlainText (s : JsString) : Prop := SurrogateFree s ∧ (0 : UInt16) ∉ s

/-- A plain value of the declared type. -/
def HasDeclaredType : FieldType → Json → Prop
  | .text, .str s | .longText, .str s | .date, .str s | .datetime, .str s | .select, .str s
  | .link, .str s => IsPlainText s
  | .integer, .num n => n.den = 1
  | .number, .num _ => True
  | .boolean, .bool _ => True
  | _, _ => False

/-- Absent, null, or a plain value of the declared type. -/
def FilteredValue (type : FieldType) : Option Json → Prop
  | none | some .null => True
  | some a => HasDeclaredType type a

/-- The strings of a literal, those of its items included, hold no unpaired surrogate. -/
def LiteralWellFormed : Json → Prop
  | .str s => WellFormed s
  | .arr items => ∀ s, .str s ∈ items → WellFormed s
  | _ => True

theorem FilteredValue.hasDeclaredType {a : Json} (h : FilteredValue type (some a)) (ha : a ≠ .null) :
    HasDeclaredType type a := by
  cases a with
  | null => exact absurd rfl ha
  | _ => exact h

/-- A value of the declared type and a literal that fits it are of one kind. -/
theorem sameKind_of_fits {a l : Json} (ha : HasDeclaredType type a) (hfits : LiteralFits type l) (hl : l ≠ .null)
    (hwell : LiteralWellFormed l) : SameKind a l := by
  rcases hfits with hnull | hdate | hkind
  · exact absurd hnull hl
  · -- dates are texts
    cases type with
    | date | datetime =>
      cases a with
      | str s =>
        cases l with
        | str t => exact .text ha.1.wellFormed hwell
        | _ => exact nomatch hdate
      | _ => exact absurd ha (by simp [HasDeclaredType])
    | _ => exact nomatch hdate
  · cases type with
    | text | longText | select | link =>
      cases a with
      | str s =>
        cases l with
        | str t => exact .text ha.1.wellFormed hwell
        | _ => exact nomatch hkind
      | _ => exact absurd ha (by simp [HasDeclaredType])
    | integer | number =>
      cases a with
      | num n =>
        cases l with
        | num m => exact .number n m
        | _ => exact nomatch hkind
      | _ => exact absurd ha (by simp [HasDeclaredType])
    | boolean =>
      cases a with
      | bool b =>
        cases l with
        | bool c => exact .boolean b c
        | _ => exact nomatch hkind
      | _ => exact absurd ha (by simp [HasDeclaredType])
    | date | datetime | json | table => cases l <;> exact nomatch hkind

theorem isScalar_of_fits {l : Json} (hfits : LiteralFits type l) (hl : l ≠ .null) : isScalar l = true := by
  cases l with
  | null => exact absurd rfl hl
  | bool _ | num _ | str _ => rfl
  | arr _ | obj _ =>
    rcases hfits with hnull | hdate | hkind
    · cases hnull
    · simp [isDateText, literalValueType] at hdate
    · cases type <;> cases hkind

theorem literalFor_of_fits {v : Option Json} {l : Json} (hv : FilteredValue type v) (hfits : LiteralFits type l)
    (hl : l ≠ .null) (hwell : LiteralWellFormed l) : LiteralFor v l where
  scalar := isScalar_of_fits hfits hl
  sameKind := by
    rintro a rfl ha
    exact sameKind_of_fits (hv.hasDeclaredType ha) hfits hl hwell

/-- No value, or a text without surrogates. -/
def IsTextValue (v : Option Json) : Prop := isAbsent v = true ∨ ∃ s, v = some (.str s) ∧ SurrogateFree s

theorem isTextValue_of_filtered (htype : type ∈ [.text, .longText, .link]) {v : Option Json} (hv : FilteredValue type v) :
    IsTextValue v := by
  cases hva : isAbsent v with
  | true => exact Or.inl hva
  | false =>
    obtain ⟨a, rfl, ha⟩ := exists_present hva
    have hdeclared := hv.hasDeclaredType ha
    simp only [List.mem_cons, List.not_mem_nil, or_false] at htype
    cases a with
    | str s => rcases htype with rfl | rfl | rfl <;> exact Or.inr ⟨s, rfl, hdeclared.1⟩
    | _ => rcases htype with rfl | rfl | rfl <;> exact absurd hdeclared (by simp [HasDeclaredType])
