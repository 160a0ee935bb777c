import CfFrappe.Adapters.LikePushdown
import CfFrappe.Adapters.StoredValues

set_option autoImplicit false

/-! # The SQL clause selects what the predicate selects

The compiled clause of a checked predicate, evaluated in three-valued logic on the row of a document, is true exactly
when the predicate holds of the document in memory (`whereValue_eq_one_iff`). The clause may be unknown where the
predicate is false; negation is compiled to `IS NOT 1`, which is two-valued, so that it does not see the difference.

The proof has two parts. How conditions are joined and negated is settled once for any comparisons that agree
(`predicateExpressionWhere_agrees`); that a single comparison agrees is settled operator by operator
(`predicateComparisonWhere_agrees`), from how two values of one declared type compare. Both parts are about the stored
value of a field. What the predicate reads in memory is that value, for a field that the document has or that objects
inherit nothing for (`FilteredFieldsOwn`).

Two kinds of input are left out, and on each the two sides come apart: a literal with an unpaired surrogate, which is
bound as U+FFFD (`pushdown_disagrees_on_unpaired_surrogate`), and a document that lacks a field whose name objects
inherit (`pushdown_disagrees_on_inherited_name`).
-/

open Utf

open Sqlite (Truth Denotes TermDenotes Clause AllDenote kand kall kany orderTruth)

/-! ## Joining and negating -/

section

variable (canonicalize : UInt16 → UInt16) (document : DocumentSnapshot)

/-- The compiled condition is true on the row of the document exactly when `holds`. -/
def PredicateWhere.Agrees (document : DocumentSnapshot) (compiled : PredicateWhere) (holds : Bool) :
    Prop :=
  ∃ t : Truth, Denotes (rowValue document) (joinAnd compiled.conditions)
    (compiled.params.map bindParam) t ∧ (t = some true ↔ holds = true)

/-- A condition that is one term. -/
theorem PredicateWhere.agrees_term {document : DocumentSnapshot} {condition : SqlCondition}
    {params : List Json} {complete : Bool} {t : Truth} {holds : Bool}
    (h : TermDenotes (rowValue document) condition (params.map bindParam) t)
    (ht : t = some true ↔ holds = true) :
    (PredicateWhere.mk [condition] params complete).Agrees document holds := by
  refine ⟨t, ?_, ht⟩
  simpa [joinAnd, List.intercalate] using h.denotes

/-- A condition that also asks for a present value. -/
theorem PredicateWhere.agrees_present {document : DocumentSnapshot} {e : ColumnExpr}
    {condition : SqlCondition} {params : List Json} {complete : Bool} {t : Truth} {holds : Bool}
    (h : TermDenotes (rowValue document) condition (params.map bindParam) t)
    (ht : kand (some (rowValue document e != .null)) t = some true ↔ holds = true) :
    (PredicateWhere.mk [[.column e, .isNotNull] ++ [.and] ++ condition] params complete).Agrees document holds := by
  refine ⟨_, ?_, ht⟩
  simpa [joinAnd, List.intercalate] using (Sqlite.termDenotes_isNotNull e).denotes.and h.denotes

theorem predicateNotWhere_agrees {document : DocumentSnapshot} {inner compiled : PredicateWhere}
    {holds : Bool} (h : predicateNotWhere inner = .ok compiled) (hinner : inner.Agrees document holds) :
    compiled.Agrees document (!holds) := by
  rw [predicateNotWhere] at h
  obtain ⟨_, _, h⟩ := except_bind_eq_ok h
  rw [← Except.ok.inj h]
  obtain ⟨t, hdenotes, ht⟩ := hinner
  -- `IS NOT 1` is two-valued: an unknown operand counts as not true
  refine PredicateWhere.agrees_term hdenotes.paren.isNotOne ?_
  rw [Option.some_inj, decide_eq_true_eq, ne_eq, ht]
  simp

/-- Compiled conditions that agree, one by one, with the given truth values. -/
def AllAgree (document : DocumentSnapshot) (children : List PredicateWhere) (holds : List Bool) : Prop :=
  List.Forall₂ (fun child b => child.Agrees document b) children holds

theorem exists_clauses {document : DocumentSnapshot} {children : List PredicateWhere}
    {holds : List Bool} (h : AllAgree document children holds) :
    ∃ cs : List (Clause ColumnExpr), AllDenote (rowValue document) cs ∧
      cs.map Clause.tokens = children.map (fun child => joinAnd child.conditions) ∧
      cs.flatMap Clause.params = (children.flatMap PredicateWhere.params).map bindParam ∧
      (kall (cs.map Clause.truth) = some true ↔ holds.all id = true) ∧
      (kany (cs.map Clause.truth) = some true ↔ holds.any id = true) := by
  induction h with
  | nil => exact ⟨[], by simp [AllDenote], rfl, rfl, by simp [kall], by simp [kany]⟩
  | @cons child b children holds hchild _ ih =>
    obtain ⟨t, hdenotes, ht⟩ := hchild
    obtain ⟨cs, hall, htokens, hparams, htrue, hsome⟩ := ih
    refine ⟨⟨joinAnd child.conditions, child.params.map bindParam, t⟩ :: cs, ?_, ?_, ?_, ?_, ?_⟩
    · intro c hc
      rcases List.mem_cons.1 hc with rfl | hc
      · exact hdenotes
      · exact hall c hc
    · rw [List.map_cons, htokens, List.map_cons]
    · rw [List.flatMap_cons, hparams, List.flatMap_cons, List.map_append]
    · rw [List.map_cons, kall, List.foldr_cons, ← kall, Sqlite.kand_eq_true, htrue, ht,
        List.all_cons, Bool.and_eq_true]
      rfl
    · rw [List.map_cons, kany, List.foldr_cons, ← kany, Sqlite.kor_eq_true, hsome, ht,
        List.any_cons, Bool.or_eq_true]
      rfl

/-- Conditions joined as a group joins them. -/
def GroupMatch.join : GroupMatch → List SqlCondition → SqlCondition
  | .all, conditions => joinAnd conditions
  | .any, conditions => joinOr conditions

/-- The truth of a group, from that of its members. -/
def GroupMatch.holds : GroupMatch → List Bool → Bool
  | .all, bs => bs.all id
  | .any, bs => bs.any id

/-- What a group compiles to. -/
theorem predicateGroupWhere_eq {«match» : GroupMatch} {children : List PredicateWhere}
    {compiled : PredicateWhere} (h : predicateGroupWhere «match» children = .ok compiled) :
    children ≠ [] ∧ compiled =
      { conditions := [parenthesize («match».join (children.map (fun child => joinAnd child.conditions)))]
        params := children.flatMap PredicateWhere.params
        complete := true } := by
  rw [predicateGroupWhere] at h
  split_ifs at h with hempty
  · exact nomatch h
  · obtain ⟨_, _, hret⟩ := except_bind_eq_ok h
    rw [← Except.ok.inj hret]
    exact ⟨by simpa using hempty, by cases «match» <;> rfl⟩

theorem predicateGroupWhere_agrees {document : DocumentSnapshot} {«match» : GroupMatch}
    {children : List PredicateWhere} {compiled : PredicateWhere} {holds : List Bool}
    (h : predicateGroupWhere «match» children = .ok compiled)
    (hchildren : AllAgree document children holds) :
    compiled.Agrees document («match».holds holds) := by
  obtain ⟨hne, rfl⟩ := predicateGroupWhere_eq h
  obtain ⟨cs, hall, htokens, hcparams, htrue, hsome⟩ := exists_clauses hchildren
  cases cs with
  | nil => exact absurd (by simpa using htokens) hne
  | cons c cs =>
    cases «match» with
    | all =>
      refine PredicateWhere.agrees_term ?_ htrue
      rw [← hcparams, ← htokens]
      exact (Sqlite.denotes_joinAnd hall).paren
    | any =>
      refine PredicateWhere.agrees_term ?_ hsome
      rw [← hcparams, ← htokens]
      exact Sqlite.termDenotes_any hall

/-- Every comparison of the list agrees with its value in memory. -/
def ComparisonsAgree (context : PredicateEvaluationContext) (cs : List Comparison) : Prop :=
  ∀ c ∈ cs, ∀ compiled, predicateComparisonWhere c.left c.operator c.right = .ok compiled →
    compiled.Agrees document (comparePredicateValues canonicalize
      (predicateOperandValue context c.left) c.operator (predicateOperandValue context c.right))

variable {canonicalize document} {context : PredicateEvaluationContext}

mutual

/-- **Agreement of the comparisons carries over to the expression.** -/
theorem predicateExpressionWhere_agrees {expression : PredicateExpression} {compiled : PredicateWhere}
    (h : predicateExpressionWhere expression = .ok compiled)
    (hagree : ComparisonsAgree canonicalize document context expression.comparisons) :
    compiled.Agrees document (evaluatePredicateExpression canonicalize context expression) := by
  cases expression with
  | group «match» predicates =>
    rw [predicateExpressionWhere] at h
    obtain ⟨children, hchildren, hgroup⟩ := except_bind_eq_ok h
    have hall := predicateExpressionsWhere_agrees hchildren hagree
    have hagrees := predicateGroupWhere_agrees hgroup hall
    cases «match» with
    | all =>
      rw [evaluatePredicateExpression, evaluateAll_eq]
      simpa [GroupMatch.holds] using hagrees
    | any =>
      rw [evaluatePredicateExpression, evaluateAny_eq]
      simpa [GroupMatch.holds] using hagrees
  | not predicate =>
    rw [predicateExpressionWhere] at h
    obtain ⟨inner, hinner, hnot⟩ := except_bind_eq_ok h
    rw [evaluatePredicateExpression]
    exact predicateNotWhere_agrees hnot (predicateExpressionWhere_agrees hinner hagree)
  | compare left operator right =>
    rw [predicateExpressionWhere] at h
    rw [evaluatePredicateExpression]
    exact hagree ⟨left, operator, right⟩ (by simp [PredicateExpression.comparisons]) compiled h

theorem predicateExpressionsWhere_agrees {predicates : List PredicateExpression}
    {children : List PredicateWhere} (h : predicateExpressionsWhere predicates = .ok children)
    (hagree : ComparisonsAgree canonicalize document context (PredicateExpression.comparisonsOfAll predicates)) :
    AllAgree document children (predicates.map (evaluatePredicateExpression canonicalize context)) := by
  cases predicates with
  | nil =>
    rw [predicateExpressionsWhere] at h
    rw [← Except.ok.inj h]
    exact .nil
  | cons predicate rest =>
    rw [predicateExpressionsWhere] at h
    obtain ⟨compiled, hcompiled, hnext⟩ := except_bind_eq_ok h
    obtain ⟨compiledRest, hrest, hret⟩ := except_bind_eq_ok hnext
    rw [← Except.ok.inj hret]
    have hsplit : PredicateExpression.comparisonsOfAll (predicate :: rest) =
        predicate.comparisons ++ PredicateExpression.comparisonsOfAll rest := by
      rw [PredicateExpression.comparisonsOfAll]
    refine .cons (predicateExpressionWhere_agrees hcompiled ?_) (predicateExpressionsWhere_agrees hrest ?_)
    · intro c hc
      exact hagree c (by rw [hsplit]; exact List.mem_append_left _ hc)
    · intro c hc
      exact hagree c (by rw [hsplit]; exact List.mem_append_right _ hc)

end

end

/-! ## Text operators -/

section

variable {canonicalize : UInt16 → UInt16} {document : DocumentSnapshot} {e : ColumnExpr}
  {v : Option Json} {pattern : JsString}

/-- The value matches a `like` pattern. -/
def matchesLike (canonicalize : UInt16 → UInt16) (v : Option Json) (pattern : JsString) : Bool :=
  !isAbsent v && likePatternMatches canonicalize v pattern

theorem neverMatchesWhere_agrees : neverMatchesWhere.Agrees document false := by
  refine PredicateWhere.agrees_term (t := some false) (Sqlite.termDenotes_literals _ _ _ ?_) (by simp)
  decide

theorem matchesLike_of_absent (hv : isAbsent v = true) : matchesLike canonicalize v pattern = false := by
  rw [matchesLike, hv]
  rfl

/-- `GLOB` with the translated pattern. -/
theorem globTruth (hfold : FoldsAsTable canonicalize) (hv : IsTextValue v)
    (hp : WellFormed pattern) {translated : JsString}
    (htranslated : likeGlobPattern pattern = .glob translated) :
    ∃ t, Sqlite.applyOperator .glob (extractValue v) (Sqlite.ofString translated) = some t ∧
      (t = some true ↔ matchesLike canonicalize v pattern = true) := by
  rcases hv with habsent | ⟨s, rfl, hs⟩
  · refine ⟨none, ?_, ?_⟩
    · rw [extractValue_of_absent habsent]
      rfl
    · rw [matchesLike_of_absent habsent]
      simp
  · have hagrees := likePattern_agrees hfold hp hs
    rw [htranslated] at hagrees
    refine ⟨some (Sqlite.globMatches (codePoints s) ((codePoints translated).map scalarOf)), ?_, ?_⟩
    · rw [extractValue, ofString_of_wellFormed hs.wellFormed]
      rfl
    · rw [Option.some_inj, ← hagrees]
      rfl

theorem matchesLike_never (hfold : FoldsAsTable canonicalize) (hv : IsTextValue v)
    (hp : WellFormed pattern) (hnever : likeGlobPattern pattern = .never) :
    matchesLike canonicalize v pattern = false := by
  rcases hv with habsent | ⟨s, rfl, hs⟩
  · exact matchesLike_of_absent habsent
  · have hagrees := likePattern_agrees hfold hp hs
    rw [hnever] at hagrees
    exact hagrees

/-- **A pattern compiled to `GLOB`.** -/
theorem globPredicateWhere_agrees (hfold : FoldsAsTable canonicalize)
    (hrow : rowValue document e = extractValue v) (hv : IsTextValue v) (hp : WellFormed pattern)
    {field : JsString} {operator : PredicateOperator} {compiled : PredicateWhere}
    (h : globPredicateWhere field e operator pattern = .ok compiled) :
    compiled.Agrees document
      (if operator = .notLike then !isAbsent v && !matchesLike canonicalize v pattern
       else matchesLike canonicalize v pattern) := by
  rw [globPredicateWhere] at h
  obtain ⟨_, _, h⟩ := except_bind_eq_ok h
  cases htranslated : likeGlobPattern pattern with
  | never =>
    rw [htranslated] at h
    simp only at h
    rw [matchesLike_never hfold hv hp htranslated]
    split_ifs at h ⊢
    · rw [← Except.ok.inj h]
      refine PredicateWhere.agrees_term (Sqlite.termDenotes_isNotNull e) ?_
      rw [hrow, Option.some_inj, bne, extractValue_isAbsent, Bool.not_false, Bool.and_true]
    · rw [← Except.ok.inj h]
      exact neverMatchesWhere_agrees
  | glob translated =>
    rw [htranslated] at h
    obtain ⟨_, _, h⟩ := except_bind_eq_ok h
    obtain ⟨t, happly, ht⟩ := globTruth hfold hv hp htranslated
    rw [← hrow] at happly
    have hterm := Sqlite.termDenotes_compare e .glob (Sqlite.ofString translated) happly
    split_ifs at h ⊢
    · rw [← Except.ok.inj h]
      refine PredicateWhere.agrees_present hterm.denotes.paren.isNotOne ?_
      rw [Sqlite.kand_eq_true, Option.some_inj, Option.some_inj, decide_eq_true_eq, ne_eq, ht,
        hrow, bne, extractValue_isAbsent, Bool.and_eq_true, Bool.not_eq_true', Bool.not_eq_true',
        Bool.not_eq_true]
    · rw [← Except.ok.inj h]
      exact PredicateWhere.agrees_term hterm ht

/-- Escaping adds backslashes, which part no surrogate pair. -/
theorem wellFormed_escapeLikePattern (n : Nat) : ∀ {value : JsString}, value.length ≤ n →
    WellFormed value → WellFormed (escapeLikePattern value) := by
  induction n with
  | zero =>
    intro value hlen _
    rw [List.length_eq_zero_iff.1 (Nat.le_zero.1 hlen)]
    exact fun _ hc => nomatch hc
  | succ n ih =>
    intro value hlen h
    cases value with
    | nil => exact fun _ hc => nomatch hc
    | cons u rest =>
      rw [List.length_cons] at hlen
      rw [escapeLikePattern, List.flatMap_cons, ← escapeLikePattern]
      by_cases hu : isSurrogate u = true
      · obtain ⟨w, rest', rfl, hpair, hrest⟩ := wellFormed_cons_surrogate h hu
        have hw : isSurrogate w = true := by
          simp only [Bool.and_eq_true, isLowSurrogate, isSurrogate, decide_eq_true_eq] at hpair ⊢
          omega
        have hkept : ∀ x : UInt16, isSurrogate x = true → ¬ (x = 0x5C ∨ x = 0x25 ∨ x = 0x5F) := by
          rintro x hx (rfl | rfl | rfl) <;> exact absurd hx (by decide)
        rw [escapeLikePattern, List.flatMap_cons, if_neg (hkept u hu), if_neg (hkept w hw), ← escapeLikePattern]
        rw [List.length_cons] at hlen
        exact wellFormed_cons_pair hpair (ih (by omega) hrest)
      · rw [Bool.not_eq_true] at hu
        have hrest := ih (by omega) ((wellFormed_cons_plain hu).1 h)
        split_ifs
        · exact (wellFormed_cons_plain (by decide)).2 ((wellFormed_cons_plain hu).2 hrest)
        · exact (wellFormed_cons_plain hu).2 hrest

theorem wellFormed_containsLikePattern {needle : JsString} (h : WellFormed needle) :
    WellFormed (containsLikePattern needle) := by
  have hescaped := wellFormed_escapeLikePattern needle.length le_rfl h
  have hend : WellFormed (escapeLikePattern needle ++ 0x25 :: []) :=
    hescaped.append_cons (by decide) (fun _ hc => nomatch hc)
  exact (wellFormed_cons_plain (by decide)).2 hend

end

/-! ## Comparisons -/

section

variable {canonicalize : UInt16 → UInt16} {document : DocumentSnapshot} {e : ColumnExpr}
  {v : Option Json} {type : FieldType} {l : Json}

theorem scalarPredicateValue_eq {operator : PredicateOperator} {scalar : Json}
    (h : scalarPredicateValue l operator = .ok scalar) : scalar = l := by
  unfold scalarPredicateValue at h
  split_ifs at h
  exact (Except.ok.inj h).symm

theorem primitiveArray_eq {items items' : List Json} (h : primitiveArray (.arr items) = some items') :
    items' = items := by
  rw [primitiveArray] at h
  split_ifs at h
  exact (Option.some.inj h).symm

theorem nonNullMembershipPredicateValues_eq {items values : List Json} {operator : PredicateOperator}
    (h : nonNullMembershipPredicateValues (.arr items) operator = .ok values) :
    values = items.filter (fun item => item ≠ .null) := by
  rw [nonNullMembershipPredicateValues] at h
  obtain ⟨values', hvalues, hret⟩ := except_bind_eq_ok h
  rw [← Except.ok.inj hret]
  unfold membershipPredicateValues at hvalues
  split at hvalues
  · rename_i item rest harr
    rw [← Except.ok.inj hvalues, primitiveArray_eq harr]
  · exact nomatch hvalues

theorem rangePredicateValues_eq {items : List Json} {operator : PredicateOperator}
    {minimum maximum : Json}
    (h : rangePredicateValues (.arr items) operator = .ok (minimum, maximum)) :
    items = [minimum, maximum] ∧ minimum ≠ .null ∧ maximum ≠ .null := by
  unfold rangePredicateValues at h
  split at h
  · rename_i low high harr
    split_ifs at h with hnull
    obtain ⟨rfl, rfl⟩ := Prod.mk.inj (Except.ok.inj h)
    rw [not_or] at hnull
    exact ⟨(primitiveArray_eq harr).symm, hnull⟩
  · exact nomatch h

/-- One comparison with a parameter. -/
theorem orderDenotes (hrow : rowValue document e = extractValue v) (op : Sqlite.Operator)
    (holds : Ordering → Bool) (l : Json)
    (hop : ∀ a b, Sqlite.applyOperator op a b = some (orderTruth holds a b)) :
    TermDenotes (rowValue document) [.column e, .operator op, .param]
      ([sqliteJsonValue l].map bindParam) (orderTruth holds (extractValue v) (extractValue (some l))) := by
  rw [List.map_singleton, bindParam_sqliteJsonValue]
  exact Sqlite.termDenotes_compare e op _ (by rw [hop, hrow])

/-- **A comparison by order.** -/
theorem orderedWhere_agrees (hrow : rowValue document e = extractValue v) {op : Sqlite.Operator}
    {holds : Ordering → Bool}
    (hop : ∀ a b, Sqlite.applyOperator op a b = some (orderTruth holds a b))
    (hl : LiteralFor v l) {operator : PredicateOperator} {compiled : PredicateWhere}
    (h : orderedWhere e op operator l = .ok compiled) :
    compiled.Agrees document (comparable v (.value l) && holds (sign (compareValues v (.value l)))) := by
  rw [orderedWhere] at h
  obtain ⟨scalar, hscalar, hret⟩ := except_bind_eq_ok h
  obtain rfl := scalarPredicateValue_eq hscalar
  rw [← Except.ok.inj hret]
  exact PredicateWhere.agrees_term (orderDenotes hrow op holds scalar hop) (hl.orderTruth_eq_true holds)

/-- **A range.** -/
theorem betweenWhere_agrees (hrow : rowValue document e = extractValue v) {low high : Json}
    (hlow : LiteralFor v low) (hhigh : LiteralFor v high) :
    (PredicateWhere.mk
      [parenthesize ([.column e, .operator .ge, .param] ++ [.and] ++ [.column e, .operator .le, .param])]
      [sqliteJsonValue low, sqliteJsonValue high] true).Agrees document
      (comparePredicateValues canonicalize v .between (.value (.arr [low, high]))) := by
  have hge := orderDenotes hrow .ge (· != .lt) low (fun _ _ => rfl)
  have hle := orderDenotes hrow .le (· != .gt) high (fun _ _ => rfl)
  refine PredicateWhere.agrees_term (hge.denotes.and hle.denotes).paren ?_
  rw [Sqlite.kand_eq_true, hlow.orderTruth_eq_true, hhigh.orderTruth_eq_true]
  simp only [comparePredicateValues, arrayItems, ge_zero_eq, le_zero_eq, Bool.and_eq_true]
  constructor
  · rintro ⟨⟨hcl, hl⟩, hch, hh⟩
    exact ⟨⟨⟨⟨by rw [isAbsent_of_comparable hcl]; rfl, hcl⟩, hch⟩, hl⟩, hh⟩
  · rintro ⟨⟨⟨⟨-, hcl⟩, hch⟩, hl⟩, hh⟩
    exact ⟨⟨hcl, hl⟩, hch, hh⟩

/-- **The complement of a range**, among the present values. -/
theorem notBetweenWhere_agrees (hrow : rowValue document e = extractValue v) {low high : Json}
    (hlow : LiteralFor v low) (hhigh : LiteralFor v high) :
    (PredicateWhere.mk
      [[.column e, .isNotNull] ++ [.and] ++
        parenthesize ([.column e, .operator .lt, .param] ++ [.or] ++ [.column e, .operator .gt, .param])]
      [sqliteJsonValue low, sqliteJsonValue high] true).Agrees document
      (comparePredicateValues canonicalize v .notBetween (.value (.arr [low, high]))) := by
  have hlt := orderDenotes hrow .lt (· == .lt) low (fun _ _ => rfl)
  have hgt := orderDenotes hrow .gt (· == .gt) high (fun _ _ => rfl)
  have hboth : AllDenote (rowValue document)
      [⟨[.column e, .operator .lt, .param], [sqliteJsonValue low].map bindParam,
          orderTruth (· == .lt) (extractValue v) (extractValue (some low))⟩,
        ⟨[.column e, .operator .gt, .param], [sqliteJsonValue high].map bindParam,
          orderTruth (· == .gt) (extractValue v) (extractValue (some high))⟩] :=
    List.forall_mem_cons.2 ⟨hlt.denotes, List.forall_mem_singleton.2 hgt.denotes⟩
  refine PredicateWhere.agrees_present (Sqlite.termDenotes_any hboth) ?_
  simp only [Sqlite.kand_eq_true, Sqlite.kany_eq_true, List.map_cons, List.map_nil, List.mem_cons,
    List.not_mem_nil, or_false, exists_eq_or_imp, exists_eq_left, hlow.orderTruth_eq_true,
    hhigh.orderTruth_eq_true, Option.some_inj, hrow, bne, extractValue_isAbsent]
  simp only [comparePredicateValues, arrayItems, lt_zero_eq, gt_zero_eq, Bool.and_eq_true, Bool.or_eq_true]
  constructor
  · rintro ⟨hv, hor⟩
    have hpresent : isAbsent v = false := by simpa using hv
    obtain ⟨hcl, hch⟩ := And.intro (hlow.comparable_of_present hpresent) (hhigh.comparable_of_present hpresent)
    exact ⟨⟨⟨hv, hcl⟩, hch⟩, hor.imp And.right And.right⟩
  · rintro ⟨⟨⟨hv, hcl⟩, hch⟩, hor⟩
    exact ⟨hv, hor.imp (And.intro hcl) (And.intro hch)⟩

theorem ne_null_iff (v : Option Json) :
    (!isAbsent v) = true ↔ comparePredicateValues canonicalize v .ne (.value .null) = true := by
  rw [comparePredicateValues]
  cases h : isAbsent v with
  | true => simp
  | false =>
    obtain ⟨a, rfl, ha⟩ := exists_present h
    have hvalues : jsonValuesEqual (some a) (.value .null) = false := valuesEqual_null ha
    rw [hvalues]
    exact Iff.rfl

theorem literalFor_items (hv : FilteredValue type v) {items : List Json}
    (hitems : ∀ item ∈ items, LiteralFits type item) (hwell : LiteralWellFormed (.arr items)) :
    ∀ item ∈ items, item ≠ .null → LiteralFor v item := by
  intro item hmem hnull
  refine literalFor_of_fits hv (hitems item hmem) hnull ?_
  have hscalar := isScalar_of_fits (hitems item hmem) hnull
  cases item with
  | str s => exact hwell s hmem
  | bool _ | num _ | null => trivial
  | arr _ | obj _ => exact nomatch hscalar

theorem map_bind_items (items : List Json) :
    ((items.filter (fun item => item ≠ .null)).map sqliteJsonValue).map bindParam = boundItems items := by
  rw [boundItems, List.map_map]
  exact List.map_congr_left (fun item _ => bindParam_sqliteJsonValue item)

/-- **Membership.** -/
theorem isInWhere_agrees (hrow : rowValue document e = extractValue v) {items : List Json}
    (hitems : ∀ item ∈ items, item ≠ .null → LiteralFor v item) :
    (PredicateWhere.mk
      (if (items.filter (fun item => item ≠ .null)).isEmpty then neverMatchesWhere.conditions
        else [[.column e, .inParams (items.filter (fun item => item ≠ .null)).length]])
      ((items.filter (fun item => item ≠ .null)).map sqliteJsonValue) true).Agrees document
      (comparePredicateValues canonicalize v .isIn (.value (.arr items))) := by
  have htruth := inTruth_eq_true hitems
  split_ifs with hempty
  · have hfalse : comparePredicateValues canonicalize v .isIn (.value (.arr items)) = false := by
      rw [boundItems, List.isEmpty_iff.1 hempty] at htruth
      rw [← Bool.not_eq_true]
      exact htruth.not.1 (by simp [Sqlite.inTruth, kany])
    rw [hfalse, List.isEmpty_iff.1 hempty]
    exact neverMatchesWhere_agrees
  · refine PredicateWhere.agrees_term ?_ htruth
    rw [map_bind_items, ← hrow, show (items.filter (fun item => item ≠ .null)).length =
      (boundItems items).length by simp [boundItems]]
    exact Sqlite.termDenotes_in e (boundItems items)

theorem notInWhere_agrees (hrow : rowValue document e = extractValue v) {items : List Json}
    (hitems : ∀ item ∈ items, item ≠ .null → LiteralFor v item) :
    (PredicateWhere.mk
      (if (items.filter (fun item => item ≠ .null)).isEmpty then [[.column e, .isNotNull]]
        else [[.column e, .isNotNull] ++ [.and] ++
          [.column e, .notInParams (items.filter (fun item => item ≠ .null)).length]])
      ((items.filter (fun item => item ≠ .null)).map sqliteJsonValue) true).Agrees document
      (comparePredicateValues canonicalize v .notIn (.value (.arr items))) := by
  have htruth := notInTruth_eq_true hitems
  split_ifs with hempty
  · rw [boundItems, List.isEmpty_iff.1 hempty] at htruth
    rw [List.isEmpty_iff.1 hempty]
    refine PredicateWhere.agrees_term (Sqlite.termDenotes_isNotNull e) ?_
    refine Iff.trans ?_ htruth
    rw [hrow]
    simp [Sqlite.inTruth, kany, Sqlite.knot]
  · rw [← hrow] at htruth
    refine PredicateWhere.agrees_present ?_ htruth
    rw [map_bind_items, show (items.filter (fun item => item ≠ .null)).length =
      (boundItems items).length by simp [boundItems]]
    exact Sqlite.termDenotes_notIn e (boundItems items)

/-- **Presence.** -/
theorem isWhere_agrees (hrow : rowValue document e = extractValue v) {present : Bool}
    (h : presencePredicateValue l .is = .ok present) :
    (PredicateWhere.mk [[.column e, if present then .isNotNull else .isNull]] [] true).Agrees document
      (comparePredicateValues canonicalize v .is (.value l)) := by
  unfold presencePredicateValue at h
  split_ifs at h with hset hnot
  · rw [← Except.ok.inj h, hset]
    refine PredicateWhere.agrees_term (Sqlite.termDenotes_isNotNull e) ?_
    rw [hrow, Option.some_inj, bne, extractValue_isAbsent, comparePredicateValues, if_pos rfl]
  · rw [← Except.ok.inj h, hnot]
    refine PredicateWhere.agrees_term (Sqlite.termDenotes_isNull e) ?_
    rw [hrow, Option.some_inj, extractValue_isAbsent, comparePredicateValues,
      if_neg (by decide +kernel), decide_eq_true rfl, Bool.true_and]

theorem like_eq_matchesLike (v : Option Json) (s : JsString) :
    comparePredicateValues canonicalize v .like (.value (.str s)) = matchesLike canonicalize v s := rfl

theorem notLike_eq_matchesLike (v : Option Json) (s : JsString) :
    comparePredicateValues canonicalize v .notLike (.value (.str s)) =
      (!isAbsent v && !matchesLike canonicalize v s) := by
  rw [comparePredicateValues, matchesLike]
  cases isAbsent v <;> rfl

/-- `contains` is `like` with the needle taken literally, on texts. -/
theorem contains_eq_matchesLike (hv : IsTextValue v) (s : JsString) :
    comparePredicateValues canonicalize v .contains (.value (.str s)) =
      matchesLike canonicalize v (containsLikePattern s) := by
  rcases hv with habsent | ⟨t, rfl, _⟩
  · rw [matchesLike_of_absent habsent, comparePredicateValues, habsent]
    rfl
  · rfl

/-- **A text operator**, on a value that is absent or a text. -/
theorem textPredicateWhere_agrees (hfold : FoldsAsTable canonicalize) (hrow : rowValue document e = extractValue v)
    (hv : IsTextValue v) {s : JsString} (hwell : WellFormed s) {field : JsString} {operator : PredicateOperator}
    (hoperator : operator = .contains ∨ operator = .like ∨ operator = .notLike) {compiled : PredicateWhere}
    (h : textPredicateWhere field e operator (.str s) = .ok compiled) :
    compiled.Agrees document (comparePredicateValues canonicalize v operator (.value (.str s))) := by
  rcases hoperator with rfl | rfl | rfl
  · have hagrees := globPredicateWhere_agrees hfold hrow hv (wellFormed_containsLikePattern hwell) h
    rw [if_neg (by decide)] at hagrees
    rw [contains_eq_matchesLike hv]
    exact hagrees
  · have hagrees := globPredicateWhere_agrees hfold hrow hv hwell h
    rw [if_neg (by decide)] at hagrees
    rw [like_eq_matchesLike]
    exact hagrees
  · have hagrees := globPredicateWhere_agrees hfold hrow hv hwell h
    rw [if_pos rfl] at hagrees
    rw [notLike_eq_matchesLike]
    exact hagrees

/-- The bounds of a range are literals for the value. -/
theorem rangePredicateValues_literals (hv : FilteredValue type v) {items : List Json}
    (hitems : ∀ item ∈ items, LiteralFits type item) (hwell : LiteralWellFormed (.arr items))
    {operator : PredicateOperator} {low high : Json}
    (h : rangePredicateValues (.arr items) operator = .ok (low, high)) :
    items = [low, high] ∧ LiteralFor v low ∧ LiteralFor v high := by
  obtain ⟨rfl, hlow, hhigh⟩ := rangePredicateValues_eq h
  have hliterals := literalFor_items hv hitems hwell
  exact ⟨rfl, hliterals low (by simp) hlow, hliterals high (by simp) hhigh⟩

/-- **An equality**, with null told apart by the type of the value. -/
theorem eqWhere_agrees {doctype : DocTypeDefinition} {options : NormalizePredicateOptions} (hnames : doctype.NamesValid)
    {field : JsString} {definition : FieldDefinition}
    (hfield : requirePredicateField doctype options field = .ok definition)
    (hv : FilteredValue definition.type (storedValue document field)) (hfits : LiteralFits definition.type l)
    (hwell : LiteralWellFormed l) :
    (if l = .null then
        PredicateWhere.mk [nullEqualityExpression field (listFilterExpression field)] [] true
      else PredicateWhere.mk [[.column (listFilterExpression field), .operator .eq, .param]]
        [sqliteJsonValue l] true).Agrees document
      (comparePredicateValues canonicalize (storedValue document field) .eq (.value l)) := by
  have hrow := rowValue_listFilterExpression hnames document hfield
  split_ifs with hnull
  · obtain ⟨t, hdenotes, ht⟩ := nullEquality_denotes hnames document hfield
    rw [hnull]
    exact PredicateWhere.agrees_term hdenotes ht
  · have hliteral := literalFor_of_fits hv hfits hnull hwell
    exact PredicateWhere.agrees_term (orderDenotes hrow .eq (· == .eq) l (fun _ _ => rfl)) hliteral.eqTruth_eq_true

/-- **An inequality** asks for a present value. -/
theorem neWhere_agrees (hrow : rowValue document e = extractValue v) (hv : FilteredValue type v)
    (hfits : LiteralFits type l) (hwell : LiteralWellFormed l) :
    (if l = .null then PredicateWhere.mk [[.column e, .isNotNull]] [] true
      else PredicateWhere.mk [[.column e, .isNotNull] ++ [.and] ++ [.column e, .operator .ne, .param]]
        [sqliteJsonValue l] true).Agrees document
      (comparePredicateValues canonicalize v .ne (.value l)) := by
  split_ifs with hnull
  · rw [hnull]
    refine PredicateWhere.agrees_term (Sqlite.termDenotes_isNotNull _) ?_
    rw [hrow, Option.some_inj, bne, extractValue_isAbsent]
    exact ne_null_iff _
  · refine PredicateWhere.agrees_present (orderDenotes hrow .ne (· != .eq) l (fun _ _ => rfl)) ?_
    rw [hrow]
    exact (literalFor_of_fits hv hfits hnull hwell).neTruth_eq_true

/-- **A single comparison** is true in SQL exactly when it is in memory. -/
theorem predicateComparisonWhere_agrees (hfold : FoldsAsTable canonicalize)
    {doctype : DocTypeDefinition} {options : NormalizePredicateOptions} (hnames : doctype.NamesValid)
    {field : JsString} {definition : FieldDefinition}
    (hfield : requirePredicateField doctype options field = .ok definition)
    (hv : FilteredValue definition.type (storedValue document field))
    {operator : PredicateOperator} (hfits : OperandFits definition.type l operator)
    (hwell : LiteralWellFormed l) {compiled : PredicateWhere}
    (h : predicateComparisonWhere (.field .after field) operator (.literal l) = .ok compiled) :
    compiled.Agrees document (comparePredicateValues canonicalize (storedValue document field) operator (.value l)) := by
  have hrow := rowValue_listFilterExpression hnames document hfield
  rw [predicateComparisonWhere] at h
  obtain ⟨_, hfield', h⟩ := except_bind_eq_ok h
  obtain ⟨_, hvalue, h⟩ := except_bind_eq_ok h
  rw [← Except.ok.inj hfield', ← Except.ok.inj hvalue] at h
  clear hfield' hvalue
  -- each operator compiles to a clause of its own, and each clause has its lemma
  cases operator with
  | eq =>
    obtain ⟨scalar, hscalar, hret⟩ := except_bind_eq_ok h
    obtain rfl := scalarPredicateValue_eq hscalar
    have hagrees := @eqWhere_agrees canonicalize document _ doctype options hnames field definition hfield hv hfits hwell
    split_ifs at hret hagrees <;> rwa [← Except.ok.inj hret]
  | ne =>
    obtain ⟨scalar, hscalar, hret⟩ := except_bind_eq_ok h
    obtain rfl := scalarPredicateValue_eq hscalar
    have hagrees := @neWhere_agrees canonicalize document _ _ _ _ hrow hv hfits hwell
    split_ifs at hret hagrees <;> rwa [← Except.ok.inj hret]
  | isIn =>
    obtain ⟨items, rfl, hitems⟩ := hfits
    obtain ⟨values, hvalues, hret⟩ := except_bind_eq_ok h
    obtain rfl := nonNullMembershipPredicateValues_eq hvalues
    rw [← Except.ok.inj hret]
    exact isInWhere_agrees hrow (literalFor_items hv hitems hwell)
  | notIn =>
    obtain ⟨items, rfl, hitems⟩ := hfits
    obtain ⟨values, hvalues, hret⟩ := except_bind_eq_ok h
    obtain rfl := nonNullMembershipPredicateValues_eq hvalues
    rw [← Except.ok.inj hret]
    exact notInWhere_agrees hrow (literalFor_items hv hitems hwell)
  | is =>
    obtain ⟨present, hpresent, hret⟩ := except_bind_eq_ok h
    rw [← Except.ok.inj hret]
    exact isWhere_agrees hrow hpresent
  | contains | like | notLike =>
    obtain ⟨htype, s, rfl⟩ := hfits
    exact textPredicateWhere_agrees hfold hrow (isTextValue_of_filtered htype hv) hwell (by simp) h
  | gt =>
    rw [comparePredicateValues, gt_zero_eq]
    exact orderedWhere_agrees hrow (fun _ _ => rfl) (literalFor_of_fits hv hfits.1 hfits.2 hwell) h
  | gte =>
    rw [comparePredicateValues, ge_zero_eq]
    exact orderedWhere_agrees hrow (fun _ _ => rfl) (literalFor_of_fits hv hfits.1 hfits.2 hwell) h
  | lt =>
    rw [comparePredicateValues, lt_zero_eq]
    exact orderedWhere_agrees hrow (fun _ _ => rfl) (literalFor_of_fits hv hfits.1 hfits.2 hwell) h
  | lte =>
    rw [comparePredicateValues, le_zero_eq]
    exact orderedWhere_agrees hrow (fun _ _ => rfl) (literalFor_of_fits hv hfits.1 hfits.2 hwell) h
  | between =>
    obtain ⟨items, rfl, hitems⟩ := hfits
    obtain ⟨⟨low, high⟩, hrange, hret⟩ := except_bind_eq_ok h
    obtain ⟨rfl, hlow, hhigh⟩ := rangePredicateValues_literals hv hitems hwell hrange
    rw [← Except.ok.inj hret]
    exact betweenWhere_agrees hrow hlow hhigh
  | notBetween =>
    obtain ⟨items, rfl, hitems⟩ := hfits
    obtain ⟨⟨low, high⟩, hrange, hret⟩ := except_bind_eq_ok h
    obtain ⟨rfl, hlow, hhigh⟩ := rangePredicateValues_literals hv hitems hwell hrange
    rw [← Except.ok.inj hret]
    exact notBetweenWhere_agrees hrow hlow hhigh

end

/-! ## The clause of a query -/

theorem predicateField_eq {operand : PredicateOperand} {field : JsString}
    (h : predicateField operand = .ok field) : operand = .field .after field := by
  unfold predicateField at h
  split at h
  · rw [Except.ok.inj h]
  · exact nomatch h

theorem predicateLiteral_eq {operand : PredicateOperand} {value : Json}
    (h : predicateLiteral operand = .ok value) : operand = .literal value := by
  unfold predicateLiteral at h
  split at h
  · rw [Except.ok.inj h]
  · exact nomatch h

/-- The fields an expression filters are, in the document, absent, null or plain values of
their declared types. -/
def FilteredFieldsTyped (doctype : DocTypeDefinition) (options : NormalizePredicateOptions)
    (expression : PredicateExpression) (document : DocumentSnapshot) : Prop :=
  ∀ c ∈ expression.comparisons, ∀ field definition, c.left = .field .after field →
    requirePredicateField doctype options field = .ok definition →
    FilteredValue definition.type (storedValue document field)

/-- Where the document lacks a filtered field, objects inherit nothing under its name. -/
def FilteredFieldsOwn (expression : PredicateExpression) (document : DocumentSnapshot) : Prop :=
  ∀ c ∈ expression.comparisons, ∀ field, c.left = .field .after field → OwnField document field

/-- The literals of an expression hold no unpaired surrogate. -/
def LiteralsWellFormed (expression : PredicateExpression) : Prop :=
  ∀ c ∈ expression.comparisons, ∀ value, c.right = .literal value → LiteralWellFormed value

theorem comparisonsAgree {canonicalize : UInt16 → UInt16} (hfold : FoldsAsTable canonicalize)
    {doctype : DocTypeDefinition} {options : NormalizePredicateOptions} (hnames : doctype.NamesValid)
    {expression : PredicateExpression} {document : DocumentSnapshot}
    (hchecked : ∀ c ∈ expression.comparisons, c.Checked doctype options)
    (hliterals : LiteralsWellFormed expression)
    (htyped : FilteredFieldsTyped doctype options expression document)
    (hown : FilteredFieldsOwn expression document)
    {context : PredicateEvaluationContext} (hafter : context.after = some document) :
    ComparisonsAgree canonicalize document context expression.comparisons := by
  rintro ⟨left, operator, right⟩ hc compiled h
  -- a comparison that compiles has a field on the left and a literal on the right
  have hshape := h
  rw [predicateComparisonWhere] at hshape
  obtain ⟨field, hfield, hshape⟩ := except_bind_eq_ok hshape
  obtain ⟨value, hvalue, _⟩ := except_bind_eq_ok hshape
  obtain rfl := predicateField_eq hfield
  obtain rfl := predicateLiteral_eq hvalue
  obtain ⟨definition, hdefinition, hfits⟩ := operandFits_of_checked (hchecked _ hc)
  have hagrees := predicateComparisonWhere_agrees hfold hnames hdefinition
    (htyped _ hc field definition rfl hdefinition) hfits (hliterals _ hc value rfl) h
  -- in memory the predicate reads what is stored, for nothing is inherited
  simpa only [predicateOperandValue, hafter, predicateDocumentValue_of_own (hown _ hc field rfl)] using hagrees

theorem orderTruth_self (s : JsString) :
    orderTruth (· == .eq) (Sqlite.ofString s) (Sqlite.ofString s) = some true := by
  have hpresent : Sqlite.ofString s ≠ .null := by simp [Sqlite.ofString]
  rw [orderTruth_present _ hpresent hpresent, Option.some_inj, beq_iff_eq]
  exact Std.ReflOrd.compare_self

theorem joinAnd_cons {condition : SqlCondition} {conditions : List SqlCondition}
    (h : conditions ≠ []) :
    joinAnd (condition :: conditions) = condition ++ [.and] ++ joinAnd conditions := by
  cases conditions with
  | nil => exact absurd rfl h
  | cons c cs => simp [joinAnd, List.intercalate]

theorem PredicateWhere.Agrees.conditions_ne_nil {document : DocumentSnapshot}
    {compiled : PredicateWhere} {holds : Bool} (h : compiled.Agrees document holds) :
    compiled.conditions ≠ [] := by
  intro hnil
  obtain ⟨t, hdenotes, _⟩ := h
  rw [hnil] at hdenotes
  exact Sqlite.not_denotes_nil hdenotes

/-- A DocType with a text and a number. -/
def taskDocType : DocTypeDefinition :=
  { name := js "Task",
    fields := [{ name := js "title", type := .text }, { name := js "count", type := .integer }] }

def taskNamed (title : JsString) : DocumentSnapshot :=
  { tenantId := js "t", doctype := js "Task", name := js "T-1", version := 1, docstatus := .draft,
    data := [(js "title", .str title)], createdAt := js "2026", updatedAt := js "2026" }

theorem taskDocType_namesValid : taskDocType.NamesValid := by
  unfold DocTypeDefinition.NamesValid
  decide

/-- `not (title like "d%") or count > 3`. -/
def taskFilter : PredicateExpression :=
  .group .any
    [.not (.compare (.field .after (js "title")) .like (.literal (.str (js "d%")))),
      .compare (.field .after (js "count")) .gt (.literal (.num 3))]

theorem taskFilter_comparisons : taskFilter.comparisons =
    [⟨.field .after (js "title"), .like, .literal (.str (js "d%"))⟩,
      ⟨.field .after (js "count"), .gt, .literal (.num 3)⟩] := by
  simp [taskFilter, PredicateExpression.comparisons, PredicateExpression.comparisonsOfAll]

theorem taskFilter_literals : LiteralsWellFormed taskFilter := by
  intro c hc value hvalue
  rw [taskFilter_comparisons, List.mem_cons, List.mem_singleton] at hc
  rcases hc with rfl | rfl
  · obtain rfl := PredicateOperand.literal.inj hvalue
    show WellFormed (js "d%")
    decide
  · obtain rfl := PredicateOperand.literal.inj hvalue
    trivial

theorem taskFilter_typed : FilteredFieldsTyped taskDocType {} taskFilter (taskNamed (js "call")) := by
  intro c hc field definition hleft hfield
  rw [taskFilter_comparisons, List.mem_cons, List.mem_singleton] at hc
  rcases hc with rfl | rfl
  · obtain ⟨-, rfl⟩ := PredicateOperand.field.inj hleft
    obtain rfl : { name := js "title", type := .text } = definition := Except.ok.inj hfield
    exact ⟨by decide, by decide⟩
  · obtain ⟨-, rfl⟩ := PredicateOperand.field.inj hleft
    obtain rfl : { name := js "count", type := .integer } = definition := Except.ok.inj hfield
    trivial

theorem taskFilter_own : FilteredFieldsOwn taskFilter (taskNamed (js "call")) := by
  intro c hc field hleft
  rw [taskFilter_comparisons, List.mem_cons, List.mem_singleton] at hc
  rcases hc with rfl | rfl
  · obtain ⟨-, rfl⟩ := PredicateOperand.field.inj hleft
    exact fun _ => rfl
  · obtain ⟨-, rfl⟩ := PredicateOperand.field.inj hleft
    exact fun _ => rfl

/-- `title eq "\ud800"`: a literal with an unpaired surrogate. -/
def unpairedFilter : PredicateExpression := .compare (.field .after (js "title")) .eq (.literal (.str [0xD800]))

/-- A DocType whose field is called like the function that every object inherits. -/
def builderDocType : DocTypeDefinition :=
  { name := js "Task", fields := [{ name := js "constructor", type := .text }] }

/-- `constructor is set`. -/
def builderFilter : PredicateExpression :=
  .compare (.field .after (js "constructor")) .is (.literal (.str (js "set")))

/-- **A field that objects inherit something for** is set on every document in memory, also on one that lacks it, and
the clause then does not select the document. -/
theorem pushdown_disagrees_on_inherited_name :
    ∃ compiled, d1ProjectionListQuery { tenantId := js "t", doctype := js "Task", predicate := some builderFilter } =
        .ok compiled ∧
      normalizePredicateExpression builderDocType {} builderFilter = .ok builderFilter ∧
      storedValue (taskNamed (js "call")) (js "constructor") = none ∧
      compiled.whereValue (taskNamed (js "call")) ≠ some (.num 1) ∧
      evaluatePredicateExpression tableCanonicalize { after := some (taskNamed (js "call")) } builderFilter = true := by
  refine ⟨_, rfl, rfl, by decide, by decide +kernel, by decide +kernel⟩
