import CfFrappe.Core.Predicates

set_option autoImplicit false

/-! # What a checked predicate satisfies

Normalization returns the expression it was given, and every comparison in it has passed the
checks (`normalizePredicateExpression_eq`). For a comparison of a field with a literal these
say that the field is declared and that the literal fits its type and the operator
(`operandFits_of_checked`).
-/

open Utf

/-! ## Expressions and their comparisons -/

/-- A comparison of an expression. -/
structure Comparison where
  left : PredicateOperand
  operator : PredicateOperator
  right : PredicateOperand

namespace PredicateExpression

mutual

/-- The comparisons of an expression. -/
def comparisons : PredicateExpression → List Comparison
  | compare left operator right => [⟨left, operator, right⟩]
  | group _ predicates => comparisonsOfAll predicates
  | not predicate => predicate.comparisons

def comparisonsOfAll : List PredicateExpression → List Comparison
  | [] => []
  | predicate :: rest => predicate.comparisons ++ comparisonsOfAll rest

end

end PredicateExpression

/-! ## Normalization returns the expression it checked -/

variable {operator : PredicateOperator} {l : Json} {expression : PredicateExpression} {type : FieldType}
variable {field : JsString}

section

variable {doctype : DocTypeDefinition} {options : NormalizePredicateOptions}

theorem mapM_normalizeSegment {path path' : List JsString}
    (h : path.mapM (normalizeSegment options) = .ok path') : path' = path := by
  induction path generalizing path' with
  | nil =>
    rw [List.mapM_nil] at h
    exact (Except.ok.inj h).symm
  | cons segment path ih =>
    rw [List.mapM_cons] at h
    obtain ⟨segment', hsegment, h⟩ := except_bind_eq_ok h
    obtain ⟨path'', hpath, h⟩ := except_bind_eq_ok h
    have hs : segment' = segment := by
      unfold normalizeSegment at hsegment
      split_ifs at hsegment
      exact (Except.ok.inj hsegment).symm
    rw [← Except.ok.inj h, hs, ih hpath]

theorem normalizeOperand_eq {operand operand' : PredicateOperand}
    (h : normalizeOperand doctype options operand = .ok operand') : operand' = operand := by
  cases operand with
  | literal value => exact (Except.ok.inj h).symm
  | field scope field =>
    rw [normalizeOperand] at h
    obtain ⟨_, _, h⟩ := except_bind_eq_ok h
    split_ifs at h
    · exact nomatch h
    · obtain ⟨_, _, h⟩ := except_bind_eq_ok h
      exact (Except.ok.inj h).symm
  | path scope path =>
    rw [normalizeOperand] at h
    obtain ⟨_, _, h⟩ := except_bind_eq_ok h
    split_ifs at h
    · exact nomatch h
    · obtain ⟨path', hpath, h⟩ := except_bind_eq_ok h
      rw [← Except.ok.inj h, mapM_normalizeSegment hpath]

theorem normalizeComparison_eq {left right : PredicateOperand}
    (h : normalizeComparison doctype options left operator right = .ok expression) :
    expression = .compare left operator right := by
  rw [normalizeComparison] at h
  obtain ⟨left', hleft, h⟩ := except_bind_eq_ok h
  obtain ⟨right', hright, h⟩ := except_bind_eq_ok h
  obtain ⟨_, _, h⟩ := except_bind_eq_ok h
  obtain ⟨_, _, h⟩ := except_bind_eq_ok h
  obtain ⟨_, _, h⟩ := except_bind_eq_ok h
  rw [← Except.ok.inj h, normalizeOperand_eq hleft, normalizeOperand_eq hright]

/-- The comparison passes the checks of normalization. -/
def Comparison.Checked (doctype : DocTypeDefinition) (options : NormalizePredicateOptions)
    (c : Comparison) : Prop :=
  normalizeComparison doctype options c.left c.operator c.right = .ok (.compare c.left c.operator c.right)

mutual

theorem normalizePredicateNode_eq {depth budget budget' : Nat} {expression expression' : PredicateExpression}
    (h : normalizePredicateNode doctype options depth budget expression = .ok (expression', budget')) :
    expression' = expression ∧ ∀ c ∈ expression.comparisons, c.Checked doctype options := by
  cases expression with
  | group «match» predicates =>
    rw [normalizePredicateNode] at h
    obtain ⟨_, _, h⟩ := except_bind_eq_ok h
    obtain ⟨_, _, h⟩ := except_bind_eq_ok h
    split_ifs at h
    · exact nomatch h
    · obtain ⟨⟨predicates', _⟩, hnodes, hret⟩ := except_bind_eq_ok h
      obtain ⟨rfl, hchecked⟩ := normalizePredicateNodes_eq hnodes
      exact ⟨(congrArg Prod.fst (Except.ok.inj hret)).symm, hchecked⟩
  | not predicate =>
    rw [normalizePredicateNode] at h
    obtain ⟨_, _, h⟩ := except_bind_eq_ok h
    obtain ⟨_, _, h⟩ := except_bind_eq_ok h
    obtain ⟨⟨predicate', _⟩, hnode, hret⟩ := except_bind_eq_ok h
    obtain ⟨rfl, hchecked⟩ := normalizePredicateNode_eq hnode
    exact ⟨(congrArg Prod.fst (Except.ok.inj hret)).symm, hchecked⟩
  | compare left operator right =>
    rw [normalizePredicateNode] at h
    obtain ⟨_, _, h⟩ := except_bind_eq_ok h
    obtain ⟨_, _, h⟩ := except_bind_eq_ok h
    obtain ⟨comparison, hcomparison, h⟩ := except_bind_eq_ok h
    have heq := normalizeComparison_eq hcomparison
    refine ⟨by rw [← heq]; exact (congrArg Prod.fst (Except.ok.inj h)).symm, ?_⟩
    intro c hc
    rw [PredicateExpression.comparisons, List.mem_singleton] at hc
    rw [hc, Comparison.Checked, hcomparison, heq]

theorem normalizePredicateNodes_eq {depth budget budget' : Nat}
    {predicates predicates' : List PredicateExpression}
    (h : normalizePredicateNodes doctype options depth budget predicates = .ok (predicates', budget')) :
    predicates' = predicates ∧
      ∀ c ∈ PredicateExpression.comparisonsOfAll predicates, c.Checked doctype options := by
  cases predicates with
  | nil =>
    rw [normalizePredicateNodes] at h
    refine ⟨(congrArg Prod.fst (Except.ok.inj h)).symm, ?_⟩
    simp [PredicateExpression.comparisonsOfAll]
  | cons predicate rest =>
    rw [normalizePredicateNodes] at h
    obtain ⟨⟨predicate', _⟩, hnode, hnext⟩ := except_bind_eq_ok h
    obtain ⟨⟨rest', _⟩, hrest, hret⟩ := except_bind_eq_ok hnext
    obtain ⟨rfl, hchecked⟩ := normalizePredicateNode_eq hnode
    obtain ⟨rfl, hcheckedRest⟩ := normalizePredicateNodes_eq hrest
    refine ⟨(congrArg Prod.fst (Except.ok.inj hret)).symm, ?_⟩
    intro c hc
    rw [PredicateExpression.comparisonsOfAll, List.mem_append] at hc
    exact hc.elim (hchecked c) (hcheckedRest c)

end

theorem normalizePredicateExpression_eq {expression' : PredicateExpression}
    (h : normalizePredicateExpression doctype options expression = .ok expression') :
    expression' = expression ∧ ∀ c ∈ expression.comparisons, c.Checked doctype options := by
  rw [normalizePredicateExpression] at h
  obtain ⟨⟨expression'', _⟩, hnode, hret⟩ := except_bind_eq_ok h
  obtain ⟨rfl, hchecked⟩ := normalizePredicateNode_eq hnode
  exact ⟨(Except.ok.inj hret).symm, hchecked⟩

end

/-! ## What normalization checks of a literal -/

/-- The literal may be compared with values of the type. -/
def LiteralFits (type : FieldType) (l : Json) : Prop :=
  l = .null ∨ isDateText (fieldValueType type) l = true ∨ literalValueType l = fieldValueType type

/-- The literal fits the operator and the type of the field. -/
def OperandFits (type : FieldType) (l : Json) : PredicateOperator → Prop
  | .is => True
  | .isIn | .notIn | .between | .notBetween =>
    ∃ items, l = .arr items ∧ ∀ item ∈ items, LiteralFits type item
  | .contains | .like | .notLike => type ∈ [.text, .longText, .link] ∧ ∃ s, l = .str s
  | .gt | .gte | .lt | .lte => LiteralFits type l ∧ l ≠ .null
  | .eq | .ne => LiteralFits type l

section

variable {doctype : DocTypeDefinition} {options : NormalizePredicateOptions}

theorem literalValueType_ne_unknown (l : Json) : literalValueType l ≠ .unknown := by
  cases l <;> exact nofun

theorem literalValueType_null (h : literalValueType l = .null) : l = .null := by
  cases l <;> first | rfl | exact nomatch h

theorem literalFits_of_compatible (htype : fieldValueType type ≠ .unknown)
    (h : assertCompatibleTypes options (fieldValueType type) (literalValueType l) operator = .ok ()) :
    LiteralFits type l := by
  unfold assertCompatibleTypes at h
  split_ifs at h with hcompatible
  rcases hcompatible with hunknown | hunknown | hnull | heq
  · exact absurd hunknown htype
  · exact absurd hunknown (literalValueType_ne_unknown l)
  · exact Or.inl (literalValueType_null hnull)
  · exact Or.inr (Or.inr heq.symm)

theorem literalFits_of_items (htype : fieldValueType type ≠ .unknown) {items : List Json}
    (h : assertItemsCompatible options (fieldValueType type) operator items = .ok ()) :
    ∀ item ∈ items, LiteralFits type item := by
  induction items with
  | nil => exact fun _ hitem => nomatch hitem
  | cons value rest ih =>
    rw [assertItemsCompatible] at h
    intro item hitem
    split_ifs at h with hdate
    · obtain ⟨_, hvalue, hrest⟩ := except_bind_eq_ok h
      rcases List.mem_cons.1 hitem with rfl | hitem
      · exact literalFits_of_compatible htype hvalue
      · exact ih hrest item hitem
    · rcases List.mem_cons.1 hitem with rfl | hitem
      · exact Or.inr (Or.inl (by simpa using hdate))
      · exact ih h item hitem

theorem fieldValueType_of_requirePredicateField {definition : FieldDefinition}
    (h : requirePredicateField doctype options field = .ok definition) :
    fieldValueType definition.type ≠ .unknown := by
  unfold requirePredicateField at h
  split at h
  · exact nomatch h
  · split_ifs at h with htype
    rw [← Except.ok.inj h]
    rename_i f _
    cases hf : f.type <;> simp_all [fieldValueType]

theorem text_of_supportedOperators (hop : operator = .contains ∨ operator = .like ∨ operator = .notLike)
    (h : operator ∈ supportedOperators type) : type ∈ [.text, .longText, .link] := by
  rcases hop with rfl | rfl | rfl <;> cases type <;> first | decide | exact absurd h (by decide)

theorem assertStringCompatible_literal {side : JsString}
    (h : assertStringCompatible options (literalValueType l) operator side = .ok ()) :
    ∃ s, l = .str s := by
  unfold assertStringCompatible at h
  split_ifs at h with htype
  cases l with
  | str s => exact ⟨s, rfl⟩
  | _ => exact absurd ⟨by exact nofun, by exact nofun⟩ htype

theorem assertOrderedType_literal {side : JsString}
    (h : assertOrderedType options (literalValueType l) operator side = .ok ()) : l ≠ .null := by
  rintro rfl
  exact absurd h (by simp [assertOrderedType, literalValueType])

theorem isDateText_ne_null {left : PredicateValueType} (h : isDateText left l = true) : l ≠ .null := by
  rintro rfl
  simp [isDateText, literalValueType] at h

/-- The compatibility check, by the kind of the operator. -/
theorem operandFits_of_compatible {definition : FieldDefinition}
    (hfield : requirePredicateField doctype options field = .ok definition)
    (hsupported : operator ∈ supportedOperators definition.type)
    (h : assertOperandCompatibility doctype options (.field .after field) operator (.literal l) = .ok ()) :
    OperandFits definition.type l operator := by
  have htype := fieldValueType_of_requirePredicateField hfield
  have hleft : predicateOperandType doctype options (.field .after field) =
      .ok (fieldValueType definition.type) := by
    rw [predicateOperandType, hfield]
    rfl
  rw [assertOperandCompatibility] at h
  obtain ⟨leftType, hleftType, h⟩ := except_bind_eq_ok h
  obtain ⟨rightType, hrightType, h⟩ := except_bind_eq_ok h
  obtain rfl : fieldValueType definition.type = leftType := Except.ok.inj (hleft.symm.trans hleftType)
  obtain rfl : literalValueType l = rightType := Except.ok.inj hrightType
  cases operator with
  | is => trivial
  | isIn | notIn | between | notBetween =>
    cases l with
    | arr items => exact ⟨items, rfl, literalFits_of_items htype h⟩
    | _ => exact nomatch h
  | contains | like | notLike =>
    obtain ⟨_, _, hright⟩ := except_bind_eq_ok h
    exact ⟨text_of_supportedOperators (by decide) hsupported, assertStringCompatible_literal hright⟩
  | gt | gte | lt | lte =>
    obtain ⟨_, _, hright⟩ := except_bind_eq_ok h
    by_cases hdate : isDateText (fieldValueType definition.type) l = true
    · exact ⟨Or.inr (Or.inl hdate), isDateText_ne_null hdate⟩
    · simp only [if_neg hdate] at hright
      obtain ⟨_, hordered, hcompatible⟩ := except_bind_eq_ok hright
      exact ⟨literalFits_of_compatible htype hcompatible, assertOrderedType_literal hordered⟩
  | eq | ne =>
    by_cases hdate : isDateText (fieldValueType definition.type) l = true
    · exact Or.inr (Or.inl hdate)
    · have hcompatible := (if_neg hdate).symm.trans h
      exact literalFits_of_compatible htype hcompatible

/-- **A checked comparison of a field with a literal**: the field is declared and the literal
fits. -/
theorem operandFits_of_checked (h : Comparison.Checked doctype options ⟨.field .after field, operator, .literal l⟩) :
    ∃ definition, requirePredicateField doctype options field = .ok definition ∧
      OperandFits definition.type l operator := by
  rw [Comparison.Checked, normalizeComparison] at h
  obtain ⟨left, hleft, h⟩ := except_bind_eq_ok h
  obtain ⟨right, hright, h⟩ := except_bind_eq_ok h
  rw [normalizeOperand_eq hleft, normalizeOperand_eq hright] at h
  obtain ⟨_, hallowed, h⟩ := except_bind_eq_ok h
  obtain ⟨_, _, h⟩ := except_bind_eq_ok h
  obtain ⟨_, hcompatible, _⟩ := except_bind_eq_ok h
  rw [assertOperatorAllowedForOperand] at hallowed
  obtain ⟨definition, hfield, hallowed⟩ := except_bind_eq_ok hallowed
  refine ⟨definition, hfield, operandFits_of_compatible hfield ?_ hcompatible⟩
  by_contra hnot
  rw [if_neg hnot] at hallowed
  exact nomatch hallowed

end
