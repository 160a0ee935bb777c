import CfFrappe.Core.SafeRegex

set_option autoImplicit false

/-! # Safe regular expressions without case

With the flag `i` characters are compared in lower case: literals and the members of a class one by one, the
ranges of a class by their end points. A pattern whose atoms all do what the flag is for (`Atom.Folds`)
matches more with the flag than without it, and does not tell texts apart that are the same in lower case.
-/

open Utf

namespace SafeRegex

variable {c : UInt16} {atom : Atom} {singles : List UInt16} {ranges : List (UInt16 × UInt16)} {value text : JsString}
variable {step : Step} {P : Step → UInt16 → Prop}

section

variable (toLocaleLowerCase : UInt16 → JsString)

/-- The character is a member of the class in lower case: of a single character, or between the end points
of a range. -/
def FoldedMember (singles : List UInt16) (ranges : List (UInt16 × UInt16)) (c : UInt16) : Prop :=
  (∃ single ∈ singles, toLocaleLowerCase single = toLocaleLowerCase c) ∨
    ∃ range ∈ ranges, toLocaleLowerCase range.1 ≤ toLocaleLowerCase c ∧ toLocaleLowerCase c ≤ toLocaleLowerCase range.2

/-- What the flag is for. A range keeps its characters in lower case; a shorthand has all the characters of
one lower case, or none. -/
def Atom.Folds : Atom → Prop
  | .literal _ | .any => True
  | .shorthand kind _ => ∀ c d, toLocaleLowerCase c = toLocaleLowerCase d → kind.accepts c = kind.accepts d
  | .charClass _ singles ranges =>
    ∀ range ∈ ranges, ∀ c, range.1 ≤ c → c ≤ range.2 → FoldedMember toLocaleLowerCase singles ranges c

/-- The class of the atom, if it is one, lists what it takes. -/
def Atom.Positive : Atom → Prop
  | .charClass negated _ _ => negated = false
  | _ => True

def Expression.Folds (expression : Expression) : Prop := ∀ step ∈ expression.steps, step.atom.Folds toLocaleLowerCase

def Expression.Positive (expression : Expression) : Prop := ∀ step ∈ expression.steps, step.atom.Positive

/-- A pattern matches more with the flag, and with it the same on texts that are the same in lower case. -/
structure IgnoresCase (pattern : JsString) (expression : Expression) : Prop where
  widens : ∃ folded, compileSafeRegex pattern true = .ok folded ∧
    ∀ value, matchesSafeRegex toLocaleLowerCase expression value = true →
      matchesSafeRegex toLocaleLowerCase folded value = true
  folds : ∃ folded, compileSafeRegex pattern true = .ok folded ∧
    ∀ value value', value.map toLocaleLowerCase = value'.map toLocaleLowerCase →
      matchesSafeRegex toLocaleLowerCase folded value = matchesSafeRegex toLocaleLowerCase folded value'

end

/-! ## Atoms -/

section

variable {toLocaleLowerCase : UInt16 → JsString}

/-- What a class takes with the flag. -/
theorem atomMatches_class :
    atomMatches toLocaleLowerCase true (.charClass false singles ranges) c = true ↔
      FoldedMember toLocaleLowerCase singles ranges c := by
  simp [atomMatches, comparable, FoldedMember]

theorem singleton_le_iff (c d : UInt16) : ([c] : JsString) ≤ [d] ↔ c ≤ d := by
  rw [List.cons_le_cons_iff]
  constructor
  · rintro (h | ⟨rfl, -⟩)
    · exact UInt16.le_of_lt h
    · exact UInt16.le_refl c
  · intro h
    by_cases heq : c = d
    · exact Or.inr ⟨heq, List.nil_le _⟩
    · exact Or.inl (UInt16.lt_of_le_of_ne h heq)

/-- What a class takes without it. -/
theorem atomMatches_class_plain :
    atomMatches toLocaleLowerCase false (.charClass false singles ranges) c = true ↔
      c ∈ singles ∨ ∃ range ∈ ranges, range.1 ≤ c ∧ c ≤ range.2 := by
  simp [atomMatches, comparable, singleton_le_iff]

theorem Atom.Folds.widens (hfolds : atom.Folds toLocaleLowerCase) (hpositive : atom.Positive)
    (h : atomMatches toLocaleLowerCase false atom c = true) : atomMatches toLocaleLowerCase true atom c = true := by
  cases atom with
  | literal value =>
    have hvalue : value = c := by simpa [atomMatches, comparable] using h
    simp [atomMatches, hvalue]
  | any => rfl
  | shorthand kind negated => exact h
  | charClass negated singles ranges =>
    have hnegated : negated = false := hpositive
    subst hnegated
    rw [atomMatches_class_plain] at h
    rw [atomMatches_class]
    rcases h with hsingle | ⟨range, hrange, hfrom, hto⟩
    · exact Or.inl ⟨c, hsingle, rfl⟩
    · exact hfolds range hrange c hfrom hto

theorem Atom.Folds.congr (hfolds : atom.Folds toLocaleLowerCase) {d : UInt16}
    (h : toLocaleLowerCase c = toLocaleLowerCase d) :
    atomMatches toLocaleLowerCase true atom c = atomMatches toLocaleLowerCase true atom d := by
  cases atom with
  | literal value => simp [atomMatches, comparable, h]
  | any => rfl
  | shorthand kind negated =>
    show (kind.accepts c != negated) = (kind.accepts d != negated)
    rw [hfolds c d h]
  | charClass negated singles ranges => simp [atomMatches, comparable, h]

end

/-! ## Patterns -/

section

variable {toLocaleLowerCase : UInt16 → JsString} {pattern : JsString} {expression : Expression}

/-- The flag changes nothing but itself. -/
theorem compileSafeRegex_ignoreCase (h : compileSafeRegex pattern false = .ok expression) :
    compileSafeRegex pattern true = .ok { expression with ignoreCase := true } ∧ expression.ignoreCase = false := by
  unfold compileSafeRegex at h ⊢
  obtain ⟨_, hpattern, h⟩ := except_bind_eq_ok h
  obtain ⟨compiled, hcompiled, h⟩ := except_bind_eq_ok h
  obtain ⟨_, hatoms, h⟩ := except_bind_eq_ok h
  cases h
  rw [hpattern, hcompiled]
  constructor
  · show (ensure _ _).bind _ = _
    rw [hatoms]
    rfl
  · rfl

/-- Steps that take more, or the same of related characters, match more. -/
theorem matchesSafeRegex_of_follows {ignoreCase ignoreCase' : Bool} {R : UInt16 → UInt16 → Prop} {value' : JsString}
    (h : ∀ step ∈ expression.steps, ∀ c d, R c d → atomMatches toLocaleLowerCase ignoreCase step.atom c = true →
      atomMatches toLocaleLowerCase ignoreCase' step.atom d = true) (hvalue : List.Forall₂ R value value')
    (hmatches : matchesSafeRegex toLocaleLowerCase { expression with ignoreCase } value = true) :
    matchesSafeRegex toLocaleLowerCase { expression with ignoreCase := ignoreCase' } value' = true := by
  refine StepMatching.matchesSteps_of_follows ?_ hvalue hmatches
  rw [List.forall₂_map_left_iff, List.forall₂_map_right_iff, List.forall₂_same]
  intro step hstep
  unfold Step.matcher
  cases hkind : step.kind with
  | required => exact .required (h step hstep)
  | optional => exact .optional (h step hstep)
  | star => exact .star (h step hstep)

/-- Texts that are the same in lower case, character by character. -/
theorem forall₂_of_map_eq {value' : JsString} (h : value.map toLocaleLowerCase = value'.map toLocaleLowerCase) :
    List.Forall₂ (fun c d => toLocaleLowerCase c = toLocaleLowerCase d) value value' := by
  rw [← List.forall₂_map_right_iff (R := fun c key => toLocaleLowerCase c = key),
    ← List.forall₂_map_left_iff (R := Eq), h, List.forall₂_same]
  exact fun _ _ => rfl

theorem Expression.Folds.ignoresCase (h : compileSafeRegex pattern false = .ok expression)
    (hpositive : expression.Positive) (hfolds : expression.Folds toLocaleLowerCase) :
    IgnoresCase toLocaleLowerCase pattern expression := by
  obtain ⟨hfolded, hplain⟩ := compileSafeRegex_ignoreCase h
  constructor
  · refine ⟨_, hfolded, ?_⟩
    intro value hmatches
    have hself : expression = { expression with ignoreCase := false } := by rw [← hplain]
    rw [hself] at hmatches
    refine matchesSafeRegex_of_follows ?_ (List.forall₂_same.mpr (fun c _ => (rfl : c = c))) hmatches
    rintro step hstep c d rfl
    exact (hfolds step hstep).widens (hpositive step hstep)
  · refine ⟨_, hfolded, ?_⟩
    intro value value' hvalues
    have hstep : ∀ step ∈ expression.steps, ∀ c d, toLocaleLowerCase c = toLocaleLowerCase d →
        atomMatches toLocaleLowerCase true step.atom c = true → atomMatches toLocaleLowerCase true step.atom d = true := by
      intro step hstep c d hcd hc
      rw [← (hfolds step hstep).congr hcd]
      exact hc
    rw [Bool.eq_iff_iff]
    constructor
    · exact matchesSafeRegex_of_follows hstep (forall₂_of_map_eq hvalues)
    · exact matchesSafeRegex_of_follows hstep (forall₂_of_map_eq hvalues.symm)

end

/-! ## Every atom takes something -/

/-- A class that is not empty has a member, and its ranges are in order. -/
theorem classMembers_inhabited {values : List (UInt16 × Bool)} (h : classMembers values = .ok (singles, ranges)) :
    (values ≠ [] → singles ≠ [] ∨ ranges ≠ []) ∧ ∀ range ∈ ranges, range.1 ≤ range.2 := by
  induction values using classMembers.induct generalizing singles ranges with
  | case1 =>
    cases h
    exact ⟨fun hne => absurd rfl hne, by simp⟩
  | case2 first =>
    cases h
    exact ⟨fun _ => Or.inl (by simp), by simp⟩
  | case3 first second =>
    cases h
    exact ⟨fun _ => Or.inl (by simp), by simp⟩
  | case4 first second third rest hrange ih =>
    unfold classMembers at h
    rw [if_pos hrange] at h
    obtain ⟨_, hordered, h⟩ := except_bind_eq_ok h
    obtain ⟨⟨singles', ranges'⟩, hrest, h⟩ := except_bind_eq_ok h
    cases h
    refine ⟨fun _ => Or.inr (by simp), ?_⟩
    intro range hmem
    rcases List.mem_cons.mp hmem with rfl | htail
    · simpa using ensure_eq_ok hordered
    · exact (ih hrest).2 range htail
  | case5 first second third rest hrange ih =>
    unfold classMembers at h
    rw [if_neg hrange] at h
    obtain ⟨⟨singles', ranges'⟩, hrest, h⟩ := except_bind_eq_ok h
    cases h
    exact ⟨fun _ => Or.inl (by simp), (ih hrest).2⟩

/-- The atom takes a character when case counts. -/
def Atom.Inhabited (atom : Atom) : Prop :=
  atom.Positive → ∀ toLocaleLowerCase, ∃ c, atomMatches toLocaleLowerCase false atom c = true

theorem parseCharacterClass_inhabited {rest : JsString} (h : parseCharacterClass text = .ok (atom, rest)) :
    atom.Inhabited := by
  obtain ⟨⟨values, closing⟩, -, h⟩ := except_bind_eq_ok h
  obtain ⟨_, hclosed, h⟩ := except_bind_eq_ok h
  obtain ⟨⟨singles, ranges⟩, hmembers, h⟩ := except_bind_eq_ok h
  cases h
  intro hpositive toLocaleLowerCase
  have hnegated : (text.head? == some 0x5E) = false := hpositive
  have hvalues : values ≠ [] := by
    have hne := ensure_eq_ok hclosed
    rw [Bool.and_eq_true] at hne
    simpa using hne.2
  obtain ⟨hsome, hordered⟩ := classMembers_inhabited hmembers
  rw [hnegated]
  rcases hsome hvalues with hsingles | hranges
  · obtain ⟨single, rest', rfl⟩ := List.exists_cons_of_ne_nil hsingles
    exact ⟨single, atomMatches_class_plain.mpr (Or.inl List.mem_cons_self)⟩
  · obtain ⟨range, rest', rfl⟩ := List.exists_cons_of_ne_nil hranges
    have hle := hordered range List.mem_cons_self
    exact ⟨range.1, atomMatches_class_plain.mpr (Or.inr ⟨range, List.mem_cons_self, UInt16.le_refl _, hle⟩)⟩

theorem shorthand_inhabited (kind : Shorthand) (negated : Bool) : (Atom.shorthand kind negated).Inhabited := by
  intro _ toLocaleLowerCase
  -- a digit is a word character and no space, a space is neither
  cases kind with
  | digit => cases negated <;> [exact ⟨0x30, rfl⟩; exact ⟨0x20, rfl⟩]
  | word => cases negated <;> [exact ⟨0x30, rfl⟩; exact ⟨0x20, rfl⟩]
  | space => cases negated <;> [exact ⟨0x20, rfl⟩; exact ⟨0x30, rfl⟩]

theorem literal_inhabited (value : UInt16) : (Atom.literal value).Inhabited :=
  fun _ _ => ⟨value, by simp [atomMatches, comparable]⟩

theorem parseAtom_inhabited {index : Nat} {rest : JsString} (h : parseAtom index text = .ok (atom, rest)) :
    atom.Inhabited := by
  cases text with
  | nil => cases h
  | cons character tail =>
    unfold parseAtom at h
    dsimp only at h
    split_ifs at h
    · cases h
      exact fun _ _ => ⟨0, rfl⟩
    · exact parseCharacterClass_inhabited h
    · cases tail with
      | nil => cases h
      | cons escaped tail =>
        cases h
        unfold shorthandAtom
        split_ifs <;> first | exact shorthand_inhabited _ _ | exact literal_inhabited _
    · cases h
      exact literal_inhabited character

theorem Reads.inhabited {pieces : List Piece} {anchoredEnd : Bool} (h : Reads text pieces anchoredEnd) :
    ∀ piece ∈ pieces, piece.atom.Inhabited := by
  induction h with
  | nil => simp
  | anchor => simp
  | piece _ hatom _ _ ih =>
    intro piece hpiece
    rcases List.mem_cons.mp hpiece with rfl | htail
    · exact parseAtom_inhabited hatom
    · exact ih piece htail

theorem mem_pieceSteps {piece : Piece} (h : step ∈ piece.steps) : step.atom = piece.atom := by
  unfold Piece.steps appendQuantifiedSteps at h
  dsimp only at h
  split at h <;> rw [List.nil_append, List.mem_append] at h
  · rcases h with h | h
    · rw [List.eq_of_mem_replicate h]
    · rw [List.mem_singleton.mp h]
  · rcases h with h | h <;> rw [List.eq_of_mem_replicate h]

/-- Every step of a compiled pattern takes something. -/
theorem compileSafeRegex_inhabited {pattern : JsString} {ignoreCase : Bool} {expression : Expression}
    (h : compileSafeRegex pattern ignoreCase = .ok expression) : ∀ step ∈ expression.steps, step.atom.Inhabited := by
  obtain ⟨_, -, h⟩ := except_bind_eq_ok h
  obtain ⟨compiled, hcompiled, h⟩ := except_bind_eq_ok h
  obtain ⟨_, -, h⟩ := except_bind_eq_ok h
  cases h
  have hfuel : (afterCaret pattern).length ≤ pattern.length := by
    unfold afterCaret
    split_ifs
    · simp
    · exact le_rfl
  obtain ⟨pieces, hreads, hsteps, -⟩ := compileSteps_reads hcompiled hfuel
  intro step hstep
  have hmem : step ∈ compiled.steps := hstep
  rw [hsteps, List.nil_append, List.mem_flatMap] at hmem
  obtain ⟨piece, hpiece, hin⟩ := hmem
  rw [mem_pieceSteps hin]
  exact hreads.inhabited piece hpiece

/-! ## Patterns of single atoms -/

/-- None of the atoms of the pattern is quantified. -/
def Expression.Plain (expression : Expression) : Prop := ∀ step ∈ expression.steps, step.kind = .required

section

variable {toLocaleLowerCase : UInt16 → JsString} {pattern : JsString} {expression : Expression} {ignoreCase : Bool}

/-- Such a pattern, anchored or not, takes a text of its own length character by character. -/
theorem Expression.Plain.matches_iff (h : expression.Plain) (hlength : value.length = expression.steps.length) :
    matchesSafeRegex toLocaleLowerCase { expression with ignoreCase } value = true ↔
      List.Forall₂ (fun step c => atomMatches toLocaleLowerCase ignoreCase step.atom c = true) expression.steps value := by
  have hsteps : expression.steps.map (Step.matcher (atomMatches toLocaleLowerCase ignoreCase)) =
      (expression.steps.map (fun step => atomMatches toLocaleLowerCase ignoreCase step.atom)).map
        StepMatching.Step.required := by
    rw [List.map_map]
    apply List.map_congr_left
    intro step hstep
    unfold Step.matcher
    rw [h step hstep]
    rfl
  unfold matchesSafeRegex
  dsimp only
  rw [hsteps, StepMatching.matchesSteps_required (by rw [hlength, List.length_map]), List.forall₂_map_left_iff]

/-- A text of characters that the steps take. -/
theorem exists_forall₂ (steps : List Step) (h : ∀ step ∈ steps, ∃ c, P step c) :
    ∃ value, List.Forall₂ P steps value := by
  induction steps with
  | nil => exact ⟨[], .nil⟩
  | cons step steps ih =>
    obtain ⟨c, hc⟩ := h step List.mem_cons_self
    obtain ⟨value, hvalue⟩ := ih (fun step hstep => h step (List.mem_cons_of_mem _ hstep))
    exact ⟨c :: value, .cons hc hvalue⟩

/-- At one place of a text any character may stand that the step takes. -/
theorem forall₂_place {before after : List Step} {front back : JsString} (hbefore : List.Forall₂ P before front)
    (hafter : List.Forall₂ P after back) :
    List.Forall₂ P (before ++ step :: after) (front ++ c :: back) ↔ P step c := by
  constructor
  · intro h
    induction hbefore with
    | nil =>
      cases h with
      | cons hc _ => exact hc
    | cons _ _ ih =>
      cases h with
      | cons _ hrest => exact ih hrest
  · intro hc
    exact List.rel_append hbefore (.cons hc hafter)

/-- The characters around a place are taken by the steps around it. -/
theorem forall₂_around {before after : List Step} {front back : JsString}
    (h : List.Forall₂ P (before ++ step :: after) (front ++ c :: back)) (hlength : before.length = front.length) :
    List.Forall₂ P before front ∧ List.Forall₂ P after back := by
  obtain ⟨front', rest, hsplit, hfront, hrest⟩ := StepMatching.forall₂_append_left h
  obtain ⟨rfl, rfl⟩ := List.append_inj hsplit (hlength.symm.trans hfront.length_eq)
  cases hrest with
  | cons _ hback => exact ⟨hfront, hback⟩

/-- Single atoms have to do what the flag is for. -/
theorem IgnoresCase.expression_folds (h : compileSafeRegex pattern false = .ok expression)
    (hpositive : expression.Positive) (hplain : expression.Plain)
    (hignores : IgnoresCase toLocaleLowerCase pattern expression) : expression.Folds toLocaleLowerCase := by
  obtain ⟨hfolded, hcase⟩ := compileSafeRegex_ignoreCase h
  obtain ⟨⟨folded, hcompiled, hwidens⟩, ⟨folded', hcompiled', hsame⟩⟩ := hignores
  obtain rfl : _ = folded := Except.ok.inj (hfolded.symm.trans hcompiled)
  obtain rfl : _ = folded' := Except.ok.inj (hfolded.symm.trans hcompiled')
  have hself : expression = { expression with ignoreCase := false } := by rw [← hcase]
  intro step hstep
  obtain ⟨before, after, hsteps⟩ := List.append_of_mem hstep
  -- what the other steps take, without the flag
  have hinhabited : ∀ other ∈ expression.steps, ∃ c, atomMatches toLocaleLowerCase false other.atom c = true :=
    fun other hother => compileSafeRegex_inhabited h other hother (hpositive other hother) toLocaleLowerCase
  rw [hsteps] at hinhabited
  obtain ⟨front, hfront⟩ := exists_forall₂ (P := fun other c => atomMatches toLocaleLowerCase false other.atom c = true)
    before (fun other hother => hinhabited other (List.mem_append_left _ hother))
  obtain ⟨back, hback⟩ := exists_forall₂ (P := fun other c => atomMatches toLocaleLowerCase false other.atom c = true)
    after (fun other hother => hinhabited other (List.mem_append_right _ (List.mem_cons_of_mem _ hother)))
  obtain ⟨c₀, hc₀⟩ := hinhabited step (List.mem_append_right _ List.mem_cons_self)
  -- the texts that are tried are as long as the pattern, so that no anchor matters
  have hlength : ∀ c, (front ++ c :: back).length = expression.steps.length := by
    intro c
    rw [hsteps, List.length_append, List.length_append, List.length_cons, List.length_cons, hfront.length_eq,
      hback.length_eq]
  have hstepWidens : ∀ c, atomMatches toLocaleLowerCase false step.atom c = true →
      List.Forall₂ (fun other c => atomMatches toLocaleLowerCase true other.atom c = true) (before ++ step :: after)
        (front ++ c :: back) := by
    intro c hc
    rw [← hsteps, ← hplain.matches_iff (hlength c)]
    apply hwidens
    rw [hself, hplain.matches_iff (hlength c), hsteps]
    exact (forall₂_place hfront hback).mpr hc
  obtain ⟨hfront', hback'⟩ := forall₂_around (hstepWidens c₀ hc₀) hfront.length_eq
  have hplace : ∀ c, matchesSafeRegex toLocaleLowerCase { expression with ignoreCase := true } (front ++ c :: back) =
      atomMatches toLocaleLowerCase true step.atom c := by
    intro c
    rw [Bool.eq_iff_iff, hplain.matches_iff (hlength c), hsteps, forall₂_place hfront' hback']
  have hone := hpositive step hstep
  cases hatom : step.atom with
  | literal value => trivial
  | any => trivial
  | shorthand kind negated =>
    intro c d hcd
    have htexts := hsame (front ++ c :: back) (front ++ d :: back) (by simp [hcd])
    rw [hplace, hplace, hatom] at htexts
    have hnegated : (kind.accepts c != negated) = (kind.accepts d != negated) := htexts
    cases negated <;> simpa using hnegated
  | charClass negated singles ranges =>
    rw [hatom] at hone
    have hnegated : negated = false := hone
    subst hnegated
    intro range hrange c hfrom hto
    rw [← atomMatches_class, ← hatom, ← forall₂_place (P := fun other c =>
      atomMatches toLocaleLowerCase true other.atom c = true) hfront' hback']
    apply hstepWidens
    rw [hatom, atomMatches_class_plain]
    exact Or.inr ⟨range, hrange, hfrom, hto⟩

end

/-! ## What the flag does -/

/-- **Patterns that ignore case.** With the flag a pattern matches more, and the same on texts that are the same
in lower case, if every range keeps its characters in lower case and every shorthand has all the characters of
a lower case or none. If no atom is quantified, only then. -/
theorem ignoresCase_iff {pattern : JsString} {expression : Expression} (toLocaleLowerCase : UInt16 → JsString)
    (h : compileSafeRegex pattern false = .ok expression) (hpositive : expression.Positive) :
    (expression.Folds toLocaleLowerCase → IgnoresCase toLocaleLowerCase pattern expression) ∧
      (expression.Plain → (IgnoresCase toLocaleLowerCase pattern expression ↔ expression.Folds toLocaleLowerCase)) := by
  have henough : expression.Folds toLocaleLowerCase → IgnoresCase toLocaleLowerCase pattern expression :=
    Expression.Folds.ignoresCase h hpositive
  exact ⟨henough, fun hplain => ⟨IgnoresCase.expression_folds h hpositive hplain, henough⟩⟩

/-- Lower case, as far as English letters go. -/
def asciiLowerCase (c : UInt16) : JsString := if 0x41 ≤ c ∧ c ≤ 0x5A then [c + 0x20] else [c]

/-- `a[Bd-f]`, compiled. -/
def letters : Expression where
  anchoredStart := false
  anchoredEnd := false
  ignoreCase := false
  steps := [⟨.required, .literal 0x61⟩, ⟨.required, .charClass false [0x42] [(0x64, 0x66)]⟩]

/-- The small letters of a range stay in it. -/
theorem letters_folds : letters.Folds asciiLowerCase := by
  have hsmall : ∀ c : UInt16, 0x64 ≤ c → asciiLowerCase c = [c] := by
    intro c hc
    unfold asciiLowerCase
    rw [if_neg]
    rintro ⟨-, hcapital⟩
    have hle : (0x64 : UInt16) ≤ 0x5A := UInt16.le_trans hc hcapital
    exact absurd hle (by decide)
  intro step hstep
  simp only [letters, List.mem_cons, List.not_mem_nil, or_false] at hstep
  rcases hstep with rfl | rfl
  · trivial
  · intro range hrange c hfrom hto
    obtain rfl := List.mem_singleton.mp hrange
    refine Or.inr ⟨_, List.mem_singleton_self _, ?_⟩
    rw [hsmall 0x64 (by decide), hsmall 0x66 (by decide), hsmall c hfrom, singleton_le_iff, singleton_le_iff]
    exact ⟨hfrom, hto⟩

/-- A pattern with a range that keeps its characters. -/
theorem ignoresCase_iff_letters :
    IgnoresCase asciiLowerCase (js "a[Bd-f]") letters ∧
      (IgnoresCase asciiLowerCase (js "a[Bd-f]") letters ↔ letters.Folds asciiLowerCase) := by
  have hpositive : letters.Positive := by
    intro step hstep
    simp only [letters, List.mem_cons, List.not_mem_nil, or_false] at hstep
    rcases hstep with rfl | rfl
    · trivial
    · rfl
  have hplain : letters.Plain := by
    intro step hstep
    simp only [letters, List.mem_cons, List.not_mem_nil, or_false] at hstep
    rcases hstep with rfl | rfl <;> rfl
  have hboth := @ignoresCase_iff (js "a[Bd-f]") letters asciiLowerCase (by decide +kernel) hpositive
  exact ⟨hboth.1 letters_folds, hboth.2 hplain⟩

/-- `[A-z]`, compiled. -/
def wideRange : Expression where
  anchoredStart := false
  anchoredEnd := false
  ignoreCase := false
  steps := [⟨.required, .charClass false [] [(0x41, 0x7A)]⟩]

/-- **A range narrows**: `[A-z]` takes an underscore, and with the flag it does not. -/
theorem not_ignoresCase :
    ¬∀ (pattern : JsString) (expression : Expression), compileSafeRegex pattern false = .ok expression →
      expression.Positive → IgnoresCase asciiLowerCase pattern expression := by
  intro h
  have hpositive : wideRange.Positive := by
    intro step hstep
    rw [List.mem_singleton.mp hstep]
    rfl
  obtain ⟨⟨folded, hfolded, hwidens⟩, -⟩ := h (js "[A-z]") wideRange (by decide +kernel) hpositive
  have hcompiled : compileSafeRegex (js "[A-z]") true = .ok { wideRange with ignoreCase := true } := by
    decide +kernel
  obtain rfl : _ = folded := Except.ok.inj (hcompiled.symm.trans hfolded)
  have hunderscore := hwidens (js "_") (by decide +kernel)
  have hnarrow : matchesSafeRegex asciiLowerCase { wideRange with ignoreCase := true } (js "_") = false := by
    decide +kernel
  rw [hnarrow] at hunderscore
  cases hunderscore

end SafeRegex
