import Mathlib

set_option autoImplicit false

/-! # Wildcard patterns

A pattern is a list of atoms, each of which takes one character of a given kind or any run
of characters; it matches a text as a whole. Both `LIKE`-style regular expressions and
`GLOB` patterns are of this form, over different alphabets.
-/

namespace Wildcard

/-- One step of a pattern over the alphabet `α`. -/
inductive Atom (α : Type)
  | star
  | one (accepts : α → Bool)

variable {α β : Type}

/-- Whether the pattern matches the whole text. -/
def accepts : List (Atom α) → List α → Bool
  | [], text => text.isEmpty
  | .star :: atoms, text => text.tails.any (accepts atoms)
  | .one p :: atoms, c :: text => p c && accepts atoms text
  | .one _ :: _, [] => false

/-- A pattern that starts with a run matches what it matches at some suffix. -/
theorem accepts_star {atoms : List (Atom α)} {text : List α} :
    accepts (.star :: atoms) text = true ↔ ∃ before after, text = before ++ after ∧ accepts atoms after = true := by
  rw [accepts, List.any_eq_true]
  constructor
  · rintro ⟨after, hafter, haccepts⟩
    obtain ⟨before, hbefore⟩ := (List.mem_tails _ _).mp hafter
    exact ⟨before, after, hbefore.symm, haccepts⟩
  · rintro ⟨before, after, rfl, haccepts⟩
    exact ⟨after, (List.mem_tails _ _).mpr (List.suffix_append before after), haccepts⟩

/-- Single characters followed by a pattern match a block that they take, and the rest. -/
theorem accepts_ones {ones : List (α → Bool)} {atoms : List (Atom α)} {text : List α} :
    accepts (ones.map Atom.one ++ atoms) text = true ↔ ∃ block after, text = block ++ after ∧
      List.Forall₂ (fun p c => p c = true) ones block ∧ accepts atoms after = true := by
  induction ones generalizing text with
  | nil =>
    constructor
    · intro h
      exact ⟨[], text, rfl, .nil, h⟩
    · rintro ⟨block, after, rfl, hblock, h⟩
      cases hblock
      exact h
  | cons p ones ih =>
    cases text with
    | nil =>
      constructor
      · intro h
        cases h
      · rintro ⟨block, after, htext, hblock, -⟩
        cases hblock
        cases htext
    | cons c text =>
      have hstep : accepts ((p :: ones).map Atom.one ++ atoms) (c :: text) =
          (p c && accepts (ones.map Atom.one ++ atoms) text) := rfl
      rw [hstep, Bool.and_eq_true, ih]
      constructor
      · rintro ⟨hc, block, after, rfl, hblock, h⟩
        exact ⟨c :: block, after, rfl, .cons hc hblock, h⟩
      · rintro ⟨block, after, htext, hblock, h⟩
        cases hblock with
        | cons hc hrest =>
          rw [List.cons_append, List.cons.injEq] at htext
          obtain ⟨rfl, rfl⟩ := htext
          exact ⟨hc, _, after, rfl, hrest, h⟩

/-- Two atoms that take the same characters of `P`, read through `f`. -/
def Agree (f : α → β) (P : α → Prop) : Atom α → Atom β → Prop
  | .star, .star => True
  | .one p, .one q => ∀ c, P c → p c = q (f c)
  | _, _ => False

theorem tails_map (f : α → β) (text : List α) : (text.map f).tails = text.tails.map (List.map f) := by
  induction text with
  | nil => rfl
  | cons c text ih => rw [List.map_cons, List.tails_cons, List.tails_cons, List.map_cons, ih]; rfl

/-- **Patterns whose atoms agree on the characters of a text match it alike.** -/
theorem accepts_congr {f : α → β} {P : α → Prop} {as : List (Atom α)} {bs : List (Atom β)}
    (h : List.Forall₂ (Agree f P) as bs) (text : List α) (ht : ∀ c ∈ text, P c) :
    accepts as text = accepts bs (text.map f) := by
  induction h generalizing text with
  | nil => cases text <;> rfl
  | @cons a b as bs hab hrest ih =>
    cases a with
    | star =>
      cases b with
      | star =>
        rw [accepts, accepts, tails_map, List.any_map]
        rw [Bool.eq_iff_iff, List.any_eq_true, List.any_eq_true]
        refine exists_congr (fun suffix => and_congr_right (fun hs => ?_))
        have hsub := ((List.mem_tails _ _).1 hs).subset
        rw [ih suffix (fun c hc => ht c (hsub hc)), Function.comp_apply]
      | one q => exact hab.elim
    | one p =>
      cases b with
      | star => exact hab.elim
      | one q =>
        cases text with
        | nil => rfl
        | cons c text =>
          rw [List.forall_mem_cons] at ht
          rw [List.map_cons, accepts, accepts, hab c ht.1, ih text ht.2]

/-- An atom that takes no character of the text. -/
def Dead (text : List α) : Atom α → Prop
  | .star => False
  | .one p => ∀ c ∈ text, p c = false

theorem Dead.mono {text text' : List α} {a : Atom α} (h : Dead text a) (hsub : text' ⊆ text) : Dead text' a := by
  cases a with
  | star => exact h.elim
  | one p => exact fun c hc => h c (hsub hc)

/-- **A pattern with a dead atom matches nothing.** -/
theorem accepts_of_dead {as : List (Atom α)} {text : List α} {a : Atom α} (ha : a ∈ as)
    (hdead : Dead text a) : accepts as text = false := by
  induction as generalizing text with
  | nil => simp at ha
  | cons b as ih =>
    cases b with
    | star =>
      have ha' : a ∈ as := by
        rcases List.mem_cons.1 ha with rfl | h
        · exact hdead.elim
        · exact h
      rw [accepts, List.any_eq_false]
      intro suffix hs
      rw [ih ha' (hdead.mono ((List.mem_tails _ _).1 hs).subset)]
      decide
    | one p =>
      cases text with
      | nil => rfl
      | cons c text =>
        rw [accepts]
        rcases List.mem_cons.1 ha with rfl | h
        · rw [hdead c List.mem_cons_self, Bool.false_and]
        · rw [ih h (hdead.mono (List.subset_cons_self c text)), Bool.and_false]

end Wildcard
