import Mathlib

set_option autoImplicit false

/-! # Things that are done in an order

Some things stand in an order, and each may only be done after those before it. `Ready order done todo` says that
`todo` is a part of the order, and that everything before one of its things is done or is one of them as well. Then
all that is before the first of them is done (`Ready.head`), and with that one done the rest is ready (`Ready.tail`).
A list is ready when it is the whole order, a selection whose gaps are done, or the beginning of a list that is.
-/

namespace InOrder

variable {ι : Type} {order todo : List ι} {done done' : ι → Prop} {i j x : ι}

/-- `i` stands before `j`. -/
def Before (order : List ι) (i j : ι) : Prop := [i, j].Sublist order

theorem Before.left_mem (h : Before order i j) : i ∈ order := h.subset List.mem_cons_self

theorem Before.right_mem (h : Before order i j) : j ∈ order := h.subset (List.mem_cons_of_mem _ List.mem_cons_self)

theorem before_cons : Before (x :: order) i j ↔ Before order i j ∨ i = x ∧ j ∈ order := by
  unfold Before
  rw [List.sublist_cons_iff]
  constructor
  · rintro (h | ⟨rest, hrest, hsub⟩)
    · exact Or.inl h
    · obtain ⟨rfl, rfl⟩ := List.cons.inj hrest
      exact Or.inr ⟨rfl, List.singleton_sublist.mp hsub⟩
  · rintro (h | ⟨rfl, hj⟩)
    · exact Or.inl h
    · exact Or.inr ⟨[j], rfl, List.singleton_sublist.mpr hj⟩

theorem before_reverse : Before order.reverse i j ↔ Before order j i := by
  have hpair : [i, j] = [j, i].reverse := rfl
  rw [Before, hpair, List.reverse_sublist, Before]

theorem Before.not_before (hnodup : order.Nodup) (h : Before order i j) : ¬ Before order j i := by
  induction order with
  | nil => exact absurd h.left_mem List.not_mem_nil
  | cons x order ih =>
    obtain ⟨hx, hnodup'⟩ := List.nodup_cons.mp hnodup
    intro hback
    rcases before_cons.mp h with hrest | ⟨rfl, hj⟩ <;> rcases before_cons.mp hback with hback' | ⟨rfl, hi⟩
    · exact ih hnodup' hrest hback'
    · exact hx hrest.right_mem
    · exact hx hback'.right_mem
    · exact hx hj

theorem Before.ne (hnodup : order.Nodup) (h : Before order i j) : i ≠ j := by
  rintro rfl
  exact h.not_before hnodup h

/-- What is after a thing stands behind its first place. -/
theorem Before.mem_drop [DecidableEq ι] (h : Before order i j) : j ∈ order.drop (order.idxOf i + 1) := by
  induction order with
  | nil => exact absurd h.left_mem List.not_mem_nil
  | cons x order ih =>
    by_cases hx : x = i
    · have hj : j ∈ order := by
        rcases before_cons.mp h with hrest | ⟨_, hj⟩
        · exact hrest.right_mem
        · exact hj
      simpa [hx] using hj
    · have hrest : Before order i j := by
        rcases before_cons.mp h with hrest | ⟨rfl, _⟩
        · exact hrest
        · exact absurd rfl hx
      rw [List.idxOf_cons_ne _ hx, List.drop_succ_cons]
      exact ih hrest

/-- What is left to do is a part of the order, and what stands before one of it is done or left as well. -/
structure Ready (order : List ι) (done : ι → Prop) (todo : List ι) : Prop where
  part : todo.Sublist order
  before : ∀ i ∈ todo, ∀ j, Before order j i → j ∉ todo → done j

theorem Ready.nil : Ready order done [] := ⟨List.nil_sublist _, fun _ hi => absurd hi List.not_mem_nil⟩

theorem Ready.whole : Ready order done order :=
  ⟨List.Sublist.refl _, fun _ _ _ hbefore hnot => absurd hbefore.left_mem hnot⟩

/-- **All that is before the first one is done.** -/
theorem Ready.head (h : Ready order done (i :: todo)) (hnodup : order.Nodup) (hbefore : Before order j i) : done j := by
  apply h.before i List.mem_cons_self j hbefore
  intro hmem
  rcases List.mem_cons.mp hmem with rfl | hj
  · exact hbefore.ne hnodup rfl
  · have hafter : Before order i j := (List.cons_sublist_cons.mpr (List.singleton_sublist.mpr hj)).trans h.part
    exact hbefore.not_before hnodup hafter

/-- **The rest is ready** when the first one is done. -/
theorem Ready.tail (h : Ready order done (i :: todo)) (hkept : ∀ j, j ≠ i → done j → done' j) (hi : done' i) :
    Ready order done' todo := by
  refine ⟨(List.sublist_cons_self i todo).trans h.part, ?_⟩
  intro k hk j hbefore hj
  by_cases hij : j = i
  · rw [hij]
    exact hi
  · have hnot : j ∉ i :: todo := by simp [hij, hj]
    exact hkept j hij (h.before k (List.mem_cons_of_mem _ hk) j hbefore hnot)

theorem Ready.mono (h : Ready order done todo) (hdone : ∀ j, done j → done' j) : Ready order done' todo :=
  ⟨h.part, fun i hi j hbefore hj => hdone j (h.before i hi j hbefore hj)⟩

theorem Ready.take (h : Ready order done todo) (hnodup : order.Nodup) (n : Nat) : Ready order done (todo.take n) := by
  refine ⟨(List.take_sublist n todo).trans h.part, ?_⟩
  intro i hi j hbefore hj
  by_cases hmem : j ∈ todo
  · -- it would be among those that are left for later, but they are after what is taken
    have hdrop : j ∈ todo.drop n := by
      rw [← List.take_append_drop n todo, List.mem_append] at hmem
      exact hmem.resolve_left hj
    have hpair : [i, j].Sublist (todo.take n ++ todo.drop n) :=
      (List.singleton_sublist.mpr hi).append (List.singleton_sublist.mpr hdrop)
    rw [List.take_append_drop] at hpair
    exact absurd (hpair.trans h.part) (hbefore.not_before hnodup)
  · exact h.before i (List.mem_of_mem_take hi) j hbefore hmem

theorem Ready.filter (h : Ready order done todo) {p : ι → Bool} (hp : ∀ j ∈ todo, p j = false → done j) :
    Ready order done (todo.filter p) := by
  refine ⟨List.filter_sublist.trans h.part, ?_⟩
  intro i hi j hbefore hj
  by_cases hmem : j ∈ todo
  · apply hp j hmem
    by_contra hnot
    exact hj (List.mem_filter.mpr ⟨hmem, by simpa using hnot⟩)
  · exact h.before i (List.mem_of_mem_filter hi) j hbefore hmem

/-! ## A list that is found by walking along the order -/

theorem Ready.skip (h : Ready order done todo) (hx : done x) : Ready (x :: order) done todo := by
  refine ⟨h.part.cons x, ?_⟩
  intro i hi j hbefore hj
  rcases before_cons.mp hbefore with hrest | ⟨rfl, _⟩
  · exact h.before i hi j hrest hj
  · exact hx

theorem Ready.keep (h : Ready order done todo) (hx : x ∉ order) : Ready (x :: order) done (x :: todo) := by
  refine ⟨h.part.cons_cons x, ?_⟩
  intro i hi j hbefore hj
  rw [List.mem_cons, not_or] at hj
  rcases before_cons.mp hbefore with hrest | ⟨rfl, _⟩
  · rcases List.mem_cons.mp hi with rfl | hi
    · exact absurd hrest.right_mem hx
    · exact h.before i hi j hrest hj.2
  · exact absurd rfl hj.1

end InOrder
