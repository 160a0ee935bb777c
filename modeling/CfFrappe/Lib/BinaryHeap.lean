import Mathlib.Data.List.Sort

set_option autoImplicit false

/-! # Binary heaps in a list

The children of position `p` are the positions `2 * p + 1` and `2 * p + 2`, and no child is worse
than its parent, so that the root is a worst element. An element is added at the end and sifted up
(`isHeap_siftUp`); a new root is sifted down (`isHeap_siftDown`).

The relation need be a total preorder only on the elements that occur (`WorseOn`). With `Keeps` a
heap of bounded size holds the best elements of all that were offered to it
(`Keeps.mergeSort_eq_take`).
-/

namespace BinaryHeap

variable {α : Type}

/-- On the elements of `S` the relation is the strict part of a total preorder. -/
structure WorseOn (S : α → Prop) (worse : α → α → Bool) : Prop where
  asymm : ∀ x y, S x → S y → worse x y = true → worse y x = false
  trans : ∀ x y z, S x → S y → S z → worse x y = false → worse y z = false → worse x z = false

theorem WorseOn.irrefl {S : α → Prop} {worse : α → α → Bool} (h : WorseOn S worse) {x : α} (hx : S x) :
    worse x x = false := by
  cases hworse : worse x x with
  | false => rfl
  | true =>
    rw [h.asymm x x hx hx hworse] at hworse
    exact absurd hworse (by decide)

theorem worseOn_of_transCmp {S : α → Prop} {worse : α → α → Bool} (cmp : α → α → Ordering) [Std.TransCmp cmp]
    (h : ∀ x y, S x → S y → worse x y = decide (cmp x y = .gt)) : WorseOn S worse where
  asymm := by
    intro x y hx hy hxy
    rw [h x y hx hy, decide_eq_true_eq] at hxy
    rw [h y x hy hx, decide_eq_false_iff_not, Std.OrientedCmp.lt_of_gt hxy]
    decide
  trans := by
    intro x y z hx hy hz hxy hyz
    rw [h x y hx hy, decide_eq_false_iff_not, ← Ordering.isLE_iff_ne_gt] at hxy
    rw [h y z hy hz, decide_eq_false_iff_not, ← Ordering.isLE_iff_ne_gt] at hyz
    rw [h x z hx hz, decide_eq_false_iff_not, ← Ordering.isLE_iff_ne_gt]
    exact Std.TransCmp.isLE_trans hxy hyz

/-- `child` is one of the two children of `parent`. -/
def IsChild (child parent : Nat) : Prop := child = 2 * parent + 1 ∨ child = 2 * parent + 2

theorem IsChild.lt {child parent : Nat} (h : IsChild child parent) : parent < child := by
  unfold IsChild at h
  omega

theorem isChild_half {child : Nat} (h : 0 < child) : IsChild child ((child - 1) / 2) := by
  unfold IsChild
  omega

theorem IsChild.unique {child parent other : Nat} (h : IsChild child parent) (h' : IsChild child other) :
    parent = other := by
  unfold IsChild at h h'
  omega

/-- No child is worse than its parent, for the parents and children that `P` selects. -/
def OrderedAt (worse : α → α → Bool) (l : List α) (P : Nat → Nat → Prop) : Prop :=
  ∀ child parent x y, IsChild child parent → P child parent → l[child]? = some x → l[parent]? = some y →
    worse x y = false

def IsHeap (worse : α → α → Bool) (l : List α) : Prop := OrderedAt worse l (fun _ _ => True)

/-- No child of `hole` is worse than the parent of `hole`. -/
def Grand (worse : α → α → Bool) (l : List α) (hole : Nat) : Prop :=
  ∀ child parent x y, IsChild child hole → IsChild hole parent → l[child]? = some x → l[parent]? = some y →
    worse x y = false

/-! ## Exchanging two elements -/

def swap (l : List α) (i j : Nat) : List α :=
  match l[i]?, l[j]? with
  | some x, some y => (l.set i y).set j x
  | _, _ => l

theorem swap_eq {l : List α} {i j : Nat} {x y : α} (hi : l[i]? = some x) (hj : l[j]? = some y) :
    swap l i j = (l.set i y).set j x := by
  simp only [swap, hi, hj]

@[simp] theorem length_swap (l : List α) (i j : Nat) : (swap l i j).length = l.length := by
  unfold swap
  split <;> simp

theorem getElem?_swap {l : List α} {i j : Nat} (hi : i < l.length) (hj : j < l.length) (k : Nat) :
    (swap l i j)[k]? = if k = j then l[i]? else if k = i then l[j]? else l[k]? := by
  have hx := List.getElem?_eq_getElem hi
  have hy := List.getElem?_eq_getElem hj
  rw [swap_eq hx hy, List.getElem?_set, List.getElem?_set]
  by_cases hkj : k = j
  · subst hkj
    simp [hj, hx]
  · by_cases hki : k = i
    · subst hki
      simp [hkj, Ne.symm hkj, hi, hy]
    · simp [hkj, hki, Ne.symm hkj, Ne.symm hki]

theorem swap_perm (l : List α) (i j : Nat) : (swap l i j).Perm l := by
  unfold swap
  split
  · rename_i x y hx hy
    obtain ⟨hi, rfl⟩ := List.getElem?_eq_some_iff.mp hx
    obtain ⟨hj, rfl⟩ := List.getElem?_eq_some_iff.mp hy
    exact List.set_set_perm hi hj
  · exact List.Perm.refl l

theorem forall_mem_swap {S : α → Prop} {l : List α} (h : ∀ x ∈ l, S x) (i j : Nat) : ∀ x ∈ swap l i j, S x :=
  fun x hx => h x ((swap_perm l i j).mem_iff.mp hx)

/-! ## Sifting up -/

/-- The element at `i` is worse than the one at `j`. -/
def worseAt (worse : α → α → Bool) (l : List α) (i j : Nat) : Bool :=
  match l[i]?, l[j]? with
  | some x, some y => worse x y
  | _, _ => false

theorem worseAt_eq {worse : α → α → Bool} {l : List α} {i j : Nat} {x y : α} (hi : l[i]? = some x)
    (hj : l[j]? = some y) : worseAt worse l i j = worse x y := by
  simp only [worseAt, hi, hj]

def siftUp (worse : α → α → Bool) (l : List α) (child : Nat) : List α :=
  if 0 < child ∧ worseAt worse l child ((child - 1) / 2) then
    siftUp worse (swap l child ((child - 1) / 2)) ((child - 1) / 2)
  else l
termination_by child
decreasing_by omega

variable {S : α → Prop} {worse : α → α → Bool}

theorem siftUp_perm (l : List α) (child : Nat) : (siftUp worse l child).Perm l := by
  induction l, child using siftUp.induct worse with
  | case1 l child h ih =>
    rw [siftUp, if_pos h]
    exact ih.trans (swap_perm l _ _)
  | case2 l child h =>
    rw [siftUp, if_neg h]

/-- What sifting up needs: only the pair of the element and its parent may be out of order. -/
structure UpOrder (worse : α → α → Bool) (l : List α) (hole : Nat) : Prop where
  rest : OrderedAt worse l (fun child _ => child ≠ hole)
  grand : Grand worse l hole

/-- An exchange with the parent moves the element that is out of order up. -/
theorem UpOrder.move (hw : WorseOn S worse) {l : List α} (hS : ∀ x ∈ l, S x) {child parent : Nat}
    (hparent : IsChild child parent) (hchild : child < l.length) (h : UpOrder worse l child)
    (hworse : worseAt worse l child parent = true) : UpOrder worse (swap l child parent) parent := by
  have hlt := hparent.lt
  have hparent' : parent < l.length := by omega
  have hx := List.getElem?_eq_getElem hchild
  have hy := List.getElem?_eq_getElem hparent'
  rw [worseAt_eq hx hy] at hworse
  have hSx := hS _ (List.getElem_mem hchild)
  have hSy := hS _ (List.getElem_mem hparent')
  have hdown := hw.asymm _ _ hSx hSy hworse
  have hget := getElem?_swap hchild hparent'
  -- the other child of the parent is no worse than the element that moves up
  have hsibling : ∀ other z, IsChild other parent → other ≠ child → l[other]? = some z →
      worse z l[child] = false := by
    intro other z hother hne hz
    have hold := h.rest other parent z _ hother hne hz hy
    exact hw.trans _ _ _ (hS z (List.mem_of_getElem? hz)) hSy hSx hold hdown
  constructor
  · intro c p z w hc hne hz hwp
    rw [hget] at hz hwp
    rw [if_neg hne] at hz
    by_cases hcc : c = child
    · -- the element that moved down, below the one that moved up
      subst hcc
      obtain rfl := hc.unique hparent
      rw [if_pos rfl] at hz hwp
      rw [hy] at hz
      rw [hx] at hwp
      cases hz
      cases hwp
      exact hdown
    · rw [if_neg hcc] at hz
      by_cases hpp : p = parent
      · subst hpp
        rw [if_pos rfl, hx] at hwp
        cases hwp
        exact hsibling c z hc hcc hz
      · rw [if_neg hpp] at hwp
        by_cases hpc : p = child
        · subst hpc
          rw [if_pos rfl] at hwp
          exact h.grand c parent z w hc hparent hz hwp
        · rw [if_neg hpc] at hwp
          exact h.rest c p z w hc hcc hz hwp
  · intro c g z w hc hg hz hwg
    have hgp := hg.lt
    have hcp := hc.lt
    rw [hget] at hz hwg
    have hgchild : g ≠ child := by omega
    rw [if_neg (by omega), if_neg hgchild] at hwg
    rw [if_neg (by omega)] at hz
    have hup := h.rest parent g _ w hg (by omega) hy hwg
    have hSw := hS w (List.mem_of_getElem? hwg)
    by_cases hcc : c = child
    · rw [if_pos hcc, hy] at hz
      cases hz
      exact hup
    · rw [if_neg hcc] at hz
      have hold := h.rest c parent z _ hc hcc hz hy
      exact hw.trans _ _ _ (hS z (List.mem_of_getElem? hz)) hSy hSw hold hup

theorem isHeap_siftUp (hw : WorseOn S worse) {l : List α} {child : Nat} (hS : ∀ x ∈ l, S x)
    (hchild : child < l.length) (h : UpOrder worse l child) : IsHeap worse (siftUp worse l child) := by
  induction l, child using siftUp.induct worse with
  | case1 l child hcond ih =>
    rw [siftUp, if_pos hcond]
    have hparent := isChild_half hcond.1
    have hlt := hparent.lt
    apply ih (forall_mem_swap hS _ _)
    · rw [length_swap]
      omega
    · exact h.move hw hS hparent hchild hcond.2
  | case2 l child hcond =>
    rw [siftUp, if_neg hcond]
    intro c p x y hc _ hx hy
    by_cases hcc : c = child
    · subst hcc
      have hpositive : 0 < c := by have := hc.lt; omega
      obtain rfl := hc.unique (isChild_half hpositive)
      have hnot : ¬ worseAt worse l c ((c - 1) / 2) = true := fun hworse => hcond ⟨hpositive, hworse⟩
      rw [worseAt_eq hx hy, Bool.not_eq_true] at hnot
      exact hnot
    · exact h.rest c p x y hc hcc hx hy

/-- An element added at the end is the only one that may be out of order. -/
theorem IsHeap.upOrder_append {l : List α} (h : IsHeap worse l) (entry : α) :
    UpOrder worse (l ++ [entry]) l.length := by
  constructor
  · intro c p x y hc hne hx hy
    have hclen : c < (l ++ [entry]).length := (List.getElem?_eq_some_iff.mp hx).1
    rw [List.length_append, List.length_singleton] at hclen
    have hlt := hc.lt
    rw [List.getElem?_append_left (by omega)] at hx hy
    exact h c p x y hc trivial hx hy
  · intro c p x y hc _ hx _
    have hclen : c < (l ++ [entry]).length := (List.getElem?_eq_some_iff.mp hx).1
    rw [List.length_append, List.length_singleton] at hclen
    have hlt := hc.lt
    omega

/-! ## Sifting down -/

/-- The worst of a position and its children. -/
def worstOf (worse : α → α → Bool) (l : List α) (parent : Nat) : Nat :=
  let left := parent * 2 + 1
  let right := left + 1
  let worst := if left < l.length ∧ worseAt worse l left parent then left else parent
  if right < l.length ∧ worseAt worse l right worst then right else worst

/-- Sifts down for at most `fuel` exchanges. -/
def siftDown (worse : α → α → Bool) : (fuel : Nat) → List α → Nat → List α
  | 0, l, _ => l
  | fuel + 1, l, parent =>
    if worstOf worse l parent = parent then l
    else siftDown worse fuel (swap l parent (worstOf worse l parent)) (worstOf worse l parent)

theorem siftDown_perm (fuel : Nat) (l : List α) (parent : Nat) : (siftDown worse fuel l parent).Perm l := by
  induction fuel generalizing l parent with
  | zero => exact List.Perm.refl l
  | succ fuel ih =>
    rw [siftDown]
    split
    · exact List.Perm.refl l
    · exact (ih _ _).trans (swap_perm l _ _)

theorem worstOf_cases (worse : α → α → Bool) (l : List α) (parent : Nat) :
    worstOf worse l parent = parent ∨
      (IsChild (worstOf worse l parent) parent ∧ worstOf worse l parent < l.length) := by
  have hleft : IsChild (parent * 2 + 1) parent := by unfold IsChild; omega
  have hright : IsChild (parent * 2 + 1 + 1) parent := by unfold IsChild; omega
  unfold worstOf
  by_cases hr : parent * 2 + 1 + 1 < l.length ∧ worseAt worse l (parent * 2 + 1 + 1)
      (if parent * 2 + 1 < l.length ∧ worseAt worse l (parent * 2 + 1) parent then parent * 2 + 1 else parent)
  · simp only [if_pos hr]
    exact .inr ⟨hright, hr.1⟩
  · simp only [if_neg hr]
    by_cases hl : parent * 2 + 1 < l.length ∧ worseAt worse l (parent * 2 + 1) parent
    · rw [if_pos hl]
      exact .inr ⟨hleft, hl.1⟩
    · rw [if_neg hl]
      exact .inl rfl

/-- Taking the second candidate if it is worse leaves neither worse than the choice. -/
theorem worseAt_choice (hw : WorseOn S worse) {l : List α} (hS : ∀ x ∈ l, S x) {i j : Nat} (hj : j < l.length) :
    worseAt worse l i (if i < l.length ∧ worseAt worse l i j then i else j) = false ∧
      worseAt worse l j (if i < l.length ∧ worseAt worse l i j then i else j) = false := by
  have hy := List.getElem?_eq_getElem hj
  have hSy := hS _ (List.getElem_mem hj)
  by_cases h : i < l.length ∧ worseAt worse l i j
  · have hx := List.getElem?_eq_getElem h.1
    have hSx := hS _ (List.getElem_mem h.1)
    rw [if_pos h, worseAt_eq hx hx, worseAt_eq hy hx]
    have hworse := h.2
    rw [worseAt_eq hx hy] at hworse
    exact ⟨hw.irrefl hSx, hw.asymm _ _ hSx hSy hworse⟩
  · rw [if_neg h]
    refine ⟨?_, by rw [worseAt_eq hy hy]; exact hw.irrefl hSy⟩
    by_cases hi : i < l.length
    · have hnot : ¬ worseAt worse l i j = true := fun hworse => h ⟨hi, hworse⟩
      rwa [Bool.not_eq_true] at hnot
    · simp [worseAt, List.getElem?_eq_none (Nat.le_of_not_lt hi)]

/-- Neither the position nor a child of it is worse than the worst of them. -/
theorem worseAt_worstOf (hw : WorseOn S worse) {l : List α} (hS : ∀ x ∈ l, S x) {parent : Nat}
    (hparent : parent < l.length) :
    worseAt worse l parent (worstOf worse l parent) = false ∧
      ∀ child, IsChild child parent → worseAt worse l child (worstOf worse l parent) = false := by
  -- the worst of the position and its left child
  obtain ⟨hleft, hself⟩ := @worseAt_choice _ S worse hw l hS (parent * 2 + 1) parent hparent
  obtain ⟨first, hfirst⟩ : ∃ first, first =
      if parent * 2 + 1 < l.length ∧ worseAt worse l (parent * 2 + 1) parent then parent * 2 + 1 else parent :=
    ⟨_, rfl⟩
  rw [← hfirst] at hleft hself
  have hfirst_lt : first < l.length := by
    rw [hfirst]
    split
    · rename_i h
      exact h.1
    · exact hparent
  -- and of that and the right child
  obtain ⟨hright, hkept⟩ := @worseAt_choice _ S worse hw l hS (parent * 2 + 1 + 1) first hfirst_lt
  have hworst : worstOf worse l parent =
      if parent * 2 + 1 + 1 < l.length ∧ worseAt worse l (parent * 2 + 1 + 1) first then parent * 2 + 1 + 1
      else first := by
    rw [hfirst]
    rfl
  rw [← hworst] at hright hkept
  have hw_lt : worstOf worse l parent < l.length := by
    rcases worstOf_cases worse l parent with h | h
    · rw [h]
      exact hparent
    · exact h.2
  have hbelow : ∀ i, worseAt worse l i first = false → worseAt worse l i (worstOf worse l parent) = false := by
    intro i hi
    by_cases hlt : i < l.length
    · have hx := List.getElem?_eq_getElem hlt
      have hy := List.getElem?_eq_getElem hfirst_lt
      have hz := List.getElem?_eq_getElem hw_lt
      rw [worseAt_eq hx hy] at hi
      rw [worseAt_eq hy hz] at hkept
      rw [worseAt_eq hx hz]
      exact hw.trans _ _ _ (hS _ (List.getElem_mem hlt)) (hS _ (List.getElem_mem hfirst_lt))
        (hS _ (List.getElem_mem hw_lt)) hi hkept
    · simp [worseAt, List.getElem?_eq_none (Nat.le_of_not_lt hlt)]
  refine ⟨hbelow _ hself, fun child hchild => ?_⟩
  rcases hchild with rfl | rfl
  · rw [Nat.mul_comm]
    exact hbelow _ hleft
  · rw [Nat.mul_comm]
    exact hright

/-- What sifting down needs: only the pairs of the element and its children may be out of order. -/
structure DownOrder (worse : α → α → Bool) (l : List α) (hole : Nat) : Prop where
  rest : OrderedAt worse l (fun _ parent => parent ≠ hole)
  grand : Grand worse l hole

/-- An exchange with the worst child moves the element that is out of order down. -/
theorem DownOrder.move (hw : WorseOn S worse) {l : List α} (hS : ∀ x ∈ l, S x) {parent : Nat}
    (hparent : parent < l.length) (h : DownOrder worse l parent) (hne : worstOf worse l parent ≠ parent) :
    DownOrder worse (swap l parent (worstOf worse l parent)) (worstOf worse l parent) := by
  obtain ⟨hself, hchildren⟩ := worseAt_worstOf hw hS hparent
  obtain ⟨hworst, hlt⟩ := (worstOf_cases worse l parent).resolve_left hne
  generalize worstOf worse l parent = worst at *
  have hplt := hworst.lt
  have hx := List.getElem?_eq_getElem hparent
  have hy := List.getElem?_eq_getElem hlt
  have hget := getElem?_swap hparent hlt
  constructor
  · intro c p z w hc hpw hz hwp
    have hcp := hc.lt
    rw [hget] at hz hwp
    rw [if_neg hpw] at hwp
    by_cases hpp : p = parent
    · -- the children of the position, now below the worst of them
      subst hpp
      rw [if_pos rfl, hy] at hwp
      cases hwp
      by_cases hcw : c = worst
      · rw [if_pos hcw, hx] at hz
        cases hz
        rw [worseAt_eq hx hy] at hself
        exact hself
      · rw [if_neg hcw, if_neg (by omega)] at hz
        have hchild := hchildren c hc
        rw [worseAt_eq hz hy] at hchild
        exact hchild
    · rw [if_neg hpp] at hwp
      by_cases hcw : c = worst
      · subst hcw
        exact absurd (hc.unique hworst) hpp
      · rw [if_neg hcw] at hz
        by_cases hcparent : c = parent
        · subst hcparent
          rw [if_pos rfl] at hz
          exact h.grand worst p z w hworst hc hz hwp
        · rw [if_neg hcparent] at hz
          exact h.rest c p z w hc hpp hz hwp
  · intro c g z w hc hg hz hwg
    have hcw := hc.lt
    obtain rfl := hg.unique hworst
    rw [hget, if_neg (by omega), if_neg (by omega)] at hz
    rw [hget, if_neg (by omega), if_pos rfl, hy] at hwg
    cases hwg
    exact h.rest c worst z _ hc hne hz hy

theorem isHeap_siftDown (hw : WorseOn S worse) {fuel : Nat} {l : List α} {parent : Nat} (hS : ∀ x ∈ l, S x)
    (hparent : parent < l.length) (hfuel : l.length ≤ parent + fuel) (h : DownOrder worse l parent) :
    IsHeap worse (siftDown worse fuel l parent) := by
  induction fuel generalizing l parent with
  | zero => omega
  | succ fuel ih =>
    rw [siftDown]
    by_cases hworst : worstOf worse l parent = parent
    · rw [if_pos hworst]
      intro c p x y hc _ hx hy
      by_cases hpp : p = parent
      · subst hpp
        have hchild := (worseAt_worstOf hw hS hparent).2 c hc
        rw [hworst, worseAt_eq hx hy] at hchild
        exact hchild
      · exact h.rest c p x y hc hpp hx hy
    · rw [if_neg hworst]
      obtain ⟨hchild, hlt⟩ := (worstOf_cases worse l parent).resolve_left hworst
      have hdeeper := hchild.lt
      apply ih (forall_mem_swap hS _ _)
      · rw [length_swap]
        exact hlt
      · rw [length_swap]
        omega
      · exact h.move hw hS hparent hworst

/-- A new root is the only element that may be out of order. -/
theorem IsHeap.downOrder_set {l : List α} (h : IsHeap worse l) (entry : α) : DownOrder worse (l.set 0 entry) 0 := by
  constructor
  · intro c p x y hc hp hx hy
    have hlt := hc.lt
    rw [List.getElem?_set_ne (by omega)] at hx hy
    exact h c p x y hc trivial hx hy
  · intro c p x y _ hp _ _
    have hlt := hp.lt
    omega

/-- **The root is a worst element.** -/
theorem IsHeap.root (hw : WorseOn S worse) {l : List α} (hS : ∀ x ∈ l, S x) (h : IsHeap worse l) {root : α}
    (hroot : l[0]? = some root) : ∀ x ∈ l, worse x root = false := by
  intro x hx
  obtain ⟨i, hi, rfl⟩ := List.getElem_of_mem hx
  have hSroot := hS root (List.mem_of_getElem? hroot)
  induction i using Nat.strong_induction_on with
  | _ i ih =>
    by_cases hzero : i = 0
    · subst hzero
      have hsame : l[0] = root := (List.getElem?_eq_some_iff.mp hroot).2
      rw [hsame]
      exact hw.irrefl hSroot
    · have hchild := isChild_half (Nat.pos_of_ne_zero hzero)
      have hlt := hchild.lt
      have hparent : (i - 1) / 2 < l.length := by omega
      have hup := h i _ _ _ hchild trivial (List.getElem?_eq_getElem hi) (List.getElem?_eq_getElem hparent)
      exact hw.trans _ _ _ (hS _ hx) (hS _ (List.getElem_mem hparent)) hSroot hup
        (ih _ hlt hparent (List.getElem_mem hparent))

/-! ## Keeping the best -/

/-- Adds an entry to a heap of at most `limit` elements; a full one drops its root for a better entry. -/
def offer (worse : α → α → Bool) (limit : Nat) (heap : List α) (entry : α) : List α :=
  if heap.length < limit then siftUp worse (heap ++ [entry]) heap.length
  else
    match heap[0]? with
    | some root => if worse root entry then siftDown worse heap.length (heap.set 0 entry) 0 else heap
    | none => heap

/-- The heap holds the best of what was seen, as many as there is room for. -/
structure Keeps (worse : α → α → Bool) (limit : Nat) (seen heap : List α) : Prop where
  isHeap : IsHeap worse heap
  room : heap.length ≤ limit
  dropped : ∃ dropped, (heap ++ dropped).Perm seen ∧ (dropped ≠ [] → heap.length = limit) ∧
    ∀ x ∈ heap, ∀ d ∈ dropped, worse x d = false

theorem keeps_nil (worse : α → α → Bool) (limit : Nat) : Keeps worse limit [] [] where
  isHeap := fun c p x y _ _ hx _ => by simp at hx
  room := Nat.zero_le _
  dropped := ⟨[], List.Perm.refl _, fun h => absurd rfl h, by simp⟩

theorem Keeps.forall_mem {limit : Nat} {seen heap : List α} (h : Keeps worse limit seen heap)
    (hS : ∀ x ∈ seen, S x) : ∀ x ∈ heap, S x := by
  obtain ⟨dropped, hperm, -, -⟩ := h.dropped
  exact fun x hx => hS x (hperm.mem_iff.mp (List.mem_append_left _ hx))

theorem perm_set_head {l : List α} {root : α} (h : l[0]? = some root) (entry : α) :
    (root :: l.set 0 entry).Perm (l ++ [entry]) := by
  cases l with
  | nil => simp at h
  | cons head tail =>
    obtain rfl : head = root := by simpa using h
    rw [List.set_cons_zero, List.cons_append]
    exact List.Perm.cons _ (List.perm_append_singleton entry tail).symm

theorem Keeps.offer (hw : WorseOn S worse) {limit : Nat} (hlimit : 0 < limit) {seen heap : List α} {entry : α}
    (hS : ∀ x ∈ seen, S x) (hentry : S entry) (h : Keeps worse limit seen heap) :
    Keeps worse limit (seen ++ [entry]) (offer worse limit heap entry) := by
  have hSheap := h.forall_mem hS
  obtain ⟨dropped, hperm, hfull, hbest⟩ := h.dropped
  have hseen : (heap ++ [entry] ++ dropped).Perm (seen ++ [entry]) := by
    have hswap : (heap ++ [entry] ++ dropped).Perm (heap ++ dropped ++ [entry]) := by
      rw [List.append_assoc, List.append_assoc]
      exact List.Perm.append_left heap List.perm_append_comm
    exact hswap.trans (List.Perm.append_right [entry] hperm)
  unfold BinaryHeap.offer
  by_cases hroom : heap.length < limit
  · rw [if_pos hroom]
    -- nothing has been dropped as long as there is room
    have hnone : dropped = [] := by
      by_contra hdropped
      have := hfull hdropped
      omega
    subst hnone
    rw [List.append_nil] at hseen
    have hup := @siftUp_perm _ worse (heap ++ [entry]) heap.length
    have hSall : ∀ x ∈ heap ++ [entry], S x := by
      intro x hx
      rcases List.mem_append.mp hx with hx | hx
      · exact hSheap x hx
      · rw [List.mem_singleton.mp hx]
        exact hentry
    refine ⟨isHeap_siftUp hw hSall (by simp) (h.isHeap.upOrder_append entry), ?_, [], ?_, ?_, by simp⟩
    · rw [hup.length_eq, List.length_append, List.length_singleton]
      exact hroom
    · rw [List.append_nil]
      exact hup.trans hseen
    · exact fun hne => absurd rfl hne
  · rw [if_neg hroom]
    -- the heap is full, and its root is the worst of what is kept
    have hlength : heap.length = limit := by have := h.room; omega
    have hpositive : 0 < heap.length := by omega
    have hroot : heap[0]? = some heap[0] := List.getElem?_eq_getElem hpositive
    have hworst := h.isHeap.root hw hSheap hroot
    have hSroot := hSheap _ (List.getElem_mem hpositive)
    simp only [hroot]
    by_cases hbetter : worse heap[0] entry = true
    · -- the root is dropped for the entry
      rw [if_pos hbetter]
      have hdown := @siftDown_perm _ worse heap.length (heap.set 0 entry) 0
      have hreplaced := perm_set_head hroot entry
      have hmem : ∀ x ∈ heap.set 0 entry, x ∈ heap ∨ x = entry := by
        intro x hx
        have hx' := hreplaced.mem_iff.mp (List.mem_cons_of_mem _ hx)
        rcases List.mem_append.mp hx' with hx' | hx'
        · exact .inl hx'
        · exact .inr (List.mem_singleton.mp hx')
      have hSall : ∀ x ∈ heap.set 0 entry, S x := by
        intro x hx
        rcases hmem x hx with hx | rfl
        · exact hSheap x hx
        · exact hentry
      have hentry_root := hw.asymm _ _ hSroot hentry hbetter
      refine ⟨isHeap_siftDown hw hSall (by simpa using hpositive) (by simp) (h.isHeap.downOrder_set entry),
        ?_, heap[0] :: dropped, ?_, ?_, ?_⟩
      · rw [hdown.length_eq, List.length_set]
        exact h.room
      · have hall : (siftDown worse heap.length (heap.set 0 entry) 0 ++ heap[0] :: dropped).Perm
            (heap[0] :: heap.set 0 entry ++ dropped) := by
          refine List.perm_middle.trans ?_
          rw [List.cons_append]
          exact List.Perm.cons _ (List.Perm.append_right dropped hdown)
        exact hall.trans ((List.Perm.append_right dropped hreplaced).trans hseen)
      · intro _
        rw [hdown.length_eq, List.length_set]
        exact hlength
      · intro x hx d hd
        have hx' : worse x heap[0] = false := by
          rcases hmem x (hdown.mem_iff.mp hx) with hold | rfl
          · exact hworst x hold
          · exact hentry_root
        rcases List.mem_cons.mp hd with rfl | hd
        · exact hx'
        · have hSx := hSall x (hdown.mem_iff.mp hx)
          have hSd := hS d (hperm.mem_iff.mp (List.mem_append_right _ hd))
          exact hw.trans _ _ _ hSx hSroot hSd hx' (hbest _ (List.getElem_mem hpositive) d hd)
    · -- the entry is dropped
      rw [if_neg hbetter]
      rw [Bool.not_eq_true] at hbetter
      refine ⟨h.isHeap, h.room, entry :: dropped, ?_, fun _ => hlength, ?_⟩
      · rw [List.append_assoc] at hseen
        exact hseen
      · intro x hx d hd
        rcases List.mem_cons.mp hd with rfl | hd
        · exact hw.trans _ _ _ (hSheap x hx) hSroot hentry (hworst x hx) hbetter
        · exact hbest x hx d hd

/-! ## Sorting what was kept -/

/-- Sorting sorts when the relation is a total preorder on the elements of the list. -/
theorem pairwise_mergeSort_of_mem {le : α → α → Bool} {l : List α}
    (trans : ∀ a ∈ l, ∀ b ∈ l, ∀ c ∈ l, le a b → le b c → le a c)
    (total : ∀ a ∈ l, ∀ b ∈ l, le a b || le b a) : (l.mergeSort le).Pairwise (fun a b => le a b) := by
  -- the same list with the membership of its elements
  let leMember : {a // a ∈ l} → {a // a ∈ l} → Bool := fun a b => le a.1 b.1
  have hmap : (l.attach.mergeSort leMember).map Subtype.val = (l.attach.map Subtype.val).mergeSort le :=
    List.map_mergeSort (fun _ _ _ _ => rfl)
  have hsorted : (l.attach.mergeSort leMember).Pairwise (fun a b => leMember a b) :=
    List.pairwise_mergeSort (fun a b c => trans a.1 a.2 b.1 b.2 c.1 c.2) (fun a b => total a.1 a.2 b.1 b.2) l.attach
  rw [List.attach_map_subtype_val] at hmap
  rw [← hmap, List.pairwise_map]
  exact hsorted

/-- **The heap holds the first of the sorted elements**, where no two of them are level. -/
theorem Keeps.mergeSort_eq_take (hw : WorseOn S worse) {limit : Nat} {seen heap : List α} (hS : ∀ x ∈ seen, S x)
    (hlevel : ∀ x ∈ seen, ∀ y ∈ seen, worse x y = false → worse y x = false → x = y)
    (h : Keeps worse limit seen heap) :
    heap.mergeSort (fun x y => !worse x y) = (seen.mergeSort (fun x y => !worse x y)).take limit := by
  obtain ⟨dropped, hperm, hfull, hbest⟩ := h.dropped
  have htrans : ∀ l : List α, (∀ x ∈ l, S x) → ∀ a ∈ l, ∀ b ∈ l, ∀ c ∈ l,
      (!worse a b) = true → (!worse b c) = true → (!worse a c) = true := by
    intro l hl a ha b hb c hc hab hbc
    rw [Bool.not_eq_true'] at hab hbc ⊢
    exact hw.trans a b c (hl a ha) (hl b hb) (hl c hc) hab hbc
  have htotal : ∀ l : List α, (∀ x ∈ l, S x) → ∀ a ∈ l, ∀ b ∈ l, ((!worse a b) || (!worse b a)) = true := by
    intro l hl a ha b hb
    cases hab : worse a b with
    | false => rfl
    | true =>
      rw [hw.asymm a b (hl a ha) (hl b hb) hab]
      rfl
  have hSheap := h.forall_mem hS
  have hSdropped : ∀ x ∈ dropped, S x := fun x hx => hS x (hperm.mem_iff.mp (List.mem_append_right _ hx))
  -- what is kept stands before what was dropped
  have hsorted : (heap.mergeSort (fun x y => !worse x y) ++ dropped.mergeSort (fun x y => !worse x y)).Pairwise
      (fun x y => (!worse x y) = true) := by
    rw [List.pairwise_append]
    refine ⟨pairwise_mergeSort_of_mem (htrans heap hSheap) (htotal heap hSheap),
      pairwise_mergeSort_of_mem (htrans dropped hSdropped) (htotal dropped hSdropped), ?_⟩
    intro x hx d hd
    rw [List.mem_mergeSort] at hx hd
    rw [hbest x hx d hd]
    rfl
  -- a sorted order is unique where entries on one level are equal
  have hall : seen.mergeSort (fun x y => !worse x y) =
      heap.mergeSort (fun x y => !worse x y) ++ dropped.mergeSort (fun x y => !worse x y) := by
    refine List.Perm.eq_of_pairwise ?_ (pairwise_mergeSort_of_mem (htrans seen hS) (htotal seen hS)) hsorted ?_
    · intro a b ha hb hab hba
      rw [Bool.not_eq_true'] at hab hba
      rw [List.mem_mergeSort] at ha
      have hb' : b ∈ seen := by
        apply hperm.mem_iff.mp
        rcases List.mem_append.mp hb with hb | hb
        · exact List.mem_append_left _ (List.mem_mergeSort.mp hb)
        · exact List.mem_append_right _ (List.mem_mergeSort.mp hb)
      exact hlevel a ha b hb' hab hba
    · have hparts : (heap.mergeSort (fun x y => !worse x y) ++ dropped.mergeSort (fun x y => !worse x y)).Perm
          (heap ++ dropped) := (List.mergeSort_perm _ _).append (List.mergeSort_perm _ _)
      exact (List.mergeSort_perm _ _).trans (hperm.symm.trans hparts.symm)
  have hlength : (heap.mergeSort (fun x y => !worse x y)).length = heap.length := List.length_mergeSort _
  rw [hall]
  by_cases hnone : dropped = []
  · subst hnone
    have hroom := h.room
    rw [List.mergeSort_nil, List.append_nil, List.take_of_length_le (by omega)]
  · rw [← hfull hnone, ← hlength, List.take_left]

end BinaryHeap
