import Mathlib.Data.List.Sort

set_option autoImplicit false

/-! # Normal forms of lists

Two ways to write a list in a normal form, and for each that a normal form is left as it is: a set of
names as a sorted list without repetitions, and a text without blanks at its ends.
-/

/-! ## Sorted lists without repetitions -/

/-- A comparison by what `f` takes from its arguments. -/
theorem transCmp_on {α β : Type} {cmp : β → β → Ordering} [Std.TransCmp cmp] (f : α → β) :
    Std.TransCmp (fun left right => cmp (f left) (f right)) :=
  { eq_swap := Std.OrientedCmp.eq_swap
    isLE_trans := fun h h' => @Std.TransCmp.isLE_trans _ cmp _ _ _ _ h h' }

theorem nodup_eraseDups {α : Type} [BEq α] [LawfulBEq α] (l : List α) : l.eraseDups.Nodup := by
  induction hn : l.length using Nat.strong_induction_on generalizing l with
  | _ n ih =>
    cases l with
    | nil => exact List.nodup_nil
    | cons a l =>
      rw [List.eraseDups_cons, List.nodup_cons]
      constructor
      · rw [List.mem_eraseDups, List.mem_filter]
        simp
      · apply ih _ _ _ rfl
        rw [← hn, List.length_cons]
        exact Nat.lt_succ_of_le (List.length_filter_le _ _)

theorem eraseDups_of_nodup {α : Type} [BEq α] [LawfulBEq α] {l : List α} (h : l.Nodup) : l.eraseDups = l := by
  induction l with
  | nil => rfl
  | cons a l ih =>
    rw [List.nodup_cons] at h
    have hfilter : l.filter (fun b => !b == a) = l := by
      apply List.filter_eq_self.mpr
      intro b hb
      have hne : b ≠ a := fun hab => h.1 (hab ▸ hb)
      simpa using hne
    rw [List.eraseDups_cons, hfilter, ih h.2]

theorem pairwise_insertionSort_compare {α : Type} (cmp : α → α → Ordering) [Std.TransCmp cmp] (l : List α) :
    (l.insertionSort (fun a b => cmp a b ≠ .gt)).Pairwise (fun a b => cmp a b ≠ .gt) := by
  have htotal : Std.Total (fun a b => cmp a b ≠ .gt) := by
    constructor
    intro a b
    by_cases hab : cmp a b = .gt
    · right
      rw [Std.OrientedCmp.lt_of_gt hab]
      decide
    · exact Or.inl hab
  have htrans : IsTrans α (fun a b => cmp a b ≠ .gt) := by
    constructor
    intro a b c hab hbc
    have hle : (cmp a b).isLE := Ordering.isLE_iff_ne_gt.mpr hab
    have hle' : (cmp b c).isLE := Ordering.isLE_iff_ne_gt.mpr hbc
    exact Ordering.isLE_iff_ne_gt.mp (Std.TransCmp.isLE_trans hle hle')
  exact List.pairwise_insertionSort _ l

section SortedSets

variable {α : Type} [BEq α] (cmp : α → α → Ordering)

/-- The elements of a list once each, in order. -/
def sortedSet (l : List α) : List α := l.eraseDups.insertionSort (fun a b => cmp a b ≠ .gt)

theorem mem_sortedSet [LawfulBEq α] {l : List α} {a : α} : a ∈ sortedSet cmp l ↔ a ∈ l := by
  rw [sortedSet, List.mem_insertionSort, List.mem_eraseDups]

theorem sortedSet_sortedSet [LawfulBEq α] [Std.TransCmp cmp] (l : List α) : sortedSet cmp (sortedSet cmp l) = sortedSet cmp l := by
  have hnodup : (sortedSet cmp l).Nodup := (List.perm_insertionSort _ _).nodup_iff.mpr (nodup_eraseDups l)
  have hsorted := pairwise_insertionSort_compare cmp l.eraseDups
  calc sortedSet cmp (sortedSet cmp l)
      = (sortedSet cmp l).insertionSort (fun a b => cmp a b ≠ .gt) := by
        rw [sortedSet, eraseDups_of_nodup hnodup]
    _ = sortedSet cmp l := hsorted.insertionSort_eq

end SortedSets

/-! ## Lists without blanks at their ends -/

section Trimmed

variable {α : Type} (blank : α → Bool)

/-- Neither end of the list is a blank. -/
structure Trimmed (l : List α) : Prop where
  head : l.head?.any blank = false
  last : l.getLast?.any blank = false

variable {blank}

theorem dropWhile_eq_self {l : List α} (h : l.head?.any blank = false) : l.dropWhile blank = l := by
  cases l with
  | nil => rfl
  | cons a l => exact List.dropWhile_cons_of_neg (by simpa using h)

theorem head?_dropWhile (l : List α) : (l.dropWhile blank).head?.any blank = false := by
  induction l with
  | nil => rfl
  | cons a l ih =>
    rw [List.dropWhile_cons]
    split_ifs with ha
    · exact ih
    · simpa using ha

theorem getLast?_dropWhile {l : List α} (h : l.getLast?.any blank = false) :
    (l.dropWhile blank).getLast?.any blank = false := by
  induction l with
  | nil => rfl
  | cons a l ih =>
    rw [List.dropWhile_cons]
    split_ifs with ha
    · apply ih
      cases l with
      | nil => rfl
      | cons b l => rwa [List.getLast?_cons_cons] at h
    · exact h

/-- Dropping the blanks at both ends. -/
theorem trimmed_dropWhile (l : List α) : Trimmed blank ((l.dropWhile blank).reverse.dropWhile blank).reverse := by
  constructor
  · rw [List.head?_reverse]
    apply getLast?_dropWhile
    rw [List.getLast?_reverse]
    exact head?_dropWhile l
  · rw [List.getLast?_reverse]
    exact head?_dropWhile _

theorem Trimmed.dropWhile_eq {l : List α} (h : Trimmed blank l) :
    ((l.dropWhile blank).reverse.dropWhile blank).reverse = l := by
  have hlast : l.reverse.head?.any blank = false := by
    rw [List.head?_reverse]
    exact h.last
  rw [dropWhile_eq_self h.head, dropWhile_eq_self hlast, List.reverse_reverse]

end Trimmed
