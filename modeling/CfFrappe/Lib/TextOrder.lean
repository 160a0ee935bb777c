import CfFrappe.Lib.Utf

set_option autoImplicit false

/-! # Where two lists first differ

Two lists are equal, or one is a proper prefix of the other, or they first differ at some
position. `DivergesBy r a b` is the third case, with `r` relating the two entries found
there. A character encoding that makes different characters diverge turns lists that
diverge into lists that diverge (`DivergesBy.flatMap`), which gives at once

* that the encoding is injective on texts (`flatMap_injective`), and
* when it is monotone on characters, that it is monotone on texts (`compare_flatMap`).

The UTF-8 encoding is of the second kind for the order of code points and the UTF-16
encoding for the order of `utf16Rank`; both are shown here.
-/

namespace TextOrder

variable {α β : Type}

/-- `a` and `b` agree up to some position, and `r` relates their entries there. -/
def DivergesBy (r : α → α → Prop) (a b : List α) : Prop := ∃ p x y s t, r x y ∧ a = p ++ x :: s ∧ b = p ++ y :: t

theorem DivergesBy.of_head {r : α → α → Prop} {x y : α} (h : r x y) (s t : List α) :
    DivergesBy r (x :: s) (y :: t) :=
  ⟨[], x, y, s, t, h, rfl, rfl⟩

theorem DivergesBy.cons {r : α → α → Prop} {a b : List α} (z : α) (h : DivergesBy r a b) :
    DivergesBy r (z :: a) (z :: b) := by
  obtain ⟨p, x, y, s, t, hr, rfl, rfl⟩ := h
  exact ⟨z :: p, x, y, s, t, hr, rfl, rfl⟩

/-- Where the heads of two lists are known, a divergence is at them or after them. -/
theorem divergesBy_cons_cons {r : α → α → Prop} {x y : α} {s t : List α} :
    DivergesBy r (x :: s) (y :: t) ↔ r x y ∨ (x = y ∧ DivergesBy r s t) := by
  constructor
  · rintro ⟨p, x', y', s', t', hr, ha, hb⟩
    cases p with
    | nil =>
      rw [List.nil_append, List.cons.injEq] at ha hb
      exact Or.inl (by rw [ha.1, hb.1]; exact hr)
    | cons z p =>
      rw [List.cons_append, List.cons.injEq] at ha hb
      exact Or.inr ⟨ha.1.trans hb.1.symm, p, x', y', s', t', hr, ha.2, hb.2⟩
  · rintro (h | ⟨rfl, h⟩)
    · exact DivergesBy.of_head h s t
    · exact h.cons x

theorem DivergesBy.append {r : α → α → Prop} {a b : List α} (h : DivergesBy r a b)
    (u v : List α) : DivergesBy r (a ++ u) (b ++ v) := by
  obtain ⟨p, x, y, s, t, hr, rfl, rfl⟩ := h
  exact ⟨p, x, y, s ++ u, t ++ v, hr, by simp, by simp⟩

theorem DivergesBy.mono {r r' : α → α → Prop} {a b : List α} (h : DivergesBy r a b)
    (hr : ∀ x ∈ a, ∀ y ∈ b, r x y → r' x y) : DivergesBy r' a b := by
  obtain ⟨p, x, y, s, t, hxy, rfl, rfl⟩ := h
  exact ⟨p, x, y, s, t, hr x (by simp) y (by simp) hxy, rfl, rfl⟩

/-- Lists that diverge by different entries are different. -/
theorem DivergesBy.ne {a b : List α} (h : DivergesBy (· ≠ ·) a b) : a ≠ b := by
  obtain ⟨p, x, y, s, t, hr, rfl, rfl⟩ := h
  simp [hr]

/-- Encoding the entries keeps a divergence, if it makes the entries diverge. -/
theorem DivergesBy.flatMap {r : α → α → Prop} {r' : β → β → Prop} {f : α → List β}
    (hf : ∀ x y, r x y → DivergesBy r' (f x) (f y)) {a b : List α} (h : DivergesBy r a b) :
    DivergesBy r' (a.flatMap f) (b.flatMap f) := by
  obtain ⟨p, x, y, s, t, hr, rfl, rfl⟩ := h
  obtain ⟨q, x', y', s', t', hr', hx, hy⟩ := hf x y hr
  exact ⟨p.flatMap f ++ q, x', y', s' ++ s.flatMap f, t' ++ t.flatMap f, hr', by simp [hx], by simp [hy]⟩

/-- Two lists are equal, one properly extends the other, or they diverge. -/
theorem eq_or_prefix_or_diverges [DecidableEq α] (a b : List α) :
    a = b ∨ (∃ z c, b = a ++ z :: c) ∨ (∃ z c, a = b ++ z :: c) ∨ DivergesBy (· ≠ ·) a b := by
  induction a generalizing b with
  | nil =>
    cases b with
    | nil => exact Or.inl rfl
    | cons y t => exact Or.inr (Or.inl ⟨y, t, rfl⟩)
  | cons x s ih =>
    cases b with
    | nil => exact Or.inr (Or.inr (Or.inl ⟨x, s, rfl⟩))
    | cons y t =>
      by_cases hxy : x = y
      · subst hxy
        rcases ih t with h | ⟨z, c, h⟩ | ⟨z, c, h⟩ | h
        · exact Or.inl (by rw [h])
        · exact Or.inr (Or.inl ⟨z, c, by rw [h]; rfl⟩)
        · exact Or.inr (Or.inr (Or.inl ⟨z, c, by rw [h]; rfl⟩))
        · exact Or.inr (Or.inr (Or.inr (h.cons x)))
      · exact Or.inr (Or.inr (Or.inr (DivergesBy.of_head hxy s t)))

/-! ## Encodings that separate characters -/

/-- **An encoding that makes different characters diverge is injective on texts.** -/
theorem flatMap_injective [DecidableEq α] {f : α → List β} {P : α → Prop}
    (hne : ∀ x, f x ≠ []) (hf : ∀ x y, P x → P y → x ≠ y → DivergesBy (· ≠ ·) (f x) (f y))
    {a b : List α} (ha : ∀ x ∈ a, P x) (hb : ∀ x ∈ b, P x) (h : a.flatMap f = b.flatMap f) :
    a = b := by
  rcases eq_or_prefix_or_diverges a b with hab | ⟨z, c, rfl⟩ | ⟨z, c, rfl⟩ | hd
  · exact hab
  · simp [hne z] at h
  · simp [hne z] at h
  · obtain ⟨p, x, y, s, t, hxy, rfl, rfl⟩ := hd
    have hd := hf x y (ha x (by simp)) (hb y (by simp)) hxy
    simp only [List.flatMap_append, List.flatMap_cons] at h
    exact absurd (List.append_cancel_left h) (hd.append _ _).ne

/-! ## Lexicographic comparison -/

/-- Comparing lists with a common beginning compares what follows it. -/
theorem compare_append_left (p a b : List Nat) : compare (p ++ a) (p ++ b) = compare a b := by
  induction p with
  | nil => rfl
  | cons x p ih =>
    rw [List.cons_append, List.cons_append, List.compare_cons_cons, ih]
    simp

theorem DivergesBy.compare_eq_lt {a b : List Nat} (h : DivergesBy (· < ·) a b) : compare a b = .lt := by
  obtain ⟨p, x, y, s, t, hr, rfl, rfl⟩ := h
  have hxy : compare x y = .lt := Nat.compare_eq_lt.2 hr
  rw [compare_append_left, List.compare_cons_cons, hxy]
  rfl

theorem compare_swap_lt {a b : List Nat} (h : compare a b = .lt) : compare b a = .gt := by
  rw [Std.OrientedOrd.eq_swap, h]
  rfl

theorem compare_extension (a : List Nat) (z : Nat) (c : List Nat) : compare a (a ++ z :: c) = .lt := by
  have h := compare_append_left a [] (z :: c)
  rw [List.append_nil] at h
  rw [h]
  rfl

/-- The comparison of two lists that diverge is the one of the entries found there. -/
theorem compare_of_diverges (p : List Nat) {x y : Nat} (hxy : x ≠ y) (s t : List Nat) :
    compare (p ++ x :: s) (p ++ y :: t) = compare x y := by
  rw [compare_append_left, List.compare_cons_cons]
  cases h : compare x y with
  | lt => rfl
  | gt => rfl
  | eq => exact absurd (Nat.compare_eq_eq.1 h) hxy

/-- **A monotone encoding of characters is monotone on texts**: where `rank` orders the
characters as the encoding orders their codes, the encoded texts compare as the ranks do. -/
theorem compare_flatMap {f : Nat → List Nat} (rank : Nat → Nat) (P : Nat → Prop)
    (hne : ∀ x, f x ≠ []) (hinj : ∀ x y, P x → P y → rank x = rank y → x = y)
    (hf : ∀ x y, P x → P y → rank x < rank y → DivergesBy (· < ·) (f x) (f y))
    (a b : List Nat) (ha : ∀ x ∈ a, P x) (hb : ∀ x ∈ b, P x) :
    compare (a.flatMap f) (b.flatMap f) = compare (a.map rank) (b.map rank) := by
  rcases eq_or_prefix_or_diverges a b with rfl | ⟨z, c, rfl⟩ | ⟨z, c, rfl⟩ | hd
  · simp
  · obtain ⟨w, ws, hw⟩ := List.exists_cons_of_ne_nil (hne z)
    rw [List.flatMap_append, List.flatMap_cons, hw, List.cons_append, compare_extension,
      List.map_append, List.map_cons, compare_extension]
  · obtain ⟨w, ws, hw⟩ := List.exists_cons_of_ne_nil (hne z)
    rw [List.flatMap_append, List.flatMap_cons, hw, List.cons_append,
      compare_swap_lt (compare_extension _ _ _), List.map_append, List.map_cons,
      compare_swap_lt (compare_extension _ _ _)]
  · obtain ⟨p, x, y, s, t, hxy, rfl, rfl⟩ := hd
    have hx := ha x (by simp)
    have hy := hb y (by simp)
    have hr : rank x ≠ rank y := fun h => hxy (hinj x y hx hy h)
    simp only [List.flatMap_append, List.flatMap_cons, List.map_append, List.map_cons]
    rw [compare_append_left, compare_of_diverges _ hr]
    rcases Nat.lt_or_gt_of_ne hr with h | h
    · rw [((hf x y hx hy h).append _ _).compare_eq_lt, Nat.compare_eq_lt.2 h]
    · rw [compare_swap_lt ((hf y x hy hx h).append _ _).compare_eq_lt, Nat.compare_eq_gt.2 h]

end TextOrder

/-! ## The two encodings of Unicode text -/

namespace Utf

open TextOrder

/-- UTF-8 orders the characters by their code points. -/
theorem utf8_diverges {x y : Nat} (h : x < y) (hy : y < 0x110000) : DivergesBy (· < ·) (utf8 x) (utf8 y) := by
  simp only [utf8]
  split_ifs <;> simp only [divergesBy_cons_cons] <;> omega

/-- **UTF-8 text compares as its code points do.** -/
theorem compare_flatMap_utf8 (a b : List Nat) (ha : ∀ c ∈ a, c < 0x110000)
    (hb : ∀ c ∈ b, c < 0x110000) :
    compare (a.flatMap utf8) (b.flatMap utf8) = compare a b := by
  have h := compare_flatMap id (fun c => c < 0x110000) utf8_ne_nil
    (fun _ _ _ _ h => h) (fun _ _ _ hy h => utf8_diverges h hy) a b ha hb
  simpa using h

/-- JavaScript's order of strings: by their code units. -/
def compareCodeUnits (s t : JsString) : Ordering := compare (s.map UInt16.toNat) (t.map UInt16.toNat)

/-- The order of UTF-16 on characters: those in U+E000..U+FFFF come after the ones written
with surrogates. -/
def utf16Rank (c : Nat) : Nat := if 0xE000 ≤ c ∧ c < 0x10000 then c + 0x110000 else c

/-- A code point that is not a surrogate. -/
def IsScalar (c : Nat) : Prop := c < 0x110000 ∧ isSurrogatePoint c = false

theorem WellFormed.isScalar {s : JsString} (h : WellFormed s) : ∀ c ∈ codePoints s, IsScalar c :=
  fun c hc => ⟨codePoints_lt s c hc, h c hc⟩

theorem utf16_diverges {x y : Nat} (h : utf16Rank x < utf16Rank y) (hx : IsScalar x)
    (hy : IsScalar y) :
    DivergesBy (· < ·) ((utf16 x).map UInt16.toNat) ((utf16 y).map UInt16.toNat) := by
  simp only [IsScalar, isSurrogatePoint, Bool.and_eq_false_iff, decide_eq_false_iff_not] at hx hy
  simp only [utf16Rank] at h
  simp only [utf16]
  split_ifs at h ⊢ <;>
    simp only [List.map_cons, List.map_nil, divergesBy_cons_cons, UInt16.toNat_ofNat'] <;> omega

theorem utf16_ne_nil (c : Nat) : (utf16 c).map UInt16.toNat ≠ [] := by
  simp only [utf16]
  split <;> simp

theorem utf16Rank_injective {x y : Nat} (hx : IsScalar x) (hy : IsScalar y)
    (h : utf16Rank x = utf16Rank y) : x = y := by
  simp only [IsScalar] at hx hy
  simp only [utf16Rank] at h
  split_ifs at h <;> omega

/-- **Code units compare as the characters do in the order of `utf16Rank`.** -/
theorem compareCodeUnits_eq {s t : JsString} (hs : WellFormed s) (ht : WellFormed t) :
    compareCodeUnits s t = compare ((codePoints s).map utf16Rank) ((codePoints t).map utf16Rank) := by
  have h := compare_flatMap utf16Rank IsScalar utf16_ne_nil
    (fun _ _ hx hy h => utf16Rank_injective hx hy h) (fun _ _ hx hy h => utf16_diverges h hx hy)
    (codePoints s) (codePoints t) hs.isScalar ht.isScalar
  rw [← h, ← List.map_flatMap, ← List.map_flatMap, flatMap_utf16_codePoints, flatMap_utf16_codePoints]
  rfl

/-- **The UTF-8 bytes of well-formed strings compare as their code points do.** -/
theorem compare_textEncode {s t : JsString} (hs : WellFormed s) (ht : WellFormed t) :
    compare (textEncode s) (textEncode t) = compare (codePoints s) (codePoints t) := by
  rw [textEncode_of_wellFormed hs, textEncode_of_wellFormed ht]
  exact compare_flatMap_utf8 _ _ (codePoints_lt s) (codePoints_lt t)

theorem textEncode_injective {s t : JsString} (hs : WellFormed s) (ht : WellFormed t)
    (h : textEncode s = textEncode t) : s = t := by
  have hc : compare (codePoints s) (codePoints t) = .eq := by
    rw [← compare_textEncode hs ht, h]
    exact Std.ReflOrd.compare_self
  exact codePoints_injective (Std.LawfulEqOrd.eq_of_compare hc)

/-! ## Where the two orders of strings differ -/

/-- The characters two texts first differ in, when both have one there. -/
def firstDifference : List Nat → List Nat → Option (Nat × Nat)
  | x :: a, y :: b => if x = y then firstDifference a b else some (x, y)
  | _, _ => none

theorem firstDifference_append (p a b : List Nat) : firstDifference (p ++ a) (p ++ b) = firstDifference a b := by
  induction p with
  | nil => rfl
  | cons z p ih => simp [firstDifference, ih]

/-- A character written with surrogates. -/
def isAstral (c : Nat) : Bool := 0x10000 ≤ c

/-- A character of the basic plane that UTF-16 orders after the surrogates. -/
def isAboveSurrogates (c : Nat) : Bool := 0xE000 ≤ c && c < 0x10000

/-- The two strings first differ in an astral character and one in U+E000..U+FFFF. -/
def surrogateInversion (s t : JsString) : Bool :=
  match firstDifference (codePoints s) (codePoints t) with
  | some (x, y) => (isAstral x && isAboveSurrogates y) || (isAboveSurrogates x && isAstral y)
  | none => false

theorem compare_utf16Rank {x y : Nat} (hx : IsScalar x) (hy : IsScalar y) (hxy : x ≠ y) :
    compare (utf16Rank x) (utf16Rank y) = compare x y ↔
      ((isAstral x && isAboveSurrogates y) || (isAboveSurrogates x && isAstral y)) = false := by
  have hr : utf16Rank x ≠ utf16Rank y := fun h => hxy (utf16Rank_injective hx hy h)
  have hiff : compare (utf16Rank x) (utf16Rank y) = compare x y ↔ (utf16Rank x < utf16Rank y ↔ x < y) := by
    rcases Nat.lt_or_gt_of_ne hr with h | h <;> rcases Nat.lt_or_gt_of_ne hxy with h' | h'
    · rw [Nat.compare_eq_lt.2 h, Nat.compare_eq_lt.2 h']
      simp [h, h']
    · rw [Nat.compare_eq_lt.2 h, Nat.compare_eq_gt.2 h']
      simp [h, Nat.not_lt_of_gt h']
    · rw [Nat.compare_eq_gt.2 h, Nat.compare_eq_lt.2 h']
      simp [h', Nat.not_lt_of_gt h]
    · rw [Nat.compare_eq_gt.2 h, Nat.compare_eq_gt.2 h']
      simp [Nat.not_lt_of_gt h, Nat.not_lt_of_gt h']
  rw [hiff]
  simp only [IsScalar] at hx hy
  simp only [utf16Rank, isAstral, isAboveSurrogates, Bool.or_eq_false_iff, Bool.and_eq_false_iff,
    decide_eq_false_iff_not]
  split_ifs <;> omega

/-- **Code units order two well-formed strings as UTF-8 bytes do, exactly when they do not
first differ in an astral character and one in U+E000..U+FFFF.** -/
theorem compareCodeUnits_eq_compare_iff {s t : JsString} (hs : WellFormed s) (ht : WellFormed t) :
    compareCodeUnits s t = compare (textEncode s) (textEncode t) ↔ surrogateInversion s t = false := by
  rw [compareCodeUnits_eq hs ht, compare_textEncode hs ht, surrogateInversion]
  rcases eq_or_prefix_or_diverges (codePoints s) (codePoints t) with h | ⟨z, c, h⟩ | ⟨z, c, h⟩ | hd
  · have hnone := firstDifference_append (codePoints t) [] []
    rw [List.append_nil] at hnone
    rw [h, hnone]
    simp [firstDifference]
  · have hnone := firstDifference_append (codePoints s) [] (z :: c)
    rw [List.append_nil] at hnone
    rw [h, hnone, List.map_append, List.map_cons, compare_extension, compare_extension]
    simp [firstDifference]
  · have hnone := firstDifference_append (codePoints t) (z :: c) []
    rw [List.append_nil] at hnone
    rw [h, hnone, List.map_append, List.map_cons, compare_swap_lt (compare_extension _ _ _),
      compare_swap_lt (compare_extension _ _ _)]
    simp [firstDifference]
  · obtain ⟨p, x, y, a, b, hxy, ha, hb⟩ := hd
    have hx := hs.isScalar x (by simp [ha])
    have hy := ht.isScalar y (by simp [hb])
    have hr : utf16Rank x ≠ utf16Rank y := fun h => hxy (utf16Rank_injective hx hy h)
    rw [ha, hb, firstDifference_append, compare_of_diverges p hxy, List.map_append, List.map_append,
      List.map_cons, List.map_cons, compare_of_diverges _ hr, compare_utf16Rank hx hy hxy,
      firstDifference, if_neg hxy]

end Utf
