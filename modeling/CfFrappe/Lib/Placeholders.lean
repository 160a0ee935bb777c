import Mathlib.Data.List.Infix
import Mathlib.Data.List.Count

set_option autoImplicit false

/-! # Placeholders in texts

A text is read as pieces: units, and slots where a placeholder stands (`pieces`). Filling a slot puts units in
its place (`fill`). A program that fills one placeholder after the other replaces matches in the plain text
(`replaceWith`), so it does what is meant only if a placeholder stands nowhere but in its slots
(`StandsInSlots`). Every unit has a mark that says where it comes from: counting the units with some marks tells
whether a replacement has touched anything else (`standsInSlots_of_kept`).
-/

namespace Placeholders

variable {α ς σ : Type}

/-- A unit with its mark, or a slot. -/
inductive Piece (α ς σ : Type)
  | unit (u : α) (mark : ς)
  | slot (s : σ)
  deriving DecidableEq

section Texts

variable (placeholder : σ → List α) (own : ς)

/-- The marked units of a piece; those of a placeholder have a mark of their own. -/
def Piece.marked : Piece α ς σ → List (α × ς)
  | .unit u mark => [(u, mark)]
  | .slot s => (placeholder s).map (fun u => (u, own))

def marked (ps : List (Piece α ς σ)) : List (α × ς) := ps.flatMap (Piece.marked placeholder own)

/-- The text without its marks. -/
def units (m : List (α × ς)) : List α := m.map Prod.fst

/-- The number of units whose mark is one of some. -/
def kept (p : ς → Bool) (m : List (α × ς)) : Nat := m.countP (fun u => p u.2)

theorem units_append (m m' : List (α × ς)) : units (m ++ m') = units m ++ units m' := List.map_append

theorem kept_append (p : ς → Bool) (m m' : List (α × ς)) : kept p (m ++ m') = kept p m + kept p m' :=
  List.countP_append

theorem kept_cons (p : ς → Bool) (u : α × ς) (m : List (α × ς)) : kept p (u :: m) = kept p [u] + kept p m := by
  rw [← kept_append, List.singleton_append]

theorem units_map_mark (text : List α) (mark : ς) : units (text.map (fun u => (u, mark))) = text := by
  rw [units, List.map_map]
  exact List.map_id _

theorem kept_map_mark (p : ς → Bool) (text : List α) (mark : ς) :
    kept p (text.map (fun u => (u, mark))) = if p mark then text.length else 0 := by
  rw [kept, List.countP_map]
  split_ifs with hp
  · rw [List.countP_eq_length]
    intro u _
    exact hp
  · rw [List.countP_eq_zero]
    intro u _
    exact hp

/-- The text of a piece. -/
def Piece.text : Piece α ς σ → List α
  | .unit u _ => [u]
  | .slot s => placeholder s

def text (ps : List (Piece α ς σ)) : List α := ps.flatMap (Piece.text placeholder)

theorem text_cons (piece : Piece α ς σ) (ps : List (Piece α ς σ)) :
    text placeholder (piece :: ps) = piece.text placeholder ++ text placeholder ps := List.flatMap_cons

theorem marked_cons (piece : Piece α ς σ) (ps : List (Piece α ς σ)) :
    marked placeholder own (piece :: ps) = piece.marked placeholder own ++ marked placeholder own ps :=
  List.flatMap_cons

end Texts

theorem units_piece (placeholder : σ → List α) (own : ς) (piece : Piece α ς σ) :
    units (piece.marked placeholder own) = piece.text placeholder := by
  cases piece with
  | unit u mark => rfl
  | slot s => exact units_map_mark _ _

theorem units_marked (placeholder : σ → List α) (own : ς) (ps : List (Piece α ς σ)) :
    units (marked placeholder own ps) = text placeholder ps := by
  induction ps with
  | nil => rfl
  | cons piece ps ih => rw [marked_cons, units_append, units_piece, ih, text_cons]

/-! ## Filling slots -/

section Fill

variable [DecidableEq σ] (s : σ) (value : List (α × ς))

def Piece.fill : Piece α ς σ → List (Piece α ς σ)
  | .unit u mark => [.unit u mark]
  | .slot t => if t = s then value.map (fun u => .unit u.1 u.2) else [.slot t]

/-- Marked units in place of a slot. -/
def fill (ps : List (Piece α ς σ)) : List (Piece α ς σ) := ps.flatMap (Piece.fill s value)

theorem fill_cons (piece : Piece α ς σ) (ps : List (Piece α ς σ)) :
    fill s value (piece :: ps) = piece.fill s value ++ fill s value ps := List.flatMap_cons

omit [DecidableEq σ] in
theorem marked_units (placeholder : σ → List α) (own : ς) (m : List (α × ς)) :
    marked placeholder own (m.map (fun u => (.unit u.1 u.2 : Piece α ς σ))) = m := by
  induction m with
  | nil => rfl
  | cons u m ih =>
    rw [List.map_cons, marked_cons, ih]
    rfl

omit [DecidableEq σ] in
theorem marked_append (placeholder : σ → List α) (own : ς) (ps ps' : List (Piece α ς σ)) :
    marked placeholder own (ps ++ ps') = marked placeholder own ps ++ marked placeholder own ps' := List.flatMap_append

/-- The slots of some pieces. -/
def slots (ps : List (Piece α ς σ)) : Nat := ps.countP (fun piece =>
  match piece with
  | .slot t => t = s
  | .unit _ _ => false)

theorem slots_unit (u : α) (mark : ς) (ps : List (Piece α ς σ)) : slots s (.unit u mark :: ps) = slots s ps :=
  List.countP_cons_of_neg (by simp)

theorem slots_self (ps : List (Piece α ς σ)) : slots s (.slot s :: ps) = slots s ps + 1 :=
  List.countP_cons_of_pos (by simp)

theorem slots_of_ne {t : σ} (h : t ≠ s) (ps : List (Piece α ς σ)) : slots s (.slot t :: ps) = slots s ps :=
  List.countP_cons_of_neg (by simpa using h)

/-- Filling leaves the other slots. -/
theorem slots_fill_of_ne {t : σ} (h : t ≠ s) (ps : List (Piece α ς σ)) : slots t (fill s value ps) = slots t ps := by
  induction ps with
  | nil => rfl
  | cons piece ps ih =>
    have hvalue : ∀ m : List (α × ς), slots t (m.map (fun u => .unit u.1 u.2) ++ fill s value ps) =
        slots t (fill s value ps) := by
      intro m
      induction m with
      | nil => rfl
      | cons u m ihm => rw [List.map_cons, List.cons_append, slots_unit, ihm]
    rw [fill_cons]
    cases piece with
    | unit u mark => rw [Piece.fill, List.singleton_append, slots_unit, slots_unit, ih]
    | slot r =>
      by_cases hr : r = s
      · rw [Piece.fill, if_pos hr, hvalue, ih, slots_of_ne t (fun heq => h (heq.symm.trans hr))]
      · rw [Piece.fill, if_neg hr, List.singleton_append]
        by_cases hrt : r = t
        · rw [hrt, slots_self, slots_self, ih]
        · rw [slots_of_ne t hrt, slots_of_ne t hrt, ih]

/-- Filling adds the units of the value for each slot. -/
theorem kept_fill {placeholder : σ → List α} {own : ς} {p : ς → Bool} (hown : p own = false)
    (ps : List (Piece α ς σ)) :
    kept p (marked placeholder own (fill s value ps)) =
      kept p (marked placeholder own ps) + slots s ps * kept p value := by
  induction ps with
  | nil => exact (Nat.zero_add _).symm.trans (congrArg (0 + ·) (Nat.zero_mul _).symm)
  | cons piece ps ih =>
    rw [fill_cons, marked_append, kept_append, ih, marked_cons, kept_append]
    cases piece with
    | unit u mark =>
      rw [slots_unit, Piece.fill, marked_cons, kept_append]
      show kept p [(u, mark)] + 0 + _ = kept p [(u, mark)] + _ + _
      omega
    | slot t =>
      have hplaceholder : kept p ((placeholder t).map (fun u => (u, own))) = 0 := by
        rw [kept_map_mark, hown]
        rfl
      by_cases hst : t = s
      · subst hst
        rw [Piece.fill, if_pos rfl, marked_units, slots_self, Piece.marked, hplaceholder, Nat.succ_mul]
        omega
      · rw [Piece.fill, if_neg hst, slots_of_ne s hst, marked_cons, kept_append, Piece.marked, hplaceholder]
        show 0 + 0 + _ = 0 + _ + _
        omega

end Fill

/-! ## Filling all slots at once -/

section Substitute

variable [DecidableEq σ] (values : σ → List (α × ς))

def Piece.substitute : Piece α ς σ → List (α × ς)
  | .unit u mark => [(u, mark)]
  | .slot s => values s

/-- Every slot has its value, and nothing else changes. -/
def substitute (ps : List (Piece α ς σ)) : List (α × ς) := ps.flatMap (Piece.substitute values)

omit [DecidableEq σ] in
theorem substitute_cons (piece : Piece α ς σ) (ps : List (Piece α ς σ)) :
    substitute values (piece :: ps) = piece.substitute values ++ substitute values ps := List.flatMap_cons

/-- Filling a slot first makes no difference. -/
theorem substitute_fill (s : σ) (ps : List (Piece α ς σ)) :
    substitute values (fill s (values s) ps) = substitute values ps := by
  induction ps with
  | nil => rfl
  | cons piece ps ih =>
    rw [fill_cons, substitute, List.flatMap_append, ← substitute, ← substitute, ih, substitute_cons]
    congr 1
    cases piece with
    | unit u mark => exact List.append_nil _
    | slot t =>
      by_cases hst : t = s
      · subst hst
        rw [Piece.fill, if_pos rfl]
        -- a value has no slots
        have hvalue : ∀ m : List (α × ς), substitute values (m.map (fun u => .unit u.1 u.2)) = m := by
          intro m
          induction m with
          | nil => rfl
          | cons u m ihm =>
            rw [List.map_cons, substitute_cons, ihm]
            rfl
        exact hvalue (values t)
      · rw [Piece.fill, if_neg hst]
        exact List.append_nil _

omit [DecidableEq σ] in
theorem substitute_of_no_slot (placeholder : σ → List α) (own : ς) {ps : List (Piece α ς σ)}
    (h : ∀ s, .slot s ∉ ps) : substitute values ps = marked placeholder own ps := by
  induction ps with
  | nil => rfl
  | cons piece ps ih =>
    have hrest : ∀ s, .slot s ∉ ps := fun s hmem => h s (List.mem_cons_of_mem _ hmem)
    rw [substitute_cons, marked_cons, ih hrest]
    cases piece with
    | unit u mark => rfl
    | slot t => exact absurd List.mem_cons_self (h t)

/-- The slots that are left are other ones. -/
theorem slot_mem_fill {s t : σ} {value : List (α × ς)} {ps : List (Piece α ς σ)}
    (h : .slot t ∈ fill s value ps) : t ≠ s ∧ .slot t ∈ ps := by
  rw [fill, List.mem_flatMap] at h
  obtain ⟨piece, hpiece, hin⟩ := h
  cases piece with
  | unit u mark =>
    rw [Piece.fill, List.mem_singleton] at hin
    cases hin
  | slot r =>
    rw [Piece.fill] at hin
    split_ifs at hin with hr
    · obtain ⟨u, _, hu⟩ := List.mem_map.mp hin
      cases hu
    · rw [List.mem_singleton] at hin
      cases hin
      exact ⟨hr, hpiece⟩

/-- The units of a filled text are those of the text and of the value. -/
theorem unit_mem_fill {s : σ} {value : List (α × ς)} {ps : List (Piece α ς σ)} {u : α} {mark : ς}
    (h : .unit u mark ∈ fill s value ps) : .unit u mark ∈ ps ∨ (u, mark) ∈ value := by
  rw [fill, List.mem_flatMap] at h
  obtain ⟨piece, hpiece, hin⟩ := h
  cases piece with
  | unit v m =>
    rw [Piece.fill, List.mem_singleton] at hin
    rw [hin]
    exact Or.inl hpiece
  | slot r =>
    rw [Piece.fill] at hin
    split_ifs at hin
    · obtain ⟨v, hv, heq⟩ := List.mem_map.mp hin
      cases heq
      exact Or.inr hv
    · rw [List.mem_singleton] at hin
      cases hin

end Substitute

/-! ## Replacing matches -/

section Replace

variable [BEq α] [LawfulBEq α]

/-- Every match of a pattern that is not empty, from the left, is replaced by what the texts before and after it
give; `skip` counts the rest of a match. -/
def replaceWith (pattern : List α) (replacement : List α → List α → List (α × ς)) (before : List α)
    (skip : Nat) : List (α × ς) → List (α × ς)
  | [] => []
  | u :: m =>
    if skip = 0 then
      if pattern.isPrefixOf (units (u :: m)) then
        replacement before ((units (u :: m)).drop pattern.length) ++
          replaceWith pattern replacement (before ++ [u.1]) (pattern.length - 1) m
      else u :: replaceWith pattern replacement (before ++ [u.1]) 0 m
    else replaceWith pattern replacement (before ++ [u.1]) (skip - 1) m

variable {pattern : List α} {replacement : List α → List α → List (α × ς)}

omit [LawfulBEq α] in
/-- The rest of a match is passed over. -/
theorem replaceWith_skip (before : List α) (x m : List (α × ς)) :
    replaceWith pattern replacement before x.length (x ++ m) =
      replaceWith pattern replacement (before ++ units x) 0 m := by
  induction x generalizing before with
  | nil => rw [List.nil_append, units, List.map_nil, List.append_nil]; rfl
  | cons u x ih =>
    rw [List.cons_append, replaceWith, if_neg (by simp), List.length_cons, Nat.add_sub_cancel, ih]
    congr 1
    rw [List.append_assoc]
    rfl

/-- **A match at the start.** -/
theorem replaceWith_match (hpattern : pattern ≠ []) (before : List α) {x : List (α × ς)} (hx : units x = pattern)
    (m : List (α × ς)) :
    replaceWith pattern replacement before 0 (x ++ m) =
      replacement before (units m) ++ replaceWith pattern replacement (before ++ pattern) 0 m := by
  cases x with
  | nil => exact absurd hx.symm hpattern
  | cons u x =>
    have hprefix : pattern.isPrefixOf (units (u :: (x ++ m))) = true := by
      rw [List.isPrefixOf_iff_prefix, ← List.cons_append, units_append, hx]
      exact List.prefix_append _ _
    have hdrop : (units (u :: (x ++ m))).drop pattern.length = units m := by
      rw [← List.cons_append, units_append, hx, List.drop_left]
    have hlength : pattern.length - 1 = x.length := by
      rw [← hx, units, List.length_map, List.length_cons]
      omega
    rw [List.cons_append, replaceWith, if_pos rfl, if_pos hprefix, hdrop, hlength, replaceWith_skip, ← hx,
      List.append_assoc]
    rfl

/-- **A text that no match starts in** is left as it is. -/
theorem replaceWith_pass (before : List α) (x m : List (α × ς))
    (h : ∀ rest, rest <:+ x → rest ≠ [] → ¬ pattern <+: units (rest ++ m)) :
    replaceWith pattern replacement before 0 (x ++ m) =
      x ++ replaceWith pattern replacement (before ++ units x) 0 m := by
  induction x generalizing before with
  | nil => rw [List.nil_append, units, List.map_nil, List.append_nil, List.nil_append]
  | cons u x ih =>
    have hnone : ¬ pattern.isPrefixOf (units (u :: (x ++ m))) = true := by
      rw [List.isPrefixOf_iff_prefix]
      exact h (u :: x) List.suffix_rfl (List.cons_ne_nil u x)
    have hrest : ∀ rest, rest <:+ x → rest ≠ [] → ¬ pattern <+: units (rest ++ m) :=
      fun rest hsuffix => h rest (hsuffix.trans (List.suffix_cons u x))
    rw [List.cons_append, replaceWith, if_pos rfl, if_neg hnone, ih _ hrest, List.append_assoc]
    rfl

omit [LawfulBEq α] in
/-- Units whose marks no replacement has are only lost. -/
theorem kept_replaceWith_le {p : ς → Bool} (hreplacement : ∀ before after, kept p (replacement before after) = 0)
    (before : List α) (skip : Nat) (m : List (α × ς)) :
    kept p (replaceWith pattern replacement before skip m) ≤ kept p m := by
  induction m generalizing before skip with
  | nil => exact Nat.le_refl 0
  | cons u m ih =>
    have hcons : kept p m ≤ kept p (u :: m) := by
      rw [kept_cons]
      exact Nat.le_add_left _ _
    rw [replaceWith]
    split_ifs
    · rw [kept_append, hreplacement, Nat.zero_add]
      exact (ih _ _).trans hcons
    · rw [kept_cons, kept_cons p u m]
      exact Nat.add_le_add_left (ih _ _) _
    · exact (ih _ _).trans hcons

/-! ## Matches in pieces -/

/-- A placeholder is not empty, and no other one starts in it. -/
structure Apart (placeholder : σ → List α) : Prop where
  nonempty : ∀ s, placeholder s ≠ []
  apart : ∀ s t, s ≠ t → ∀ rest, rest <:+ placeholder t → rest ≠ [] →
    ¬ rest <+: placeholder s ∧ ¬ placeholder s <+: rest

/-- The pattern starts at no unit: where it stands, it is in a slot. -/
def standsInSlots (placeholder : σ → List α) (pattern : List α) : List (Piece α ς σ) → Bool
  | [] => true
  | .unit u mark :: ps =>
    !pattern.isPrefixOf (text placeholder (.unit u mark :: ps)) && standsInSlots placeholder pattern ps
  | .slot _ :: ps => standsInSlots placeholder pattern ps

section Pieces

variable [DecidableEq σ] {placeholder : σ → List α} {own : ς} {s : σ}

omit [DecidableEq σ] in
/-- The slot of another placeholder is passed. -/
theorem replaceWith_other (h : Apart placeholder) {t : σ} (hst : s ≠ t) (before : List α) (m : List (α × ς)) :
    replaceWith (placeholder s) replacement before 0 ((placeholder t).map (fun u => (u, own)) ++ m) =
      (placeholder t).map (fun u => (u, own)) ++
        replaceWith (placeholder s) replacement (before ++ placeholder t) 0 m := by
  have hnone : ∀ rest, rest <:+ (placeholder t).map (fun u => (u, own)) → rest ≠ [] →
      ¬ placeholder s <+: units (rest ++ m) := by
    intro rest hsuffix hne hprefix
    have hunits : units rest <:+ placeholder t := by
      have hmap := hsuffix.map Prod.fst
      rwa [show ((placeholder t).map (fun u => (u, own))).map Prod.fst = placeholder t from units_map_mark _ _] at hmap
    have hne' : units rest ≠ [] := by
      intro hnil
      exact hne (List.map_eq_nil_iff.mp hnil)
    rw [units_append] at hprefix
    -- one of the two starts the other
    obtain ⟨hleft, hright⟩ := h.apart s t hst (units rest) hunits hne'
    rcases List.prefix_or_prefix_of_prefix hprefix (List.prefix_append (units rest) (units m)) with hs | hr
    · exact hright hs
    · exact hleft hr
  rw [replaceWith_pass before _ m hnone, units_map_mark]

omit [LawfulBEq α] [DecidableEq σ] in
/-- A unit that no match starts at is passed. -/
theorem replaceWith_unit {pattern : List α} {u : α} {mark : ς} {ps : List (Piece α ς σ)}
    (h : pattern.isPrefixOf (text placeholder (.unit u mark :: ps)) = false) (before : List α) :
    replaceWith pattern replacement before 0 ((u, mark) :: marked placeholder own ps) =
      (u, mark) :: replaceWith pattern replacement (before ++ [u]) 0 (marked placeholder own ps) := by
  have htext : units ((u, mark) :: marked placeholder own ps) = text placeholder (.unit u mark :: ps) := by
    rw [← units_marked placeholder own, marked_cons]
    rfl
  have hnone : ¬ pattern.isPrefixOf (units ((u, mark) :: marked placeholder own ps)) = true := by
    rw [htext, h]
    exact Bool.false_ne_true
  rw [replaceWith, if_pos rfl, if_neg hnone]

/-- **A placeholder that stands in its slots is replaced there**, and nothing else is. -/
theorem replaceWith_marked (h : Apart placeholder) {value : List (α × ς)} {ps : List (Piece α ς σ)}
    (hstands : standsInSlots placeholder (placeholder s) ps = true)
    (hvalue : slots s ps ≠ 0 → ∀ before after, replacement before after = value) (before : List α) :
    replaceWith (placeholder s) replacement before 0 (marked placeholder own ps) =
      marked placeholder own (fill s value ps) := by
  induction ps generalizing before with
  | nil => rfl
  | cons piece ps ih =>
    rw [marked_cons, fill_cons, marked_append]
    cases piece with
    | unit u mark =>
      rw [standsInSlots, Bool.and_eq_true, Bool.not_eq_true'] at hstands
      rw [slots_unit] at hvalue
      show replaceWith (placeholder s) replacement before 0 ((u, mark) :: marked placeholder own ps) = _
      rw [replaceWith_unit hstands.1, ih hstands.2 hvalue]
      rfl
    | slot t =>
      by_cases hst : t = s
      · subst hst
        rw [slots_self] at hvalue
        have hall := hvalue (Nat.succ_ne_zero _)
        show replaceWith (placeholder t) replacement before 0
          ((placeholder t).map (fun u => (u, own)) ++ marked placeholder own ps) = _
        rw [replaceWith_match (h.nonempty t) before (units_map_mark _ _), hall, ih hstands (fun _ => hall)]
        congr 1
        rw [Piece.fill, if_pos rfl, marked_units]
      · rw [slots_of_ne s hst] at hvalue
        show replaceWith (placeholder s) replacement before 0
          ((placeholder t).map (fun u => (u, own)) ++ marked placeholder own ps) = _
        rw [replaceWith_other h (fun heq => hst heq.symm), ih hstands hvalue]
        congr 1
        rw [Piece.fill, if_neg hst, marked_cons]
        exact (List.append_nil _).symm

/-- The units that come from the values of the slots. -/
theorem kept_replaceWith (h : Apart placeholder) {p : ς → Bool} {n : Nat}
    (hreplacement : ∀ before after, kept p (replacement before after) = n) (hown : p own = false)
    {ps : List (Piece α ς σ)} (hunits : ∀ u mark, .unit u mark ∈ ps → p mark = false)
    (hstands : standsInSlots placeholder (placeholder s) ps = true) (before : List α) :
    kept p (replaceWith (placeholder s) replacement before 0 (marked placeholder own ps)) = slots s ps * n := by
  induction ps generalizing before with
  | nil => exact (Nat.zero_mul n).symm
  | cons piece ps ih =>
    have hrest : ∀ u mark, .unit u mark ∈ ps → p mark = false :=
      fun u mark hmem => hunits u mark (List.mem_cons_of_mem _ hmem)
    rw [marked_cons]
    cases piece with
    | unit u mark =>
      rw [standsInSlots, Bool.and_eq_true, Bool.not_eq_true'] at hstands
      have hmark := hunits u mark List.mem_cons_self
      have hnone : kept p [(u, mark)] = 0 := by simp [kept, hmark]
      show kept p (replaceWith (placeholder s) replacement before 0 ((u, mark) :: marked placeholder own ps)) = _
      rw [replaceWith_unit hstands.1, kept_cons, hnone, ih hrest hstands.2, slots_unit, Nat.zero_add]
    | slot t =>
      have hplaceholder : kept p ((placeholder t).map (fun u => (u, own))) = 0 := by
        rw [kept_map_mark, hown]
        rfl
      by_cases hst : t = s
      · subst hst
        show kept p (replaceWith (placeholder t) replacement before 0
          ((placeholder t).map (fun u => (u, own)) ++ marked placeholder own ps)) = _
        rw [replaceWith_match (h.nonempty t) before (units_map_mark _ _), kept_append, hreplacement,
          ih hrest hstands, slots_self, Nat.succ_mul, Nat.add_comm]
      · show kept p (replaceWith (placeholder s) replacement before 0
          ((placeholder t).map (fun u => (u, own)) ++ marked placeholder own ps)) = _
        rw [replaceWith_other h (fun heq => hst heq.symm), kept_append, hplaceholder, ih hrest hstands,
          slots_of_ne s hst, Nat.zero_add]

/-- **A match outside of the slots loses units**: if none are lost, the placeholder stands in its slots. -/
theorem standsInSlots_of_kept (h : Apart placeholder) {p : ς → Bool}
    (hreplacement : ∀ before after, kept p (replacement before after) = 0) (hown : p own = false)
    {ps : List (Piece α ς σ)} (hunits : ∀ u mark, .unit u mark ∈ ps → p mark = true) (before : List α)
    (hkept : kept p (marked placeholder own ps) ≤
      kept p (replaceWith (placeholder s) replacement before 0 (marked placeholder own ps))) :
    standsInSlots placeholder (placeholder s) ps = true := by
  induction ps generalizing before with
  | nil => rfl
  | cons piece ps ih =>
    have hrest : ∀ u mark, .unit u mark ∈ ps → p mark = true :=
      fun u mark hmem => hunits u mark (List.mem_cons_of_mem _ hmem)
    rw [marked_cons, kept_append] at hkept
    cases piece with
    | unit u mark =>
      have hone : kept p [(u, mark)] = 1 := by
        have hmark := hunits u mark List.mem_cons_self
        simp [kept, hmark]
      change kept p [(u, mark)] + _ ≤
        kept p (replaceWith (placeholder s) replacement before 0 ((u, mark) :: marked placeholder own ps)) at hkept
      rw [standsInSlots, Bool.and_eq_true, Bool.not_eq_true']
      cases hmatch : (placeholder s).isPrefixOf (text placeholder (.unit u mark :: ps)) with
      | true =>
        -- the unit is lost
        have htext : units ((u, mark) :: marked placeholder own ps) = text placeholder (.unit u mark :: ps) := by
          rw [← units_marked placeholder own, marked_cons]
          rfl
        have hle : kept p (replaceWith (placeholder s) replacement (before ++ [u]) ((placeholder s).length - 1)
            (marked placeholder own ps)) ≤ kept p (marked placeholder own ps) :=
          kept_replaceWith_le hreplacement _ _ _
        rw [replaceWith, if_pos rfl, htext, if_pos hmatch, kept_append, hreplacement, hone] at hkept
        exact absurd (hkept.trans (Nat.add_le_add_left hle 0)) (by omega)
      | false =>
        rw [replaceWith_unit hmatch, kept_cons p (u, mark) (replaceWith _ _ _ _ _)] at hkept
        exact ⟨rfl, ih hrest _ (Nat.le_of_add_le_add_left hkept)⟩
    | slot t =>
      have hplaceholder : kept p ((placeholder t).map (fun u => (u, own))) = 0 := by
        rw [kept_map_mark, hown]
        rfl
      change kept p ((placeholder t).map (fun u => (u, own))) + _ ≤
        kept p (replaceWith (placeholder s) replacement before 0
          ((placeholder t).map (fun u => (u, own)) ++ marked placeholder own ps)) at hkept
      rw [standsInSlots]
      by_cases hst : t = s
      · subst hst
        rw [replaceWith_match (h.nonempty t) before (units_map_mark _ _), kept_append, hreplacement, hplaceholder,
          Nat.zero_add, Nat.zero_add] at hkept
        exact ih hrest _ hkept
      · rw [replaceWith_other h (fun heq => hst heq.symm), kept_append] at hkept
        exact ih hrest _ (Nat.le_of_add_le_add_left hkept)

end Pieces

/-! ## Reading a text -/

/-- The pieces of a text: where placeholders stand, from the left, and the units between them. -/
def pieces (placeholder : σ → List α) (names : List σ) (mark : ς) (skip : Nat) : List α → List (Piece α ς σ)
  | [] => []
  | u :: rest =>
    if skip = 0 then
      match names.find? (fun s => (placeholder s).isPrefixOf (u :: rest)) with
      | some s => .slot s :: pieces placeholder names mark ((placeholder s).length - 1) rest
      | none => .unit u mark :: pieces placeholder names mark 0 rest
    else pieces placeholder names mark (skip - 1) rest

section Reading

variable {placeholder : σ → List α} {names : List σ} {mark : ς}

theorem text_pieces (h : ∀ s, placeholder s ≠ []) (skip : Nat) (source : List α) :
    text placeholder (pieces placeholder names mark skip source) = source.drop skip := by
  induction source generalizing skip with
  | nil => rw [List.drop_nil]; rfl
  | cons u rest ih =>
    rw [pieces]
    split_ifs with hskip
    · subst hskip
      split
      · rename_i s hfind
        have hprefix := List.find?_some hfind
        rw [List.isPrefixOf_iff_prefix] at hprefix
        rw [text_cons, ih]
        show placeholder s ++ rest.drop ((placeholder s).length - 1) = u :: rest
        obtain ⟨tail, htail⟩ := hprefix
        cases hplaceholder : placeholder s with
        | nil => exact absurd hplaceholder (h s)
        | cons v p =>
          rw [hplaceholder, List.cons_append, List.cons.injEq] at htail
          rw [← htail.2, List.length_cons, Nat.add_sub_cancel, List.drop_left, List.cons_append, htail.1]
      · rw [text_cons, ih]
        rfl
    · rw [ih]
      obtain ⟨n, rfl⟩ := Nat.exists_eq_succ_of_ne_zero hskip
      rw [Nat.succ_sub_one, List.drop_succ_cons]

/-- The placeholders that are read stand in their slots. -/
theorem standsInSlots_pieces (h : ∀ s, placeholder s ≠ []) {s : σ} (hs : s ∈ names) (skip : Nat) (source : List α) :
    standsInSlots placeholder (placeholder s) (pieces placeholder names mark skip source) = true := by
  induction source generalizing skip with
  | nil => rfl
  | cons u rest ih =>
    rw [pieces]
    split_ifs with hskip
    · split
      · exact ih _
      · rename_i hfind
        have hnone := List.find?_eq_none.mp hfind s hs
        rw [standsInSlots, Bool.and_eq_true, Bool.not_eq_true', text_cons, text_pieces h]
        exact ⟨Bool.eq_false_iff.mpr hnone, ih 0⟩
    · exact ih _

omit [LawfulBEq α] in
/-- The units that are read have the mark of the text. -/
theorem mark_of_mem_pieces {skip : Nat} {source : List α} {u : α} {m : ς}
    (h : .unit u m ∈ pieces placeholder names mark skip source) : m = mark := by
  induction source generalizing skip with
  | nil => cases h
  | cons v rest ih =>
    rw [pieces] at h
    split_ifs at h
    · split at h
      · rcases List.mem_cons.mp h with heq | hin
        · cases heq
        · exact ih hin
      · rcases List.mem_cons.mp h with heq | hin
        · cases heq
          rfl
        · exact ih hin
    · exact ih h

end Reading

end Replace

end Placeholders
