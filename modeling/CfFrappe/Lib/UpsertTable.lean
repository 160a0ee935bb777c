import CfFrappe.Lib.NormalForms
import CfFrappe.Lib.Record

set_option autoImplicit false

/-! # Tables with a primary key

A table is a list of rows no two of which have the same key. `upsert` inserts a row, or changes the row that
has its key already: which columns a change overwrites is the `Upsert` of the table. What a table holds for a
key is `row`. A query that sorts its rows gives them in the same order however they are stored
(`insertionSort_eq_of_mem_iff`).
-/

structure KeyedTable (κ ρ : Type) (key : ρ → κ) where
  rows : List ρ
  keyed : (rows.map key).Nodup

/-- What an upsert makes of a row that is there. -/
structure Upsert {κ ρ : Type} (key : ρ → κ) where
  change : ρ → ρ → ρ
  key_change : ∀ old new, key (change old new) = key old

namespace KeyedTable

variable {κ ρ : Type} {key : ρ → κ}

def empty : KeyedTable κ ρ key := ⟨[], List.nodup_nil⟩

variable [DecidableEq κ]

/-- The row of a key. -/
def row (table : KeyedTable κ ρ key) (k : κ) : Option ρ := table.rows.find? (fun r => key r == k)

theorem row_eq_some_iff {table : KeyedTable κ ρ key} {k : κ} {r : ρ} :
    table.row k = some r ↔ r ∈ table.rows ∧ key r = k := find?_key_iff table.keyed

theorem row_eq_none_iff {table : KeyedTable κ ρ key} {k : κ} :
    table.row k = none ↔ ∀ r ∈ table.rows, key r ≠ k := find?_key_none

theorem mem_rows_iff {table : KeyedTable κ ρ key} {r : ρ} : r ∈ table.rows ↔ table.row (key r) = some r := by
  rw [row_eq_some_iff]
  simp

section Upserts

variable (u : Upsert key)

/-- The rows after an upsert. -/
def upsertRows (new : ρ) (rows : List ρ) : List ρ :=
  if key new ∈ rows.map key then rows.map (fun r => if key r = key new then u.change r new else r) else rows ++ [new]

theorem map_key_upsertRows (new : ρ) (rows : List ρ) :
    (upsertRows u new rows).map key = if key new ∈ rows.map key then rows.map key else rows.map key ++ [key new] := by
  unfold upsertRows
  split_ifs with hmem
  · rw [List.map_map]
    apply List.map_congr_left
    intro r _
    simp only [Function.comp_apply]
    split_ifs
    · exact u.key_change r new
    · rfl
  · rw [List.map_append, List.map_singleton]

theorem keyed_upsertRows {new : ρ} {rows : List ρ} (h : (rows.map key).Nodup) :
    ((upsertRows u new rows).map key).Nodup := by
  rw [map_key_upsertRows]
  split_ifs with hmem
  · exact h
  · rw [← List.concat_eq_append]
    exact h.concat hmem

/-- `INSERT ... ON CONFLICT (key) DO UPDATE SET ...`. -/
def upsert (table : KeyedTable κ ρ key) (new : ρ) : KeyedTable κ ρ key where
  rows := upsertRows u new table.rows
  keyed := keyed_upsertRows u table.keyed

/-- **What an upsert leaves for a key**: the changed row, the new one, or what was there. -/
theorem row_upsert (table : KeyedTable κ ρ key) (new : ρ) (k : κ) :
    (table.upsert u new).row k =
      if key new = k then some (((table.row k).map (fun old => u.change old new)).getD new) else table.row k := by
  by_cases hk : key new = k
  · subst hk
    rw [if_pos rfl, row_eq_some_iff]
    cases hold : table.row (key new) with
    | none =>
      have hnot : key new ∉ table.rows.map key := by
        intro hmem
        obtain ⟨r, hr, hkey⟩ := List.mem_map.mp hmem
        exact row_eq_none_iff.mp hold r hr hkey
      refine ⟨?_, rfl⟩
      show new ∈ upsertRows u new table.rows
      rw [upsertRows, if_neg hnot]
      exact List.mem_append_right _ List.mem_cons_self
    | some old =>
      have hfound := row_eq_some_iff.mp hold
      have hmem : key new ∈ table.rows.map key := List.mem_map.mpr ⟨old, hfound⟩
      refine ⟨?_, (u.key_change old new).trans hfound.2⟩
      show u.change old new ∈ upsertRows u new table.rows
      rw [upsertRows, if_pos hmem]
      exact List.mem_map.mpr ⟨old, hfound.1, if_pos hfound.2⟩
  · rw [if_neg hk]
    -- the rows of another key are as they were
    have hrows : ∀ r, key r = k → (r ∈ (table.upsert u new).rows ↔ r ∈ table.rows) := by
      intro r hr
      show r ∈ upsertRows u new table.rows ↔ _
      unfold upsertRows
      split_ifs
      · rw [List.mem_map]
        constructor
        · rintro ⟨r', hr', heq⟩
          split_ifs at heq with hkey
          · have hsame := u.key_change r' new
            rw [heq, hr, hkey] at hsame
            exact absurd hsame.symm hk
          · rwa [← heq]
        · intro hmem
          refine ⟨r, hmem, if_neg ?_⟩
          rw [hr]
          exact fun h => hk h.symm
      · rw [List.mem_append, List.mem_singleton]
        constructor
        · rintro (hmem | rfl)
          · exact hmem
          · exact absurd hr hk
        · exact Or.inl
    cases hold : table.row k with
    | none =>
      rw [row_eq_none_iff]
      intro r hmem hr
      exact row_eq_none_iff.mp hold r ((hrows r hr).mp hmem) hr
    | some old =>
      have hfound := row_eq_some_iff.mp hold
      exact row_eq_some_iff.mpr ⟨(hrows old hfound.2).mpr hfound.1, hfound.2⟩

/-- Upserts one after the other. -/
def upsertAll (table : KeyedTable κ ρ key) (news : List ρ) : KeyedTable κ ρ key := news.foldl (upsert u) table

theorem row_upsertAll_of_ne {table : KeyedTable κ ρ key} {news : List ρ} {k : κ} (h : ∀ new ∈ news, key new ≠ k) :
    (table.upsertAll u news).row k = table.row k := by
  unfold upsertAll
  induction news generalizing table with
  | nil => rfl
  | cons new news ih =>
    rw [List.foldl_cons, ih (fun other hother => h other (List.mem_cons_of_mem _ hother)), row_upsert,
      if_neg (h new List.mem_cons_self)]

/-- **A key that all upserts write the same row for** has this row. -/
theorem row_upsertAll {table : KeyedTable κ ρ key} {news : List ρ} {new : ρ} (hmem : new ∈ news)
    (hsame : ∀ other ∈ news, key other = key new → other = new) (hchange : u.change new new = new)
    (hold : ∀ old, table.row (key new) = some old → u.change old new = new) :
    (table.upsertAll u news).row (key new) = some new := by
  -- once it is written it stays
  have hstays : ∀ (rest : List ρ) (t : KeyedTable κ ρ key), (∀ other ∈ rest, key other = key new → other = new) →
      t.row (key new) = some new → (t.upsertAll u rest).row (key new) = some new := by
    intro rest
    induction rest with
    | nil => exact fun t _ ht => ht
    | cons first rest ih =>
      intro t hrest ht
      refine ih (t.upsert u first) (fun other hother => hrest other (List.mem_cons_of_mem _ hother)) ?_
      rw [row_upsert]
      split_ifs with hkey
      · rw [hrest first List.mem_cons_self hkey, ht, Option.map_some, hchange]
        rfl
      · exact ht
  unfold upsertAll
  induction news generalizing table with
  | nil => cases hmem
  | cons first news ih =>
    have hrest : ∀ other ∈ news, key other = key new → other = new :=
      fun other hother => hsame other (List.mem_cons_of_mem _ hother)
    rw [List.foldl_cons]
    by_cases hkey : key first = key new
    · obtain rfl : first = new := hsame first List.mem_cons_self hkey
      apply hstays news _ hrest
      rw [row_upsert, if_pos rfl]
      cases hrow : table.row (key first) with
      | none => rfl
      | some old =>
        rw [Option.map_some, hold old hrow]
        rfl
    · have hin : new ∈ news := by
        rcases List.mem_cons.mp hmem with heq | hin
        · exact absurd (congrArg key heq.symm) hkey
        · exact hin
      apply ih hin hrest
      intro old hrow
      rw [row_upsert, if_neg hkey] at hrow
      exact hold old hrow

end Upserts

end KeyedTable

/-! ## Sorted rows -/

/-- Lists of the same elements, once each, that an order tells apart, are the same when they are sorted. -/
theorem insertionSort_eq_of_mem_iff {α : Type} (cmp : α → α → Ordering) [Std.TransCmp cmp] {l l' : List α}
    (hl : l.Nodup) (hl' : l'.Nodup) (hmem : ∀ a, a ∈ l ↔ a ∈ l')
    (heq : ∀ a ∈ l, ∀ b ∈ l, cmp a b = .eq → a = b) :
    l.insertionSort (fun a b => cmp a b ≠ .gt) = l'.insertionSort (fun a b => cmp a b ≠ .gt) := by
  have hperm : l.Perm l' := (List.perm_ext_iff_of_nodup hl hl').mpr hmem
  have hsorted : (l.insertionSort (fun a b => cmp a b ≠ .gt)).Perm (l'.insertionSort (fun a b => cmp a b ≠ .gt)) :=
    ((List.perm_insertionSort _ l).trans hperm).trans (List.perm_insertionSort _ l').symm
  refine hsorted.eq_of_pairwise ?_ (pairwise_insertionSort_compare cmp l) (pairwise_insertionSort_compare cmp l')
  intro a b ha hb hab hba
  rw [List.mem_insertionSort] at ha hb
  apply heq a ha b ((hmem b).mpr hb)
  -- neither is after the other
  cases hcmp : cmp a b with
  | lt => exact absurd (Std.OrientedCmp.gt_of_lt hcmp) hba
  | eq => rfl
  | gt => exact absurd hcmp hab
