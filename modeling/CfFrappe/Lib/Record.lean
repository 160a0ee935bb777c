import Mathlib

set_option autoImplicit false

/-! # Records

A JavaScript object used as a record: its own properties, in the order they were added.
`get` reads a property, `merge a b` is the object spread `{ ...a, ...b }` and `without`
deletes properties. Everything a proof needs to know about a record is what `get` returns
(`get_merge`, `get_without`) and which keys it has (`mem_keys`).
-/

/-- The own properties of an object, in insertion order. -/
abbrev Record (κ α : Type) := List (κ × α)

namespace Record

variable {κ α : Type} [DecidableEq κ]

/-- The value of a property; `none` is `undefined`. -/
def get : Record κ α → κ → Option α
  | [], _ => none
  | (k', v) :: r, k => if k' = k then some v else get r k

/-- `Object.prototype.hasOwnProperty.call(r, k)`. -/
def has (r : Record κ α) (k : κ) : Bool := (get r k).isSome

/-- `Object.keys(r)`. -/
def keys (r : Record κ α) : List κ := r.map Prod.fst

/-- `{ ...a, ...b }`: the properties of `a`, overridden by `b`, then the new ones of `b`. -/
def merge (a b : Record κ α) : Record κ α :=
  a.map (fun e => (e.1, (get b e.1).getD e.2)) ++ b.filter (fun e => !has a e.1)

/-- `{ ...r, [k]: v }`. -/
def set (r : Record κ α) (k : κ) (v : α) : Record κ α := merge r [(k, v)]

/-- `r` after `delete r[k]` for every key `k` of the list. -/
def without (r : Record κ α) (ks : List κ) : Record κ α := r.filter (fun e => !ks.contains e.1)

@[simp] theorem get_nil (k : κ) : get ([] : Record κ α) k = none := rfl

theorem get_cons (e : κ × α) (r : Record κ α) (k : κ) :
    get (e :: r) k = if e.1 = k then some e.2 else get r k := rfl

theorem get_append (a b : Record κ α) (k : κ) : get (a ++ b) k = (get a k).or (get b k) := by
  induction a with
  | nil => rfl
  | cons e a ih =>
    rw [List.cons_append, get_cons, get_cons, ih]
    split_ifs <;> rfl

/-- Reading after a filter that looks at keys only. -/
theorem get_filter_keys (p : κ → Bool) (r : Record κ α) (k : κ) :
    get (r.filter (fun e => p e.1)) k = if p k then get r k else none := by
  induction r with
  | nil => simp
  | cons e r ih =>
    by_cases hk : e.1 = k
    · subst hk
      cases hp : p e.1 <;> simp [hp, get_cons, ih]
    · cases hp : p e.1 <;> simp [hp, get_cons, ih, hk]

theorem get_map_keys (f : κ → α → α) (r : Record κ α) (k : κ) :
    get (r.map (fun e => (e.1, f e.1 e.2))) k = (get r k).map (f k) := by
  induction r with
  | nil => rfl
  | cons e r ih =>
    rw [List.map_cons, get_cons, get_cons, ih]
    by_cases hk : e.1 = k
    · subst hk
      simp
    · simp [hk]

/-- **The spread reads the right operand first.** -/
@[simp] theorem get_merge (a b : Record κ α) (k : κ) : get (merge a b) k = (get b k).or (get a k) := by
  rw [merge, get_append, get_map_keys (fun k v => (get b k).getD v), get_filter_keys (fun k => !has a k)]
  cases ha : get a k <;> cases hb : get b k <;> simp [has, ha]

@[simp] theorem get_set (r : Record κ α) (k k' : κ) (v : α) :
    get (set r k v) k' = if k = k' then some v else get r k' := by
  rw [set, get_merge, get_cons, get_nil]
  split_ifs <;> rfl

@[simp] theorem get_without (r : Record κ α) (ks : List κ) (k : κ) :
    get (without r ks) k = if k ∈ ks then none else get r k := by
  rw [without, get_filter_keys (fun k => !ks.contains k)]
  by_cases hk : k ∈ ks <;> simp [hk]

theorem mem_keys {r : Record κ α} {k : κ} : k ∈ keys r ↔ get r k ≠ none := by
  induction r with
  | nil => simp [keys]
  | cons e r ih =>
    rw [keys, List.map_cons, List.mem_cons, get_cons]
    by_cases hk : e.1 = k
    · simp [hk]
    · rw [if_neg hk, ← ih]
      simp [keys, Ne.symm hk]

theorem has_eq_true {r : Record κ α} {k : κ} : has r k = true ↔ k ∈ keys r := by
  rw [mem_keys, has, Option.isSome_iff_ne_none]

theorem has_iff {r : Record κ α} {k : κ} : has r k = true ↔ ∃ v, get r k = some v := by
  rw [has, Option.isSome_iff_exists]

theorem has_eq_false {r : Record κ α} {k : κ} : has r k = false ↔ get r k = none := by
  rw [has, Option.isSome_eq_false_iff, Option.isNone_iff_eq_none]

theorem mem_of_get {r : Record κ α} {k : κ} {v : α} (h : get r k = some v) : (k, v) ∈ r := by
  induction r with
  | nil => simp at h
  | cons e r ih =>
    rw [get_cons] at h
    split_ifs at h with hk
    · rw [Option.some.injEq] at h
      rw [← hk, ← h]
      exact List.mem_cons_self
    · exact List.mem_cons_of_mem _ (ih h)

theorem mem_keys_merge {a b : Record κ α} {k : κ} : k ∈ keys (merge a b) ↔ k ∈ keys a ∨ k ∈ keys b := by
  simp only [mem_keys, get_merge, ne_eq, Option.or_eq_none_iff, not_and_or]
  exact or_comm

theorem mem_keys_without {r : Record κ α} {ks : List κ} {k : κ} :
    k ∈ keys (without r ks) ↔ k ∈ keys r ∧ k ∉ ks := by
  simp only [mem_keys, get_without]
  by_cases hk : k ∈ ks <;> simp [hk]

/-- A new property goes to the end. -/
theorem set_of_not_mem {r : Record κ α} {k : κ} {v : α} (h : k ∉ keys r) : set r k v = r ++ [(k, v)] := by
  have hget : has r k = false := by
    rw [← Bool.not_eq_true, has_eq_true]
    exact h
  unfold set merge
  congr 1
  · conv_rhs => rw [← List.map_id r]
    apply List.map_congr_left
    intro e he
    have hne : k ≠ e.1 := fun heq => h (heq ▸ List.mem_map_of_mem he)
    rw [get_cons, if_neg hne, get_nil]
    rfl
  · simp [hget]

/-- A property that is there keeps its place. -/
theorem set_of_mem {r : Record κ α} {k : κ} {v : α} (h : k ∈ keys r) :
    set r k v = r.map (fun e => (e.1, if k = e.1 then v else e.2)) := by
  have hget : has r k = true := has_eq_true.mpr h
  unfold set merge
  simp only [get_cons, get_nil, hget, List.filter_cons, List.filter_nil, Bool.not_true, Bool.false_eq_true,
    if_false, List.append_nil]
  apply List.map_congr_left
  intro e _
  split_ifs <;> rfl

theorem keys_set {r : Record κ α} {k : κ} {v : α} :
    keys (set r k v) = if k ∈ keys r then keys r else keys r ++ [k] := by
  split_ifs with h
  · rw [set_of_mem h, keys, List.map_map]
    rfl
  · rw [set_of_not_mem h, keys, List.map_append]
    rfl

theorem nodup_keys_set {r : Record κ α} (h : (keys r).Nodup) (k : κ) (v : α) : (keys (set r k v)).Nodup := by
  rw [keys_set]
  split_ifs with hk
  · exact h
  · rw [List.nodup_append]
    refine ⟨h, List.pairwise_singleton _ k, ?_⟩
    intro k' hk' l hl
    rw [List.mem_singleton] at hl
    rintro rfl
    exact hk (hl ▸ hk')

theorem nodup_keys_without {r : Record κ α} (h : (keys r).Nodup) (ks : List κ) : (keys (without r ks)).Nodup :=
  h.sublist (List.Sublist.map _ List.filter_sublist)

/-- In a record without repeated keys every entry is the one that `get` finds. -/
theorem get_of_mem {r : Record κ α} (h : (keys r).Nodup) {k : κ} {v : α} (hmem : (k, v) ∈ r) : get r k = some v := by
  induction r with
  | nil => exact absurd hmem List.not_mem_nil
  | cons e r ih =>
    rw [keys, List.map_cons, List.nodup_cons] at h
    rw [get_cons]
    rcases List.mem_cons.mp hmem with heq | hmem
    · rw [← heq, if_pos rfl]
    · have hne : e.1 ≠ k := by
        rintro rfl
        exact h.1 (List.mem_map.mpr ⟨_, hmem, rfl⟩)
      rw [if_neg hne, ih h.2 hmem]

/-- A filter on keys goes through `set`. -/
theorem filter_set (p : κ → Bool) (r : Record κ α) (k : κ) (v : α) :
    (set r k v).filter (fun e => p e.1) =
      if p k then set (r.filter (fun e => p e.1)) k v else r.filter (fun e => p e.1) := by
  have hkeys : k ∈ keys (r.filter (fun e => p e.1)) ↔ k ∈ keys r ∧ p k = true := by
    simp only [mem_keys, get_filter_keys p r k]
    split_ifs with hp <;> simp [hp]
  by_cases hk : k ∈ keys r
  · rw [set_of_mem hk, List.filter_map]
    split_ifs with hp
    · rw [set_of_mem (hkeys.mpr ⟨hk, hp⟩)]
      rfl
    · -- no entry that passes the filter has this key
      change (r.filter (fun e => p e.1)).map _ = _
      conv_rhs => rw [← List.map_id (r.filter (fun e => p e.1))]
      apply List.map_congr_left
      rintro ⟨k', v'⟩ he
      have hp' : p k' = true := by simpa using (List.mem_filter.mp he).2
      have hne : k ≠ k' := by
        rintro rfl
        exact hp hp'
      simp [hne]
  · rw [set_of_not_mem hk, List.filter_append]
    split_ifs with hp
    · rw [set_of_not_mem (fun hmem => hk (hkeys.mp hmem).1)]
      simp [hp]
    · simp [hp]

theorem filter_without (p : κ → Bool) (r : Record κ α) (ks : List κ) :
    (without r ks).filter (fun e => p e.1) = without (r.filter (fun e => p e.1)) ks := by
  unfold without
  rw [List.filter_filter, List.filter_filter]
  congr 1
  funext e
  exact Bool.and_comm _ _

/-! ### Records under a function of their values

`mapValues` leaves the keys and their order as they are, so it goes through reading, setting and deleting.
-/

section

variable {β : Type}

def mapValues (f : α → β) (r : Record κ α) : Record κ β := r.map (fun e => (e.1, f e.2))

omit [DecidableEq κ] in
@[simp] theorem keys_mapValues (f : α → β) (r : Record κ α) : keys (mapValues f r) = keys r := by
  rw [keys, keys, mapValues, List.map_map]
  rfl

@[simp] theorem get_mapValues (f : α → β) (r : Record κ α) (k : κ) : get (mapValues f r) k = (get r k).map f := by
  induction r with
  | nil => rfl
  | cons e r ih =>
    show get ((e.1, f e.2) :: mapValues f r) k = _
    rw [get_cons, get_cons, ih]
    split_ifs <;> rfl

theorem mapValues_set (f : α → β) (r : Record κ α) (k : κ) (v : α) :
    mapValues f (set r k v) = set (mapValues f r) k (f v) := by
  by_cases hk : k ∈ keys r
  · rw [set_of_mem hk, set_of_mem (by rwa [keys_mapValues]), mapValues, mapValues, List.map_map, List.map_map]
    apply List.map_congr_left
    intro e _
    simp only [Function.comp_apply]
    split_ifs <;> rfl
  · rw [set_of_not_mem hk, set_of_not_mem (by rwa [keys_mapValues]), mapValues, mapValues, List.map_append]
    rfl

theorem mapValues_without (f : α → β) (r : Record κ α) (ks : List κ) :
    mapValues f (without r ks) = without (mapValues f r) ks := by
  rw [without, without, mapValues, mapValues, List.filter_map]
  rfl

omit [DecidableEq κ] in
theorem values_mapValues (f : α → β) (r : Record κ α) : (mapValues f r).map Prod.snd = (r.map Prod.snd).map f := by
  rw [mapValues, List.map_map, List.map_map]
  rfl

end

end Record

/-! ## Lists whose elements have distinct keys

Looking up an element by its key does not depend on the order of such a list: the element with a key is the
member with that key (`find?_key_iff`).
-/

section

variable {α κ : Type} [BEq κ] [LawfulBEq κ] {key : α → κ} {l : List α}

omit [BEq κ] [LawfulBEq κ] in
theorem eq_of_key_eq (h : (l.map key).Nodup) {a b : α} (ha : a ∈ l) (hb : b ∈ l) (hkey : key a = key b) : a = b :=
  List.inj_on_of_nodup_map h ha hb hkey

/-- **The element with a key** is the member with that key. -/
theorem find?_key_iff (h : (l.map key).Nodup) {k : κ} {a : α} :
    l.find? (fun x => key x == k) = some a ↔ a ∈ l ∧ key a = k := by
  constructor
  · intro hfind
    have hkey := List.find?_some hfind
    exact ⟨List.mem_of_find?_eq_some hfind, by simpa using hkey⟩
  · rintro ⟨hmem, rfl⟩
    cases hfind : l.find? (fun x => key x == key a) with
    | none =>
      have hnone := List.find?_eq_none.mp hfind a hmem
      simp at hnone
    | some b =>
      have hkey : key b = key a := by simpa using List.find?_some hfind
      rw [eq_of_key_eq h (List.mem_of_find?_eq_some hfind) hmem hkey]

theorem find?_key_none {k : κ} : l.find? (fun x => key x == k) = none ↔ ∀ a ∈ l, key a ≠ k := by
  rw [List.find?_eq_none]
  simp

/-- Replacing what has a key keeps the keys distinct. -/
theorem nodup_filter_append (h : (l.map key).Nodup) (a : α) :
    ((l.filter (fun x => key x != key a) ++ [a]).map key).Nodup := by
  rw [List.map_append, List.map_singleton, List.nodup_append]
  refine ⟨(List.filter_sublist.map key).nodup h, List.nodup_singleton _, ?_⟩
  intro k hk k' hk' heq
  rw [List.mem_singleton] at hk'
  obtain ⟨x, hx, hkx⟩ := List.mem_map.mp hk
  have hne : key x ≠ key a := by simpa using (List.mem_filter.mp hx).2
  exact hne (hkx.trans (heq.trans hk'))

end
