import CfFrappe.Core.Json

set_option autoImplicit false

/-! # Equality of JSON values

Two JSON values are the same if they are the same scalar, if they are arrays of the same items, or if they
are objects with the same keys and the same value for each of them (`Same`); the order of the keys does not
matter. The comparison that walks through both values in the order of their sorted keys decides this relation
(`valuesEqual_iff`), for values whose objects have one value for each key (`IsValue`).
-/

open Utf

namespace Json

/-- A value of the language: no object has a key twice. -/
inductive IsValue : Json → Prop
  | null : IsValue .null
  | bool (b : Bool) : IsValue (.bool b)
  | num (n : Rat) : IsValue (.num n)
  | str (s : JsString) : IsValue (.str s)
  | arr {items : List Json} (hitems : ∀ item ∈ items, IsValue item) : IsValue (.arr items)
  | obj {members : List (JsString × Json)} (hkeys : (Record.keys members).Nodup)
      (hmembers : ∀ entry ∈ members, IsValue entry.2) : IsValue (.obj members)

/-- The same value, without regard to the order of keys. -/
inductive Same : Json → Json → Prop
  | null : Same .null .null
  | bool (b : Bool) : Same (.bool b) (.bool b)
  | num (n : Rat) : Same (.num n) (.num n)
  | str (s : JsString) : Same (.str s) (.str s)
  | arr {xs ys : List Json} (hlength : xs.length = ys.length)
      (hitems : ∀ (i : Nat) (x y : Json), xs[i]? = some x → ys[i]? = some y → Same x y) : Same (.arr xs) (.arr ys)
  | obj {a b : List (JsString × Json)} (hkeys : ∀ key, key ∈ Record.keys a ↔ key ∈ Record.keys b)
      (hvalues : ∀ key v w, Record.get a key = some v → Record.get b key = some w → Same v w) : Same (.obj a) (.obj b)

theorem IsValue.same_self {a : Json} (h : a.IsValue) : Same a a := by
  induction h with
  | null => exact .null
  | bool b => exact .bool b
  | num n => exact .num n
  | str s => exact .str s
  | arr _ ih =>
    refine .arr rfl ?_
    intro i x y hx hy
    rw [hx] at hy
    cases hy
    exact ih x (List.mem_of_getElem? hx)
  | obj _ _ ih =>
    refine .obj (fun _ => Iff.rfl) ?_
    intro key v w hv hw
    rw [hv] at hw
    cases hw
    exact ih (key, v) (Record.mem_of_get hv)

theorem Same.symm {a b : Json} (h : Same a b) : Same b a := by
  induction h with
  | null => exact .null
  | bool b => exact .bool b
  | num n => exact .num n
  | str s => exact .str s
  | arr hlength _ ih => exact .arr hlength.symm (fun i x y hx hy => ih i y x hy hx)
  | obj hkeys _ ih => exact .obj (fun key => (hkeys key).symm) (fun key v w hv hw => ih key w v hw hv)

theorem Same.trans {a b c : Json} (h : Same a b) (h' : Same b c) : Same a c := by
  induction h generalizing c with
  | null | bool | num | str => exact h'
  | @arr xs ys hlength _ ih =>
    cases h' with
    | @arr _ zs hlength' hitems' =>
      refine .arr (hlength.trans hlength') ?_
      intro i x z hx hz
      have hi : i < ys.length := by
        rw [← hlength]
        exact (List.getElem?_eq_some_iff.mp hx).1
      have hy : ys[i]? = some ys[i] := List.getElem?_eq_getElem hi
      exact ih i x ys[i] hx hy (hitems' i ys[i] z hy hz)
  | @obj a b hkeys _ ih =>
    cases h' with
    | @obj _ c hkeys' hvalues' =>
      refine .obj (fun key => (hkeys key).trans (hkeys' key)) ?_
      intro key v w hv hw
      have hkey : key ∈ Record.keys b := (hkeys key).mp (Record.mem_keys.mpr (by rw [hv]; exact Option.some_ne_none v))
      obtain ⟨u, hu⟩ := Option.ne_none_iff_exists'.mp (Record.mem_keys.mp hkey)
      exact ih key v u hv hu (hvalues' key u w hu hw)

/-! ## Sorted keys -/

instance : Std.Total (fun a b : JsString => compareCodeUnits a b ≠ .gt) where
  total a b := by
    simp only [ne_eq, Ordering.ne_gt_iff_isLE]
    unfold compareCodeUnits
    cases h : compare (a.map UInt16.toNat) (b.map UInt16.toNat) with
    | lt | eq => exact Or.inl rfl
    | gt => exact Or.inr (by rw [Std.OrientedOrd.eq_swap, h]; rfl)

instance : IsTrans JsString (fun a b => compareCodeUnits a b ≠ .gt) where
  trans a b c hab hbc := by
    rw [ne_eq, Ordering.ne_gt_iff_isLE] at *
    exact Std.TransOrd.isLE_trans hab hbc

theorem compareCodeUnits_antisymm {a b : JsString} (h : compareCodeUnits a b ≠ .gt) (h' : compareCodeUnits b a ≠ .gt) :
    a = b := by
  rw [ne_eq, Ordering.ne_gt_iff_isLE] at h h'
  have hsame : a.map UInt16.toNat = b.map UInt16.toNat :=
    Std.LawfulEqOrd.eq_of_compare (Std.OrientedCmp.isLE_antisymm h h')
  exact List.map_injective_iff.mpr (fun _ _ => UInt16.toNat_inj.mp) hsame

/-- Objects have the same sorted keys if they have the same keys. -/
theorem sortedKeys_eq_iff {a b : List (JsString × Json)} (ha : (Record.keys a).Nodup) (hb : (Record.keys b).Nodup) :
    sortedKeys a = sortedKeys b ↔ ∀ key, key ∈ Record.keys a ↔ key ∈ Record.keys b := by
  have hsorted : ∀ members, (sortedKeys members).Perm (Record.keys members) := fun members =>
    List.perm_insertionSort _ _
  constructor
  · intro h key
    rw [← (hsorted a).mem_iff, h, (hsorted b).mem_iff]
  · intro h
    have hkeys : (Record.keys a).Perm (Record.keys b) := (List.perm_ext_iff_of_nodup ha hb).mpr h
    have hperm : (sortedKeys a).Perm (sortedKeys b) := (hsorted a).trans (hkeys.trans (hsorted b).symm)
    exact List.Perm.eq_of_pairwise (fun _ _ _ _ => compareCodeUnits_antisymm) (List.pairwise_insertionSort _ _)
      (List.pairwise_insertionSort _ _) hperm

/-! ## The comparison -/

theorem IsValue.items {items : List Json} (h : (Json.arr items).IsValue) : ∀ item ∈ items, item.IsValue := by
  cases h with
  | arr hitems => exact hitems

theorem IsValue.members {members : List (JsString × Json)} (h : (Json.obj members).IsValue) :
    (Record.keys members).Nodup ∧ ∀ entry ∈ members, entry.2.IsValue := by
  cases h with
  | obj hkeys hmembers => exact ⟨hkeys, hmembers⟩

theorem IsValue.get {members : List (JsString × Json)} (h : ∀ entry ∈ members, entry.2.IsValue) {key : JsString}
    {value : Json} (hget : Record.get members key = some value) : value.IsValue :=
  h (key, value) (Record.mem_of_get hget)

mutual

/-- **The comparison decides whether two values are the same.** -/
theorem valuesEqual_iff : ∀ {a b : Json}, a.IsValue → b.IsValue → (valuesEqual a b = true ↔ Same a b)
  -- values of two kinds are different; two of one kind are compared by their parts
  | .null, b, _, _ => by
      cases b with
      | null => exact iff_of_true rfl .null
      | _ => exact iff_of_false (by simp [valuesEqual]) nofun
  | .bool x, b, _, _ => by
      cases b with
      | bool y =>
        rw [valuesEqual, beq_iff_eq]
        exact ⟨fun h => h ▸ .bool x, fun h => by cases h; rfl⟩
      | _ => exact iff_of_false (by simp [valuesEqual]) nofun
  | .num x, b, _, _ => by
      cases b with
      | num y =>
        rw [valuesEqual, beq_iff_eq]
        exact ⟨fun h => h ▸ .num x, fun h => by cases h; rfl⟩
      | _ => exact iff_of_false (by simp [valuesEqual]) nofun
  | .str x, b, _, _ => by
      cases b with
      | str y =>
        rw [valuesEqual, beq_iff_eq]
        exact ⟨fun h => h ▸ .str x, fun h => by cases h; rfl⟩
      | _ => exact iff_of_false (by simp [valuesEqual]) nofun
  | .arr xs, b, ha, hb => by
      cases b with
      | arr ys =>
        rw [valuesEqual, itemsEqual_iff ha.items hb.items]
        exact ⟨fun h => .arr h.1 h.2, fun h => by cases h with | arr hlength hitems => exact ⟨hlength, hitems⟩⟩
      | _ => exact iff_of_false (by simp [valuesEqual]) nofun
  | .obj a, b, ha, hb => by
      cases b with
      | obj b =>
        rw [valuesEqual, Bool.and_eq_true, beq_iff_eq, sortedKeys_eq_iff ha.members.1 hb.members.1,
          membersEqual_iff ha.members.2 hb.members.2]
        constructor
        -- equal sorted keys are the same set of keys, as no key occurs twice
        · rintro ⟨hkeys, hmembers⟩
          refine .obj hkeys ?_
          intro key v w hv hw
          obtain ⟨w', hw', hsame⟩ := hmembers (key, v) (Record.mem_of_get hv)
          rw [hw] at hw'
          cases hw'
          exact hsame
        · intro h
          cases h with
          | obj hkeys hvalues =>
            refine ⟨hkeys, ?_⟩
            intro entry hentry
            have hv : Record.get a entry.1 = some entry.2 := Record.get_of_mem ha.members.1 hentry
            have hkey : entry.1 ∈ Record.keys b := (hkeys entry.1).mp (List.mem_map_of_mem hentry)
            obtain ⟨w, hw⟩ := Option.ne_none_iff_exists'.mp (Record.mem_keys.mp hkey)
            exact ⟨w, hw, hvalues entry.1 entry.2 w hv hw⟩
      | _ => exact iff_of_false (by simp [valuesEqual]) nofun

theorem itemsEqual_iff : ∀ {xs ys : List Json}, (∀ x ∈ xs, x.IsValue) → (∀ y ∈ ys, y.IsValue) →
    (itemsEqual xs ys = true ↔
      xs.length = ys.length ∧ ∀ (i : Nat) (x y : Json), xs[i]? = some x → ys[i]? = some y → Same x y)
  | [], [], _, _ => by simp [itemsEqual]
  | [], _ :: _, _, _ => by simp [itemsEqual]
  | _ :: _, [], _, _ => by simp [itemsEqual]
  | x :: xs, y :: ys, hx, hy => by
      have hhead := valuesEqual_iff (hx x List.mem_cons_self) (hy y List.mem_cons_self)
      have htail := itemsEqual_iff (fun x' hx' => hx x' (List.mem_cons_of_mem _ hx'))
        (fun y' hy' => hy y' (List.mem_cons_of_mem _ hy'))
      rw [itemsEqual, Bool.and_eq_true, hhead, htail, List.length_cons, List.length_cons, Nat.add_right_cancel_iff]
      constructor
      · rintro ⟨hfirst, hlength, hrest⟩
        refine ⟨hlength, ?_⟩
        intro i x' y' hx' hy'
        cases i with
        | zero =>
          cases hx'
          cases hy'
          exact hfirst
        | succ i => exact hrest i x' y' hx' hy'
      · rintro ⟨hlength, hall⟩
        exact ⟨hall 0 x y rfl rfl, hlength, fun i => hall (i + 1)⟩

theorem membersEqual_iff : ∀ {a b : List (JsString × Json)}, (∀ entry ∈ a, entry.2.IsValue) →
    (∀ entry ∈ b, entry.2.IsValue) →
    (membersEqual a b = true ↔ ∀ entry ∈ a, ∃ w, Record.get b entry.1 = some w ∧ Same entry.2 w)
  | [], _, _, _ => by simp [membersEqual]
  | (key, v) :: rest, b, ha, hb => by
      have htail := membersEqual_iff (fun entry hentry => ha entry (List.mem_cons_of_mem _ hentry)) hb
      rw [membersEqual, Bool.and_eq_true, htail, List.forall_mem_cons]
      refine and_congr_left (fun _ => ?_)
      cases hget : Record.get b key with
      | none => simp
      | some w =>
        have hhead := valuesEqual_iff (ha (key, v) List.mem_cons_self) (IsValue.get hb hget)
        dsimp only
        rw [hhead]
        exact ⟨fun h => ⟨w, rfl, h⟩, fun ⟨w', hw', h⟩ => Option.some.inj hw' ▸ h⟩

end

end Json
