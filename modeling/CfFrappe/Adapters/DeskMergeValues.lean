import CfFrappe.Core.JsonEquality
import CfFrappe.Core.DocumentMerge

set_option autoImplicit false

/-! # Values that the desk client copies

The desk client copies a value by assigning the copies of its members to `{}`. Assigning to `__proto__` makes
no member, so the copy has the members of the value other than those called `__proto__`, at every depth. It is
the value where no object of it has such a member (`cloneMergeJson_eq_self`).
-/

open Utf

namespace DeskMerge

open DocumentMerge

mutual

/-- `cloneMergeValue`: what the copy has of its own. -/
def cloneMergeJson : Json → Json
  | .arr items => .arr (cloneMergeItems items)
  | .obj members => .obj (cloneMergeMembers members)
  | .null => .null
  | .bool b => .bool b
  | .num n => .num n
  | .str s => .str s

def cloneMergeItems : List Json → List Json
  | [] => []
  | item :: items => cloneMergeJson item :: cloneMergeItems items

def cloneMergeMembers : List (JsString × Json) → List (JsString × Json)
  | [] => []
  | (key, value) :: members =>
    -- `clone.__proto__ = value` sets the prototype, or nothing
    if key = prototypeName then cloneMergeMembers members
    else (key, cloneMergeJson value) :: cloneMergeMembers members

end

mutual

/-- Whether an object of the value has a member `__proto__`. -/
def hasPrototypeKey : Json → Bool
  | .arr items => itemsHavePrototypeKey items
  | .obj members => membersHavePrototypeKey members
  | .null | .bool _ | .num _ | .str _ => false

def itemsHavePrototypeKey : List Json → Bool
  | [] => false
  | item :: items => hasPrototypeKey item || itemsHavePrototypeKey items

def membersHavePrototypeKey : List (JsString × Json) → Bool
  | [] => false
  | (key, value) :: members => key = prototypeName || hasPrototypeKey value || membersHavePrototypeKey members

end

/-! ## What a copy has -/

theorem getElem?_cloneMergeItems (items : List Json) (i : Nat) :
    (cloneMergeItems items)[i]? = items[i]?.map cloneMergeJson := by
  induction items generalizing i with
  | nil => rfl
  | cons item items ih =>
    rw [cloneMergeItems]
    cases i with
    | zero => rfl
    | succ i => simpa using ih i

theorem length_cloneMergeItems (items : List Json) : (cloneMergeItems items).length = items.length := by
  induction items with
  | nil => rfl
  | cons item items ih => rw [cloneMergeItems, List.length_cons, List.length_cons, ih]

@[simp] theorem get_cloneMergeMembers (members : List (JsString × Json)) (key : JsString) :
    Record.get (cloneMergeMembers members) key =
      if key = prototypeName then none else (Record.get members key).map cloneMergeJson := by
  induction members with
  | nil => simp [cloneMergeMembers]
  | cons entry members ih =>
    obtain ⟨name, value⟩ := entry
    rw [cloneMergeMembers]
    by_cases hname : name = prototypeName
    · rw [if_pos hname, ih]
      by_cases hkey : key = prototypeName
      · rw [if_pos hkey, if_pos hkey]
      · have hne : name ≠ key := fun h => hkey (h.symm.trans hname)
        rw [if_neg hkey, if_neg hkey, Record.get_cons, if_neg hne]
    · rw [if_neg hname, Record.get_cons, ih, Record.get_cons]
      by_cases hsame : name = key
      · have hkey : key ≠ prototypeName := fun h => hname (hsame.trans h)
        simp [hsame, hkey]
      · simp [hsame]

theorem mem_keys_cloneMergeMembers (members : List (JsString × Json)) (key : JsString) :
    key ∈ Record.keys (cloneMergeMembers members) ↔ key ≠ prototypeName ∧ key ∈ Record.keys members := by
  rw [Record.mem_keys, Record.mem_keys, get_cloneMergeMembers]
  by_cases hkey : key = prototypeName <;> simp [hkey]

theorem keys_cloneMergeMembers_sublist (members : List (JsString × Json)) :
    (Record.keys (cloneMergeMembers members)).Sublist (Record.keys members) := by
  induction members with
  | nil => exact List.Sublist.slnil
  | cons entry members ih =>
    rw [cloneMergeMembers]
    by_cases hname : entry.1 = prototypeName
    · rw [if_pos hname]
      exact ih.cons _
    · rw [if_neg hname]
      exact ih.cons_cons _

theorem mem_cloneMergeMembers {members : List (JsString × Json)} {entry : JsString × Json}
    (h : entry ∈ cloneMergeMembers members) : ∃ value, (entry.1, value) ∈ members ∧ entry.2 = cloneMergeJson value := by
  induction members with
  | nil => exact absurd h List.not_mem_nil
  | cons head members ih =>
    rw [cloneMergeMembers] at h
    by_cases hname : head.1 = prototypeName
    · rw [if_pos hname] at h
      obtain ⟨value, hmem, hvalue⟩ := ih h
      exact ⟨value, List.mem_cons_of_mem _ hmem, hvalue⟩
    · rw [if_neg hname] at h
      rcases List.mem_cons.mp h with rfl | h
      · exact ⟨head.2, List.mem_cons_self, rfl⟩
      · obtain ⟨value, hmem, hvalue⟩ := ih h
        exact ⟨value, List.mem_cons_of_mem _ hmem, hvalue⟩

theorem mem_cloneMergeItems {items : List Json} {copy : Json} (h : copy ∈ cloneMergeItems items) :
    ∃ item ∈ items, copy = cloneMergeJson item := by
  induction items with
  | nil => exact absurd h List.not_mem_nil
  | cons item items ih =>
    rw [cloneMergeItems] at h
    rcases List.mem_cons.mp h with rfl | h
    · exact ⟨item, List.mem_cons_self, rfl⟩
    · obtain ⟨other, hmem, hother⟩ := ih h
      exact ⟨other, List.mem_cons_of_mem _ hmem, hother⟩

/-! ## Copies without the key -/

theorem itemsHavePrototypeKey_eq_true {items : List Json} :
    itemsHavePrototypeKey items = true ↔ ∃ item ∈ items, hasPrototypeKey item = true := by
  induction items with
  | nil => simp [itemsHavePrototypeKey]
  | cons item items ih => simp [itemsHavePrototypeKey, ih]

theorem membersHavePrototypeKey_eq_true {members : List (JsString × Json)} :
    membersHavePrototypeKey members = true ↔
      ∃ entry ∈ members, entry.1 = prototypeName ∨ hasPrototypeKey entry.2 = true := by
  induction members with
  | nil => simp [membersHavePrototypeKey]
  | cons entry members ih => simp [membersHavePrototypeKey, ih]

mutual

/-- **A copy is the value, if no object of it has the key.** -/
theorem cloneMergeJson_eq_self : ∀ {value : Json}, hasPrototypeKey value = false → cloneMergeJson value = value
  | .null, _ | .bool _, _ | .num _, _ | .str _, _ => by rw [cloneMergeJson]
  | .arr items, h => by
      rw [hasPrototypeKey] at h
      rw [cloneMergeJson, cloneMergeItems_eq_self h]
  | .obj members, h => by
      rw [hasPrototypeKey] at h
      rw [cloneMergeJson, cloneMergeMembers_eq_self h]

theorem cloneMergeItems_eq_self : ∀ {items : List Json}, itemsHavePrototypeKey items = false →
    cloneMergeItems items = items
  | [], _ => by rw [cloneMergeItems]
  | item :: items, h => by
      rw [itemsHavePrototypeKey, Bool.or_eq_false_iff] at h
      rw [cloneMergeItems, cloneMergeJson_eq_self h.1, cloneMergeItems_eq_self h.2]

theorem cloneMergeMembers_eq_self : ∀ {members : List (JsString × Json)}, membersHavePrototypeKey members = false →
    cloneMergeMembers members = members
  | [], _ => by rw [cloneMergeMembers]
  | (key, value) :: members, h => by
      rw [membersHavePrototypeKey, Bool.or_eq_false_iff, Bool.or_eq_false_iff, decide_eq_false_iff_not] at h
      rw [cloneMergeMembers, if_neg h.1.1, cloneMergeJson_eq_self h.1.2, cloneMergeMembers_eq_self h.2]

end

mutual

theorem hasPrototypeKey_cloneMergeJson : ∀ value : Json, hasPrototypeKey (cloneMergeJson value) = false
  | .null | .bool _ | .num _ | .str _ => by rw [cloneMergeJson, hasPrototypeKey]
  | .arr items => by rw [cloneMergeJson, hasPrototypeKey, itemsHavePrototypeKey_cloneMergeItems items]
  | .obj members => by rw [cloneMergeJson, hasPrototypeKey, membersHavePrototypeKey_cloneMergeMembers members]

theorem itemsHavePrototypeKey_cloneMergeItems : ∀ items : List Json,
    itemsHavePrototypeKey (cloneMergeItems items) = false
  | [] => by rw [cloneMergeItems, itemsHavePrototypeKey]
  | item :: items => by
      rw [cloneMergeItems, itemsHavePrototypeKey, hasPrototypeKey_cloneMergeJson item,
        itemsHavePrototypeKey_cloneMergeItems items, Bool.or_false]

theorem membersHavePrototypeKey_cloneMergeMembers : ∀ members : List (JsString × Json),
    membersHavePrototypeKey (cloneMergeMembers members) = false
  | [] => by rw [cloneMergeMembers, membersHavePrototypeKey]
  | (key, value) :: members => by
      rw [cloneMergeMembers]
      by_cases hkey : key = prototypeName
      · rw [if_pos hkey, membersHavePrototypeKey_cloneMergeMembers members]
      · rw [if_neg hkey, membersHavePrototypeKey, hasPrototypeKey_cloneMergeJson value,
          membersHavePrototypeKey_cloneMergeMembers members, decide_eq_false hkey, Bool.or_false, Bool.or_false]

end

/-- Only then: a copy never has the key. -/
theorem cloneMergeJson_eq_self_iff {value : Json} : cloneMergeJson value = value ↔ hasPrototypeKey value = false := by
  constructor
  · intro h
    rw [← h]
    exact hasPrototypeKey_cloneMergeJson value
  · exact cloneMergeJson_eq_self

/-! ## The same values -/

theorem isValue_cloneMergeJson {value : Json} (h : value.IsValue) : (cloneMergeJson value).IsValue := by
  induction h with
  | null | bool | num | str =>
    rw [cloneMergeJson]
    constructor
  | arr _ ih =>
    rw [cloneMergeJson]
    refine .arr (fun copy hcopy => ?_)
    obtain ⟨item, hitem, rfl⟩ := mem_cloneMergeItems hcopy
    exact ih item hitem
  | obj hkeys _ ih =>
    rw [cloneMergeJson]
    refine .obj (hkeys.sublist (keys_cloneMergeMembers_sublist _)) (fun entry hentry => ?_)
    obtain ⟨value, hmem, hvalue⟩ := mem_cloneMergeMembers hentry
    rw [hvalue]
    exact ih _ hmem

/-- Values that are the same have the same copies. -/
theorem same_cloneMergeJson {a b : Json} (h : Json.Same a b) : Json.Same (cloneMergeJson a) (cloneMergeJson b) := by
  induction h with
  | null | bool | num | str =>
    rw [cloneMergeJson]
    constructor
  | @arr xs ys hlength _ ih =>
    rw [cloneMergeJson, cloneMergeJson]
    refine .arr ?_ (fun i x y hx hy => ?_)
    · rw [length_cloneMergeItems, length_cloneMergeItems, hlength]
    · rw [getElem?_cloneMergeItems, Option.map_eq_some_iff] at hx hy
      obtain ⟨x', hx', rfl⟩ := hx
      obtain ⟨y', hy', rfl⟩ := hy
      exact ih i x' y' hx' hy'
  | @obj a b hkeys _ ih =>
    rw [cloneMergeJson, cloneMergeJson]
    refine .obj (fun key => ?_) (fun key v w hv hw => ?_)
    · rw [mem_keys_cloneMergeMembers, mem_keys_cloneMergeMembers, hkeys]
    · rw [get_cloneMergeMembers] at hv hw
      by_cases hkey : key = prototypeName
      · rw [if_pos hkey] at hv
        cases hv
      · rw [if_neg hkey, Option.map_eq_some_iff] at hv hw
        obtain ⟨v', hv', rfl⟩ := hv
        obtain ⟨w', hw', rfl⟩ := hw
        exact ih key v' w' hv' hw'

theorem hasPrototypeKey_of_same {a b : Json} (h : Json.Same a b) (ha : a.IsValue)
    (hkey : hasPrototypeKey a = true) : hasPrototypeKey b = true := by
  induction h with
  | null | bool | num | str => exact hkey
  | @arr xs ys hlength _ ih =>
    rw [hasPrototypeKey, itemsHavePrototypeKey_eq_true] at hkey ⊢
    obtain ⟨x, hx, hkey⟩ := hkey
    obtain ⟨i, hi⟩ := List.mem_iff_getElem?.mp hx
    have hbound : i < ys.length := by
      rw [← hlength]
      exact (List.getElem?_eq_some_iff.mp hi).1
    have hy : ys[i]? = some ys[i] := List.getElem?_eq_getElem hbound
    exact ⟨ys[i], List.getElem_mem hbound, ih i x ys[i] hi hy (ha.items x hx) hkey⟩
  | @obj a b hkeys _ ih =>
    rw [hasPrototypeKey, membersHavePrototypeKey_eq_true] at hkey ⊢
    obtain ⟨⟨key, v⟩, hentry, hkey⟩ := hkey
    have hmem : key ∈ Record.keys b := (hkeys key).mp (List.mem_map_of_mem hentry)
    obtain ⟨w, hw⟩ := Option.ne_none_iff_exists'.mp (Record.mem_keys.mp hmem)
    refine ⟨(key, w), Record.mem_of_get hw, ?_⟩
    rcases hkey with hname | hvalue
    · exact .inl hname
    · have hv : Record.get a key = some v := Record.get_of_mem ha.members.1 hentry
      exact .inr (ih key v w hv hw (ha.members.2 _ hentry) hvalue)

end DeskMerge
