import CfFrappe.Core.LikeGlob
import CfFrappe.Core.Predicates
import CfFrappe.Lib.Sqlite

set_option autoImplicit false

/-! # `like` in memory and `GLOB` in SQL

The in-memory rule compiles a `like` pattern to a regular expression over code units, the SQL
one to a `GLOB` pattern over characters. Both read the pattern as the same list of items
(`likeItems`), each of which takes one unit, any unit or any run. On a text without surrogates
units are characters, and the two patterns match alike (`likePattern_agrees`); an item that is
half of a surrogate pair matches nothing on either side. `contains` is a `like` pattern whose needle is
escaped, so that it searches the text for the needle and nothing else (`containsFoldedText_iff`).
-/

open Utf

/-! ## The items of a pattern -/

inductive LikeItem
  | run
  | any
  | literal (u : UInt16)
  deriving DecidableEq

/-- The items of a pattern; `none` when it ends in a lone backslash. -/
def likeItems : JsString → Option (List LikeItem)
  | [] => some []
  | char :: rest =>
    if char = 0x5C then
      match rest with
      | [] => none
      | next :: rest => (likeItems rest).map (.literal next :: ·)
    else if char = 0x25 then (likeItems rest).map (.run :: ·)
    else if char = 0x5F then (likeItems rest).map (.any :: ·)
    else (likeItems rest).map (.literal char :: ·)

namespace LikeItem

def globText : LikeItem → JsString
  | run => js "*"
  | any => js "?"
  | literal u => globLiteral u

def regexItem : LikeItem → RegexItem
  | run => .anyRun
  | any => .any
  | literal u => .char u

/-- The unit of an item; a wildcard counts as one that is no surrogate. -/
def unit : LikeItem → UInt16
  | run => 0x25
  | any => 0x5F
  | literal u => u

end LikeItem

/-- The translation writes the items one by one. -/
theorem likeGlobPattern_eq (pattern : JsString) :
    likeGlobPattern pattern =
      match likeItems pattern with
      | none => .never
      | some items => .glob (items.flatMap LikeItem.globText) := by
  induction pattern using likeGlobPattern.induct with
  | case1 => rfl
  | case2 => rfl
  | case3 next rest ih =>
    simp only [likeGlobPattern, likeItems, if_true, ih]
    cases likeItems rest <;> rfl
  | case4 rest h1 ih =>
    rw [likeGlobPattern.eq_def, likeItems.eq_def]
    simp only [h1, if_false, if_true, ih]
    cases likeItems rest <;> rfl
  | case5 rest h1 h2 ih =>
    rw [likeGlobPattern.eq_def, likeItems.eq_def]
    simp only [h1, h2, if_false, if_true, ih]
    cases likeItems rest <;> rfl
  | case6 char rest h1 h2 h3 ih =>
    rw [likeGlobPattern.eq_def, likeItems.eq_def]
    simp only [h1, h2, h3, if_false, ih]
    cases likeItems rest <;> rfl

/-! ## The regular expression of a pattern -/

theorem parseRegex_escape (u : UInt16) (rest : JsString) :
    parseRegex (escapeRegex u ++ rest) = (parseRegex rest).map (.char u :: ·) := by
  unfold escapeRegex
  split_ifs with hu
  · show parseRegex (0x5C :: u :: rest) = _
    rw [parseRegex.eq_def]
    simp [hu]
  · have hne : ∀ v, isRegexSyntax v = true → u ≠ v := fun v hv heq => hu (heq ▸ hv)
    show parseRegex (u :: rest) = _
    rw [parseRegex.eq_def]
    simp [hne 0x5B (by decide), hne 0x28 (by decide), hne 0x5C (by decide), hu]

theorem parseRegex_anyRun (rest : JsString) :
    parseRegex (js "[\\s\\S]*" ++ rest) = (parseRegex rest).map (.anyRun :: ·) := rfl

variable {u v : UInt16} {rest text : JsString} {canonicalize : UInt16 → UInt16} {item : LikeItem}

/-- A source that does not start with a star. -/
theorem parseRegex_any (h : rest.head? ≠ some 0x2A) :
    parseRegex (js "[\\s\\S]" ++ rest) = (parseRegex rest).map (.any :: ·) := by
  cases rest with
  | nil => rfl
  | cons u rest =>
    have hu : u ≠ 0x2A := fun heq => h (by rw [heq]; rfl)
    show parseRegex (0x5B :: 0x5C :: 0x73 :: 0x5C :: 0x53 :: 0x5D :: u :: rest) = _
    rw [parseRegex.eq_def]
    simp [hu]

theorem likePatternRegex_head (pattern : JsString) : (likePatternRegex pattern).head? ≠ some 0x2A := by
  have hesc : ∀ u (rest : JsString), (escapeRegex u ++ rest).head? ≠ some 0x2A := by
    intro u rest
    unfold escapeRegex
    split_ifs with hu
    · simp
    · have hne : u ≠ 0x2A := fun heq => hu (by rw [heq]; decide)
      simpa using hne
  cases pattern with
  | nil => simp [likePatternRegex]
  | cons char rest =>
    rw [likePatternRegex.eq_def]
    simp only
    split_ifs
    · split
      · decide
      · exact hesc _ _
    · simp [js, utf16]
    · simp [js, utf16]
    · exact hesc _ _

/-- What `parseRegex` returns for the regular expression of a pattern. -/
def ParsedAs (source : JsString) : Option (List LikeItem) → Prop
  | some items => parseRegex source = some (items.map LikeItem.regexItem)
  | none => ∃ items, parseRegex source = some items ∧ RegexItem.fail ∈ items

theorem ParsedAs.cons {source : JsString} {items : Option (List LikeItem)} (h : ParsedAs rest items)
    (hstep : parseRegex source = (parseRegex rest).map (item.regexItem :: ·)) :
    ParsedAs source (items.map (item :: ·)) := by
  cases items with
  | none =>
    obtain ⟨parsed, hparsed, hfail⟩ := h
    exact ⟨item.regexItem :: parsed, by rw [hstep, hparsed]; rfl, List.mem_cons_of_mem _ hfail⟩
  | some items =>
    have hrest : parseRegex rest = some (items.map LikeItem.regexItem) := h
    show parseRegex source = some ((item :: items).map LikeItem.regexItem)
    rw [hstep, hrest]
    rfl

/-- **The regular expression of a pattern has the items of the pattern as its elements.** -/
theorem parseRegex_likePatternRegex (pattern : JsString) :
    ParsedAs (likePatternRegex pattern) (likeItems pattern) := by
  induction pattern using likeItems.induct with
  | case1 => exact rfl
  | case2 => exact ⟨[.fail], rfl, by simp⟩
  | case3 next rest ih =>
    rw [likePatternRegex.eq_def, likeItems.eq_def]
    simp only [if_true]
    exact ih.cons (parseRegex_escape next _)
  | case4 rest h1 ih =>
    rw [likePatternRegex.eq_def, likeItems.eq_def]
    simp only [h1, if_false, if_true]
    exact ih.cons (parseRegex_anyRun _)
  | case5 rest h1 h2 ih =>
    rw [likePatternRegex.eq_def, likeItems.eq_def]
    simp only [h1, h2, if_false, if_true]
    exact ih.cons (parseRegex_any (likePatternRegex_head rest))
  | case6 char rest h1 h2 h3 ih =>
    rw [likePatternRegex.eq_def, likeItems.eq_def]
    simp only [h1, h2, h3, if_false]
    exact ih.cons (parseRegex_escape char _)

/-! ## Surrogates in a pattern -/

/-- A surrogate in a well-formed string is a high one followed by a low one. -/
theorem wellFormed_cons_surrogate (h : WellFormed (u :: rest)) (hu : isSurrogate u = true) :
    ∃ v rest', rest = v :: rest' ∧ (isHighSurrogate u && isLowSurrogate v) = true ∧ WellFormed rest' := by
  cases rest with
  | nil =>
    have hu' := h u.toNat (by simp [codePoints])
    simp only [isSurrogatePoint, isSurrogate] at hu hu'
    rw [hu] at hu'
    simp at hu'
  | cons v rest' =>
    by_cases hp : (isHighSurrogate u && isLowSurrogate v) = true
    · refine ⟨v, rest', rfl, hp, fun c hc => h c ?_⟩
      rw [codePoints, if_pos hp]
      exact List.mem_cons_of_mem _ hc
    · have hu' := h u.toNat (by rw [codePoints, if_neg hp]; exact List.mem_cons_self)
      simp only [isSurrogatePoint, isSurrogate] at hu hu'
      rw [hu] at hu'
      simp at hu'

theorem wellFormed_cons_plain (hu : isSurrogate u = false) : WellFormed (u :: rest) ↔ WellFormed rest := by
  unfold WellFormed
  rw [codePoints_cons hu, List.forall_mem_cons]
  simp only [and_iff_right_iff_imp]
  intro _
  exact hu

theorem wellFormed_cons_pair (hp : (isHighSurrogate u && isLowSurrogate v) = true) (h : WellFormed rest) :
    WellFormed (u :: v :: rest) := by
  intro c hc
  rw [codePoints, if_pos hp, List.mem_cons] at hc
  rcases hc with hc | hc
  · simp only [isHighSurrogate, isLowSurrogate, Bool.and_eq_true, decide_eq_true_eq] at hp
    simp only [isSurrogatePoint, Bool.and_eq_false_iff, decide_eq_false_iff_not]
    unfold pairCodePoint at hc
    omega
  · exact h c hc

/-- The units of the items of a pattern. -/
def itemUnits (items : List LikeItem) : JsString := items.map LikeItem.unit

theorem likeItems_literal (hu : isSurrogate u = true) (rest : JsString) :
    likeItems (u :: rest) = (likeItems rest).map (.literal u :: ·) := by
  have hne : ∀ v, isSurrogate v = false → u ≠ v := by
    rintro v hv rfl
    rw [hu] at hv
    exact absurd hv (by decide)
  rw [likeItems.eq_def]
  simp [hne 0x5C (by decide), hne 0x25 (by decide), hne 0x5F (by decide)]

/-- **The items of a well-formed pattern are well formed**: dropping the backslashes splits no
surrogate pair and makes none. -/
theorem wellFormed_itemUnits (n : Nat) : ∀ {pattern : JsString} {items : List LikeItem},
    pattern.length ≤ n → WellFormed pattern → likeItems pattern = some items →
    WellFormed (itemUnits items) := by
  induction n with
  | zero =>
    intro pattern items hlen hwf hitems
    rw [Nat.le_zero, List.length_eq_zero_iff] at hlen
    subst hlen
    rw [likeItems, Option.some.injEq] at hitems
    subst hitems
    exact hwf
  | succ n ih =>
    intro pattern items hlen hwf hitems
    cases pattern with
    | nil => exact ih (by simp) hwf hitems
    | cons u rest =>
      rw [List.length_cons, Nat.add_le_add_iff_right] at hlen
      -- a literal unit, on its own or after a backslash
      have hliteral : ∀ {v : UInt16} {tail : JsString} {items : List LikeItem},
          tail.length ≤ n → WellFormed (v :: tail) →
          (likeItems tail).map (LikeItem.literal v :: ·) = some items →
          WellFormed (itemUnits items) := by
        intro v tail items hlen hwf hitems
        rw [Option.map_eq_some_iff] at hitems
        obtain ⟨items', hitems', rfl⟩ := hitems
        cases hv : isSurrogate v with
        | false =>
          exact (wellFormed_cons_plain hv).2 (ih hlen ((wellFormed_cons_plain hv).1 hwf) hitems')
        | true =>
          obtain ⟨w, tail', rfl, hp, hwf'⟩ := wellFormed_cons_surrogate hwf hv
          have hw : isSurrogate w = true := by
            simp only [isHighSurrogate, isLowSurrogate, isSurrogate, Bool.and_eq_true, decide_eq_true_eq] at hp ⊢
            omega
          rw [likeItems_literal hw, Option.map_eq_some_iff] at hitems'
          obtain ⟨items'', hitems'', rfl⟩ := hitems'
          rw [List.length_cons] at hlen
          exact wellFormed_cons_pair hp (ih (by omega) hwf' hitems'')
      have hwild : ∀ {item : LikeItem}, isSurrogate item.unit = false → isSurrogate u = false →
          (likeItems rest).map (item :: ·) = some items → WellFormed (itemUnits items) := by
        intro item hitem hu hitems
        rw [Option.map_eq_some_iff] at hitems
        obtain ⟨items', hitems', rfl⟩ := hitems
        exact (wellFormed_cons_plain hitem).2 (ih hlen ((wellFormed_cons_plain hu).1 hwf) hitems')
      rw [likeItems.eq_def] at hitems
      simp only at hitems
      split_ifs at hitems with h1 h2 h3
      · cases rest with
        | nil => simp at hitems
        | cons next rest =>
          rw [List.length_cons] at hlen
          subst h1
          exact hliteral (by omega) ((wellFormed_cons_plain (by decide)).1 hwf) hitems
      · subst h2
        exact hwild (by decide) (by decide) hitems
      · subst h3
        exact hwild (by decide) (by decide) hitems
      · exact hliteral hlen hwf hitems

/-! ## The `GLOB` pattern of the items -/

theorem likeGlobCaseFoldGroup_plain {group : JsString} (h : likeGlobCaseFoldGroup u = some group) :
    ∀ v ∈ group, isPlainMember v.toNat = true := by
  obtain ⟨hmem, -⟩ := likeGlobCaseFoldGroup_eq_some h
  rw [caseFoldGroups, List.mem_map] at hmem
  obtain ⟨table, htable, rfl⟩ := hmem
  intro v hv
  rw [List.mem_map] at hv
  obtain ⟨c, hc, rfl⟩ := hv
  have hplain := caseFoldTable_plain table htable c hc
  have hlt : c < 0x10000 := by
    simp only [isPlainMember, Bool.and_eq_true, decide_eq_true_eq] at hplain
    exact hplain.1.1
  rw [UInt16.toNat_ofNat', Nat.mod_eq_of_lt (by omega)]
  exact hplain

open Sqlite (globAtoms classAccepts globMatches)

/-- A character that is a member of a class wherever it stands in it. -/
def isClassMember (c : Nat) : Bool := c != 0x5D && c != 0x2D && c != 0x5E

theorem globAtoms_inside (members : List Nat) (hmembers : ∀ c ∈ members, isClassMember c = true)
    (invert : Bool) (prior : Option Nat) (seen : List (Nat × Nat)) (rest : List Nat) :
    globAtoms (.inside invert prior seen) (members ++ 0x5D :: rest) =
      (globAtoms .outer rest).map
        (.one (classAccepts invert (members.reverse.map (fun c => (c, c)) ++ seen)) :: ·) := by
  induction members generalizing prior seen with
  | nil => simp [globAtoms]
  | cons c members ih =>
    rw [List.forall_mem_cons] at hmembers
    have hc := hmembers.1
    simp only [isClassMember, Bool.and_eq_true, bne_iff_ne, ne_eq] at hc
    have hstep : globAtoms (.inside invert prior seen) (c :: (members ++ 0x5D :: rest)) =
        globAtoms (.inside invert (some c) ((c, c) :: seen)) (members ++ 0x5D :: rest) := by
      rw [globAtoms, if_neg hc.1.1]
      · rfl
      · intro p d rest' _ hdash
        simp [hc.1.2] at hdash
    rw [List.cons_append, hstep, ih hmembers.2]
    simp

/-- A class that lists its members. -/
theorem globAtoms_class {members : List Nat} (hne : members ≠ [])
    (hmembers : ∀ c ∈ members, isClassMember c = true) (rest : List Nat) :
    globAtoms .outer (0x5B :: (members ++ 0x5D :: rest)) =
      (globAtoms .outer rest).map (.one (classAccepts false (members.reverse.map (fun c => (c, c)))) :: ·) := by
  obtain ⟨c, members, rfl⟩ := List.exists_cons_of_ne_nil hne
  rw [List.forall_mem_cons] at hmembers
  have hc := hmembers.1
  simp only [isClassMember, Bool.and_eq_true, bne_iff_ne, ne_eq] at hc
  have hstep : globAtoms .outer (0x5B :: c :: (members ++ 0x5D :: rest)) =
      globAtoms (.inside false (some c) [(c, c)]) (members ++ 0x5D :: rest) := by
    show globAtoms .opened (c :: (members ++ 0x5D :: rest)) = _
    rw [globAtoms, if_neg hc.2, if_neg hc.1.1]
    rfl
  rw [List.cons_append, hstep, globAtoms_inside members hmembers.2]
  simp

theorem classAccepts_members (members : List Nat) (c : Nat) :
    classAccepts false (members.reverse.map (fun c => (c, c))) c = decide (c ∈ members) := by
  rw [Bool.eq_iff_iff, decide_eq_true_eq, classAccepts, bne_iff_ne, ne_eq, Bool.not_eq_false, List.any_eq_true]
  constructor
  · rintro ⟨m, hm, hle⟩
    rw [List.mem_map] at hm
    obtain ⟨d, hd, rfl⟩ := hm
    simp only [Bool.and_eq_true, decide_eq_true_eq] at hle
    have hcd : c = d := by omega
    rw [hcd]
    exact List.mem_reverse.1 hd
  · intro hc
    exact ⟨(c, c), List.mem_map.2 ⟨c, List.mem_reverse.2 hc, rfl⟩, by simp⟩

/-- A character outside of every class. -/
theorem globAtoms_literal {c : Nat} (h : c ≠ 0x2A ∧ c ≠ 0x3F ∧ c ≠ 0x5B) (rest : List Nat) :
    globAtoms .outer (c :: rest) = (globAtoms .outer rest).map (.one (· == c) :: ·) := by
  rw [globAtoms, if_neg h.1, if_neg h.2.1, if_neg h.2.2]

/-- The code points of a text without surrogates and what follows it. -/
theorem codePoints_plain_append {s : JsString} (h : SurrogateFree s) (rest : JsString) :
    codePoints (s ++ rest) = s.map UInt16.toNat ++ codePoints rest := by
  induction s with
  | nil => rfl
  | cons u s ih =>
    rw [SurrogateFree, List.forall_mem_cons] at h
    rw [List.cons_append, codePoints_cons h.1, ih h.2]
    rfl

/-- The class of the units of a string, accepting their code numbers. -/
def unitClass (members : JsString) : Wildcard.Atom Nat :=
  .one (classAccepts false ((members.map UInt16.toNat).reverse.map (fun c => (c, c))))

theorem globAtoms_bracketed {members : JsString} (hne : members ≠ [])
    (hmembers : ∀ v ∈ members, isSurrogate v = false ∧ isClassMember v.toNat = true)
    (rest : JsString) :
    globAtoms .outer (codePoints (js "[" ++ members ++ js "]" ++ rest)) =
      (globAtoms .outer (codePoints rest)).map (unitClass members :: ·) := by
  have hclass : ∀ c ∈ members.map UInt16.toNat, isClassMember c = true := by
    intro c hc
    rw [List.mem_map] at hc
    obtain ⟨v, hv, rfl⟩ := hc
    exact (hmembers v hv).2
  rw [List.append_assoc, List.append_assoc, codePoints_plain_append (by decide),
    codePoints_plain_append (fun v hv => (hmembers v hv).1), codePoints_plain_append (by decide)]
  exact globAtoms_class (by simpa using hne) hclass _

/-- A character of a text without surrogates. -/
def IsTextUnit (u : UInt16) : Prop := isSurrogate u = false

/-- **One item**: its `GLOB` text adds one atom, which takes the same characters as the item. -/
theorem globAtoms_item (hfold : FoldsAsTable canonicalize) (hitem : isSurrogate item.unit = false) (rest : JsString) :
    ∃ atom, globAtoms .outer (codePoints (item.globText ++ rest)) =
        (globAtoms .outer (codePoints rest)).map (atom :: ·) ∧
      Wildcard.Agree UInt16.toNat IsTextUnit (item.regexItem.atom canonicalize) atom := by
  cases item with
  | run => exact ⟨.star, by rw [codePoints_plain_append (by decide)]; rfl, trivial⟩
  | any =>
    exact ⟨.one (fun _ => true), by rw [codePoints_plain_append (by decide)]; rfl, fun _ _ => rfl⟩
  | literal u =>
    have hu : isSurrogate u = false := hitem
    cases hgroup : likeGlobCaseFoldGroup u with
    | some group =>
      obtain ⟨hmem, hug⟩ := likeGlobCaseFoldGroup_eq_some hgroup
      have hmembers : ∀ v ∈ group, isSurrogate v = false ∧ isClassMember v.toNat = true := by
        intro v hv
        have hv' := likeGlobCaseFoldGroup_plain hgroup v hv
        simp only [isPlainMember, Bool.and_eq_true, Bool.not_eq_true', List.contains_eq_mem,
          decide_eq_false_iff_not, List.mem_cons, not_or] at hv'
        exact ⟨hv'.1.2, by simp [isClassMember, hv'.2]⟩
      have htext : (LikeItem.literal u).globText = js "[" ++ group ++ js "]" := by
        simp only [LikeItem.globText, globLiteral, hgroup]
      refine ⟨unitClass group, ?_, ?_⟩
      · rw [htext]
        exact globAtoms_bracketed (List.ne_nil_of_mem hug) hmembers rest
      · intro v _
        rw [classAccepts_members, Bool.eq_iff_iff, beq_iff_eq, decide_eq_true_eq, hfold, List.mem_map]
        constructor
        · rintro (rfl | ⟨g, hg, hvg, hug'⟩)
          · exact ⟨v, hug, rfl⟩
          · exact ⟨v, caseFoldGroups_disjoint hg hmem hug' hug ▸ hvg, rfl⟩
        · rintro ⟨w, hw, heq⟩
          rw [UInt16.toNat_inj] at heq
          exact Or.inr ⟨group, hmem, heq ▸ hw, hug⟩
    | none =>
      -- a character of its own: a class only to take away its meaning
      have hsame : ∀ v, canonicalize v = canonicalize u ↔ v = u := by
        intro v
        rw [hfold]
        constructor
        · rintro (h | ⟨g, hg, _, hug⟩)
          · exact h
          · exact absurd hug (likeGlobCaseFoldGroup_eq_none hgroup hg)
        · exact Or.inl
      by_cases hmeta : isGlobMetacharacter u = true
      · have htext : (LikeItem.literal u).globText = js "[" ++ [u] ++ js "]" := by
          simp only [LikeItem.globText, globLiteral, hgroup, hmeta, if_true]
        have hclass : isClassMember u.toNat = true := by
          simp only [isGlobMetacharacter, Bool.or_eq_true, beq_iff_eq] at hmeta
          rcases hmeta with (rfl | rfl) | rfl <;> decide
        refine ⟨unitClass [u], ?_, ?_⟩
        · rw [htext]
          exact globAtoms_bracketed (by simp) (by simpa using ⟨hu, hclass⟩) rest
        · intro v _
          rw [classAccepts_members, Bool.eq_iff_iff, beq_iff_eq, decide_eq_true_eq, hsame]
          simp [UInt16.toNat_inj]
      · have htext : (LikeItem.literal u).globText = [u] := by
          simp only [LikeItem.globText, globLiteral, hgroup, hmeta, if_false, Bool.false_eq_true]
        have hne : u.toNat ≠ 0x2A ∧ u.toNat ≠ 0x3F ∧ u.toNat ≠ 0x5B := by
          simp only [isGlobMetacharacter, Bool.or_eq_true, beq_iff_eq, not_or] at hmeta
          exact ⟨fun h => hmeta.1.1 (UInt16.toNat_inj.1 h), fun h => hmeta.1.2 (UInt16.toNat_inj.1 h),
            fun h => hmeta.2 (UInt16.toNat_inj.1 h)⟩
        refine ⟨.one (· == u.toNat), ?_, ?_⟩
        · rw [htext, List.singleton_append, codePoints_cons hu]
          exact globAtoms_literal hne _
        · intro v _
          rw [Bool.eq_iff_iff, beq_iff_eq, beq_iff_eq, hsame, UInt16.toNat_inj]

/-- A surrogate is written as itself. -/
theorem globLiteral_surrogate {w : UInt16} (hw : isSurrogate w = true) : globLiteral w = [w] := by
  have hgroup : likeGlobCaseFoldGroup w = none := by
    cases h : likeGlobCaseFoldGroup w with
    | none => rfl
    | some group =>
      have hplain := likeGlobCaseFoldGroup_plain h w (likeGlobCaseFoldGroup_eq_some h).2
      simp only [isPlainMember, Bool.and_eq_true, Bool.not_eq_true'] at hplain
      have hw' : isSurrogatePoint w.toNat = true := hw
      rw [hw'] at hplain
      simp at hplain
  have hmeta : isGlobMetacharacter w = false := by
    rw [← Bool.not_eq_true]
    intro h
    simp only [isGlobMetacharacter, Bool.or_eq_true, beq_iff_eq] at h
    rcases h with (rfl | rfl) | rfl <;> exact absurd hw (by decide)
  simp only [globLiteral, hgroup, hmeta, Bool.false_eq_true, if_false]

/-- A plain item is written without surrogates. -/
theorem surrogateFree_globText (hitem : isSurrogate item.unit = false) : SurrogateFree item.globText := by
  cases item with
  | run => decide
  | any => decide
  | literal u =>
    have hu : isSurrogate u = false := hitem
    have hbrackets : ∀ {s : JsString}, SurrogateFree s → SurrogateFree (js "[" ++ s ++ js "]") := by
      intro s hs v hv
      simp only [List.mem_append] at hv
      rcases hv with (hv | hv) | hv
      · exact (by decide : SurrogateFree (js "[")) v hv
      · exact hs v hv
      · exact (by decide : SurrogateFree (js "]")) v hv
    have hself : SurrogateFree [u] := by simpa [SurrogateFree] using hu
    show SurrogateFree (globLiteral u)
    unfold globLiteral
    split
    · rename_i group hgroup
      refine hbrackets (fun v hv => ?_)
      have hplain := likeGlobCaseFoldGroup_plain hgroup v hv
      simp only [isPlainMember, Bool.and_eq_true, Bool.not_eq_true'] at hplain
      exact hplain.1.2
    · split_ifs
      · exact hbrackets hself
      · exact hself

theorem wellFormed_append_plain {s t : JsString} (hs : SurrogateFree s) (ht : WellFormed t) :
    WellFormed (s ++ t) := by
  intro c hc
  rw [codePoints_plain_append hs, List.mem_append] at hc
  rcases hc with hc | hc
  · rw [List.mem_map] at hc
    obtain ⟨u, hu, rfl⟩ := hc
    exact hs u hu
  · exact ht c hc

/-- A surrogate pair in a pattern is a character of its own, which no text without surrogates
has. -/
theorem globAtoms_pair (hp : (isHighSurrogate u && isLowSurrogate v) = true) (rest : JsString) :
    globAtoms .outer (codePoints ((LikeItem.literal u).globText ++
        ((LikeItem.literal v).globText ++ rest))) =
      (globAtoms .outer (codePoints rest)).map (.one (· == pairCodePoint u v) :: ·) := by
  have hp' := hp
  simp only [isHighSurrogate, isLowSurrogate, Bool.and_eq_true, decide_eq_true_eq] at hp'
  have hu : isSurrogate u = true := by
    simp only [isSurrogate, Bool.and_eq_true, decide_eq_true_eq]
    omega
  have hv : isSurrogate v = true := by
    simp only [isSurrogate, Bool.and_eq_true, decide_eq_true_eq]
    omega
  have hbig : 0x10000 ≤ pairCodePoint u v := by
    unfold pairCodePoint
    omega
  show globAtoms .outer (codePoints (globLiteral u ++ (globLiteral v ++ rest))) = _
  rw [globLiteral_surrogate hu, globLiteral_surrogate hv]
  show globAtoms .outer (codePoints (u :: v :: rest)) = _
  rw [codePoints, if_pos hp]
  exact globAtoms_literal ⟨by omega, by omega, by omega⟩ _

/-- How the atoms of a `GLOB` pattern stand to the items: one by one they take the same
characters, or the items hold a surrogate and the atoms one that takes no plain character. -/
def Translates (canonicalize : UInt16 → UInt16) (items : List LikeItem) (atoms : List (Wildcard.Atom Nat)) : Prop :=
  List.Forall₂ (Wildcard.Agree UInt16.toNat IsTextUnit)
    (items.map (fun item => item.regexItem.atom canonicalize)) atoms ∨
  (∃ item ∈ items, isSurrogate item.unit = true) ∧
    ∃ atom ∈ atoms, ∀ text : JsString, SurrogateFree text → Wildcard.Dead (text.map UInt16.toNat) atom

theorem globAtoms_items (hfold : FoldsAsTable canonicalize) (n : Nat) :
    ∀ {items : List LikeItem}, items.length ≤ n → WellFormed (itemUnits items) →
    WellFormed (items.flatMap LikeItem.globText) ∧
    ∃ atoms, globAtoms .outer (codePoints (items.flatMap LikeItem.globText)) = some atoms ∧
      Translates canonicalize items atoms := by
  have hnil : WellFormed (([] : List LikeItem).flatMap LikeItem.globText) := by decide
  induction n with
  | zero =>
    intro items hlen _
    rw [Nat.le_zero, List.length_eq_zero_iff] at hlen
    subst hlen
    exact ⟨hnil, [], rfl, Or.inl .nil⟩
  | succ n ih =>
    intro items hlen hwf
    cases items with
    | nil => exact ⟨hnil, [], rfl, Or.inl .nil⟩
    | cons item items =>
      rw [List.length_cons, Nat.add_le_add_iff_right] at hlen
      have hunits : itemUnits (item :: items) = item.unit :: itemUnits items := rfl
      rw [hunits] at hwf
      cases hitem : isSurrogate item.unit with
      | false =>
        obtain ⟨hglob, atoms, hatoms, htrans⟩ := ih hlen ((wellFormed_cons_plain hitem).1 hwf)
        obtain ⟨atom, hatom, hagree⟩ := globAtoms_item hfold hitem (items.flatMap LikeItem.globText)
        refine ⟨wellFormed_append_plain (surrogateFree_globText hitem) hglob, atom :: atoms, ?_, ?_⟩
        · rw [List.flatMap_cons, hatom, hatoms]
          rfl
        · rcases htrans with hall | ⟨⟨i, hi, hsur⟩, a, ha, hdead⟩
          · exact Or.inl (.cons hagree hall)
          · exact Or.inr ⟨⟨i, List.mem_cons_of_mem _ hi, hsur⟩, a, List.mem_cons_of_mem _ ha, hdead⟩
      | true =>
        -- a surrogate comes with the other half of its pair
        obtain ⟨v, rest', hrest, hp, hwf'⟩ := wellFormed_cons_surrogate hwf hitem
        cases items with
        | nil => simp [itemUnits] at hrest
        | cons item' items =>
          have hunits' : itemUnits (item' :: items) = item'.unit :: itemUnits items := rfl
          rw [hunits', List.cons.injEq] at hrest
          obtain ⟨rfl, rfl⟩ := hrest
          have hliteral : ∀ i : LikeItem, isSurrogate i.unit = true → i = .literal i.unit := by
            intro i hi
            cases i with
            | run => exact absurd hi (by decide)
            | any => exact absurd hi (by decide)
            | literal u => rfl
          have hitem' : isSurrogate item'.unit = true := by
            simp only [isHighSurrogate, isLowSurrogate, isSurrogate, Bool.and_eq_true, decide_eq_true_eq] at hp ⊢
            omega
          rw [List.length_cons] at hlen
          obtain ⟨hglob, atoms, hatoms, -⟩ := ih (by omega : items.length ≤ n) hwf'
          have hpair := globAtoms_pair hp (items.flatMap LikeItem.globText)
          rw [← hliteral item hitem, ← hliteral item' hitem'] at hpair
          refine ⟨?_, .one (· == pairCodePoint item.unit item'.unit) :: atoms, ?_, Or.inr ⟨?_, ?_⟩⟩
          · rw [hliteral item hitem, hliteral item' hitem', List.flatMap_cons, List.flatMap_cons]
            show WellFormed (globLiteral item.unit ++ (globLiteral item'.unit ++ _))
            rw [globLiteral_surrogate hitem, globLiteral_surrogate hitem']
            exact wellFormed_cons_pair hp hglob
          · rw [List.flatMap_cons, List.flatMap_cons, hpair, hatoms]
            rfl
          · exact ⟨item, List.mem_cons_self, hitem⟩
          · refine ⟨_, List.mem_cons_self, ?_⟩
            intro text _ c hc
            rw [List.mem_map] at hc
            obtain ⟨w, _, rfl⟩ := hc
            have hw : w.toNat < 0x10000 := w.toNat_lt
            have hbig : 0x10000 ≤ pairCodePoint item.unit item'.unit := by
              unfold pairCodePoint
              omega
            simp only [beq_eq_false_iff_ne, ne_eq]
            omega

/-- A surrogate is folded with no plain character. -/
theorem canonicalize_surrogate_ne (hfold : FoldsAsTable canonicalize) (hu : isSurrogate u = false)
    (hv : isSurrogate v = true) : canonicalize u ≠ canonicalize v := by
  intro h
  rw [hfold] at h
  rcases h with rfl | ⟨g, hg, _, hvg⟩
  · rw [hu] at hv
    exact absurd hv (by decide)
  · have hplain := likeGlobCaseFoldGroup_plain (likeGlobCaseFoldGroup_of_mem hg hvg) v hvg
    simp only [isPlainMember, Bool.and_eq_true, Bool.not_eq_true'] at hplain
    have hv' : isSurrogatePoint v.toNat = true := hv
    rw [hv'] at hplain
    simp at hplain

theorem accepts_translates (hfold : FoldsAsTable canonicalize) {items : List LikeItem}
    {atoms : List (Wildcard.Atom Nat)} (h : Translates canonicalize items atoms) (ht : SurrogateFree text) :
    Wildcard.accepts (items.map (fun item => item.regexItem.atom canonicalize)) text =
      Wildcard.accepts atoms (text.map UInt16.toNat) := by
  rcases h with hall | ⟨⟨item, hitem, hsur⟩, atom, hatom, hdead⟩
  · exact Wildcard.accepts_congr hall text ht
  · rw [Wildcard.accepts_of_dead hatom (hdead text ht)]
    refine Wildcard.accepts_of_dead (List.mem_map.2 ⟨item, hitem, rfl⟩) ?_
    cases item with
    | run => exact absurd hsur (by decide)
    | any => exact absurd hsur (by decide)
    | literal u =>
      intro c hc
      simp only [beq_eq_false_iff_ne, ne_eq]
      exact canonicalize_surrogate_ne hfold (ht c hc) hsur

/-- **`like` in memory and `GLOB` in SQL match the same texts without surrogates.** -/
theorem likePattern_agrees (hfold : FoldsAsTable canonicalize) {pattern : JsString} (hp : WellFormed pattern)
    (ht : SurrogateFree text) :
    match likeGlobPattern pattern with
    | .never => regexTest canonicalize (likePatternRegex pattern) text = false
    | .glob translated =>
      regexTest canonicalize (likePatternRegex pattern) text =
        globMatches (codePoints text) ((codePoints translated).map scalarOf) := by
  have hparsed := parseRegex_likePatternRegex pattern
  rw [likeGlobPattern_eq]
  cases hitems : likeItems pattern with
  | none =>
    rw [hitems] at hparsed
    obtain ⟨items, hsource, hfail⟩ := hparsed
    simp only
    rw [regexTest, hsource]
    exact Wildcard.accepts_of_dead (List.mem_map.2 ⟨.fail, hfail, rfl⟩) (fun _ _ => rfl)
  | some items =>
    rw [hitems] at hparsed
    have hsource : parseRegex (likePatternRegex pattern) = some (items.map LikeItem.regexItem) := hparsed
    obtain ⟨hglob, atoms, hatoms, htrans⟩ :=
      globAtoms_items hfold items.length le_rfl (wellFormed_itemUnits _ le_rfl hp hitems)
    simp only
    rw [regexTest, hsource, globMatches, map_scalarOf_codePoints hglob, hatoms, codePoints_of_surrogateFree text ht]
    simp only
    rw [← accepts_translates hfold htrans ht, List.map_map]
    rfl

/-- A string that SQL reads as it stands in memory: without surrogates, and without the character that
ends a text there. -/
def IsSqlText (text : JsString) : Prop := SurrogateFree text ∧ 0x00 ∉ text

instance (text : JsString) : Decidable (IsSqlText text) := inferInstanceAs (Decidable (_ ∧ _))

theorem wellFormed_of_surrogateFree (h : SurrogateFree text) : WellFormed text := by
  intro c hc
  rw [codePoints_of_surrogateFree text h, List.mem_map] at hc
  obtain ⟨u, hu, rfl⟩ := hc
  exact h u hu

theorem ofString_of_surrogateFree (h : SurrogateFree text) : Sqlite.ofString text = .text (codePoints text) := by
  rw [Sqlite.ofString, map_scalarOf_codePoints (wellFormed_of_surrogateFree h)]

/-- **The translation of a `like` pattern is exact.** A pattern without translation matches nothing, and
the `GLOB` pattern of any other matches what the pattern matches in memory. -/
theorem likeGlobPattern_exact {canonicalize : UInt16 → UInt16} (hfold : FoldsAsTable canonicalize)
    {pattern : JsString} (hpattern : IsSqlText pattern) :
    (likeGlobPattern pattern = .never → ∀ text, likePatternMatches canonicalize (.value (.str text)) pattern = false) ∧
    ∀ translated, likeGlobPattern pattern = .glob translated → ∀ text, IsSqlText text →
      (Sqlite.applyOperator .glob (Sqlite.ofString text) (Sqlite.ofString translated) = some (some true) ↔
        likePatternMatches canonicalize (.value (.str text)) pattern = true) := by
  constructor
  · intro hnever text
    rw [likeGlobPattern_eq] at hnever
    have hparsed := parseRegex_likePatternRegex pattern
    cases hitems : likeItems pattern with
    | some items =>
      rw [hitems] at hnever
      cases hnever
    | none =>
      rw [hitems] at hparsed
      obtain ⟨items, hsource, hfail⟩ := hparsed
      show regexTest canonicalize (likePatternRegex pattern) text = false
      rw [regexTest, hsource]
      -- the assertion that always fails takes no character of any text
      exact Wildcard.accepts_of_dead (List.mem_map.2 ⟨.fail, hfail, rfl⟩) (fun _ _ => rfl)
  · intro translated htranslated text htext
    have hagrees := likePattern_agrees hfold (wellFormed_of_surrogateFree hpattern.1) htext.1
    rw [htranslated] at hagrees
    have hglob : Sqlite.applyOperator .glob (Sqlite.ofString text) (Sqlite.ofString translated) =
        some (some (globMatches (codePoints text) ((codePoints translated).map scalarOf))) := by
      rw [ofString_of_surrogateFree htext.1]
      rfl
    have hmemory : likePatternMatches canonicalize (.value (.str text)) pattern =
        globMatches (codePoints text) ((codePoints translated).map scalarOf) := hagrees
    rw [hglob, hmemory, Option.some.injEq, Option.some.injEq]

theorem likeGlobPattern_exact_contains :
    Sqlite.applyOperator .glob (Sqlite.ofString (js "x-Rows")) (Sqlite.ofString (js "*[Rr][Oo]?[Ss]"))
        = some (some true) ↔
      likePatternMatches tableCanonicalize (.value (.str (js "x-Rows"))) (js "%ro_\\s") = true :=
  (likeGlobPattern_exact tableCanonicalize_foldsAsTable (by decide)).2 _ (by decide +kernel) _ (by decide)

/-! ## `contains` -/

theorem likeItems_escapeLikePattern (needle rest : JsString) :
    likeItems (escapeLikePattern needle ++ rest) = (likeItems rest).map (needle.map LikeItem.literal ++ ·) := by
  induction needle with
  | nil => simp [escapeLikePattern]
  | cons u needle ih =>
    have hsplit : escapeLikePattern (u :: needle) ++ rest =
        (if u = 0x5C ∨ u = 0x25 ∨ u = 0x5F then [0x5C, u] else [u]) ++ (escapeLikePattern needle ++ rest) := by
      rw [escapeLikePattern, List.flatMap_cons, List.append_assoc]
      rfl
    have hstep : likeItems (escapeLikePattern (u :: needle) ++ rest) =
        (likeItems (escapeLikePattern needle ++ rest)).map (LikeItem.literal u :: ·) := by
      rw [hsplit]
      split_ifs with hu
      · rfl
      · rw [not_or, not_or] at hu
        rw [List.singleton_append, likeItems.eq_def]
        simp [hu.1, hu.2.1, hu.2.2]
    rw [hstep, ih, Option.map_map]
    rfl

/-- The items of a `contains` pattern: the needle, and a run on either side. -/
theorem likeItems_containsLikePattern (needle : JsString) :
    likeItems (containsLikePattern needle) = some (.run :: (needle.map LikeItem.literal ++ [.run])) := by
  have hescaped := likeItems_escapeLikePattern needle (js "%")
  have hpattern : containsLikePattern needle = 0x25 :: (escapeLikePattern needle ++ js "%") := rfl
  rw [hpattern, likeItems.eq_def]
  simp only [hescaped]
  rfl

/-- **`contains` is substring search**, with characters compared as a regular expression with the `i` flag
compares them. Every character of the needle stands for itself in the pattern's expression. -/
theorem containsFoldedText_iff (canonicalize : UInt16 → UInt16) (value needle : JsString) :
    parseRegex (likePatternRegex (containsLikePattern needle)) =
      some (.anyRun :: (needle.map RegexItem.char ++ [.anyRun])) ∧
    (containsFoldedText canonicalize value needle = true ↔
      ∃ before block after, value = before ++ block ++ after ∧
        List.Forall₂ (fun u c => canonicalize c = canonicalize u) needle block) := by
  have hparsed := parseRegex_likePatternRegex (containsLikePattern needle)
  rw [likeItems_containsLikePattern] at hparsed
  have hsource : parseRegex (likePatternRegex (containsLikePattern needle)) =
      some (.anyRun :: (needle.map RegexItem.char ++ [.anyRun])) := by
    have hitems : parseRegex (likePatternRegex (containsLikePattern needle)) = some (_ : List RegexItem) := hparsed
    rw [hitems]
    simp [LikeItem.regexItem]
  refine ⟨hsource, ?_⟩
  have htest : containsFoldedText canonicalize value needle = Wildcard.accepts
      (.star :: ((needle.map (fun u c => canonicalize c == canonicalize u)).map Wildcard.Atom.one ++ [.star])) value := by
    show regexTest canonicalize (likePatternRegex (containsLikePattern needle)) value = _
    rw [regexTest, hsource]
    simp [RegexItem.atom, Function.comp_def]
  rw [htest, Wildcard.accepts_star]
  constructor
  · rintro ⟨before, rest, rfl, haccepts⟩
    obtain ⟨block, after, rfl, hblock, -⟩ := Wildcard.accepts_ones.mp haccepts
    refine ⟨before, block, after, (List.append_assoc _ _ _).symm, ?_⟩
    rw [List.forall₂_map_left_iff] at hblock
    exact hblock.imp (fun u c hc => by simpa using hc)
  · rintro ⟨before, block, after, rfl, hblock⟩
    refine ⟨before, block ++ after, List.append_assoc _ _ _, Wildcard.accepts_ones.mpr ⟨block, after, rfl, ?_, ?_⟩⟩
    · rw [List.forall₂_map_left_iff]
      exact hblock.imp (fun u c hc => by simpa using hc)
    · exact Wildcard.accepts_star.mpr ⟨after, [], by simp, rfl⟩
