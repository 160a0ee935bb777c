import Mathlib

set_option autoImplicit false

/-! # Strings as UTF-16 code units

A JavaScript string is a sequence of 16-bit code units; surrogate pairs encode the
characters above U+FFFF and a surrogate may also stand alone. `JsString` is that
sequence, so lengths, indices and comparisons are the ones the language computes.

`codePoints` reads a string as code points, leaving an unpaired surrogate as itself;
`utf16` is the way back, and the two are inverse (`flatMap_utf16_codePoints`).
`utf8` is the UTF-8 encoding of one code point and `textEncode` that of a string, with
U+FFFD in the place of an unpaired surrogate, as `TextEncoder` encodes it.
-/

/-- A JavaScript string: its UTF-16 code units. -/
abbrev JsString := List UInt16

instance : LawfulBEq JsString := inferInstance

namespace Utf

/-! ## Surrogates -/

def isHighSurrogate (u : UInt16) : Bool := 0xD800 ≤ u.toNat && u.toNat < 0xDC00

def isLowSurrogate (u : UInt16) : Bool := 0xDC00 ≤ u.toNat && u.toNat < 0xE000

/-- A code unit of either half of a surrogate pair. -/
def isSurrogate (u : UInt16) : Bool := 0xD800 ≤ u.toNat && u.toNat < 0xE000

/-- The character a high and a low surrogate encode together. -/
def pairCodePoint (u v : UInt16) : Nat := 0x10000 + (u.toNat - 0xD800) * 0x400 + (v.toNat - 0xDC00)

/-- The code points of a string; an unpaired surrogate is left as itself. -/
def codePoints : JsString → List Nat
  | [] => []
  | [u] => [u.toNat]
  | u :: v :: rest =>
    if isHighSurrogate u && isLowSurrogate v then pairCodePoint u v :: codePoints rest
    else u.toNat :: codePoints (v :: rest)

/-- A code point that is a surrogate, which no well-formed text contains. -/
def isSurrogatePoint (c : Nat) : Bool := 0xD800 ≤ c && c < 0xE000

/-- A string without unpaired surrogates. -/
def WellFormed (s : JsString) : Prop := ∀ c ∈ codePoints s, isSurrogatePoint c = false

instance (s : JsString) : Decidable (WellFormed s) :=
  inferInstanceAs (Decidable (∀ c ∈ codePoints s, isSurrogatePoint c = false))

/-- A string without any surrogate: its code points are its code units. -/
def SurrogateFree (s : JsString) : Prop := ∀ u ∈ s, isSurrogate u = false

instance (s : JsString) : Decidable (SurrogateFree s) :=
  List.decidableBAll (fun u => isSurrogate u = false) s

/-- The code units of one code point. -/
def utf16 (c : Nat) : JsString :=
  if c < 0x10000 then [UInt16.ofNat c]
  else [UInt16.ofNat (0xD800 + (c - 0x10000) / 0x400), UInt16.ofNat (0xDC00 + (c - 0x10000) % 0x400)]

/-- The code units of a string literal. -/
def js (s : String) : JsString := s.toList.flatMap (fun c => utf16 c.toNat)

theorem utf16_toNat (u : UInt16) : utf16 u.toNat = [u] := by
  have hu : u.toNat < 0x10000 := u.toNat_lt
  simp [utf16, hu]

theorem utf16_pairCodePoint {u v : UInt16} (hu : isHighSurrogate u = true)
    (hv : isLowSurrogate v = true) : utf16 (pairCodePoint u v) = [u, v] := by
  simp only [isHighSurrogate, isLowSurrogate, Bool.and_eq_true, decide_eq_true_eq] at hu hv
  have hlow : ¬ pairCodePoint u v < 0x10000 := by unfold pairCodePoint; omega
  have hhi : 0xD800 + (pairCodePoint u v - 0x10000) / 0x400 = u.toNat := by
    unfold pairCodePoint; omega
  have hlo : 0xDC00 + (pairCodePoint u v - 0x10000) % 0x400 = v.toNat := by
    unfold pairCodePoint; omega
  simp only [utf16, if_neg hlow, hhi, hlo, UInt16.ofNat_toNat]

/-- **Reading a string as code points loses nothing.** -/
theorem flatMap_utf16_codePoints (s : JsString) : (codePoints s).flatMap utf16 = s := by
  induction s using codePoints.induct with
  | case1 => rfl
  | case2 u => simp [codePoints, utf16_toNat]
  | case3 u v rest h ih =>
    have h' := h
    rw [Bool.and_eq_true] at h'
    simp only [codePoints, h, if_true, List.flatMap_cons, utf16_pairCodePoint h'.1 h'.2, ih]
    rfl
  | case4 u v rest h ih =>
    rw [codePoints, if_neg h, List.flatMap_cons, utf16_toNat, ih]
    rfl

theorem codePoints_injective {s t : JsString} (h : codePoints s = codePoints t) : s = t := by
  rw [← flatMap_utf16_codePoints s, h, flatMap_utf16_codePoints]

theorem codePoints_lt (s : JsString) : ∀ c ∈ codePoints s, c < 0x110000 := by
  induction s using codePoints.induct with
  | case1 => simp [codePoints]
  | case2 u =>
    have hu : u.toNat < 0x10000 := u.toNat_lt
    simp only [codePoints, List.mem_singleton, forall_eq]
    omega
  | case3 u v rest h ih =>
    have h' := h
    simp only [isHighSurrogate, isLowSurrogate, Bool.and_eq_true, decide_eq_true_eq] at h'
    simp only [codePoints, h, if_true, List.forall_mem_cons]
    refine ⟨?_, ih⟩
    unfold pairCodePoint
    omega
  | case4 u v rest h ih =>
    have hu : u.toNat < 0x10000 := u.toNat_lt
    rw [codePoints, if_neg h, List.forall_mem_cons]
    exact ⟨by omega, ih⟩

/-- The code points of a surrogate-free string are its code units. -/
theorem codePoints_of_surrogateFree (s : JsString) (h : SurrogateFree s) : codePoints s = s.map UInt16.toNat := by
  induction s using codePoints.induct with
  | case1 => rfl
  | case2 u => rfl
  | case3 u v rest hp ih =>
    have hu := h u List.mem_cons_self
    simp only [isHighSurrogate, isLowSurrogate, isSurrogate, Bool.and_eq_true,
      decide_eq_true_eq, Bool.and_eq_false_iff, decide_eq_false_iff_not] at hp hu
    omega
  | case4 u v rest hp ih =>
    rw [codePoints, if_neg hp, ih (fun w hw => h w (List.mem_cons_of_mem _ hw))]
    rfl

theorem SurrogateFree.wellFormed {s : JsString} (h : SurrogateFree s) : WellFormed s := by
  intro c hc
  rw [codePoints_of_surrogateFree s h, List.mem_map] at hc
  obtain ⟨u, hu, rfl⟩ := hc
  exact h u hu

/-- Prepending a code unit that is no surrogate prepends its code point. -/
theorem codePoints_cons {u : UInt16} (hu : isSurrogate u = false) (s : JsString) :
    codePoints (u :: s) = u.toNat :: codePoints s := by
  cases s with
  | nil => rfl
  | cons v rest =>
    rw [codePoints, if_neg]
    simp only [isHighSurrogate, isSurrogate, Bool.and_eq_false_iff, decide_eq_false_iff_not,
      Bool.and_eq_true, decide_eq_true_eq] at *
    omega

/-- A code unit that is no surrogate separates the texts around it. -/
theorem codePoints_append_cons (s : JsString) {u : UInt16} (hu : isSurrogate u = false)
    (t : JsString) : codePoints (s ++ u :: t) = codePoints s ++ u.toNat :: codePoints t := by
  induction s using codePoints.induct with
  | case1 => exact codePoints_cons hu t
  | case2 v =>
    have hlow : ¬ (isHighSurrogate v && isLowSurrogate u) = true := by
      simp only [isHighSurrogate, isLowSurrogate, isSurrogate, Bool.and_eq_false_iff,
        decide_eq_false_iff_not, Bool.and_eq_true, decide_eq_true_eq] at *
      omega
    show codePoints (v :: u :: t) = v.toNat :: u.toNat :: codePoints t
    rw [codePoints, if_neg hlow, codePoints_cons hu]
  | case3 v w rest h ih =>
    show codePoints (v :: w :: (rest ++ u :: t)) = _
    rw [codePoints, if_pos h, ih, codePoints, if_pos h]
    rfl
  | case4 v w rest h ih =>
    show codePoints (v :: w :: (rest ++ u :: t)) = _
    rw [codePoints, if_neg h, ← List.cons_append, ih, codePoints, if_neg h]
    rfl

theorem WellFormed.append_cons {s t : JsString} {u : UInt16} (hu : isSurrogate u = false)
    (hs : WellFormed s) (ht : WellFormed t) : WellFormed (s ++ u :: t) := by
  intro c hc
  rw [codePoints_append_cons s hu, List.mem_append, List.mem_cons] at hc
  rcases hc with hc | rfl | hc
  · exact hs c hc
  · exact hu
  · exact ht c hc

/-! ## UTF-8 -/

/-- The UTF-8 bytes of one code point. -/
def utf8 (c : Nat) : List Nat :=
  if c < 0x80 then [c]
  else if c < 0x800 then [0xC0 + c / 0x40, 0x80 + c % 0x40]
  else if c < 0x10000 then [0xE0 + c / 0x1000, 0x80 + c / 0x40 % 0x40, 0x80 + c % 0x40]
  else [0xF0 + c / 0x40000, 0x80 + c / 0x1000 % 0x40, 0x80 + c / 0x40 % 0x40, 0x80 + c % 0x40]

/-- The scalar value that stands for a code point in UTF-8 text. -/
def scalarOf (c : Nat) : Nat := if isSurrogatePoint c then 0xFFFD else c

/-- The UTF-8 bytes of a string, with U+FFFD for an unpaired surrogate. -/
def textEncode (s : JsString) : List Nat := (codePoints s).flatMap (fun c => utf8 (scalarOf c))

theorem map_scalarOf_codePoints {s : JsString} (h : WellFormed s) : (codePoints s).map scalarOf = codePoints s := by
  conv_rhs => rw [← List.map_id (codePoints s)]
  refine List.map_congr_left ?_
  intro c hc
  simp [scalarOf, h c hc]

theorem textEncode_of_wellFormed {s : JsString} (h : WellFormed s) :
    textEncode s = (codePoints s).flatMap utf8 := by
  rw [textEncode, ← List.flatMap_map, map_scalarOf_codePoints h]

theorem utf8_ne_nil (c : Nat) : utf8 c ≠ [] := by
  unfold utf8
  split
  · simp
  · split
    · simp
    · split <;> simp

theorem utf8_lt {c : Nat} (hc : c < 0x110000) : ∀ b ∈ utf8 c, b < 0x100 := by
  intro b hb
  simp only [utf8] at hb
  split at hb
  · simp only [List.mem_singleton] at hb; omega
  · split at hb
    · simp only [List.mem_cons, List.not_mem_nil, or_false] at hb; omega
    · split at hb <;> simp only [List.mem_cons, List.not_mem_nil, or_false] at hb <;> omega

/-! ## Strings that leave the language -/

/-- What a query of a URL or a column of a database holds of a string: an unpaired surrogate becomes U+FFFD. -/
def toUsvString (text : JsString) : JsString := (codePoints text).flatMap (fun c => utf16 (scalarOf c))

theorem toUsvString_of_wellFormed {text : JsString} (h : WellFormed text) : toUsvString text = text := by
  have hscalars : (codePoints text).map scalarOf = codePoints text := map_scalarOf_codePoints h
  unfold toUsvString
  rw [← List.flatMap_map, hscalars, flatMap_utf16_codePoints]

/-- Codes of the same lengths that make up the same text are the same. -/
theorem eq_of_flatMap_eq {α β : Type} {f g : α → List β} {l : List α} (hlength : ∀ x ∈ l, (f x).length = (g x).length)
    (h : l.flatMap f = l.flatMap g) : ∀ x ∈ l, f x = g x := by
  induction l with
  | nil => simp
  | cons a l ih =>
    rw [List.flatMap_cons, List.flatMap_cons] at h
    obtain ⟨hfirst, hrest⟩ := List.append_inj h (hlength a List.mem_cons_self)
    intro x hx
    rcases List.mem_cons.mp hx with rfl | hx
    · exact hfirst
    · exact ih (fun y hy => hlength y (List.mem_cons_of_mem _ hy)) hrest x hx

/-- **Only a text with unpaired surrogates is changed.** -/
theorem toUsvString_eq_iff {text : JsString} : toUsvString text = text ↔ WellFormed text := by
  constructor
  · intro h
    have hsame : (codePoints text).flatMap (fun c => utf16 (scalarOf c)) = (codePoints text).flatMap utf16 := by
      rw [flatMap_utf16_codePoints]
      exact h
    have hlength : ∀ c ∈ codePoints text, (utf16 (scalarOf c)).length = (utf16 c).length := by
      intro c _
      unfold scalarOf
      by_cases hc : isSurrogatePoint c = true
      · have hrange := hc
        rw [isSurrogatePoint, Bool.and_eq_true, decide_eq_true_eq, decide_eq_true_eq] at hrange
        rw [if_pos hc, utf16, utf16, if_pos (by decide), if_pos (by omega)]
        rfl
      · rw [if_neg hc]
    have hall := eq_of_flatMap_eq hlength hsame
    intro c hc
    by_contra hsurrogate
    rw [Bool.not_eq_false] at hsurrogate
    have hrange := hsurrogate
    rw [isSurrogatePoint, Bool.and_eq_true, decide_eq_true_eq, decide_eq_true_eq] at hrange
    have hcode := hall c hc
    rw [scalarOf, if_pos hsurrogate, utf16, utf16, if_pos (by decide), if_pos (by omega)] at hcode
    have hvalue := congrArg UInt16.toNat (List.cons.inj hcode).1
    rw [UInt16.toNat_ofNat', UInt16.toNat_ofNat'] at hvalue
    omega
  · exact toUsvString_of_wellFormed

end Utf
