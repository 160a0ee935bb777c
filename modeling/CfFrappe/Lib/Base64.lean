import CfFrappe.Lib.Utf

set_option autoImplicit false

/-! # Base64

Bytes as text: three bytes are four digits of six bits, and `=` fills up the last four. `btoa` writes bytes, and
`atob` reads a text as lenient as the web platform does: it skips white space, does without padding, and takes
no notice of bits that are left over. A text of digits with its padding is read as the bytes of the digits
(`atob_padded`), and the digits of bytes are those bytes (`ofSextets_sextets`).
-/

open Utf

namespace Base64

def padUnit : UInt16 := 0x3D

/-- The digit of a number below 64. -/
def digit (n : Nat) : UInt16 :=
  UInt16.ofNat
    (if n < 26 then 0x41 + n else if n < 52 then 0x61 + (n - 26) else if n < 62 then 0x30 + (n - 52)
      else if n = 62 then 0x2B else 0x2F)

def digitValue (u : UInt16) : Option Nat :=
  if 0x41 ≤ u ∧ u ≤ 0x5A then some (u.toNat - 0x41)
  else if 0x61 ≤ u ∧ u ≤ 0x7A then some (u.toNat - 0x61 + 26)
  else if 0x30 ≤ u ∧ u ≤ 0x39 then some (u.toNat - 0x30 + 52)
  else if u = 0x2B then some 62
  else if u = 0x2F then some 63
  else none

/-- The numbers of six bits that bytes make up. -/
def sextets : List UInt8 → List Nat
  | [] => []
  | [a] => [a.toNat / 4, a.toNat % 4 * 16]
  | [a, b] => [a.toNat / 4, a.toNat % 4 * 16 + b.toNat / 16, b.toNat % 16 * 4]
  | a :: b :: c :: rest =>
    a.toNat / 4 :: (a.toNat % 4 * 16 + b.toNat / 16) :: (b.toNat % 16 * 4 + c.toNat / 64) :: c.toNat % 64 ::
      sextets rest

/-- The bytes of numbers of six bits; what is left of the last ones is dropped. -/
def ofSextets : List Nat → List UInt8
  | [] => []
  | [_] => []
  | [p, q] => [UInt8.ofNat (p * 4 + q / 16)]
  | [p, q, r] => [UInt8.ofNat (p * 4 + q / 16), UInt8.ofNat (q % 16 * 16 + r / 4)]
  | p :: q :: r :: s :: rest =>
    UInt8.ofNat (p * 4 + q / 16) :: UInt8.ofNat (q % 16 * 16 + r / 4) :: UInt8.ofNat (r % 4 * 64 + s) ::
      ofSextets rest

/-- How many characters a text lacks to a multiple of four. -/
def lacking (length : Nat) : Nat := (4 - length % 4) % 4

def btoa (bytes : List UInt8) : JsString :=
  (sextets bytes).map digit ++ List.replicate (lacking (sextets bytes).length) padUnit

def isAsciiWhitespace (u : UInt16) : Bool := u == 0x9 || u == 0xA || u == 0xC || u == 0xD || u == 0x20

/-- Removes up to `n` padding characters at the head. -/
def dropPadding : Nat → JsString → JsString
  | 0, text => text
  | _ + 1, [] => []
  | n + 1, u :: text => if u = padUnit then dropPadding n text else u :: text

/-- `atob(text)`; `none` is an exception. -/
def atob (text : JsString) : Option (List UInt8) :=
  let data := text.filter (fun u => !isAsciiWhitespace u)
  let data := if data.length % 4 = 0 then (dropPadding 2 data.reverse).reverse else data
  if data.length % 4 = 1 then none else (data.mapM digitValue).map ofSextets

/-! ## Digits -/

theorem digit_spec : ∀ n < 64, digitValue (digit n) = some n ∧ digit n ≠ padUnit ∧ isAsciiWhitespace (digit n) = false := by
  decide +kernel

theorem mapM_digitValue {digits : List Nat} (h : ∀ n ∈ digits, n < 64) :
    (digits.map digit).mapM digitValue = some digits := by
  induction digits with
  | nil => rfl
  | cons n digits ih =>
    have hn := (digit_spec n (h n List.mem_cons_self)).1
    have hrest := ih (fun m hm => h m (List.mem_cons_of_mem _ hm))
    rw [List.map_cons, List.mapM_cons, hn, hrest]
    rfl

theorem sextets_lt (bytes : List UInt8) : ∀ n ∈ sextets bytes, n < 64 := by
  induction bytes using sextets.induct with
  | case1 => simp [sextets]
  | case2 a =>
    have ha := a.toNat_lt
    simp only [sextets, List.mem_cons, List.not_mem_nil, or_false]
    omega
  | case3 a b =>
    have ha := a.toNat_lt
    have hb := b.toNat_lt
    simp only [sextets, List.mem_cons, List.not_mem_nil, or_false]
    omega
  | case4 a b c rest ih =>
    have ha := a.toNat_lt
    have hb := b.toNat_lt
    have hc := c.toNat_lt
    intro n hn
    simp only [sextets, List.mem_cons] at hn
    rcases hn with hn | hn | hn | hn | hn
    · omega
    · omega
    · omega
    · omega
    · exact ih n hn

/-- There is no single digit at the end. -/
theorem length_sextets_mod (bytes : List UInt8) : (sextets bytes).length % 4 ≠ 1 := by
  induction bytes using sextets.induct with
  | case1 | case2 | case3 => simp [sextets]
  | case4 a b c rest ih =>
    simp only [sextets, List.length_cons]
    omega

theorem sextets_ne_nil {bytes : List UInt8} (h : bytes ≠ []) : sextets bytes ≠ [] := by
  cases bytes using sextets.fun_cases with
  | case1 => exact absurd rfl h
  | case2 | case3 | case4 => simp [sextets]

/-- **The digits of bytes are those bytes.** -/
theorem ofSextets_sextets (bytes : List UInt8) : ofSextets (sextets bytes) = bytes := by
  have hbyte : ∀ (a : UInt8) (n : Nat), n = a.toNat → UInt8.ofNat n = a := by
    rintro a n rfl
    exact UInt8.ofNat_toNat
  induction bytes using sextets.induct with
  | case1 => rfl
  | case2 a =>
    have ha := a.toNat_lt
    rw [sextets, ofSextets, hbyte a _ (by omega)]
  | case3 a b =>
    have ha := a.toNat_lt
    have hb := b.toNat_lt
    rw [sextets, ofSextets, hbyte a _ (by omega), hbyte b _ (by omega)]
  | case4 a b c rest ih =>
    have ha := a.toNat_lt
    have hb := b.toNat_lt
    have hc := c.toNat_lt
    rw [sextets, ofSextets, ih, hbyte a _ (by omega), hbyte b _ (by omega), hbyte c _ (by omega)]

/-! ## Reading padded digits -/

theorem dropPadding_replicate {n k : Nat} (hk : k ≤ n) {text : JsString} (h : text.head? ≠ some padUnit) :
    dropPadding n (List.replicate k padUnit ++ text) = text := by
  induction k generalizing n with
  | zero =>
    cases n with
    | zero => rfl
    | succ n =>
      cases text with
      | nil => rfl
      | cons u text =>
        have hu : u ≠ padUnit := fun hu => h (congrArg some hu)
        exact if_neg hu
  | succ k ih =>
    cases n with
    | zero => omega
    | succ n =>
      rw [List.replicate_succ, List.cons_append, dropPadding, if_pos rfl]
      exact ih (by omega)

/-- **Digits with their padding are read.** -/
theorem atob_padded {digits : List Nat} (h : ∀ n ∈ digits, n < 64) (hlength : digits.length % 4 ≠ 1) :
    atob (digits.map digit ++ List.replicate (lacking digits.length) padUnit) = some (ofSextets digits) := by
  have hplain : (digits.map digit ++ List.replicate (lacking digits.length) padUnit).filter
      (fun u => !isAsciiWhitespace u) = digits.map digit ++ List.replicate (lacking digits.length) padUnit := by
    rw [List.filter_eq_self]
    intro u hu
    rcases List.mem_append.mp hu with hu | hu
    · obtain ⟨n, hn, rfl⟩ := List.mem_map.mp hu
      rw [(digit_spec n (h n hn)).2.2]
      rfl
    · rw [List.eq_of_mem_replicate hu]
      decide
  have hfull : (digits.map digit ++ List.replicate (lacking digits.length) padUnit).length % 4 = 0 := by
    rw [List.length_append, List.length_map, List.length_replicate, lacking]
    omega
  have hhead : (digits.map digit).reverse.head? ≠ some padUnit := by
    intro hlast
    have hmem := List.mem_reverse.mp (List.mem_of_mem_head? hlast)
    obtain ⟨n, hn, hdigit⟩ := List.mem_map.mp hmem
    exact (digit_spec n (h n hn)).2.1 hdigit
  have hdropped : (dropPadding 2 (digits.map digit ++
      List.replicate (lacking digits.length) padUnit).reverse).reverse = digits.map digit := by
    rw [List.reverse_append, List.reverse_replicate,
      dropPadding_replicate (by unfold lacking; omega) hhead, List.reverse_reverse]
  unfold atob
  dsimp only
  rw [hplain, if_pos hfull, hdropped, List.length_map, if_neg hlength, mapM_digitValue h]
  rfl

end Base64
