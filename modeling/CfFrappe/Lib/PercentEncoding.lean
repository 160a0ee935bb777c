import CfFrappe.Lib.TextOrder

set_option autoImplicit false

/-! # Percent encoding

`percentEncode keep` writes the characters of `keep` as themselves and every other one as
the percent-encoded bytes of its UTF-8 form. When `keep` holds only ASCII characters other
than the percent sign, different characters get diverging codes, so that encoding a text is
injective (`percentEncode_text_injective`).

`encodeURIComponent` is the JavaScript function: it fails on an unpaired surrogate.
-/

namespace PercentEncoding

open Utf TextOrder

/-- An upper-case hexadecimal digit. -/
def hexDigit (n : Nat) : UInt16 := UInt16.ofNat (if n < 10 then 0x30 + n else 0x37 + n)

/-- One byte as `%XX`. -/
def percentByte (b : Nat) : JsString := [0x25, hexDigit (b / 16), hexDigit (b % 16)]

/-- The code of one character: itself when kept, else its UTF-8 bytes percent-encoded. -/
def percentEncode (keep : Nat → Bool) (c : Nat) : JsString :=
  if keep c then utf16 c else (utf8 c).flatMap percentByte

theorem hexDigit_injective {m n : Nat} (hm : m < 16) (hn : n < 16) (h : hexDigit m = hexDigit n) : m = n := by
  have h' := congrArg UInt16.toNat h
  simp only [hexDigit, UInt16.toNat_ofNat'] at h'
  split_ifs at h' <;> omega

theorem percentByte_diverges {a b : Nat} (h : a ≠ b ∧ a < 0x100 ∧ b < 0x100) :
    DivergesBy (· ≠ ·) (percentByte a) (percentByte b) := by
  have hhi : a / 16 ≠ b / 16 → hexDigit (a / 16) ≠ hexDigit (b / 16) :=
    fun hne heq => hne (hexDigit_injective (by omega) (by omega) heq)
  have hlo : a % 16 ≠ b % 16 → hexDigit (a % 16) ≠ hexDigit (b % 16) :=
    fun hne heq => hne (hexDigit_injective (by omega) (by omega) heq)
  simp only [percentByte, divergesBy_cons_cons]
  by_cases hd : a / 16 = b / 16
  · exact Or.inr ⟨trivial, Or.inr ⟨by rw [hd], Or.inl (hlo (by omega))⟩⟩
  · exact Or.inr ⟨trivial, Or.inl (hhi hd)⟩

theorem flatMap_percentByte_head (c : Nat) : ∃ t, (utf8 c).flatMap percentByte = 0x25 :: t := by
  obtain ⟨b, bs, hb⟩ := List.exists_cons_of_ne_nil (utf8_ne_nil c)
  exact ⟨_, by rw [hb, List.flatMap_cons, percentByte, List.cons_append]⟩

section

variable {keep : Nat → Bool} (hkeep : ∀ c, keep c = true → c < 0x80 ∧ c ≠ 0x25)
include hkeep

theorem utf16_of_kept {x : Nat} (hx : keep x = true) : utf16 x = [UInt16.ofNat x] := by
  have hlt := (hkeep x hx).1
  rw [utf16, if_pos (by omega)]

theorem kept_ne_percent {x : Nat} (hx : keep x = true) : UInt16.ofNat x ≠ 0x25 := by
  obtain ⟨hlt, hne⟩ := hkeep x hx
  intro h
  have h' := congrArg UInt16.toNat h
  simp only [UInt16.toNat_ofNat', UInt16.reduceToNat] at h'
  omega

/-- **Different characters have diverging codes.** -/
theorem percentEncode_diverges {x y : Nat} (hx : x < 0x110000) (hy : y < 0x110000)
    (h : x ≠ y) : DivergesBy (· ≠ ·) (percentEncode keep x) (percentEncode keep y) := by
  simp only [percentEncode]
  split_ifs with kx ky ky
  · have hx' := (hkeep x kx).1
    have hy' := (hkeep y ky).1
    rw [utf16_of_kept hkeep kx, utf16_of_kept hkeep ky]
    refine DivergesBy.of_head (fun heq => h ?_) [] []
    have h' := congrArg UInt16.toNat heq
    simp only [UInt16.toNat_ofNat'] at h'
    omega
  · obtain ⟨t, ht⟩ := flatMap_percentByte_head y
    rw [utf16_of_kept hkeep kx, ht]
    exact DivergesBy.of_head (kept_ne_percent hkeep kx) [] t
  · obtain ⟨t, ht⟩ := flatMap_percentByte_head x
    rw [utf16_of_kept hkeep ky, ht]
    exact DivergesBy.of_head (kept_ne_percent hkeep ky).symm t []
  · have hd : DivergesBy (· ≠ ·) (utf8 x) (utf8 y) := by
      rcases Nat.lt_or_gt_of_ne h with hlt | hlt
      · exact (utf8_diverges hlt hy).mono (fun _ _ _ _ h => Nat.ne_of_lt h)
      · obtain ⟨p, a, b, s, t, hr, ha, hb⟩ := utf8_diverges hlt hx
        exact ⟨p, b, a, t, s, Nat.ne_of_gt hr, hb, ha⟩
    exact (hd.mono (fun a ha b hb hab => ⟨hab, utf8_lt hx a ha, utf8_lt hy b hb⟩)).flatMap
      (fun _ _ hab => percentByte_diverges hab)

theorem percentEncode_ne_nil (c : Nat) : percentEncode keep c ≠ [] := by
  rw [percentEncode]
  split_ifs with hc
  · simp [utf16_of_kept hkeep hc]
  · obtain ⟨t, ht⟩ := flatMap_percentByte_head c
    simp [ht]

/-- **Percent encoding is injective on texts.** -/
theorem percentEncode_text_injective {s t : JsString}
    (h : (codePoints s).flatMap (percentEncode keep) = (codePoints t).flatMap (percentEncode keep)) :
    s = t :=
  codePoints_injective (flatMap_injective (percentEncode_ne_nil hkeep)
    (fun _ _ hx hy hxy => percentEncode_diverges hkeep hx hy hxy)
    (codePoints_lt s) (codePoints_lt t) h)

end

/-- The units of a percent-encoded text are kept characters, percent signs and digits. -/
theorem mem_percentEncode {keep : Nat → Bool} {c : Nat} (hc : c < 0x110000) {u : UInt16}
    (hu : u ∈ percentEncode keep c) :
    (keep c = true ∧ u ∈ utf16 c) ∨ u = 0x25 ∨ ∃ n < 16, u = hexDigit n := by
  rw [percentEncode] at hu
  split_ifs at hu with hk
  · exact Or.inl ⟨hk, hu⟩
  · rw [List.mem_flatMap] at hu
    obtain ⟨b, hb, hu⟩ := hu
    have hb' := utf8_lt hc b hb
    simp only [percentByte, List.mem_cons, List.not_mem_nil, or_false] at hu
    rcases hu with hu | hu | hu
    · exact Or.inr (Or.inl hu)
    · exact Or.inr (Or.inr ⟨b / 16, by omega, hu⟩)
    · exact Or.inr (Or.inr ⟨b % 16, by omega, hu⟩)

/-! ## `encodeURIComponent` -/

def isAsciiAlphanumeric (c : Nat) : Bool :=
  (0x30 ≤ c && c ≤ 0x39) || (0x41 ≤ c && c ≤ 0x5A) || (0x61 ≤ c && c ≤ 0x7A)

/-- The characters `encodeURIComponent` keeps: letters, digits and `-_.!~*'()`. -/
def isUriUnreserved (c : Nat) : Bool :=
  isAsciiAlphanumeric c || [0x2D, 0x5F, 0x2E, 0x21, 0x7E, 0x2A, 0x27, 0x28, 0x29].contains c

/-- `encodeURIComponent`; `none` is the `URIError` an unpaired surrogate raises. -/
def encodeURIComponent (s : JsString) : Option JsString :=
  if (codePoints s).any isSurrogatePoint then none
  else some ((codePoints s).flatMap (percentEncode isUriUnreserved))

theorem encodeURIComponent_of_wellFormed {s : JsString} (h : WellFormed s) :
    encodeURIComponent s = some ((codePoints s).flatMap (percentEncode isUriUnreserved)) := by
  rw [encodeURIComponent, if_neg]
  simpa [WellFormed] using h

/-! ## `decodeURIComponent`

Every `%XX` sequence has to be the UTF-8 form of one code point, in its shortest form and no surrogate;
everything else stands for itself.
-/

/-- The value of a hexadecimal digit of either case. -/
def hexValue (u : UInt16) : Option Nat :=
  if 0x30 ≤ u ∧ u ≤ 0x39 then some (u.toNat - 0x30)
  else if 0x41 ≤ u ∧ u ≤ 0x46 then some (u.toNat - 0x37)
  else if 0x61 ≤ u ∧ u ≤ 0x66 then some (u.toNat - 0x57)
  else none

/-- A byte written as `%XX`, and what follows it. -/
def readByte : JsString → Option (Nat × JsString)
  | percent :: hi :: lo :: rest => do
      let high ← hexValue hi
      let low ← hexValue lo
      if percent = 0x25 then return (16 * high + low, rest) else none
  | _ => none

/-- A code point that `count` more bytes complete. -/
def readContinuation : Nat → Nat → JsString → Option (Nat × JsString)
  | 0, point, text => some (point, text)
  | count + 1, point, text => do
      let (byte, rest) ← readByte text
      if 0x80 ≤ byte ∧ byte < 0xC0 then readContinuation count (64 * point + (byte - 0x80)) rest else none

/-- A code point of at least `least`, which its bytes cannot write shorter. -/
def requirePoint (least : Nat) : Option (Nat × JsString) → Option (Nat × JsString)
  | some (point, rest) =>
    if least ≤ point ∧ point < 0x110000 ∧ isSurrogatePoint point = false then some (point, rest) else none
  | none => none

/-- The code point that a text of percent-encoded bytes begins with. -/
def readPoint (text : JsString) : Option (Nat × JsString) := do
  let (byte, rest) ← readByte text
  if byte < 0x80 then return (byte, rest)
  else if byte < 0xC0 then none
  else if byte < 0xE0 then requirePoint 0x80 (readContinuation 1 (byte - 0xC0) rest)
  else if byte < 0xF0 then requirePoint 0x800 (readContinuation 2 (byte - 0xE0) rest)
  else if byte < 0xF8 then requirePoint 0x10000 (readContinuation 3 (byte - 0xF0) rest)
  else none

/-- A text of at most `fuel` units, decoded. -/
def decodeFrom : (fuel : Nat) → JsString → Option JsString
  | _, [] => some []
  | 0, _ :: _ => none
  | fuel + 1, unit :: rest =>
    if unit = 0x25 then do
      let (point, rest) ← readPoint (unit :: rest)
      let decoded ← decodeFrom fuel rest
      return utf16 point ++ decoded
    else (decodeFrom fuel rest).map (unit :: ·)

/-- `decodeURIComponent`; `none` is the `URIError` of a malformed sequence. -/
def decodeURIComponent (text : JsString) : Option JsString := decodeFrom text.length text

example : decodeURIComponent (js "%E4%BD%A0%20a") = some [0x4F60, 0x20, 0x61] := by decide

end PercentEncoding
