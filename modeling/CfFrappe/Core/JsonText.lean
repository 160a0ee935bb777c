import CfFrappe.Core.Streams
import CfFrappe.Core.Json
import CfFrappe.Lib.PercentEncoding

set_option autoImplicit false

/-! # Reading texts of numbers

`Number(text)` for the numbers that a text can write, and the round trip through `String(n)` for every number that
is a finite decimal, as each double is (`toNumber_numberToString`). The text of a number is read in three pieces: the
digits before and behind the point, and the exponent. A plain text has no exponent, a text with an exponent has one
digit before the point and leaves out the zeros at the end (`readDecimal_scientific`).

With the round trip the JSON texts of different primitives are different (`stringify_injective`): the first unit tells
the kind of the value, and a string is quoted so that its units can be told apart.
-/

open Utf

variable {u : UInt16} {n places scaled : Nat} {value : Rat}

namespace Json

/-! ## `Number(text)` -/

/-- The value of digits in a radix, if there are any and all are digits of it. -/
def radixValue (radix : Nat) (digits : JsString) : Option Nat :=
  if digits = [] then none
  else
    digits.foldlM (fun value digit =>
      match PercentEncoding.hexValue digit with
      | some d => if d < radix then some (radix * value + d) else none
      | none => none) 0

/-- `0x`, `0o` or `0b` as a radix, and what follows it. -/
def radixPrefix : JsString → Option (Nat × JsString)
  | zero :: letter :: digits =>
    if zero ≠ 0x30 then none
    else if letter = 0x78 ∨ letter = 0x58 then some (16, digits)
    else if letter = 0x6F ∨ letter = 0x4F then some (8, digits)
    else if letter = 0x62 ∨ letter = 0x42 then some (2, digits)
    else none
  | _ => none

/-- The digits of an exponent, applied to a value. -/
def exponentDigits (value : Rat) (negative : Bool) (digits : JsString) : Option Rat :=
  if digits = [] ∨ ¬ digits.all isAsciiDigit then none
  else if negative then some (value / 10 ^ digitsValue digits)
  else some (value * 10 ^ digitsValue digits)

/-- What may follow the digits of a number. -/
def readExponent (value : Rat) : JsString → Option Rat
  | [] => some value
  | e :: rest =>
    if e = 0x65 ∨ e = 0x45 then
      match rest with
      | [] => none
      | sign :: digits =>
        if sign = 0x2D then exponentDigits value true digits
        else if sign = 0x2B then exponentDigits value false digits
        else exponentDigits value false (sign :: digits)
    else none

/-- A number without sign, in decimal. -/
def readDecimal (text : JsString) : Option Rat :=
  let whole := text.takeWhile isAsciiDigit
  match text.dropWhile isAsciiDigit with
  | [] => if whole = [] then none else some (digitsValue whole)
  | point :: rest =>
    if point = 0x2E then
      let fraction := rest.takeWhile isAsciiDigit
      if whole = [] ∧ fraction = [] then none
      else readExponent (digitsValue (whole ++ fraction) / 10 ^ fraction.length) (rest.dropWhile isAsciiDigit)
    else if whole = [] then none
    else readExponent (digitsValue whole) (point :: rest)

def readSigned : JsString → Option Rat
  | [] => none
  | sign :: rest =>
    if sign = 0x2D then (readDecimal rest).map (- ·)
    else if sign = 0x2B then readDecimal rest
    else readDecimal (sign :: rest)

/-- `Number(text)`; `none` is `NaN` or an infinity. -/
def toNumber (text : JsString) : Option Rat :=
  let text := trim text
  if text = [] then some 0
  else
    match radixPrefix text with
    | some (radix, digits) => (radixValue radix digits).map (fun n => (n : Rat))
    | none => readSigned text

example : toNumber (js " -12.50e1 ") = some (-125) := by decide +kernel

/-! ## The digits of a number -/

theorem isAsciiDigit_of_mem_natToString (h : u ∈ natToString n) : isAsciiDigit u = true := by
  obtain ⟨c, hc, rfl⟩ := List.mem_map.mp h
  have hdigit := Nat.isDigit_of_mem_toDigits (by decide) (by decide) hc
  rw [Char.isDigit, Bool.and_eq_true, decide_eq_true_eq, decide_eq_true_eq] at hdigit
  have hlow : 0x30 ≤ c.toNat := hdigit.1
  have hhigh : c.toNat ≤ 0x39 := hdigit.2
  have hnat : (UInt16.ofNat c.toNat).toNat = c.toNat := by
    rw [UInt16.toNat_ofNat']
    omega
  rw [isAsciiDigit, Bool.and_eq_true, decide_eq_true_eq, decide_eq_true_eq, UInt16.le_iff_toNat_le,
    UInt16.le_iff_toNat_le, hnat]
  exact ⟨hlow, hhigh⟩

theorem isAsciiDigit_of_mem_padZeros {width : Nat} (h : u ∈ padZeros width (natToString n)) :
    isAsciiDigit u = true := by
  rcases List.mem_append.mp h with h | h
  · rw [(List.mem_replicate.mp h).2]
    decide
  · exact isAsciiDigit_of_mem_natToString h

theorem natToString_ne_nil (n : Nat) : natToString n ≠ [] := by
  unfold natToString
  rw [ne_eq, List.map_eq_nil_iff]
  exact Nat.toDigits_ne_nil

/-- A number has at most as many digits as its bound has zeros. -/
theorem length_natToString_le (hplaces : 0 < places) (h : n < 10 ^ places) : (natToString n).length ≤ places := by
  unfold natToString
  rw [List.length_map]
  exact (Nat.length_toDigits_le_iff (by decide) hplaces).mpr h

theorem length_padZeros {width : Nat} (hwidth : 0 < width) (h : n < 10 ^ width) :
    (padZeros width (natToString n)).length = width := by
  have hlength := length_natToString_le hwidth h
  unfold padZeros
  rw [List.length_append, List.length_replicate]
  omega

theorem digitsValue_append (left right : JsString) :
    digitsValue (left ++ right) = digitsValue left * 10 ^ right.length + digitsValue right := by
  have hfrom : ∀ (digits : JsString) (start : Nat),
      digits.foldl (fun value digit => 10 * value + (digit.toNat - 0x30)) start =
        start * 10 ^ digits.length + digitsValue digits := by
    intro digits
    induction digits with
    | nil => intro start; simp [digitsValue]
    | cons digit digits ih =>
      intro start
      unfold digitsValue
      rw [List.foldl_cons, List.foldl_cons, ih, ih (10 * 0 + (digit.toNat - 0x30)), List.length_cons, pow_succ]
      ring
  unfold digitsValue
  rw [List.foldl_append, hfrom]
  rfl

/-! ## Exact decimals -/

/-- A number that a decimal of fewer than 1100 places writes, as every finite double is. -/
def IsDecimal (value : Rat) : Prop := ∃ places < 1100, 10 ^ places % value.den = 0

instance (value : Rat) : Decidable (IsDecimal value) :=
  inferInstanceAs (Decidable (∃ places < 1100, 10 ^ places % value.den = 0))

theorem decimalPlaces_spec {den : Nat} (fuel start : Nat)
    (h : ∃ places, start ≤ places ∧ places < start + fuel ∧ 10 ^ places % den = 0) :
    10 ^ decimalPlaces den fuel start % den = 0 := by
  induction fuel generalizing start with
  | zero =>
    obtain ⟨places, hlow, hhigh, -⟩ := h
    omega
  | succ fuel ih =>
    rw [decimalPlaces]
    by_cases hstart : 10 ^ start % den = 0
    · rw [if_pos hstart]
      exact hstart
    · rw [if_neg hstart]
      obtain ⟨places, hlow, hhigh, hplaces⟩ := h
      refine ih (start + 1) ⟨places, ?_, by omega, hplaces⟩
      by_contra hlt
      obtain rfl : places = start := by omega
      exact hstart hplaces

/-- The units of a number's text. -/
theorem readDecimal_natToString (n : Nat) : readDecimal (natToString n) = some (n : Rat) := by
  have hall : ∀ u ∈ natToString n, isAsciiDigit u = true := fun u hu => isAsciiDigit_of_mem_natToString hu
  have htake : (natToString n).takeWhile isAsciiDigit = natToString n := List.takeWhile_eq_self_iff.mpr hall
  have hdrop : (natToString n).dropWhile isAsciiDigit = [] := List.dropWhile_eq_nil_iff.mpr hall
  unfold readDecimal
  simp only [htake, hdrop, if_neg (natToString_ne_nil n), digitsValue_natToString]

theorem readDecimal_fraction {whole fraction : Nat} (hplaces : 0 < places) (h : fraction < 10 ^ places) :
    readDecimal (natToString whole ++ 0x2E :: padZeros places (natToString fraction)) =
      some (((whole * 10 ^ places + fraction : Nat) : Rat) / 10 ^ places) := by
  have hwhole : ∀ u ∈ natToString whole, isAsciiDigit u = true := fun u hu => isAsciiDigit_of_mem_natToString hu
  have hfraction : ∀ u ∈ padZeros places (natToString fraction), isAsciiDigit u = true :=
    fun u hu => isAsciiDigit_of_mem_padZeros hu
  have hpoint : isAsciiDigit 0x2E = false := by decide
  have htake : (natToString whole ++ 0x2E :: padZeros places (natToString fraction)).takeWhile isAsciiDigit =
      natToString whole := by
    rw [List.takeWhile_append_of_pos hwhole, List.takeWhile_cons, hpoint]
    simp
  have hdrop : (natToString whole ++ 0x2E :: padZeros places (natToString fraction)).dropWhile isAsciiDigit =
      0x2E :: padZeros places (natToString fraction) := by
    rw [List.dropWhile_append_of_pos hwhole, List.dropWhile_cons, hpoint]
    simp
  have htake' : (padZeros places (natToString fraction)).takeWhile isAsciiDigit =
      padZeros places (natToString fraction) := List.takeWhile_eq_self_iff.mpr hfraction
  have hdrop' : (padZeros places (natToString fraction)).dropWhile isAsciiDigit = [] :=
    List.dropWhile_eq_nil_iff.mpr hfraction
  have hsome : ¬ (natToString whole = [] ∧ padZeros places (natToString fraction) = []) :=
    fun hboth => natToString_ne_nil whole hboth.1
  unfold readDecimal
  simp only [htake, hdrop, if_true, htake', hdrop', if_neg hsome, readExponent, digitsValue_append,
    digitsValue_padZeros, digitsValue_natToString, length_padZeros hplaces h]

/-! ## Significant digits -/

/-- Digits are the significant ones and zeros. -/
theorem significantDigits_append (digits : JsString) :
    ∃ zeros, digits = significantDigits digits ++ List.replicate zeros 0x30 := by
  refine ⟨(digits.reverse.takeWhile (fun u => u == 0x30)).length, ?_⟩
  have hzeros : digits.reverse.takeWhile (fun u => u == 0x30) =
      List.replicate (digits.reverse.takeWhile (fun u => u == 0x30)).length 0x30 := by
    rw [List.eq_replicate_length]
    intro u hu
    simpa using List.mem_takeWhile_imp hu
  have hsplit := (List.takeWhile_append_dropWhile (p := fun u : UInt16 => u == 0x30) (l := digits.reverse)).symm
  have hwhole := congrArg List.reverse hsplit
  rw [List.reverse_reverse, List.reverse_append] at hwhole
  rw [hzeros, List.reverse_replicate] at hwhole
  exact hwhole

theorem digitsValue_replicate (zeros : Nat) : digitsValue (List.replicate zeros 0x30) = 0 := by
  have hvalue := digitsValue_padZeros zeros []
  unfold padZeros at hvalue
  rwa [List.append_nil, List.length_nil, Nat.sub_zero] at hvalue

/-- The significant digits of a number that is not zero, and how many zeros they leave out. -/
theorem significantDigits_natToString (hn : n ≠ 0) :
    ∃ first rest zeros, significantDigits (natToString n) = first :: rest ∧
      (∀ u ∈ first :: rest, isAsciiDigit u = true) ∧
      (natToString n).length = (first :: rest).length + zeros ∧ n = digitsValue (first :: rest) * 10 ^ zeros := by
  obtain ⟨zeros, hsplit⟩ := significantDigits_append (natToString n)
  have hvalue := congrArg digitsValue hsplit
  rw [digitsValue_natToString, digitsValue_append, digitsValue_replicate, List.length_replicate, Nat.add_zero] at hvalue
  have hlength := congrArg List.length hsplit
  rw [List.length_append, List.length_replicate] at hlength
  have hdigits : ∀ u ∈ significantDigits (natToString n), isAsciiDigit u = true := by
    intro u hu
    apply isAsciiDigit_of_mem_natToString (n := n)
    rw [hsplit]
    exact List.mem_append_left _ hu
  cases hsignificant : significantDigits (natToString n) with
  | nil =>
    -- no significant digit: the number is zero
    rw [hsignificant] at hvalue
    exact absurd (hvalue.trans (Nat.zero_mul _)) hn
  | cons first rest =>
    rw [hsignificant] at hvalue hlength hdigits
    exact ⟨first, rest, zeros, rfl, hdigits, hlength, hvalue⟩

/-- The sign and the digits of an exponent. -/
def exponentSign (negative : Bool) : UInt16 := if negative then 0x2D else 0x2B

theorem readExponent_sign (value : Rat) (negative : Bool) (exponent : Nat) :
    readExponent value (0x65 :: exponentSign negative :: natToString exponent) =
      some (if negative then value / 10 ^ exponent else value * 10 ^ exponent) := by
  have hall : (natToString exponent).all isAsciiDigit = true :=
    List.all_eq_true.mpr (fun u hu => isAsciiDigit_of_mem_natToString hu)
  have hdigits : ¬(natToString exponent = [] ∨ ¬(natToString exponent).all isAsciiDigit = true) := by
    rintro (hnil | hnot)
    · exact natToString_ne_nil exponent hnil
    · exact hnot hall
  cases negative with
  | true =>
    simp only [readExponent, exponentSign, if_true, true_or]
    unfold exponentDigits
    rw [if_neg hdigits, if_pos rfl, digitsValue_natToString]
  | false =>
    have hplus : (0x2B : UInt16) ≠ 0x2D := by decide
    simp only [readExponent, exponentSign, if_true, true_or, Bool.false_eq_true, if_false, if_neg hplus]
    unfold exponentDigits
    rw [if_neg hdigits, if_neg Bool.false_ne_true, digitsValue_natToString]

/-- **Digits with a point and an exponent** are read as the number that they write. -/
theorem readDecimal_scientific {first : UInt16} {rest : JsString} (hdigits : ∀ u ∈ first :: rest, isAsciiDigit u = true)
    (negative : Bool) (exponent : Nat) :
    readDecimal (scientificDigits (first :: rest) ++ 0x65 :: exponentSign negative :: natToString exponent) =
      some (if negative then (digitsValue (first :: rest) : Rat) / 10 ^ rest.length / 10 ^ exponent
        else (digitsValue (first :: rest) : Rat) / 10 ^ rest.length * 10 ^ exponent) := by
  have hfirst : isAsciiDigit first = true := hdigits first List.mem_cons_self
  have hletter : isAsciiDigit 0x65 = false := by decide
  have hpoint : isAsciiDigit 0x2E = false := by decide
  cases rest with
  | nil =>
    have htext : scientificDigits [first] ++ 0x65 :: exponentSign negative :: natToString exponent =
        first :: 0x65 :: exponentSign negative :: natToString exponent := rfl
    have hnopoint : (0x65 : UInt16) ≠ 0x2E := by decide
    rw [htext]
    unfold readDecimal
    simp only [List.takeWhile_cons, List.dropWhile_cons, hfirst, hletter, if_true, Bool.false_eq_true, if_false,
      if_neg hnopoint, if_neg (List.cons_ne_nil first []), readExponent_sign, List.length_nil, pow_zero, div_one]
  | cons second rest =>
    have hrest : ∀ u ∈ second :: rest, isAsciiDigit u = true := fun u hu => hdigits u (List.mem_cons_of_mem _ hu)
    have htext : scientificDigits (first :: second :: rest) ++ 0x65 :: exponentSign negative :: natToString exponent =
        first :: 0x2E :: (second :: rest ++ 0x65 :: exponentSign negative :: natToString exponent) := rfl
    have htake : (second :: rest ++ 0x65 :: exponentSign negative :: natToString exponent).takeWhile isAsciiDigit =
        second :: rest := by
      rw [List.takeWhile_append_of_pos hrest, List.takeWhile_cons, hletter]
      simp
    have hdrop : (second :: rest ++ 0x65 :: exponentSign negative :: natToString exponent).dropWhile isAsciiDigit =
        0x65 :: exponentSign negative :: natToString exponent := by
      rw [List.dropWhile_append_of_pos hrest, List.dropWhile_cons, hletter]
      simp
    have hsome : ¬([first] = [] ∧ second :: rest = []) := fun hboth => List.cons_ne_nil _ _ hboth.1
    rw [htext]
    unfold readDecimal
    simp only [List.takeWhile_cons, List.dropWhile_cons, hfirst, hpoint, if_true, Bool.false_eq_true, if_false]
    simp only [htake, hdrop, if_neg hsome, List.singleton_append, readExponent_sign]

/-! ## The text of a number -/

theorem numberToString_eq (value : Rat) :
    numberToString value = (if value.num < 0 then js "-" else []) ++ unsignedText value := rfl

/-- A text with an exponent, by its digits and its exponent. -/
theorem decimalText_scientific (hscaled : scaled ≠ 0)
    (hfar : 21 < ((natToString scaled).length : Int) - places ∨ ((natToString scaled).length : Int) - places ≤ -6) :
    ∃ negative exponent, decimalText places scaled = scientificDigits (significantDigits (natToString scaled)) ++
        0x65 :: exponentSign negative :: natToString exponent ∧
      (if negative then (natToString scaled).length + exponent = places + 1
        else (natToString scaled).length = places + exponent + 1) := by
  have hbranch : scaled ≠ 0 ∧ (21 < ((natToString scaled).length : Int) - places ∨
      ((natToString scaled).length : Int) - places ≤ -6) := ⟨hscaled, hfar⟩
  by_cases hsign : ((natToString scaled).length : Int) - places ≤ 0
  · refine ⟨true, (((natToString scaled).length : Int) - places - 1).natAbs, ?_, ?_⟩
    · unfold decimalText
      dsimp only
      rw [if_pos hbranch, if_pos hsign]
      exact List.append_assoc _ _ _
    · rw [if_pos rfl]
      omega
  · refine ⟨false, (((natToString scaled).length : Int) - places - 1).natAbs, ?_, ?_⟩
    · unfold decimalText
      dsimp only
      rw [if_pos hbranch, if_neg hsign]
      exact List.append_assoc _ _ _
    · rw [if_neg Bool.false_ne_true]
      omega

/-- A text without exponent. -/
theorem decimalText_plain
    (hnear : ¬(scaled ≠ 0 ∧ (21 < ((natToString scaled).length : Int) - places ∨
      ((natToString scaled).length : Int) - places ≤ -6))) :
    decimalText places scaled =
      if places = 0 then natToString scaled
      else natToString (scaled / 10 ^ places) ++ 0x2E :: padZeros places (natToString (scaled % 10 ^ places)) := by
  unfold decimalText
  dsimp only
  rw [if_neg hnear]
  by_cases hplaces : places = 0
  · rw [if_pos hplaces, if_pos hplaces]
  · rw [if_neg hplaces, if_neg hplaces]
    exact List.append_assoc _ _ _

theorem readDecimal_decimalText (places scaled : Nat) :
    readDecimal (decimalText places scaled) = some ((scaled : Rat) / 10 ^ places) := by
  have hten : ∀ n : Nat, (10 ^ n : Rat) ≠ 0 := fun n => pow_ne_zero _ (by norm_num)
  by_cases hfar : scaled ≠ 0 ∧ (21 < ((natToString scaled).length : Int) - places ∨
      ((natToString scaled).length : Int) - places ≤ -6)
  · obtain ⟨negative, exponent, htext, hexponent⟩ := decimalText_scientific hfar.1 hfar.2
    obtain ⟨first, rest, zeros, hsignificant, hdigits, hlength, hvalue⟩ := significantDigits_natToString hfar.1
    have hvalue' : (scaled : Rat) = (digitsValue (first :: rest) : Rat) * 10 ^ zeros := by exact_mod_cast hvalue
    rw [htext, hsignificant, readDecimal_scientific hdigits, Option.some.injEq, hvalue']
    rw [hlength, List.length_cons] at hexponent
    -- the point is where the exponent puts it
    cases negative with
    | true =>
      rw [if_pos rfl] at hexponent ⊢
      have hplaces : places = rest.length + exponent + zeros := by omega
      rw [hplaces, pow_add, pow_add, div_div, div_eq_div_iff (mul_ne_zero (hten _) (hten _))
        (mul_ne_zero (mul_ne_zero (hten _) (hten _)) (hten _))]
      ring
    | false =>
      rw [if_neg Bool.false_ne_true] at hexponent ⊢
      have hpowers : (10 : Rat) ^ exponent * 10 ^ places = 10 ^ zeros * 10 ^ rest.length := by
        rw [← pow_add, ← pow_add]
        congr 1
        omega
      rw [div_mul_eq_mul_div, div_eq_div_iff (hten _) (hten _)]
      linear_combination (digitsValue (first :: rest) : Rat) * hpowers
  · rw [decimalText_plain hfar]
    by_cases hplaces : places = 0
    · rw [if_pos hplaces, readDecimal_natToString, hplaces, pow_zero, div_one]
    · have hpositive : 0 < places := Nat.pos_of_ne_zero hplaces
      have hless : scaled % 10 ^ places < 10 ^ places := Nat.mod_lt _ (by positivity)
      have hparts : scaled / 10 ^ places * 10 ^ places + scaled % 10 ^ places = scaled := by
        rw [Nat.mul_comm]
        exact Nat.div_add_mod _ _
      rw [if_neg hplaces, readDecimal_fraction hpositive hless, hparts]

theorem readDecimal_unsignedText (h : IsDecimal value) :
    readDecimal (unsignedText value) = some ((value.num.natAbs : Rat) / value.den) := by
  obtain ⟨bound, hbound, hdivides⟩ := h
  have hexact : 10 ^ decimalPlaces value.den 1100 0 % value.den = 0 :=
    decimalPlaces_spec 1100 0 ⟨bound, Nat.zero_le _, by omega, hdivides⟩
  unfold unsignedText
  dsimp only
  rw [readDecimal_decimalText]
  generalize decimalPlaces value.den 1100 0 = places at hexact ⊢
  have hscaled : value.num.natAbs * 10 ^ places / value.den * value.den = value.num.natAbs * 10 ^ places :=
    Nat.div_mul_cancel (Dvd.dvd.mul_left (Nat.dvd_of_mod_eq_zero hexact) _)
  have hden : (value.den : Rat) ≠ 0 := Nat.cast_ne_zero.mpr value.den_nz
  have hten : (10 ^ places : Rat) ≠ 0 := pow_ne_zero _ (by norm_num)
  rw [Option.some.injEq, div_eq_div_iff hten hden]
  exact_mod_cast hscaled

/-! ### Its units -/

/-- A digit, the point, or a unit of an exponent. -/
def isNumberUnit (u : UInt16) : Bool := isAsciiDigit u || u = 0x2E || u = 0x65 || u = 0x2B || u = 0x2D

theorem isNumberUnit_of_digit (h : isAsciiDigit u = true) : isNumberUnit u = true := by
  simp [isNumberUnit, h]

theorem mem_scientificDigits {digits : JsString} (h : u ∈ scientificDigits digits) : u ∈ digits ∨ u = 0x2E := by
  unfold scientificDigits at h
  split at h
  · exact Or.inl h
  · exact Or.inl h
  · have hpoint : js "." = [0x2E] := rfl
    simp only [hpoint, List.cons_append, List.nil_append, List.mem_cons] at h ⊢
    tauto

theorem isNumberUnit_of_mem_decimalText (h : u ∈ decimalText places scaled) : isNumberUnit u = true := by
  by_cases hfar : scaled ≠ 0 ∧ (21 < ((natToString scaled).length : Int) - places ∨
      ((natToString scaled).length : Int) - places ≤ -6)
  · obtain ⟨negative, exponent, htext, -⟩ := decimalText_scientific hfar.1 hfar.2
    obtain ⟨first, rest, zeros, hsignificant, hdigits, -⟩ := significantDigits_natToString hfar.1
    rw [htext, hsignificant] at h
    rcases List.mem_append.mp h with hmem | hmem
    · rcases mem_scientificDigits hmem with hdigit | rfl
      · exact isNumberUnit_of_digit (hdigits u hdigit)
      · decide
    · rcases List.mem_cons.mp hmem with rfl | hmem
      · decide
      · rcases List.mem_cons.mp hmem with rfl | hmem
        · cases negative <;> decide
        · exact isNumberUnit_of_digit (isAsciiDigit_of_mem_natToString hmem)
  · rw [decimalText_plain hfar] at h
    split_ifs at h
    · exact isNumberUnit_of_digit (isAsciiDigit_of_mem_natToString h)
    · rcases List.mem_append.mp h with hmem | hmem
      · exact isNumberUnit_of_digit (isAsciiDigit_of_mem_natToString hmem)
      · rcases List.mem_cons.mp hmem with rfl | hmem
        · decide
        · exact isNumberUnit_of_digit (isAsciiDigit_of_mem_padZeros hmem)

theorem isNumberUnit_of_mem_unsignedText (h : u ∈ unsignedText value) :
    isNumberUnit u = true := isNumberUnit_of_mem_decimalText h

/-- A text begins with a digit. -/
theorem decimalText_eq_cons (places scaled : Nat) :
    ∃ first rest, decimalText places scaled = first :: rest ∧ isAsciiDigit first = true := by
  have hnumber : ∀ (n : Nat) (tail : JsString), ∃ first rest, natToString n ++ tail = first :: rest ∧
      isAsciiDigit first = true := by
    intro n tail
    cases hdigits : natToString n with
    | nil => exact absurd hdigits (natToString_ne_nil n)
    | cons first rest =>
      have hfirst : first ∈ natToString n := by
        rw [hdigits]
        exact List.mem_cons_self
      exact ⟨first, rest ++ tail, rfl, isAsciiDigit_of_mem_natToString hfirst⟩
  by_cases hfar : scaled ≠ 0 ∧ (21 < ((natToString scaled).length : Int) - places ∨
      ((natToString scaled).length : Int) - places ≤ -6)
  · obtain ⟨negative, exponent, htext, -⟩ := decimalText_scientific hfar.1 hfar.2
    obtain ⟨first, rest, zeros, hsignificant, hdigits, -⟩ := significantDigits_natToString hfar.1
    rw [htext, hsignificant]
    cases rest with
    | nil => exact ⟨first, _, rfl, hdigits first List.mem_cons_self⟩
    | cons second rest => exact ⟨first, _, rfl, hdigits first List.mem_cons_self⟩
  · rw [decimalText_plain hfar]
    split_ifs
    · obtain ⟨first, rest, hcons, hfirst⟩ := hnumber scaled []
      rw [List.append_nil] at hcons
      exact ⟨first, rest, hcons, hfirst⟩
    · exact hnumber _ _

theorem unsignedText_eq_cons (value : Rat) :
    ∃ first rest, unsignedText value = first :: rest ∧ isAsciiDigit first = true := decimalText_eq_cons _ _

theorem unsignedText_ne_nil (value : Rat) : unsignedText value ≠ [] := by
  obtain ⟨first, rest, hcons, -⟩ := unsignedText_eq_cons value
  rw [hcons]
  exact List.cons_ne_nil _ _

theorem numberToString_ne_nil (value : Rat) : numberToString value ≠ [] := by
  rw [numberToString_eq, ne_eq, List.append_eq_nil_iff]
  exact fun hnil => unsignedText_ne_nil value hnil.2

theorem toNat_of_isAsciiDigit (h : isAsciiDigit u = true) : 0x30 ≤ u.toNat ∧ u.toNat ≤ 0x39 := by
  rw [isAsciiDigit, Bool.and_eq_true, decide_eq_true_eq, decide_eq_true_eq, UInt16.le_iff_toNat_le,
    UInt16.le_iff_toNat_le] at h
  exact h

theorem isNumberUnit_cases (h : isNumberUnit u = true) :
    isAsciiDigit u = true ∨ u = 0x2E ∨ u = 0x65 ∨ u = 0x2B ∨ u = 0x2D := by
  simp only [isNumberUnit, Bool.or_eq_true, decide_eq_true_eq] at h
  tauto

theorem toNat_of_isNumberUnit (h : isNumberUnit u = true) : 0x2B ≤ u.toNat ∧ u.toNat ≤ 0x65 := by
  rcases isNumberUnit_cases h with hdigit | rfl | rfl | rfl | rfl
  · obtain ⟨hlow, hhigh⟩ := toNat_of_isAsciiDigit hdigit
    omega
  all_goals decide

/-- A text whose units are all digits, points or a sign is left alone by `trim`. -/
theorem trim_eq_self {text : JsString} (h : ∀ u ∈ text, isWhitespace u = false) : trim text = text := by
  have hkeep : ∀ l : JsString, (∀ u ∈ l, isWhitespace u = false) → l.dropWhile isWhitespace = l := by
    intro l hl
    rw [List.dropWhile_eq_self_iff]
    intro hlength hwhite
    rw [hl _ (List.getElem_mem hlength)] at hwhite
    exact absurd hwhite (by decide)
  unfold trim
  rw [hkeep text h, hkeep text.reverse (fun u hu => h u (List.mem_reverse.mp hu)), List.reverse_reverse]

theorem isWhitespace_of_isNumberUnit (h : isNumberUnit u = true) : isWhitespace u = false := by
  rcases isNumberUnit_cases h with hdigit | rfl | rfl | rfl | rfl
  · obtain ⟨hlow, hhigh⟩ := toNat_of_isAsciiDigit hdigit
    have hu : u = UInt16.ofNat u.toNat := (UInt16.ofNat_toNat).symm
    rw [hu]
    interval_cases u.toNat <;> decide
  all_goals decide

theorem radixPrefix_numberToString (value : Rat) : radixPrefix (numberToString value) = none := by
  rw [numberToString_eq]
  obtain ⟨first, rest, htext, -⟩ := unsignedText_eq_cons value
  by_cases hsign : value.num < 0
  · have hminus : js "-" ++ first :: rest = 0x2D :: first :: rest := rfl
    rw [if_pos hsign, htext, hminus]
    simp [radixPrefix]
  · rw [if_neg hsign, htext, List.nil_append]
    cases rest with
    | nil => rfl
    | cons second rest =>
      have hsecond : isNumberUnit second = true := by
        apply @isNumberUnit_of_mem_unsignedText _ value
        rw [htext]
        exact List.mem_cons_of_mem _ List.mem_cons_self
      -- no letter of a radix is a unit of a number
      have hne : ∀ letter : UInt16, isNumberUnit letter = false → second ≠ letter := by
        rintro letter hletter rfl
        rw [hsecond] at hletter
        exact Bool.noConfusion hletter
      simp [radixPrefix, hne 0x78 (by decide), hne 0x58 (by decide), hne 0x6F (by decide),
        hne 0x4F (by decide), hne 0x62 (by decide), hne 0x42 (by decide)]

/-- **A number is read back from its text.** -/
theorem toNumber_numberToString (h : IsDecimal value) : toNumber (numberToString value) = some value := by
  have hunits : ∀ u ∈ numberToString value, isWhitespace u = false := by
    intro u hu
    rw [numberToString_eq] at hu
    rcases List.mem_append.mp hu with hu | hu
    · split at hu
      · obtain rfl : u = 0x2D := List.mem_singleton.mp hu
        decide
      · exact absurd hu List.not_mem_nil
    · exact isWhitespace_of_isNumberUnit (isNumberUnit_of_mem_unsignedText hu)
  have hdecimal := readDecimal_unsignedText h
  have hparts : value = (value.num : Rat) / value.den := (Rat.num_div_den value).symm
  unfold toNumber
  simp only [trim_eq_self hunits, if_neg (numberToString_ne_nil value), radixPrefix_numberToString]
  rw [numberToString_eq]
  by_cases hsign : value.num < 0
  · have hminus : js "-" ++ unsignedText value = 0x2D :: unsignedText value := rfl
    have habs : ((value.num.natAbs : Nat) : Rat) = -(value.num : Rat) := by
      rw [Nat.cast_natAbs, abs_of_neg hsign, Int.cast_neg]
    rw [if_pos hsign, hminus, readSigned, if_pos rfl, hdecimal, Option.map_some, habs, neg_div, neg_neg, ← hparts]
  · have habs : ((value.num.natAbs : Nat) : Rat) = (value.num : Rat) := by
      rw [Nat.cast_natAbs, abs_of_nonneg (not_lt.mp hsign)]
    rw [if_neg hsign, List.nil_append]
    rw [habs, ← hparts] at hdecimal
    obtain ⟨first, rest, htext, hfirst⟩ := unsignedText_eq_cons value
    obtain ⟨hlow, -⟩ := toNat_of_isAsciiDigit hfirst
    have hminus : first ≠ 0x2D := by
      rintro rfl
      exact absurd hlow (by decide)
    have hplus : first ≠ 0x2B := by
      rintro rfl
      exact absurd hlow (by decide)
    rw [htext] at hdecimal
    rw [htext, readSigned, if_neg hminus, if_neg hplus, hdecimal]

theorem numberToString_injective {left right : Rat} (hleft : IsDecimal left) (hright : IsDecimal right)
    (h : numberToString left = numberToString right) : left = right := by
  have hread := toNumber_numberToString hleft
  rw [h, toNumber_numberToString hright] at hread
  exact (Option.some.inj hread).symm

/-! ## Texts of primitives -/

theorem hexDigit4_injective {m : Nat} (hm : m < 16) (hn : n < 16) (h : hexDigit4 m = hexDigit4 n) : m = n := by
  have hvalue := congrArg UInt16.toNat h
  simp only [hexDigit4, UInt16.toNat_ofNat'] at hvalue
  split_ifs at hvalue <;> omega

/-- What a backslash and a letter stand for. -/
def unescaped (letter : UInt16) : UInt16 :=
  if letter = 0x62 then 0x8 else if letter = 0x66 then 0xC else if letter = 0x6E then 0xA
  else if letter = 0x72 then 0xD else if letter = 0x74 then 0x9 else letter

/-- A unit stands for itself, or is escaped by a letter or by its code. -/
theorem quoteUnit_cases (u : UInt16) :
    (u ≠ 0x5C ∧ quoteUnit u = [u]) ∨
      (∃ letter, letter ≠ 0x75 ∧ quoteUnit u = [0x5C, letter] ∧ unescaped letter = u) ∨
      (u.toNat < 0x20 ∧ quoteUnit u = [0x5C, 0x75, 0x30, 0x30, hexDigit4 (u.toNat / 16), hexDigit4 (u.toNat % 16)]) := by
  unfold quoteUnit
  by_cases h22 : u = 0x22
  · exact .inr (.inl ⟨0x22, by decide, by rw [if_pos h22]; rfl, h22.symm⟩)
  rw [if_neg h22]
  by_cases h5C : u = 0x5C
  · exact .inr (.inl ⟨0x5C, by decide, by rw [if_pos h5C]; rfl, h5C.symm⟩)
  rw [if_neg h5C]
  by_cases h8 : u = 0x8
  · exact .inr (.inl ⟨0x62, by decide, by rw [if_pos h8]; rfl, h8.symm⟩)
  rw [if_neg h8]
  by_cases hC : u = 0xC
  · exact .inr (.inl ⟨0x66, by decide, by rw [if_pos hC]; rfl, hC.symm⟩)
  rw [if_neg hC]
  by_cases hA : u = 0xA
  · exact .inr (.inl ⟨0x6E, by decide, by rw [if_pos hA]; rfl, hA.symm⟩)
  rw [if_neg hA]
  by_cases hD : u = 0xD
  · exact .inr (.inl ⟨0x72, by decide, by rw [if_pos hD]; rfl, hD.symm⟩)
  rw [if_neg hD]
  by_cases h9 : u = 0x9
  · exact .inr (.inl ⟨0x74, by decide, by rw [if_pos h9]; rfl, h9.symm⟩)
  rw [if_neg h9]
  by_cases hlow : u < 0x20
  · refine .inr (.inr ⟨UInt16.lt_iff_toNat_lt.mp hlow, ?_⟩)
    rw [if_pos hlow]
    rfl
  · exact .inl ⟨h5C, by rw [if_neg hlow]⟩

/-- The code of a unit and what follows it can be told apart. -/
theorem quoteUnit_append_inj {x y : UInt16} {s t : JsString} (h : quoteUnit x ++ s = quoteUnit y ++ t) :
    x = y ∧ s = t := by
  rcases quoteUnit_cases x with ⟨hx, hxq⟩ | ⟨c, hc, hxq, hcx⟩ | ⟨hx, hxq⟩ <;>
    rcases quoteUnit_cases y with ⟨hy, hyq⟩ | ⟨d, hd, hyq, hdy⟩ | ⟨hy, hyq⟩ <;>
    rw [hxq, hyq] at h <;>
    simp only [List.cons_append, List.nil_append, List.cons.injEq] at h
  · exact h
  · exact absurd h.1 hx
  · exact absurd h.1 hx
  · exact absurd h.1.symm hy
  · obtain ⟨-, rfl, rfl⟩ := h
    exact ⟨hcx.symm.trans hdy, rfl⟩
  · exact absurd h.2.1 hc
  · exact absurd h.1.symm hy
  · exact absurd h.2.1.symm hd
  · obtain ⟨-, -, -, -, hhigh, hlow, rfl⟩ := h
    have h1 := hexDigit4_injective (by omega) (by omega) hhigh
    have h2 := hexDigit4_injective (by omega) (by omega) hlow
    refine ⟨UInt16.toNat_inj.mp ?_, rfl⟩
    omega

theorem quoteUnit_ne_nil (u : UInt16) : quoteUnit u ≠ [] := by
  rcases quoteUnit_cases u with ⟨-, h⟩ | ⟨c, -, h, -⟩ | ⟨-, h⟩ <;> simp [h]

theorem quote_injective {s t : JsString} (h : quote s = quote t) : s = t := by
  have hbody : s.flatMap quoteUnit = t.flatMap quoteUnit := by
    unfold quote at h
    rw [List.append_assoc, List.append_assoc] at h
    exact List.append_cancel_right (List.append_cancel_left h)
  clear h
  induction s generalizing t with
  | nil =>
    cases t with
    | nil => rfl
    | cons v t =>
      rw [List.flatMap_nil, List.flatMap_cons] at hbody
      have hnil := List.append_eq_nil_iff.mp hbody.symm
      exact absurd hnil.1 (quoteUnit_ne_nil v)
  | cons u s ih =>
    cases t with
    | nil =>
      rw [List.flatMap_nil, List.flatMap_cons] at hbody
      have hnil := List.append_eq_nil_iff.mp hbody
      exact absurd hnil.1 (quoteUnit_ne_nil u)
    | cons v t =>
      rw [List.flatMap_cons, List.flatMap_cons] at hbody
      obtain ⟨rfl, hrest⟩ := quoteUnit_append_inj hbody
      rw [ih hrest]

/-- A primitive whose number, if it is one, is a decimal. -/
def IsPrimitiveValue : Json → Prop
  | .null | .bool _ | .str _ => True
  | .num value => IsDecimal value
  | .arr _ | .obj _ => False

/-- What the JSON text of a primitive starts with. -/
theorem head?_numberToString (value : Rat) :
    ∃ u, (numberToString value).head? = some u ∧ u.toNat < 0x3A ∧ u ≠ 0x22 := by
  rw [numberToString_eq]
  by_cases hsign : value.num < 0
  · rw [if_pos hsign]
    exact ⟨0x2D, rfl, by decide, by decide⟩
  · rw [if_neg hsign, List.nil_append]
    obtain ⟨first, rest, htext, hfirst⟩ := unsignedText_eq_cons value
    obtain ⟨hlow, hhigh⟩ := toNat_of_isAsciiDigit hfirst
    refine ⟨first, by rw [htext]; rfl, by omega, ?_⟩
    rintro rfl
    exact absurd hlow (by decide)

theorem numberToString_ne {text : JsString} (hu : text.head? = some u) (h : 0x3A ≤ u.toNat ∨ u = 0x22) :
    numberToString value ≠ text := by
  rintro rfl
  obtain ⟨v, hv, hless, hne⟩ := head?_numberToString value
  rw [hv] at hu
  obtain rfl := Option.some.inj hu
  rcases h with h | h
  · omega
  · exact hne h

/-- **Different primitives have different JSON texts.** -/
theorem stringify_injective {left right : Json} (hleft : IsPrimitiveValue left) (hright : IsPrimitiveValue right)
    (h : stringify left = stringify right) : left = right := by
  have hquote : ∀ s : JsString, (quote s).head? = some 0x22 := fun _ => rfl
  -- the words, the numbers and the quoted texts have no text in common
  have hwords : ∀ word : JsString, word = js "null" ∨ word = js "true" ∨ word = js "false" →
      (∀ value, numberToString value ≠ word) ∧ ∀ s, quote s ≠ word := by
    rintro word (rfl | rfl | rfl) <;>
      refine ⟨fun value => numberToString_ne rfl (by decide), fun s hs => ?_⟩ <;>
      exact absurd ((congrArg List.head? hs).symm.trans (hquote s)) (by decide)
  have hnull := hwords _ (.inl rfl)
  have htrue := hwords _ (.inr (.inl rfl))
  have hfalse := hwords _ (.inr (.inr rfl))
  cases left with
  | arr items => exact absurd hleft id
  | obj members => exact absurd hleft id
  | null =>
    cases right with
    | null => rfl
    | bool b => cases b <;> exact absurd h (by decide)
    | num q => exact absurd h.symm (hnull.1 q)
    | str s => exact absurd h.symm (hnull.2 s)
    | arr items => exact absurd hright id
    | obj members => exact absurd hright id
  | bool b =>
    cases right with
    | null => cases b <;> exact absurd h (by decide)
    | bool c => cases b <;> cases c <;> first | rfl | exact absurd h (by decide)
    | num q =>
      cases b
      · exact absurd h.symm (hfalse.1 q)
      · exact absurd h.symm (htrue.1 q)
    | str s =>
      cases b
      · exact absurd h.symm (hfalse.2 s)
      · exact absurd h.symm (htrue.2 s)
    | arr items => exact absurd hright id
    | obj members => exact absurd hright id
  | num p =>
    cases right with
    | null => exact absurd h (hnull.1 p)
    | bool c =>
      cases c
      · exact absurd h (hfalse.1 p)
      · exact absurd h (htrue.1 p)
    | num q => rw [numberToString_injective hleft hright h]
    | str s => exact absurd h (numberToString_ne (hquote s) (.inr rfl))
    | arr items => exact absurd hright id
    | obj members => exact absurd hright id
  | str s =>
    cases right with
    | null => exact absurd h (hnull.2 s)
    | bool c =>
      cases c
      · exact absurd h (hfalse.2 s)
      · exact absurd h (htrue.2 s)
    | num q => exact absurd h.symm (numberToString_ne (hquote s) (.inr rfl))
    | str t => rw [quote_injective h]
    | arr items => exact absurd hright id
    | obj members => exact absurd hright id

end Json
