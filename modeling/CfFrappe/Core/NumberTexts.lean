import CfFrappe.Core.JsonText

set_option autoImplicit false

/-! # Numbers between two texts

A name shows a number, padded with zeros to a width, between a text before it and a text behind it. Two such
names with other texts around their numbers may be the same text all the same. The module says for which texts
that happens for some numbers, without looking at the numbers (`meet_iff`):

* `isNumberText` is what a padded number looks like: digits, as many as the width; or more of them, and no zero
  in front.
* `Meet` lists the three ways in which two numbers can lie in one name. One of them lies inside the other, and the
  shortest one that can is a number of zeros (or, where the outer number would begin with it, of a one and zeros);
  they overlap; or one begins behind the other.
* The rest is about values: of two digit texts, the shorter one with the smaller value in the middle makes the
  smaller number (`digitsValue_middle_le`), so that only the least middles have to be looked at.
-/

open Utf Json

variable {front behind digits text a b b' : JsString} {n : Nat}

namespace NumberTexts

/-! ## Digits -/

def zeros (n : Nat) : JsString := List.replicate n 0x30

/-- A one and zeros. -/
def oneZeros (n : Nat) : JsString := 0x31 :: zeros n

theorem length_zeros (n : Nat) : (zeros n).length = n := List.length_replicate

theorem length_oneZeros (n : Nat) : (oneZeros n).length = n + 1 := by
  unfold oneZeros
  rw [List.length_cons, length_zeros]

theorem isAsciiDigit_zeros (n : Nat) : ∀ u ∈ zeros n, isAsciiDigit u = true := by
  intro u hu
  rw [(List.mem_replicate.mp hu).2]
  decide

theorem isAsciiDigit_oneZeros (n : Nat) : ∀ u ∈ oneZeros n, isAsciiDigit u = true := by
  intro u hu
  rcases List.mem_cons.mp hu with rfl | hu
  · decide
  · exact isAsciiDigit_zeros n u hu

theorem digitsValue_zeros (n : Nat) : digitsValue (zeros n) = 0 := digitsValue_replicate n

theorem digitsValue_singleton (u : UInt16) : digitsValue [u] = u.toNat - 0x30 := by
  unfold digitsValue
  rw [List.foldl_cons, List.foldl_nil]
  omega

theorem digitsValue_cons (u : UInt16) (digits : JsString) :
    digitsValue (u :: digits) = (u.toNat - 0x30) * 10 ^ digits.length + digitsValue digits := by
  have happend := digitsValue_append [u] digits
  rwa [List.singleton_append, digitsValue_singleton] at happend

theorem digitsValue_oneZeros (n : Nat) : digitsValue (oneZeros n) = 10 ^ n := by
  unfold oneZeros
  rw [digitsValue_cons, digitsValue_zeros, length_zeros]
  simp

/-- Digits are less than the power of ten that has one more. -/
theorem digitsValue_lt (h : ∀ u ∈ digits, isAsciiDigit u = true) : digitsValue digits < 10 ^ digits.length := by
  induction digits with
  | nil => decide
  | cons u digits ih =>
    have hdigit := toNat_of_isAsciiDigit (h u List.mem_cons_self)
    have hrest := ih (fun v hv => h v (List.mem_cons_of_mem _ hv))
    have hfirst : (u.toNat - 0x30) * 10 ^ digits.length ≤ 9 * 10 ^ digits.length := Nat.mul_le_mul_right _ (by omega)
    rw [digitsValue_cons, List.length_cons, pow_succ]
    omega

/-- Digits with no zero in front are at least the power of ten with as many. -/
theorem le_digitsValue {u : UInt16} (hdigit : isAsciiDigit u = true) (hzero : u ≠ 0x30) :
    10 ^ digits.length ≤ digitsValue (u :: digits) := by
  have hrange := toNat_of_isAsciiDigit hdigit
  have hne : u.toNat ≠ 0x30 := fun h => hzero (UInt16.toNat_inj.mp h)
  calc 10 ^ digits.length = 1 * 10 ^ digits.length := (Nat.one_mul _).symm
    _ ≤ (u.toNat - 0x30) * 10 ^ digits.length := Nat.mul_le_mul_right _ (by omega)
    _ ≤ digitsValue (u :: digits) := by
        rw [digitsValue_cons]
        exact Nat.le_add_right _ _

/-- As many digits with the same value are the same digits. -/
theorem digits_eq {digits' : JsString} (h : ∀ u ∈ digits, isAsciiDigit u = true)
    (h' : ∀ u ∈ digits', isAsciiDigit u = true) (hlength : digits.length = digits'.length)
    (hvalue : digitsValue digits = digitsValue digits') : digits = digits' := by
  induction digits generalizing digits' with
  | nil => exact (List.length_eq_zero_iff.mp hlength.symm).symm
  | cons u digits ih =>
    cases digits' with
    | nil => cases hlength
    | cons u' digits' =>
      have hlength' : digits.length = digits'.length := Nat.succ.inj hlength
      have htail := fun v hv => h v (List.mem_cons_of_mem _ hv)
      have htail' := fun v hv => h' v (List.mem_cons_of_mem _ hv)
      have hlt := digitsValue_lt htail
      have hlt' := digitsValue_lt htail'
      have hdigit := toNat_of_isAsciiDigit (h u List.mem_cons_self)
      have hdigit' := toNat_of_isAsciiDigit (h' u' List.mem_cons_self)
      rw [digitsValue_cons, digitsValue_cons, ← hlength'] at hvalue
      rw [← hlength'] at hlt'
      -- the quotient by the power of ten is the first digit, the remainder the value of the others
      have hfirst : u.toNat - 0x30 = u'.toNat - 0x30 := by
        have hquotient : ∀ x r, r < 10 ^ digits.length → (x * 10 ^ digits.length + r) / 10 ^ digits.length = x := by
          intro x r hr
          rw [Nat.mul_comm, Nat.mul_add_div (Nat.pow_pos (by decide)), Nat.div_eq_of_lt hr, Nat.add_zero]
        have hdiv := congrArg (· / 10 ^ digits.length) hvalue
        rwa [hquotient _ _ hlt, hquotient _ _ hlt'] at hdiv
      have hsame : u = u' := UInt16.toNat_inj.mp (by omega)
      rw [hfirst] at hvalue
      rw [hsame, ih htail htail' hlength' (by omega)]

/-- **The least middle**: with a shorter middle of a smaller value, the whole has a smaller value. -/
theorem digitsValue_middle_le (before behind : JsString) {middle middle' : JsString}
    (hlength : middle.length ≤ middle'.length) (hvalue : digitsValue middle ≤ digitsValue middle') :
    digitsValue (before ++ middle ++ behind) ≤ digitsValue (before ++ middle' ++ behind) := by
  have hpow : 10 ^ middle.length ≤ 10 ^ middle'.length := Nat.pow_le_pow_right (by decide) hlength
  have hwhole : digitsValue (before ++ middle) ≤ digitsValue (before ++ middle') := by
    rw [digitsValue_append, digitsValue_append]
    exact Nat.add_le_add (Nat.mul_le_mul_left _ hpow) hvalue
  rw [digitsValue_append, digitsValue_append (before ++ middle')]
  exact Nat.add_le_add_right (Nat.mul_le_mul_right _ hwhole) _

/-! ## The text of a number -/

/-- A number up to `last`, padded to a width. -/
def isNumberText (width last : Nat) (text : JsString) : Bool :=
  text.all isAsciiDigit && decide (width ≤ text.length) &&
    (decide (text.length = width) || text.head? != some 0x30) && decide (digitsValue text ≤ last)

/-- What `isNumberText` has seen. -/
structure NumberText (width last : Nat) (text : JsString) : Prop where
  digits : ∀ u ∈ text, isAsciiDigit u = true
  long : width ≤ text.length
  head : text.length = width ∨ text.head? ≠ some 0x30
  value : digitsValue text ≤ last

theorem isNumberText_iff {width last : Nat} : isNumberText width last text = true ↔ NumberText width last text := by
  unfold isNumberText
  simp only [Bool.and_eq_true, List.all_eq_true, decide_eq_true_eq, Bool.or_eq_true, bne_iff_ne]
  constructor
  · rintro ⟨⟨⟨hdigits, hwidth⟩, hhead⟩, hvalue⟩
    exact ⟨hdigits, hwidth, hhead, hvalue⟩
  · intro h
    exact ⟨⟨⟨h.digits, h.long⟩, h.head⟩, h.value⟩

theorem head?_natToString (hn : n ≠ 0) : (natToString n).head? ≠ some 0x30 := by
  induction n using Nat.strongRecOn with
  | ind n ih =>
    by_cases hsmall : n < 10
    · interval_cases n
      · exact absurd rfl hn
      all_goals decide
    · have hrest := ih (n / 10) (by omega) (by omega)
      rw [natToString_of_ge (by omega), List.head?_append_of_ne_nil _ (natToString_ne_nil _)]
      exact hrest

theorem numberText_padZeros {width last : Nat} (hwidth : 0 < width) (hn : n ≤ last) :
    NumberText width last (padZeros width (natToString n)) where
  digits := fun _ hu => isAsciiDigit_of_mem_padZeros hu
  long := by
    unfold padZeros
    rw [List.length_append, List.length_replicate]
    omega
  head := by
    by_cases hlong : n < 10 ^ width
    · exact Or.inl (length_padZeros hwidth hlong)
    · -- more digits than the width: nothing is padded
      have hlength : width ≤ (natToString n).length := by
        by_contra hshort
        have hlt := digitsValue_lt (fun u hu => isAsciiDigit_of_mem_natToString (n := n) hu)
        rw [digitsValue_natToString] at hlt
        have hpow : 10 ^ (natToString n).length ≤ 10 ^ width := Nat.pow_le_pow_right (by decide) (by omega)
        omega
      have hsame : padZeros width (natToString n) = natToString n := by
        unfold padZeros
        rw [Nat.sub_eq_zero_of_le hlength]
        rfl
      have hzero : n ≠ 0 := by
        rintro rfl
        exact hlong (Nat.pow_pos (by decide))
      rw [hsame]
      exact Or.inr (head?_natToString hzero)
  value := by
    rw [digitsValue_padZeros, digitsValue_natToString]
    exact hn

theorem NumberText.eq_padZeros {width last : Nat} (hwidth : 0 < width) (h : NumberText width last text) :
    text = padZeros width (natToString (digitsValue text)) := by
  have hpadded := @numberText_padZeros _ width (digitsValue text) hwidth (Nat.le_refl _)
  have hvalue : digitsValue (padZeros width (natToString (digitsValue text))) = digitsValue text := by
    rw [digitsValue_padZeros, digitsValue_natToString]
  refine digits_eq h.digits hpadded.digits ?_ hvalue.symm
  have hlt := digitsValue_lt h.digits
  -- two numbers without a zero in front that are longer than the width: their values tell their lengths
  have hatLeast : ∀ {a b : JsString}, NumberText width (digitsValue a) a → width < a.length →
      (∀ u ∈ b, isAsciiDigit u = true) → digitsValue a = digitsValue b → a.length ≤ b.length := by
    intro a b ha hlong hb hsame
    cases a with
    | nil => exact Nat.zero_le _
    | cons u a =>
      have hzero : u ≠ 0x30 := by
        rcases ha.head with hshort | hhead
        · omega
        · intro hu
          exact hhead (by rw [hu]; rfl)
      have hle := @le_digitsValue a u (ha.digits u List.mem_cons_self) hzero
      have hltb := digitsValue_lt hb
      rw [hsame] at hle
      exact Nat.succ_le_of_lt ((Nat.pow_lt_pow_iff_right (by decide)).mp (Nat.lt_of_le_of_lt hle hltb))
  have hown : NumberText width (digitsValue text) text := ⟨h.digits, h.long, h.head, Nat.le_refl _⟩
  have hown' : NumberText width (digitsValue (padZeros width (natToString (digitsValue text))))
      (padZeros width (natToString (digitsValue text))) := ⟨hpadded.digits, hpadded.long, hpadded.head, Nat.le_refl _⟩
  have hlong := h.long
  have hlong' := hpadded.long
  by_cases hlonger : width < text.length
  · have hle := hatLeast hown hlonger hpadded.digits hvalue.symm
    have hge := hatLeast hown' (by omega) h.digits hvalue
    omega
  · by_cases hlonger' : width < (padZeros width (natToString (digitsValue text))).length
    · have hge := hatLeast hown' hlonger' h.digits hvalue
      omega
    · omega

/-- **The texts of numbers** are the padded numbers. -/
theorem numberText_iff {width last : Nat} (hwidth : 0 < width) :
    NumberText width last text ↔ ∃ n ≤ last, text = padZeros width (natToString n) := by
  constructor
  · intro h
    exact ⟨_, h.value, h.eq_padZeros hwidth⟩
  · rintro ⟨n, hn, rfl⟩
    exact numberText_padZeros hwidth hn

/-! ## Two numbers in one text -/

/-- The least number that can stand between other digits of a number: zeros, or a one and zeros where the number
would begin with it. -/
def innerNumber (width : Nat) (before behind : JsString) : JsString :=
  if before = [] ∧ behind ≠ [] then oneZeros (width - 1) else zeros width

/-- The digits that two overlapping numbers may have in common. -/
def sharedDigits (width : Nat) : List JsString :=
  (List.range (width + 1)).map zeros ++ (List.range width).map oneZeros

/-- **The texts around two numbers meet**: some number between `a` and `b` and some number between `a'` and `b'` make
one and the same text, of at most `limit` characters. -/
inductive Meet (width last limit : Nat) : (a b a' b' : JsString) → Prop
  /-- The second number lies inside the first one. -/
  | encloses (a front behind b : JsString)
      (hnumber : isNumberText width last (front ++ innerNumber width front behind ++ behind) = true)
      (hlimit : (a ++ (front ++ innerNumber width front behind ++ behind) ++ b).length ≤ limit) :
      Meet width last limit a b (a ++ front) (behind ++ b)
  /-- The first number ends with the digits that the second one begins with. -/
  | overlaps (a front shared behind b : JsString) (hshared : shared ∈ sharedDigits width)
      (hfirst : isNumberText width last (front ++ shared) = true)
      (hsecond : isNumberText width last (shared ++ behind) = true)
      (hlimit : (a ++ (front ++ shared) ++ (behind ++ b)).length ≤ limit) :
      Meet width last limit a (behind ++ b) (a ++ front) b
  /-- The second number begins behind the first one. -/
  | apart (a first between second b : JsString) (hfirst : isNumberText width last first = true)
      (hsecond : isNumberText width last second = true)
      (hlimit : (a ++ first ++ (between ++ second ++ b)).length ≤ limit) :
      Meet width last limit a (between ++ second ++ b) (a ++ first ++ between) b
  /-- The same with the two exchanged. -/
  | swapped {a b a' b' : JsString} (h : Meet width last limit a' b' a b) : Meet width last limit a b a' b'

section

variable {width last limit : Nat}

/-- Some number between other digits of a number is as small as `innerNumber`. -/
theorem innerNumber_least (hwidth : 0 < width) {number : JsString} (hnumber : NumberText width last number)
    (h : NumberText width last (front ++ number ++ behind)) :
    (innerNumber width front behind).length ≤ number.length ∧
      digitsValue (innerNumber width front behind) ≤ digitsValue number := by
  have hlong := hnumber.long
  unfold innerNumber
  split_ifs with hfirst
  · obtain ⟨rfl, hbehind⟩ := hfirst
    rw [length_oneZeros, digitsValue_oneZeros]
    refine ⟨by omega, ?_⟩
    cases number with
    | nil =>
      rw [List.length_nil] at hlong
      omega
    | cons u number =>
      have hlonger : 0 < behind.length := List.length_pos_iff.mpr hbehind
      have hzero : u ≠ 0x30 := by
        rcases h.head with hshort | hhead
        · rw [List.nil_append, List.length_append] at hshort
          omega
        · intro hu
          exact hhead (by rw [hu]; rfl)
      rw [List.length_cons] at hlong
      calc 10 ^ (width - 1) ≤ 10 ^ number.length := Nat.pow_le_pow_right (by decide) (by omega)
        _ ≤ digitsValue (u :: number) := le_digitsValue (hnumber.digits u List.mem_cons_self) hzero
  · rw [length_zeros, digitsValue_zeros]
    exact ⟨hlong, Nat.zero_le _⟩

theorem isAsciiDigit_innerNumber (front behind : JsString) :
    ∀ u ∈ innerNumber width front behind, isAsciiDigit u = true := by
  unfold innerNumber
  split_ifs
  · exact isAsciiDigit_oneZeros _
  · exact isAsciiDigit_zeros _

theorem length_innerNumber (hwidth : 0 < width) (front behind : JsString) :
    (innerNumber width front behind).length = width := by
  unfold innerNumber
  split_ifs
  · rw [length_oneZeros]
    omega
  · exact length_zeros width

/-- A number stays one if the number inside it is taken for the least one. -/
theorem NumberText.inner (hwidth : 0 < width) {number : JsString} (hnumber : NumberText width last number)
    (h : NumberText width last (front ++ number ++ behind)) :
    NumberText width last (front ++ innerNumber width front behind ++ behind) := by
  obtain ⟨hshorter, hsmaller⟩ := innerNumber_least hwidth hnumber h
  have hlength := length_innerNumber hwidth front behind
  refine ⟨?_, ?_, ?_, (digitsValue_middle_le front behind hshorter hsmaller).trans h.value⟩
  · intro u hu
    rcases List.mem_append.mp hu with hu | hu
    · rcases List.mem_append.mp hu with hu | hu
      · exact h.digits u (List.mem_append_left _ (List.mem_append_left _ hu))
      · exact isAsciiDigit_innerNumber front behind u hu
    · exact h.digits u (List.mem_append_right _ hu)
  · rw [List.length_append, List.length_append]
    omega
  · cases front with
    | nil =>
      by_cases hbehind : behind = []
      · subst hbehind
        rw [List.nil_append, List.append_nil]
        exact Or.inl hlength
      · -- the number begins with a one
        unfold innerNumber
        rw [if_pos ⟨rfl, hbehind⟩]
        right
        show some (0x31 : UInt16) ≠ some 0x30
        decide
    | cons u front =>
      rcases h.head with hshort | hhead
      · rw [List.length_append, List.length_append, List.length_cons] at hshort
        have hlong := hnumber.long
        omega
      · exact Or.inr hhead

/-- The least number inside a number is one. -/
theorem numberText_innerNumber (hwidth : 0 < width)
    (h : NumberText width last (front ++ innerNumber width front behind ++ behind)) :
    NumberText width last (innerNumber width front behind) where
  digits := isAsciiDigit_innerNumber front behind
  long := Nat.le_of_eq (length_innerNumber hwidth front behind).symm
  head := Or.inl (length_innerNumber hwidth front behind)
  value := by
    have hpos : 0 < 10 ^ behind.length := Nat.pow_pos (by decide)
    have hinner : digitsValue (innerNumber width front behind) ≤
        digitsValue (front ++ innerNumber width front behind) := by
      rw [digitsValue_append]
      exact Nat.le_add_left _ _
    calc digitsValue (innerNumber width front behind)
        ≤ digitsValue (front ++ innerNumber width front behind) * 10 ^ behind.length :=
          hinner.trans (Nat.le_mul_of_pos_right _ hpos)
      _ ≤ digitsValue (front ++ innerNumber width front behind ++ behind) := by
          rw [digitsValue_append (front ++ _)]
          exact Nat.le_add_right _ _
      _ ≤ last := h.value

theorem zeros_mem_sharedDigits (h : n ≤ width) : zeros n ∈ sharedDigits width :=
  List.mem_append_left _ (List.mem_map_of_mem (List.mem_range.mpr (by omega)))

theorem oneZeros_mem_sharedDigits (h : n < width) : oneZeros n ∈ sharedDigits width :=
  List.mem_append_right _ (List.mem_map_of_mem (List.mem_range.mpr h))

/-- Overlapping numbers stay so with digits in common that are fewer and of a smaller value. -/
theorem NumberText.share {shared shared' : JsString} (hdigits : ∀ u ∈ shared', isAsciiDigit u = true)
    (hshorter : shared'.length ≤ shared.length) (hsmaller : digitsValue shared' ≤ digitsValue shared)
    (hlong : width ≤ (front ++ shared' ++ behind).length)
    (hhead : (front ++ shared' ++ behind).length = width ∨ (front ++ shared' ++ behind).head? ≠ some 0x30)
    (h : NumberText width last (front ++ shared ++ behind)) : NumberText width last (front ++ shared' ++ behind) := by
  refine ⟨?_, hlong, hhead, (digitsValue_middle_le front behind hshorter hsmaller).trans h.value⟩
  intro u hu
  rcases List.mem_append.mp hu with hu | hu
  · rcases List.mem_append.mp hu with hu | hu
    · exact h.digits u (List.mem_append_left _ (List.mem_append_left _ hu))
    · exact hdigits u hu
  · exact h.digits u (List.mem_append_right _ hu)

/-- What two overlapping numbers have in common may be zeros, or a one and zeros, and is not longer then. -/
theorem exists_sharedDigits (hwidth : 0 < width) {shared : JsString} (hfirst : NumberText width last (front ++ shared))
    (hsecond : NumberText width last (shared ++ behind)) :
    ∃ least ∈ sharedDigits width, least.length ≤ shared.length ∧ NumberText width last (front ++ least) ∧
      NumberText width last (least ++ behind) := by
  have hlong := hfirst.long
  have hlong' := hsecond.long
  rw [List.length_append] at hlong hlong'
  -- the two numbers with other digits in common
  have hleast : ∀ least : JsString, (∀ u ∈ least, isAsciiDigit u = true) → least.length ≤ shared.length →
      digitsValue least ≤ digitsValue shared → width ≤ front.length + least.length →
      width ≤ least.length + behind.length →
      (front.length + least.length = width ∨ (front ++ least).head? ≠ some 0x30) →
      (least.length + behind.length = width ∨ (least ++ behind).head? ≠ some 0x30) →
      NumberText width last (front ++ least) ∧ NumberText width last (least ++ behind) := by
    intro least hdigits hshorter hsmaller hlongFirst hlongSecond hheadFirst hheadSecond
    constructor
    · rw [← List.append_nil (front ++ least)]
      rw [← List.append_nil (front ++ shared)] at hfirst
      refine NumberText.share hdigits hshorter hsmaller ?_ ?_ hfirst
      · rwa [List.append_nil, List.length_append]
      · rwa [List.append_nil, List.length_append]
    · have hsecond' : NumberText width last ([] ++ shared ++ behind) := hsecond
      refine NumberText.share hdigits hshorter hsmaller ?_ ?_ hsecond'
      · rwa [List.nil_append, List.length_append]
      · rwa [List.nil_append, List.length_append]
  cases shared with
  | nil => exact ⟨zeros 0, zeros_mem_sharedDigits (Nat.zero_le _), Nat.le_refl 0, hfirst, hsecond⟩
  | cons u shared =>
    rw [List.length_cons] at hlong hlong'
    by_cases hzero : u = 0x30
    · -- a zero in front: the second number is as long as the width
      subst hzero
      have hexact : shared.length + 1 + behind.length = width := by
        rcases hsecond.head with hshort | hhead
        · rwa [List.length_append, List.length_cons] at hshort
        · exact absurd rfl hhead
      refine ⟨zeros (shared.length + 1), zeros_mem_sharedDigits (by omega), ?_, ?_⟩
      · rw [length_zeros, List.length_cons]
      · refine hleast _ (isAsciiDigit_zeros _) ?_ ?_ ?_ ?_ ?_ ?_
        · rw [length_zeros, List.length_cons]
        · rw [digitsValue_zeros]
          exact Nat.zero_le _
        · rwa [length_zeros]
        · rwa [length_zeros]
        · rw [length_zeros]
          cases front with
          | nil =>
            rcases hfirst.head with hshort | hhead
            · rw [List.nil_append, List.length_cons] at hshort
              left
              rwa [List.length_nil, Nat.zero_add]
            · exact absurd rfl hhead
          | cons v front =>
            rcases hfirst.head with hshort | hhead
            · rw [List.length_append] at hshort
              exact Or.inl hshort
            · exact Or.inr hhead
        · rw [length_zeros]
          exact Or.inl hexact
    · have hvalue := @le_digitsValue shared u (hsecond.digits u (List.mem_append_left _ List.mem_cons_self)) hzero
      refine ⟨oneZeros (min shared.length (width - 1)), oneZeros_mem_sharedDigits (by omega), ?_, ?_⟩
      · rw [length_oneZeros, List.length_cons]
        omega
      · refine hleast _ (isAsciiDigit_oneZeros _) ?_ ?_ ?_ ?_ ?_ ?_
        · rw [length_oneZeros, List.length_cons]
          omega
        · rw [digitsValue_oneZeros]
          exact (Nat.pow_le_pow_right (by decide) (Nat.min_le_left _ _)).trans hvalue
        · rw [length_oneZeros]
          omega
        · rw [length_oneZeros]
          omega
        · rw [length_oneZeros]
          cases front with
          | nil =>
            right
            show some (0x31 : UInt16) ≠ some 0x30
            decide
          | cons v front =>
            rcases hfirst.head with hshort | hhead
            · simp only [List.length_append, List.length_cons] at hshort ⊢
              left
              omega
            · exact Or.inr hhead
        · right
          show some (0x31 : UInt16) ≠ some 0x30
          decide

/-- Some number between `a` and `b` and some number between `a'` and `b'` make one text. -/
def SomeNumbersMeet (width last limit : Nat) (a b a' b' : JsString) : Prop :=
  ∃ t t', NumberText width last t ∧ NumberText width last t' ∧ a ++ t ++ b = a' ++ t' ++ b' ∧
    (a ++ t ++ b).length ≤ limit

theorem SomeNumbersMeet.swapped {a' : JsString} (h : SomeNumbersMeet width last limit a' b' a b) :
    SomeNumbersMeet width last limit a b a' b' := by
  obtain ⟨t, t', ht, ht', hsame, hlimit⟩ := h
  exact ⟨t', t, ht', ht, hsame.symm, hsame ▸ hlimit⟩

/-- Where the second text before the number is the longer one. -/
theorem meet_of_longer (hwidth : 0 < width) {d : JsString} (h : SomeNumbersMeet width last limit a b (a ++ d) b') :
    Meet width last limit a b (a ++ d) b' := by
  obtain ⟨t, t', ht, ht', hsame, hlimit⟩ := h
  rw [List.append_assoc, List.append_assoc, List.append_assoc, List.append_cancel_left_eq] at hsame
  rcases List.append_eq_append_iff.mp hsame with ⟨x, hd, hb⟩ | ⟨y, ht_eq, hrest⟩
  · -- the first number ends before the second one begins
    subst hd hb
    have hmeet : Meet width last limit a (x ++ t' ++ b') (a ++ t ++ x) b' :=
      Meet.apart a t x t' b' (isNumberText_iff.mpr ht) (isNumberText_iff.mpr ht') (by rwa [List.append_assoc x t' b'])
    rwa [List.append_assoc, List.append_assoc] at hmeet
  · subst ht_eq
    rcases List.append_eq_append_iff.mp hrest with ⟨e, hy, hb'⟩ | ⟨z, ht'_eq, hb⟩
    · -- the second number lies inside the first one
      subst hy hb'
      rw [← List.append_assoc] at ht
      have hshorter := (innerNumber_least hwidth ht' ht).1
      refine Meet.encloses a d e b (isNumberText_iff.mpr (ht'.inner hwidth ht)) ?_
      simp only [List.length_append] at hlimit ⊢
      omega
    · subst ht'_eq hb
      obtain ⟨least, hleast, hshorter, hfirst, hsecond⟩ := exists_sharedDigits hwidth ht ht'
      refine Meet.overlaps a d least z b' hleast (isNumberText_iff.mpr hfirst) (isNumberText_iff.mpr hsecond) ?_
      simp only [List.length_append] at hlimit ⊢
      omega

/-- **Where numbers between two texts meet**: exactly where the texts around them do. -/
theorem meet_iff (hwidth : 0 < width) {a' : JsString} :
    Meet width last limit a b a' b' ↔ SomeNumbersMeet width last limit a b a' b' := by
  constructor
  · intro h
    induction h with
    | encloses a front behind b hnumber hlimit =>
      have ht := isNumberText_iff.mp hnumber
      refine ⟨_, _, ht, numberText_innerNumber hwidth ht, ?_, hlimit⟩
      simp only [List.append_assoc]
    | overlaps a front shared behind b hshared hfirst hsecond hlimit =>
      refine ⟨_, _, isNumberText_iff.mp hfirst, isNumberText_iff.mp hsecond, ?_, hlimit⟩
      simp only [List.append_assoc]
    | apart a first between second b hfirst hsecond hlimit =>
      refine ⟨_, _, isNumberText_iff.mp hfirst, isNumberText_iff.mp hsecond, ?_, hlimit⟩
      simp only [List.append_assoc]
    | swapped _ ih => exact ih.swapped
  · intro h
    -- of the two texts before the numbers, one begins with the other
    have hbefore : (∃ d, a' = a ++ d) ∨ ∃ d, a = a' ++ d := by
      obtain ⟨t, t', -, -, hsame, -⟩ := h
      rw [List.append_assoc, List.append_assoc] at hsame
      rcases List.append_eq_append_iff.mp hsame with ⟨d, hd, -⟩ | ⟨d, hd, -⟩
      · exact Or.inl ⟨d, hd⟩
      · exact Or.inr ⟨d, hd⟩
    rcases hbefore with ⟨d, rfl⟩ | ⟨d, rfl⟩
    · exact meet_of_longer hwidth h
    · exact Meet.swapped (meet_of_longer hwidth h.swapped)

end

end NumberTexts
