import CfFrappe.Core.Naming

set_option autoImplicit false

/-! # What a scan for candidates finds

A scan walks the progression of a series (`term`) and collects the values that no exclusion matches
(`allowedAmong`). `FindsFirst` says which scan is the right one: the first values asked for, with the number
of values tried, within the attempt limit and the safe integers. `scanLoop_iff` says what the loop returns:
this scan, provided that the value behind the last one tried is a safe integer as well, because the loop
steps on before it looks at what it has.
-/

open Utf

namespace Naming

section

variable (parseDate : Timestamp → Option UtcDate) (input : ScanInput) (compiled : List PatternToken)
variable (exclusions : List CompiledExclusion)

def ScanInput.step : Nat := input.strategy.step.getD 1

/-- The first value of the progression: the start, or the value behind the current one. -/
def ScanInput.first : Nat :=
  match input.current with
  | none => input.strategy.start.getD 1
  | some current => current + input.step

def ScanInput.term (k : Nat) : Nat := input.first + k * input.step

def ScanInput.limit : Nat := input.attemptLimit.getD (input.strategy.maxAttempts.getD defaultMaxAttempts)

/-- The allowed ones among the first values of the progression, if all of these render. -/
def allowedAmong : Nat → Except FrameworkError (List NamingCandidate)
  | 0 => .ok []
  | k + 1 => do
      let found ← allowedAmong k
      let name ← renderNamingCandidate parseDate input.doctype input.strategy input.data input.context (input.term k) compiled
      return if isExcluded exclusions (input.term k) name then found else found ++ [{ value := input.term k, name }]

/-- **The right scan**: the first values asked for that are allowed, found with so many attempts and not with
fewer. -/
structure FindsFirst (scan : NamingCandidateScan) : Prop where
  inLimit : scan.attempts ≤ input.limit
  safe : ∀ k < scan.attempts, input.term k ≤ maxSafeInteger
  found : allowedAmong parseDate input compiled exclusions scan.attempts = .ok scan.candidates
  count : scan.candidates.length = input.count
  notBefore : ∀ k < scan.attempts, ∀ found, allowedAmong parseDate input compiled exclusions k = .ok found →
    found.length < input.count

/-- The last safe integer of the progression is the last of the values asked for. -/
def EndsWithLast : Prop :=
  ∃ k found, k < input.limit ∧ input.term k ≤ maxSafeInteger ∧ maxSafeInteger < input.term (k + 1) ∧
    allowedAmong parseDate input compiled exclusions (k + 1) = .ok found ∧ found.length = input.count ∧
    ∀ before, allowedAmong parseDate input compiled exclusions k = .ok before → before.length < input.count

end

section

variable {parseDate : Timestamp → Option UtcDate} {input : ScanInput} {compiled : List PatternToken}
variable {exclusions : List CompiledExclusion} {k : Nat} {found : List NamingCandidate} {scan : NamingCandidateScan}

theorem term_succ (k : Nat) : input.term (k + 1) = input.term k + input.step := by
  unfold ScanInput.term
  ring

theorem term_mono {l : Nat} (h : k ≤ l) : input.term k ≤ input.term l :=
  Nat.add_le_add_left (Nat.mul_le_mul_right _ h) _

/-- What has been found among some values is the beginning of what is found among more. -/
theorem allowedAmong_prefix {l : Nat} (hkl : k ≤ l) (h : allowedAmong parseDate input compiled exclusions l = .ok found) :
    ∃ before, allowedAmong parseDate input compiled exclusions k = .ok before ∧ before <+: found := by
  induction l generalizing found with
  | zero =>
    obtain rfl := Nat.le_zero.mp hkl
    exact ⟨found, h, List.prefix_rfl⟩
  | succ l ih =>
    rcases Nat.lt_or_eq_of_le hkl with hlt | rfl
    · obtain ⟨last, hlast, h⟩ := except_bind_eq_ok h
      obtain ⟨name, -, h⟩ := except_bind_eq_ok h
      obtain ⟨before, hbefore, hprefix⟩ := ih (Nat.lt_succ_iff.mp hlt) hlast
      refine ⟨before, hbefore, hprefix.trans ?_⟩
      rw [← Except.ok.inj h]
      split_ifs
      · exact List.prefix_rfl
      · exact List.prefix_append _ _
    · exact ⟨found, h, List.prefix_rfl⟩

/-- One value adds at most one candidate. -/
theorem allowedAmong_succ_length {before : List NamingCandidate}
    (hbefore : allowedAmong parseDate input compiled exclusions k = .ok before)
    (h : allowedAmong parseDate input compiled exclusions (k + 1) = .ok found) : found.length ≤ before.length + 1 := by
  obtain ⟨last, hlast, h⟩ := except_bind_eq_ok h
  obtain ⟨name, -, h⟩ := except_bind_eq_ok h
  rw [hbefore] at hlast
  cases hlast
  rw [← Except.ok.inj h]
  split_ifs <;> simp

/-- The candidates are in increasing order. -/
theorem allowedAmong_sorted (hstep : 1 ≤ input.step)
    (h : allowedAmong parseDate input compiled exclusions k = .ok found) :
    (found.map (·.value)).Pairwise (· < ·) ∧ ∀ candidate ∈ found, candidate.value < input.term k := by
  induction k generalizing found with
  | zero =>
    cases h
    simp
  | succ k ih =>
    obtain ⟨before, hbefore, h⟩ := except_bind_eq_ok h
    obtain ⟨name, -, h⟩ := except_bind_eq_ok h
    obtain ⟨hsorted, hbelow⟩ := ih hbefore
    have hnext := @term_succ input k
    rw [← Except.ok.inj h]
    split_ifs
    · exact ⟨hsorted, fun candidate hcandidate => by have := hbelow candidate hcandidate; omega⟩
    · constructor
      · rw [List.map_append, List.map_singleton, List.pairwise_append]
        refine ⟨hsorted, List.pairwise_singleton _ _, ?_⟩
        intro value hvalue last hlast
        obtain ⟨candidate, hcandidate, rfl⟩ := List.mem_map.mp hvalue
        rw [List.mem_singleton] at hlast
        rw [hlast]
        exact hbelow candidate hcandidate
      · intro candidate hcandidate
        rcases List.mem_append.mp hcandidate with hold | hnew
        · have := hbelow candidate hold
          omega
        · rw [List.mem_singleton] at hnew
          rw [hnew]
          dsimp only
          omega

/-- Only the first values decide which scan is the right one. -/
theorem FindsFirst.le_attempts (h : FindsFirst parseDate input compiled exclusions scan)
    (hfound : allowedAmong parseDate input compiled exclusions k = .ok found) (hfew : found.length < input.count) :
    k < scan.attempts := by
  by_contra hle
  obtain ⟨before, hbefore, hprefix⟩ := allowedAmong_prefix (Nat.le_of_not_lt hle) hfound
  rw [h.found] at hbefore
  cases hbefore
  have := hprefix.length_le
  have := h.count
  omega

/-- With enough candidates after so many attempts, and not before, that is the right scan. -/
theorem findsFirst_of_enough (hlimit : k ≤ input.limit) (hsafe : input.term k ≤ maxSafeInteger)
    (hfound : allowedAmong parseDate input compiled exclusions k = .ok found) (hcount : found.length = input.count)
    (hnotBefore : ∀ l < k, ∀ before, allowedAmong parseDate input compiled exclusions l = .ok before →
      before.length < input.count) :
    { candidates := found, attempts := k } = scan ↔
      FindsFirst parseDate input compiled exclusions scan ∧ input.term scan.attempts ≤ maxSafeInteger := by
  constructor
  · rintro rfl
    refine ⟨⟨hlimit, ?_, hfound, hcount, hnotBefore⟩, hsafe⟩
    intro l hl
    exact (term_mono (Nat.le_of_lt hl)).trans hsafe
  · rintro ⟨h, -⟩
    -- neither of the two numbers of attempts is below the other
    have hle : scan.attempts ≤ k := by
      by_contra hlt
      have := h.notBefore k (Nat.lt_of_not_le hlt) found hfound
      omega
    have hge : k ≤ scan.attempts := by
      by_contra hlt
      have := hnotBefore scan.attempts (Nat.lt_of_not_le hlt) scan.candidates h.found
      have := h.count
      omega
    have hattempts : scan.attempts = k := Nat.le_antisymm hle hge
    have hcandidates := h.found
    rw [hattempts, hfound] at hcandidates
    cases scan
    cases hattempts
    cases hcandidates
    rfl

/-- **What the loop returns** after so many attempts: the right scan, if the value behind the last one tried
is a safe integer too. -/
theorem scanLoop_iff {remaining : Nat} (hlimit : remaining + k = input.limit) (hsafe : input.term k ≤ maxSafeInteger)
    (hfound : allowedAmong parseDate input compiled exclusions k = .ok found) (hatMost : found.length ≤ input.count)
    (hnotBefore : ∀ l < k, ∀ before, allowedAmong parseDate input compiled exclusions l = .ok before →
      before.length < input.count) :
    scanLoop parseDate input compiled exclusions input.step remaining (input.term k) k found = .ok scan ↔
      FindsFirst parseDate input compiled exclusions scan ∧ input.term scan.attempts ≤ maxSafeInteger := by
  induction remaining generalizing k found with
  | zero =>
    unfold scanLoop
    by_cases henough : input.count ≤ found.length
    · rw [if_pos henough, Except.ok.injEq]
      exact findsFirst_of_enough (by omega) hsafe hfound (Nat.le_antisymm hatMost henough) hnotBefore
    · rw [if_neg henough]
      constructor
      · intro h
        cases h
      · rintro ⟨h, -⟩
        have := h.le_attempts hfound (Nat.lt_of_not_le henough)
        have := h.inLimit
        omega
  | succ remaining ih =>
    unfold scanLoop
    by_cases henough : input.count ≤ found.length
    · rw [if_pos henough, Except.ok.injEq]
      exact findsFirst_of_enough (by omega) hsafe hfound (Nat.le_antisymm hatMost henough) hnotBefore
    · rw [if_neg henough]
      dsimp only
      have hfew := Nat.lt_of_not_le henough
      -- the right scan tries this value and steps on
      have htried : FindsFirst parseDate input compiled exclusions scan →
          ∃ next, allowedAmong parseDate input compiled exclusions (k + 1) = .ok next ∧ k + 1 ≤ scan.attempts := by
        intro h
        have hmore : k + 1 ≤ scan.attempts := h.le_attempts hfound hfew
        obtain ⟨next, hnext, -⟩ := allowedAmong_prefix hmore h.found
        exact ⟨next, hnext, hmore⟩
      cases hname : renderNamingCandidate parseDate input.doctype input.strategy input.data input.context
          (input.term k) compiled with
      | error error =>
        constructor
        · intro h
          cases h
        · rintro ⟨h, -⟩
          obtain ⟨next, hnext, -⟩ := htried h
          obtain ⟨before, -, hnext⟩ := except_bind_eq_ok hnext
          rw [hname] at hnext
          cases hnext
      | ok name =>
        have hnext : allowedAmong parseDate input compiled exclusions (k + 1) =
            .ok (if isExcluded exclusions (input.term k) name then found
              else found ++ [{ value := input.term k, name }]) := by
          unfold allowedAmong
          rw [hfound]
          show (renderNamingCandidate _ _ _ _ _ _ _ >>= _) = _
          rw [hname]
          rfl
        have hlength := allowedAmong_succ_length hfound hnext
        show (safeAdd (input.term k) input.step >>= _) = _ ↔ _
        by_cases hover : input.term (k + 1) ≤ maxSafeInteger
        · have hadd : safeAdd (input.term k) input.step = .ok (input.term (k + 1)) := by
            rw [term_succ] at hover ⊢
            unfold safeAdd
            rw [decide_eq_true hover]
            rfl
          rw [hadd]
          refine ih (by omega) hover hnext (by omega) ?_
          intro l hl before hbefore
          rcases Nat.lt_or_eq_of_le (Nat.lt_succ_iff.mp hl) with hlt | rfl
          · exact hnotBefore l hlt before hbefore
          · rw [hfound] at hbefore
            cases hbefore
            exact hfew
        · have hadd : ∃ error, safeAdd (input.term k) input.step = .error error := by
            rw [term_succ] at hover
            unfold safeAdd
            rw [decide_eq_false hover]
            exact ⟨_, rfl⟩
          obtain ⟨error, hadd⟩ := hadd
          rw [hadd]
          constructor
          · intro h
            cases h
          · rintro ⟨h, hbehind⟩
            obtain ⟨next, -, hmore⟩ := htried h
            exact absurd ((term_mono hmore).trans hbehind) hover

/-! ## The scan of a normalized series -/

variable {safeRegex : JsString → Bool → Except FrameworkError (JsString → Bool)} {strategy : NamingSeriesStrategy}

/-- What normalization says about a series. -/
structure NormalizedSeries (safeRegex : JsString → Bool → Except FrameworkError (JsString → Bool))
    (doctype : DocTypeDefinition) (strategy : NamingSeriesStrategy) (compiled : List PatternToken)
    (exclusions : List CompiledExclusion) : Prop where
  start : strategy.start.getD 1 ≤ maxSafeInteger
  step : 1 ≤ strategy.step.getD 1
  compiled : compileNamingPattern doctype strategy = .ok compiled
  exclusions : compileExclusions safeRegex (strategy.exclusions.getD []) = .ok exclusions

theorem normalizeSeries_ok {doctype : DocTypeDefinition} {result : NamingSeriesStrategy}
    (h : normalizeSeries safeRegex doctype strategy = .ok result) :
    ∃ compiled exclusions, NormalizedSeries safeRegex doctype result compiled exclusions := by
  have hstep := normalizeSeries_step h
  obtain ⟨_, -, h⟩ := except_bind_eq_ok h
  obtain ⟨_, -, h⟩ := except_bind_eq_ok h
  obtain ⟨_, -, h⟩ := except_bind_eq_ok h
  obtain ⟨_, -, h⟩ := except_bind_eq_ok h
  obtain ⟨_, hstart, h⟩ := except_bind_eq_ok h
  obtain ⟨_, -, h⟩ := except_bind_eq_ok h
  obtain ⟨_, -, h⟩ := except_bind_eq_ok h
  obtain ⟨exclusions, hexclusions, h⟩ := except_bind_eq_ok h
  obtain ⟨_, -, h⟩ := except_bind_eq_ok h
  obtain ⟨_, hdefinition, h⟩ := except_bind_eq_ok h
  cases h
  obtain ⟨_, -, hdefinition⟩ := except_bind_eq_ok hdefinition
  obtain ⟨_, -, hdefinition⟩ := except_bind_eq_ok hdefinition
  obtain ⟨_, -, hdefinition⟩ := except_bind_eq_ok hdefinition
  obtain ⟨compiled, hcompiled, -⟩ := except_bind_eq_ok hdefinition
  refine ⟨compiled, exclusions, ?_, hstep, hcompiled, hexclusions⟩
  cases hvalue : strategy.start with
  | none => decide
  | some start => exact (optionalInteger_ok hstart hvalue).2

/-- **What a scan returns**: the right scan, if the value behind the last one tried is a safe integer too. -/
theorem scanNamingCandidates_iff (hseries : NormalizedSeries safeRegex input.doctype input.strategy compiled exclusions)
    (hcount : 1 ≤ input.count ∧ input.count ≤ 100)
    (hlimit : 1 ≤ input.limit ∧ input.limit ≤ input.strategy.maxAttempts.getD defaultMaxAttempts) :
    scanNamingCandidates parseDate safeRegex input = .ok scan ↔
      FindsFirst parseDate input compiled exclusions scan ∧ input.term scan.attempts ≤ maxSafeInteger := by
  have hzero : input.term 0 = input.first := by
    unfold ScanInput.term
    omega
  unfold scanNamingCandidates
  rw [decide_eq_true hcount.1, decide_eq_true hcount.2, hseries.compiled, hseries.exclusions]
  have hlimit' : (decide (1 ≤ input.attemptLimit.getD (input.strategy.maxAttempts.getD defaultMaxAttempts)) &&
      decide (input.attemptLimit.getD (input.strategy.maxAttempts.getD defaultMaxAttempts) ≤
        input.strategy.maxAttempts.getD defaultMaxAttempts)) = true := by
    rw [Bool.and_eq_true, decide_eq_true_eq, decide_eq_true_eq]
    exact hlimit
  show ((ensure _ _).bind fun _ => (firstCandidate input.strategy input.current).bind fun candidate =>
    scanLoop parseDate input compiled exclusions input.step input.limit candidate 0 []) = _ ↔ _
  rw [hlimit']
  show ((firstCandidate input.strategy input.current).bind fun candidate =>
    scanLoop parseDate input compiled exclusions input.step input.limit candidate 0 []) = _ ↔ _
  -- behind the last safe integer there is no first candidate, and nothing that a scan could find
  by_cases hfirst : input.term 0 ≤ maxSafeInteger
  · have hcandidate : firstCandidate input.strategy input.current = .ok (input.term 0) := by
      rw [hzero] at hfirst ⊢
      unfold ScanInput.first at hfirst ⊢
      unfold firstCandidate
      cases hcurrent : input.current with
      | none => rfl
      | some current =>
        rw [hcurrent] at hfirst
        unfold safeAdd
        dsimp only at hfirst ⊢
        unfold ScanInput.step at hfirst ⊢
        rw [decide_eq_true hfirst]
        rfl
    rw [hcandidate]
    exact scanLoop_iff rfl hfirst rfl (Nat.zero_le _) (by simp)
  · have hcandidate : ∃ error, firstCandidate input.strategy input.current = .error error := by
      rw [hzero] at hfirst
      unfold ScanInput.first at hfirst
      unfold firstCandidate
      cases hcurrent : input.current with
      | none =>
        rw [hcurrent] at hfirst
        exact absurd hseries.start hfirst
      | some current =>
        rw [hcurrent] at hfirst
        unfold safeAdd
        dsimp only at hfirst ⊢
        unfold ScanInput.step at hfirst
        rw [decide_eq_false hfirst]
        exact ⟨_, rfl⟩
    obtain ⟨error, hcandidate⟩ := hcandidate
    rw [hcandidate]
    constructor
    · intro h
      cases h
    · rintro ⟨-, hbehind⟩
      exact absurd ((term_mono (Nat.zero_le _)).trans hbehind) hfirst

/-- The right scan stops at the end of the safe integers if the last of these is the last value asked for. -/
theorem endsWithLast_iff (hcount : 1 ≤ input.count) :
    EndsWithLast parseDate input compiled exclusions ↔
      ∃ scan, FindsFirst parseDate input compiled exclusions scan ∧ maxSafeInteger < input.term scan.attempts := by
  constructor
  · rintro ⟨k, found, hlimit, hsafe, hend, hfound, hlength, hbefore⟩
    refine ⟨{ candidates := found, attempts := k + 1 }, ⟨hlimit, ?_, hfound, hlength, ?_⟩, hend⟩
    · intro l hl
      exact (term_mono (Nat.lt_succ_iff.mp hl)).trans hsafe
    · intro l hl before hlbefore
      rcases Nat.lt_or_eq_of_le (Nat.lt_succ_iff.mp hl) with hlt | rfl
      · obtain ⟨last, hlast, -⟩ := allowedAmong_prefix (Nat.le_succ k) hfound
        obtain ⟨before', hbefore', hprefix⟩ := allowedAmong_prefix (Nat.le_of_lt hlt) hlast
        rw [hlbefore] at hbefore'
        cases hbefore'
        exact Nat.lt_of_le_of_lt hprefix.length_le (hbefore last hlast)
      · exact hbefore before hlbefore
  · rintro ⟨scan, h, hend⟩
    have hpositive : scan.attempts ≠ 0 := by
      intro hzero
      have hfound := h.found
      have hlength := h.count
      rw [hzero] at hfound
      have hempty : scan.candidates = [] := (Except.ok.inj hfound).symm
      rw [hempty, List.length_nil] at hlength
      omega
    obtain ⟨k, hk⟩ := Nat.exists_eq_succ_of_ne_zero hpositive
    have hlast : k < scan.attempts := by omega
    refine ⟨k, scan.candidates, ?_, h.safe k hlast, ?_, ?_, h.count, h.notBefore k hlast⟩
    · have := h.inLimit
      omega
    · rw [hk] at hend
      exact hend
    · have hfound := h.found
      rw [hk] at hfound
      exact hfound

/-- **Scanning is exact up to its limits**, except where the last safe integer of the progression is the last
of the values asked for: the loop steps over it before it returns. -/
theorem scanNamingCandidates_exact_iff (hstrategy : normalizeSeries safeRegex input.doctype strategy = .ok input.strategy)
    (hcount : 1 ≤ input.count ∧ input.count ≤ 100)
    (hlimit : 1 ≤ input.limit ∧ input.limit ≤ input.strategy.maxAttempts.getD defaultMaxAttempts) :
    ∃ compiled exclusions, NormalizedSeries safeRegex input.doctype input.strategy compiled exclusions ∧
      (∀ scan, scanNamingCandidates parseDate safeRegex input = .ok scan →
        (scan.candidates.map (·.value)).Pairwise (· < ·)) ∧
      ((∀ scan, scanNamingCandidates parseDate safeRegex input = .ok scan ↔
          FindsFirst parseDate input compiled exclusions scan) ↔
        ¬EndsWithLast parseDate input compiled exclusions) := by
  obtain ⟨compiled, exclusions, hseries⟩ := normalizeSeries_ok hstrategy
  have hscan := fun scan => @scanNamingCandidates_iff parseDate input compiled exclusions scan safeRegex hseries hcount hlimit
  refine ⟨compiled, exclusions, hseries, ?_, ?_⟩
  · intro scan h
    exact (allowedAmong_sorted hseries.step ((hscan scan).mp h).1.found).1
  · rw [endsWithLast_iff hcount.1]
    constructor
    · rintro hexact ⟨scan, hright, hend⟩
      have := ((hscan scan).mp ((hexact scan).mpr hright)).2
      omega
    · intro hnever scan
      rw [hscan scan]
      constructor
      · exact fun h => h.1
      · intro hright
        refine ⟨hright, ?_⟩
        by_contra hend
        exact hnever ⟨scan, hright, Nat.lt_of_not_le hend⟩

end

/-! ### A series that starts at its end -/

/-- A series of one number that starts with the last safe integer. -/
def lastNumber : ScanInput where
  doctype := { name := js "Q", fields := [] }
  strategy := { pattern := js "#", start := some maxSafeInteger }
  data := []
  context := { tenantId := js "t", now := [] }

theorem scanNamingCandidates_exact_iff_lastNumber :
    ∃ compiled exclusions, NormalizedSeries (fun _ _ => .ok (fun _ => false)) lastNumber.doctype lastNumber.strategy
        compiled exclusions ∧
      (∀ scan, scanNamingCandidates (fun _ => some ⟨2024, 1, 1⟩) (fun _ _ => .ok (fun _ => false)) lastNumber = .ok scan →
        (scan.candidates.map (·.value)).Pairwise (· < ·)) ∧
      ((∀ scan, scanNamingCandidates (fun _ => some ⟨2024, 1, 1⟩) (fun _ _ => .ok (fun _ => false)) lastNumber = .ok scan ↔
          FindsFirst (fun _ => some ⟨2024, 1, 1⟩) lastNumber compiled exclusions scan) ↔
        ¬EndsWithLast (fun _ => some ⟨2024, 1, 1⟩) lastNumber compiled exclusions) :=
  scanNamingCandidates_exact_iff
    (show normalizeSeries (fun _ _ => .ok (fun _ => false)) lastNumber.doctype lastNumber.strategy = _ from rfl)
    (by decide) (by decide)

/-- The series has its first value within all limits, and the scan for it fails. -/
theorem scanNamingCandidates_lastNumber :
    FindsFirst (fun _ => some ⟨2024, 1, 1⟩) lastNumber [.sequence (some 1)] []
      { candidates := [{ value := maxSafeInteger, name := js "9007199254740991" }], attempts := 1 } ∧
    ∃ error, scanNamingCandidates (fun _ => some ⟨2024, 1, 1⟩) (fun _ _ => .ok (fun _ => false)) lastNumber =
      .error error := by
  constructor
  · refine ⟨by decide, ?_, rfl, rfl, ?_⟩
    · intro k hk
      obtain rfl := Nat.lt_one_iff.mp hk
      decide
    · intro k hk found hfound
      obtain rfl := Nat.lt_one_iff.mp hk
      cases hfound
      decide
  · exact ⟨invalidNaming (js "Naming sequence exhausted the safe integer range") 409, rfl⟩

end Naming
