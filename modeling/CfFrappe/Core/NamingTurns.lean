import CfFrappe.Core.NamingCandidates

set_option autoImplicit false

/-! # Scans that follow each other

A scan for one candidate that starts behind another one goes on with the same progression: behind its first `j`
values (`behind`), the value `k` is the value `j + k` (`term_behind`), and what is allowed among both parts is
what is allowed at all (`allowedAmong_behind`). The allowed values of a progression come one by one
(`next_allowed`), and each of them is what the scan behind the one before finds (`scan_next`).
-/

open Utf

namespace Naming

variable {parseDate : Timestamp → Option UtcDate} {input : ScanInput} {compiled : List PatternToken}
variable {exclusions : List CompiledExclusion}

/-- The scan behind the first values of the progression, with the attempts that are left. -/
def ScanInput.behind (input : ScanInput) (j : Nat) : ScanInput where
  doctype := input.doctype
  strategy := input.strategy
  data := input.data
  context := input.context
  current := if j = 0 then input.current else some (input.term (j - 1))
  count := input.count
  attemptLimit := some (input.limit - j)

theorem term_behind (j k : Nat) : (input.behind j).term k = input.term (j + k) := by
  have hstep : (input.behind j).step = input.step := rfl
  have hfirst : (input.behind j).first = input.term j := by
    by_cases hj : j = 0
    · subst hj
      unfold ScanInput.term
      rw [Nat.zero_mul, Nat.add_zero]
      rfl
    · obtain ⟨i, rfl⟩ := Nat.exists_eq_succ_of_ne_zero hj
      rw [term_succ]
      unfold ScanInput.first ScanInput.behind
      rw [if_neg hj]
      rfl
  calc (input.behind j).term k = (input.behind j).first + k * (input.behind j).step := rfl
    _ = input.term j + k * input.step := by rw [hfirst, hstep]
    _ = input.term (j + k) := by
        unfold ScanInput.term
        ring

/-- What is allowed among the values up to a later one: what is allowed before, and what is allowed behind. -/
theorem allowedAmong_behind {j : Nat} {before : List NamingCandidate}
    (hbefore : allowedAmong parseDate input compiled exclusions j = .ok before) (k : Nat) :
    allowedAmong parseDate input compiled exclusions (j + k) =
      (allowedAmong parseDate (input.behind j) compiled exclusions k).map (before ++ ·) := by
  induction k with
  | zero =>
    rw [Nat.add_zero, hbefore]
    exact congrArg Except.ok (List.append_nil _).symm
  | succ k ih =>
    have hvalue := @term_behind input j k
    rw [← Nat.add_assoc]
    unfold allowedAmong
    rw [ih, hvalue]
    cases allowedAmong parseDate (input.behind j) compiled exclusions k with
    | error error => rfl
    | ok found =>
      show (renderNamingCandidate _ _ _ _ _ _ _ >>= _) = Except.map _ (renderNamingCandidate _ _ _ _ _ _ _ >>= _)
      have hsame : renderNamingCandidate parseDate (input.behind j).doctype (input.behind j).strategy
          (input.behind j).data (input.behind j).context (input.term (j + k)) compiled =
        renderNamingCandidate parseDate input.doctype input.strategy input.data input.context (input.term (j + k))
          compiled := rfl
      rw [hsame]
      cases renderNamingCandidate parseDate input.doctype input.strategy input.data input.context
          (input.term (j + k)) compiled with
      | error error => rfl
      | ok name =>
        show Except.ok _ = Except.ok _
        refine congrArg Except.ok ?_
        split_ifs
        · rfl
        · exact List.append_assoc _ _ _

/-- Every value that is tried is a safe integer. -/
theorem term_safe {k : Nat} {found : List NamingCandidate}
    (h : allowedAmong parseDate input compiled exclusions (k + 1) = .ok found) : input.term k ≤ maxSafeInteger := by
  obtain ⟨before, -, h⟩ := except_bind_eq_ok h
  obtain ⟨name, hname, -⟩ := except_bind_eq_ok h
  exact (renderNamingCandidate_ok hname).1

/-- **The next allowed value**: where more values are allowed than before, there is a first one. -/
theorem next_allowed {j k : Nat} (hjk : j ≤ k) {before found : List NamingCandidate}
    (hbefore : allowedAmong parseDate input compiled exclusions j = .ok before)
    (hfound : allowedAmong parseDate input compiled exclusions k = .ok found) :
    found = before ∨ ∃ a candidate, j ≤ a ∧ a < k ∧ candidate.value = input.term a ∧
      allowedAmong parseDate input compiled exclusions a = .ok before ∧
      allowedAmong parseDate input compiled exclusions (a + 1) = .ok (before ++ [candidate]) := by
  induction k generalizing found with
  | zero =>
    obtain rfl := Nat.le_zero.mp hjk
    rw [hbefore] at hfound
    exact Or.inl (Except.ok.inj hfound).symm
  | succ k ih =>
    rcases Nat.lt_or_eq_of_le hjk with hlt | rfl
    · obtain ⟨last, hlast, h⟩ := except_bind_eq_ok hfound
      rcases ih (Nat.lt_succ_iff.mp hlt) hlast with rfl | ⟨a, candidate, hja, hak, hrest⟩
      · obtain ⟨name, -, h⟩ := except_bind_eq_ok h
        have hfound' := Except.ok.inj h
        split_ifs at hfound' with hexcluded
        · exact Or.inl hfound'.symm
        · refine Or.inr ⟨k, { value := input.term k, name }, Nat.lt_succ_iff.mp hlt, Nat.lt_succ_self k, rfl, hlast, ?_⟩
          rw [hfound, ← hfound']
      · exact Or.inr ⟨a, candidate, hja, Nat.lt_succ_of_lt hak, hrest⟩
    · rw [hbefore] at hfound
      exact Or.inl (Except.ok.inj hfound).symm

/-! ## The scan behind a value -/

section

variable {safeRegex : JsString → Bool → Except FrameworkError (JsString → Bool)} {j a : Nat}
variable {before : List NamingCandidate} {candidate : NamingCandidate}

/-- Nothing is allowed between a value and the next allowed one. -/
theorem allowedAmong_behind_nil (hja : j ≤ a) (hbefore : allowedAmong parseDate input compiled exclusions j = .ok before)
    (hlast : allowedAmong parseDate input compiled exclusions a = .ok before) :
    ∀ k ≤ a - j, allowedAmong parseDate (input.behind j) compiled exclusions k = .ok [] := by
  have hat : allowedAmong parseDate (input.behind j) compiled exclusions (a - j) = .ok [] := by
    have h := allowedAmong_behind hbefore (a - j)
    rw [Nat.add_sub_cancel' hja, hlast] at h
    cases hfound : allowedAmong parseDate (input.behind j) compiled exclusions (a - j) with
    | error error =>
      rw [hfound] at h
      cases h
    | ok found =>
      rw [hfound] at h
      have happend : before = before ++ found := Except.ok.inj h
      rw [List.self_eq_append_right.mp happend]
  intro k hk
  obtain ⟨found, hfound, hprefix⟩ := allowedAmong_prefix hk hat
  rw [hfound, List.prefix_nil.mp hprefix]

/-- **The scan behind a value** finds the next allowed one, if the value behind that is a safe integer too. -/
theorem scan_next (hseries : NormalizedSeries safeRegex input.doctype input.strategy compiled exclusions)
    (hcount : input.count = 1) (hlimit : input.limit ≤ input.strategy.maxAttempts.getD defaultMaxAttempts)
    (hja : j ≤ a) (ha : a < input.limit) (hbefore : allowedAmong parseDate input compiled exclusions j = .ok before)
    (hlast : allowedAmong parseDate input compiled exclusions a = .ok before)
    (hnext : allowedAmong parseDate input compiled exclusions (a + 1) = .ok (before ++ [candidate])) :
    if input.term (a + 1) ≤ maxSafeInteger then
      scanNamingCandidates parseDate safeRegex (input.behind j) =
        .ok { candidates := [candidate], attempts := a + 1 - j }
    else ∃ error, scanNamingCandidates parseDate safeRegex (input.behind j) = .error error := by
  have hnone := allowedAmong_behind_nil hja hbefore hlast
  have hseries' : NormalizedSeries safeRegex (input.behind j).doctype (input.behind j).strategy compiled exclusions :=
    hseries
  have hcount' : (input.behind j).count = 1 := hcount
  have hlimit' : (input.behind j).limit = input.limit - j := rfl
  have hscan := fun scan => @scanNamingCandidates_iff parseDate (input.behind j) compiled exclusions scan safeRegex
    hseries' (by omega) (by change 1 ≤ input.limit - j ∧ input.limit - j ≤ _; exact ⟨by omega, (Nat.sub_le _ _).trans hlimit⟩)
  -- the scan that starts behind finds of the candidates only the last one
  have hat : allowedAmong parseDate (input.behind j) compiled exclusions (a + 1 - j) = .ok [candidate] := by
    have h := allowedAmong_behind hbefore (a + 1 - j)
    rw [Nat.add_sub_cancel' (Nat.le_succ_of_le hja), hnext] at h
    cases hfound : allowedAmong parseDate (input.behind j) compiled exclusions (a + 1 - j) with
    | error error =>
      rw [hfound] at h
      cases h
    | ok found =>
      rw [hfound] at h
      have happend : before ++ [candidate] = before ++ found := Except.ok.inj h
      rw [List.append_cancel_left happend]
  split_ifs with hsafe
  · refine (hscan _).mpr ⟨⟨?_, ?_, hat, hcount'.symm, ?_⟩, ?_⟩
    · dsimp only
      omega
    · intro k hk
      dsimp only at hk
      calc (input.behind j).term k = input.term (j + k) := term_behind j k
        _ ≤ input.term a := term_mono (by omega)
        _ ≤ maxSafeInteger := term_safe hnext
    · intro k hk found hfound
      dsimp only at hk
      rw [hnone k (by omega)] at hfound
      cases hfound
      rw [hcount']
      decide
    · dsimp only
      rw [term_behind, Nat.add_sub_cancel' (Nat.le_succ_of_le hja)]
      exact hsafe
  · cases hresult : scanNamingCandidates parseDate safeRegex (input.behind j) with
    | error error => exact ⟨error, rfl⟩
    | ok scan =>
      obtain ⟨hright, hbehind⟩ := (hscan scan).mp hresult
      have hmore : a - j < scan.attempts := hright.le_attempts (hnone (a - j) (Nat.le_refl _)) (by
        rw [hcount']
        decide)
      refine absurd ?_ hsafe
      calc input.term (a + 1) ≤ input.term (j + scan.attempts) := term_mono (by omega)
        _ = (input.behind j).term scan.attempts := (term_behind j _).symm
        _ ≤ maxSafeInteger := hbehind

end

end Naming
