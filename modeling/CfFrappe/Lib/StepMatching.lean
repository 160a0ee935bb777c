import Mathlib.Algebra.BigOperators.Group.List.Basic
import Mathlib.Computability.Language

set_option autoImplicit false

/-! # Matching a sequence of steps

A pattern is a sequence of steps, each of which takes one character of a kind, at most one, or any number
of them. Whether a text matches is found row by row: a row says of every prefix of the text whether a match
of the steps so far may end there (`Represents`), and the row of one more step is computed from the row
before it in one pass (`nextRow`). The words that the steps take are a language, and a step multiplies it
(`represents_nextRow`).
-/

namespace StepMatching

variable {α : Type}

inductive Step (α : Type)
  | required (accepts : α → Bool)
  | optional (accepts : α → Bool)
  | star (accepts : α → Bool)

/-! ## Languages -/

/-- The words of one character of a kind. -/
def one (p : α → Bool) : Language α := {w | ∃ c, p c = true ∧ w = [c]}

def Step.language : Step α → Language α
  | .required p => one p
  | .optional p => 1 + one p
  | .star p => KStar.kstar (one p)

/-- The words that the steps take one after the other. -/
def language (steps : List (Step α)) : Language α := (steps.map Step.language).prod

/-- The words of a number of characters of a kind, between two bounds. -/
def repeated (p : α → Bool) (min : Nat) (max : Option Nat) : Language α :=
  {w | ∃ n, min ≤ n ∧ (∀ m, max = some m → n ≤ m) ∧ w ∈ one p ^ n}

section

variable {E : Language α} {p : α → Bool} {w : List α} {c : α}

theorem nil_notMem_mul_one : [] ∉ E * one p := by
  rw [Language.mem_mul]
  rintro ⟨u, -, v, ⟨c, -, rfl⟩, huv⟩
  exact absurd huv (by simp)

/-- A word that ends in one character of a kind. -/
theorem concat_mem_mul_one : w ++ [c] ∈ E * one p ↔ w ∈ E ∧ p c = true := by
  rw [Language.mem_mul]
  constructor
  · rintro ⟨u, hu, v, ⟨d, hd, rfl⟩, huv⟩
    obtain ⟨rfl, hcd⟩ := List.append_inj' huv rfl
    rw [List.cons.injEq] at hcd
    exact ⟨hu, hcd.1 ▸ hd⟩
  · rintro ⟨hw, hc⟩
    exact ⟨w, hw, [c], ⟨c, hc, rfl⟩, rfl⟩

theorem mul_optional : E * (Step.optional p).language = E + E * one p := by
  rw [Step.language, mul_add, mul_one]

/-- A run either is empty or goes on after a run. -/
theorem mul_star : E * (Step.star p).language = E + E * (Step.star p).language * one p := by
  have hstar : (1 : Language α) + KStar.kstar (one p) * one p = KStar.kstar (one p) :=
    Language.one_add_kstar_mul_self_eq_kstar (one p)
  calc E * KStar.kstar (one p) = E * (1 + KStar.kstar (one p) * one p) := by rw [hstar]
    _ = E + E * KStar.kstar (one p) * one p := by rw [mul_add, mul_one, mul_assoc]

end

/-! ## Rows -/

/-- The entry of a row behind a character: `previous` and `previousHere` are the entries of the row before
it at the last prefix and at this one, `current` is the entry of this row at the last prefix. -/
def Step.entry (step : Step α) (previous previousHere current : Bool) (c : α) : Bool :=
  match step with
  | .required p => previous && p c
  | .optional p => previousHere || (previous && p c)
  | .star p => previousHere || (current && p c)

/-- The rest of a row, behind the entries `previous` and `current`. -/
def entries (step : Step α) : (previous current : Bool) → List Bool → List α → List Bool
  | previous, current, previousHere :: row, c :: text =>
    let here := step.entry previous previousHere current c
    here :: entries step previousHere here row text
  | _, _, _, _ => []

/-- The first entry of a row: nothing has been taken yet. -/
def Step.first (step : Step α) (previous : Bool) : Bool :=
  match step with
  | .required _ => false
  | .optional _ => previous
  | .star _ => previous

def nextRow (step : Step α) (text : List α) : List Bool → List Bool
  | [] => []
  | previous :: row => step.first previous :: entries step previous (step.first previous) row text

/-- The entries of a row say which prefixes of a text are in a language; `done` has been read of it. -/
inductive Represents (E : Language α) : (done text : List α) → List Bool → Prop
  | nil {done : List α} {b : Bool} (here : b = true ↔ done ∈ E) : Represents E done [] [b]
  | cons {done : List α} {c : α} {text : List α} {b : Bool} {row : List Bool} (here : b = true ↔ done ∈ E)
      (rest : Represents E (done ++ [c]) text row) : Represents E done (c :: text) (b :: row)

section

variable {E : Language α} {step : Step α} {done text : List α} {row : List Bool}

theorem first_iff {b : Bool} (hb : b = true ↔ ([] : List α) ∈ E) :
    step.first b = true ↔ [] ∈ E * step.language := by
  cases step with
  | required p =>
    constructor
    · intro h
      cases h
    · intro h
      exact absurd h nil_notMem_mul_one
  | optional p =>
    rw [mul_optional, Language.mem_add, or_iff_left nil_notMem_mul_one]
    exact hb
  | star p =>
    rw [mul_star, Language.mem_add, or_iff_left nil_notMem_mul_one]
    exact hb

theorem entry_iff {c : α} {previous previousHere current : Bool} (hprevious : previous = true ↔ done ∈ E)
    (hhere : previousHere = true ↔ done ++ [c] ∈ E) (hcurrent : current = true ↔ done ∈ E * step.language) :
    step.entry previous previousHere current c = true ↔ done ++ [c] ∈ E * step.language := by
  cases step with
  | required p =>
    rw [Step.entry, Bool.and_eq_true, hprevious, Step.language, concat_mem_mul_one]
  | optional p =>
    rw [Step.entry, Bool.or_eq_true, Bool.and_eq_true, hprevious, hhere, mul_optional, Language.mem_add,
      concat_mem_mul_one]
  | star p =>
    rw [Step.entry, Bool.or_eq_true, Bool.and_eq_true, hcurrent, hhere]
    have hstep : done ++ [c] ∈ E * (Step.star p).language ↔
        done ++ [c] ∈ E ∨ done ∈ E * (Step.star p).language ∧ p c = true := by
      conv_lhs => rw [mul_star]
      rw [Language.mem_add, concat_mem_mul_one]
    exact hstep.symm

theorem represents_entries {c : α} {previous current : Bool} (hprevious : previous = true ↔ done ∈ E)
    (hcurrent : current = true ↔ done ∈ E * step.language) (hrow : Represents E (done ++ [c]) text row) :
    Represents (E * step.language) (done ++ [c]) text (entries step previous current row (c :: text)) := by
  induction text generalizing done c previous current row with
  | nil =>
    cases hrow with
    | nil hhere => exact .nil (entry_iff hprevious hhere hcurrent)
  | cons d text ih =>
    cases hrow with
    | cons hhere hrest =>
      have hentry := entry_iff hprevious hhere hcurrent
      exact .cons hentry (ih hhere hentry hrest)

/-- **The next row**: it stands for the language with one more step. -/
theorem represents_nextRow (hrow : Represents E [] text row) :
    Represents (E * step.language) [] text (nextRow step text row) := by
  cases hrow with
  | nil hb => exact .nil (first_iff hb)
  | cons hb hrest => exact .cons (first_iff hb) (represents_entries hb (first_iff hb) hrest)

theorem represents_steps {steps : List (Step α)} (hrow : Represents E [] text row) :
    Represents (E * language steps) [] text (steps.foldl (fun row step => nextRow step text row) row) := by
  induction steps generalizing E row with
  | nil =>
    have hone : E * language ([] : List (Step α)) = E := mul_one E
    rw [hone]
    exact hrow
  | cons step steps ih =>
    have hcons : E * language (step :: steps) = E * step.language * language steps := by
      rw [language, List.map_cons, List.prod_cons, mul_assoc, language]
    rw [hcons]
    exact ih (represents_nextRow hrow)

/-- The last entry is about the whole text. -/
theorem Represents.last (h : Represents E done text row) : row.getLastD false = true ↔ done ++ text ∈ E := by
  induction h with
  | nil here =>
    rw [List.append_nil]
    exact here
  | @cons done c text b row here rest ih =>
    have hlast : (b :: row).getLastD false = row.getLastD false := by
      cases rest <;> rfl
    rw [hlast, ih, List.append_assoc, List.singleton_append]

/-- Some entry holds if some prefix of the text is in the language. -/
theorem Represents.any (h : Represents E done text row) :
    row.any id = true ↔ ∃ u v, text = u ++ v ∧ done ++ u ∈ E := by
  induction h with
  | @nil done b here =>
    constructor
    · intro hany
      refine ⟨[], [], rfl, ?_⟩
      rw [List.append_nil]
      exact here.mp (by simpa using hany)
    · rintro ⟨u, v, huv, hu⟩
      obtain ⟨rfl, rfl⟩ := List.append_eq_nil_iff.mp huv.symm
      rw [List.append_nil] at hu
      simpa using here.mpr hu
  | @cons done c text b row here rest ih =>
    rw [List.any_cons, Bool.or_eq_true, ih]
    constructor
    · rintro (hfirst | ⟨u, v, rfl, hu⟩)
      · refine ⟨[], c :: text, rfl, ?_⟩
        rw [List.append_nil]
        exact here.mp hfirst
      · refine ⟨c :: u, v, rfl, ?_⟩
        rw [List.append_assoc, List.singleton_append] at hu
        exact hu
    · rintro ⟨u, v, huv, hu⟩
      cases u with
      | nil =>
        rw [List.append_nil] at hu
        exact Or.inl (here.mpr hu)
      | cons d u =>
        rw [List.cons_append, List.cons.injEq] at huv
        obtain ⟨rfl, rfl⟩ := huv
        refine Or.inr ⟨u, v, rfl, ?_⟩
        rw [List.append_assoc, List.singleton_append]
        exact hu

end

/-! ## Matching -/

/-- The row before the first step: a match starts at the beginning, or anywhere. -/
def firstRow (anchored : Bool) (text : List α) : List Bool := true :: text.map (fun _ => !anchored)

def startLanguage (anchored : Bool) : Language α := if anchored then 1 else ⊤

/-- Behind a character a match that starts at the beginning has not ended with nothing. -/
theorem mem_startLanguage {anchored : Bool} {done : List α} (hdone : done ≠ []) :
    (!anchored) = true ↔ done ∈ (startLanguage anchored : Language α) := by
  cases anchored with
  | false => exact Iff.intro (fun _ => trivial) (fun _ => rfl)
  | true =>
    constructor
    · intro h
      cases h
    · intro h
      exact absurd ((Language.mem_one done).mp h) hdone

theorem represents_tail {anchored : Bool} {done text : List α} (hdone : done ≠ []) (c : α) :
    Represents (startLanguage anchored) done text ((c :: text).map (fun _ => !anchored)) := by
  induction text generalizing done c with
  | nil => exact .nil (mem_startLanguage hdone)
  | cons d text ih => exact .cons (mem_startLanguage hdone) (ih (by simp) d)

theorem represents_firstRow (anchored : Bool) (text : List α) :
    Represents (startLanguage anchored) [] text (firstRow anchored text) := by
  have hstart : true = true ↔ ([] : List α) ∈ startLanguage anchored := by
    refine ⟨fun _ => ?_, fun _ => rfl⟩
    cases anchored with
    | false => trivial
    | true => exact Language.nil_mem_one
  cases text with
  | nil => exact .nil hstart
  | cons c text => exact .cons hstart (represents_tail (by simp) c)

theorem mem_start_mul {anchored : Bool} {L : Language α} {w : List α} :
    w ∈ startLanguage anchored * L ↔ ∃ before block, w = before ++ block ∧ (anchored = true → before = []) ∧
      block ∈ L := by
  rw [Language.mem_mul]
  constructor
  · rintro ⟨before, hbefore, block, hblock, rfl⟩
    refine ⟨before, block, rfl, ?_, hblock⟩
    rintro rfl
    exact (Language.mem_one before).mp hbefore
  · rintro ⟨before, block, rfl, hbefore, hblock⟩
    refine ⟨before, ?_, block, hblock, rfl⟩
    cases anchored with
    | false => trivial
    | true =>
      rw [hbefore rfl]
      exact Language.nil_mem_one

/-- The text has a block that the steps take, at its beginning and its end if these are anchored. -/
def matchesSteps (steps : List (Step α)) (anchoredStart anchoredEnd : Bool) (text : List α) : Bool :=
  let row := steps.foldl (fun row step => nextRow step text row) (firstRow anchoredStart text)
  if anchoredEnd then row.getLastD false else row.any id

/-- **Matching is membership of a block.** -/
theorem matchesSteps_iff {steps : List (Step α)} {anchoredStart anchoredEnd : Bool} {text : List α} :
    matchesSteps steps anchoredStart anchoredEnd text = true ↔
      ∃ before block after, text = before ++ block ++ after ∧ (anchoredStart = true → before = []) ∧
        (anchoredEnd = true → after = []) ∧ block ∈ language steps := by
  have hrow : Represents (startLanguage anchoredStart * language steps) [] text
      (steps.foldl (fun row step => nextRow step text row) (firstRow anchoredStart text)) :=
    represents_steps (represents_firstRow anchoredStart text)
  unfold matchesSteps
  cases anchoredEnd with
  | true =>
    rw [if_pos rfl, hrow.last, List.nil_append, mem_start_mul]
    constructor
    · rintro ⟨before, block, rfl, hbefore, hblock⟩
      exact ⟨before, block, [], (List.append_nil _).symm, hbefore, fun _ => rfl, hblock⟩
    · rintro ⟨before, block, after, rfl, hbefore, hafter, hblock⟩
      rw [hafter rfl]
      exact ⟨before, block, List.append_nil _, hbefore, hblock⟩
  | false =>
    rw [if_neg Bool.false_ne_true, hrow.any]
    constructor
    · rintro ⟨u, after, rfl, hu⟩
      rw [List.nil_append, mem_start_mul] at hu
      obtain ⟨before, block, rfl, hbefore, hblock⟩ := hu
      refine ⟨before, block, after, rfl, hbefore, ?_, hblock⟩
      intro h
      cases h
    · rintro ⟨before, block, after, rfl, hbefore, -, hblock⟩
      refine ⟨before ++ block, after, rfl, ?_⟩
      rw [List.nil_append, mem_start_mul]
      exact ⟨before, block, rfl, hbefore, hblock⟩

/-! ## Repetitions -/

/-- The steps of a repetition: so many required ones, then optional ones or a run. -/
def repeatSteps (p : α → Bool) (min : Nat) : Option Nat → List (Step α)
  | none => List.replicate min (.required p) ++ [.star p]
  | some max => List.replicate min (.required p) ++ List.replicate (max - min) (.optional p)

theorem mem_optional_pow {p : α → Bool} {k : Nat} {w : List α} : w ∈ (1 + one p) ^ k ↔ ∃ n ≤ k, w ∈ one p ^ n := by
  induction k generalizing w with
  | zero => simp
  | succ k ih =>
    rw [pow_succ, mul_add, mul_one, Language.mem_add]
    constructor
    · rintro (h | h)
      · obtain ⟨n, hn, hw⟩ := ih.mp h
        exact ⟨n, by omega, hw⟩
      · rw [Language.mem_mul] at h
        obtain ⟨u, hu, v, hv, rfl⟩ := h
        obtain ⟨n, hn, hw⟩ := ih.mp hu
        refine ⟨n + 1, by omega, ?_⟩
        rw [pow_succ]
        exact Language.append_mem_mul hw hv
    · rintro ⟨n, hn, hw⟩
      cases n with
      | zero => exact Or.inl (ih.mpr ⟨0, by omega, hw⟩)
      | succ n =>
        rw [pow_succ, Language.mem_mul] at hw
        obtain ⟨u, hu, v, hv, rfl⟩ := hw
        exact Or.inr (Language.append_mem_mul (ih.mpr ⟨n, by omega, hu⟩) hv)

/-- **The steps of a repetition take so many characters of the kind.** -/
theorem language_repeatSteps {p : α → Bool} {min : Nat} {max : Option Nat} (h : ∀ m, max = some m → min ≤ m) :
    language (repeatSteps p min max) = repeated p min max := by
  have hrequired : ∀ rest, language (List.replicate min (.required p) ++ rest) = one p ^ min * language rest := by
    intro rest
    rw [language, List.map_append, List.prod_append, List.map_replicate, List.prod_replicate]
    rfl
  ext w
  cases max with
  | none =>
    -- without an upper bound there is a star behind the required ones
    have hstar : language [Step.star p] = KStar.kstar (one p) := by
      rw [language, List.map_singleton, List.prod_singleton]
      rfl
    rw [repeatSteps, hrequired, hstar, Language.kstar_eq_iSup_pow, Language.mul_iSup, Language.mem_iSup]
    constructor
    · rintro ⟨n, hn⟩
      rw [← pow_add] at hn
      exact ⟨min + n, by omega, (fun m hm => by cases hm), hn⟩
    · rintro ⟨n, hmin, -, hn⟩
      refine ⟨n - min, ?_⟩
      rw [← pow_add, Nat.add_sub_cancel' hmin]
      exact hn
  | some m =>
    -- and else as many optional ones as the bounds leave
    have hoptional : language (List.replicate (m - min) (Step.optional p)) = (1 + one p) ^ (m - min) := by
      rw [language, List.map_replicate, List.prod_replicate]
      rfl
    have hle := h m rfl
    rw [repeatSteps, hrequired, hoptional, Language.mem_mul]
    constructor
    · rintro ⟨u, hu, v, hv, rfl⟩
      obtain ⟨n, hn, hv⟩ := mem_optional_pow.mp hv
      refine ⟨min + n, by omega, ?_, ?_⟩
      · intro m' hm'
        cases hm'
        omega
      · rw [pow_add]
        exact Language.append_mem_mul hu hv
    · rintro ⟨n, hmin, hmax, hn⟩
      have hnm := hmax m rfl
      rw [← Nat.add_sub_cancel' hmin, pow_add, Language.mem_mul] at hn
      obtain ⟨u, hu, v, hv, rfl⟩ := hn
      exact ⟨u, hu, v, mem_optional_pow.mpr ⟨n - min, by omega, hv⟩, rfl⟩

/-! ## Steps that follow each other -/

section

variable {β : Type} (R : α → β → Prop)

/-- Where the first step takes a character, the second takes every related one. -/
inductive Follows : Step α → Step β → Prop
  | required {p : α → Bool} {q : β → Bool} (h : ∀ c d, R c d → p c = true → q d = true) :
      Follows (.required p) (.required q)
  | optional {p : α → Bool} {q : β → Bool} (h : ∀ c d, R c d → p c = true → q d = true) :
      Follows (.optional p) (.optional q)
  | star {p : α → Bool} {q : β → Bool} (h : ∀ c d, R c d → p c = true → q d = true) : Follows (.star p) (.star q)

variable {R}

/-- A run consists of characters of the kind. -/
theorem mem_kstar_one {p : α → Bool} {w : List α} : w ∈ KStar.kstar (one p) ↔ ∀ c ∈ w, p c = true := by
  rw [Language.mem_kstar]
  constructor
  · rintro ⟨words, rfl, hwords⟩ c hc
    obtain ⟨word, hword, hmem⟩ := List.mem_flatten.mp hc
    obtain ⟨d, hd, rfl⟩ := hwords word hword
    rw [List.mem_singleton.mp hmem]
    exact hd
  · intro h
    refine ⟨w.map (fun c => [c]), by rw [← List.flatMap_def, List.flatMap_singleton'], ?_⟩
    intro word hword
    obtain ⟨c, hc, rfl⟩ := List.mem_map.mp hword
    exact ⟨c, h c hc, rfl⟩

theorem one_of_forall₂ {p : α → Bool} {q : β → Bool} (h : ∀ c d, R c d → p c = true → q d = true) {w : List α}
    {w' : List β} (hw : List.Forall₂ R w w') (hmem : w ∈ one p) : w' ∈ one q := by
  obtain ⟨c, hc, rfl⟩ := hmem
  cases hw with
  | cons hcd hrest =>
    cases hrest
    exact ⟨_, h _ _ hcd hc, rfl⟩

theorem Follows.mem_language {step : Step α} {step' : Step β} (h : Follows R step step') {w : List α} {w' : List β}
    (hw : List.Forall₂ R w w') (hmem : w ∈ step.language) : w' ∈ step'.language := by
  cases h with
  | required h => exact one_of_forall₂ h hw hmem
  | optional h =>
    rw [Step.language, Language.mem_add, Language.mem_one] at hmem ⊢
    rcases hmem with rfl | hmem
    · cases hw
      exact Or.inl rfl
    · exact Or.inr (one_of_forall₂ h hw hmem)
  | star h =>
    rw [Step.language, mem_kstar_one] at hmem ⊢
    intro d hd
    obtain ⟨i, hi, rfl⟩ := List.mem_iff_getElem.mp hd
    have hlength := hw.length_eq
    have hi' : i < w.length := by omega
    exact h _ _ (hw.get hi' hi) (hmem _ (List.getElem_mem hi'))

theorem forall₂_append_left {u v : List α} {w' : List β} (h : List.Forall₂ R (u ++ v) w') :
    ∃ u' v', w' = u' ++ v' ∧ List.Forall₂ R u u' ∧ List.Forall₂ R v v' := by
  induction u generalizing w' with
  | nil => exact ⟨[], w', rfl, .nil, h⟩
  | cons c u ih =>
    cases h with
    | cons hcd hrest =>
      obtain ⟨u', v', rfl, hu, hv⟩ := ih hrest
      exact ⟨_ :: u', v', rfl, .cons hcd hu, hv⟩

theorem mem_language_of_follows {steps : List (Step α)} {steps' : List (Step β)}
    (h : List.Forall₂ (Follows R) steps steps') {w : List α} {w' : List β} (hw : List.Forall₂ R w w')
    (hmem : w ∈ language steps) : w' ∈ language steps' := by
  induction h generalizing w w' with
  | nil =>
    have hnil : w = [] := (Language.mem_one w).mp hmem
    subst hnil
    cases hw
    exact Language.nil_mem_one
  | cons hstep _ ih =>
    rw [language, List.map_cons, List.prod_cons, Language.mem_mul] at hmem ⊢
    obtain ⟨u, hu, v, hv, rfl⟩ := hmem
    obtain ⟨u', v', rfl, hu', hv'⟩ := forall₂_append_left hw
    exact ⟨u', hstep.mem_language hu' hu, v', ih hv' hv, rfl⟩

/-- **Steps that follow others match where they do.** -/
theorem matchesSteps_of_follows {steps : List (Step α)} {steps' : List (Step β)}
    (h : List.Forall₂ (Follows R) steps steps') {anchoredStart anchoredEnd : Bool} {text : List α} {text' : List β}
    (htext : List.Forall₂ R text text') (hmatches : matchesSteps steps anchoredStart anchoredEnd text = true) :
    matchesSteps steps' anchoredStart anchoredEnd text' = true := by
  rw [matchesSteps_iff] at hmatches ⊢
  obtain ⟨before, block, after, rfl, hbefore, hafter, hblock⟩ := hmatches
  obtain ⟨front, after', rfl, hfront, hafter'⟩ := forall₂_append_left htext
  obtain ⟨before', block', rfl, hbefore', hblock'⟩ := forall₂_append_left hfront
  refine ⟨before', block', after', rfl, ?_, ?_, mem_language_of_follows h hblock' hblock⟩
  · intro hanchored
    rw [hbefore hanchored] at hbefore'
    cases hbefore'
    rfl
  · intro hanchored
    rw [hafter hanchored] at hafter'
    cases hafter'
    rfl

end

/-! ## Required steps -/

/-- Steps that are all required take one character each. -/
theorem mem_language_required {ps : List (α → Bool)} {w : List α} :
    w ∈ language (ps.map Step.required) ↔ List.Forall₂ (fun p c => p c = true) ps w := by
  induction ps generalizing w with
  | nil =>
    rw [List.forall₂_nil_left_iff]
    exact Language.mem_one w
  | cons p ps ih =>
    rw [List.map_cons, language, List.map_cons, List.prod_cons, Language.mem_mul]
    constructor
    · rintro ⟨u, ⟨c, hc, rfl⟩, v, hv, rfl⟩
      exact .cons hc (ih.mp hv)
    · intro h
      cases h with
      | cons hc hrest => exact ⟨[_], ⟨_, hc, rfl⟩, _, ih.mpr hrest, rfl⟩

/-- A text as long as such steps is the block, whatever the anchors: nothing is left around it. -/
theorem matchesSteps_required {ps : List (α → Bool)} {anchoredStart anchoredEnd : Bool} {text : List α}
    (hlength : text.length = ps.length) :
    matchesSteps (ps.map Step.required) anchoredStart anchoredEnd text = true ↔
      List.Forall₂ (fun p c => p c = true) ps text := by
  rw [matchesSteps_iff]
  constructor
  · rintro ⟨before, block, after, rfl, -, -, hblock⟩
    have htaken := mem_language_required.mp hblock
    have hlong : block.length = ps.length := htaken.length_eq.symm
    simp only [List.length_append] at hlength
    obtain rfl : before = [] := List.eq_nil_of_length_eq_zero (by omega)
    obtain rfl : after = [] := List.eq_nil_of_length_eq_zero (by omega)
    simpa using htaken
  · intro h
    exact ⟨[], text, [], by simp, fun _ => rfl, fun _ => rfl, mem_language_required.mpr h⟩

end StepMatching
