import CfFrappe.Lib.Program

set_option autoImplicit false

/-! # What a run shows

A run lists the actions of its programs, not what the programs result in. `Program.reporting` puts
the result beside the last action, so that a step of a run shows what its program reports with it
(`RunStep.report`). The steps of a run lead from its first state to its last (`Run.leads`), so a
property that is lost on the way is lost in one of them (`Leads.exists_lost`); and an action that
every program performs at most once is performed at most as often as programs were started
(`Run.length_filter_le`).
-/

/-- An action together with what its program reports if it is the last one. -/
structure Reporting (A : Type) (R : A → Type) (β : Type) where
  action : A
  report : R action → Option β

/-- What a step reports. -/
def RunStep.report {L σ A β : Type} {R : A → Type}
    (step : RunStep L σ (Reporting A R β) (fun a => R a.action)) : Option β := step.action.report step.reply

namespace Program

variable {σ A : Type} {R : A → Type} {ι ε α : Type}

/-- The result of a program that has come to its end. -/
def outcome : Program A R ε α → Option (Except ε α)
  | .pure a => some (.ok a)
  | .throw e => some (.error e)
  | .act _ _ => none

/-- The program, with its result beside its last action. -/
def reporting : Program A R ε α → Program (Reporting A R (Except ε α)) (fun a => R a.action) ε α
  | .pure a => .pure a
  | .throw e => .throw e
  | .act a k => .act ⟨a, fun r => (k r).outcome⟩ (fun r => (k r).reporting)

/-- The program performs at most one of the given actions. -/
def AtMostOnce (P : A → Prop) : Program A R ε α → Prop
  | .pure _ => True
  | .throw _ => True
  | .act a k => (P a → ∀ r, (k r).Within (fun b => ¬ P b)) ∧ ∀ r, (k r).AtMostOnce P

theorem AtMostOnce.of_within {P : A → Prop} {p : Program A R ε α} (h : p.Within (fun a => ¬ P a)) :
    p.AtMostOnce P := by
  induction p with
  | pure a => trivial
  | throw e => trivial
  | act a k ih => exact ⟨fun ha => absurd ha h.1, fun r => ih r (h.2 r)⟩

/-- First something else, then the rest. -/
theorem AtMostOnce.within_bind {P : A → Prop} {β : Type} {p : Program A R ε α} {f : α → Program A R ε β}
    (hp : p.Within (fun a => ¬ P a)) (hf : ∀ a, (f a).AtMostOnce P) : (p >>= f).AtMostOnce P := by
  change (p.bind f).AtMostOnce P
  induction p with
  | pure a => exact hf a
  | throw e => trivial
  | act a k ih => exact ⟨fun ha => absurd ha hp.1, fun r => ih r (hp.2 r)⟩

theorem AtMostOnce.bind_pure {P : A → Prop} {β : Type} {p : Program A R ε α} (hp : p.AtMostOnce P) (f : α → β) :
    (p >>= fun a => pure (f a)).AtMostOnce P := by
  change (p.bind fun a => .pure (f a)).AtMostOnce P
  induction p with
  | pure a => trivial
  | throw e => trivial
  | act a k ih =>
    refine ⟨fun ha r => ?_, fun r => ih r (hp.2 r)⟩
    exact (hp.1 ha r).bind (fun _ => trivial)

/-- The action itself, then something else. -/
theorem AtMostOnce.perform_bind {P : A → Prop} {β : Type} {a : A} {f : R a → Program A R ε β}
    (hf : ∀ r, (f r).Within (fun b => ¬ P b)) : (Program.act a .pure >>= f).AtMostOnce P :=
  ⟨fun _ => hf, fun r => .of_within (hf r)⟩

theorem Within.reporting {P : A → Prop} {p : Program A R ε α} (h : p.Within P) :
    p.reporting.Within (fun a => P a.action) := by
  induction p with
  | pure a => trivial
  | throw e => trivial
  | act a k ih => exact ⟨h.1, fun r => ih r (h.2 r)⟩

theorem AtMostOnce.reporting {P : A → Prop} {p : Program A R ε α} (h : p.AtMostOnce P) :
    p.reporting.AtMostOnce (fun a => P a.action) := by
  induction p with
  | pure a => trivial
  | throw e => trivial
  | act a k ih => exact ⟨fun ha r => (h.1 ha r).reporting, fun r => ih r (h.2 r)⟩

end Program

/-- The discipline for programs that report. -/
def Discipline.reporting {σ A ι : Type} {R : A → Type} (D : Discipline σ A R ι) (β : Type) :
    Discipline σ (Reporting A R β) (fun a => R a.action) ι where
  exec s a r t := D.exec s a.action r t
  le := D.le
  le_refl := D.le_refl
  le_trans := D.le_trans
  Inv := D.Inv
  issued := D.issued
  fresh a r i := D.fresh a.action r i
  keeps := D.keeps
  keeps_refl := D.keeps_refl
  keeps_trans := D.keeps_trans
  issued_le := D.issued_le
  fresh_new := D.fresh_new

/-- What a program may assume at its end holds in the state in which it reports. -/
theorem Discipline.wp_reporting {σ A ι ε α : Type} {R : A → Type} {D : Discipline σ A R ι}
    {G : σ → (a : A) → R a → σ → Prop} {own : Set ι} {p : Program A R ε α} {s : σ} {T : α → σ → Prop}
    (h : D.wp G own p (fun a _ t => T a t) s) :
    (D.reporting (Except ε α)).wp (fun s a r t => G s a.action r t ∧ ∀ v, a.report r = some (.ok v) → T v t)
      own p.reporting (fun a _ t => T a t) s := by
  induction p generalizing own s with
  | pure a => exact h
  | throw e => trivial
  | act a k ih =>
    intro s' hrely hinv r t hexec
    obtain ⟨hmeets, hrest⟩ := h s' ⟨hrely.le, hrely.keeps⟩ hinv r t hexec
    refine ⟨⟨hmeets.le, hmeets.inv, ⟨hmeets.guarantee, ?_⟩, hmeets.frame⟩, ih r hrest⟩
    intro v hv
    change (k r).outcome = some (.ok v) at hv
    cases hk : k r with
    | pure b =>
      rw [hk, Program.outcome, Option.some.injEq, Except.ok.injEq] at hv
      rw [hk] at hrest
      rw [← hv]
      exact hrest
    | throw e =>
      rw [hk, Program.outcome] at hv
      cases hv
    | act b k' =>
      rw [hk, Program.outcome] at hv
      cases hv

/-! ## The way of a run -/

/-- The steps lead from a state to another one. -/
def Leads {L σ A : Type} {R : A → Type} (exec : σ → (a : A) → R a → σ → Prop) :
    σ → List (RunStep L σ A R) → σ → Prop
  | s, [], t => s = t
  | s, step :: steps, t =>
    step.before = s ∧ exec step.before step.action step.reply step.after ∧ Leads exec step.after steps t

namespace Leads

variable {L σ A : Type} {R : A → Type} {exec : σ → (a : A) → R a → σ → Prop}
variable {steps steps' : List (RunStep L σ A R)} {s t u : σ}

theorem append (h : Leads exec s steps t) (h' : Leads exec t steps' u) : Leads exec s (steps ++ steps') u := by
  induction steps generalizing s with
  | nil =>
    obtain rfl := h
    exact h'
  | cons step steps ih => exact ⟨h.1, h.2.1, ih h.2.2⟩

theorem split (h : Leads exec s (steps ++ steps') u) : ∃ t, Leads exec s steps t ∧ Leads exec t steps' u := by
  induction steps generalizing s with
  | nil => exact ⟨s, rfl, h⟩
  | cons step steps ih =>
    obtain ⟨t, hsteps, hrest⟩ := ih h.2.2
    exact ⟨t, ⟨h.1, h.2.1, hsteps⟩, hrest⟩

theorem exec_of_mem (h : Leads exec s steps t) {step : RunStep L σ A R} (hstep : step ∈ steps) :
    exec step.before step.action step.reply step.after := by
  induction steps generalizing s with
  | nil => cases hstep
  | cons first steps ih =>
    rcases List.mem_cons.mp hstep with rfl | hstep
    · exact h.2.1
    · exact ih h.2.2 hstep

/-- What every step keeps holds before every step. -/
theorem before_of_kept {J : σ → Prop} (h : Leads exec s steps t) (hs : J s)
    (hkept : ∀ s a r t, J s → exec s a r t → J t) : ∀ step ∈ steps, J step.before := by
  induction steps generalizing s with
  | nil => intro step hstep; cases hstep
  | cons first steps ih =>
    obtain ⟨rfl, hexec, hrest⟩ := h
    intro step hstep
    rcases List.mem_cons.mp hstep with rfl | hstep
    · exact hs
    · exact ih hrest (hkept _ _ _ _ hs hexec) step hstep

/-- **What is lost on the way is lost in one step.** -/
theorem exists_lost {P : σ → Prop} (h : Leads exec s steps t) (hs : P s) (ht : ¬ P t) :
    ∃ step ∈ steps, P step.before ∧ ¬ P step.after := by
  induction steps generalizing s with
  | nil =>
    obtain rfl := h
    exact absurd hs ht
  | cons step steps ih =>
    obtain ⟨rfl, -, hrest⟩ := h
    by_cases hafter : P step.after
    · obtain ⟨lost, hmem, hlost⟩ := ih hrest hafter
      exact ⟨lost, List.mem_cons_of_mem _ hmem, hlost⟩
    · exact ⟨step, List.mem_cons_self, hs, hafter⟩

end Leads

namespace Run

variable {σ A : Type} {R : A → Type} {ε α L : Type}
variable {exec : σ → (a : A) → R a → σ → Prop} {start : L → Program A R ε α} {admitted : L → Prop} {init s : σ}
variable {threads : List (L × Program A R ε α)} {steps : List (RunStep L σ A R)}

theorem leads (hrun : Run exec start admitted init threads s steps) : Leads exec init steps s := by
  induction hrun with
  | nil => exact rfl
  | spawn l hrun hadmitted ih => exact ih
  | act hrun hexec ih => exact ih.append ⟨rfl, hexec, rfl⟩

/-- A run whose steps all do what another rule allows is a run by that rule. -/
theorem strengthen {exec' : σ → (a : A) → R a → σ → Prop} (hrun : Run exec start admitted init threads s steps)
    (hsteps : ∀ step ∈ steps, exec' step.before step.action step.reply step.after) :
    Run exec' start admitted init threads s steps := by
  induction hrun with
  | nil => exact .nil
  | spawn l hrun hadmitted ih => exact (ih hsteps).spawn l hadmitted
  | act hrun hexec ih =>
    have hlast := hsteps _ (List.mem_append_right _ List.mem_cons_self)
    exact (ih (fun step hstep => hsteps step (List.mem_append_left _ hstep))).act hlast

theorem label_mem (hrun : Run exec start admitted init threads s steps) :
    ∀ step ∈ steps, step.label ∈ threads.map Prod.fst := by
  induction hrun with
  | nil => intro step hstep; cases hstep
  | spawn l hrun hadmitted ih =>
    intro step hstep
    rw [List.map_append]
    exact List.mem_append_left _ (ih step hstep)
  | act hrun hexec ih =>
    intro step hstep
    rw [List.map_append, List.map_cons] at ih ⊢
    rcases List.mem_append.mp hstep with hold | hnew
    · exact ih step hold
    · rw [List.mem_singleton] at hnew
      subst hnew
      exact List.mem_append_right _ List.mem_cons_self

section Counting

variable {P : A → Prop} {T : L → Bool}

open Classical in
/-- What a program may still do of an action that it performs at most once. -/
noncomputable def left (P : A → Prop) (p : Program A R ε α) : Nat := if p.Within (fun a => ¬ P a) then 0 else 1

open Classical in
/-- How often the programs with the given labels have performed such an action. -/
noncomputable def performed (P : A → Prop) (T : L → Bool) (steps : List (RunStep L σ A R)) : Nat :=
  (steps.filter (fun step => decide (P step.action) && T step.label)).length

/-- The number of programs with the given labels. -/
def started (T : L → Bool) (threads : List (L × Program A R ε α)) : Nat :=
  (threads.filter (fun thread => T thread.1)).length

/-- What all programs with the given labels may still do. -/
noncomputable def leftOf (P : A → Prop) (T : L → Bool) (threads : List (L × Program A R ε α)) : Nat :=
  (threads.map (fun thread => if T thread.1 then left P thread.2 else 0)).sum

theorem left_le (p : Program A R ε α) : left P p ≤ 1 := by
  unfold left
  split_ifs <;> omega

theorem performed_append (steps steps' : List (RunStep L σ A R)) :
    performed P T (steps ++ steps') = performed P T steps + performed P T steps' := by
  unfold performed
  rw [List.filter_append, List.length_append]

theorem leftOf_append (threads threads' : List (L × Program A R ε α)) :
    leftOf P T (threads ++ threads') = leftOf P T threads + leftOf P T threads' := by
  unfold leftOf
  rw [List.map_append, List.sum_append]

theorem leftOf_cons (l : L) (p : Program A R ε α) (threads : List (L × Program A R ε α)) :
    leftOf P T ((l, p) :: threads) = (if T l then left P p else 0) + leftOf P T threads := rfl

theorem started_append (threads threads' : List (L × Program A R ε α)) :
    started T (threads ++ threads') = started T threads + started T threads' := by
  unfold started
  rw [List.filter_append, List.length_append]

theorem started_cons (l : L) (p : Program A R ε α) (threads : List (L × Program A R ε α)) :
    started T ((l, p) :: threads) = (if T l then 1 else 0) + started T threads := by
  unfold started
  rw [List.filter_cons]
  split_ifs
  · rw [List.length_cons, Nat.add_comm]
  · rw [Nat.zero_add]

/-- **Counting**: an action that every program performs at most once is performed at most as often
as programs were started. -/
theorem performed_le (hrun : Run exec start admitted init threads s steps)
    (honce : ∀ l, admitted l → (start l).AtMostOnce P) :
    (∀ thread ∈ threads, thread.2.AtMostOnce P) ∧ performed P T steps + leftOf P T threads ≤ started T threads := by
  induction hrun with
  | nil => exact ⟨fun thread hthread => absurd hthread List.not_mem_nil, Nat.le_refl _⟩
  | @spawn threads s steps l hrun hadmitted ih =>
    refine ⟨?_, ?_⟩
    · intro thread hthread
      rcases List.mem_append.mp hthread with hold | hnew
      · exact ih.1 thread hold
      · rw [List.mem_singleton] at hnew
        subst hnew
        exact honce l hadmitted
    · have hcount := ih.2
      have hone := left_le (P := P) (start l)
      rw [leftOf_append, leftOf_cons, started_append, started_cons]
      have hnil : leftOf P T ([] : List (L × Program A R ε α)) = 0 := rfl
      split_ifs <;> omega
  | @act others others' s steps l a k r t hrun hexec ih =>
    have hself : Program.AtMostOnce P (.act a k) := ih.1 (l, .act a k) (List.mem_append_right _ List.mem_cons_self)
    refine ⟨?_, ?_⟩
    · intro thread hthread
      rcases List.mem_append.mp hthread with hold | hnew
      · exact ih.1 thread (List.mem_append_left _ hold)
      · rcases List.mem_cons.mp hnew with rfl | hold
        · exact hself.2 r
        · exact ih.1 thread (List.mem_append_right _ (List.mem_cons_of_mem _ hold))
    · have hcount := ih.2
      -- the step takes from what its program had left
      have hstep : performed P T [(⟨l, s, a, r, t⟩ : RunStep L σ A R)] + (if T l then left P (k r) else 0) ≤
          if T l then left P (.act a k : Program A R ε α) else 0 := by
        unfold performed
        cases hT : T l with
        | false => simp [hT]
        | true =>
          by_cases hP : P a
          · have hleft : left P (.act a k : Program A R ε α) = 1 := if_neg (fun h => h.1 hP)
            have hright : left P (k r) = 0 := if_pos (hself.1 hP r)
            simp [hT, hP, hleft, hright]
          · have hmono : left P (k r) ≤ left P (.act a k : Program A R ε α) := by
              unfold left
              split_ifs with h h' h'
              · exact Nat.le_refl _
              · exact Nat.zero_le _
              · exact absurd (h'.2 r) h
              · exact Nat.le_refl _
            simpa [hT, hP] using hmono
      rw [leftOf_append, leftOf_cons, started_append, started_cons] at hcount ⊢
      rw [performed_append]
      omega

/-- An action of a kind that only one program performs, and at most once, is not performed twice. -/
theorem not_twice (hrun : Run exec start admitted init threads s steps)
    (honce : ∀ l, admitted l → (start l).AtMostOnce P) (hstarted : started T threads ≤ 1)
    {before middle rest : List (RunStep L σ A R)} {first last : RunStep L σ A R}
    (hsteps : steps = before ++ first :: middle ++ last :: rest) (hfirst : P first.action ∧ T first.label = true)
    (hlast : P last.action ∧ T last.label = true) : False := by
  have hcount := (performed_le (T := T) hrun honce).2
  have htwo : 2 ≤ performed P T steps := by
    have hone : ∀ step : RunStep L σ A R, P step.action ∧ T step.label = true → performed P T [step] = 1 := by
      intro step hstep
      unfold performed
      rw [List.filter_cons_of_pos (by simpa using hstep)]
      rfl
    have hsplit : steps = before ++ [first] ++ middle ++ [last] ++ rest := by
      rw [hsteps]
      simp
    rw [hsplit, performed_append, performed_append, performed_append, performed_append, hone first hfirst,
      hone last hlast]
    omega
  omega

end Counting

end Run
