import CfFrappe.Lib.Program

set_option autoImplicit false

/-! # Programs that run one after the other

A program `Performs` its actions from one state to another, a step for each; it may stop at any of them, as a process
does that crashes. `SequentialState.Sound` is the precondition of a program that nobody disturbs: it speaks of the steps so
far and of the state that they have led to, and says that every step keeps an invariant and is `Good` after the steps
before it. If every command is sound wherever the invariant holds, then every step of a `Series` of commands is good
(`Series.good`). Of a program that nothing stops, `Comes` is the precondition for what it comes to, an error or a
result.
-/

namespace Program

variable {σ A : Type} {R : A → Type} {ε α L : Type}

/-- What a program does from a state, up to its end or to where it stops. -/
inductive Performs (exec : σ → (a : A) → R a → σ → Prop) (l : L) :
    σ → Program A R ε α → List (RunStep L σ A R) → σ → Prop
  | stop (s : σ) (p : Program A R ε α) : Performs exec l s p [] s
  | act {s t u : σ} {a : A} {k : R a → Program A R ε α} {r : R a} {steps : List (RunStep L σ A R)}
      (hexec : exec s a r t) (hrest : Performs exec l t (k r) steps u) :
      Performs exec l s (.act a k) (⟨l, s, a, r, t⟩ :: steps) u

/-- Commands one after the other, each up to its end or to where it stops. -/
inductive Series (exec : σ → (a : A) → R a → σ → Prop) (start : L → Program A R ε α) :
    σ → List L → List (RunStep L σ A R) → σ → Prop
  | nil (s : σ) : Series exec start s [] [] s
  | cons {s t u : σ} {l : L} {ls : List L} {steps steps' : List (RunStep L σ A R)}
      (hfirst : Performs exec l s (start l) steps t) (hrest : Series exec start t ls steps' u) :
      Series exec start s (l :: ls) (steps ++ steps') u

/-- A program that runs alone performs the steps of its evaluation. -/
theorem performs_eval {exec : σ → (a : A) → R a → σ → Prop} {reply : σ → (a : A) → R a × σ}
    (hreply : ∀ s a, exec s a (reply s a).1 (reply s a).2) (l : L) (p : Program A R ε α) (s : σ) :
    Performs exec l s p (p.evalSteps reply l s) (p.eval reply s).2 := by
  induction p generalizing s with
  | pure a => exact .stop s _
  | throw e => exact .stop s _
  | act a k ih => exact .act (hreply s a) (ih (reply s a).1 (reply s a).2)

theorem series_evalAll {exec : σ → (a : A) → R a → σ → Prop} {reply : σ → (a : A) → R a × σ}
    (hreply : ∀ s a, exec s a (reply s a).1 (reply s a).2) (start : L → Program A R ε α) (ls : List L) (s : σ) :
    Series exec start s ls (evalAllSteps reply start ls s) (evalAll reply start ls s) := by
  induction ls generalizing s with
  | nil => exact .nil s
  | cons l ls ih => exact .cons (performs_eval hreply l (start l) s) (ih ((start l).eval reply s).2)

/-! ### Programs that nothing stops -/

/-- What a program that nothing stops comes to, and the state that it leaves. -/
inductive Ends (exec : σ → (a : A) → R a → σ → Prop) : σ → Program A R ε α → Except ε α → σ → Prop
  | pure (s : σ) (a : α) : Ends exec s (.pure a) (.ok a) s
  | throw (s : σ) (e : ε) : Ends exec s (.throw e) (.error e) s
  | act {s t u : σ} {a : A} {k : R a → Program A R ε α} {r : R a} {result : Except ε α} (hexec : exec s a r t)
      (hrest : Ends exec t (k r) result u) : Ends exec s (.act a k) result u

/-- `Q` holds of whatever the program comes to, and of the state that it leaves. -/
def Comes (exec : σ → (a : A) → R a → σ → Prop) : Program A R ε α → (Except ε α → σ → Prop) → σ → Prop
  | .pure a, Q, s => Q (.ok a) s
  | .throw e, Q, s => Q (.error e) s
  | .act a k, Q, s => ∀ r t, exec s a r t → Comes exec (k r) Q t

/-- What is to hold after the first part of a program for `Q` to hold after the whole. -/
def Onward {β : Type} (exec : σ → (a : A) → R a → σ → Prop) (f : α → Program A R ε β) (Q : Except ε β → σ → Prop) :
    Except ε α → σ → Prop
  | .ok a, s => Comes exec (f a) Q s
  | .error e, s => Q (.error e) s

section Comes

variable {β : Type} {exec : σ → (a : A) → R a → σ → Prop} {s t : σ}

theorem onward_ok {f : α → Program A R ε β} {Q : Except ε β → σ → Prop} {a : α} :
    Onward exec f Q (.ok a) s = Comes exec (f a) Q s := rfl

theorem ends_eval {reply : σ → (a : A) → R a × σ} (hreply : ∀ s a, exec s a (reply s a).1 (reply s a).2)
    (p : Program A R ε α) (s : σ) : Ends exec s p (p.eval reply s).1 (p.eval reply s).2 := by
  induction p generalizing s with
  | pure a => exact .pure s a
  | throw e => exact .throw s e
  | act a k ih => exact .act (hreply s a) (ih (reply s a).1 (reply s a).2)

theorem Comes.of_ends {p : Program A R ε α} {Q : Except ε α → σ → Prop} {result : Except ε α} (h : Comes exec p Q s)
    (hends : Ends exec s p result t) : Q result t := by
  induction hends with
  | pure s a => exact h
  | throw s e => exact h
  | act hexec hrest ih => exact ih (h _ _ hexec)

theorem comes_pure {a : α} {Q : Except ε α → σ → Prop} (h : Q (.ok a) s) :
    Comes exec (Pure.pure a : Program A R ε α) Q s := h

theorem comes_ofExcept {x : Except ε α} {Q : Except ε α → σ → Prop} (h : Q x s) :
    Comes exec (ofExcept x : Program A R ε α) Q s := by
  cases x <;> exact h

theorem comes_perform {a : A} {Q : Except ε (R a) → σ → Prop} (h : ∀ r t, exec s a r t → Q (.ok r) t) :
    Comes exec (perform a : Program A R ε (R a)) Q s := h

theorem comes_then {p : Program A R ε α} {f : α → Program A R ε β} {Q : Except ε β → σ → Prop}
    (h : Comes exec p (Onward exec f Q) s) : Comes exec (p >>= f) Q s := by
  show Comes exec (p.bind f) Q s
  induction p generalizing s with
  | pure a => exact h
  | throw e => exact h
  | act a k ih => exact fun r t hexec => ih r (h r t hexec)

theorem Comes.mono {p : Program A R ε α} {Q Q' : Except ε α → σ → Prop} (h : Comes exec p Q s)
    (hQ : ∀ result t, Q result t → Q' result t) : Comes exec p Q' s := by
  induction p generalizing s with
  | pure a => exact hQ _ _ h
  | throw e => exact hQ _ _ h
  | act a k ih => exact fun r t hexec => ih r (h r t hexec)

end Comes

end Program

/-- How actions change a state that one program has for itself, what holds of it after the steps so far, and what a
step has to be like after them. -/
structure SequentialState (L σ A : Type) (R : A → Type) where
  exec : σ → (a : A) → R a → σ → Prop
  Inv : List (RunStep L σ A R) → σ → Prop
  Good : List (RunStep L σ A R) → RunStep L σ A R → Prop

namespace SequentialState

variable {L σ A : Type} {R : A → Type} {ε α β : Type} (S : SequentialState L σ A R)

/-- **The precondition of a program** that runs alone after some steps. -/
def Sound (l : L) : Program A R ε α → (α → List (RunStep L σ A R) → σ → Prop) → List (RunStep L σ A R) → σ → Prop
  | .pure a, Q, steps, s => Q a steps s
  | .throw _, _, _, _ => True
  | .act a k, Q, steps, s => ∀ r t, S.exec s a r t →
      S.Good steps ⟨l, s, a, r, t⟩ ∧ S.Inv (steps ++ [⟨l, s, a, r, t⟩]) t ∧
        Sound l (k r) Q (steps ++ [⟨l, s, a, r, t⟩]) t

variable {S} {l : L} {steps : List (RunStep L σ A R)} {s : σ}

theorem sound_pure {a : α} {Q : α → List (RunStep L σ A R) → σ → Prop} (h : Q a steps s) :
    S.Sound l (pure a : Program A R ε α) Q steps s := h

theorem sound_throw {e : ε} {Q : α → List (RunStep L σ A R) → σ → Prop} :
    S.Sound l (Program.throw e : Program A R ε α) Q steps s := trivial

theorem sound_ofExcept {x : Except ε α} {Q : α → List (RunStep L σ A R) → σ → Prop} (h : ∀ a, x = .ok a → Q a steps s) :
    S.Sound l (Program.ofExcept x : Program A R ε α) Q steps s := by
  cases x with
  | ok a => exact h a rfl
  | error e => trivial

theorem sound_action {a : A} {Q : R a → List (RunStep L σ A R) → σ → Prop}
    (h : ∀ r t, S.exec s a r t →
      S.Good steps ⟨l, s, a, r, t⟩ ∧ S.Inv (steps ++ [⟨l, s, a, r, t⟩]) t ∧ Q r (steps ++ [⟨l, s, a, r, t⟩]) t) :
    S.Sound l (.act a .pure : Program A R ε (R a)) Q steps s := h

theorem sound_then {p : Program A R ε α} {f : α → Program A R ε β} {Q : β → List (RunStep L σ A R) → σ → Prop}
    (h : S.Sound l p (fun a steps t => S.Sound l (f a) Q steps t) steps s) : S.Sound l (p >>= f) Q steps s := by
  show S.Sound l (p.bind f) Q steps s
  induction p generalizing steps s with
  | pure a => exact h
  | throw e => trivial
  | act a k ih =>
    intro r t hexec
    obtain ⟨hgood, hinv, hrest⟩ := h r t hexec
    exact ⟨hgood, hinv, ih r hrest⟩

/-- The steps that a sound program performs are good, and keep the invariant. -/
theorem performs_good {p : Program A R ε α} {Q : α → List (RunStep L σ A R) → σ → Prop}
    {performed : List (RunStep L σ A R)} {t : σ} (h : Program.Performs S.exec l s p performed t)
    (hinv : S.Inv steps s) (hsound : S.Sound l p Q steps s) :
    S.Inv (steps ++ performed) t ∧
      ∀ before step after, performed = before ++ step :: after → S.Good (steps ++ before) step := by
  induction h generalizing steps with
  | stop s p =>
    rw [List.append_nil]
    refine ⟨hinv, ?_⟩
    intro before step after hsplit
    simp at hsplit
  | @act s t u a k r performed hexec hrest ih =>
    obtain ⟨hgood, hinv', hsound'⟩ := hsound r t hexec
    obtain ⟨hinvEnd, hlater⟩ := ih hinv' hsound'
    rw [List.append_assoc, List.singleton_append] at hinvEnd
    refine ⟨hinvEnd, ?_⟩
    intro before step after hsplit
    -- the step is the first one, or it is one of the rest
    cases before with
    | nil =>
      obtain ⟨rfl, _⟩ := List.cons.inj hsplit
      rwa [List.append_nil]
    | cons first before =>
      obtain ⟨rfl, hafter⟩ := List.cons.inj hsplit
      have hstep := hlater before step after hafter
      rwa [List.append_assoc, List.singleton_append] at hstep

/-- The steps of a series, after the steps before it. -/
theorem series_good {start : L → Program A R ε α}
    (hsound : ∀ l steps s, S.Inv steps s → S.Sound l (start l) (fun _ _ _ => True) steps s) {ls : List L}
    {performed : List (RunStep L σ A R)} {t : σ} (h : Program.Series S.exec start s ls performed t)
    (hinv : S.Inv steps s) :
    ∀ before step after, performed = before ++ step :: after → S.Good (steps ++ before) step := by
  induction h generalizing steps with
  | nil s =>
    intro before step after hsplit
    simp at hsplit
  | @cons s t u l ls first rest hfirst hrest ih =>
    obtain ⟨hinv', hgood⟩ := performs_good hfirst hinv (hsound l steps s hinv)
    intro before step after hsplit
    rcases List.append_eq_append_iff.mp hsplit with ⟨between, rfl, hbetween⟩ | ⟨between, hbetween, hafter⟩
    · -- the step is one of a later command
      have hstep := ih hinv' between step after hbetween
      rwa [List.append_assoc] at hstep
    · cases between with
      | nil =>
        have hstep := ih hinv' [] step after (by simpa using hafter.symm)
        rw [hbetween, List.append_nil, List.append_nil] at hstep
        exact hstep
      | cons step' between =>
        obtain ⟨rfl, _⟩ := List.cons.inj hafter
        exact hgood before step between hbetween

/-- **Every step of a series is good**, if every command is sound wherever the invariant holds. -/
theorem Series.good {start : L → Program A R ε α}
    (hsound : ∀ l steps s, S.Inv steps s → S.Sound l (start l) (fun _ _ _ => True) steps s) {ls : List L}
    {before after : List (RunStep L σ A R)} {step : RunStep L σ A R} {t : σ}
    (h : Program.Series S.exec start s ls (before ++ step :: after) t) (hinv : S.Inv [] s) : S.Good before step :=
  series_good hsound h hinv before step after rfl

end SequentialState
