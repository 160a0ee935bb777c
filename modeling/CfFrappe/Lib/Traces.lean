import CfFrappe.Lib.Program

set_option autoImplicit false

/-! # Traces of programs

What a program does when its actions are answered in some way: the actions in order, with their replies, and
the result it comes to (`Traces`). The trace of a sequence of programs is made of their traces
(`Traces.of_bind`). `Ensures` says what is observed of a program in any of its runs, and what its result has to do
with that; its rules follow the sequence of the program. When a program runs alone, its parts run one after the other (`eval_bind`).
-/

namespace Program

variable {σ A : Type} {R : A → Type} {ε α β : Type}

/-- The program may perform these actions with these replies and come to this result. -/
inductive Traces (answers : (a : A) → R a → Prop) : Program A R ε α → List ((a : A) × R a) → Except ε α → Prop
  | pure (a : α) : Traces answers (.pure a) [] (.ok a)
  | throw (e : ε) : Traces answers (.throw e) [] (.error e)
  | act {a : A} {k : R a → Program A R ε α} {r : R a} {events : List ((a : A) × R a)} {result : Except ε α}
      (hanswer : answers a r) (hrest : Traces answers (k r) events result) :
      Traces answers (.act a k) (⟨a, r⟩ :: events) result

/-- Whatever the replies are, what the program returns has a property. -/
def Yields (Q : α → Prop) : Program A R ε α → Prop
  | .pure a => Q a
  | .throw _ => True
  | .act _ k => ∀ r, (k r).Yields Q

theorem Yields.bind {Q : β → Prop} {p : Program A R ε α} {f : α → Program A R ε β} (h : ∀ a, (f a).Yields Q) :
    (p >>= f).Yields Q := by
  change (p.bind f).Yields Q
  induction p with
  | pure a => exact h a
  | throw e => exact True.intro
  | act a k ih => exact fun r => ih r

theorem Yields.trivial (p : Program A R ε α) : p.Yields (fun _ => True) := by
  induction p with
  | pure a => exact True.intro
  | throw e => exact True.intro
  | act a k ih => exact fun r => ih r

section

variable {answers : (a : A) → R a → Prop} {events : List ((a : A) × R a)}

theorem Traces.of_bind {p : Program A R ε α} {f : α → Program A R ε β} {result : Except ε β}
    (h : Traces answers (p >>= f) events result) :
    (∃ e, Traces answers p events (.error e) ∧ result = .error e) ∨
      ∃ a before after, Traces answers p before (.ok a) ∧ Traces answers (f a) after result ∧
        events = before ++ after := by
  change Traces answers (p.bind f) events result at h
  induction p generalizing events with
  | pure a => exact Or.inr ⟨a, [], events, .pure a, h, rfl⟩
  | throw e =>
    cases h
    exact Or.inl ⟨e, .throw e, rfl⟩
  | act a k ih =>
    cases h with
    | act hanswer hrest =>
      rcases ih _ hrest with ⟨e, hp, hresult⟩ | ⟨b, before, after, hp, hf, rfl⟩
      · exact Or.inl ⟨e, .act hanswer hp, hresult⟩
      · exact Or.inr ⟨b, _ :: before, after, .act hanswer hp, hf, rfl⟩

/-- A run that begins with an action. -/
theorem Traces.exists_act {a : A} {k : R a → Program A R ε α} (r : R a) (hanswer : answers a r)
    (hrest : ∃ events result, Traces answers (k r) events result) :
    ∃ events result, Traces answers (.act a k) events result := by
  obtain ⟨events, result, hrest⟩ := hrest
  exact ⟨_, result, .act hanswer hrest⟩

theorem Traces.of_perform {a : A} {result : Except ε (R a)} (h : Traces answers (perform a) events result) :
    ∃ r, answers a r ∧ events = [⟨a, r⟩] ∧ result = .ok r := by
  cases h with
  | act hanswer hrest =>
    cases hrest
    exact ⟨_, hanswer, rfl, rfl⟩

theorem Traces.of_ofExcept {x result : Except ε α} (h : Traces answers (ofExcept x) events result) :
    events = [] ∧ result = x := by
  cases x <;> cases h <;> exact ⟨rfl, rfl⟩

theorem Traces.within {P : A → Prop} {p : Program A R ε α} {result : Except ε α} (h : Traces answers p events result)
    (hp : p.Within P) : ∀ event ∈ events, P event.1 := by
  induction h with
  | pure a => exact fun _ hmem => absurd hmem List.not_mem_nil
  | throw e => exact fun _ hmem => absurd hmem List.not_mem_nil
  | act hanswer hrest ih =>
    rintro event hmem
    rcases List.mem_cons.mp hmem with rfl | hmem
    · exact hp.1
    · exact ih (hp.2 _) event hmem

theorem Traces.yields {Q : α → Prop} {p : Program A R ε α} {a : α} (h : Traces answers p events (.ok a))
    (hp : p.Yields Q) : Q a := by
  generalize hresult : (.ok a : Except ε α) = result at h
  induction h with
  | pure b =>
    cases hresult
    exact hp
  | throw e => cases hresult
  | act hanswer hrest ih => exact ih (hp _) hresult

end

/-! ## Observations -/

section

variable {ω : Type} (answers : (a : A) → R a → Prop) (observe : (a : A) × R a → Option ω)

/-- In every run, what is observed and the result are in a relation. -/
def Ensures (Q : List ω → Except ε α → Prop) (p : Program A R ε α) : Prop :=
  ∀ events result, Traces answers p events result → Q (events.filterMap observe) result

/-- Nothing is observed of an action. -/
def Silent (a : A) : Prop := ∀ r, observe ⟨a, r⟩ = none

variable {answers observe}

theorem Ensures.bind {P : List ω → Except ε α → Prop} {Q : List ω → Except ε β → Prop} {p : Program A R ε α}
    {f : α → Program A R ε β} (hp : Ensures answers observe P p)
    (herror : ∀ observed e, P observed (.error e) → Q observed (.error e))
    (hok : ∀ observed a, P observed (.ok a) → Ensures answers observe (fun rest => Q (observed ++ rest)) (f a)) :
    Ensures answers observe Q (p >>= f) := by
  intro events result h
  rcases h.of_bind with ⟨e, hfirst, rfl⟩ | ⟨a, before, after, hfirst, hrest, rfl⟩
  · exact herror _ e (hp _ _ hfirst)
  · rw [List.filterMap_append]
    exact hok _ a (hp _ _ hfirst) _ _ hrest

theorem Ensures.mono {P Q : List ω → Except ε α → Prop} {p : Program A R ε α} (hp : Ensures answers observe P p)
    (h : ∀ observed result, P observed result → Q observed result) : Ensures answers observe Q p :=
  fun events result htrace => h _ _ (hp events result htrace)

theorem Ensures.pure {Q : List ω → Except ε α → Prop} {a : α} (h : Q [] (.ok a)) :
    Ensures answers observe Q (Pure.pure a : Program A R ε α) := by
  intro events result htrace
  change Traces answers (.pure a) events result at htrace
  cases htrace
  exact h

theorem Ensures.throw {Q : List ω → Except ε α → Prop} {e : ε} (h : Q [] (.error e)) :
    Ensures answers observe Q (.throw e : Program A R ε α) := by
  intro events result htrace
  cases htrace
  exact h

/-- Nothing is observed of silent actions. -/
theorem Ensures.of_silent {Q : α → Prop} {p : Program A R ε α} (hp : p.Within (Silent observe)) (hQ : p.Yields Q) :
    Ensures answers observe (fun observed result => observed = [] ∧ ∀ a, result = .ok a → Q a) p := by
  intro events result h
  constructor
  · exact List.filterMap_eq_nil_iff.mpr fun event hmem => h.within hp event hmem event.2
  · rintro a rfl
    exact h.yields hQ

/-- Silent actions leave what is observed to what comes behind them. -/
theorem Ensures.silent_bind {Q : List ω → Except ε β → Prop} {p : Program A R ε α} {f : α → Program A R ε β}
    (hp : p.Within (Silent observe)) (herror : ∀ e, Q [] (.error e)) (hok : ∀ a, Ensures answers observe Q (f a)) :
    Ensures answers observe Q (p >>= f) := by
  refine Ensures.bind (Ensures.of_silent hp (Yields.trivial p)) ?_ ?_
  · rintro observed e ⟨rfl, -⟩
    exact herror e
  · rintro observed a ⟨rfl, -⟩
    exact hok a

end

/-- A program that runs alone runs its parts one after the other. -/
theorem eval_bind {reply : σ → (a : A) → R a × σ} (p : Program A R ε α) (f : α → Program A R ε β) (s : σ) :
    (p >>= f).eval reply s =
      match p.eval reply s with
      | (.ok a, t) => (f a).eval reply t
      | (.error e, t) => (.error e, t) := by
  change (p.bind f).eval reply s = _
  induction p generalizing s with
  | pure a => rfl
  | throw e => rfl
  | act a k ih => exact ih _ _

theorem eval_ofExcept {reply : σ → (a : A) → R a × σ} (x : Except ε α) (s : σ) :
    (ofExcept x : Program A R ε α).eval reply s = (x, s) := by
  cases x <;> rfl

end Program
