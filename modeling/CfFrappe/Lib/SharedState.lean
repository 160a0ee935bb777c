import CfFrappe.Lib.Reporting

set_option autoImplicit false

/-! # Programs on a shared state without tokens

The plain case of a discipline: programs share a state that only grows and keeps an invariant, and nobody
owns anything. `Wp` is the precondition of a program there: whatever the others do in between, each of its
actions keeps the invariant and does what is `Good`. If that holds of every program that may be started,
it holds of every step of every run (`SharedState.run`).
-/

/-- How actions change a state that programs share, how it grows, what always holds of it, and what every
action has to be like. -/
structure SharedState (σ A : Type) (R : A → Type) where
  exec : σ → (a : A) → R a → σ → Prop
  le : σ → σ → Prop
  le_refl : ∀ s, le s s
  le_trans : ∀ {s t u}, le s t → le t u → le s u
  exec_le : ∀ {s a r t}, exec s a r t → le s t
  Inv : σ → Prop
  Good : σ → (a : A) → R a → Prop := fun _ _ _ => True

namespace SharedState

variable {σ A : Type} {R : A → Type} {ε α β L : Type} (S : SharedState σ A R)

/-- There are no tokens. -/
def discipline : Discipline σ A R Empty where
  exec := S.exec
  le := S.le
  le_refl := S.le_refl
  le_trans := S.le_trans
  Inv := S.Inv
  issued _ _ := False
  fresh _ _ _ := False
  keeps _ _ _ := True
  keeps_refl _ _ := trivial
  keeps_trans _ _ := trivial
  issued_le _ h := h
  fresh_new _ h := absurd h id

/-- **The precondition of a program.** -/
def Wp (p : Program A R ε α) (Q : α → σ → Prop) (s : σ) : Prop :=
  S.discipline.wp (fun s a r _ => S.Good s a r) ∅ p (fun a _ t => Q a t) s

variable {S} {s : σ}

theorem wp_pure {a : α} {Q : α → σ → Prop} (h : Q a s) : S.Wp (pure a : Program A R ε α) Q s := h

theorem wp_throw {e : ε} {Q : α → σ → Prop} : S.Wp (Program.throw e : Program A R ε α) Q s := trivial

theorem wp_then {p : Program A R ε α} {f : α → Program A R ε β} {Q : β → σ → Prop}
    (h : S.Wp p (fun a t => S.Wp (f a) Q t) s) : S.Wp (p >>= f) Q s := by
  apply Discipline.wp_bind
  apply Discipline.wp_mono h
  intro a own t hrest
  rwa [Subsingleton.elim own ∅]

theorem wp_mono {p : Program A R ε α} {Q Q' : α → σ → Prop} (h : S.Wp p Q s) (hQ : ∀ a t, Q a t → Q' a t) :
    S.Wp p Q' s := Discipline.wp_mono h (fun a _ t => hQ a t)

theorem wp_ofExcept {x : Except ε α} {Q : α → σ → Prop} (h : ∀ a, x = .ok a → Q a s) :
    S.Wp (Program.ofExcept x : Program A R ε α) Q s := Discipline.wp_ofExcept h

/-- A check: the program goes on when it passes. -/
theorem wp_checked {x : Except ε α} {f : α → Program A R ε β} {Q : β → σ → Prop}
    (h : ∀ a, x = .ok a → S.Wp (f a) Q s) : S.Wp (Program.ofExcept x >>= f) Q s := wp_then (wp_ofExcept h)

/-- An action, after whatever the others did. -/
theorem wp_action {a : A} {Q : R a → σ → Prop}
    (h : ∀ t r u, S.le s t → S.Inv t → S.exec t a r u → S.Inv u ∧ S.Good t a r ∧ Q r u) :
    S.Wp (.act a .pure : Program A R ε (R a)) Q s := by
  intro t hrely hinv r u hexec
  obtain ⟨hinv', hgood, hQ⟩ := h t r u hrely.le hinv hexec
  exact ⟨⟨S.exec_le hexec, hinv', hgood, fun i => i.elim⟩, hQ⟩

/-- The state a program ends in is a later one. -/
theorem wp_later {p : Program A R ε α} {Q : α → σ → Prop} (h : S.Wp p Q s) : S.Wp p (fun a t => S.le s t ∧ Q a t) s := by
  -- by induction on the program, for the states that are later than the one it was started in
  have hlater : ∀ (p : Program A R ε α) (own : Set Empty) (t : σ), S.le s t →
      S.discipline.wp (fun s a r _ => S.Good s a r) own p (fun a _ u => Q a u) t →
      S.discipline.wp (fun s a r _ => S.Good s a r) own p (fun a _ u => S.le s u ∧ Q a u) t := by
    intro p
    induction p with
    | pure a => exact fun own t hle hQ => ⟨hle, hQ⟩
    | throw e => exact fun own t _ _ => trivial
    | act a k ih =>
      intro own t hle hwp t' hrely hinv r u hexec
      obtain ⟨hmeets, hrest⟩ := hwp t' hrely hinv r u hexec
      exact ⟨hmeets, ih r _ u (S.le_trans (S.le_trans hle hrely.le) (S.exec_le hexec)) hrest⟩
  exact hlater p ∅ s (S.le_refl s) h

/-- **Runs**: what every program keeps, every run keeps. -/
theorem run {start : L → Program A R ε α} {admitted : L → Prop} {init : σ} {threads : List (L × Program A R ε α)}
    {steps : List (RunStep L σ A R)} {Q : L → α → σ → Prop} (hrun : Run S.exec start admitted init threads s steps)
    (hinit : S.Inv init) (hstart : ∀ l t, admitted l → S.Inv t → S.Wp (start l) (Q l) t) :
    S.Inv s ∧ ∀ step ∈ steps,
      S.Inv step.before ∧ S.Good step.before step.action step.reply ∧ S.Inv step.after ∧ S.le step.after s := by
  obtain ⟨pool, -, hsound⟩ := Run.sound (D := S.discipline) (G := fun _ s a r _ => S.Good s a r)
    (Q := fun l a _ t => Q l a t) hrun hinit hstart
  refine ⟨hsound.inv, ?_⟩
  intro step hstep
  obtain ⟨hbefore, -, hafter, hgood⟩ := hsound.met step hstep
  exact ⟨hbefore, hgood, hafter, hsound.grown step hstep⟩

end SharedState
