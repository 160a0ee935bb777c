import Mathlib

set_option autoImplicit false

/-! # Programs that interleave on a shared state

A `Program` is a tree of actions on a shared state: it asks for one action at a time and goes
on with the reply. Many programs run at once; between two actions of one program the others
may act. What a program can count on is a `Discipline`: the state only grows (`le`), keeps an
invariant, and what the tokens of a program stand for is left alone by the others. `wp` is the
rely/guarantee precondition of a program: whatever the others do within the discipline, each of
its actions keeps the invariant and meets a guarantee. If every program that may be started meets
its guarantee, then so does every action of every run (`Run.sound`).
-/

/-- A program over the actions `A` with replies `R`, errors `ε` and results `α`. -/
inductive Program (A : Type) (R : A → Type) (ε α : Type)
  | pure (a : α)
  | throw (e : ε)
  | act (a : A) (k : R a → Program A R ε α)

namespace Program

variable {A : Type} {R : A → Type} {ε α β : Type}

def bind : Program A R ε α → (α → Program A R ε β) → Program A R ε β
  | .pure a, f => f a
  | .throw e, _ => .throw e
  | .act a k, f => .act a (fun r => (k r).bind f)

instance : Monad (Program A R ε) where
  pure := .pure
  bind := bind

/-- One action. -/
def perform (a : A) : Program A R ε (R a) := .act a .pure

/-- A computation that does not act. -/
def ofExcept : Except ε α → Program A R ε α
  | .ok a => .pure a
  | .error e => .throw e

/-- The program has not come to an end. -/
def Running : Program A R ε α → Prop
  | .act _ _ => True
  | _ => False

/-- Every action of the program, whatever the replies were, is one of the given ones. -/
def Within (P : A → Prop) : Program A R ε α → Prop
  | .pure _ => True
  | .throw _ => True
  | .act a k => P a ∧ ∀ r, (k r).Within P

theorem Within.bind {P : A → Prop} {p : Program A R ε α} {f : α → Program A R ε β} (hp : p.Within P)
    (hf : ∀ a, (f a).Within P) : (p >>= f).Within P := by
  change (p.bind f).Within P
  induction p with
  | pure a => exact hf a
  | throw e => trivial
  | act a k ih => exact ⟨hp.1, fun r => ih r (hp.2 r)⟩

theorem Within.mono {P P' : A → Prop} {p : Program A R ε α} (hp : p.Within P) (hP : ∀ a, P a → P' a) :
    p.Within P' := by
  induction p with
  | pure a => trivial
  | throw e => trivial
  | act a k ih => exact ⟨hP a hp.1, fun r => ih r (hp.2 r)⟩

theorem Within.of_forall {P : A → Prop} (hP : ∀ a, P a) (p : Program A R ε α) : p.Within P := by
  induction p with
  | pure a => trivial
  | throw e => trivial
  | act a k ih => exact ⟨hP a, fun r => ih r⟩

theorem Within.perform {P : A → Prop} {a : A} (h : P a) :
    (Program.perform a : Program A R ε (R a)).Within P := ⟨h, fun _ => trivial⟩

theorem Within.ofExcept {P : A → Prop} (x : Except ε α) : (ofExcept x : Program A R ε α).Within P := by
  cases x <;> trivial

theorem Within.pure {P : A → Prop} (a : α) : (Pure.pure a : Program A R ε α).Within P := trivial

end Program

/-- How actions change the state, and what interleaved programs may rely on: the state grows and
keeps an invariant, and nobody but its owner touches what a token stands for. A token belongs to
the program that an action handed it to. -/
structure Discipline (σ A : Type) (R : A → Type) (ι : Type) where
  exec : σ → (a : A) → R a → σ → Prop
  le : σ → σ → Prop
  le_refl : ∀ s, le s s
  le_trans : ∀ {s t u}, le s t → le t u → le s u
  Inv : σ → Prop
  /-- the tokens that have been handed out -/
  issued : σ → ι → Prop
  /-- the tokens that an action hands out -/
  fresh : (a : A) → R a → ι → Prop
  /-- what the owner of a token may count on while others act -/
  keeps : ι → σ → σ → Prop
  keeps_refl : ∀ i s, keeps i s s
  keeps_trans : ∀ {i s t u}, keeps i s t → keeps i t u → keeps i s u
  issued_le : ∀ {s t i}, le s t → issued s i → issued t i
  fresh_new : ∀ {s a r t i}, exec s a r t → fresh a r i → ¬ issued s i ∧ issued t i

namespace Discipline

variable {σ A : Type} {R : A → Type} {ι ε α β : Type}

section

variable (D : Discipline σ A R ι) (G : σ → (a : A) → R a → σ → Prop)

/-- What the others may have done between two actions of the owner of some tokens. -/
structure Rely (own : Set ι) (s t : σ) : Prop where
  le : D.le s t
  keeps : ∀ i ∈ own, D.keeps i s t

/-- What one action of a program has to do: let the state grow, keep the invariant, meet the
guarantee and leave the tokens of the others alone. -/
structure Meets (own : Set ι) (s : σ) (a : A) (r : R a) (t : σ) : Prop where
  le : D.le s t
  inv : D.Inv t
  guarantee : G s a r t
  frame : ∀ i, D.issued s i → i ∉ own → D.keeps i s t

/-- **The rely/guarantee precondition**: from `s` on, whatever others do in between, the program
that owns `own` meets its guarantee with every action, and ends (if it ends without an error)
with `Q`. -/
def wp : Set ι → Program A R ε α → (α → Set ι → σ → Prop) → σ → Prop
  | own, .pure a, Q, s => Q a own s
  | _, .throw _, _, _ => True
  | own, .act a k, Q, s => ∀ s', D.Rely own s s' → D.Inv s' → ∀ r t, D.exec s' a r t →
      D.Meets G own s' a r t ∧ wp (own ∪ {i | D.fresh a r i}) (k r) Q t

end

variable {D : Discipline σ A R ι} {G : σ → (a : A) → R a → σ → Prop} {own : Set ι}

theorem Rely.refl (s : σ) : D.Rely own s s := ⟨D.le_refl s, fun i _ => D.keeps_refl i s⟩

theorem Rely.trans {s t u : σ} (h : D.Rely own s t) (h' : D.Rely own t u) : D.Rely own s u :=
  ⟨D.le_trans h.le h'.le, fun i hi => D.keeps_trans (h.keeps i hi) (h'.keeps i hi)⟩

theorem wp_pure {a : α} {Q : α → Set ι → σ → Prop} {s : σ} (h : Q a own s) :
    D.wp G own (pure a : Program A R ε α) Q s := h

theorem wp_bind {p : Program A R ε α} {f : α → Program A R ε β} {Q : β → Set ι → σ → Prop} {s : σ}
    (h : D.wp G own p (fun a own t => D.wp G own (f a) Q t) s) : D.wp G own (p >>= f) Q s := by
  change D.wp G own (p.bind f) Q s
  induction p generalizing own s with
  | pure a => exact h
  | throw e => trivial
  | act a k ih =>
    intro s' hrely hinv r t hexec
    obtain ⟨hmeets, hrest⟩ := h s' hrely hinv r t hexec
    exact ⟨hmeets, ih r hrest⟩

theorem wp_mono {p : Program A R ε α} {Q Q' : α → Set ι → σ → Prop} {s : σ} (h : D.wp G own p Q s)
    (hQ : ∀ a own t, Q a own t → Q' a own t) : D.wp G own p Q' s := by
  induction p generalizing own s with
  | pure a => exact hQ a own s h
  | throw e => trivial
  | act a k ih =>
    intro s' hrely hinv r t hexec
    obtain ⟨hmeets, hrest⟩ := h s' hrely hinv r t hexec
    exact ⟨hmeets, ih r hrest⟩

theorem wp_ofExcept {x : Except ε α} {Q : α → Set ι → σ → Prop} {s : σ} (h : ∀ a, x = .ok a → Q a own s) :
    D.wp G own (Program.ofExcept x : Program A R ε α) Q s := by
  cases x with
  | error e => trivial
  | ok a => exact h a rfl

/-- A check: the program goes on when it passes. -/
theorem wp_checked {x : Except ε α} {f : α → Program A R ε β} {Q : β → Set ι → σ → Prop} {s : σ}
    (h : ∀ a, x = .ok a → D.wp G own (f a) Q s) : D.wp G own (Program.ofExcept x >>= f) Q s :=
  wp_bind (wp_ofExcept h)

theorem wp_throw {e : ε} {Q : α → Set ι → σ → Prop} {s : σ} :
    D.wp G own (Program.throw e : Program A R ε α) Q s := trivial

theorem wp_perform {a : A} {Q : R a → Set ι → σ → Prop} {s : σ}
    (h : ∀ s', D.Rely own s s' → D.Inv s' → ∀ r t, D.exec s' a r t →
      D.Meets G own s' a r t ∧ Q r (own ∪ {i | D.fresh a r i}) t) :
    D.wp G own (Program.perform a : Program A R ε (R a)) Q s := h

/-- A precondition of a running program lasts while others act. -/
theorem wp_stable {p : Program A R ε α} {Q : α → Set ι → σ → Prop} {s t : σ} (h : D.wp G own p Q s)
    (hrely : D.Rely own s t) (hrunning : p.Running) : D.wp G own p Q t := by
  cases p with
  | pure a => exact absurd hrunning id
  | throw e => exact absurd hrunning id
  | act a k => exact fun s' hrely' hinv r u hexec => h s' (hrely.trans hrely') hinv r u hexec

/-- A program whose actions are all harmless (they hand out no token and touch none) meets its
guarantee and ends somewhere later. -/
theorem wp_within {P : A → Prop} {p : Program A R ε α} {Q : α → Set ι → σ → Prop} {s : σ} (hp : p.Within P)
    (hP : ∀ a, P a → ∀ s r t, D.Inv s → D.exec s a r t →
      D.Meets G own s a r t ∧ D.Rely own s t ∧ ∀ i, ¬ D.fresh a r i)
    (hs : D.Inv s) (hQ : ∀ a t, D.Rely own s t → D.Inv t → Q a own t) : D.wp G own p Q s := by
  induction p generalizing s with
  | pure a => exact hQ a s (Rely.refl s) hs
  | throw e => trivial
  | act a k ih =>
    intro s' hrely hinv r t hexec
    obtain ⟨hmeets, hown, hfresh⟩ := hP a hp.1 s' r t hinv hexec
    have hsame : own ∪ {i | D.fresh a r i} = own := by
      rw [Set.union_eq_left]
      intro i hi
      exact absurd hi (hfresh i)
    rw [hsame]
    refine ⟨hmeets, ih r (hp.2 r) hmeets.inv ?_⟩
    intro b u hlater hu
    exact hQ b u (hrely.trans (hown.trans hlater)) hu

end Discipline

/-! ## Runs -/

/-- One action of a run: whose it was, the action with its reply, and the states around it. -/
structure RunStep (L σ A : Type) (R : A → Type) where
  label : L
  before : σ
  action : A
  reply : R action
  after : σ

/-- The runs of a system: commands may be started at any time, and at each moment one of the
running programs performs its next action. A run has its programs, its state and its steps. -/
inductive Run {σ A : Type} {R : A → Type} {ε α L : Type} (exec : σ → (a : A) → R a → σ → Prop)
    (start : L → Program A R ε α) (admitted : L → Prop) (init : σ) :
    List (L × Program A R ε α) → σ → List (RunStep L σ A R) → Prop
  | nil : Run exec start admitted init [] init []
  | spawn {threads s steps} (l : L) : Run exec start admitted init threads s steps → admitted l →
      Run exec start admitted init (threads ++ [(l, start l)]) s steps
  | act {others others' s steps l a k r t} :
      Run exec start admitted init (others ++ (l, .act a k) :: others') s steps → exec s a r t →
      Run exec start admitted init (others ++ (l, k r) :: others') t (steps ++ [⟨l, s, a, r, t⟩])

namespace Run

variable {σ A : Type} {R : A → Type} {ι ε α L : Type}
variable {D : Discipline σ A R ι} {start : L → Program A R ε α} {admitted : L → Prop} {init : σ}
variable {G : L → σ → (a : A) → R a → σ → Prop} {Q : L → α → Set ι → σ → Prop}

/-- A program of a run with the tokens it owns. -/
structure Thread (L A : Type) (R : A → Type) (ε α ι : Type) where
  label : L
  program : Program A R ε α
  own : Set ι

/-- What a running program of a run has: only tokens that were handed out, and its precondition. -/
structure Thread.Ready (D : Discipline σ A R ι) (G : L → σ → (a : A) → R a → σ → Prop)
    (Q : L → α → Set ι → σ → Prop) (s : σ) (thread : Thread L A R ε α ι) : Prop where
  issued : ∀ i ∈ thread.own, D.issued s i
  ready : thread.program.Running → D.wp (G thread.label) thread.own thread.program (Q thread.label) s

/-- What holds after a run: the invariant, the precondition of every running program (no two
own the same token), and for every step the invariant before it and its guarantee. -/
structure Sound (D : Discipline σ A R ι) (G : L → σ → (a : A) → R a → σ → Prop) (Q : L → α → Set ι → σ → Prop)
    (pool : List (Thread L A R ε α ι)) (s : σ) (steps : List (RunStep L σ A R)) : Prop where
  inv : D.Inv s
  ready : ∀ thread ∈ pool, thread.Ready D G Q s
  disjoint : pool.Pairwise (fun x y => Disjoint x.own y.own)
  grown : ∀ step ∈ steps, D.le step.after s
  met : ∀ step ∈ steps, D.Inv step.before ∧ D.le step.before step.after ∧ D.Inv step.after ∧
    G step.label step.before step.action step.reply step.after

/-- A thread is ready after a step of another one that leaves its tokens alone. -/
theorem Thread.Ready.stable {thread : Thread L A R ε α ι} {s t : σ} (h : thread.Ready D G Q s) (hle : D.le s t)
    (hkeeps : ∀ i ∈ thread.own, D.keeps i s t) : thread.Ready D G Q t :=
  ⟨fun i hi => D.issued_le hle (h.issued i hi),
   fun hrunning => Discipline.wp_stable (h.ready hrunning) ⟨hle, hkeeps⟩ hrunning⟩

/-- The first thread of a pool acts; the order of the others does not matter. -/
theorem Sound.act {others others' : List (Thread L A R ε α ι)} {own : Set ι} {s t : σ}
    {steps : List (RunStep L σ A R)} {l : L} {a : A} {k : R a → Program A R ε α} {r : R a}
    (h : Sound D G Q (others ++ ⟨l, .act a k, own⟩ :: others') s steps) (hexec : D.exec s a r t) :
    Sound D G Q (others ++ ⟨l, k r, own ∪ {i | D.fresh a r i}⟩ :: others') t (steps ++ [⟨l, s, a, r, t⟩]) := by
  have hmem : (⟨l, .act a k, own⟩ : Thread L A R ε α ι) ∈ others ++ ⟨l, .act a k, own⟩ :: others' :=
    List.mem_append_right _ List.mem_cons_self
  have hself := h.ready _ hmem
  obtain ⟨hmeets, hrest⟩ := hself.ready trivial s (Discipline.Rely.refl s) h.inv r t hexec
  have hdisjoint := h.disjoint
  rw [List.pairwise_append, List.pairwise_cons] at hdisjoint
  obtain ⟨hleft, ⟨hafter, hright⟩, hacross⟩ := hdisjoint
  -- a token of another thread is neither owned nor just handed out, so the step keeps it
  have hother : ∀ thread ∈ others ++ others', thread.Ready D G Q s → Disjoint thread.own own →
      thread.Ready D G Q t ∧ Disjoint thread.own (own ∪ {i | D.fresh a r i}) := by
    intro thread _ hready hdis
    refine ⟨hready.stable hmeets.le ?_, ?_⟩
    · intro i hi
      exact hmeets.frame i (hready.issued i hi) (Set.disjoint_left.mp hdis hi)
    · rw [Set.disjoint_union_right]
      refine ⟨hdis, Set.disjoint_left.mpr ?_⟩
      intro i hi hfresh
      exact (D.fresh_new hexec hfresh).1 (hready.issued i hi)
  have hbefore : ∀ thread ∈ others, thread.Ready D G Q t ∧ Disjoint thread.own (own ∪ {i | D.fresh a r i}) := by
    intro thread hthread
    exact hother thread (List.mem_append_left _ hthread) (h.ready thread (List.mem_append_left _ hthread))
      (hacross thread hthread _ List.mem_cons_self)
  have hbehind : ∀ thread ∈ others', thread.Ready D G Q t ∧ Disjoint thread.own (own ∪ {i | D.fresh a r i}) := by
    intro thread hthread
    exact hother thread (List.mem_append_right _ hthread)
      (h.ready thread (List.mem_append_right _ (List.mem_cons_of_mem _ hthread))) (hafter thread hthread).symm
  refine ⟨hmeets.inv, ?_, ?_, ?_, ?_⟩
  · intro thread hthread
    rcases List.mem_append.mp hthread with hin | hin
    · exact (hbefore thread hin).1
    · rcases List.mem_cons.mp hin with rfl | hin
      · refine ⟨?_, fun _ => hrest⟩
        rintro i (hi | hi)
        · exact D.issued_le hmeets.le (hself.issued i hi)
        · exact (D.fresh_new hexec hi).2
      · exact (hbehind thread hin).1
  · rw [List.pairwise_append, List.pairwise_cons]
    refine ⟨hleft, ⟨?_, hright⟩, ?_⟩
    · intro thread hthread
      exact (hbehind thread hthread).2.symm
    · intro thread hthread other hin
      rcases List.mem_cons.mp hin with rfl | hin
      · exact (hbefore thread hthread).2
      · exact hacross thread hthread other (List.mem_cons_of_mem _ hin)
  · intro step hstep
    rcases List.mem_append.mp hstep with hold | hnew
    · exact D.le_trans (h.grown step hold) hmeets.le
    · rw [List.mem_singleton] at hnew
      subst hnew
      exact D.le_refl t
  · intro step hstep
    rcases List.mem_append.mp hstep with hold | hnew
    · exact h.met step hold
    · rw [List.mem_singleton] at hnew
      subst hnew
      exact ⟨h.inv, hmeets.le, hmeets.inv, hmeets.guarantee⟩

theorem Sound.spawn {pool : List (Thread L A R ε α ι)} {s : σ} {steps : List (RunStep L σ A R)} {l : L}
    {p : Program A R ε α} (h : Sound D G Q pool s steps) (hp : D.wp (G l) ∅ p (Q l) s) :
    Sound D G Q (pool ++ [⟨l, p, ∅⟩]) s steps := by
  refine ⟨h.inv, ?_, ?_, h.grown, h.met⟩
  · intro thread hthread
    rcases List.mem_append.mp hthread with hold | hnew
    · exact h.ready thread hold
    · rw [List.mem_singleton] at hnew
      subst hnew
      exact ⟨fun i hi => absurd hi (Set.notMem_empty i), fun _ => hp⟩
  · rw [List.pairwise_append]
    refine ⟨h.disjoint, List.pairwise_singleton _ _, ?_⟩
    intro thread _ other hother
    rw [List.mem_singleton] at hother
    subst hother
    exact Set.disjoint_empty _

/-- **Soundness of the discipline**: if the first state has the invariant and every command that
may be started meets its guarantee, then every run is sound. -/
theorem sound {threads : List (L × Program A R ε α)} {s : σ} {steps : List (RunStep L σ A R)}
    (hrun : Run D.exec start admitted init threads s steps) (hinit : D.Inv init)
    (hstart : ∀ l s, admitted l → D.Inv s → D.wp (G l) ∅ (start l) (Q l) s) :
    ∃ pool : List (Thread L A R ε α ι), pool.map (fun thread => (thread.label, thread.program)) = threads ∧
      Sound D G Q pool s steps := by
  induction hrun with
  | nil =>
    refine ⟨[], rfl, hinit, ?_, List.Pairwise.nil, ?_, ?_⟩
    · intro thread hthread
      exact absurd hthread List.not_mem_nil
    · intro step hstep
      exact absurd hstep List.not_mem_nil
    · intro step hstep
      exact absurd hstep List.not_mem_nil
  | spawn l hrun hadmitted ih =>
    obtain ⟨pool, hpool, hsound⟩ := ih
    refine ⟨pool ++ [⟨l, start l, ∅⟩], ?_, hsound.spawn (hstart l _ hadmitted hsound.inv)⟩
    rw [List.map_append, hpool]
    rfl
  | @act others others' s steps l a k r t hrun hexec ih =>
    obtain ⟨pool, hpool, hsound⟩ := ih
    obtain ⟨before, rest, rfl, hbefore, hrest⟩ := List.map_eq_append_iff.mp hpool
    obtain ⟨thread, after, rfl, hthread, hafter⟩ := List.map_eq_cons_iff.mp hrest
    obtain ⟨label, program, own⟩ := thread
    rw [Prod.mk.injEq] at hthread
    obtain ⟨rfl, rfl⟩ := hthread
    refine ⟨before ++ ⟨label, k r, own ∪ {i | D.fresh a r i}⟩ :: after, ?_, hsound.act hexec⟩
    rw [List.map_append, List.map_cons, hbefore, hafter]

/-- The result of a program that comes to its end with an action. -/
theorem result {others others' : List (L × Program A R ε α)} {s t : σ} {steps : List (RunStep L σ A R)}
    {l : L} {a : A} {k : R a → Program A R ε α} {r : R a} {v : α}
    (hrun : Run D.exec start admitted init (others ++ (l, .act a k) :: others') s steps) (hinit : D.Inv init)
    (hstart : ∀ l s, admitted l → D.Inv s → D.wp (G l) ∅ (start l) (Q l) s) (hexec : D.exec s a r t)
    (hend : k r = .pure v) : ∃ own, Q l v own t := by
  obtain ⟨pool, hpool, hsound⟩ := sound hrun hinit hstart
  obtain ⟨before, rest, rfl, -, hrest⟩ := List.map_eq_append_iff.mp hpool
  obtain ⟨thread, after, rfl, hthread, -⟩ := List.map_eq_cons_iff.mp hrest
  obtain ⟨label, program, own⟩ := thread
  rw [Prod.mk.injEq] at hthread
  obtain ⟨rfl, rfl⟩ := hthread
  have hready := hsound.ready _ (List.mem_append_right _ List.mem_cons_self)
  obtain ⟨-, hwp⟩ := hready.ready trivial s (Discipline.Rely.refl s) hsound.inv r t hexec
  rw [hend] at hwp
  exact ⟨_, hwp⟩

/-- What every action of a command is, every action of what is left of it is. -/
theorem within {exec : σ → (a : A) → R a → σ → Prop} {threads : List (L × Program A R ε α)} {s : σ}
    {steps : List (RunStep L σ A R)} (hrun : Run exec start admitted init threads s steps) {P : L → A → Prop}
    (hP : ∀ l, admitted l → (start l).Within (P l)) : ∀ thread ∈ threads, thread.2.Within (P thread.1) := by
  induction hrun with
  | nil => simp
  | spawn l hrun hadmitted ih =>
    intro thread hthread
    rcases List.mem_append.mp hthread with hold | hnew
    · exact ih thread hold
    · rw [List.mem_singleton] at hnew
      subst hnew
      exact hP l hadmitted
  | @act others others' s steps l a k r t hrun hexec ih =>
    have hself : Program.Within (P l) (.act a k) := ih (l, .act a k) (List.mem_append_right _ List.mem_cons_self)
    intro thread hthread
    rcases List.mem_append.mp hthread with hold | hnew
    · exact ih thread (List.mem_append_left _ hold)
    · rcases List.mem_cons.mp hnew with rfl | hold
      · exact hself.2 r
      · exact ih thread (List.mem_append_right _ (List.mem_cons_of_mem _ hold))

/-- The steps of a run are ordered: a step starts from a state that the earlier ones led to. -/
theorem steps_ordered {threads : List (L × Program A R ε α)} {s : σ} {steps : List (RunStep L σ A R)}
    (hrun : Run D.exec start admitted init threads s steps) (hinit : D.Inv init)
    (hstart : ∀ l s, admitted l → D.Inv s → D.wp (G l) ∅ (start l) (Q l) s) :
    steps.Pairwise (fun earlier later => D.le earlier.after later.before) := by
  induction hrun with
  | nil => exact List.Pairwise.nil
  | spawn l hrun hadmitted ih => exact ih
  | act hrun hexec ih =>
    rw [List.pairwise_append]
    refine ⟨ih, List.pairwise_singleton _ _, ?_⟩
    intro earlier hearlier later hlater
    rw [List.mem_singleton] at hlater
    subst hlater
    obtain ⟨pool, -, hsound⟩ := sound hrun hinit hstart
    exact hsound.grown earlier hearlier

end Run

/-! ## Running one program alone

With the replies chosen by a function, a program that runs alone comes to an end, and this is
one of the runs. -/

namespace Program

variable {σ A : Type} {R : A → Type} {ε α L : Type}

/-- The result of a program and the state it leaves, when `reply` answers its actions. -/
def eval (reply : σ → (a : A) → R a × σ) : Program A R ε α → σ → Except ε α × σ
  | .pure a, s => (.ok a, s)
  | .throw e, s => (.error e, s)
  | .act a k, s => (k (reply s a).1).eval reply (reply s a).2

/-- The steps of the program when it runs alone. -/
def evalSteps (reply : σ → (a : A) → R a × σ) (label : L) : Program A R ε α → σ → List (RunStep L σ A R)
  | .pure _, _ => []
  | .throw _, _ => []
  | .act a k, s =>
    ⟨label, s, a, (reply s a).1, (reply s a).2⟩ :: (k (reply s a).1).evalSteps reply label (reply s a).2

theorem run_eval {exec : σ → (a : A) → R a → σ → Prop} {start : L → Program A R ε α} {admitted : L → Prop}
    {init : σ} {reply : σ → (a : A) → R a × σ} (hreply : ∀ s a, exec s a (reply s a).1 (reply s a).2)
    {others : List (L × Program A R ε α)} {s : σ} {steps : List (RunStep L σ A R)} {l : L}
    {p : Program A R ε α} (hrun : Run exec start admitted init (others ++ [(l, p)]) s steps) :
    ∃ threads, Run exec start admitted init threads (p.eval reply s).2 (steps ++ p.evalSteps reply l s) := by
  induction p generalizing s steps with
  | pure a => exact ⟨_, by simpa [eval, evalSteps] using hrun⟩
  | throw e => exact ⟨_, by simpa [eval, evalSteps] using hrun⟩
  | act a k ih =>
    obtain ⟨threads, hthreads⟩ := ih (reply s a).1 (hrun.act (hreply s a))
    refine ⟨threads, ?_⟩
    rw [List.append_assoc] at hthreads
    exact hthreads

/-- The state after some commands, each run alone, and the steps that lead to it. -/
def evalAll (reply : σ → (a : A) → R a × σ) (start : L → Program A R ε α) : List L → σ → σ
  | [], s => s
  | l :: ls, s => evalAll reply start ls ((start l).eval reply s).2

def evalAllSteps (reply : σ → (a : A) → R a × σ) (start : L → Program A R ε α) :
    List L → σ → List (RunStep L σ A R)
  | [], _ => []
  | l :: ls, s => (start l).evalSteps reply l s ++ evalAllSteps reply start ls ((start l).eval reply s).2

theorem label_of_mem_evalSteps {reply : σ → (a : A) → R a × σ} {l : L} {p : Program A R ε α} {s : σ}
    {step : RunStep L σ A R} (h : step ∈ p.evalSteps reply l s) : step.label = l := by
  induction p generalizing s with
  | pure a => exact absurd h List.not_mem_nil
  | throw e => exact absurd h List.not_mem_nil
  | act a k ih =>
    rcases List.mem_cons.mp h with rfl | h
    · rfl
    · exact ih _ h

theorem label_of_mem_evalAllSteps {reply : σ → (a : A) → R a × σ} {start : L → Program A R ε α} {labels : List L}
    {s : σ} {step : RunStep L σ A R} (h : step ∈ evalAllSteps reply start labels s) : step.label ∈ labels := by
  induction labels generalizing s with
  | nil => exact absurd h List.not_mem_nil
  | cons l labels ih =>
    rcases List.mem_append.mp h with h | h
    · rw [label_of_mem_evalSteps h]
      exact List.mem_cons_self
    · exact List.mem_cons_of_mem _ (ih h)

theorem run_evalAll {exec : σ → (a : A) → R a → σ → Prop} {start : L → Program A R ε α} {admitted : L → Prop}
    {init : σ} {reply : σ → (a : A) → R a × σ} (hreply : ∀ s a, exec s a (reply s a).1 (reply s a).2)
    (labels : List L) (hlabels : ∀ l ∈ labels, admitted l) {threads : List (L × Program A R ε α)} {s : σ}
    {steps : List (RunStep L σ A R)} (hrun : Run exec start admitted init threads s steps) :
    ∃ threads, Run exec start admitted init threads (evalAll reply start labels s)
      (steps ++ evalAllSteps reply start labels s) := by
  induction labels generalizing threads s steps with
  | nil =>
    refine ⟨threads, ?_⟩
    rw [evalAllSteps, List.append_nil]
    exact hrun
  | cons l labels ih =>
    obtain ⟨threads', hrun'⟩ := run_eval hreply (hrun.spawn l (hlabels l List.mem_cons_self))
    rw [evalAllSteps, ← List.append_assoc]
    exact ih (fun l' hl' => hlabels l' (List.mem_cons_of_mem _ hl')) hrun'

/-- A program that runs alone comes to its last action. -/
theorem run_last {exec : σ → (a : A) → R a → σ → Prop} {start : L → Program A R ε α} {admitted : L → Prop}
    {init : σ} {reply : σ → (a : A) → R a × σ} (hreply : ∀ s a, exec s a (reply s a).1 (reply s a).2)
    {others : List (L × Program A R ε α)} {s : σ} {steps : List (RunStep L σ A R)} {l : L}
    {p : Program A R ε α} (hrun : Run exec start admitted init (others ++ [(l, p)]) s steps)
    (hrunning : p.Running) {v : α} (hend : (p.eval reply s).1 = .ok v) :
    ∃ s' steps' a k, Run exec start admitted init (others ++ [(l, .act a k)]) s' steps' ∧
      k (reply s' a).1 = .pure v ∧ (reply s' a).2 = (p.eval reply s).2 := by
  induction p generalizing s steps with
  | pure a => exact absurd hrunning id
  | throw e => exact absurd hrunning id
  | act a k ih =>
    have hnext := hrun.act (hreply s a)
    rw [eval] at hend ⊢
    cases hk : k (reply s a).1 with
    | pure b =>
      rw [hk, eval] at hend
      refine ⟨s, steps, a, k, hrun, ?_, rfl⟩
      rw [hk, Except.ok.inj hend]
    | throw e =>
      rw [hk, eval] at hend
      exact nomatch hend
    | act a' k' =>
      have hrest := ih (reply s a).1 hnext (by rw [hk]; trivial) hend
      rw [hk] at hrest
      exact hrest

/-! ### Schedules

Several programs that take turns: each number of a schedule lets one of them act. -/

/-- The programs, the state and the steps after one of the programs has acted. -/
def advance (reply : σ → (a : A) → R a × σ) (threads : List (L × Program A R ε α)) (s : σ)
    (i : Nat) : List (L × Program A R ε α) × σ × List (RunStep L σ A R) :=
  match threads[i]? with
  | some (l, .act a k) =>
    (threads.set i (l, k (reply s a).1), (reply s a).2, [⟨l, s, a, (reply s a).1, (reply s a).2⟩])
  | _ => (threads, s, [])

def schedule (reply : σ → (a : A) → R a × σ) :
    List (L × Program A R ε α) → σ → List Nat → List (L × Program A R ε α) × σ × List (RunStep L σ A R)
  | threads, s, [] => (threads, s, [])
  | threads, s, i :: turns =>
    let next := advance reply threads s i
    let rest := schedule reply next.1 next.2.1 turns
    (rest.1, rest.2.1, next.2.2 ++ rest.2.2)

theorem run_spawnAll {exec : σ → (a : A) → R a → σ → Prop} {start : L → Program A R ε α} {admitted : L → Prop}
    {init : σ} (labels : List L) (hlabels : ∀ l ∈ labels, admitted l) {threads : List (L × Program A R ε α)} {s : σ}
    {steps : List (RunStep L σ A R)} (hrun : Run exec start admitted init threads s steps) :
    Run exec start admitted init (threads ++ labels.map (fun l => (l, start l))) s steps := by
  induction labels generalizing threads with
  | nil =>
    rw [List.map_nil, List.append_nil]
    exact hrun
  | cons l labels ih =>
    rw [List.map_cons, List.append_cons]
    exact ih (fun l' hl' => hlabels l' (List.mem_cons_of_mem _ hl')) (hrun.spawn l (hlabels l List.mem_cons_self))

theorem run_advance {exec : σ → (a : A) → R a → σ → Prop} {start : L → Program A R ε α} {admitted : L → Prop}
    {init : σ} {reply : σ → (a : A) → R a × σ} (hreply : ∀ s a, exec s a (reply s a).1 (reply s a).2)
    {threads : List (L × Program A R ε α)} {s : σ} {steps : List (RunStep L σ A R)} (i : Nat)
    (hrun : Run exec start admitted init threads s steps) :
    Run exec start admitted init (advance reply threads s i).1 (advance reply threads s i).2.1
      (steps ++ (advance reply threads s i).2.2) := by
  unfold advance
  split
  · rename_i l a k hget
    obtain ⟨hi, hthread⟩ := List.getElem?_eq_some_iff.mp hget
    have hsplit : threads = threads.take i ++ (l, .act a k) :: threads.drop (i + 1) := by
      rw [← hthread, List.cons_getElem_drop_succ, List.take_append_drop]
    rw [List.set_eq_take_append_cons_drop, if_pos hi]
    rw [hsplit] at hrun
    exact hrun.act (hreply s a)
  · rw [List.append_nil]
    exact hrun

/-- Programs that take turns make a run. -/
theorem run_schedule {exec : σ → (a : A) → R a → σ → Prop} {start : L → Program A R ε α} {admitted : L → Prop}
    {init : σ} {reply : σ → (a : A) → R a × σ} (hreply : ∀ s a, exec s a (reply s a).1 (reply s a).2)
    {threads : List (L × Program A R ε α)} {s : σ} {steps : List (RunStep L σ A R)} (turns : List Nat)
    (hrun : Run exec start admitted init threads s steps) :
    Run exec start admitted init (schedule reply threads s turns).1 (schedule reply threads s turns).2.1
      (steps ++ (schedule reply threads s turns).2.2) := by
  induction turns generalizing threads s steps with
  | nil =>
    rw [schedule, List.append_nil]
    exact hrun
  | cons i turns ih =>
    have hrest := ih (run_advance hreply i hrun)
    rw [List.append_assoc] at hrest
    exact hrest

end Program
