import CfFrappe.Lib.SharedState

set_option autoImplicit false

/-! # What the operations of a run have done

A run lists the steps of all its programs in the order in which they happened. This module keeps the steps of every
program apart: an `Operation` is a command that was started, with the steps it has made so far and with what is left of
its program, and `Operations` are the runs that carry their operations along (every run does, `Run.operations`).

* `Program.Left p own q` says that `p` has made the steps `own`, with the replies that it got, and that `q` is left of
  it. It is what ties the steps of an operation to its program (`Operations.left`).
* A program that is made of parts has made the steps of its parts one after the other (`Left.bind_cases`), so what an
  operation knows at some step is found by going through its parts (`Left.skip`).
* A call inside an operation is a stretch of the operation's steps. What the precondition of the called program
  promises of its result holds of it at the last step of the stretch (`SharedState.wp_left`).
-/

namespace Program

variable {σ A : Type} {R : A → Type} {ε α β L : Type}

/-- What is left of a program when it has made some steps. -/
inductive Left : Program A R ε α → List (RunStep L σ A R) → Program A R ε α → Prop
  | nothing (p : Program A R ε α) : Left p [] p
  | step {l : L} {s t : σ} {a : A} {k : R a → Program A R ε α} {r : R a} {own : List (RunStep L σ A R)}
      {q : Program A R ε α} : Left (k r) own q → Left (.act a k) (⟨l, s, a, r, t⟩ :: own) q

namespace Left

variable {own : List (RunStep L σ A R)}

/-- One more step. -/
theorem append {p : Program A R ε α} {l : L} {s t : σ} {a : A} {k : R a → Program A R ε α} {r : R a}
    (h : Left p own (.act a k)) : Left p (own ++ [⟨l, s, a, r, t⟩]) (k r) := by
  generalize hq : Program.act a k = q at h
  induction h with
  | nothing p =>
    subst hq
    exact .step (.nothing _)
  | step _ ih => exact .step (ih hq)

/-- A program that has come to an end has made no step. -/
theorem of_pure {a : α} {q : Program A R ε α} (h : Left (.pure a) own q) : own = [] ∧ q = .pure a := by
  cases h
  exact ⟨rfl, rfl⟩

theorem of_throw {e : ε} {q : Program A R ε α} (h : Left (.throw e) own q) : own = [] ∧ q = .throw e := by
  cases h
  exact ⟨rfl, rfl⟩

theorem of_ofExcept {x : Except ε α} {q : Program A R ε α} (h : Left (ofExcept x) own q) :
    own = [] ∧ q = ofExcept x := by
  cases x with
  | error e => exact of_throw h
  | ok a => exact of_pure h

/-- What a program may do, what is left of it may do. -/
theorem within {P : A → Prop} {p q : Program A R ε α} (h : Left p own q) (hp : p.Within P) : q.Within P := by
  induction h with
  | nothing p => exact hp
  | step _ ih => exact ih (hp.2 _)

/-- **The parts of a program**: it is still in the first part, which goes on or has failed; or that has ended and it is
in the second one. -/
theorem bind_cases {p : Program A R ε α} {f : α → Program A R ε β} {q : Program A R ε β} (h : Left (p >>= f) own q) :
    (∃ a k, Left p own (.act a k) ∧ q = .act a (fun r => k r >>= f)) ∨ (∃ e, q = .throw e) ∨
      ∃ v first second, own = first ++ second ∧ Left p first (.pure v) ∧ Left (f v) second q := by
  change Left (p.bind f) own q at h
  induction p generalizing own with
  | pure v => exact Or.inr (Or.inr ⟨v, [], own, rfl, .nothing _, h⟩)
  | throw e => exact Or.inr (Or.inl ⟨e, (of_throw h).2⟩)
  | act a k ih =>
    cases h with
    | nothing => exact Or.inl ⟨a, k, .nothing _, rfl⟩
    | @step l s t _ _ r own _ h =>
      rcases ih r h with ⟨a', k', hleft, rfl⟩ | hfailed | ⟨v, first, second, rfl, hfirst, hsecond⟩
      · exact Or.inl ⟨a', k', .step hleft, rfl⟩
      · exact Or.inr (Or.inl hfailed)
      · exact Or.inr (Or.inr ⟨v, ⟨l, s, a, r, t⟩ :: first, second, rfl, .step hfirst, hsecond⟩)

/-- A program that has come to its end has come to the end of its parts. -/
theorem bind_pure {p : Program A R ε α} {f : α → Program A R ε β} {v : β} (h : Left (p >>= f) own (.pure v)) :
    ∃ a first second, own = first ++ second ∧ Left p first (.pure a) ∧ Left (f a) second (.pure v) := by
  rcases h.bind_cases with ⟨a, k, -, hend⟩ | ⟨e, hend⟩ | h
  · cases hend
  · cases hend
  · exact h

/-- The next action is asked for by one of the two parts. -/
theorem bind_act {p : Program A R ε α} {f : α → Program A R ε β} {a : A} {k : R a → Program A R ε β}
    (h : Left (p >>= f) own (.act a k)) :
    (∃ k', Left p own (.act a k') ∧ k = fun r => k' r >>= f) ∨
      ∃ v first second, own = first ++ second ∧ Left p first (.pure v) ∧ Left (f v) second (.act a k) := by
  rcases h.bind_cases with ⟨b, k', hleft, hnext⟩ | ⟨e, hend⟩ | h
  · obtain ⟨rfl, hk⟩ := Program.act.inj hnext
    exact Or.inl ⟨k', hleft, eq_of_heq hk⟩
  · cases hend
  · exact Or.inr h

theorem of_perform {a : A} {r : R a} (h : Left (.act a .pure : Program A R ε (R a)) own (.pure r)) :
    ∃ l s t, own = [⟨l, s, a, r, t⟩] := by
  cases h with
  | @step l s t _ _ r' own _ h =>
    obtain ⟨rfl, hsame⟩ := of_pure h
    cases hsame
    exact ⟨l, s, t, rfl⟩

/-- A part that never asks for the action that comes next is over. -/
theorem skip {P : A → Prop} {p : Program A R ε α} {f : α → Program A R ε β} {a : A} {k : R a → Program A R ε β}
    (h : Left (p >>= f) own (.act a k)) (hp : p.Within P) (ha : ¬P a) :
    ∃ v first second, own = first ++ second ∧ Left p first (.pure v) ∧ Left (f v) second (.act a k) := by
  rcases h.bind_act with ⟨k', hleft, -⟩ | h
  · exact absurd (hleft.within hp).1 ha
  · exact h

/-- A part that does not act is over at once. -/
theorem skip_ofExcept {x : Except ε α} {f : α → Program A R ε β} {a : A} {k : R a → Program A R ε β}
    (h : Left (ofExcept x >>= f) own (.act a k)) : ∃ v, x = .ok v ∧ Left (f v) own (.act a k) := by
  cases x with
  | error e => cases (of_throw h).2
  | ok v => exact ⟨v, rfl, h⟩

end Left

end Program

/-! ## Runs with their operations -/

/-- A command that was started: the steps that it has made, and what is left of its program. -/
structure Operation (L σ A : Type) (R : A → Type) (ε α : Type) where
  label : L
  own : List (RunStep L σ A R)
  left : Program A R ε α

/-- A run that keeps the steps of its programs apart. -/
inductive Operations {σ A : Type} {R : A → Type} {ε α L : Type} (exec : σ → (a : A) → R a → σ → Prop)
    (start : L → Program A R ε α) (admitted : L → Prop) (init : σ) :
    List (Operation L σ A R ε α) → σ → List (RunStep L σ A R) → Prop
  | nil : Operations exec start admitted init [] init []
  | spawn {operations s steps} (l : L) : Operations exec start admitted init operations s steps → admitted l →
      Operations exec start admitted init (operations ++ [⟨l, [], start l⟩]) s steps
  | act {others others' : List (Operation L σ A R ε α)} {s t : σ} {steps : List (RunStep L σ A R)} {l : L}
      {own : List (RunStep L σ A R)} {a : A} {k : R a → Program A R ε α} {r : R a} :
      Operations exec start admitted init (others ++ ⟨l, own, .act a k⟩ :: others') s steps → exec s a r t →
      Operations exec start admitted init (others ++ ⟨l, own ++ [⟨l, s, a, r, t⟩], k r⟩ :: others') t
        (steps ++ [⟨l, s, a, r, t⟩])

section

variable {σ A : Type} {R : A → Type} {ε α L : Type} {exec : σ → (a : A) → R a → σ → Prop}
variable {start : L → Program A R ε α} {admitted : L → Prop} {init s : σ} {steps : List (RunStep L σ A R)}

theorem Operations.run {operations : List (Operation L σ A R ε α)}
    (h : Operations exec start admitted init operations s steps) :
    Run exec start admitted init (operations.map (fun operation => (operation.label, operation.left))) s steps := by
  induction h with
  | nil => exact .nil
  | spawn l _ hadmitted ih =>
    rw [List.map_append]
    exact ih.spawn l hadmitted
  | act _ hexec ih =>
    rw [List.map_append, List.map_cons] at ih ⊢
    exact ih.act hexec

/-- **Every run has its operations.** -/
theorem Run.operations {threads : List (L × Program A R ε α)} (h : Run exec start admitted init threads s steps) :
    ∃ operations, operations.map (fun operation => (operation.label, operation.left)) = threads ∧
      Operations exec start admitted init operations s steps := by
  induction h with
  | nil => exact ⟨[], rfl, .nil⟩
  | spawn l _ hadmitted ih =>
    obtain ⟨operations, hsame, hoperations⟩ := ih
    refine ⟨operations ++ [⟨l, [], start l⟩], ?_, hoperations.spawn l hadmitted⟩
    rw [List.map_append, hsame]
    rfl
  | @act others others' s steps l a k r t _ hexec ih =>
    obtain ⟨operations, hsame, hoperations⟩ := ih
    obtain ⟨before, rest, rfl, hbefore, hrest⟩ := List.map_eq_append_iff.mp hsame
    obtain ⟨operation, after, rfl, hoperation, hafter⟩ := List.map_eq_cons_iff.mp hrest
    obtain ⟨label, own, left⟩ := operation
    obtain ⟨rfl, rfl⟩ := Prod.mk.inj hoperation
    refine ⟨before ++ ⟨label, own ++ [⟨label, s, a, r, t⟩], k r⟩ :: after, ?_, hoperations.act hexec⟩
    rw [List.map_append, List.map_cons, hbefore, hafter]

/-- An operation has made its steps, in their order, and is where they have led it. -/
theorem Operations.left {operations : List (Operation L σ A R ε α)}
    (h : Operations exec start admitted init operations s steps) : ∀ operation ∈ operations,
      Program.Left (start operation.label) operation.own operation.left ∧ operation.own.Sublist steps := by
  induction h with
  | nil =>
    intro operation hoperation
    exact absurd hoperation List.not_mem_nil
  | spawn l _ _ ih =>
    intro operation hoperation
    rcases List.mem_append.mp hoperation with hold | hnew
    · exact ih operation hold
    · rw [List.mem_singleton.mp hnew]
      exact ⟨.nothing _, List.nil_sublist _⟩
  | @act others others' s t steps l own a k r _ _ ih =>
    have hself := ih _ (List.mem_append_right _ List.mem_cons_self)
    intro operation hoperation
    have hmore : steps.Sublist (steps ++ [(⟨l, s, a, r, t⟩ : RunStep L σ A R)]) := List.sublist_append_left _ _
    rcases List.mem_append.mp hoperation with hbefore | hrest
    · obtain ⟨hleft, hsub⟩ := ih operation (List.mem_append_left _ hbefore)
      exact ⟨hleft, hsub.trans hmore⟩
    · rcases List.mem_cons.mp hrest with rfl | hafter
      · exact ⟨hself.1.append, hself.2.append (List.Sublist.refl _)⟩
      · obtain ⟨hleft, hsub⟩ := ih operation (List.mem_append_right _ (List.mem_cons_of_mem _ hafter))
        exact ⟨hleft, hsub.trans hmore⟩

/-- Every step of a run is one that the actions allow. -/
theorem Run.exec_of_mem {threads : List (L × Program A R ε α)} (h : Run exec start admitted init threads s steps) :
    ∀ step ∈ steps, exec step.before step.action step.reply step.after := by
  induction h with
  | nil =>
    intro step hstep
    exact absurd hstep List.not_mem_nil
  | spawn _ _ _ ih => exact ih
  | act _ hexec ih =>
    intro step hstep
    rcases List.mem_append.mp hstep with hold | hnew
    · exact ih step hold
    · rw [List.mem_singleton.mp hnew]
      exact hexec

end

/-! ## The result of a call -/

namespace SharedState

variable {σ A : Type} {R : A → Type} {ε α β L : Type} {S : SharedState σ A R}

/-- **What a program promises of its result** holds at its last step, when its steps come one after the other, with
those of others in between. -/
theorem wp_left {p : Program A R ε α} {call : List (RunStep L σ A R)} {v : α} {Q : α → σ → Prop}
    (hleft : Program.Left p call (.pure v))
    (hexec : ∀ step ∈ call, S.exec step.before step.action step.reply step.after ∧ S.Inv step.before)
    (hordered : call.Pairwise (fun earlier later => S.le earlier.after later.before)) {s : σ}
    (hlater : ∀ step ∈ call, S.le s step.before) (hwp : S.Wp p Q s) :
    Q v ((call.getLast?.map (·.after)).getD s) := by
  generalize hend : Program.pure v = q at hleft
  induction hleft generalizing s with
  | nothing p =>
    subst hend
    exact hwp
  | @step l s' t a k r call q hleft ih =>
    obtain ⟨hfirst, hrest⟩ := List.pairwise_cons.mp hordered
    obtain ⟨hexec', hinv⟩ := hexec _ List.mem_cons_self
    obtain ⟨-, hnext⟩ := hwp s' ⟨hlater _ List.mem_cons_self, fun i => i.elim⟩ hinv r t hexec'
    rw [Subsingleton.elim (∅ ∪ {i | S.discipline.fresh a r i}) ∅] at hnext
    have hresult := ih (fun step hstep => hexec step (List.mem_cons_of_mem _ hstep)) hrest hfirst hnext hend
    cases hlast : call.getLast? with
    | none =>
      rw [hlast] at hresult
      obtain rfl := List.getLast?_eq_none_iff.mp hlast
      exact hresult
    | some last =>
      rw [hlast] at hresult
      rw [List.getLast?_cons, hlast]
      exact hresult

/-- The result of a call that an operation has made: what its program promises, at the last step of the call. -/
theorem call_result {start : L → Program A R ε β} {admitted : L → Prop} {init s : σ}
    {operations : List (Operation L σ A R ε β)} {steps : List (RunStep L σ A R)} {Q : α → σ → Prop}
    {P : L → β → σ → Prop} (hrun : Operations S.exec start admitted init operations s steps) (hinit : S.Inv init)
    (hstart : ∀ l t, admitted l → S.Inv t → S.Wp (start l) (P l) t) {operation : Operation L σ A R ε β}
    (hoperation : operation ∈ operations) {front call rest : List (RunStep L σ A R)}
    (hown : operation.own = front ++ call ++ rest) {p : Program A R ε α} {v : α}
    (hleft : Program.Left p call (.pure v)) {last : RunStep L σ A R} (hlast : call.getLast? = some last)
    (hwp : ∀ t, S.Inv t → S.Wp p Q t) : Q v last.after := by
  have hfacts := (SharedState.run hrun.run hinit hstart).2
  have hsub : call.Sublist steps := by
    have hpart : call.Sublist operation.own := by
      rw [hown]
      exact (List.sublist_append_right front call).trans (List.sublist_append_left _ rest)
    exact hpart.trans (hrun.left operation hoperation).2
  have hexec : ∀ step ∈ call, S.exec step.before step.action step.reply step.after ∧ S.Inv step.before :=
    fun step hstep => ⟨hrun.run.exec_of_mem step (hsub.subset hstep), (hfacts step (hsub.subset hstep)).1⟩
  have hordered := Run.steps_ordered (D := S.discipline) (G := fun _ s a r _ => S.Good s a r)
    (Q := fun l a _ t => P l a t) hrun.run hinit hstart
  cases call with
  | nil => cases hlast
  | cons first call =>
    have hpairs := hordered.sublist hsub
    -- the call begins at its first step
    have hlater : ∀ step ∈ first :: call, S.le first.before step.before := by
      intro step hstep
      rcases List.mem_cons.mp hstep with rfl | hstep
      · exact S.le_refl _
      · exact S.le_trans (S.exec_le (hexec first List.mem_cons_self).1) (List.rel_of_pairwise_cons hpairs hstep)
    have hresult := wp_left hleft hexec hpairs hlater (hwp first.before (hexec first List.mem_cons_self).2)
    rw [hlast] at hresult
    exact hresult

end SharedState
