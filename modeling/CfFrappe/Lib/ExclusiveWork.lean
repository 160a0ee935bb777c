import Mathlib

set_option autoImplicit false

/-! # Work that one caller at a time may do

A piece of work is claimed, started, ended and then recorded as failed or as succeeded, by one
caller. After a failure it may be claimed again, after a success never. `WorkPhase.next` says which
event may come in which phase; a history is in order when every event of it may. In such a history
a start that follows another one comes after the end and the recorded failure of that one
(`phase_split_started`), and nothing follows a success (`phase_split_succeeded`).
-/

/-- What happens to a piece of work, and which caller does it. -/
inductive WorkEvent (ι : Type)
  | claimed (i : ι)
  | started (i : ι)
  | ended (i : ι)
  | failed (i : ι)
  | succeeded (i : ι)
  deriving DecidableEq

inductive WorkPhase (ι : Type)
  | free
  | claimed (i : ι)
  | running (i : ι)
  | ended (i : ι)
  | done
  deriving DecidableEq

namespace WorkPhase

variable {ι : Type} [DecidableEq ι]

/-- Who holds the work. -/
def holder : WorkPhase ι → Option ι
  | free | done => none
  | claimed i | running i | ended i => some i

/-- The phase after an event; `none` where the event may not come. -/
def next : WorkPhase ι → WorkEvent ι → Option (WorkPhase ι)
  | free, .claimed i => some (claimed i)
  | claimed i, .started j => if i = j then some (running i) else none
  | running i, .ended j => if i = j then some (ended i) else none
  | ended i, .failed j => if i = j then some free else none
  | ended i, .succeeded j => if i = j then some done else none
  | _, _ => none

/-- The phase after a history, if it is in order. -/
def after (phase : WorkPhase ι) (history : List (WorkEvent ι)) : Option (WorkPhase ι) := history.foldlM next phase

theorem after_append (phase : WorkPhase ι) (history history' : List (WorkEvent ι)) :
    phase.after (history ++ history') = (phase.after history).bind (·.after history') :=
  List.foldlM_append

theorem after_concat (phase : WorkPhase ι) (history : List (WorkEvent ι)) (e : WorkEvent ι) :
    phase.after (history ++ [e]) = (phase.after history).bind (·.next e) := by
  rw [after_append]
  congr
  funext q
  exact List.foldlM_cons.trans (bind_pure _)

/-- The phase at a split of a history that is in order. -/
theorem after_split {phase q : WorkPhase ι} {before rest : List (WorkEvent ι)} {e : WorkEvent ι}
    (h : phase.after (before ++ e :: rest) = some q) :
    ∃ p p', phase.after before = some p ∧ p.next e = some p' ∧ p'.after rest = some q := by
  rw [List.append_cons, after_append, after_concat] at h
  obtain ⟨p', hp', hrest⟩ := Option.bind_eq_some_iff.mp h
  obtain ⟨p, hp, hnext⟩ := Option.bind_eq_some_iff.mp hp'
  exact ⟨p, p', hp, hnext, hrest⟩

theorem next_started {phase q : WorkPhase ι} {i : ι} (h : phase.next (.started i) = some q) :
    phase = claimed i ∧ q = running i := by
  cases phase with
  | claimed j =>
    rw [next] at h
    split_ifs at h with hij
    subst hij
    exact ⟨rfl, (Option.some.inj h).symm⟩
  | _ => exact absurd h (by simp [next])

theorem next_succeeded {phase q : WorkPhase ι} {i : ι} (h : phase.next (.succeeded i) = some q) : q = done := by
  cases phase with
  | ended j =>
    rw [next] at h
    split_ifs at h
    exact (Option.some.inj h).symm
  | _ => exact absurd h (by simp [next])

/-- Nothing happens to work that has succeeded. -/
theorem after_done {history : List (WorkEvent ι)} {q : WorkPhase ι} (h : done.after history = some q) :
    history = [] := by
  cases history with
  | nil => rfl
  | cons e history =>
    obtain ⟨p, p', hp, hnext, -⟩ := @after_split _ _ _ _ [] _ _ h
    rw [← Option.some.inj hp] at hnext
    exact absurd hnext (by simp [next])

/-- From a start on, the one who started still runs or has ended, the work is done, or its
failure has been recorded. -/
theorem after_running {history : List (WorkEvent ι)} {i : ι} {q : WorkPhase ι}
    (h : (running i).after history = some q) :
    q = running i ∨ (q = ended i ∧ .ended i ∈ history) ∨ q = done ∨ [.ended i, .failed i].Sublist history := by
  -- by induction from the end: the last event decides the phase
  induction history using List.reverseRecOn generalizing q with
  | nil => exact .inl (Option.some.inj h).symm
  | append_singleton history e ih =>
    rw [after_concat] at h
    obtain ⟨p, hp, hnext⟩ := Option.bind_eq_some_iff.mp h
    rcases ih hp with rfl | ⟨rfl, hended⟩ | rfl | hfailed
    · -- the only event of a running handler is its end
      cases e with
      | ended j =>
        rw [next] at hnext
        split_ifs at hnext with hij
        subst hij
        exact .inr (.inl ⟨(Option.some.inj hnext).symm, List.mem_append_right _ List.mem_cons_self⟩)
      | _ => exact absurd hnext (by simp [next])
    · cases e with
      | failed j =>
        rw [next] at hnext
        split_ifs at hnext with hij
        subst hij
        exact .inr (.inr (.inr ((List.singleton_sublist.mpr hended).append (List.Sublist.refl _))))
      | succeeded j => exact .inr (.inr (.inl (next_succeeded hnext)))
      | _ => exact absurd hnext (by simp [next])
    · exact absurd hnext (by simp [next])
    · exact .inr (.inr (.inr (hfailed.trans (List.sublist_append_left _ _))))

/-- **No overlap**: between two starts the first one ends and its failure is recorded. -/
theorem phase_split_started {phase q : WorkPhase ι} {before middle rest : List (WorkEvent ι)} {i j : ι}
    (h : phase.after (before ++ .started i :: middle ++ .started j :: rest) = some q) :
    [.ended i, .failed i].Sublist middle := by
  rw [List.append_assoc, List.cons_append] at h
  obtain ⟨p, p', -, hstart, hrest⟩ := after_split h
  obtain ⟨-, rfl⟩ := next_started hstart
  obtain ⟨r, r', hmiddle, hagain, -⟩ := after_split hrest
  obtain ⟨rfl, -⟩ := next_started hagain
  rcases after_running hmiddle with h | ⟨h, -⟩ | h | h
  · cases h
  · cases h
  · cases h
  · exact h

/-- **No repeat**: nothing follows a recorded success. -/
theorem phase_split_succeeded {phase q : WorkPhase ι} {before rest : List (WorkEvent ι)} {i : ι}
    (h : phase.after (before ++ .succeeded i :: rest) = some q) : rest = [] := by
  obtain ⟨p, p', -, hsucceeded, hrest⟩ := after_split h
  rw [next_succeeded hsucceeded] at hrest
  exact after_done hrest

end WorkPhase
