import CfFrappe.Lib.Program

set_option autoImplicit false

/-! # Event logs with optimistic appends

A store of append-only logs that interleaved programs share. A log numbers its events from 1 on
(`Numbered`); a program reads a log whenever it likes and may append to it, and an append is
written only at the version it expects. Everything else that programs do happens in the
`Surroundings`, which may hand out tokens: an event that uses a token is written by nobody but
the owner of the token.

The one rule that matters is `wp_append`: an append that is saved at the version of an earlier
read found the log as it was read (`Later.log_eq`), so what was decided on the read still holds.
-/

/-- An event with the sequence that its log gave it. -/
structure Recorded (N : Type) where
  sequence : Nat
  event : N
  deriving DecidableEq

/-- Consecutive sequences after the expected version. -/
def recorded {N : Type} : Nat → List N → List (Recorded N)
  | _, [] => []
  | version, event :: events => ⟨version + 1, event⟩ :: recorded (version + 1) events

/-- The sequences of the log count up from `version + 1`. -/
def Numbered {N : Type} : Nat → List (Recorded N) → Prop
  | _, [] => True
  | version, e :: log => e.sequence = version + 1 ∧ Numbered (version + 1) log

section Numbered

variable {N : Type}

@[simp] theorem recorded_length (version : Nat) (events : List N) :
    (recorded version events).length = events.length := by
  induction events generalizing version with
  | nil => rfl
  | cons event events ih => rw [recorded, List.length_cons, ih, List.length_cons]

@[simp] theorem recorded_map_event (version : Nat) (events : List N) :
    (recorded version events).map Recorded.event = events := by
  induction events generalizing version with
  | nil => rfl
  | cons event events ih => rw [recorded, List.map_cons, ih]

theorem mem_recorded {version : Nat} {events : List N} {e : Recorded N} (h : e ∈ recorded version events) :
    e.event ∈ events := by
  rw [← recorded_map_event version events]
  exact List.mem_map_of_mem h

theorem recorded_append (version : Nat) (events events' : List N) :
    recorded version (events ++ events') = recorded version events ++ recorded (version + events.length) events' := by
  induction events generalizing version with
  | nil => simp [recorded]
  | cons event events ih =>
    rw [List.cons_append, recorded, recorded, ih, List.cons_append, List.length_cons]
    congr 3
    omega

theorem numbered_recorded (version : Nat) (events : List N) : Numbered version (recorded version events) := by
  induction events generalizing version with
  | nil => trivial
  | cons event events ih => exact ⟨rfl, ih (version + 1)⟩

theorem Numbered.append {version : Nat} {log log' : List (Recorded N)} (h : Numbered version log)
    (h' : Numbered (version + log.length) log') : Numbered version (log ++ log') := by
  induction log generalizing version with
  | nil => simpa using h'
  | cons e log ih =>
    refine ⟨h.1, ih h.2 ?_⟩
    have hversion : version + (e :: log).length = version + 1 + log.length := by
      rw [List.length_cons]
      omega
    rwa [hversion] at h'

theorem Numbered.lt_of_mem {version : Nat} {log : List (Recorded N)} (h : Numbered version log) {e : Recorded N}
    (he : e ∈ log) : version < e.sequence := by
  induction log generalizing version with
  | nil => exact absurd he List.not_mem_nil
  | cons a log ih =>
    rcases List.mem_cons.mp he with rfl | he
    · rw [h.1]
      omega
    · have := ih h.2 he
      omega

theorem Numbered.le_of_mem {version : Nat} {log : List (Recorded N)} (h : Numbered version log) {e : Recorded N}
    (he : e ∈ log) : e.sequence ≤ version + log.length := by
  induction log generalizing version with
  | nil => exact absurd he List.not_mem_nil
  | cons a log ih =>
    rw [List.length_cons]
    rcases List.mem_cons.mp he with rfl | he
    · rw [h.1]
      omega
    · have := ih h.2 he
      omega

/-- The events up to a sequence are the beginning of the log. -/
theorem Numbered.split {version : Nat} {log log' : List (Recorded N)} (h : Numbered version (log ++ log')) :
    Numbered version log ∧ Numbered (version + log.length) log' := by
  induction log generalizing version with
  | nil => exact ⟨trivial, by simpa using h⟩
  | cons e log ih =>
    obtain ⟨hleft, hright⟩ := ih h.2
    refine ⟨⟨h.1, hleft⟩, ?_⟩
    have hversion : version + (e :: log).length = version + 1 + log.length := by
      rw [List.length_cons]
      omega
    rwa [hversion]

/-- `[...events].sort((left, right) => left.sequence - right.sequence)`. -/
def sortRecorded (events : List (Recorded N)) : List (Recorded N) :=
  events.insertionSort (fun left right => left.sequence ≤ right.sequence)

theorem Numbered.sorted {version : Nat} {log : List (Recorded N)} (h : Numbered version log) :
    sortRecorded log = log := by
  apply List.Pairwise.insertionSort_eq
  induction log generalizing version with
  | nil => exact List.Pairwise.nil
  | cons e log ih =>
    refine List.Pairwise.cons ?_ (ih h.2)
    intro later hlater
    have hlt := h.2.lt_of_mem hlater
    rw [h.1]
    omega

/-- A test that holds of the sequences up to a point only keeps the beginning of the log. -/
theorem Numbered.filter_le {log log' : List (Recorded N)} (h : Numbered 0 (log ++ log')) :
    (log ++ log').filter (fun e => decide (e.sequence ≤ log.length)) = log := by
  obtain ⟨hleft, hright⟩ := h.split
  rw [List.filter_append]
  have hkeep : log.filter (fun e => decide (e.sequence ≤ log.length)) = log := by
    apply List.filter_eq_self.mpr
    intro e he
    have := hleft.le_of_mem he
    simpa using this
  have hdrop : log'.filter (fun e => decide (e.sequence ≤ log.length)) = [] := by
    apply List.filter_eq_nil_iff.mpr
    intro e he
    have := hright.lt_of_mem he
    simpa using this
  rw [hkeep, hdrop, List.append_nil]

theorem Numbered.filter_gt {log log' : List (Recorded N)} (h : Numbered 0 (log ++ log')) :
    (log ++ log').filter (fun e => decide (log.length < e.sequence)) = log' := by
  obtain ⟨hleft, hright⟩ := h.split
  rw [List.filter_append]
  have hdrop : log.filter (fun e => decide (log.length < e.sequence)) = [] := by
    apply List.filter_eq_nil_iff.mpr
    intro e he
    have := hleft.le_of_mem he
    simpa using this
  have hkeep : log'.filter (fun e => decide (log.length < e.sequence)) = log' := by
    apply List.filter_eq_self.mpr
    intro e he
    have := hright.lt_of_mem he
    simpa using this
  rw [hkeep, hdrop, List.nil_append]

end Numbered

/-! ## Actions -/

/-- What a program does with the logs, and what it does in the surroundings. -/
inductive LogAction (K N X : Type)
  | read (key : K)
  | append (key : K) (version : Nat) (events : List N)
  | other (x : X)

/-- The saved events, or the error of an append that wrote nothing. -/
def LogAction.Reply {K N X : Type} (ε : Type) (RX : X → Type) : LogAction K N X → Type
  | .read _ => List (Recorded N)
  | .append _ _ _ => Except ε (List (Recorded N))
  | .other x => RX x

/-- A program that acts on logs and on what surrounds them. -/
abbrev LogProgram (K N X ε : Type) (RX : X → Type) (α : Type) :=
  Program (LogAction K N X) (LogAction.Reply ε RX) ε α

namespace LogProgram

variable {K N X ε : Type} {RX : X → Type}

def read (key : K) : LogProgram K N X ε RX (List (Recorded N)) := .act (.read key) .pure

def append (key : K) (version : Nat) (events : List N) : LogProgram K N X ε RX (Except ε (List (Recorded N))) :=
  .act (.append key version events) .pure

def other (x : X) : LogProgram K N X ε RX (RX x) := .act (.other x) .pure

end LogProgram

/-- The logs and the state of what surrounds them. -/
structure LogState (K N W : Type) where
  logs : K → List (Recorded N)
  world : W

/-- What surrounds the logs: further actions, on a state of their own, that may hand out tokens. -/
structure Surroundings (X : Type) (RX : X → Type) (W ι : Type) where
  exec : W → (x : X) → RX x → W → Prop
  le : W → W → Prop
  le_refl : ∀ w, le w w
  le_trans : ∀ {w v u}, le w v → le v u → le w u
  exec_le : ∀ {w x r v}, exec w x r v → le w v
  issued : W → ι → Prop
  fresh : (x : X) → RX x → ι → Prop
  issued_le : ∀ {w v i}, le w v → issued w i → issued v i
  fresh_new : ∀ {w x r v i}, exec w x r v → fresh x r i → ¬ issued w i ∧ issued v i
  /-- what others leave alone of the surroundings for the owner of a token -/
  keeps : ι → W → W → Prop := fun _ _ _ => True
  keeps_refl : ∀ i w, keeps i w w := by intros; trivial
  keeps_trans : ∀ {i w v u}, keeps i w v → keeps i v u → keeps i w u := by intros; trivial

namespace LogState

variable {K N X W ι ε α : Type} {RX : X → Type} {S : Surroundings X RX W ι}

/-- A later state: logs have grown. -/
structure Later (S : Surroundings X RX W ι) (s t : LogState K N W) : Prop where
  logs : ∀ key, s.logs key <+: t.logs key
  world : S.le s.world t.world

theorem Later.refl (s : LogState K N W) : s.Later S s := ⟨fun _ => List.prefix_rfl, S.le_refl _⟩

theorem Later.trans {s t u : LogState K N W} (h : s.Later S t) (h' : t.Later S u) : s.Later S u :=
  ⟨fun key => (h.logs key).trans (h'.logs key), S.le_trans h.world h'.world⟩

/-- **Optimistic reading**: a log that is as long later as it was before has not changed. -/
theorem Later.log_eq {s t : LogState K N W} (h : s.Later S t) {key : K}
    (hlength : (t.logs key).length = (s.logs key).length) : t.logs key = s.logs key :=
  ((h.logs key).eq_of_length hlength.symm).symm

variable [DecidableEq K]

/-- The state after an append. -/
def push (s : LogState K N W) (key : K) (events : List N) : LogState K N W :=
  { s with
    logs := fun k => if k = key then s.logs k ++ recorded (s.logs k).length events else s.logs k }

theorem push_logs (s : LogState K N W) (key k : K) (events : List N) :
    (s.push key events).logs k = if k = key then s.logs k ++ recorded (s.logs k).length events else s.logs k := rfl

@[simp] theorem push_logs_self (s : LogState K N W) (key : K) (events : List N) :
    (s.push key events).logs key = s.logs key ++ recorded (s.logs key).length events := by
  rw [push_logs, if_pos rfl]

theorem push_logs_of_ne (s : LogState K N W) {key k : K} (events : List N) (h : k ≠ key) :
    (s.push key events).logs k = s.logs k := by
  rw [push_logs, if_neg h]

/-- How an action changes the state: an append is saved at the expected version, or nothing is
written. -/
def exec (S : Surroundings X RX W ι) (s : LogState K N W) :
    (action : LogAction K N X) → action.Reply ε RX → LogState K N W → Prop
  | .read key, log, t => log = s.logs key ∧ t = s
  | .append key version events, reply, t =>
    (∃ error, reply = .error error ∧ t = s) ∨
      (s.logs key).length = version ∧ reply = .ok (recorded version events) ∧ t = s.push key events
  | .other x, r, t => t.logs = s.logs ∧ S.exec s.world x r t.world

theorem Later.push (s : LogState K N W) (key : K) (events : List N) : s.Later S (s.push key events) := by
  refine ⟨fun k => ?_, S.le_refl _⟩
  rw [push_logs]
  split_ifs
  · exact List.prefix_append _ _
  · exact List.prefix_rfl

theorem exec_later {s t : LogState K N W} {action : LogAction K N X} {reply : action.Reply ε RX}
    (h : s.exec S action reply t) : s.Later S t := by
  cases action with
  | read key =>
    obtain ⟨-, rfl⟩ := h
    exact Later.refl _
  | append key version events =>
    rcases h with ⟨error, -, rfl⟩ | ⟨-, -, rfl⟩
    · exact Later.refl _
    · exact Later.push _ _ _
  | other x =>
    obtain ⟨hlogs, hworld⟩ := h
    exact ⟨fun key => hlogs ▸ List.prefix_rfl, S.exec_le hworld⟩

/-! ## The discipline -/

/-- Programs on logs keep the numbering and an invariant of the whole state; an event that uses a
token is written by its owner only. -/
def discipline (ε : Type) (S : Surroundings X RX W ι) (uses : N → ι → Prop) (J : LogState K N W → Prop) :
    Discipline (LogState K N W) (LogAction K N X) (LogAction.Reply ε RX) ι where
  exec := exec S
  le := Later S
  le_refl := Later.refl
  le_trans := Later.trans
  Inv s := (∀ key, Numbered 0 (s.logs key)) ∧ J s
  issued s i := S.issued s.world i
  fresh
    | .other x, r, i => S.fresh x r i
    | _, _, _ => False
  keeps i s t := (∀ key, ∀ e ∈ t.logs key, uses e.event i → e ∈ s.logs key) ∧ S.keeps i s.world t.world
  keeps_refl i s := ⟨fun _ _ he _ => he, S.keeps_refl i s.world⟩
  keeps_trans h h' := ⟨fun key e he huses => h.1 key e (h'.1 key e he huses) huses, S.keeps_trans h.2 h'.2⟩
  issued_le h := S.issued_le h.world
  fresh_new := by
    intro s a r t i hexec hfresh
    cases a with
    | read key => exact absurd hfresh id
    | append key version events => exact absurd hfresh id
    | other x => exact S.fresh_new hexec.2 hfresh

/-- What the actions of a program are to meet: something for every append that is saved, and
something for every other action. -/
def guarantee (C : LogState K N W → K → List N → Prop) (O : LogState K N W → (x : X) → RX x → Prop) :
    LogState K N W → (action : LogAction K N X) → action.Reply ε RX → LogState K N W → Prop
  | _, .read _, _, _ => True
  | s, .append key _ events, reply, _ => (∃ saved, reply = .ok saved) → C s key events
  | s, .other x, r, _ => O s x r

theorem numbered_push {s : LogState K N W} (h : ∀ key, Numbered 0 (s.logs key)) (key : K) (events : List N)
    (k : K) : Numbered 0 ((s.push key events).logs k) := by
  rw [push_logs]
  split_ifs
  · apply (h k).append
    rw [Nat.zero_add]
    exact numbered_recorded _ _
  · exact h k

section Rules

variable {uses : N → ι → Prop} {J : LogState K N W → Prop} {own : Set ι}
variable {C : LogState K N W → K → List N → Prop} {O : LogState K N W → (x : X) → RX x → Prop}

theorem wp_read {key : K} {s : LogState K N W} {Q : List (Recorded N) → Set ι → LogState K N W → Prop}
    (h : ∀ s', (discipline ε S uses J).Rely own s s' → (discipline ε S uses J).Inv s' → Q (s'.logs key) own s') :
    (discipline ε S uses J).wp (guarantee C O) own (LogProgram.read key) Q s := by
  intro s' hrely hinv log t hexec
  obtain ⟨rfl, rfl⟩ := hexec
  have hown : own ∪ {i | (discipline ε S uses J).fresh (.read key) (t.logs key) i} = own := by
    ext i
    exact ⟨fun hi => hi.elim id (fun hfresh => absurd hfresh id), Or.inl⟩
  rw [hown]
  exact ⟨⟨Later.refl _, hinv, trivial, fun i _ _ => (discipline ε S uses J).keeps_refl i _⟩, h _ hrely hinv⟩

/-- **An append that is saved is saved at its version.** -/
theorem wp_append {key : K} {version : Nat} {events : List N} {s : LogState K N W}
    {Q : Except ε (List (Recorded N)) → Set ι → LogState K N W → Prop}
    (herror : ∀ s' error, (discipline ε S uses J).Rely own s s' → (discipline ε S uses J).Inv s' →
      Q (.error error) own s')
    (hsaved : ∀ s', (discipline ε S uses J).Rely own s s' → (discipline ε S uses J).Inv s' →
      (s'.logs key).length = version →
      J (s'.push key events) ∧ C s' key events ∧
        (∀ event ∈ events, ∀ i, uses event i → S.issued s'.world i → i ∈ own) ∧
        Q (.ok (recorded version events)) own (s'.push key events)) :
    (discipline ε S uses J).wp (guarantee C O) own (LogProgram.append key version events) Q s := by
  intro s' hrely hinv reply t hexec
  have hown : own ∪ {i | (discipline ε S uses J).fresh (.append key version events) reply i} = own := by
    ext i
    exact ⟨fun hi => hi.elim id (fun hfresh => absurd hfresh id), Or.inl⟩
  rw [hown]
  rcases hexec with ⟨error, rfl, rfl⟩ | ⟨hversion, rfl, rfl⟩
  · refine ⟨⟨Later.refl _, hinv, ?_, fun i _ _ => (discipline ε S uses J).keeps_refl i _⟩,
      herror _ error hrely hinv⟩
    rintro ⟨saved, hsaved⟩
    exact nomatch hsaved
  · obtain ⟨hJ, hC, hframe, hQ⟩ := hsaved s' hrely hinv hversion
    refine ⟨⟨Later.push _ _ _, ⟨numbered_push hinv.1 key events, hJ⟩, fun _ => hC, ?_⟩, hQ⟩
    -- an event of the append that uses a token of somebody else would have to be ours
    intro i hissued hnot
    refine ⟨?_, S.keeps_refl i _⟩
    intro k e he huses
    rw [push_logs] at he
    split_ifs at he with hk
    · rcases List.mem_append.mp he with hold | hnew
      · exact hold
      · exact absurd (hframe e.event (mem_recorded hnew) i huses hissued) hnot
    · exact he

theorem wp_other {x : X} {s : LogState K N W} {Q : RX x → Set ι → LogState K N W → Prop}
    (h : ∀ s', (discipline ε S uses J).Rely own s s' → (discipline ε S uses J).Inv s' →
      ∀ r t, t.logs = s'.logs → S.exec s'.world x r t.world →
        J t ∧ O s' x r ∧ (∀ i, S.issued s'.world i → i ∉ own → S.keeps i s'.world t.world) ∧
          Q r (own ∪ {i | S.fresh x r i}) t) :
    (discipline ε S uses J).wp (guarantee C O) own (LogProgram.other x) Q s := by
  intro s' hrely hinv r t hexec
  obtain ⟨hlogs, hworld⟩ := hexec
  obtain ⟨hJ, hO, hframe, hQ⟩ := h s' hrely hinv r t hlogs hworld
  have hinv' : (discipline ε S uses J).Inv t := by
    refine ⟨?_, hJ⟩
    intro key
    rw [hlogs]
    exact hinv.1 key
  refine ⟨⟨⟨fun key => hlogs ▸ List.prefix_rfl, S.exec_le hworld⟩, hinv', hO, ?_⟩, hQ⟩
  intro i hissued hnot
  refine ⟨?_, hframe i hissued hnot⟩
  intro key e he _
  rwa [hlogs] at he

end Rules

/-! ## What the steps of a run commit -/

/-- The append that a step saved. -/
def committed {L : Type} (step : RunStep L (LogState K N W) (LogAction K N X) (LogAction.Reply ε RX)) :
    Option (K × List N) :=
  match step.action, step.reply with
  | .append key _ events, (.ok _ : Except ε (List (Recorded N))) => some (key, events)
  | _, _ => none

/-- Only a committed append changes the logs. -/
theorem logs_of_committed {L : Type} {l : L} {s t : LogState K N W} {action : LogAction K N X}
    {reply : action.Reply ε RX} (h : s.exec S action reply t) :
    (∃ key events, committed ⟨l, s, action, reply, t⟩ = some (key, events) ∧ t = s.push key events) ∨
      (committed ⟨l, s, action, reply, t⟩ = none ∧ t.logs = s.logs) := by
  cases action with
  | read key => exact Or.inr ⟨rfl, by rw [h.2]⟩
  | append key version events =>
    rcases h with ⟨error, rfl, rfl⟩ | ⟨-, rfl, rfl⟩
    · exact Or.inr ⟨rfl, rfl⟩
    · exact Or.inl ⟨key, events, rfl, rfl⟩
  | other x => exact Or.inr ⟨rfl, h.1⟩

omit [DecidableEq K] in
/-- What a program guarantees of its appends, it guarantees of what it commits. -/
theorem guarantee_committed {L : Type} {C : LogState K N W → K → List N → Prop}
    {O : LogState K N W → (x : X) → RX x → Prop}
    {step : RunStep L (LogState K N W) (LogAction K N X) (LogAction.Reply ε RX)}
    (h : guarantee C O step.before step.action step.reply step.after) {key : K} {events : List N}
    (hcommitted : committed step = some (key, events)) : C step.before key events := by
  obtain ⟨l, s, action, reply, t⟩ := step
  cases action with
  | read key => exact nomatch hcommitted
  | append key' version events' =>
    cases reply with
    | error e => exact nomatch hcommitted
    | ok saved =>
      obtain ⟨rfl, rfl⟩ := Prod.mk.inj (Option.some.inj hcommitted)
      exact h ⟨saved, rfl⟩
  | other x => exact nomatch hcommitted

/-! ## A store that answers -/

/-- What the store and the surroundings answer when the surroundings answer by a function. -/
def reply (conflict : ε) (answer : W → (x : X) → RX x × W) (s : LogState K N W) :
    (action : LogAction K N X) → action.Reply ε RX × LogState K N W
  | .read key => (s.logs key, s)
  | .append key version events =>
    if (s.logs key).length = version then (.ok (recorded version events), s.push key events)
    else (.error conflict, s)
  | .other x => ((answer s.world x).1, { s with world := (answer s.world x).2 })

theorem exec_reply {conflict : ε} {answer : W → (x : X) → RX x × W}
    (hanswer : ∀ w x, S.exec w x (answer w x).1 (answer w x).2) (s : LogState K N W) (action : LogAction K N X) :
    s.exec S action (s.reply conflict answer action).1 (s.reply conflict answer action).2 := by
  cases action with
  | read key => exact ⟨rfl, rfl⟩
  | append key version events =>
    rw [reply]
    split_ifs with hversion
    · exact Or.inr ⟨hversion, rfl, rfl⟩
    · exact Or.inl ⟨conflict, rfl, rfl⟩
  | other x => exact ⟨rfl, hanswer s.world x⟩

end LogState
