import CfFrappe.Lib.EventLog
import CfFrappe.Lib.SharedState

set_option autoImplicit false

/-! # Event logs written in batches

A store of numbered logs that interleaved programs share. A program asks for the version of a log, reads
it, and writes batches: events for several logs, each at the version it expects, all of them or none.
What else programs do (`other`) looks at the logs at most.

A batch that is written at the versions of earlier reads found these logs as they were read
(`EventLogs.Later.log_eq`); the logs that it does not write may have grown.
-/

/-- The logs of a store. -/
abbrev EventLogs (K N : Type) := K → List (Recorded N)

/-- Events for one log, to be written at a version. -/
structure LogWrite (K N : Type) where
  stream : K
  expectedVersion : Nat
  events : List N

/-- What the store saves of a write. -/
def LogWrite.saved {K N : Type} (write : LogWrite K N) : List (K × Recorded N) :=
  (recorded write.expectedVersion write.events).map (fun event => (write.stream, event))

inductive BatchAction (K N X : Type)
  | currentVersion (stream : K)
  | readStream (stream : K)
  | appendBatch (writes : List (LogWrite K N))
  | other (x : X)

def BatchAction.Reply {K N X : Type} (ε : Type) (RX : X → Type) : BatchAction K N X → Type
  | .currentVersion _ => Nat
  | .readStream _ => List (Recorded N)
  | .appendBatch _ => Except ε (List (K × Recorded N))
  | .other x => RX x

abbrev BatchProgram (K N X ε : Type) (RX : X → Type) (α : Type) :=
  Program (BatchAction K N X) (BatchAction.Reply ε RX) ε α

namespace BatchProgram

variable {K N X ε : Type} {RX : X → Type}

def currentVersion (stream : K) : BatchProgram K N X ε RX Nat := .act (.currentVersion stream) .pure

def readStream (stream : K) : BatchProgram K N X ε RX (List (Recorded N)) := .act (.readStream stream) .pure

def appendBatch (writes : List (LogWrite K N)) : BatchProgram K N X ε RX (Except ε (List (K × Recorded N))) :=
  .act (.appendBatch writes) .pure

def other (x : X) : BatchProgram K N X ε RX (RX x) := .act (.other x) .pure

end BatchProgram

namespace EventLogs

variable {K N X ε α : Type} {RX : X → Type} [DecidableEq K]

/-- The logs after one write. -/
def push (logs : EventLogs K N) (write : LogWrite K N) : EventLogs K N :=
  fun k => if k = write.stream then logs k ++ recorded (logs k).length write.events else logs k

/-- The logs after a batch. -/
def pushAll (logs : EventLogs K N) (writes : List (LogWrite K N)) : EventLogs K N := writes.foldl push logs

/-- Every log of the batch is at the version that its write expects. -/
def Accepts (logs : EventLogs K N) (writes : List (LogWrite K N)) : Prop :=
  ∀ write ∈ writes, (logs write.stream).length = write.expectedVersion

instance (logs : EventLogs K N) (writes : List (LogWrite K N)) : Decidable (logs.Accepts writes) :=
  inferInstanceAs (Decidable (∀ write ∈ writes, _))

theorem push_self (logs : EventLogs K N) (write : LogWrite K N) :
    logs.push write write.stream =
      logs write.stream ++ recorded (logs write.stream).length write.events := if_pos rfl

theorem push_of_ne {logs : EventLogs K N} {write : LogWrite K N} {k : K} (h : k ≠ write.stream) :
    logs.push write k = logs k := if_neg h

/-- A log that a batch does not write stays as it is. -/
theorem pushAll_of_notMem {logs : EventLogs K N} {writes : List (LogWrite K N)} {k : K}
    (h : ∀ write ∈ writes, k ≠ write.stream) : logs.pushAll writes k = logs k := by
  induction writes generalizing logs with
  | nil => rfl
  | cons write writes ih =>
    have hrest : (logs.push write).pushAll writes k = logs.push write k :=
      ih (fun other hother => h other (List.mem_cons_of_mem _ hother))
    exact hrest.trans (push_of_ne (h write List.mem_cons_self))

/-- A log that a batch writes once grows by these events. -/
theorem pushAll_of_mem {logs : EventLogs K N} {writes : List (LogWrite K N)} {write : LogWrite K N}
    (hmem : write ∈ writes) (hnodup : (writes.map LogWrite.stream).Nodup) :
    logs.pushAll writes write.stream = logs write.stream ++ recorded (logs write.stream).length write.events := by
  induction writes generalizing logs with
  | nil => cases hmem
  | cons first writes ih =>
    rw [List.map_cons, List.nodup_cons] at hnodup
    rcases List.mem_cons.mp hmem with rfl | hmem'
    · have hrest : (logs.push write).pushAll writes write.stream = logs.push write write.stream := by
        apply pushAll_of_notMem
        intro other hother heq
        exact hnodup.1 (heq ▸ List.mem_map_of_mem hother)
      exact hrest.trans (push_self logs write)
    · have hne : write.stream ≠ first.stream := by
        intro heq
        exact hnodup.1 (heq ▸ List.mem_map_of_mem hmem')
      have hrest : (logs.push first).pushAll writes write.stream =
          logs.push first write.stream ++ recorded (logs.push first write.stream).length write.events :=
        ih hmem' hnodup.2
      rw [push_of_ne hne] at hrest
      exact hrest

/-! ## Growth -/

/-- Logs grow. -/
def Later (logs logs' : EventLogs K N) : Prop := ∀ k, logs k <+: logs' k

section

variable {logs logs' logs'' : EventLogs K N} {writes : List (LogWrite K N)} {k : K}

omit [DecidableEq K] in
theorem Later.refl (logs : EventLogs K N) : logs.Later logs := fun _ => List.prefix_rfl

omit [DecidableEq K] in
theorem Later.trans (h : logs.Later logs') (h' : logs'.Later logs'') : logs.Later logs'' :=
  fun k => (h k).trans (h' k)

theorem later_push (logs : EventLogs K N) (write : LogWrite K N) : logs.Later (logs.push write) := by
  intro k
  by_cases hk : k = write.stream
  · subst hk
    rw [push_self]
    exact List.prefix_append _ _
  · rw [push_of_ne hk]

theorem later_pushAll (logs : EventLogs K N) (writes : List (LogWrite K N)) : logs.Later (logs.pushAll writes) := by
  induction writes generalizing logs with
  | nil => exact .refl _
  | cons write writes ih => exact (later_push logs write).trans (ih _)

theorem numbered_push (h : ∀ k, Numbered 0 (logs k)) (write : LogWrite K N) (k : K) :
    Numbered 0 (logs.push write k) := by
  by_cases hk : k = write.stream
  · subst hk
    rw [push_self]
    apply (h _).append
    rw [Nat.zero_add]
    exact numbered_recorded _ _
  · rw [push_of_ne hk]
    exact h k

theorem numbered_pushAll (h : ∀ k, Numbered 0 (logs k)) (writes : List (LogWrite K N)) (k : K) :
    Numbered 0 (logs.pushAll writes k) := by
  induction writes generalizing logs with
  | nil => exact h k
  | cons write writes ih => exact ih (numbered_push h write)

end

/-! ## The shared state -/

/-- How an action changes the logs. A batch is written at the versions it expects, or not at all;
`observe` says what the other actions may answer. -/
def exec (observe : EventLogs K N → (x : X) → RX x → Prop) (logs : EventLogs K N) :
    (action : BatchAction K N X) → action.Reply ε RX → EventLogs K N → Prop
  | .currentVersion stream, version, logs' => version = (logs stream).length ∧ logs' = logs
  | .readStream stream, log, logs' => log = logs stream ∧ logs' = logs
  | .appendBatch writes, reply, logs' =>
    (∃ error, reply = .error error ∧ logs' = logs) ∨
      logs.Accepts writes ∧ reply = .ok (writes.flatMap LogWrite.saved) ∧ logs' = logs.pushAll writes
  | .other x, r, logs' => observe logs x r ∧ logs' = logs

theorem exec_later {observe : EventLogs K N → (x : X) → RX x → Prop} {logs logs' : EventLogs K N}
    {action : BatchAction K N X} {reply : action.Reply ε RX} (h : exec observe logs action reply logs') :
    logs.Later logs' := by
  cases action with
  | currentVersion stream =>
    obtain ⟨-, rfl⟩ := h
    exact .refl _
  | readStream stream =>
    obtain ⟨-, rfl⟩ := h
    exact .refl _
  | appendBatch writes =>
    rcases h with ⟨error, -, rfl⟩ | ⟨-, -, rfl⟩
    · exact .refl _
    · exact later_pushAll _ _
  | other x =>
    obtain ⟨-, rfl⟩ := h
    exact .refl _

variable (ε) in
/-- The logs as a shared state with an invariant, in runs whose actions all meet a condition. -/
def shared (observe : EventLogs K N → (x : X) → RX x → Prop)
    (Meets : EventLogs K N → BatchAction K N X → Prop) (Inv : EventLogs K N → Prop) :
    SharedState (EventLogs K N) (BatchAction K N X) (BatchAction.Reply ε RX) where
  exec logs action reply logs' := exec observe logs action reply logs' ∧ Meets logs action
  le := Later
  le_refl := Later.refl
  le_trans := Later.trans
  exec_le h := exec_later h.1
  Inv := Inv

section Rules

variable {observe : EventLogs K N → (x : X) → RX x → Prop} {Meets : EventLogs K N → BatchAction K N X → Prop}
variable {Inv : EventLogs K N → Prop} {logs : EventLogs K N}

theorem wp_currentVersion {stream : K} {Q : Nat → EventLogs K N → Prop}
    (h : ∀ t, logs.Later t → Inv t → Q (t stream).length t) :
    (shared ε observe Meets Inv).Wp (BatchProgram.currentVersion stream) Q logs := by
  apply SharedState.wp_action
  intro t r u hlater hinv hexec
  obtain ⟨⟨hr, hu⟩, -⟩ := hexec
  rw [hr, hu]
  exact ⟨hinv, trivial, h t hlater hinv⟩

theorem wp_readStream {stream : K} {Q : List (Recorded N) → EventLogs K N → Prop}
    (h : ∀ t, logs.Later t → Inv t → Q (t stream) t) :
    (shared ε observe Meets Inv).Wp (BatchProgram.readStream stream) Q logs := by
  apply SharedState.wp_action
  intro t r u hlater hinv hexec
  obtain ⟨⟨hr, hu⟩, -⟩ := hexec
  rw [hr, hu]
  exact ⟨hinv, trivial, h t hlater hinv⟩

theorem wp_other {x : X} {Q : RX x → EventLogs K N → Prop}
    (h : ∀ t r, logs.Later t → Inv t → observe t x r → Q r t) :
    (shared ε observe Meets Inv).Wp (BatchProgram.other x) Q logs := by
  apply SharedState.wp_action
  intro t r u hlater hinv hexec
  obtain ⟨⟨hr, hu⟩, -⟩ := hexec
  have hu' : u = t := hu
  rw [hu']
  exact ⟨hinv, trivial, h t r hlater hinv hr⟩

/-- **Writing a batch.** Only a batch that is written has to keep the invariant. -/
theorem wp_appendBatch {writes : List (LogWrite K N)} {Q : Except ε (List (K × Recorded N)) → EventLogs K N → Prop}
    (hfail : ∀ t error, logs.Later t → Inv t → Q (.error error) t)
    (h : ∀ t, logs.Later t → Inv t → Meets t (.appendBatch writes) → t.Accepts writes →
      Inv (t.pushAll writes) ∧ Q (.ok (writes.flatMap LogWrite.saved)) (t.pushAll writes)) :
    (shared ε observe Meets Inv).Wp (BatchProgram.appendBatch writes) Q logs := by
  apply SharedState.wp_action
  intro t r u hlater hinv hexec
  obtain ⟨hwrite, hmeets⟩ := hexec
  rcases hwrite with ⟨error, hr, hu⟩ | ⟨haccepts, hr, hu⟩
  · rw [hr, hu]
    exact ⟨hinv, trivial, hfail t error hlater hinv⟩
  · obtain ⟨hinv', hQ⟩ := h t hlater hinv hmeets haccepts
    rw [hr, hu]
    exact ⟨hinv', trivial, hQ⟩

/-- **Runs**: what every program keeps while the steps meet the condition, every such run keeps. -/
theorem run {L : Type} {start : L → BatchProgram K N X ε RX α} {admitted : L → Prop} {init : EventLogs K N}
    {threads : List (L × BatchProgram K N X ε RX α)}
    {steps : List (RunStep L (EventLogs K N) (BatchAction K N X) (BatchAction.Reply ε RX))}
    {Q : L → α → EventLogs K N → Prop} (hrun : Run (exec observe) start admitted init threads logs steps)
    (hmeets : ∀ step ∈ steps, Meets step.before step.action) (hinit : Inv init)
    (hstart : ∀ l t, admitted l → Inv t → (shared ε observe Meets Inv).Wp (start l) (Q l) t) : Inv logs := by
  have hshared : Run (shared ε observe Meets Inv).exec start admitted init threads logs steps := by
    apply hrun.strengthen
    intro step hstep
    exact ⟨hrun.leads.exec_of_mem hstep, hmeets step hstep⟩
  exact (SharedState.run hshared hinit hstart).1

end Rules

/-! ## A store that answers -/

/-- What a store answers that fails only where it has to, when the other actions are answered by a function. -/
def reply (conflict : ε) (answer : EventLogs K N → (x : X) → RX x) (logs : EventLogs K N) :
    (action : BatchAction K N X) → action.Reply ε RX × EventLogs K N
  | .currentVersion stream => ((logs stream).length, logs)
  | .readStream stream => (logs stream, logs)
  | .appendBatch writes =>
    if logs.Accepts writes then (.ok (writes.flatMap LogWrite.saved), logs.pushAll writes)
    else (.error conflict, logs)
  | .other x => (answer logs x, logs)

theorem exec_reply {observe : EventLogs K N → (x : X) → RX x → Prop} {conflict : ε}
    {answer : EventLogs K N → (x : X) → RX x} (hanswer : ∀ logs x, observe logs x (answer logs x))
    (logs : EventLogs K N) (action : BatchAction K N X) :
    exec observe logs action (logs.reply conflict answer action).1 (logs.reply conflict answer action).2 := by
  cases action with
  | currentVersion stream => exact ⟨rfl, rfl⟩
  | readStream stream => exact ⟨rfl, rfl⟩
  | appendBatch writes =>
    rw [reply]
    split_ifs with haccepts
    · exact Or.inr ⟨haccepts, rfl, rfl⟩
    · exact Or.inl ⟨conflict, rfl, rfl⟩
  | other x => exact ⟨hanswer logs x, rfl⟩

/-- A program that runs alone reads what there is. -/
theorem of_eval_readStream {conflict : ε} {answer : EventLogs K N → (x : X) → RX x} {stream : K} {logs t : EventLogs K N}
    {log : List (Recorded N)}
    (h : (BatchProgram.readStream stream : BatchProgram K N X ε RX _).eval (reply conflict answer) logs = (.ok log, t)) :
    log = logs stream ∧ t = logs := by
  have hpair := Prod.mk.inj h
  exact ⟨(Except.ok.inj hpair.1).symm, hpair.2.symm⟩

end EventLogs

/-- What is taken from a numbered log is in order. -/
theorem Numbered.sorted_filter {N : Type} {version : Nat} {log : List (Recorded N)} (h : Numbered version log)
    (p : Recorded N → Bool) : sortRecorded (log.filter p) = log.filter p := by
  have hsorted := List.pairwise_insertionSort (fun left right : Recorded N => left.sequence ≤ right.sequence) log
  have hsame : log.insertionSort (fun left right => left.sequence ≤ right.sequence) = log := h.sorted
  rw [hsame] at hsorted
  exact (hsorted.filter p).insertionSort_eq
