import CfFrappe.Application.JobExecutor

set_option autoImplicit false

/-! # Job handlers exclude each other

While a call of `execute` is between its claim and the record of its end, the record of its slot
says `running` and nobody else writes it: `JobState.OK` ties the phase of the slot to the status of
its record, and a call keeps what it holds (`jobDiscipline`). A log that keeps to `Lawful` therefore
lets handlers run one after the other, each after the recorded failure of the one before, and none
after a success; the log in the database and the one in memory are both lawful.
-/

open Discipline (wp_bind wp_checked wp_perform wp_pure wp_throw)

/-- The records of the log, and what happened to every slot. -/
structure JobState {Slot : Type} (slotOf : TenantId → JsString → Slot) where
  table : JobTable slotOf
  /-- how many calls of `execute` have begun -/
  calls : Nat
  history : Slot → List (WorkEvent Nat)

/-- What the status of a record says of the call that writes it. -/
def JobExecutionStatus.event (call : Nat) : JobExecutionStatus → WorkEvent Nat
  | .running => .claimed call
  | .succeeded => .succeeded call
  | .failed => .failed call

namespace JobState

variable {Slot : Type} [DecidableEq Slot] {slotOf : TenantId → JsString → Slot}

/-- The state after an event of a slot. -/
def note (s : JobState slotOf) (slot : Slot) (e : WorkEvent Nat) : JobState slotOf :=
  { s with history := fun k => if k = slot then s.history k ++ [e] else s.history k }

/-- The state after a call has written a record. -/
def write (s : JobState slotOf) (call : Nat) (record : JobExecutionRecord) : JobState slotOf :=
  { s with table := s.table.put record }.note (slotOf record.tenantId record.idempotencyKey)
    (record.status.event call)

/-- The state after a claim: its record is written if it is granted. -/
def granted (s : JobState slotOf) (call : Nat) : Option JobExecutionRecord → JobState slotOf
  | some record => s.write call record
  | none => s

/-- How an action changes the state. A handler returns or throws anything. -/
def exec (s : JobState slotOf) : (action : JobAction) → action.Reply → JobState slotOf → Prop
  | .call, n, t => n = s.calls ∧ t = { s with calls := s.calls + 1 }
  | .now, _, t => t = s
  | .startHandler call context, _, t => t = s.note (slotOf context.tenantId context.idempotencyKey) (.started call)
  | .endHandler call context, _, t => t = s.note (slotOf context.tenantId context.idempotencyKey) (.ended call)
  | .claim call message startedAt, reply, t =>
    reply = (s.table.claim message startedAt).1 ∧ t = s.granted call reply
  | .select tenantId idempotencyKey, reply, t => reply = s.table.row (slotOf tenantId idempotencyKey) ∧ t = s
  | .save call record, _, t => t = s.write call record
  | .begin call message startedAt, reply, t =>
    reply = (s.table.begin message startedAt).1 ∧ t = s.granted call reply.started?
  | .finish call message finishedAt ending, _, t =>
    t = s.write call (JobTable.finished message (s.table.row (slotOf message.tenant message.idempotencyKey))
      finishedAt ending.status ending.result ending.error)

/-- The phase of a slot. -/
def phase (s : JobState slotOf) (slot : Slot) : Option (WorkPhase Nat) := WorkPhase.free.after (s.history slot)

/-- What the record of a slot is in a phase. -/
def Fits : WorkPhase Nat → Option JobExecutionRecord → Prop
  | .free, _ => True
  | .done, row => ∃ record, row = some record ∧ record.status = .succeeded
  | _, row => ∃ record, row = some record ∧ record.status = .running

/-- **The invariant**: the history of every slot is in order, and its record fits the phase. -/
def OK (s : JobState slotOf) : Prop := ∀ slot, ∃ p, s.phase slot = some p ∧ Fits p (s.table.row slot)

/-- An event of one slot: the other slots are left alone. -/
structure Extends (s t : JobState slotOf) (slot : Slot) (e : WorkEvent Nat) : Prop where
  calls : t.calls = s.calls
  history : t.history slot = s.history slot ++ [e]
  history_of_ne : ∀ k, k ≠ slot → t.history k = s.history k
  row_of_ne : ∀ k, k ≠ slot → t.table.row k = s.table.row k

theorem extends_note (s : JobState slotOf) (slot : Slot) (e : WorkEvent Nat) : s.Extends (s.note slot e) slot e := by
  refine ⟨rfl, ?_, ?_, fun _ _ => rfl⟩
  · show (if slot = slot then _ else _) = _
    rw [if_pos rfl]
  · intro k hk
    show (if k = slot then _ else _) = _
    rw [if_neg hk]

theorem extends_write (s : JobState slotOf) (call : Nat) (record : JobExecutionRecord) :
    s.Extends (s.write call record) (slotOf record.tenantId record.idempotencyKey) (record.status.event call) := by
  refine ⟨rfl, (extends_note _ _ _).history, (extends_note _ _ _).history_of_ne, ?_⟩
  intro k hk
  show (s.table.put record).row k = _
  rw [JobTable.put_row, if_neg (Ne.symm hk)]

@[simp] theorem write_row_self (s : JobState slotOf) (call : Nat) (record : JobExecutionRecord) :
    (s.write call record).table.row (slotOf record.tenantId record.idempotencyKey) = some record :=
  JobTable.put_row_self _ _

omit [DecidableEq Slot] in
theorem Extends.phase_of_ne {s t : JobState slotOf} {slot : Slot} {e : WorkEvent Nat} (h : s.Extends t slot e)
    {k : Slot} (hk : k ≠ slot) : t.phase k = s.phase k := by
  rw [phase, h.history_of_ne k hk, phase]

omit [DecidableEq Slot] in
theorem Extends.phase_eq {s t : JobState slotOf} {slot : Slot} {e : WorkEvent Nat} (h : s.Extends t slot e)
    {p q : WorkPhase Nat} (hp : s.phase slot = some p) (hnext : p.next e = some q) : t.phase slot = some q := by
  rw [phase] at hp
  rw [phase, h.history, WorkPhase.after_concat, hp]
  exact hnext

theorem Extends.ok {s t : JobState slotOf} {slot : Slot} {e : WorkEvent Nat} (h : s.Extends t slot e) (hs : s.OK)
    {q : WorkPhase Nat} (hq : t.phase slot = some q) (hfits : Fits q (t.table.row slot)) : t.OK := by
  intro k
  by_cases hk : k = slot
  · subst hk
    exact ⟨q, hq, hfits⟩
  · rw [h.phase_of_ne hk, h.row_of_ne k hk]
    exact hs k

/-- The record of a slot that is held says `running`. -/
theorem fits_of_holder {p : WorkPhase Nat} {call : Nat} (h : p.holder = some call) {row : Option JobExecutionRecord} :
    Fits p row ↔ ∃ record, row = some record ∧ record.status = .running := by
  cases p with
  | free => cases h
  | done => cases h
  | claimed i => exact Iff.rfl
  | running i => exact Iff.rfl
  | ended i => exact Iff.rfl

omit [DecidableEq Slot] in
/-- A slot whose record has failed, or that has none, is held by nobody. -/
theorem free_of_failed {s : JobState slotOf} (hs : s.OK) {slot : Slot}
    (h : ∀ record, s.table.row slot = some record → record.status = .failed) : s.phase slot = some .free := by
  obtain ⟨p, hp, hfits⟩ := hs slot
  cases p with
  | free => exact hp
  | _ =>
    obtain ⟨record, hrow, hstatus⟩ := hfits
    rw [h record hrow] at hstatus
    cases hstatus

end JobState

/-! ## The discipline -/

section Discipline

variable {Slot : Type} [DecidableEq Slot] {slotOf : TenantId → JsString → Slot}

/-- A call that holds a slot may count on its record and on its history. -/
def JobState.Keeps (call : Nat) (s t : JobState slotOf) : Prop :=
  ∀ slot p, s.phase slot = some p → p.holder = some call →
    t.history slot = s.history slot ∧ t.table.row slot = s.table.row slot

omit [DecidableEq Slot] in
theorem JobState.Keeps.trans {call : Nat} {s t u : JobState slotOf} (h : s.Keeps call t) (h' : t.Keeps call u) :
    s.Keeps call u := by
  intro slot p hp hholder
  obtain ⟨hhistory, hrow⟩ := h slot p hp hholder
  have hp' : t.phase slot = some p := by
    rw [JobState.phase, hhistory]
    exact hp
  obtain ⟨hhistory', hrow'⟩ := h' slot p hp' hholder
  exact ⟨hhistory'.trans hhistory, hrow'.trans hrow⟩

/-- Calls run side by side; the number of a call is a token. -/
def jobDiscipline (slotOf : TenantId → JsString → Slot) :
    Discipline (JobState slotOf) JobAction JobAction.Reply Nat where
  exec := JobState.exec
  le s t := s.calls ≤ t.calls
  le_refl _ := Nat.le_refl _
  le_trans := Nat.le_trans
  Inv := JobState.OK
  issued s i := i < s.calls
  fresh
    | .call, n, i => i = n
    | _, _, _ => False
  keeps := JobState.Keeps
  keeps_refl _ _ := fun _ _ _ _ => ⟨rfl, rfl⟩
  keeps_trans := JobState.Keeps.trans
  issued_le h hi := Nat.lt_of_lt_of_le hi h
  fresh_new := by
    intro s a r t i hexec hfresh
    cases a with
    | call =>
      obtain ⟨rfl, rfl⟩ := hexec
      obtain rfl := hfresh
      exact ⟨Nat.lt_irrefl _, Nat.lt_succ_self _⟩
    | _ => exact absurd hfresh id

abbrev jobWp {α : Type} (slotOf : TenantId → JsString → Slot) (own : Set Nat) (p : JobProgram α)
    (Q : α → Set Nat → JobState slotOf → Prop) (s : JobState slotOf) : Prop :=
  (jobDiscipline slotOf).wp (fun _ _ _ _ => True) own p Q s

variable {own : Set Nat} {s t : JobState slotOf}

/-- An action that leaves the records and the histories alone. -/
theorem meets_refl {a : JobAction} {r : a.Reply} (hs : s.OK) :
    (jobDiscipline slotOf).Meets (fun _ _ _ _ => True) own s a r s :=
  ⟨Nat.le_refl _, hs, trivial, fun i _ _ => (jobDiscipline slotOf).keeps_refl i s⟩

/-- An event of a slot that nobody else holds. -/
theorem meets_extends {a : JobAction} {r : a.Reply} {slot : Slot} {e : WorkEvent Nat} {p q : WorkPhase Nat}
    (hs : s.OK) (h : s.Extends t slot e) (hp : s.phase slot = some p) (hnext : p.next e = some q)
    (hfits : JobState.Fits q (t.table.row slot)) (hholder : ∀ i, p.holder = some i → i ∈ own) :
    (jobDiscipline slotOf).Meets (fun _ _ _ _ => True) own s a r t := by
  refine ⟨Nat.le_of_eq h.calls.symm, h.ok hs (h.phase_eq hp hnext) hfits, trivial, ?_⟩
  intro i _ hi k p' hp' hholder'
  by_cases hk : k = slot
  · -- the holder of this slot is not `i`
    subst hk
    rw [hp, Option.some.injEq] at hp'
    subst hp'
    exact absurd (hholder i hholder') hi
  · exact ⟨h.history_of_ne k hk, h.row_of_ne k hk⟩

/-- What a call holds: the slot of its message, with a record of its own tenant. -/
structure Held (slotOf : TenantId → JsString → Slot) (call : Nat) (message : JobMessage) (p : WorkPhase Nat)
    (s : JobState slotOf) : Prop where
  phase : s.phase (slotOf message.tenant message.idempotencyKey) = some p
  row : ∃ record, s.table.row (slotOf message.tenant message.idempotencyKey) = some record ∧
    record.tenantId = message.tenant
  holder : p.holder = some call

theorem Held.stable {call : Nat} {message : JobMessage} {p : WorkPhase Nat} (h : Held slotOf call message p s)
    (hcall : call ∈ own) (hrely : (jobDiscipline slotOf).Rely own s t) : Held slotOf call message p t := by
  obtain ⟨hhistory, hrow⟩ := hrely.keeps call hcall _ p h.phase h.holder
  refine ⟨?_, ?_, h.holder⟩
  · rw [JobState.phase, hhistory]
    exact h.phase
  · rw [hrow]
    exact h.row

/-! ### Rules -/

theorem wp_job_call {Q : Nat → Set Nat → JobState slotOf → Prop} (h : ∀ call own' t, call ∈ own' → Q call own' t) :
    jobWp slotOf own JobAction.call.perform Q s := by
  apply wp_perform
  intro s' _ hs' call t hexec
  obtain ⟨rfl, rfl⟩ := hexec
  refine ⟨⟨Nat.le_succ _, hs', trivial, fun i _ _ _ _ _ _ => ⟨rfl, rfl⟩⟩, ?_⟩
  exact h _ _ _ (Set.mem_union_right _ rfl)

theorem wp_job_now {Q : Timestamp → Set Nat → JobState slotOf → Prop}
    (h : ∀ now own' t, own ⊆ own' → (jobDiscipline slotOf).Rely own s t → Q now own' t) :
    jobWp slotOf own JobAction.now.perform Q s := by
  apply wp_perform
  intro s' hrely hs' now t hexec
  obtain rfl := hexec
  exact ⟨meets_refl hs', h _ _ _ Set.subset_union_left hrely⟩

theorem wp_job_select {tenantId : TenantId} {key : JsString}
    {Q : Option JobExecutionRecord → Set Nat → JobState slotOf → Prop}
    (h : ∀ own' t, own ⊆ own' → (jobDiscipline slotOf).Rely own s t →
      Q (t.table.row (slotOf tenantId key)) own' t) :
    jobWp slotOf own (JobAction.select tenantId key).perform Q s := by
  apply wp_perform
  intro s' hrely hs' row t hexec
  obtain ⟨rfl, rfl⟩ := hexec
  exact ⟨meets_refl hs', h _ _ Set.subset_union_left hrely⟩

/-- The holder of a slot goes on from one phase to the next. -/
theorem Held.meets {call : Nat} {message : JobMessage} {p q : WorkPhase Nat} {a : JobAction} {r : a.Reply}
    {e : WorkEvent Nat} (h : Held slotOf call message p s) (hs : s.OK) (hcall : call ∈ own)
    (hextends : s.Extends t (slotOf message.tenant message.idempotencyKey) e) (hnext : p.next e = some q)
    (hfits : JobState.Fits q (t.table.row (slotOf message.tenant message.idempotencyKey))) :
    (jobDiscipline slotOf).Meets (fun _ _ _ _ => True) own s a r t := by
  apply meets_extends hs hextends h.phase hnext hfits
  intro i hi
  rw [h.holder, Option.some.injEq] at hi
  rwa [← hi]

/-- The holder of a slot notes that its handler has started or ended. -/
theorem Held.note {call : Nat} {message : JobMessage} {p q : WorkPhase Nat} {a : JobAction} {r : a.Reply}
    {e : WorkEvent Nat} (h : Held slotOf call message p s) (hs : s.OK) (hcall : call ∈ own)
    (hnext : p.next e = some q) (hholder : q.holder = some call) :
    (jobDiscipline slotOf).Meets (fun _ _ _ _ => True) own s a r
        (s.note (slotOf message.tenant message.idempotencyKey) e) ∧
      Held slotOf call message q (s.note (slotOf message.tenant message.idempotencyKey) e) := by
  have hextends := s.extends_note (slotOf message.tenant message.idempotencyKey) e
  obtain ⟨p', hp', hfits⟩ := hs (slotOf message.tenant message.idempotencyKey)
  rw [h.phase, Option.some.injEq] at hp'
  subst hp'
  rw [JobState.fits_of_holder h.holder, ← JobState.fits_of_holder hholder] at hfits
  exact ⟨h.meets hs hcall hextends hnext hfits, hextends.phase_eq h.phase hnext, h.row, hholder⟩

theorem wp_startHandler {call : Nat} {message : JobMessage} {attempt : Option Rat}
    {Q : Unit → Set Nat → JobState slotOf → Prop} (hcall : call ∈ own)
    (hheld : Held slotOf call message (.claimed call) s)
    (h : ∀ own' t, own ⊆ own' → Held slotOf call message (.running call) t → Q () own' t) :
    jobWp slotOf own (JobAction.startHandler call (jobHandlerContext message attempt)).perform Q s := by
  apply wp_perform
  intro s' hrely hs' r t hexec
  obtain rfl := hexec
  have hnext : (WorkPhase.claimed call).next (.started call) = some (.running call) := if_pos rfl
  obtain ⟨hmeets, hheld'⟩ := (hheld.stable hcall hrely).note hs' hcall hnext rfl
  exact ⟨hmeets, h _ _ Set.subset_union_left hheld'⟩

theorem wp_endHandler {call : Nat} {message : JobMessage} {attempt : Option Rat}
    {Q : Except JsError JsValue → Set Nat → JobState slotOf → Prop} (hcall : call ∈ own)
    (hheld : Held slotOf call message (.running call) s)
    (h : ∀ outcome own' t, own ⊆ own' → Held slotOf call message (.ended call) t → Q outcome own' t) :
    jobWp slotOf own (JobAction.endHandler call (jobHandlerContext message attempt)).perform Q s := by
  apply wp_perform
  intro s' hrely hs' r t hexec
  obtain rfl := hexec
  have hnext : (WorkPhase.running call).next (.ended call) = some (.ended call) := if_pos rfl
  obtain ⟨hmeets, hheld'⟩ := (hheld.stable hcall hrely).note hs' hcall hnext rfl
  exact ⟨hmeets, h _ _ _ Set.subset_union_left hheld'⟩

/-- A claim is granted where nobody holds the slot. -/
theorem claim_meets {call : Nat} {message : JobMessage} {startedAt : Timestamp} {a : JobAction} {r : a.Reply}
    (hs : s.OK)
    (hfree : s.phase (slotOf message.tenant message.idempotencyKey) = some .free) :
    (jobDiscipline slotOf).Meets (fun _ _ _ _ => True) own s a r (s.write call (JobTable.claimed message startedAt)) ∧
      Held slotOf call message (.claimed call) (s.write call (JobTable.claimed message startedAt)) := by
  have hextends := s.extends_write call (JobTable.claimed message startedAt)
  have hrow := s.write_row_self call (JobTable.claimed message startedAt)
  have hnext : WorkPhase.free.next (.claimed call) = some (.claimed call) := rfl
  refine ⟨meets_extends hs hextends hfree hnext ⟨_, hrow, rfl⟩ (fun i hi => by cases hi), ?_⟩
  exact ⟨hextends.phase_eq hfree hnext, ⟨_, hrow, rfl⟩, rfl⟩

/-- The holder of a slot records how its handler ended. -/
theorem Held.finish_meets {call : Nat} {message : JobMessage} {a : JobAction} {r : a.Reply}
    {previous : Option JobExecutionRecord} {finishedAt : Timestamp} {ending : JobEnd}
    (h : Held slotOf call message (.ended call) s) (hs : s.OK) (hcall : call ∈ own)
    (hprevious : previous = s.table.row (slotOf message.tenant message.idempotencyKey)) :
    (jobDiscipline slotOf).Meets (fun _ _ _ _ => True) own s a r
      (s.write call (JobTable.finished message previous finishedAt ending.status ending.result ending.error)) := by
  obtain ⟨record, hrow, htenant⟩ := h.row
  rw [hrow] at hprevious
  subst hprevious
  -- the record goes back to the slot that it was read from
  have hextends := s.extends_write call
    (JobTable.finished message (some record) finishedAt ending.status ending.result ending.error)
  have hself := s.write_row_self call
    (JobTable.finished message (some record) finishedAt ending.status ending.result ending.error)
  have hslot : slotOf (JobTable.finished message (some record) finishedAt ending.status ending.result
      ending.error).tenantId message.idempotencyKey = slotOf message.tenant message.idempotencyKey := by
    rw [← htenant]
    rfl
  cases ending with
  | succeeded result =>
    have hnext : (WorkPhase.ended call).next (.succeeded call) = some .done := if_pos rfl
    exact meets_extends hs hextends (hslot ▸ h.phase) hnext ⟨_, hself, rfl⟩
      (fun i hi => by rwa [← Option.some.inj hi])
  | failed error =>
    have hnext : (WorkPhase.ended call).next (.failed call) = some .free := if_pos rfl
    exact meets_extends hs hextends (hslot ▸ h.phase) hnext trivial (fun i hi => by rwa [← Option.some.inj hi])

/-! ### Logs -/

/-- What the executor needs of its log: a call that is told `started` holds the slot, and the holder
alone records how it ended. -/
structure JobExecutionLog.Lawful (slotOf : TenantId → JsString → Slot) (log : JobExecutionLog) : Prop where
  begin : ∀ {own call message startedAt s} {Q : JobExecutionBeginResult → Set Nat → JobState slotOf → Prop},
    call ∈ own →
    (∀ record own' t, own ⊆ own' → Held slotOf call message (.claimed call) t → Q (.started record) own' t) →
    (∀ record own' t, own ⊆ own' → Q (.duplicate record) own' t) →
    jobWp slotOf own (log.begin call message startedAt) Q s
  complete : ∀ {own call message finishedAt result s} {Q : Unit → Set Nat → JobState slotOf → Prop},
    call ∈ own → Held slotOf call message (.ended call) s → (∀ own' t, Q () own' t) →
    jobWp slotOf own (log.complete call message finishedAt result) Q s
  fail : ∀ {own call message finishedAt error s} {Q : Unit → Set Nat → JobState slotOf → Prop},
    call ∈ own → Held slotOf call message (.ended call) s → (∀ own' t, Q () own' t) →
    jobWp slotOf own (log.fail call message finishedAt error) Q s

/-- The claim statement is granted exactly where the slot has no record or a failed one. -/
theorem JobTable.claim_granted {table : JobTable slotOf} {message : JobMessage} {startedAt : Timestamp}
    {record : JobExecutionRecord} (h : (table.claim message startedAt).1 = some record) :
    record = JobTable.claimed message startedAt ∧
      ∀ previous, table.row (slotOf message.tenant message.idempotencyKey) = some previous →
        previous.status = .failed := by
  unfold JobTable.claim at h
  split at h
  · rename_i hrow
    refine ⟨(Option.some.inj h).symm, ?_⟩
    intro previous hprevious
    rw [hrow] at hprevious
    cases hprevious
  · rename_i previous hrow
    split_ifs at h with hfailed
    refine ⟨(Option.some.inj h).symm, ?_⟩
    intro previous' hprevious
    rw [hrow, Option.some.injEq] at hprevious
    rwa [← hprevious]

/-- So is `begin` of the log in memory. -/
theorem JobTable.begin_started {table : JobTable slotOf} {message : JobMessage} {startedAt : Timestamp}
    {record : JobExecutionRecord} (h : (table.begin message startedAt).1 = .started record) :
    record = JobTable.claimed message startedAt ∧
      ∀ previous, table.row (slotOf message.tenant message.idempotencyKey) = some previous →
        previous.status = .failed := by
  unfold JobTable.begin at h
  split at h
  · rename_i hrow
    refine ⟨(JobExecutionBeginResult.started.inj h).symm, ?_⟩
    intro previous hprevious
    rw [hrow] at hprevious
    cases hprevious
  · rename_i previous hrow
    split_ifs at h with hheld
    refine ⟨(JobExecutionBeginResult.started.inj h).symm, ?_⟩
    intro previous' hprevious
    rw [hrow, Option.some.injEq] at hprevious
    rw [← hprevious]
    cases hstatus : previous.status with
    | failed => rfl
    | running => exact absurd (.inl hstatus) hheld
    | succeeded => exact absurd (.inr hstatus) hheld

theorem wp_d1_finish {call : Nat} {message : JobMessage} {finishedAt : Timestamp} {ending : Except JsError JobEnd}
    {Q : Unit → Set Nat → JobState slotOf → Prop} (hcall : call ∈ own)
    (hheld : Held slotOf call message (.ended call) s) (h : ∀ own' t, Q () own' t) :
    jobWp slotOf own (D1JobExecutionLog.finish call message finishedAt ending) Q s := by
  unfold D1JobExecutionLog.finish
  apply wp_bind
  apply wp_job_select
  intro own₁ t₁ hown₁ hrely₁
  have hcall₁ := hown₁ hcall
  have hheld₁ := hheld.stable hcall hrely₁
  apply wp_checked
  intro ending' _
  apply wp_perform
  intro s' hrely hs' r t hexec
  obtain rfl := hexec
  -- the row is still the one that was read
  have hrow := (hrely.keeps call hcall₁ _ _ hheld₁.phase hheld₁.holder).2
  exact ⟨(hheld₁.stable hcall₁ hrely).finish_meets hs' hcall₁ hrow.symm, h _ _⟩

/-- **The log in the database is lawful.** -/
theorem d1JobExecutionLog_lawful : d1JobExecutionLog.Lawful slotOf where
  begin := by
    intro own call message startedAt s Q hcall hstarted hduplicate
    show jobWp slotOf own (D1JobExecutionLog.begin call message startedAt) Q s
    unfold D1JobExecutionLog.begin
    apply wp_bind
    apply wp_perform
    intro s' _ hs' reply t hexec
    obtain ⟨hreply, rfl⟩ := hexec
    cases reply with
    | some record =>
      obtain ⟨rfl, hfailed⟩ := JobTable.claim_granted hreply.symm
      obtain ⟨hmeets, hheld⟩ := claim_meets hs' (JobState.free_of_failed hs' hfailed)
      exact ⟨hmeets, wp_pure (hstarted _ _ _ Set.subset_union_left hheld)⟩
    | none =>
      refine ⟨meets_refl hs', ?_⟩
      apply wp_bind
      apply wp_job_select
      intro own₁ t₁ hown₁ _
      cases t₁.table.row (slotOf message.tenant message.idempotencyKey) with
      | none => exact wp_throw
      | some record => exact wp_pure (hduplicate _ _ _ (Set.subset_union_left.trans hown₁))
  complete := wp_d1_finish
  fail := wp_d1_finish

theorem wp_memory_finish {call : Nat} {message : JobMessage} {finishedAt : Timestamp} {ending : JobEnd}
    {Q : Unit → Set Nat → JobState slotOf → Prop} (hcall : call ∈ own)
    (hheld : Held slotOf call message (.ended call) s) (h : ∀ own' t, Q () own' t) :
    jobWp slotOf own (JobAction.finish call message finishedAt ending).perform Q s := by
  apply wp_perform
  intro s' hrely hs' r t hexec
  obtain rfl := hexec
  exact ⟨(hheld.stable hcall hrely).finish_meets hs' hcall rfl, h _ _⟩

/-- **The log in memory is lawful.** -/
theorem inMemoryJobExecutionLog_lawful : inMemoryJobExecutionLog.Lawful slotOf where
  begin := by
    intro own call message startedAt s Q hcall hstarted hduplicate
    apply wp_perform
    intro s' _ hs' reply t hexec
    obtain ⟨hreply, rfl⟩ := hexec
    cases reply with
    | started record =>
      obtain ⟨rfl, hfailed⟩ := JobTable.begin_started hreply.symm
      obtain ⟨hmeets, hheld⟩ := claim_meets hs' (JobState.free_of_failed hs' hfailed)
      exact ⟨hmeets, hstarted _ _ _ Set.subset_union_left hheld⟩
    | duplicate record => exact ⟨meets_refl hs', hduplicate _ _ _ Set.subset_union_left⟩
  complete := wp_memory_finish
  fail := by
    intro own call message finishedAt error s Q hcall hheld h
    show jobWp slotOf own (InMemoryJobExecutionLog.fail call message finishedAt error) Q s
    unfold InMemoryJobExecutionLog.fail
    apply wp_checked
    intro text _
    exact wp_memory_finish hcall hheld h

/-! ### The executor -/

theorem wp_runHandler {log : JobExecutionLog} (hlog : log.Lawful slotOf) {call : Nat} {message : JobMessage}
    {attempt : Option Rat} (hcall : call ∈ own) (hheld : Held slotOf call message (.claimed call) s) :
    jobWp slotOf own (JobExecutor.runHandler (some log) call message attempt) (fun _ _ _ => True) s := by
  unfold JobExecutor.runHandler
  apply wp_bind
  apply wp_startHandler hcall hheld
  intro own₁ t₁ hown₁ hheld₁
  apply wp_bind
  apply wp_endHandler (hown₁ hcall) hheld₁
  intro outcome own₂ t₂ hown₂ hheld₂
  have hcall₂ := hown₂ (hown₁ hcall)
  cases outcome.bind normalizeJobHandlerResult with
  | error error =>
    show jobWp slotOf own₂ (JobExecutor.rethrow (some log) call message error) _ t₂
    unfold JobExecutor.rethrow
    apply wp_bind
    apply wp_job_now
    intro finishedAt own₃ t₃ hown₃ hrely₃
    apply wp_bind
    apply hlog.fail (hown₃ hcall₂) (hheld₂.stable hcall₂ hrely₃)
    intro own₄ t₄
    exact wp_throw
  | ok result =>
    apply wp_bind
    apply wp_job_now
    intro finishedAt own₃ t₃ hown₃ hrely₃
    apply wp_bind
    apply hlog.complete (hown₃ hcall₂) (hheld₂.stable hcall₂ hrely₃)
    intro own₄ t₄
    exact wp_pure trivial

theorem wp_execute {log : JobExecutionLog} (hlog : log.Lawful slotOf) (registry : JobRegistry) (message : JobMessage)
    (attempt : Option Rat) :
    jobWp slotOf own (JobExecutor.execute registry (some log) message attempt) (fun _ _ _ => True) s := by
  unfold JobExecutor.execute
  apply wp_bind
  apply wp_job_call
  intro call own₁ t₁ hcall
  apply wp_checked
  intro _ _
  apply wp_bind
  apply wp_job_now
  intro startedAt own₂ t₂ hown₂ _
  apply wp_bind
  apply wp_bind
  apply hlog.begin (hown₂ hcall)
  · intro record own₃ t₃ hown₃ hheld
    apply wp_pure
    exact wp_runHandler hlog (hown₃ (hown₂ hcall)) hheld
  · intro record own₃ t₃ _
    apply wp_pure
    exact wp_pure trivial

end Discipline

/-! ## Runs -/

/-- A call of `execute`: its message, and the attempt it is told. -/
abbrev JobCall := JobMessage × Option Rat

/-- The runs of any number of calls of `execute` that share a log. -/
abbrev JobRun {Slot : Type} [DecidableEq Slot] {slotOf : TenantId → JsString → Slot} (registry : JobRegistry)
    (log : JobExecutionLog) (init : JobState slotOf) (threads : List (JobCall × JobProgram JobExecutionOutcome))
    (s : JobState slotOf) (steps : List (RunStep JobCall (JobState slotOf) JobAction JobAction.Reply)) : Prop :=
  Run JobState.exec (fun call : JobCall => JobExecutor.execute registry (some log) call.1 call.2) (fun _ => True)
    init threads s steps

/-- In every run over a lawful log the history of every slot is in order. -/
theorem job_phase {Slot : Type} [DecidableEq Slot] {slotOf : TenantId → JsString → Slot} {registry : JobRegistry}
    {log : JobExecutionLog} (hlog : log.Lawful slotOf) {init s : JobState slotOf}
    {threads : List (JobCall × JobProgram JobExecutionOutcome)}
    {steps : List (RunStep JobCall (JobState slotOf) JobAction JobAction.Reply)}
    (hinit : ∀ slot, init.history slot = []) (hrun : JobRun registry log init threads s steps) (slot : Slot) :
    ∃ p, s.phase slot = some p := by
  have hok : init.OK := by
    intro slot
    refine ⟨.free, ?_, trivial⟩
    rw [JobState.phase, hinit]
    rfl
  obtain ⟨pool, -, hsound⟩ := Run.sound (D := jobDiscipline slotOf) (G := fun _ _ _ _ _ => True)
    (Q := fun _ _ _ _ => True) hrun hok (fun call s _ _ => wp_execute hlog registry call.1 call.2)
  obtain ⟨p, hp, -⟩ := hsound.inv slot
  exact ⟨p, hp⟩

/-- What the history of a slot says when its handlers exclude each other. -/
structure HandlersExclude (history : List (WorkEvent Nat)) : Prop where
  /-- between two starts the first handler ends and its failure is recorded -/
  after_failure : ∀ before middle rest call call',
    history = before ++ .started call :: middle ++ .started call' :: rest →
      [.ended call, .failed call].Sublist middle
  /-- nothing starts after a recorded success -/
  not_after_success : ∀ before rest call, history = before ++ .succeeded call :: rest →
    ∀ call', .started call' ∉ rest

theorem HandlersExclude.of_phase {history : List (WorkEvent Nat)} {p : WorkPhase Nat}
    (h : WorkPhase.free.after history = some p) : HandlersExclude history := by
  constructor
  · intro before middle rest call call' hsplit
    subst hsplit
    exact WorkPhase.phase_split_started h
  · intro before rest call hsplit call' hmem
    subst hsplit
    rw [WorkPhase.phase_split_succeeded h] at hmem
    cases hmem

/-- **Job handlers never overlap and never repeat after a success**, whatever calls run side by side
on whatever records: in the database, where a slot is a tenant with a key, and in memory, where it is
the text of the two. -/
theorem job_handlers_exclude (registry : JobRegistry) (tenantId : TenantId) (idempotencyKey : JsString) :
    (∀ {init s : JobState D1JobExecutionLog.rowKey} {threads steps}, (∀ slot, init.history slot = []) →
      JobRun registry d1JobExecutionLog init threads s steps →
      HandlersExclude (s.history (D1JobExecutionLog.rowKey tenantId idempotencyKey))) ∧
    (∀ {init s : JobState InMemoryJobExecutionLog.recordKey} {threads steps}, (∀ slot, init.history slot = []) →
      JobRun registry inMemoryJobExecutionLog init threads s steps →
      HandlersExclude (s.history (InMemoryJobExecutionLog.recordKey tenantId idempotencyKey))) := by
  constructor
  · intro init s threads steps hinit hrun
    obtain ⟨p, hp⟩ := job_phase d1JobExecutionLog_lawful hinit hrun
      (D1JobExecutionLog.rowKey tenantId idempotencyKey)
    exact HandlersExclude.of_phase hp
  · intro init s threads steps hinit hrun
    obtain ⟨p, hp⟩ := job_phase inMemoryJobExecutionLog_lawful hinit hrun
      (InMemoryJobExecutionLog.recordKey tenantId idempotencyKey)
    exact HandlersExclude.of_phase hp

/-! ### A job that is retried

The replies of the log with given outcomes of the handlers: with these, calls that run one after the
other can be computed. -/

/-- The reply to an action and the state after it, when the handler of a call ends as given. -/
def JobState.reply {Slot : Type} [DecidableEq Slot] {slotOf : TenantId → JsString → Slot}
    (outcome : Nat → Except JsError JsValue) (s : JobState slotOf) : (a : JobAction) → a.Reply × JobState slotOf
  | .call => (s.calls, { s with calls := s.calls + 1 })
  | .now => ([], s)
  | .startHandler call context => ((), s.note (slotOf context.tenantId context.idempotencyKey) (.started call))
  | .endHandler call context => (outcome call, s.note (slotOf context.tenantId context.idempotencyKey) (.ended call))
  | .claim call message startedAt =>
    ((s.table.claim message startedAt).1, s.granted call (s.table.claim message startedAt).1)
  | .select tenantId idempotencyKey => (s.table.row (slotOf tenantId idempotencyKey), s)
  | .save call record => ((), s.write call record)
  | .begin call message startedAt =>
    ((s.table.begin message startedAt).1, s.granted call (s.table.begin message startedAt).1.started?)
  | .finish call message finishedAt ending =>
    ((), s.write call (JobTable.finished message (s.table.row (slotOf message.tenant message.idempotencyKey))
      finishedAt ending.status ending.result ending.error))

theorem JobState.exec_reply {Slot : Type} [DecidableEq Slot] {slotOf : TenantId → JsString → Slot}
    (outcome : Nat → Except JsError JsValue) (s : JobState slotOf) (a : JobAction) :
    s.exec a (s.reply outcome a).1 (s.reply outcome a).2 := by
  cases a with
  | claim call message startedAt => exact ⟨rfl, rfl⟩
  | begin call message startedAt => exact ⟨rfl, rfl⟩
  | call => exact ⟨rfl, rfl⟩
  | select tenantId idempotencyKey => exact ⟨rfl, rfl⟩
  | _ => exact rfl

/-- A message of the only registered job. -/
def retriedMessage : JobMessage :=
  { jobName := [], payload := [], runId := [], idempotencyKey := [], enqueuedAt := [], metadata := [] }

section Retried

variable {Slot : Type} [DecidableEq Slot]

/-- The state after three deliveries of the message, of which the first fails. -/
def retried (slotOf : TenantId → JsString → Slot) (log : JobExecutionLog) : JobState slotOf :=
  Program.evalAll (JobState.reply (fun call => if call = 0 then .error (.thrown (some [])) else .ok .undefined))
    (fun call : JobCall => JobExecutor.execute ⟨[[]]⟩ (some log) call.1 call.2)
    [(retriedMessage, none), (retriedMessage, none), (retriedMessage, none)]
    ⟨JobTable.empty, 0, fun _ => []⟩

theorem retried_run (slotOf : TenantId → JsString → Slot) (log : JobExecutionLog) :
    ∃ threads steps, JobRun ⟨[[]]⟩ log ⟨JobTable.empty, 0, fun _ => []⟩ threads (retried slotOf log) steps := by
  have hreply := @JobState.exec_reply Slot _ slotOf
    (fun call => if call = 0 then .error (.thrown (some [])) else .ok .undefined)
  obtain ⟨threads, hrun⟩ := Program.run_evalAll hreply
    [(retriedMessage, none), (retriedMessage, none), (retriedMessage, none)] (fun _ _ => trivial) Run.nil
  exact ⟨threads, _, hrun⟩

end Retried

theorem job_handlers_exclude_retried :
    HandlersExclude ((retried D1JobExecutionLog.rowKey d1JobExecutionLog).history
      (D1JobExecutionLog.rowKey defaultTenantId [])) ∧
    HandlersExclude ((retried InMemoryJobExecutionLog.recordKey inMemoryJobExecutionLog).history
      (InMemoryJobExecutionLog.recordKey defaultTenantId [])) ∧
    (retried D1JobExecutionLog.rowKey d1JobExecutionLog).history (D1JobExecutionLog.rowKey defaultTenantId []) =
      [.claimed 0, .started 0, .ended 0, .failed 0, .claimed 1, .started 1, .ended 1, .succeeded 1] := by
  obtain ⟨_, _, hd1⟩ := retried_run D1JobExecutionLog.rowKey d1JobExecutionLog
  obtain ⟨_, _, hmemory⟩ := retried_run InMemoryJobExecutionLog.recordKey inMemoryJobExecutionLog
  refine ⟨?_, ?_, by decide⟩
  · exact (job_handlers_exclude ⟨[[]]⟩ defaultTenantId []).1 (fun _ => rfl) hd1
  · exact (job_handlers_exclude ⟨[[]]⟩ defaultTenantId []).2 (fun _ => rfl) hmemory
