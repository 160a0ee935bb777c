import CfFrappe.Application.DeliveryOutboxLog
import CfFrappe.Application.DeliveryOutboxService
import CfFrappe.Lib.NormalForms

set_option autoImplicit false

/-! # Runs of the delivery outbox

Workers interleave on the outbox streams. Whatever lands between the reads of `state`, it returns
the working set of the stream as it stood at its last read (`wp_state`), so an append at the
version of that state continues the log that the plan was made for (`wp_appendWithRetry`). Every
operation therefore keeps the log what it is (`wp_program`), and so does every run.
-/

open Utf DocumentDeliveryOutboxService
open Discipline (wp_bind wp_checked wp_mono wp_ofExcept wp_pure wp_throw)

/-- Every outbox stream is one. -/
def OutboxStoreOK (s : OutboxStore) : Prop :=
  ∀ tenantId stream, documentDeliveryOutboxStream tenantId = some stream → OutboxLogOK tenantId (s.logs stream)

abbrev outboxDiscipline :
    Discipline OutboxStore (LogAction StreamName OutboxEvent OutboxCall)
      (LogAction.Reply FrameworkError OutboxCall.Reply) Empty :=
  LogState.discipline FrameworkError outboxSurroundings (fun _ _ => False) OutboxStoreOK

/-- The precondition of an outbox program: it keeps the streams what they are. -/
abbrev outboxWp {α : Type} (own : Set Empty) (p : OutboxProgram α) (Q : α → Set Empty → OutboxStore → Prop)
    (s : OutboxStore) : Prop :=
  outboxDiscipline.wp (LogState.guarantee (fun _ _ _ => True) (fun _ _ _ => True)) own p Q s

/-- What a program knows about a later moment. -/
structure LaterOK (s t : OutboxStore) : Prop where
  later : s.Later outboxSurroundings t
  inv : outboxDiscipline.Inv t

theorem LaterOK.refl {s : OutboxStore} (h : outboxDiscipline.Inv s) : LaterOK s s := ⟨LogState.Later.refl s, h⟩

theorem LaterOK.trans {s t u : OutboxStore} (h : LaterOK s t) (h' : LaterOK t u) : LaterOK s u :=
  ⟨h.later.trans h'.later, h'.inv⟩

section Rules

variable {α : Type} {own : Set Empty} {s : OutboxStore}

theorem wp_readDocumentEvents {tenantId : TenantId} {name : DocumentName} {stream : StreamName}
    {Q : OutboxLog → Set Empty → OutboxStore → Prop}
    (h : ∀ t, LaterOK s t → Q ((t.logs stream).filter (isAbout tenantId name)) own t) :
    outboxWp own (readDocumentEvents tenantId name stream) Q s := by
  unfold readDocumentEvents
  apply wp_bind
  apply LogState.wp_read
  intro t hrely hinv
  exact h t ⟨hrely.le, hinv⟩

theorem wp_readStream {stream : StreamName} {minSequence : Nat}
    {Q : OutboxLog → Set Empty → OutboxStore → Prop}
    (h : ∀ t, LaterOK s t → Q ((t.logs stream).filter (fun event =>
      decide (minSequence ≤ event.sequence) && event.event.payload.isOutbox)) own t) :
    outboxWp own (readStream stream minSequence) Q s := by
  unfold readStream
  apply wp_bind
  apply LogState.wp_read
  intro t hrely hinv
  exact h t ⟨hrely.le, hinv⟩

/-- Asking for the time or for an id changes nothing. -/
theorem wp_call {call : OutboxCall} {Q : call.Reply → Set Empty → OutboxStore → Prop}
    (h : ∀ r own t, LaterOK s t → Q r own t) : outboxWp own (LogProgram.other call) Q s := by
  apply LogState.wp_other
  intro s' hrely hinv r t hlogs _
  have hstate : t = s' := by
    cases s'
    cases t
    cases hlogs
    rfl
  subst hstate
  exact ⟨hinv.2, trivial, fun i => i.elim, h r _ t ⟨hrely.le, hinv⟩⟩

theorem wp_now {Q : Timestamp → Set Empty → OutboxStore → Prop} (h : ∀ r own t, LaterOK s t → Q r own t) :
    outboxWp own now Q s := wp_call h

theorem wp_nextId {start : JsString} {Q : JsString → Set Empty → OutboxStore → Prop}
    (h : ∀ r own t, LaterOK s t → Q r own t) : outboxWp own (nextId start) Q s := wp_call h

theorem wp_outboxStream {tenantId : TenantId} {Q : StreamName → Set Empty → OutboxStore → Prop}
    (h : ∀ stream, documentDeliveryOutboxStream tenantId = some stream → Q stream own s) :
    outboxWp own (outboxStream tenantId) Q s := by
  apply wp_ofExcept
  intro stream hstream
  exact h stream (requireStream_ok hstream)

end Rules

/-! ## Reading the state -/

variable {log : OutboxLog} {x claimId : JsString} {Q : DocumentDeliveryOutboxState → Set Empty → OutboxStore → Prop}
variable {localeCompare : JsString → JsString → Ordering} {r : DocumentDeliveryOutboxRecord} {now : Timestamp}

theorem foldRecordFrom_filter {tenantId : TenantId} (record : Option DocumentDeliveryOutboxRecord)
    (hlocated : ∀ e ∈ log, Located tenantId e.event) :
    foldDocumentDeliveryOutboxRecordFrom record tenantId x (log.filter (isAbout tenantId x)) =
      foldDocumentDeliveryOutboxRecordFrom record tenantId x log := by
  induction log generalizing record with
  | nil => rfl
  | cons e log ih =>
    have hrest := fun record => ih record (fun e' he' => hlocated e' (List.mem_cons_of_mem _ he'))
    have hcons : foldDocumentDeliveryOutboxRecordFrom record tenantId x (e :: log) =
        foldDocumentDeliveryOutboxRecordFrom (applyOutboxRecordEvent tenantId x record e) tenantId x log := rfl
    by_cases habout : isAbout tenantId x e = true
    · rw [List.filter_cons_of_pos habout]
      exact hrest _
    · -- an event of the record would carry its name
      rw [List.filter_cons_of_neg habout, hrest, hcons, applyOutboxRecordEvent_of_ne]
      intro hid
      apply habout
      obtain ⟨htenant, hdoctype, hname⟩ := hlocated e List.mem_cons_self
      cases hpayload : e.event.payload with
      | checkpointed upToSequence carryOver =>
        simp [hpayload, DocumentDeliveryOutboxEventPayload.outboxId?] at hid
      | other kind => simp [hpayload, DocumentDeliveryOutboxEventPayload.outboxId?] at hid
      | _ =>
        rw [hpayload] at hid hname
        simp only [DocumentDeliveryOutboxEventPayload.outboxId?, Option.some.injEq] at hid
        simp [isAbout, htenant, hdoctype, hname.1, hid]

theorem filter_isOutbox {tenantId : TenantId} (hlocated : ∀ e ∈ log, Located tenantId e.event)
    (p : Recorded OutboxEvent → Bool) :
    log.filter (fun event => p event && event.event.payload.isOutbox) = log.filter p := by
  apply List.filter_congr
  intro e he
  obtain ⟨-, -, hname⟩ := hlocated e he
  cases hpayload : e.event.payload with
  | other kind =>
    rw [hpayload] at hname
    exact absurd hname id
  | _ => simp [DocumentDeliveryOutboxEventPayload.isOutbox]

theorem isSome_foldRecordFrom (tenantId : TenantId) (x : JsString) (log : OutboxLog)
    {record : Option DocumentDeliveryOutboxRecord} (h : record.isSome) :
    (foldDocumentDeliveryOutboxRecordFrom record tenantId x log).isSome := by
  induction log generalizing record with
  | nil => exact h
  | cons e log ih =>
    refine @ih (applyOutboxRecordEvent tenantId x record e) ?_
    unfold applyOutboxRecordEvent
    split_ifs
    · split <;> simp [h]
    · exact h

/-- The events of a record, as some moment between two logs had them. -/
def ReadBetween (tenantId : TenantId) (first last : OutboxLog) (outboxId : JsString)
    (history : JsString × OutboxLog) : Prop :=
  history.1 = outboxId ∧ ∃ log, first <+: log ∧ log <+: last ∧ history.2 = log.filter (isAbout tenantId outboxId)

theorem wp_readHistories {own : Set Empty} {s : OutboxStore} {tenantId : TenantId} {stream : StreamName}
    {first : OutboxLog} (outboxIds : List JsString) (hs : outboxDiscipline.Inv s) (hfirst : first <+: s.logs stream)
    {Q : List (JsString × OutboxLog) → Set Empty → OutboxStore → Prop}
    (h : ∀ histories t, LaterOK s t →
      List.Forall₂ (ReadBetween tenantId first (t.logs stream)) outboxIds histories → Q histories own t) :
    outboxWp own (readHistories tenantId stream outboxIds) Q s := by
  induction outboxIds generalizing s Q with
  | nil => exact h [] s (LaterOK.refl hs) List.Forall₂.nil
  | cons outboxId outboxIds ih =>
    unfold readHistories
    apply wp_bind
    apply wp_readDocumentEvents
    intro t ht
    apply wp_bind
    have hlog : first <+: t.logs stream := hfirst.trans (ht.later.logs stream)
    apply ih ht.inv hlog
    intro histories u hu hread
    apply wp_pure
    refine h _ u (ht.trans hu) (List.Forall₂.cons ⟨rfl, t.logs stream, hlog, hu.later.logs stream, rfl⟩ hread)

/-- The history of a record up to a version is the beginning of its log. -/
theorem filter_history (tenantId : TenantId) (x : JsString) {log' : OutboxLog} (h : Numbered 0 (log ++ log')) :
    ((log ++ log').filter (isAbout tenantId x)).filter (fun e => decide (e.sequence ≤ log.length)) =
        log.filter (isAbout tenantId x) ∧
      ((log ++ log').filter (isAbout tenantId x)).filter (fun e => decide (log.length < e.sequence)) =
        log'.filter (isAbout tenantId x) := by
  have hswap : ∀ (p q : Recorded OutboxEvent → Bool) (l : OutboxLog), (l.filter p).filter q = (l.filter q).filter p := by
    intro p q l
    rw [List.filter_filter, List.filter_filter]
    congr 1
    funext e
    exact Bool.and_comm _ _
  constructor
  · rw [hswap, h.filter_le]
  · rw [hswap, h.filter_gt]

/-- The events of a carried-over record, read after the checkpoint: up to it they fold to what the
checkpoint saw, and if all of them fold to a delivered record then it is delivered. -/
theorem history_folds {tenantId : TenantId} {last : OutboxLog} {history : JsString × OutboxLog}
    (hlast : OutboxLogOK tenantId last) (hread : ReadBetween tenantId log last x history)
    (hfold : foldDocumentDeliveryOutboxRecord tenantId x log = some r) :
    foldDocumentDeliveryOutboxRecord tenantId x
        (history.2.filter (fun event => decide (event.sequence ≤ log.length))) = some r ∧
      ∃ current, foldDocumentDeliveryOutboxRecordFrom (some r) tenantId x
          (history.2.filter (fun event => decide (log.length < event.sequence))) = some current ∧
        (current.status = .delivered → recordPhase x last = some .delivered) := by
  obtain ⟨-, read, ⟨since, rfl⟩, hbetween, hevents⟩ := hread
  have hok : OutboxLogOK tenantId (log ++ since) := hlast.of_initial hbetween
  obtain ⟨hbefore, hafter⟩ := filter_history tenantId x hok.numbered
  rw [hevents, hbefore, hafter, foldRecordFrom_filter _ (fun e he => hok.located e (List.mem_append_right _ he))]
  refine ⟨(foldRecordFrom_filter none hok.left.located).trans hfold, ?_⟩
  obtain ⟨current, hcurrent⟩ := Option.isSome_iff_exists.mp
    (isSome_foldRecordFrom tenantId x since (Option.isSome_some (a := r)))
  refine ⟨current, hcurrent, ?_⟩
  intro hstatus
  have hwhole : foldDocumentDeliveryOutboxRecord tenantId x (log ++ since) = some current := by
    rw [foldDocumentDeliveryOutboxRecord, foldRecordFrom_append]
    change foldDocumentDeliveryOutboxRecordFrom (foldDocumentDeliveryOutboxRecord tenantId x log) tenantId x since = _
    rw [hfold, hcurrent]
  have hdelivered := hok.delivered_iff.mpr ⟨current, hwhole, hstatus⟩
  obtain ⟨rest, rfl⟩ := hbetween
  exact hlast.delivered_append hdelivered

/-- **What the carried-over records are**: those that the checkpoint names, as they were at the
checkpoint, without some that are delivered by now. -/
theorem carryOver_eq {tenantId : TenantId} {last : OutboxLog} (hlast : OutboxLogOK tenantId last)
    {named : Record JsString DocumentDeliveryOutboxRecord} {histories : List (JsString × OutboxLog)}
    {records carried : Record JsString DocumentDeliveryOutboxRecord}
    (hnodup : (Record.keys records ++ Record.keys named).Nodup)
    (hnamed : ∀ x r, (x, r) ∈ named → foldDocumentDeliveryOutboxRecord tenantId x log = some r ∧ r.id = x)
    (hread : List.Forall₂ (ReadBetween tenantId log last) (Record.keys named) histories)
    (hcarried : carryOver tenantId log.length histories records = some carried) :
    ∃ keep : JsString → Bool, carried = records ++ named.filter (fun e => keep e.1) ∧
      ∀ x, keep x = false → x ∈ Record.keys named ∧ recordPhase x last = some .delivered := by
  induction named generalizing histories records with
  | nil =>
    cases hread
    obtain rfl := Option.some.inj hcarried
    exact ⟨fun _ => true, by simp, by simp⟩
  | cons entry named ih =>
    obtain ⟨x, r⟩ := entry
    rw [Record.keys, List.map_cons] at hread
    obtain ⟨⟨outboxId, events⟩, histories, hone, hrest, rfl⟩ := List.forall₂_cons_left_iff.mp hread
    obtain ⟨hfold, hid⟩ := hnamed x r List.mem_cons_self
    obtain ⟨hat, current, hcurrent, hdelivered⟩ := history_folds hlast hone hfold
    obtain ⟨rfl, -⟩ := hone
    have hnamed' : ∀ x r, (x, r) ∈ named → foldDocumentDeliveryOutboxRecord tenantId x log = some r ∧ r.id = x :=
      fun x r hmem => hnamed x r (List.mem_cons_of_mem _ hmem)
    have hkeys : (Record.keys records ++ outboxId :: Record.keys named).Nodup := hnodup
    have hout : outboxId ∉ Record.keys records ∧ outboxId ∉ Record.keys named ∧
        (Record.keys records ++ Record.keys named).Nodup := by
      have hmiddle := List.nodup_middle.mp hkeys
      rw [List.nodup_cons, List.mem_append, not_or] at hmiddle
      exact ⟨hmiddle.1.1, hmiddle.1.2, hmiddle.2⟩
    -- what is decided of this record does not matter for the others
    have hfilter : ∀ (keep : JsString → Bool) (b : Bool),
        named.filter (fun e => if e.1 = outboxId then b else keep e.1) = named.filter (fun e => keep e.1) := by
      intro keep b
      apply List.filter_congr
      intro e he
      have hne : e.1 ≠ outboxId := fun heq => hout.2.1 (heq ▸ List.mem_map_of_mem he)
      rw [if_neg hne]
    rw [carryOver, hat] at hcarried
    dsimp only at hcarried
    rw [hcurrent] at hcarried
    dsimp only at hcarried
    split_ifs at hcarried with hstatus
    · -- the record has been delivered since the checkpoint
      obtain ⟨keep, hkeep, hleft⟩ := ih hout.2.2 hnamed' hrest hcarried
      refine ⟨fun y => if y = outboxId then false else keep y, ?_, ?_⟩
      · rw [List.filter_cons_of_neg (by simp), hfilter keep false, hkeep]
      · intro y hy
        dsimp only at hy
        split_ifs at hy with hyx
        · subst hyx
          exact ⟨List.mem_cons_self, hdelivered hstatus⟩
        · exact ⟨List.mem_cons_of_mem _ (hleft y hy).1, (hleft y hy).2⟩
    · rw [hid, Record.set_of_not_mem hout.1] at hcarried
      have hnodup' : (Record.keys (records ++ [(outboxId, r)]) ++ Record.keys named).Nodup := by
        rw [Record.keys, List.map_append, List.append_assoc]
        exact hkeys
      obtain ⟨keep, hkeep, hleft⟩ := ih hnodup' hnamed' hrest hcarried
      refine ⟨fun y => if y = outboxId then true else keep y, ?_, ?_⟩
      · rw [List.filter_cons_of_pos (by simp), hfilter keep true, hkeep, List.append_assoc, List.singleton_append]
      · intro y hy
        dsimp only at hy
        split_ifs at hy with hyx
        exact ⟨List.mem_cons_of_mem _ (hleft y hy).1, (hleft y hy).2⟩

section State

variable {own : Set Empty} {s : OutboxStore} {tenantId : TenantId} {stream : StreamName}

theorem inv_log (hstream : documentDeliveryOutboxStream tenantId = some stream) (hs : outboxDiscipline.Inv s) :
    OutboxLogOK tenantId (s.logs stream) :=
  hs.2 tenantId stream hstream

theorem wp_wholeState (hstream : documentDeliveryOutboxStream tenantId = some stream)
    (h : ∀ t, LaterOK s t → Q (foldDocumentDeliveryOutbox tenantId (t.logs stream)) own t) :
    outboxWp own (wholeState tenantId stream) Q s := by
  unfold wholeState
  apply wp_bind
  apply wp_readStream
  intro t ht
  apply wp_pure
  have hall : (t.logs stream).filter (fun event =>
      decide (0 ≤ event.sequence) && event.event.payload.isOutbox) = t.logs stream := by
    rw [filter_isOutbox (inv_log hstream ht.inv).located]
    apply List.filter_eq_self.mpr
    intro e _
    simp
  rw [hall]
  exact h t ht

theorem wp_resumedState (hstream : documentDeliveryOutboxStream tenantId = some stream) (hlog : log <+: s.logs stream)
    {keep : JsString → Bool}
    (hkeep : ∀ x, keep x = false → x ∈ Record.keys (foldDocumentDeliveryOutbox tenantId log).records ∧
      recordPhase x (s.logs stream) = some .delivered)
    (h : ∀ t, LaterOK s t → Q (foldDocumentDeliveryOutbox tenantId (t.logs stream)) own t) :
    outboxWp own (resumedState tenantId stream log.length
      ((foldDocumentDeliveryOutbox tenantId log).records.filter (fun e => keep e.1))) Q s := by
  unfold resumedState
  apply wp_bind
  apply wp_readStream
  intro t ht
  apply wp_pure
  have hok := inv_log hstream ht.inv
  obtain ⟨tail, htail⟩ := hlog.trans (ht.later.logs stream)
  have hread : (t.logs stream).filter (fun event =>
      decide (log.length + 1 ≤ event.sequence) && event.event.payload.isOutbox) = tail := by
    rw [filter_isOutbox hok.located, ← htail]
    rw [← htail] at hok
    exact hok.numbered.filter_gt
  rw [hread]
  have hfold := h t ht
  rw [← htail] at hfold hok
  rw [hok.resume]
  · exact hfold
  · intro x hx
    refine ⟨(hkeep x hx).1, ?_⟩
    obtain ⟨rest, hrest⟩ := ht.later.logs stream
    rw [htail, ← hrest]
    have hok' := inv_log hstream ht.inv
    rw [← hrest] at hok'
    exact hok'.delivered_append (hkeep x hx).2

/-- A checkpoint that was read is in the log and tells the truth about what is before it. -/
theorem checkpoint_read (h : OutboxLogOK tenantId log) {checkpoint : Nat × List JsString}
    (hread : (log.filter (isAbout tenantId checkpointDocumentName)).getLast?.bind documentDeliveryOutboxCheckpoint =
      some checkpoint) :
    ∃ before, before <+: log ∧
      checkpoint = (before.length, Record.keys (foldDocumentDeliveryOutbox tenantId before).records) := by
  obtain ⟨e, hlast, hcheckpoint⟩ := Option.bind_eq_some_iff.mp hread
  have he : e ∈ log := (List.mem_filter.mp (List.mem_of_getLast? hlast)).1
  obtain ⟨before, after, hlog⟩ := List.append_of_mem he
  unfold documentDeliveryOutboxCheckpoint at hcheckpoint
  split at hcheckpoint
  · rename_i upToSequence carryOver hpayload
    obtain ⟨rfl, rfl⟩ := h.checkpoints before e after upToSequence carryOver hlog hpayload
    exact ⟨before, ⟨e :: after, hlog.symm⟩, (Option.some.inj hcheckpoint).symm⟩
  · exact nomatch hcheckpoint

/-- **The state that a reader puts together from separate reads is the working set of the stream as
it stands at the last of them.** -/
theorem wp_stateOf (hstream : documentDeliveryOutboxStream tenantId = some stream)
    (h : ∀ t, LaterOK s t → Q (foldDocumentDeliveryOutbox tenantId (t.logs stream)) own t) :
    outboxWp own (stateOf tenantId stream) Q s := by
  unfold stateOf lastCheckpoint
  apply wp_bind
  apply wp_bind
  apply wp_readDocumentEvents
  intro s₁ hs₁
  apply wp_pure
  cases hread : ((s₁.logs stream).filter (isAbout tenantId checkpointDocumentName)).getLast?.bind
      documentDeliveryOutboxCheckpoint with
  | none => exact wp_wholeState hstream (fun t ht => h t (hs₁.trans ht))
  | some checkpoint =>
    obtain ⟨before, hbefore, rfl⟩ := checkpoint_read (inv_log hstream hs₁.inv) hread
    have hok : OutboxLogOK tenantId before := (inv_log hstream hs₁.inv).of_initial hbefore
    apply wp_bind
    unfold carriedOverRecords
    apply wp_bind
    apply wp_readHistories _ hs₁.inv hbefore
    intro histories s₂ hs₂ hhistories
    apply wp_pure
    dsimp only
    cases hcarried : carryOver tenantId before.length histories [] with
    | none => exact wp_wholeState hstream (fun t ht => h t (hs₁.trans (hs₂.trans ht)))
    | some carried =>
      have hnodup := nodup_keys_fold tenantId before
      have hnamed : ∀ x r, (x, r) ∈ (foldDocumentDeliveryOutbox tenantId before).records →
          foldDocumentDeliveryOutboxRecord tenantId x before = some r ∧ r.id = x := by
        intro x r hmem
        have hget := Record.get_of_mem hnodup hmem
        refine ⟨?_, keyed_fold tenantId before x r hget⟩
        rw [get_fold tenantId hok.phased] at hget
        exact (Option.filter_eq_some_iff.mp hget).1
      obtain ⟨keep, rfl, hkeep⟩ := carryOver_eq (inv_log hstream hs₂.inv) (by simpa [Record.keys] using hnodup)
        hnamed hhistories hcarried
      exact wp_resumedState hstream (hbefore.trans (hs₂.later.logs stream)) hkeep
        (fun t ht => h t (hs₁.trans (hs₂.trans ht)))

theorem wp_state
    (h : ∀ stream t, documentDeliveryOutboxStream tenantId = some stream → LaterOK s t →
      Q (foldDocumentDeliveryOutbox tenantId (t.logs stream)) own t) :
    outboxWp own (state tenantId) Q s := by
  unfold state
  apply wp_bind
  apply wp_outboxStream
  intro stream hstream
  exact wp_stateOf hstream (fun t ht => h stream t hstream ht)

end State

/-! ## Appending -/

/-- What a plan owes: if nothing is appended while it is made, then its events continue the log
that its state was folded from. -/
def PlanOK (tenantId : TenantId) (stream : StreamName)
    (plan : DocumentDeliveryOutboxState → Nat → OutboxProgram OutboxPlan) : Prop :=
  ∀ own s attempt, outboxDiscipline.Inv s →
    outboxWp own (plan (foldDocumentDeliveryOutbox tenantId (s.logs stream)) attempt)
      (fun planned _ t => LaterOK s t ∧ (t.logs stream = s.logs stream →
        OutboxLogOK tenantId (s.logs stream ++ recorded (s.logs stream).length planned.events))) s

/-- An append to the stream of one tenant leaves the streams of the others alone. -/
theorem storeOK_push {s : OutboxStore} {tenantId : TenantId} {stream : StreamName} {events : List OutboxEvent}
    (h : OutboxStoreOK s) (hstream : documentDeliveryOutboxStream tenantId = some stream)
    (hok : OutboxLogOK tenantId (s.logs stream ++ recorded (s.logs stream).length events)) :
    OutboxStoreOK (s.push stream events) := by
  intro tenantId' stream' hstream'
  by_cases heq : stream' = stream
  · subst heq
    have htenant : tenantId' = tenantId := (Prod.mk.inj (StreamRef.documentStream_injective hstream' hstream)).1
    rw [htenant, LogState.push_logs_self]
    exact hok
  · rw [LogState.push_logs_of_ne _ _ heq]
    exact h tenantId' stream' hstream'

/-- **Planning again after every conflict keeps the log what it is.** -/
theorem wp_appendAttempt {own : Set Empty} {s : OutboxStore} {tenantId : TenantId} {stream : StreamName}
    (hstream : documentDeliveryOutboxStream tenantId = some stream)
    {plan : DocumentDeliveryOutboxState → Nat → OutboxProgram OutboxPlan} (hplan : PlanOK tenantId stream plan)
    (remaining : Nat) : outboxWp own (appendAttempt tenantId stream plan remaining) (fun _ _ _ => True) s := by
  induction remaining generalizing own s with
  | zero => exact wp_throw
  | succ remaining ih =>
    unfold appendAttempt
    apply wp_bind
    apply wp_state
    intro stream' t hstream' ht
    obtain rfl := Option.some.inj (hstream.symm.trans hstream')
    apply wp_bind
    apply wp_mono (hplan _ t _ ht.inv)
    rintro planned own' u ⟨hu, hcontinues⟩
    split_ifs
    · exact wp_pure trivial
    · apply wp_bind
      apply LogState.wp_append
      · intro s' error _ _
        dsimp only
        split_ifs
        · exact ih
        · exact wp_throw
      · intro s' hrely hinv hversion
        -- saved at the version of the state, so the log is still the one the state was read from
        have hlength : (s'.logs stream).length = (t.logs stream).length := by
          rw [hversion, fold_version tenantId (ht.inv.1 stream)]
        have hlog : s'.logs stream = t.logs stream := (hu.later.trans hrely.le).log_eq hlength
        have hmiddle : u.logs stream = t.logs stream := by
          apply hu.later.log_eq
          apply Nat.le_antisymm _ (hu.later.logs stream).length_le
          rw [← hlength]
          exact (hrely.le.logs stream).length_le
        refine ⟨?_, trivial, ?_, wp_pure trivial⟩
        · apply storeOK_push hinv.2 hstream
          rw [hlog]
          exact hcontinues hmiddle
        · intro event _ i
          exact i.elim

theorem wp_appendWithRetry {own : Set Empty} {s : OutboxStore} {tenantId : TenantId}
    {plan : DocumentDeliveryOutboxState → Nat → OutboxProgram OutboxPlan}
    (hplan : ∀ stream, documentDeliveryOutboxStream tenantId = some stream → PlanOK tenantId stream plan) :
    outboxWp own (appendWithRetry tenantId plan) (fun _ _ _ => True) s := by
  unfold appendWithRetry
  apply wp_bind
  apply wp_outboxStream
  intro stream hstream
  exact wp_appendAttempt hstream (hplan stream hstream) _

/-! ### enqueueFromDomainEvent -/

theorem colon_mem_recordId (eventId : JsString) (target : DocumentDeliveryOutboxTarget) :
    colon ∈ documentDeliveryOutboxRecordId eventId target := by
  have hcolon : js ":" = [colon] := by decide +kernel
  unfold documentDeliveryOutboxRecordId
  rw [hcolon]
  simp

theorem recordId_injective (eventId : JsString) : Function.Injective (documentDeliveryOutboxRecordId eventId) := by
  intro target target' heq
  have htext : target.text = target'.text := List.append_cancel_left heq
  revert htext
  cases target <;> cases target' <;> decide +kernel

/-- A record without events in the log has not been enqueued. -/
theorem recordPhase_of_unread {tenantId : TenantId} (h : OutboxLogOK tenantId log)
    (hread : (log.filter (isAbout tenantId x)).isEmpty = true) : recordPhase x log = some .absent := by
  apply OutboxLogOK.recordPhase_of_no_events
  intro e he hid
  rw [List.isEmpty_iff, List.filter_eq_nil_iff] at hread
  apply hread e he
  obtain ⟨htenant, hdoctype, hname⟩ := h.located e he
  cases hpayload : e.event.payload with
  | checkpointed upToSequence carryOver => simp [hpayload, DocumentDeliveryOutboxEventPayload.outboxId?] at hid
  | other kind => simp [hpayload, DocumentDeliveryOutboxEventPayload.outboxId?] at hid
  | _ =>
    rw [hpayload] at hid hname
    simp only [DocumentDeliveryOutboxEventPayload.outboxId?, Option.some.injEq] at hid
    simp [isAbout, htenant, hdoctype, hname.1, hid]

/-- The records that the plan leaves out have events already; the others had none when they were
read. -/
theorem wp_readEnqueued {own : Set Empty} {s : OutboxStore} {tenantId : TenantId} {stream : StreamName}
    (outboxIds : List JsString) (hs : outboxDiscipline.Inv s)
    {Q : List JsString → Set Empty → OutboxStore → Prop}
    (h : ∀ enqueued t, LaterOK s t →
      (∀ x ∈ outboxIds, x ∉ enqueued → ∃ log, s.logs stream <+: log ∧ log <+: t.logs stream ∧
        (log.filter (isAbout tenantId x)).isEmpty = true) → Q enqueued own t) :
    outboxWp own (readEnqueued tenantId stream outboxIds) Q s := by
  induction outboxIds generalizing s Q with
  | nil => exact h [] s (LaterOK.refl hs) (fun x hx => absurd hx List.not_mem_nil)
  | cons outboxId outboxIds ih =>
    unfold readEnqueued
    apply wp_bind
    apply wp_readDocumentEvents
    intro t ht
    apply wp_bind
    apply ih ht.inv
    intro enqueued u hu hunread
    apply wp_pure
    apply h _ u (ht.trans hu)
    intro x hx hnot
    rcases List.mem_cons.mp hx with rfl | hx
    · refine ⟨t.logs stream, ht.later.logs stream, hu.later.logs stream, ?_⟩
      by_contra hsome
      apply hnot
      rw [if_neg]
      · exact List.mem_cons_self
      · simpa [List.isEmpty_iff] using hsome
    · have hnot' : x ∉ enqueued := by
        intro hmem
        apply hnot
        split_ifs
        · exact hmem
        · exact List.mem_cons_of_mem _ hmem
      obtain ⟨log, hfirst, hlast, hempty⟩ := hunread x hx hnot'
      exact ⟨log, (ht.later.logs stream).trans hfirst, hlast, hempty⟩

/-- The events of the plan are enqueued events of records that were not left out. -/
def EnqueuedEvents (command : EnqueueDocumentDeliveryOutboxCommand) (enqueued : List JsString)
    (targets : List DocumentDeliveryOutboxTarget) (events : List OutboxEvent) : Prop :=
  (∀ e ∈ events, ∃ target ∈ targets, Located command.event.tenantId e ∧
    e.payload = enqueuedPayload command target ∧
    documentDeliveryOutboxRecordId command.event.id target ∉ enqueued) ∧
  (targets.Nodup → (events.map (·.payload.outboxId?)).Nodup)

theorem wp_enqueuedEvents {own : Set Empty} {s : OutboxStore} {command : EnqueueDocumentDeliveryOutboxCommand}
    {stream : StreamName} {enqueued : List JsString} (targets : List DocumentDeliveryOutboxTarget)
    (hs : outboxDiscipline.Inv s) {Q : List OutboxEvent → Set Empty → OutboxStore → Prop}
    (h : ∀ events own t, LaterOK s t → EnqueuedEvents command enqueued targets events → Q events own t) :
    outboxWp own (enqueuedEvents command stream enqueued targets) Q s := by
  induction targets generalizing own s Q with
  | nil =>
    apply h [] own s (LaterOK.refl hs)
    exact ⟨fun e he => absurd he List.not_mem_nil, fun _ => List.nodup_nil⟩
  | cons target targets ih =>
    unfold enqueuedEvents
    split_ifs with hin
    · apply ih hs
      rintro events own' t ht ⟨hevents, hnodup⟩
      apply h events own' t ht
      refine ⟨?_, fun htargets => hnodup (List.nodup_cons.mp htargets).2⟩
      intro e he
      obtain ⟨target', htarget', hrest⟩ := hevents e he
      exact ⟨target', List.mem_cons_of_mem _ htarget', hrest⟩
    · apply wp_bind
      apply wp_nextId
      intro id own' t ht
      apply wp_bind
      apply ih ht.inv
      rintro events own'' u hu ⟨hevents, hnodup⟩
      apply wp_pure
      apply h _ own'' u (ht.trans hu)
      refine ⟨?_, ?_⟩
      · intro e he
        rcases List.mem_cons.mp he with rfl | he
        · refine ⟨target, List.mem_cons_self, ?_, rfl, by simpa using hin⟩
          exact ⟨rfl, rfl, rfl, colon_mem_recordId _ _⟩
        · obtain ⟨target', htarget', hrest⟩ := hevents e he
          exact ⟨target', List.mem_cons_of_mem _ htarget', hrest⟩
      · intro htargets
        rw [List.nodup_cons] at htargets
        rw [List.map_cons, List.nodup_cons]
        refine ⟨?_, hnodup htargets.2⟩
        intro hmem
        obtain ⟨e, he, hsame⟩ := List.mem_map.mp hmem
        obtain ⟨target', htarget', -, hpayload, -⟩ := hevents e he
        rw [hpayload] at hsame
        -- the id of a record tells its target, so no two events are about one record
        have hid : target' = target := recordId_injective _ (Option.some.inj hsame)
        exact htargets.1 (hid ▸ htarget')

theorem planOK_enqueue (command : EnqueueDocumentDeliveryOutboxCommand) {stream : StreamName}
    (hstream : documentDeliveryOutboxStream command.event.tenantId = some stream) :
    PlanOK command.event.tenantId stream (planEnqueue command) := by
  intro own s attempt hs
  unfold planEnqueue
  apply wp_bind
  apply wp_outboxStream
  intro stream' hstream'
  obtain rfl := Option.some.inj (hstream.symm.trans hstream')
  apply wp_bind
  apply wp_readEnqueued _ hs
  intro enqueued t ht hunread
  apply wp_bind
  apply wp_enqueuedEvents _ ht.inv
  rintro events own' u hu ⟨hevents, hnodup⟩
  apply wp_pure
  refine ⟨ht.trans hu, ?_⟩
  intro hsame
  have hok := inv_log hstream hs
  apply hok.batch
  · intro e he
    obtain ⟨target, -, hlocated, -⟩ := hevents e he
    exact hlocated
  · exact hnodup (nodup_eraseDups _)
  · intro e he
    obtain ⟨target, htarget, -, hpayload, hnot⟩ := hevents e he
    obtain ⟨log, hfirst, hlast, hempty⟩ := hunread _ (List.mem_map_of_mem htarget) hnot
    -- the log was the same when the events of the record were read
    have hlog : log = s.logs stream := by
      apply (hfirst.eq_of_length _).symm
      apply Nat.le_antisymm hfirst.length_le
      rw [← hsame]
      exact (hlast.trans (hu.later.logs stream)).length_le
    rw [hlog] at hempty
    refine ⟨_, .absent, ?_, recordPhase_of_unread hok hempty, ?_⟩
    · rw [hpayload]
      rfl
    · rw [hpayload]
      rfl

/-! ### claimPending -/

theorem map_id_records (tenantId : TenantId) (log : OutboxLog) :
    ((foldDocumentDeliveryOutbox tenantId log).records.map Prod.snd).map (·.id) =
      Record.keys (foldDocumentDeliveryOutbox tenantId log).records := by
  rw [List.map_map, Record.keys]
  apply List.map_congr_left
  rintro ⟨x, r⟩ hmem
  exact keyed_fold tenantId log x r (Record.get_of_mem (nodup_keys_fold tenantId log) hmem)

/-- A claimable record is in the working set, pending or failed. -/
theorem claimable_spec {tenantId : TenantId} (h : OutboxLogOK tenantId log) {limit : Nat}
    (hr : r ∈ claimableDocumentDeliveryOutboxRecords localeCompare (foldDocumentDeliveryOutbox tenantId log) now limit) :
    colon ∈ r.id ∧ ∃ phase, recordPhase r.id log = some phase ∧ (phase = .pending ∨ phase = .failed) := by
  have hmem := (List.perm_insertionSort _ _).mem_iff.mp (List.mem_of_mem_take hr)
  obtain ⟨hvalue, hstatus⟩ := List.mem_filter.mp hmem
  obtain ⟨⟨x, r'⟩, hentry, rfl⟩ := List.mem_map.mp hvalue
  obtain ⟨hid, hphase⟩ := h.phase_of_get (Record.get_of_mem (nodup_keys_fold tenantId log) hentry)
  dsimp only at hid hstatus ⊢
  rw [hid]
  rcases hphase with ⟨-, hphase⟩ | ⟨-, hphase⟩ | ⟨claimId, hclaimed, -⟩
  · exact ⟨h.colon_mem hphase (by decide), .pending, hphase, Or.inl rfl⟩
  · exact ⟨h.colon_mem hphase (by decide), .failed, hphase, Or.inr rfl⟩
  · simp [hclaimed] at hstatus

theorem nodup_claimable (localeCompare : JsString → JsString → Ordering) (tenantId : TenantId) (log : OutboxLog)
    (now : Timestamp) (limit : Nat) :
    ((claimableDocumentDeliveryOutboxRecords localeCompare (foldDocumentDeliveryOutbox tenantId log) now limit).map
      (·.id)).Nodup := by
  have hkeys := nodup_keys_fold tenantId log
  rw [← map_id_records] at hkeys
  unfold claimableDocumentDeliveryOutboxRecords sortOutboxRecords
  apply List.Nodup.sublist (List.Sublist.map _ (List.take_sublist _ _))
  rw [((List.perm_insertionSort _ _).map _).nodup_iff]
  exact hkeys.sublist (List.Sublist.map _ List.filter_sublist)

/-- The events of a claim: one for every record. -/
def ClaimedEvents (tenantId : TenantId) (claimId : JsString) (records : List DocumentDeliveryOutboxRecord)
    (events : List OutboxEvent) : Prop :=
  (∀ e ∈ events, e.tenantId = tenantId ∧ e.doctype = outboxDoctype ∧
    ∃ r ∈ records, e.documentName = r.id ∧ e.payload = .claimed r.id claimId) ∧
  events.map (·.payload.outboxId?) = records.map (fun r => some r.id)

/-- A batch of claims. -/
theorem OutboxLogOK.claimed {tenantId : TenantId} (h : OutboxLogOK tenantId log) {limit : Nat}
    {events : List OutboxEvent}
    (hevents : ClaimedEvents tenantId claimId (claimableDocumentDeliveryOutboxRecords localeCompare
      (foldDocumentDeliveryOutbox tenantId log) now limit) events) :
    OutboxLogOK tenantId (log ++ recorded log.length events) := by
  obtain ⟨hevents, hids⟩ := hevents
  apply h.batch
  · intro e he
    obtain ⟨htenant, hdoctype, r, hr, hname, hpayload⟩ := hevents e he
    refine ⟨htenant, hdoctype, ?_⟩
    rw [hpayload]
    exact ⟨hname, (claimable_spec h hr).1⟩
  · rw [hids]
    have hnodup := nodup_claimable localeCompare tenantId log now limit
    rw [← List.nodup_map_iff (Option.some_injective JsString), List.map_map] at hnodup
    exact hnodup
  · intro e he
    obtain ⟨-, -, r, hr, -, hpayload⟩ := hevents e he
    obtain ⟨-, phase, hphase, hclaimable⟩ := claimable_spec h hr
    refine ⟨r.id, phase, ?_, hphase, ?_⟩
    · rw [hpayload]
      rfl
    · rw [hpayload]
      rcases hclaimable with rfl | rfl <;> rfl

theorem wp_claimedEvents {own : Set Empty} {s : OutboxStore} {tenantId : TenantId} {stream : StreamName}
    (records : List DocumentDeliveryOutboxRecord) (hs : outboxDiscipline.Inv s)
    {Q : List OutboxEvent → Set Empty → OutboxStore → Prop}
    (h : ∀ events own t, LaterOK s t → ClaimedEvents tenantId claimId records events → Q events own t) :
    outboxWp own (claimedEvents tenantId stream claimId now records) Q s := by
  induction records generalizing own s Q with
  | nil => exact h [] own s (LaterOK.refl hs) ⟨fun e he => absurd he List.not_mem_nil, rfl⟩
  | cons record records ih =>
    unfold claimedEvents
    apply wp_bind
    apply wp_nextId
    intro id own' t ht
    apply wp_bind
    apply ih ht.inv
    rintro events own'' u hu ⟨hevents, hids⟩
    apply wp_pure
    refine h _ own'' u (ht.trans hu) ⟨?_, ?_⟩
    · intro e he
      rcases List.mem_cons.mp he with rfl | he
      · exact ⟨rfl, rfl, record, List.mem_cons_self, rfl, rfl⟩
      · obtain ⟨htenant, hdoctype, r, hr, hrest⟩ := hevents e he
        exact ⟨htenant, hdoctype, r, List.mem_cons_of_mem _ hr, hrest⟩
    · rw [List.map_cons, List.map_cons, hids]
      rfl

theorem planOK_claim {tenantId : TenantId} {stream : StreamName}
    (hstream : documentDeliveryOutboxStream tenantId = some stream) (claimId : JsString) (now : Timestamp) (limit : Nat) :
    PlanOK tenantId stream (planClaim localeCompare tenantId claimId now limit) := by
  intro own s attempt hs
  unfold planClaim
  apply wp_bind
  apply wp_outboxStream
  intro stream' hstream'
  obtain rfl := Option.some.inj (hstream.symm.trans hstream')
  apply wp_bind
  apply wp_claimedEvents _ hs
  intro events own' t ht hevents
  apply wp_pure
  exact ⟨ht, fun _ => (inv_log hstream hs).claimed hevents⟩

/-! ### markDelivered and markFailed -/

/-- The worker that holds a record may go on with it. -/
theorem claimed_spec {tenantId : TenantId} (h : OutboxLogOK tenantId log)
    (hget : Record.get (foldDocumentDeliveryOutbox tenantId log).records x = some r) {u : Unit}
    (hclaimed : ensureDocumentDeliveryOutboxClaimed r claimId = .ok u) :
    colon ∈ x ∧ recordPhase x log = some (.claimed claimId) := by
  have hensure := ensure_eq_ok hclaimed
  simp only [Bool.and_eq_true, decide_eq_true_eq] at hensure
  obtain ⟨hid, hphase⟩ := h.phase_of_get hget
  rcases hphase with ⟨hstatus, -⟩ | ⟨hstatus, -⟩ | ⟨holder, -, hholder, hphase⟩
  · exact absurd (hstatus.symm.trans hensure.1) (by decide)
  · exact absurd (hstatus.symm.trans hensure.1) (by decide)
  · rw [hholder, Option.some.injEq] at hensure
    rw [hensure.2] at hphase
    exact ⟨h.colon_mem hphase (by simp), hphase⟩

/-- The holder of a record appends what becomes of it. -/
theorem OutboxLogOK.finished {tenantId : TenantId} (h : OutboxLogOK tenantId log) (hcolon : colon ∈ x)
    (hphase : recordPhase x log = some (.claimed claimId)) {e : OutboxEvent} (htenant : e.tenantId = tenantId)
    (hdoctype : e.doctype = outboxDoctype) (hname : e.documentName = x)
    (hpayload : e.payload = .delivered x claimId ∨ ∃ error retryAt, e.payload = .failed x claimId error retryAt) :
    OutboxLogOK tenantId (log ++ [⟨log.length + 1, e⟩]) := by
  have hid : e.payload.outboxId? = some x := by
    rcases hpayload with hpayload | ⟨error, retryAt, hpayload⟩ <;> rw [hpayload] <;> rfl
  have hnext : ((OutboxPhase.claimed claimId).next e.payload).isSome = true := by
    rcases hpayload with hpayload | ⟨error, retryAt, hpayload⟩ <;>
      rw [hpayload, OutboxPhase.next, if_pos rfl] <;> rfl
  apply h.snoc
  · refine ⟨htenant, hdoctype, ?_⟩
    rcases hpayload with hpayload | ⟨error, retryAt, hpayload⟩ <;> rw [hpayload] <;> exact ⟨hname, hcolon⟩
  · intro y hy
    rw [hid, Option.some.injEq] at hy
    subst hy
    exact ⟨_, hphase, hnext⟩
  · intro upToSequence carryOver hcheckpoint
    rw [hcheckpoint] at hid
    cases hid

theorem wp_record {own : Set Empty} {s : OutboxStore} {tenantId : TenantId} {outboxId : JsString}
    {Q : Option DocumentDeliveryOutboxRecord → Set Empty → OutboxStore → Prop}
    (h : ∀ stream t, documentDeliveryOutboxStream tenantId = some stream → LaterOK s t →
      Q (foldDocumentDeliveryOutboxRecord tenantId outboxId (t.logs stream)) own t) :
    outboxWp own (record tenantId outboxId) Q s := by
  unfold record
  apply wp_bind
  apply wp_outboxStream
  intro stream hstream
  apply wp_bind
  apply wp_readDocumentEvents
  intro t ht
  apply wp_pure
  have hfold : foldDocumentDeliveryOutboxRecord tenantId outboxId
      ((t.logs stream).filter (isAbout tenantId outboxId)) =
      foldDocumentDeliveryOutboxRecord tenantId outboxId (t.logs stream) :=
    foldRecordFrom_filter none (inv_log hstream ht.inv).located
  rw [hfold]
  exact h stream t hstream ht

/-- A checkpoint that names what is in flight. -/
theorem OutboxLogOK.checkpointed {tenantId : TenantId} (h : OutboxLogOK tenantId log) {e : OutboxEvent}
    (htenant : e.tenantId = tenantId) (hdoctype : e.doctype = outboxDoctype)
    (hname : e.documentName = checkpointDocumentName)
    (hpayload : e.payload = .checkpointed (foldDocumentDeliveryOutbox tenantId log).version
      (Record.keys (foldDocumentDeliveryOutbox tenantId log).records)) :
    OutboxLogOK tenantId (log ++ [⟨log.length + 1, e⟩]) ∧
      ∀ x, recordPhase x (log ++ [⟨log.length + 1, e⟩]) = recordPhase x log := by
  have hid : ∀ x, e.payload.outboxId? ≠ some x := by
    intro x hx
    rw [hpayload] at hx
    cases hx
  refine ⟨h.snoc ?_ (fun x hx => absurd hx (hid x)) ?_, fun x => OutboxLogOK.recordPhase_snoc (hid x)⟩
  · refine ⟨htenant, hdoctype, ?_⟩
    rw [hpayload]
    exact hname
  · intro upToSequence carryOver hcheckpoint
    rw [hpayload] at hcheckpoint
    obtain ⟨rfl, rfl⟩ := DocumentDeliveryOutboxEventPayload.checkpointed.inj hcheckpoint
    exact ⟨fold_version tenantId h.numbered, rfl⟩

/-- The checkpoint of a plan, if there is one, names what is in flight. -/
theorem wp_plannedCheckpoint {own : Set Empty} {s : OutboxStore} {tenantId : TenantId} {stream : StreamName}
    (hs : outboxDiscipline.Inv s) (hlog : OutboxLogOK tenantId log) (attempt : Nat)
    {Q : List OutboxEvent → Set Empty → OutboxStore → Prop}
    (h : ∀ events own t, LaterOK s t →
      (OutboxLogOK tenantId (log ++ recorded log.length events) ∧
        ∀ x, recordPhase x (log ++ recorded log.length events) = recordPhase x log) → Q events own t) :
    outboxWp own (plannedCheckpoint tenantId stream (foldDocumentDeliveryOutbox tenantId log) attempt) Q s := by
  unfold plannedCheckpoint
  split_ifs
  · apply h [] own s (LaterOK.refl hs)
    rw [recorded, List.append_nil]
    exact ⟨hlog, fun _ => rfl⟩
  · apply wp_bind
    apply wp_now
    intro now own' t ht
    apply wp_pure
    apply h _ own' t ht
    rw [recorded, recorded]
    exact hlog.checkpointed rfl rfl rfl rfl

theorem planOK_delivered (command : CompleteDocumentDeliveryOutboxCommand) {stream : StreamName}
    (hstream : documentDeliveryOutboxStream command.tenantId = some stream) :
    PlanOK command.tenantId stream (planDelivered command) := by
  intro own s attempt hs
  have hok := inv_log hstream hs
  unfold planDelivered
  cases hget : Record.get (foldDocumentDeliveryOutbox command.tenantId (s.logs stream)).records command.outboxId with
  | none =>
    change outboxWp own (planMissingDelivered command) _ s
    unfold planMissingDelivered
    apply wp_bind
    apply wp_record
    intro stream' t _ ht
    split_ifs
    · apply wp_pure
      refine ⟨ht, fun _ => ?_⟩
      rw [recorded, List.append_nil]
      exact hok
    · exact wp_throw
  | some existing =>
    apply wp_checked
    intro u hclaimed
    obtain ⟨hcolon, hphase⟩ := claimed_spec hok hget hclaimed
    apply wp_bind
    apply wp_outboxStream
    intro stream' hstream'
    obtain rfl := Option.some.inj (hstream.symm.trans hstream')
    apply wp_bind
    apply wp_plannedCheckpoint hs hok
    rintro checkpoint own₁ t₁ ht₁ ⟨hchecked, hphases⟩
    apply wp_bind
    apply wp_nextId
    intro id own₂ t₂ ht₂
    apply wp_bind
    apply wp_now
    intro now own₃ t₃ ht₃
    apply wp_pure
    refine ⟨ht₁.trans (ht₂.trans ht₃), fun _ => ?_⟩
    -- the delivery comes after the checkpoint, in the same append
    rw [recorded_append, ← List.append_assoc]
    have hlength : (s.logs stream).length + checkpoint.length =
        (s.logs stream ++ recorded (s.logs stream).length checkpoint).length := by
      rw [List.length_append, recorded_length]
    rw [hlength]
    exact hchecked.finished hcolon ((hphases _).trans hphase) rfl rfl rfl (Or.inl rfl)

theorem planOK_failed (command : FailDocumentDeliveryOutboxCommand) (error : JsString) {stream : StreamName}
    (hstream : documentDeliveryOutboxStream command.tenantId = some stream) :
    PlanOK command.tenantId stream (planFailed command error) := by
  intro own s attempt hs
  have hok := inv_log hstream hs
  unfold planFailed
  apply wp_checked
  intro existing hexisting
  have hget : Record.get (foldDocumentDeliveryOutbox command.tenantId (s.logs stream)).records command.outboxId =
      some existing := by
    unfold requireOutboxRecord at hexisting
    split at hexisting
    · rename_i record hrecord
      rw [hrecord, Except.ok.inj hexisting]
    · cases hexisting
  apply wp_checked
  intro u hclaimed
  obtain ⟨hcolon, hphase⟩ := claimed_spec hok hget hclaimed
  apply wp_bind
  apply wp_outboxStream
  intro stream' hstream'
  obtain rfl := Option.some.inj (hstream.symm.trans hstream')
  apply wp_bind
  apply wp_nextId
  intro id own₁ t₁ ht₁
  apply wp_bind
  apply wp_now
  intro now own₂ t₂ ht₂
  apply wp_pure
  refine ⟨ht₁.trans ht₂, fun _ => ?_⟩
  rw [recorded, recorded]
  exact hok.finished hcolon hphase rfl rfl rfl (Or.inr ⟨error, command.retryAt, rfl⟩)

/-! ## Every run -/

theorem wp_completedRecord {own : Set Empty} {s : OutboxStore} {command : CompleteDocumentDeliveryOutboxCommand}
    {appended delivered : Option DocumentDeliveryOutboxRecord} :
    outboxWp own (completedRecord command appended delivered) (fun _ _ _ => True) s := by
  unfold completedRecord
  split
  · exact wp_pure trivial
  · apply wp_bind
    apply wp_state
    intro stream t _ _
    apply wp_ofExcept
    intros
    trivial

theorem wp_claimPending {own : Set Empty} {s : OutboxStore} (command : ClaimDocumentDeliveryOutboxCommand) :
    outboxWp own (claimPending localeCompare command) (fun _ _ _ => True) s := by
  have hrest : ∀ now claimId own s, outboxWp own
      (Program.ofExcept (documentDeliveryOutboxClaimLimit command.limit) >>= fun limit =>
        appendWithRetry command.tenantId (planClaim localeCompare command.tenantId claimId now limit))
      (fun _ _ _ => True) s := by
    intro now claimId own s
    apply wp_checked
    intro limit _
    exact wp_appendWithRetry (fun stream hstream => planOK_claim hstream claimId now limit)
  have hclaim : ∀ now own s, outboxWp own
      (claimIdOr command.claimId >>= fun claimId =>
        Program.ofExcept (documentDeliveryOutboxClaimLimit command.limit) >>= fun limit =>
          appendWithRetry command.tenantId (planClaim localeCompare command.tenantId claimId now limit))
      (fun _ _ _ => True) s := by
    intro now own s
    apply wp_bind
    cases command.claimId with
    | some claimId => exact wp_pure (hrest now claimId own s)
    | none => exact wp_nextId (fun claimId own t _ => hrest now claimId own t)
  apply wp_bind
  cases command.now with
  | some now => exact wp_pure (hclaim now own s)
  | none => exact wp_now (fun now own t _ => hclaim now own t)

/-- What the readers of the outbox return. -/
def OutboxCommand.Returns (localeCompare : JsString → JsString → Ordering) (command : OutboxCommand)
    (result : OutboxResult) (s : OutboxStore) : Prop :=
  match command with
  | .state tenantId => ∃ stream, documentDeliveryOutboxStream tenantId = some stream ∧
      result = .state (foldDocumentDeliveryOutbox tenantId (s.logs stream))
  | .list tenantId => ∃ stream, documentDeliveryOutboxStream tenantId = some stream ∧
      result = .records (sortedDocumentDeliveryOutboxRecords localeCompare
        (foldDocumentDeliveryOutbox tenantId (s.logs stream)))
  | .record tenantId outboxId => ∃ stream, documentDeliveryOutboxStream tenantId = some stream ∧
      result = .record (foldDocumentDeliveryOutboxRecord tenantId outboxId (s.logs stream))
  | _ => True

/-- **Every command keeps the outbox streams what they are**, and a reader returns what the stream
says at its last read. -/
theorem wp_program (localeCompare : JsString → JsString → Ordering) (command : OutboxCommand) (own : Set Empty)
    (s : OutboxStore) :
    outboxWp own (command.program localeCompare) (fun result _ t => command.Returns localeCompare result t) s := by
  -- what an operation returns matters only for the readers; the writers append by one of the plans
  cases command with
  | enqueueFromDomainEvent command =>
    apply wp_bind
    unfold enqueueFromDomainEvent
    split_ifs
    · exact wp_pure (wp_pure trivial)
    · apply wp_mono (wp_appendWithRetry (fun stream hstream => planOK_enqueue command hstream))
      intros
      exact wp_pure trivial
  | claimPending command =>
    apply wp_bind
    apply wp_mono (wp_claimPending command)
    intros
    exact wp_pure trivial
  | markDelivered command =>
    apply wp_bind
    unfold markDelivered
    apply wp_bind
    apply wp_mono (wp_appendWithRetry (fun stream hstream => planOK_delivered command hstream))
    intro records own t _
    cases records with
    | cons record records => exact wp_pure (wp_pure trivial)
    | nil =>
      apply wp_bind
      unfold deliveredRecord
      apply wp_bind
      apply wp_record
      intro stream u _ _
      apply wp_pure
      apply wp_mono wp_completedRecord
      intros
      exact wp_pure trivial
  | markFailed command =>
    apply wp_bind
    unfold markFailed
    apply wp_checked
    intro error _
    apply wp_bind
    apply wp_mono (wp_appendWithRetry (fun stream hstream => planOK_failed command error hstream))
    intro records own t _
    apply wp_mono wp_completedRecord
    intros
    exact wp_pure trivial
  | state tenantId =>
    apply wp_bind
    apply wp_state
    intro stream t hstream _
    exact wp_pure ⟨stream, hstream, rfl⟩
  | list tenantId =>
    apply wp_bind
    unfold list
    apply wp_bind
    apply wp_state
    intro stream t hstream _
    exact wp_pure (wp_pure ⟨stream, hstream, rfl⟩)
  | record tenantId outboxId =>
    apply wp_bind
    apply wp_record
    intro stream t hstream _
    exact wp_pure ⟨stream, hstream, rfl⟩
