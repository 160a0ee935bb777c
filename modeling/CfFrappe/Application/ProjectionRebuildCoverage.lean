import CfFrappe.Application.ProjectionRebuildRuns
import CfFrappe.Lib.Sequential
import CfFrappe.Lib.SharedState

set_option autoImplicit false

/-! # What a rebuild covers

Drivers and aborts of one run, interleaved with appends to the document streams. When the run completes,
the cursor has passed every stream that existed at its start, and what it has passed it has counted and
done (`RebuildOK`).

Not every event finds the run running: a driver that has done the last batch reads the run again and
completes it without a look at the status. As long as it finds the run running, a rebuild covers every
stream once and ends once (`rebuild_covers_streams_once`); an abort that comes right before is overruled
(`rebuild_abort_overruled`).
-/

open Utf ProjectionRebuildService
open Program (comes_ofExcept comes_perform comes_then onward_ok)
open SharedState (wp_checked wp_mono wp_ofExcept wp_then wp_throw)

namespace RebuildWorld

/-- What others may have done: logs grow, and what was read and saved stays. -/
structure Later (w w' : RebuildWorld) : Prop where
  runs : ∀ stream, w.runs stream <+: w'.runs stream
  documents : ∀ stream, w.documents stream <+: w'.documents stream
  reads : w.reads <+: w'.reads
  saves : w.saves <+: w'.saves

variable {w w' w'' : RebuildWorld}

theorem Later.refl (w : RebuildWorld) : w.Later w :=
  ⟨fun _ => List.prefix_rfl, fun _ => List.prefix_rfl, List.prefix_rfl, List.prefix_rfl⟩

theorem Later.trans (h : w.Later w') (h' : w'.Later w'') : w.Later w'' :=
  ⟨fun stream => (h.runs stream).trans (h'.runs stream), fun stream => (h.documents stream).trans (h'.documents stream),
    h.reads.trans h'.reads, h.saves.trans h'.saves⟩

@[simp] theorem pushRun_runs_self (w : RebuildWorld) (stream : StreamName) (event : ProjectionRebuildEvent) :
    (w.pushRun stream event).runs stream = w.runs stream ++ recorded (w.runs stream).length [event] := by
  unfold pushRun
  exact if_pos rfl

theorem Later.pushRun (w : RebuildWorld) (stream : StreamName) (event : ProjectionRebuildEvent) :
    w.Later (w.pushRun stream event) := by
  refine ⟨fun k => ?_, fun _ => List.prefix_rfl, List.prefix_rfl, List.prefix_rfl⟩
  unfold RebuildWorld.pushRun
  dsimp only
  split_ifs
  · exact List.prefix_append _ _
  · exact List.prefix_rfl

theorem Later.pushDocument (w : RebuildWorld) (stream : StreamName) (events : List DomainEvent) :
    w.Later (w.pushDocument stream events) := by
  refine ⟨fun _ => List.prefix_rfl, fun k => ?_, List.prefix_rfl, List.prefix_rfl⟩
  unfold RebuildWorld.pushDocument
  dsimp only
  split_ifs
  · exact List.prefix_append _ _
  · exact List.prefix_rfl

theorem exec_later {action : RebuildAction} {reply : action.Reply} (h : w.exec action reply w') : w.Later w' := by
  cases action with
  | readRun stream last =>
    obtain ⟨-, rfl⟩ := h
    exact Later.refl _
  | appendRun stream version event =>
    rcases h with ⟨error, -, rfl⟩ | ⟨-, -, rfl⟩
    · exact Later.refl _
    · exact Later.pushRun _ _ _
  | checkTarget name =>
    obtain rfl := h
    exact Later.refl _
  | listStreams tenantId doctype =>
    obtain ⟨-, rfl⟩ := h
    exact Later.refl _
  | readStream stream =>
    rcases h with ⟨error, -, rfl⟩ | ⟨-, rfl⟩
    · exact Later.refl _
    · exact ⟨fun _ => List.prefix_rfl, fun _ => List.prefix_rfl, List.prefix_append _ _, List.prefix_rfl⟩
  | save target snapshot =>
    rcases h with ⟨error, -, rfl⟩ | ⟨-, rfl⟩
    · exact Later.refl _
    · exact ⟨fun _ => List.prefix_rfl, fun _ => List.prefix_rfl, List.prefix_rfl, List.prefix_append _ _⟩
  | extend stream events =>
    rcases h with ⟨error, -, rfl⟩ | ⟨-, rfl⟩
    · exact Later.refl _
    · exact Later.pushDocument _ _ _

theorem HasStream.later {tenantId : TenantId} {doctype : DocTypeName} {stream : StreamName}
    (h : w.HasStream tenantId doctype stream) (hlater : w.Later w') : w'.HasStream tenantId doctype stream := by
  obtain ⟨e, he, howner⟩ := h
  exact ⟨e, (hlater.documents stream).subset he, howner⟩

end RebuildWorld

/-! ## The invariant -/

/-- What a batch says about a stream is so: it has been read since the start of the run, and saved to
the target if it folds to a document. -/
def Justified (target : JsString) (w : RebuildWorld) : StreamName × RebuildOutcome → Prop
  | (stream, .saved) =>
    ∃ events snapshot, (stream, events) ∈ w.reads ∧ foldDocument events = some snapshot ∧ (target, snapshot) ∈ w.saves
  | (stream, .empty) => ∃ events, (stream, events) ∈ w.reads ∧ foldDocument events = none
  | (_, .failed _) => True

theorem Justified.later {target : JsString} {w w' : RebuildWorld} {count : StreamName × RebuildOutcome}
    (h : Justified target w count) (hlater : w.Later w') : Justified target w' count := by
  obtain ⟨stream, outcome⟩ := count
  cases outcome with
  | saved =>
    obtain ⟨events, snapshot, hread, hfold, hsaved⟩ := h
    exact ⟨events, snapshot, hlater.reads.subset hread, hfold, hlater.saves.subset hsaved⟩
  | empty =>
    obtain ⟨events, hread, hfold⟩ := h
    exact ⟨events, hlater.reads.subset hread, hfold⟩
  | failed reason => trivial

/-- How far a run has come in a state of it. -/
structure Covers (base : RebuildBase) (w : RebuildWorld) (state : ProjectionRebuildState) : Prop where
  existing : ∀ stream, base.existed stream → w.HasStream base.tenantId base.doctype stream
  justified : ∀ e ∈ w.runs base.run, ∀ count ∈ e.event.counts, Justified base.target w count
  passed : ∀ stream, base.existed stream → RunHistory.Passed state stream →
    stream ∈ RunHistory.countedOf (w.runs base.run)
  completed : state.status = .completed → ∀ stream, base.existed stream → RunHistory.Passed state stream

/-- **The invariant.** -/
def RebuildOK (base : RebuildBase) (w : RebuildWorld) : Prop :=
  ∃ state, RunHistory base (w.runs base.run) state ∧ Covers base w state

section Invariant

variable {base : RebuildBase} {w w' : RebuildWorld} {state : ProjectionRebuildState}

/-- Nothing that leaves the run alone touches the invariant. -/
theorem RebuildOK.later (h : RebuildOK base w) (hlater : w.Later w') (hruns : w'.runs base.run = w.runs base.run) :
    RebuildOK base w' := by
  obtain ⟨state, hhistory, hcovers⟩ := h
  refine ⟨state, hruns ▸ hhistory, ?_, ?_, hruns ▸ hcovers.passed, hcovers.completed⟩
  · intro stream hexisted
    exact (hcovers.existing stream hexisted).later hlater
  · intro e he count hcount
    rw [hruns] at he
    exact (hcovers.justified e he count hcount).later hlater

theorem RebuildOK.covers (h : RebuildOK base w) (hhistory : RunHistory base (w.runs base.run) state) :
    Covers base w state := by
  obtain ⟨state', hhistory', hcovers⟩ := h
  obtain rfl := hhistory.unique hhistory'
  exact hcovers

/-- What an event has to bring along: its counts are justified, every stream that it passes has been
counted, and a completion has passed every stream that existed. -/
theorem RebuildOK.push (h : RebuildOK base w) (hhistory : RunHistory base (w.runs base.run) state)
    (hrunning : state.status = .running) {event : ProjectionRebuildEvent} (hfollow : MayFollow base.runId state event)
    (hjustified : ∀ count ∈ event.counts, Justified base.target w count)
    (hpassed : ∀ stream, base.existed stream →
      RunHistory.Passed (afterEvent state ⟨(w.runs base.run).length + 1, event⟩) stream →
      RunHistory.Passed state stream ∨ stream ∈ event.counts.map Prod.fst)
    (hcompleted : (afterEvent state ⟨(w.runs base.run).length + 1, event⟩).status = .completed →
      ∀ stream, base.existed stream → RunHistory.Passed state stream) :
    RebuildOK base (w.pushRun base.run event) := by
  have hcovers := h.covers hhistory
  have hlater := RebuildWorld.Later.pushRun w base.run event
  have hnext := RunHistory.next hhistory hrunning hfollow
  rw [← RebuildWorld.pushRun_runs_self] at hnext
  refine ⟨_, hnext, ?_, ?_, ?_, ?_⟩
  · intro stream hexisted
    exact (hcovers.existing stream hexisted).later hlater
  · intro e he count hcount
    rw [RebuildWorld.pushRun_runs_self] at he
    rcases List.mem_append.mp he with hold | hnew
    · exact (hcovers.justified e hold count hcount).later hlater
    · rw [List.mem_singleton.mp (mem_recorded hnew)] at hcount
      exact (hjustified count hcount).later hlater
  · intro stream hexisted hstream
    rw [RebuildWorld.pushRun_runs_self, RunHistory.countedOf_concat]
    rcases hpassed stream hexisted hstream with hold | hnew
    · exact List.mem_append_left _ (hcovers.passed stream hexisted hold)
    · exact List.mem_append_right _ hnew
  · intro hdone stream hexisted
    exact RunHistory.passed_next hfollow (hcompleted hdone stream hexisted)

end Invariant

/-! ## The rules -/

/-- The read after the last batch finds the run running. -/
def StillRunning (base : RebuildBase) (w : RebuildWorld) : RebuildAction → Prop
  | .readRun stream true =>
    stream = base.run → (foldProjectionRebuild (w.runs base.run)).map ProjectionRebuildState.status = some .running
  | _ => True

instance (base : RebuildBase) (w : RebuildWorld) : (action : RebuildAction) → Decidable (StillRunning base w action)
  | .readRun stream true => inferInstanceAs (Decidable (stream = base.run →
      (foldProjectionRebuild (w.runs base.run)).map ProjectionRebuildState.status = some .running))
  | .readRun _ false => .isTrue trivial
  | .appendRun _ _ _ => .isTrue trivial
  | .checkTarget _ => .isTrue trivial
  | .listStreams _ _ => .isTrue trivial
  | .readStream _ => .isTrue trivial
  | .save _ _ => .isTrue trivial
  | .extend _ _ => .isTrue trivial

/-- What drivers may count on while others act. -/
def rebuildShared (base : RebuildBase) : SharedState RebuildWorld RebuildAction RebuildAction.Reply where
  exec w action reply w' := w.exec action reply w' ∧ StillRunning base w action
  le := RebuildWorld.Later
  le_refl := .refl
  le_trans := .trans
  exec_le h := RebuildWorld.exec_later h.1
  Inv := RebuildOK base

abbrev RebuildWp (base : RebuildBase) {α : Type} (p : RebuildProgram α) (Q : α → RebuildWorld → Prop)
    (w : RebuildWorld) : Prop := (rebuildShared base).Wp p Q w

namespace RebuildWp

section Rules

variable {base : RebuildBase} {w : RebuildWorld}

theorem wp_action {action : RebuildAction} {Q : action.Reply → RebuildWorld → Prop}
    (h : ∀ w' reply w'', w.Later w' → RebuildOK base w' → w'.exec action reply w'' → StillRunning base w' action →
      RebuildOK base w'' ∧ Q reply w'') :
    RebuildWp base action.perform Q w := by
  apply SharedState.wp_action
  intro w' reply w'' hlater hOK hexec
  obtain ⟨hOK', hQ⟩ := h w' reply w'' hlater hOK hexec.1 hexec.2
  exact ⟨hOK', trivial, hQ⟩

/-- **An append that is saved found the run at its version.** -/
theorem wp_append {version : Nat} {event : ProjectionRebuildEvent} {Q : Unit → RebuildWorld → Prop}
    (h : ∀ w', w.Later w' → RebuildOK base w' → (w'.runs base.run).length = version →
      RebuildOK base (w'.pushRun base.run event) ∧ Q () (w'.pushRun base.run event)) :
    RebuildWp base (append base.tenantId base.runId version event) Q w := by
  apply wp_then
  apply wp_action
  intro w' reply w'' hlater hOK hexec hrunning
  rcases hexec with ⟨error, rfl, rfl⟩ | ⟨hversion, rfl, rfl⟩
  · exact ⟨hOK, wp_throw⟩
  · exact h w' hlater hOK hversion

theorem wp_requireState {last : Bool} {Q : ProjectionRebuildState → RebuildWorld → Prop}
    (h : ∀ w' state, w.Later w' → RebuildOK base w' → RunHistory base (w'.runs base.run) state →
      (last = true → state.status = .running) → Q state w') :
    RebuildWp base (requireState base.tenantId base.runId last) Q w := by
  apply wp_then
  apply wp_action
  rintro w' log w'' hlater hOK ⟨rfl, rfl⟩ hrunning
  obtain ⟨state, hhistory, hcovers⟩ := hOK
  refine ⟨⟨state, hhistory, hcovers⟩, ?_⟩
  have hfold : foldProjectionRebuild (w''.runs (projectionRebuildStream base.tenantId base.runId)) = some state :=
    hhistory.fold_eq
  rw [hfold]
  apply h w'' state hlater ⟨state, hhistory, hcovers⟩ hhistory
  rintro rfl
  have hstatus := hrunning rfl
  rw [hhistory.fold_eq] at hstatus
  exact Option.some.inj hstatus

theorem wp_assertRebuildableTarget {name : JsString} {Q : Unit → RebuildWorld → Prop}
    (h : ∀ w', w.Later w' → Q () w') : RebuildWp base (assertRebuildableTarget name) Q w := by
  apply wp_then
  apply wp_action
  rintro w' reply w'' hlater hOK rfl -
  refine ⟨hOK, ?_⟩
  apply wp_ofExcept
  intro u _
  exact h _ hlater

/-- The end of the loop's body when something failed. -/
theorem wp_failed {cause : JsError} {Q : RebuildOutcome → RebuildWorld → Prop}
    (h : ∀ reason, Q (.failed reason) w) :
    RebuildWp base (do
      let reason ← Program.ofExcept cause.text
      return .failed reason) Q w := by
  apply wp_checked
  intro reason _
  exact h reason

/-- The body of the loop does with a stream what it says. -/
theorem wp_rebuildStream {stream : StreamName} {Q : RebuildOutcome → RebuildWorld → Prop}
    (h : ∀ w' outcome, w.Later w' → Justified base.target w' (stream, outcome) → Q outcome w') :
    RebuildWp base (rebuildStream base.target stream) Q w := by
  apply wp_then
  apply wp_action
  intro w' reply w'' hlater hOK hexec _
  have hread := RebuildWorld.exec_later hexec
  rcases hexec with ⟨error, rfl, rfl⟩ | ⟨rfl, rfl⟩
  · exact ⟨hOK, wp_failed (fun reason => h _ _ (hlater.trans hread) trivial)⟩
  · refine ⟨hOK.later hread rfl, ?_⟩
    have hin : (stream, w'.documents stream) ∈ w'.reads ++ [(stream, w'.documents stream)] :=
      List.mem_append_right _ List.mem_cons_self
    cases hfold : foldDocument (w'.documents stream) with
    | none =>
      simp only [hfold]
      exact h _ _ (hlater.trans hread) ⟨_, hin, hfold⟩
    | some snapshot =>
      simp only [hfold]
      apply wp_then
      apply wp_action
      intro v reply v' hlater' hOK' hexec' _
      have hsave := RebuildWorld.exec_later hexec'
      have hall := ((hlater.trans hread).trans hlater').trans hsave
      rcases hexec' with ⟨error, rfl, rfl⟩ | ⟨rfl, rfl⟩
      · exact ⟨hOK', wp_failed (fun reason => h _ _ hall trivial)⟩
      · refine ⟨hOK'.later hsave rfl, h _ _ hall ?_⟩
        exact ⟨_, snapshot, hlater'.reads.subset hin, hfold, List.mem_append_right _ List.mem_cons_self⟩

/-- The loop goes through the whole batch, stream by stream. -/
theorem wp_rebuildBatch (batch : List StreamName) {w : RebuildWorld}
    {Q : List (StreamName × RebuildOutcome) → RebuildWorld → Prop}
    (h : ∀ w' counts, w.Later w' → counts.map Prod.fst = batch →
      (∀ count ∈ counts, Justified base.target w' count) → Q counts w') :
    RebuildWp base (rebuildBatch base.target batch) Q w := by
  induction batch generalizing w Q with
  | nil => exact h w [] (.refl w) rfl (fun count hcount => absurd hcount List.not_mem_nil)
  | cons stream batch ih =>
    apply wp_then
    apply wp_rebuildStream
    intro w' outcome hlater hjustified
    apply wp_then
    apply ih
    intro w'' counts hlater' hcounts hrest
    refine h w'' _ (hlater.trans hlater') ?_ ?_
    · rw [List.map_cons, hcounts]
    · intro count hcount
      rcases List.mem_cons.mp hcount with rfl | hcount
      · exact hjustified.later hlater'
      · exact hrest count hcount

end Rules

/-! ## The pending streams -/

section Pending

variable {cursor : Option StreamName} {streams : List StreamName} {stream : StreamName}

theorem mem_pendingStreams : stream ∈ pendingStreams cursor streams ↔
    stream ∈ streams ∧ ∀ c, cursor = some c → Precedes c stream := by
  unfold pendingStreams
  rw [List.mem_filter]
  cases cursor <;> simp

theorem pendingStreams_sorted (h : streams.Pairwise Precedes) : (pendingStreams cursor streams).Pairwise Precedes :=
  h.sublist List.filter_sublist

/-- A pending stream that the last one of the batch does not precede is in the batch. -/
theorem mem_batch_of_not_precedes {pending : List StreamName} (h : pending.Pairwise Precedes) {size : Nat}
    {last : StreamName} (hlast : last ∈ pending.take size) (hstream : stream ∈ pending)
    (hnot : ¬ Precedes last stream) : stream ∈ pending.take size := by
  rw [← List.take_append_drop size pending, List.pairwise_append] at h
  rw [← List.take_append_drop size pending] at hstream
  rcases List.mem_append.mp hstream with htaken | hleft
  · exact htaken
  · exact absurd (h.2.2 last hlast stream hleft) hnot

end Pending

/-! ## The commands -/

section Commands

variable {base : RebuildBase} {w w' : RebuildWorld} {state : ProjectionRebuildState}

/-- The state has been read from the run. -/
def RebuildSeen (base : RebuildBase) (w : RebuildWorld) (state : ProjectionRebuildState) : Prop :=
  ∃ log, log <+: w.runs base.run ∧ RunHistory base log state

theorem RebuildSeen.later (h : RebuildSeen base w state) (hlater : w.Later w') : RebuildSeen base w' state := by
  obtain ⟨log, hgrown, hhistory⟩ := h
  exact ⟨log, hgrown.trans (hlater.runs base.run), hhistory⟩

/-- **Optimistic reading**: a run that is at the version of a state that was read is as it was read. -/
theorem RebuildSeen.history (h : RebuildSeen base w state) (hversion : (w.runs base.run).length = state.version) :
    RunHistory base (w.runs base.run) state := by
  obtain ⟨log, hgrown, hhistory⟩ := h
  have hsame : log = w.runs base.run := by
    apply hgrown.eq_of_length
    rw [hversion, hhistory.version_eq]
  rwa [← hsame]

/-- Completing a running run that has passed every stream. -/
theorem wp_complete (hseen : RebuildSeen base w state) (hrunning : state.status = .running)
    (hpassed : ∀ stream, base.existed stream → RunHistory.Passed state stream)
    {Q : Unit → RebuildWorld → Prop} (h : ∀ w', w.Later w' → Q () w') :
    RebuildWp base (append base.tenantId base.runId state.version { payload := .completed base.runId }) Q w := by
  apply wp_append
  intro w' hlater hOK hversion
  have hhistory := (hseen.later hlater).history hversion
  refine ⟨hOK.push hhistory hrunning .completed ?_ ?_ ?_, h _ (hlater.trans (.pushRun _ _ _))⟩
  · intro count hcount
    cases hcount
  · intro stream _ hstream
    exact Or.inl hstream
  · intro _
    exact hpassed

theorem wp_abort (reason : JsString) :
    RebuildWp base (abort base.tenantId base.runId reason) (fun _ _ => True) w := by
  apply wp_then
  apply wp_requireState
  intro w' state _ _ hhistory _
  split_ifs with hstatus
  · trivial
  · rw [not_not] at hstatus
    apply wp_then
    apply wp_append
    intro w'' hlater hOK hversion
    have hseen : RebuildSeen base w' state := ⟨_, List.prefix_rfl, hhistory⟩
    refine ⟨hOK.push ((hseen.later hlater).history hversion) hstatus (.aborted reason) ?_ ?_ ?_, ?_⟩
    · intro count hcount
      cases hcount
    · intro stream _ hstream
      exact Or.inl hstream
    · intro hcompleted
      cases hcompleted
    · exact wp_requireState (fun _ _ _ _ _ _ => trivial)

/-- What an advance gets as its pending streams: in order behind the cursor, and all that existed at the
start and was not passed. -/
structure Pending (base : RebuildBase) (state : ProjectionRebuildState) (pending : List StreamName) : Prop where
  sorted : pending.Pairwise Precedes
  behind : ∀ stream ∈ pending, ∀ c, state.cursor = some c → Precedes c stream
  passed : ∀ stream, base.existed stream → stream ∉ pending → RunHistory.Passed state stream

theorem pending_of_lists (h : RebuildOK base w) {streams : List StreamName}
    (hlists : w.Lists base.tenantId base.doctype streams) :
    Pending base state (pendingStreams state.cursor streams) := by
  refine ⟨pendingStreams_sorted hlists.sorted, ?_, ?_⟩
  · intro stream hstream
    exact (mem_pendingStreams.mp hstream).2
  · -- what existed at the start is listed: it is pending, or the run has passed it
    intro stream hexisted hnot
    obtain ⟨state', hhistory', hcovers⟩ := h
    have hlisted := (hlists.complete stream).mpr (hcovers.existing stream hexisted)
    rw [mem_pendingStreams, not_and, not_forall] at hnot
    obtain ⟨c, hc⟩ := hnot hlisted
    exact ⟨c, Classical.not_imp.mp hc⟩

theorem wp_listStreams (hdoctype : state.doctype = base.doctype) {Q : List StreamName → RebuildWorld → Prop}
    (h : ∀ w' streams, w.Later w' → Pending base state (pendingStreams state.cursor streams) → Q streams w') :
    RebuildWp base (RebuildAction.listStreams base.tenantId state.doctype).perform Q w := by
  apply wp_action
  intro w' streams w'' hlater hOK hexec _
  obtain ⟨hlists, rfl⟩ := hexec
  rw [hdoctype] at hlists
  exact ⟨hOK, h w'' streams hlater (pending_of_lists hOK hlists)⟩

/-- The batch's event: it counts the streams between the old cursor and the new one. -/
theorem wp_append_batch {pending : List StreamName} (hpending : Pending base state pending)
    (hseen : RebuildSeen base w state) (hrunning : state.status = .running) {size : Nat}
    {counts : List (StreamName × RebuildOutcome)} (hcounts : counts.map Prod.fst = pending.take size)
    (hjustified : ∀ count ∈ counts, Justified base.target w count) {cursor : StreamName} {outcome : RebuildOutcome}
    (hlast : counts.getLast? = some (cursor, outcome)) {Q : Unit → RebuildWorld → Prop}
    (h : ∀ w' version, w.Later w' →
      RunHistory base (w'.runs base.run) (afterEvent state ⟨version, advancedEvent base.runId cursor counts⟩) →
      Q () w') :
    RebuildWp base (append base.tenantId base.runId state.version (advancedEvent base.runId cursor counts)) Q w := by
  apply wp_append
  intro w' hlater hOK hversion
  have hhistory := (hseen.later hlater).history hversion
  have hfollow : MayFollow base.runId state (advancedEvent base.runId cursor counts) := by
    refine .advanced ?_ ?_ hlast
    · rw [hcounts]
      exact hpending.sorted.sublist (List.take_sublist _ _)
    · intro c hc count hcount
      have hin : count.1 ∈ pending.take size := hcounts ▸ List.mem_map_of_mem hcount
      exact hpending.behind _ (List.mem_of_mem_take hin) c hc
  have hnext := RunHistory.next hhistory hrunning hfollow
  rw [← RebuildWorld.pushRun_runs_self] at hnext
  refine ⟨hOK.push hhistory hrunning hfollow ?_ ?_ ?_, h _ _ (hlater.trans (.pushRun _ _ _)) hnext⟩
  · intro count hcount
    exact (hjustified count hcount).later hlater
  · intro stream hexisted hstream
    by_cases hin : stream ∈ pending
    · right
      obtain ⟨c, hc, hnot⟩ := hstream
      obtain rfl := Option.some.inj hc
      change stream ∈ counts.map Prod.fst
      rw [hcounts]
      refine mem_batch_of_not_precedes hpending.sorted ?_ hin hnot
      rw [← hcounts]
      exact List.mem_map_of_mem (List.mem_of_getLast? hlast)
    · exact Or.inl (hpending.passed stream hexisted hin)
  · intro hcompleted
    exact absurd (hrunning.symm.trans hcompleted) (by decide)

/-- After a batch that leaves nothing pending the run has passed every stream. -/
theorem Pending.passed_all {pending : List StreamName} (hpending : Pending base state pending) {size version : Nat}
    {counts : List (StreamName × RebuildOutcome)} (hcounts : counts.map Prod.fst = pending.take size)
    {cursor : StreamName} {outcome : RebuildOutcome} (hlast : counts.getLast? = some (cursor, outcome))
    (hall : pending.length ≤ (pending.take size).length) (stream : StreamName) (hexisted : base.existed stream) :
    RunHistory.Passed (afterEvent state ⟨version, advancedEvent base.runId cursor counts⟩) stream := by
  have hsorted : (counts.map Prod.fst).Pairwise Precedes := by
    rw [hcounts]
    exact hpending.sorted.sublist (List.take_sublist _ _)
  have hbatch : pending.take size = pending := (List.take_prefix _ _).eq_of_length_le hall
  rw [hbatch] at hcounts
  by_cases hin : stream ∈ pending
  · rw [← hcounts] at hin
    obtain ⟨count, hcount, rfl⟩ := List.mem_map.mp hin
    exact ⟨cursor, rfl, RunHistory.not_last_precedes hsorted hlast count hcount⟩
  · obtain ⟨c, hc, hnot⟩ := hpending.passed stream hexisted hin
    refine ⟨cursor, rfl, fun hprecedes => hnot ?_⟩
    -- the old cursor is before the new one, which is pending
    have hforward : Precedes c cursor := by
      refine hpending.behind cursor ?_ c hc
      rw [← hcounts]
      exact List.mem_map_of_mem (List.mem_of_getLast? hlast)
    exact hforward.trans hprecedes

/-- **An advance keeps the invariant**, if the read after its last batch finds the run running. -/
theorem wp_advance : RebuildWp base (advance base.tenantId base.runId) (fun _ _ => True) w := by
  apply wp_then
  apply wp_requireState
  intro w₁ state _ _ hhistory _
  split_ifs with hstatus
  · trivial
  rw [not_not] at hstatus
  have hseen₁ : RebuildSeen base w₁ state := ⟨_, List.prefix_rfl, hhistory⟩
  apply wp_then
  apply wp_assertRebuildableTarget
  intro w₂ hlater₂
  apply wp_then
  apply wp_listStreams hhistory.target_eq.2
  intro w₃ streams hlater₃ hpending
  have hseen₃ := hseen₁.later (hlater₂.trans hlater₃)
  generalize pendingStreams state.cursor streams = pending at hpending
  dsimp only
  by_cases hempty : pending.isEmpty = true
  · -- nothing is pending
    rw [if_pos hempty]
    apply wp_then
    apply wp_complete hseen₃ hstatus
    · intro stream hexisted
      refine hpending.passed stream hexisted ?_
      rw [List.isEmpty_iff.mp hempty]
      exact List.not_mem_nil
    · intro w₄ _
      apply wp_then
      exact wp_requireState (fun _ _ _ _ _ _ => trivial)
  · rw [if_neg hempty]
    apply wp_then
    rw [hhistory.target_eq.1]
    apply wp_rebuildBatch
    intro w₄ counts hlater₄ hcounts hjustified
    cases hlast : counts.getLast? with
    | none => trivial
    | some last =>
      obtain ⟨cursor, outcome⟩ := last
      apply wp_then
      apply wp_append_batch hpending (hseen₃.later hlater₄) hstatus hcounts hjustified hlast
      intro w₅ version hlater₅ hnext
      split_ifs with hmore
      · apply wp_then
        exact wp_requireState (fun _ _ _ _ _ _ => trivial)
      · -- the batch consumed the last pending stream
        apply wp_then
        apply wp_requireState
        intro w₆ advanced hlater₆ hOK hhistory₆ hrunning
        apply wp_then
        apply wp_complete ⟨_, List.prefix_rfl, hhistory₆⟩ (hrunning rfl)
        · intro stream hexisted
          apply hhistory₆.passed_mono hnext (hlater₆.runs base.run)
          exact hpending.passed_all hcounts hlast (Nat.le_of_not_lt hmore) stream hexisted
        · intro w₇ _
          apply wp_then
          exact wp_requireState (fun _ _ _ _ _ _ => trivial)

end Commands

end RebuildWp

/-! ## Runs -/

/-- What happens while a rebuild runs. -/
inductive RebuildCommand
  | advance
  | abort (reason : JsString)
  | extend (stream : StreamName) (events : List DomainEvent)

def RebuildCommand.program (tenantId : TenantId) (runId : JsString) : RebuildCommand → RebuildProgram Unit
  | .advance => do
      let _ ← ProjectionRebuildService.advance tenantId runId
      return ()
  | .abort reason => do
      let _ ← ProjectionRebuildService.abort tenantId runId reason
      return ()
  | .extend stream events => do
      let _ ← (RebuildAction.extend stream events).perform
      return ()

theorem RebuildWp.wp_rebuildCommand {base : RebuildBase} {w : RebuildWorld} (command : RebuildCommand) :
    RebuildWp base (command.program base.tenantId base.runId) (fun _ _ => True) w := by
  cases command with
  | advance =>
    apply wp_then
    exact wp_mono wp_advance (fun _ _ _ => trivial)
  | abort reason =>
    apply wp_then
    exact wp_mono (wp_abort reason) (fun _ _ _ => trivial)
  | extend stream events =>
    apply wp_then
    apply wp_action
    intro w' reply w'' hlater hOK hexec _
    refine ⟨hOK.later (RebuildWorld.exec_later hexec) ?_, trivial⟩
    rcases hexec with ⟨error, -, rfl⟩ | ⟨-, rfl⟩ <;> rfl

/-- What a rebuild promises. -/
structure RebuildCovered (base : RebuildBase) (w : RebuildWorld) : Prop where
  /-- the cursors strictly increase -/
  increasing : (RunHistory.cursorsOf (w.runs base.run)).Pairwise Precedes
  /-- no stream is counted twice -/
  counted_once : (RunHistory.countedOf (w.runs base.run)).Nodup
  /-- what is counted is recorded by an advance, and is so -/
  batches : ∀ e ∈ w.runs base.run,
    (∃ cursor counts, e.event = advancedEvent base.runId cursor counts ∧
      ∀ count ∈ counts, Justified base.target w count) ∨ e.event.counts = []
  /-- a completed run has counted every stream that existed at its start -/
  covered : ∀ state, foldProjectionRebuild (w.runs base.run) = some state → state.status = .completed →
    ∀ stream, base.existed stream → stream ∈ RunHistory.countedOf (w.runs base.run)
  /-- nothing comes after a completion or an abort -/
  ends : ∀ before e rest, w.runs base.run = before ++ e :: rest → e.event.payload.Ends → rest = []

theorem RebuildOK.rebuildCovered {base : RebuildBase} {w : RebuildWorld} (h : RebuildOK base w) :
    RebuildCovered base w := by
  obtain ⟨state, hhistory, hcovers⟩ := h
  refine ⟨hhistory.cursors.2, ?_, ?_, ?_, fun before e rest => hhistory.ends⟩
  · apply hhistory.counted.2.imp
    rintro stream stream' hprecedes rfl
    exact Precedes.irrefl _ hprecedes
  · intro e he
    rcases hhistory.batches e he with ⟨cursor, counts, hevent⟩ | hnone
    · left
      refine ⟨cursor, counts, hevent, ?_⟩
      intro count hcount
      apply hcovers.justified e he
      rw [hevent]
      exact hcount
    · exact Or.inr hnone
  · intro state' hfold hcompleted stream hexisted
    rw [hhistory.fold_eq, Option.some.injEq] at hfold
    subst hfold
    exact hcovers.passed stream hexisted (hcovers.completed hcompleted stream hexisted)

/-- The world in which a run has just been started. -/
structure RebuildBase.Starts (base : RebuildBase) (w : RebuildWorld) : Prop where
  run : w.runs base.run = recorded 0 [base.startedEvent]
  reads : w.reads = []
  saves : w.saves = []
  existed : ∀ stream, base.existed stream → w.HasStream base.tenantId base.doctype stream

theorem RebuildBase.Starts.rebuildOK {base : RebuildBase} {w : RebuildWorld} (h : base.Starts w) : RebuildOK base w := by
  refine ⟨base.startedState, h.run ▸ .started, h.existed, ?_, ?_, ?_⟩
  · intro e he count hcount
    rw [h.run] at he
    obtain rfl := List.mem_singleton.mp he
    cases hcount
  · rintro stream _ ⟨cursor, hcursor, _⟩
    cases hcursor
  · intro hcompleted
    cases hcompleted

/-- A run that folds to a state is found. -/
theorem comes_requireState {w : RebuildWorld} {tenantId : TenantId} {runId : JsString} {last : Bool}
    {state : ProjectionRebuildState} {Q : Except JsError ProjectionRebuildState → RebuildWorld → Prop}
    (hfold : foldProjectionRebuild (w.runs (projectionRebuildStream tenantId runId)) = some state) (h : Q (.ok state) w) :
    Program.Comes RebuildWorld.exec (requireState tenantId runId last) Q w := by
  apply comes_then
  apply comes_perform
  rintro log _ ⟨rfl, rfl⟩
  unfold Program.Onward
  dsimp only
  rw [hfold]
  exact h

/-- **A rebuild is started.** When `start` returns, with nobody else at the run, the log of the run holds its first
event, and the streams of the DocType exist that did when it counted them. -/
theorem comes_start {w : RebuildWorld} (runId : JsString) (input : ProjectionRebuildStartOptions) (hreads : w.reads = [])
    (hsaves : w.saves = []) :
    Program.Comes RebuildWorld.exec (start runId input) (fun result w' => ∀ state, result = .ok state →
      ∃ base : RebuildBase, base.tenantId = input.tenantId ∧ base.runId = runId ∧ base.doctype = input.doctype ∧
        base.target = input.target ∧
        (∀ stream, base.existed stream ↔ w.HasStream input.tenantId input.doctype stream) ∧
        base.Starts w' ∧ state = base.startedState) w := by
  apply comes_then
  apply comes_ofExcept
  cases assertBatchSize (input.batchSize.getD 50) with
  | error error =>
    intro state hok
    cases hok
  | ok batchSize =>
    apply comes_then
    apply comes_then
    apply comes_perform
    rintro checked w rfl
    apply comes_ofExcept
    cases checked with
    | error error =>
      -- the target is refused
      intro state hok
      cases hok
    | ok _ =>
      apply comes_then
      apply comes_perform
      rintro streams w ⟨-, rfl⟩
      apply comes_then
      apply comes_then
      apply comes_perform
      intro reply w' hexec
      apply comes_ofExcept
      rcases hexec with ⟨error, rfl, -⟩ | ⟨hempty, rfl, rfl⟩
      · intro state hok
        cases hok
      · let base : RebuildBase :=
          { tenantId := input.tenantId, runId, doctype := input.doctype, target := input.target, batchSize
            totalStreams := (streams : List StreamName).length
            existed := w.HasStream input.tenantId input.doctype }
        have hlog : (w.pushRun base.run base.startedEvent).runs base.run = recorded 0 [base.startedEvent] := by
          have hnone : w.runs base.run = [] := List.eq_nil_of_length_eq_zero hempty
          rw [RebuildWorld.pushRun_runs_self, hnone]
          rfl
        have hfold : foldProjectionRebuild ((w.pushRun base.run base.startedEvent).runs base.run) =
            some base.startedState := by
          rw [hlog]
          rfl
        apply comes_requireState hfold
        intro state hstate
        obtain rfl := Except.ok.inj hstate
        exact ⟨base, rfl, rfl, rfl, rfl, fun _ => Iff.rfl, ⟨hlog, hreads, hsaves, fun _ hexisted => hexisted⟩, rfl⟩

/-- The runs of a rebuild: any number of drivers and aborts, interleaved with appends to the document
streams. -/
abbrev RebuildRun (base : RebuildBase) := Run RebuildWorld.exec
  (RebuildCommand.program base.tenantId base.runId) (fun _ => True)

/-- **A rebuild covers every stream once and ends once**, in every run in which the read after a last
batch finds the rebuild running. -/
theorem rebuild_covers_streams_once {base : RebuildBase} {init w : RebuildWorld}
    {threads : List (RebuildCommand × RebuildProgram Unit)}
    {steps : List (RunStep RebuildCommand RebuildWorld RebuildAction RebuildAction.Reply)} (hinit : base.Starts init)
    (hrun : RebuildRun base init threads w steps)
    (hrunning : ∀ step ∈ steps, StillRunning base step.before step.action) : RebuildCovered base w := by
  have hrun' : Run (rebuildShared base).exec (RebuildCommand.program base.tenantId base.runId) (fun _ => True)
      init threads w steps :=
    hrun.strengthen (fun step hstep => ⟨hrun.leads.exec_of_mem hstep, hrunning step hstep⟩)
  have hOK : RebuildOK base w := (SharedState.run hrun' hinit.rebuildOK (fun command _ _ _ => RebuildWp.wp_rebuildCommand command)).1
  exact hOK.rebuildCovered

/-! ### An abort that is overruled -/

namespace RebuildWorld

/-- The reply to an action and the world after it, when nothing but a conflict fails and the streams of
each DocType are the given ones. -/
def reply (streams : TenantId → DocTypeName → List StreamName) (w : RebuildWorld) :
    (action : RebuildAction) → action.Reply × RebuildWorld
  | .readRun stream _ => (w.runs stream, w)
  | .appendRun stream version event =>
    if (w.runs stream).length = version then (.ok (), w.pushRun stream event)
    else (.error (.framework (FrameworkError.conflict [])), w)
  | .checkTarget _ => (.ok (), w)
  | .listStreams tenantId doctype => (streams tenantId doctype, w)
  | .readStream stream => (.ok (w.documents stream), { w with reads := w.reads ++ [(stream, w.documents stream)] })
  | .save target snapshot => (.ok (), { w with saves := w.saves ++ [(target, snapshot)] })
  | .extend _ _ => (.error (.framework (FrameworkError.conflict [])), w)

variable {streams : TenantId → DocTypeName → List StreamName}

theorem reply_documents (w : RebuildWorld) (action : RebuildAction) :
    (w.reply streams action).2.documents = w.documents := by
  cases action with
  | appendRun stream version event =>
    rw [reply]
    split_ifs <;> rfl
  | _ => rfl

theorem exec_reply {w : RebuildWorld} (hstreams : ∀ tenantId doctype, w.Lists tenantId doctype (streams tenantId doctype))
    (action : RebuildAction) : w.exec action (w.reply streams action).1 (w.reply streams action).2 := by
  cases action with
  | readRun stream last => exact ⟨rfl, rfl⟩
  | appendRun stream version event =>
    rw [reply]
    split_ifs with hversion
    · exact Or.inr ⟨hversion, rfl, rfl⟩
    · exact Or.inl ⟨_, rfl, rfl⟩
  | checkTarget name => exact rfl
  | listStreams tenantId doctype => exact ⟨hstreams tenantId doctype, rfl⟩
  | readStream stream => exact Or.inr ⟨rfl, rfl⟩
  | save target snapshot => exact Or.inr ⟨rfl, rfl⟩
  | extend stream events => exact Or.inl ⟨_, rfl, rfl⟩

/-- The schedule of some commands, each started at the beginning. -/
def scheduled (base : RebuildBase) (streams : TenantId → DocTypeName → List StreamName) (init : RebuildWorld)
    (commands : List RebuildCommand) (turns : List Nat) :=
  Program.schedule (RebuildWorld.reply streams)
    (commands.map (fun command => (command, command.program base.tenantId base.runId))) init turns

/-- Programs that take turns make a run of a rebuild. -/
theorem run_scheduled {base : RebuildBase} {init : RebuildWorld}
    (hstreams : ∀ tenantId doctype, init.Lists tenantId doctype (streams tenantId doctype))
    (commands : List RebuildCommand) (turns : List Nat) :
    RebuildRun base init (scheduled base streams init commands turns).1 (scheduled base streams init commands turns).2.1
      (scheduled base streams init commands turns).2.2 := by
  -- first a run of the replies, in which the documents stay
  have hrun : Run (fun w action reply w' => reply = (RebuildWorld.reply streams w action).1 ∧
      w' = (RebuildWorld.reply streams w action).2) (RebuildCommand.program base.tenantId base.runId) (fun _ => True)
      init (scheduled base streams init commands turns).1 (scheduled base streams init commands turns).2.1
      ([] ++ (scheduled base streams init commands turns).2.2) :=
    Program.run_schedule (fun _ _ => ⟨rfl, rfl⟩) turns (Program.run_spawnAll commands (fun _ _ => trivial) Run.nil)
  have hkept := hrun.leads.before_of_kept (J := fun w => w.documents = init.documents) rfl (by
    rintro w action reply w' hdocuments ⟨-, rfl⟩
    rw [reply_documents, hdocuments])
  apply hrun.strengthen
  intro step hstep
  obtain ⟨hreply, hafter⟩ := hrun.leads.exec_of_mem hstep
  rw [hreply, hafter]
  apply exec_reply
  intro tenantId doctype
  refine ⟨(hstreams tenantId doctype).sorted, fun stream => ?_⟩
  rw [(hstreams tenantId doctype).complete]
  unfold HasStream
  rw [hkept step hstep]

end RebuildWorld

/-- A rebuild of one stream. -/
def smallRebuild : RebuildBase :=
  { tenantId := [1], runId := [2], doctype := [3], target := [4], batchSize := 1, totalStreams := 1
    existed := fun stream => stream = [5] }

/-- The only event of its stream. -/
def smallDocument : DomainEvent :=
  { id := [6], tenantId := [1], stream := [5], type := [7], doctype := [3], documentName := [8], actorId := [9]
    occurredAt := [0], payload := .documentCreated [] .draft, metadata := [], sequence := 1 }

def smallWorld : RebuildWorld :=
  { runs := fun stream => if stream = smallRebuild.run then recorded 0 [smallRebuild.startedEvent] else []
    documents := fun stream => if stream = [5] then [smallDocument] else []
    reads := [], saves := [] }

def smallStreams (tenantId : TenantId) (doctype : DocTypeName) : List StreamName :=
  if tenantId = [1] ∧ doctype = [3] then [[5]] else []

theorem smallWorld_hasStream (tenantId : TenantId) (doctype : DocTypeName) (stream : StreamName) :
    smallWorld.HasStream tenantId doctype stream ↔ stream = [5] ∧ tenantId = [1] ∧ doctype = [3] := by
  unfold RebuildWorld.HasStream smallWorld
  by_cases hstream : stream = [5]
  · simp [hstream, smallDocument, eq_comm]
  · simp [hstream]

theorem smallWorld_lists (tenantId : TenantId) (doctype : DocTypeName) :
    smallWorld.Lists tenantId doctype (smallStreams tenantId doctype) := by
  refine ⟨?_, fun stream => ?_⟩
  · unfold smallStreams
    split_ifs <;> simp
  · rw [smallWorld_hasStream]
    unfold smallStreams
    split_ifs with hkey <;> simp [hkey]

theorem smallRebuild_starts : smallRebuild.Starts smallWorld := by
  refine ⟨?_, rfl, rfl, ?_⟩
  · unfold smallWorld
    dsimp only
    exact if_pos rfl
  intro stream hstream
  rw [smallWorld_hasStream]
  exact ⟨hstream, rfl, rfl⟩

/-- The driver's batch, then an abort, then the rest of the driver. -/
def overruled := RebuildWorld.scheduled smallRebuild smallStreams smallWorld [.advance, .abort []]
  [0, 0, 0, 0, 0, 0, 1, 1, 0, 0]

/-- **A run that has been aborted can be completed**: the driver that has just done the last batch
does not look at the status again. -/
theorem rebuild_abort_overruled :
    ¬ ∀ (base : RebuildBase) (init w : RebuildWorld) (threads : List (RebuildCommand × RebuildProgram Unit))
      (steps : List (RunStep RebuildCommand RebuildWorld RebuildAction RebuildAction.Reply)), base.Starts init →
      RebuildRun base init threads w steps → RebuildCovered base w := by
  intro h
  have hcovered := h smallRebuild smallWorld _ _ _ smallRebuild_starts
    (RebuildWorld.run_scheduled smallWorld_lists [.advance, .abort []] [0, 0, 0, 0, 0, 0, 1, 1, 0, 0])
  have hlog : overruled.2.1.runs smallRebuild.run =
      [⟨1, smallRebuild.startedEvent⟩, ⟨2, advancedEvent [2] [5] [([5], .saved)]⟩,
        ⟨3, { payload := .aborted [2] [] }⟩, ⟨4, { payload := .completed [2] }⟩] := by decide +kernel
  have hrest := hcovered.ends [⟨1, smallRebuild.startedEvent⟩, ⟨2, advancedEvent [2] [5] [([5], .saved)]⟩]
    ⟨3, { payload := .aborted [2] [] }⟩ [⟨4, { payload := .completed [2] }⟩] hlog trivial
  cases hrest

/-- The driver alone. -/
theorem rebuild_covers_streams_once_completed :
    foldProjectionRebuild ((RebuildWorld.scheduled smallRebuild smallStreams smallWorld [.advance]
      [0, 0, 0, 0, 0, 0, 0, 0]).2.1.runs smallRebuild.run) =
        some { smallRebuild.startedState with status := .completed, cursor := some [5], rebuilt := 1, version := 3 } ∧
    RebuildCovered smallRebuild (RebuildWorld.scheduled smallRebuild smallStreams smallWorld [.advance]
      [0, 0, 0, 0, 0, 0, 0, 0]).2.1 := by
  refine ⟨by decide +kernel, ?_⟩
  refine rebuild_covers_streams_once smallRebuild_starts
    (RebuildWorld.run_scheduled smallWorld_lists [.advance] [0, 0, 0, 0, 0, 0, 0, 0]) ?_
  decide +kernel
