import CfFrappe.Application.ProjectionRebuild

set_option autoImplicit false

/-! # The runs of a rebuild

What drivers and aborts make of one run as long as every event finds the run running: a batch starts
behind the cursor and moves it forward (`MayFollow`), so no stream is counted twice, and nothing comes
after a completion or an abort (`RunHistory.ends`).
-/

open Utf ProjectionRebuildService

/-- A run right after its start: the arguments of its first event, and the streams that exist. -/
structure RebuildBase where
  tenantId : TenantId
  runId : JsString
  doctype : DocTypeName
  target : JsString
  batchSize : Nat
  totalStreams : Nat
  existed : StreamName → Prop

namespace RebuildBase

def run (base : RebuildBase) : StreamName := projectionRebuildStream base.tenantId base.runId

def startedEvent (base : RebuildBase) : ProjectionRebuildEvent :=
  { payload := .started base.runId base.doctype base.target base.batchSize base.totalStreams }

def startedState (base : RebuildBase) : ProjectionRebuildState :=
  { runId := base.runId, doctype := base.doctype, target := base.target, batchSize := base.batchSize
    totalStreams := base.totalStreams, status := .running, version := 1 }

end RebuildBase

/-! ## Histories -/

/-- What may be appended to a run in a state. -/
inductive MayFollow (runId : JsString) (state : ProjectionRebuildState) : ProjectionRebuildEvent → Prop
  | advanced {counts cursor outcome} : (counts.map Prod.fst).Pairwise Precedes →
      (∀ c, state.cursor = some c → ∀ count ∈ counts, Precedes c count.1) →
      counts.getLast? = some (cursor, outcome) → MayFollow runId state (advancedEvent runId cursor counts)
  | completed : MayFollow runId state { payload := .completed runId }
  | aborted (reason : JsString) : MayFollow runId state { payload := .aborted runId reason }

/-- The state after an event of a started run. -/
def afterEvent (state : ProjectionRebuildState) (event : Recorded ProjectionRebuildEvent) : ProjectionRebuildState :=
  (applyProjectionRebuildEvent (some state) event).getD state

/-- The logs of a run whose events all found it running, with their folded states. -/
inductive RunHistory (base : RebuildBase) : ProjectionRebuildLog → ProjectionRebuildState → Prop
  | started : RunHistory base (recorded 0 [base.startedEvent]) base.startedState
  | next {log state event} : RunHistory base log state → state.status = .running → MayFollow base.runId state event →
      RunHistory base (log ++ recorded log.length [event]) (afterEvent state ⟨log.length + 1, event⟩)

namespace RunHistory

variable {base : RebuildBase} {log log' : ProjectionRebuildLog} {state state' : ProjectionRebuildState}

theorem apply_eq (state : ProjectionRebuildState) (event : Recorded ProjectionRebuildEvent) :
    applyProjectionRebuildEvent (some state) event = some (afterEvent state event) := by
  unfold afterEvent applyProjectionRebuildEvent
  split <;> simp_all

theorem fold_eq (h : RunHistory base log state) : foldProjectionRebuild log = some state := by
  induction h with
  | started => rfl
  | next h hrunning hfollow ih =>
    unfold foldProjectionRebuild at ih ⊢
    rw [List.foldl_append, ih]
    exact apply_eq _ _

theorem version_eq (h : RunHistory base log state) : state.version = log.length := by
  cases h with
  | started => rfl
  | next h hrunning hfollow =>
    rw [List.length_append, recorded_length, List.length_singleton]
    cases hfollow <;> rfl

theorem target_eq (h : RunHistory base log state) : state.target = base.target ∧ state.doctype = base.doctype := by
  induction h with
  | started => exact ⟨rfl, rfl⟩
  | next h hrunning hfollow ih => cases hfollow <;> exact ih

theorem ne_nil (h : RunHistory base log state) : log ≠ [] := by
  cases h with
  | started => exact List.cons_ne_nil _ _
  | next h hrunning hfollow => simp [recorded]

theorem unique (h : RunHistory base log state) (h' : RunHistory base log state') : state = state' := by
  have hfold := h.fold_eq
  rw [h'.fold_eq, Option.some.injEq] at hfold
  exact hfold.symm

/-! ## Cursors and counts -/

/-- The cursors of the batches of a run. -/
def cursorsOf (log : ProjectionRebuildLog) : List StreamName :=
  log.filterMap (fun e =>
    match e.event.payload with
    | .advanced _ cursor _ _ => some cursor
    | _ => none)

/-- The streams that the batches of a run counted. -/
def countedOf (log : ProjectionRebuildLog) : List StreamName := log.flatMap (fun e => e.event.counts.map Prod.fst)

theorem cursorsOf_concat (log : ProjectionRebuildLog) (version : Nat) (event : ProjectionRebuildEvent) :
    cursorsOf (log ++ recorded version [event]) = cursorsOf log ++ cursorsOf (recorded 0 [event]) := by
  unfold cursorsOf
  rw [List.filterMap_append]
  rfl

theorem countedOf_concat (log : ProjectionRebuildLog) (version : Nat) (event : ProjectionRebuildEvent) :
    countedOf (log ++ recorded version [event]) = countedOf log ++ event.counts.map Prod.fst := by
  unfold countedOf
  rw [List.flatMap_append]
  simp [recorded]

/-- No stream of a batch is behind its last one. -/
theorem not_last_precedes {counts : List (StreamName × RebuildOutcome)} {cursor : StreamName} {outcome : RebuildOutcome}
    (hsorted : (counts.map Prod.fst).Pairwise Precedes) (hlast : counts.getLast? = some (cursor, outcome)) :
    ∀ count ∈ counts, ¬ Precedes cursor count.1 := by
  obtain ⟨front, rfl⟩ := List.getLast?_eq_some_iff.mp hlast
  rw [List.map_append, List.pairwise_append] at hsorted
  intro count hcount hprecedes
  rcases List.mem_append.mp hcount with hfront | hend
  · have hbefore := hsorted.2.2 count.1 (List.mem_map_of_mem hfront) cursor (by simp)
    exact Precedes.irrefl _ (hprecedes.trans hbefore)
  · rw [List.mem_singleton] at hend
    subst hend
    exact Precedes.irrefl _ hprecedes

/-- The cursor is not before a stream: the run has passed it. -/
def Passed (state : ProjectionRebuildState) (stream : StreamName) : Prop :=
  ∃ cursor, state.cursor = some cursor ∧ ¬ Precedes cursor stream

/-- The cursor moves forward only. -/
theorem passed_next {event : ProjectionRebuildEvent} {version : Nat} (hfollow : MayFollow base.runId state event)
    {stream : StreamName} (h : Passed state stream) : Passed (afterEvent state ⟨version, event⟩) stream := by
  obtain ⟨cursor, hcursor, hpassed⟩ := h
  cases hfollow with
  | @advanced counts cursor' outcome hsorted hbehind hlast =>
    refine ⟨cursor', rfl, ?_⟩
    have hforward := hbehind cursor hcursor _ (List.mem_of_getLast? hlast)
    exact fun hprecedes => hpassed (hforward.trans hprecedes)
  | completed => exact ⟨cursor, hcursor, hpassed⟩
  | aborted reason => exact ⟨cursor, hcursor, hpassed⟩

theorem passed_mono (h' : RunHistory base log' state') (h : RunHistory base log state) (hgrown : log <+: log')
    {stream : StreamName} (hpassed : Passed state stream) : Passed state' stream := by
  induction h' with
  | started =>
    -- the only history within the first event is the first event
    have hlength := List.IsPrefix.length_le hgrown
    have hsame : log = recorded 0 [base.startedEvent] := by
      apply hgrown.eq_of_length
      have := List.length_pos_iff.mpr h.ne_nil
      rw [recorded_length] at hlength ⊢
      simp only [List.length_singleton] at hlength ⊢
      omega
    subst hsame
    rw [← h.unique .started]
    exact hpassed
  | @next log'' state'' event h'' hrunning hfollow ih =>
    rcases List.prefix_concat_iff.mp hgrown with hwhole | hbefore
    · subst hwhole
      rw [← h.unique (.next h'' hrunning hfollow)]
      exact hpassed
    · exact passed_next hfollow (ih hbefore)

/-- What was counted has been passed, and was counted in order. -/
theorem counted (h : RunHistory base log state) :
    (∀ stream ∈ countedOf log, Passed state stream) ∧ (countedOf log).Pairwise Precedes := by
  induction h with
  | started => exact ⟨fun stream hstream => absurd hstream List.not_mem_nil, List.Pairwise.nil⟩
  | @next log state event h hrunning hfollow ih =>
    rw [countedOf_concat]
    cases hfollow with
    | @advanced counts cursor outcome hsorted hbehind hlast =>
      have hfollow : MayFollow base.runId state (advancedEvent base.runId cursor counts) :=
        .advanced hsorted hbehind hlast
      refine ⟨?_, ?_⟩
      · intro stream hstream
        rcases List.mem_append.mp hstream with hold | hnew
        · exact passed_next hfollow (ih.1 stream hold)
        · obtain ⟨count, hcount, rfl⟩ := List.mem_map.mp hnew
          exact ⟨cursor, rfl, not_last_precedes hsorted hlast count hcount⟩
      · rw [List.pairwise_append]
        refine ⟨ih.2, hsorted, ?_⟩
        -- the cursor lies between what was counted before and what is counted now
        intro stream hstream stream' hnew
        obtain ⟨c, hc, hpassed⟩ := ih.1 stream hstream
        obtain ⟨count, hcount, rfl⟩ := List.mem_map.mp hnew
        exact Precedes.of_not hpassed (hbehind c hc count hcount)
    | completed =>
      rw [List.map_nil, List.append_nil]
      exact ih
    | aborted reason =>
      rw [List.map_nil, List.append_nil]
      exact ih

theorem cursors (h : RunHistory base log state) :
    (∀ cursor ∈ cursorsOf log, Passed state cursor) ∧ (cursorsOf log).Pairwise Precedes := by
  induction h with
  | started => exact ⟨fun cursor hcursor => absurd hcursor List.not_mem_nil, List.Pairwise.nil⟩
  | @next log state event h hrunning hfollow ih =>
    rw [cursorsOf_concat]
    cases hfollow with
    | @advanced counts cursor outcome hsorted hbehind hlast =>
      have hfollow : MayFollow base.runId state (advancedEvent base.runId cursor counts) :=
        .advanced hsorted hbehind hlast
      have hnew : cursorsOf (recorded 0 [advancedEvent base.runId cursor counts]) = [cursor] := rfl
      rw [hnew]
      refine ⟨?_, ?_⟩
      · intro c hc
        rcases List.mem_append.mp hc with hold | hc
        · exact passed_next hfollow (ih.1 c hold)
        · rw [List.mem_singleton] at hc
          exact ⟨cursor, rfl, hc ▸ Precedes.irrefl _⟩
      · rw [List.pairwise_append]
        refine ⟨ih.2, List.pairwise_singleton _ _, ?_⟩
        intro c hc c' hc'
        rw [List.mem_singleton] at hc'
        subst hc'
        obtain ⟨now, hnow, hpassed⟩ := ih.1 c hc
        exact Precedes.of_not hpassed (hbehind now hnow _ (List.mem_of_getLast? hlast))
    | completed =>
      have hnone : cursorsOf (recorded 0 [⟨.completed base.runId, []⟩]) = [] := rfl
      rw [hnone, List.append_nil]
      exact ih
    | aborted reason =>
      have hnone : cursorsOf (recorded 0 [⟨.aborted base.runId reason, []⟩]) = [] := rfl
      rw [hnone, List.append_nil]
      exact ih

/-- Every event that counts streams is that of a batch. -/
theorem batches (h : RunHistory base log state) :
    ∀ e ∈ log, (∃ cursor counts, e.event = advancedEvent base.runId cursor counts) ∨ e.event.counts = [] := by
  induction h with
  | started =>
    intro e he
    obtain rfl := List.mem_singleton.mp he
    exact Or.inr rfl
  | next h hrunning hfollow ih =>
    intro e he
    rcases List.mem_append.mp he with hold | hnew
    · exact ih e hold
    · obtain rfl := List.mem_singleton.mp hnew
      cases hfollow with
      | @advanced counts cursor outcome hsorted hbehind hlast => exact Or.inl ⟨cursor, counts, rfl⟩
      | completed => exact Or.inr rfl
      | aborted reason => exact Or.inr rfl

/-! ## The end -/

theorem not_running_of_ends {front : ProjectionRebuildLog} {e : Recorded ProjectionRebuildEvent}
    (h : RunHistory base (front ++ [e]) state) (hends : e.event.payload.Ends) : state.status ≠ .running := by
  have hfold := h.fold_eq
  unfold foldProjectionRebuild at hfold
  rw [List.foldl_append, List.foldl_cons, List.foldl_nil] at hfold
  -- the folded status is the one of the last event
  intro hrunning
  cases hbefore : front.foldl applyProjectionRebuildEvent none with
  | none =>
    rw [hbefore] at hfold
    unfold applyProjectionRebuildEvent at hfold
    cases hpayload : e.event.payload <;> rw [hpayload] at hfold hends
    case started => exact hends
    all_goals cases hfold
  | some before =>
    rw [hbefore] at hfold
    unfold applyProjectionRebuildEvent at hfold
    cases hpayload : e.event.payload <;> rw [hpayload] at hfold hends
    case started => exact hends
    case advanced => exact hends
    all_goals
      obtain rfl := Option.some.inj hfold
      cases hrunning

/-- **Nothing comes after the end.** -/
theorem ends (h : RunHistory base log state) {before rest : ProjectionRebuildLog}
    {e : Recorded ProjectionRebuildEvent} (hlog : log = before ++ e :: rest) (hends : e.event.payload.Ends) :
    rest = [] := by
  induction h generalizing rest with
  | started =>
    cases before with
    | nil =>
      obtain ⟨-, hrest⟩ := List.cons.inj hlog
      exact hrest.symm
    | cons first before =>
      have hlength := congrArg List.length hlog
      simp [recorded] at hlength
  | @next log state event h hrunning hfollow ih =>
    rcases List.eq_nil_or_concat rest with hnil | ⟨rest', last, rfl⟩
    · exact hnil
    · have hsplit : log ++ [⟨log.length + 1, event⟩] = (before ++ e :: rest') ++ [last] := by
        rw [show log ++ [⟨log.length + 1, event⟩] = log ++ recorded log.length [event] from rfl, hlog]
        simp
      obtain ⟨hfront, -⟩ := List.append_inj' hsplit rfl
      -- the end would be the last event before this one, which found the run running
      obtain rfl := ih hfront
      rw [hfront] at h
      exact absurd hrunning (h.not_running_of_ends hends)

end RunHistory
