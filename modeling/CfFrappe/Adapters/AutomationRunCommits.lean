import CfFrappe.Adapters.AutomationRunRows
import CfFrappe.Application.AutomationRunService

set_option autoImplicit false

/-! # What is committed for automation runs

An event of a run is planned from a read and inserted with the next sequence, so the constraint of the stream lets
it in only if nothing was added since (`D1Database.Batched.stream_unchanged`); then its row is the fold of the whole
stream. The commit of a document starts runs: their events are the first ones of their streams, and their rows are
the folds of what is saved. Both keep the invariant of the rows (`D1Database.OK.append`, `D1Database.OK.enqueue`).
-/

open Utf

namespace D1Database

variable {db db' : D1Database} {saved : List DomainEvent} {snapshots : List DocumentSnapshot}
  {tenantId : TenantId} {runId : JsString} {stream : StreamName}

/-! ## What a constraint says -/

/-- **Optimistic writing**: an event whose sequence follows what was read goes in only if the stream is as it
was read. -/
theorem Batched.stream_unchanged (h : Batched db saved snapshots db') {read : List DomainEvent}
    (hread : read <+: db.stream stream) (hsequenced : Sequenced 0 (db.stream stream)) {event : DomainEvent}
    (hevent : event ∈ saved) (hstream : event.stream = stream) (hsequence : event.sequence = read.length + 1) :
    db.stream stream = read := by
  obtain ⟨rest, hrest⟩ := hread
  cases rest with
  | nil => rw [← hrest, List.append_nil]
  | cons first rest =>
    exfalso
    -- the first event after the read has the same sequence
    have hsplit := hsequenced
    rw [← hrest] at hsplit
    have hfirst : first.sequence = read.length + 1 := by
      have hnumber := hsplit.right.1
      omega
    have hmem : first ∈ db.stream stream := by
      rw [← hrest]
      exact List.mem_append_right _ List.mem_cons_self
    obtain ⟨hin, hname⟩ := List.mem_filter.mp hmem
    have hdistinct := h.constraints.sequences
    rw [List.map_append, List.nodup_append] at hdistinct
    apply hdistinct.2.2 _ (List.mem_map_of_mem hin) _ (List.mem_map_of_mem hevent)
    rw [hfirst, hsequence, hstream, eq_of_beq hname]

/-- No two events of a batch have the same stream and sequence. -/
theorem Batched.saved_sequences (h : Batched db saved snapshots db') :
    (saved.map (fun event => (event.stream, event.sequence))).Nodup := by
  have hdistinct := h.constraints.sequences
  rw [List.map_append, List.nodup_append] at hdistinct
  exact hdistinct.2.1

/-- A saved event is found by its id. -/
theorem Batched.requireSavedEvent_eq (h : Batched db saved snapshots db') {event : DomainEvent} (hevent : event ∈ saved) :
    SeriesCreate.requireSavedEvent saved event.id = .ok event := by
  have hids := h.constraints.ids
  rw [List.map_append, List.nodup_append] at hids
  have hfind : saved.find? (fun other => other.id == event.id) = some event := by
    apply (find?_key_iff hids.2.1).mpr
    exact ⟨hevent, rfl⟩
  unfold SeriesCreate.requireSavedEvent
  rw [hfind]

/-! ## One event of a run -/

/-- An event that a command may add to a run whose record is `record`. -/
structure PlannedRunEvent (tenantId : TenantId) (runId : JsString) (stream : StreamName)
    (record : Option AutomationRunRecord) (planned : NewDomainEvent) : Prop where
  located : AutomationRunLocated planned tenantId runId stream
  enabled : ∀ sequence, AutomationRunEnabled runId record (planned.withSequence sequence)

/-- **The event of a command keeps the invariant**: it is the next one of its stream, and its row is the fold. -/
theorem OK.append (hok : db.OK) (hstream : automationRunStream tenantId runId = some stream) {read : List DomainEvent}
    (hread : read <+: db.stream stream) {planned : NewDomainEvent}
    (hplanned : PlannedRunEvent tenantId runId stream (foldAutomationRun tenantId read) planned)
    {updated : AutomationRunRecord}
    (hupdated : foldAutomationRun tenantId (read ++ [planned.withSequence (read.length + 1)]) = some updated)
    (h : Batched db [planned.withSequence (read.length + 1)] [automationRunSnapshot updated] db') : db'.OK := by
  have hlog := hok.logs hstream
  have hsame : db.stream stream = read :=
    h.stream_unchanged hread hlog.sequenced List.mem_cons_self hplanned.located.stream rfl
  rw [hsame] at hlog
  have hnext := hlog.concat hplanned.located (hplanned.enabled _)
  have hof := hnext.of_fold hupdated
  have hkey : documentKey (automationRunSnapshot updated) = (tenantId, automationRunsDoctype, runId) := by
    rw [← hof.tenantId, ← hof.runId]
    rfl
  apply hok.batch h
  intro tenantId' runId'
  by_cases hrun : (tenantId', runId') = (tenantId, runId)
  · obtain ⟨rfl, rfl⟩ := Prod.mk.inj hrun
    have hadded : db.stream stream ++ [planned.withSequence (read.length + 1)].filter (fun event => event.stream == stream) =
        read ++ [planned.withSequence (read.length + 1)] := by
      have hself : (planned.withSequence (read.length + 1)).stream = stream := hplanned.located.stream
      rw [hsame, List.filter_cons_of_pos (by rw [hself]; exact beq_self_eq_true _), List.filter_nil]
    refine .written hstream hadded hnext hupdated List.mem_cons_self ?_ ?_
    · intro snapshot hsnapshot _
      exact List.mem_singleton.mp hsnapshot
    · intro old hold
      rw [run_eq hstream, hsame] at hold
      exact hnext.enqueuedAt_concat hold hupdated
  · -- another run has another stream and another row
    apply KeepsRun.alone
    · intro stream' hstream' event hevent heq
      rw [List.mem_singleton.mp hevent] at heq
      have hname : stream = stream' := hplanned.located.stream.symm.trans heq
      rw [← hname] at hstream'
      have hparts := StreamRef.documentStream_injective hstream' hstream
      simp only [Prod.mk.injEq] at hparts
      exact hrun (by rw [hparts.1, hparts.2.2])
    · intro snapshot hsnapshot heq
      rw [List.mem_singleton.mp hsnapshot, hkey] at heq
      simp only [Prod.mk.injEq] at heq
      exact hrun (by rw [heq.1, heq.2.2])

/-! ## The events that start runs -/

/-- An entry of a commit that starts the stream of a run. -/
structure StartsRun (tenantId : TenantId) (runId : JsString) (entry : DocumentCommitBatchEntry) : Prop where
  stream : automationRunStream tenantId runId = some entry.stream
  expectedVersion : entry.expectedVersion = 0
  own : ∀ event ∈ entry.events, event.stream = entry.stream
  log : AutomationRunStream tenantId runId entry.stream (sequenceEvents 0 entry.events)
  record : ∃ record, foldAutomationRun tenantId (sequenceEvents 0 entry.events) = some record

theorem startsRun_of_planned {planner : AutomationRunPlanner} {command : PlanAutomationRunsFromDomainEventCommand}
    {nextId : Nat → JsString} {action : PlannedAutomationAction} {entry : DocumentCommitBatchEntry}
    (h : AutomationRunPlanner.Planned planner command nextId action entry) (hretry : planner.retry.Safe) :
    StartsRun command.event.tenantId action.runId entry := by
  obtain ⟨htracked, record, hrecord, -⟩ := h.start_tracked hretry
  have hstart : (RunSystem.start entry).events = sequenceEvents 0 entry.events := by
    unfold RunSystem.start
    rw [h.expectedVersion]
  rw [hstart] at hrecord
  have hstream := htracked.stream
  rw [hstart] at hstream
  have hevents : ∀ event ∈ entry.events, event.stream = entry.stream := by
    obtain ⟨issued, hgroup⟩ := h.events
    rw [hgroup]
    unfold AutomationRunPlanner.groupEvents
    split
    · intro event hevent
      rw [List.mem_singleton.mp hevent]
      rfl
    · intro event hevent
      rcases List.mem_cons.mp hevent with rfl | hevent
      · rfl
      · rw [List.mem_singleton.mp hevent]
        rfl
  exact ⟨h.stream, h.expectedVersion, hevents, hstream, record, hrecord⟩

/-- The stream starts with an event of sequence 1. -/
theorem StartsRun.first {entry : DocumentCommitBatchEntry} (h : StartsRun tenantId runId entry) :
    ∃ first ∈ sequenceEvents entry.expectedVersion entry.events, (first.stream, first.sequence) = (entry.stream, 1) := by
  obtain ⟨record, hrecord⟩ := h.record
  rw [h.expectedVersion]
  cases hevents : entry.events with
  | nil =>
    rw [hevents] at hrecord
    cases hrecord
  | cons event events =>
    refine ⟨event.withSequence 1, List.mem_cons_self, ?_⟩
    have hown := h.own event (by rw [hevents]; exact List.mem_cons_self)
    exact Prod.ext hown rfl

section Enqueuing

variable {own entries : List DocumentCommitBatchEntry}

/-- What a batch saves for the stream of a run that it starts: the events of one entry. -/
theorem Batched.filter_started (h : Batched db (Store.savedEvents (own ++ entries)) snapshots db')
    (hown : ∀ entry ∈ own, ∀ event ∈ entry.events, ∀ tenantId runId, automationRunStream tenantId runId ≠ some event.stream)
    (hentries : ∀ entry ∈ entries, ∃ runId, StartsRun tenantId runId entry) {entry : DocumentCommitBatchEntry}
    (hentry : entry ∈ entries) :
    (Store.savedEvents (own ++ entries)).filter (fun event => event.stream == entry.stream) =
      sequenceEvents 0 entry.events := by
  obtain ⟨runId, hstarts⟩ := hentries entry hentry
  obtain ⟨first, hfirst, hpair⟩ := hstarts.first
  obtain ⟨before, after, rfl⟩ := List.append_of_mem hentry
  have hdistinct := h.saved_sequences
  have hsplit : Store.savedEvents (own ++ (before ++ entry :: after)) = Store.savedEvents own ++
      (Store.savedEvents before ++ (sequenceEvents entry.expectedVersion entry.events ++ Store.savedEvents after)) := by
    simp only [Store.savedEvents, List.flatMap_append, List.flatMap_cons]
  have hnone : (Store.savedEvents own).filter (fun event => event.stream == entry.stream) = [] := by
    rw [List.filter_eq_nil_iff]
    intro event hevent
    obtain ⟨other, hother, hin⟩ := List.mem_flatMap.mp hevent
    have hne := hown other hother _ (Store.mem_sequenceEvents hin) tenantId runId
    rw [hstarts.stream] at hne
    have hne' : entry.stream ≠ event.stream := fun heq => hne (congrArg some heq)
    simpa using hne'.symm
  have hownStreams : Store.OwnStreams (before ++ entry :: after) := by
    intro other hother
    obtain ⟨_, hother⟩ := hentries other hother
    exact hother.own
  rw [hsplit, List.map_append, List.map_append, List.map_append, List.nodup_append, List.nodup_append,
    List.nodup_append] at hdistinct
  obtain ⟨-, ⟨-, ⟨-, -, hafterDisjoint⟩, hbeforeDisjoint⟩, -⟩ := hdistinct
  -- another entry for the stream would save another event of sequence 1
  have hbefore : ∀ other ∈ before, other.stream ≠ entry.stream := by
    intro other hother heq
    obtain ⟨_, hstarts'⟩ := hentries other (List.mem_append_left _ hother)
    obtain ⟨first', hfirst', hpair'⟩ := hstarts'.first
    refine hbeforeDisjoint _ (List.mem_map_of_mem (List.mem_flatMap.mpr ⟨other, hother, hfirst'⟩)) _
      (List.mem_append_left _ (List.mem_map_of_mem hfirst)) ?_
    rw [hpair', hpair, heq]
  have hafter : ∀ other ∈ after, other.stream ≠ entry.stream := by
    intro other hother heq
    obtain ⟨_, hstarts'⟩ := hentries other (List.mem_append_right _ (List.mem_cons_of_mem _ hother))
    obtain ⟨first', hfirst', hpair'⟩ := hstarts'.first
    refine hafterDisjoint _ (List.mem_map_of_mem hfirst) _
      (List.mem_map_of_mem (List.mem_flatMap.mpr ⟨other, hother, hfirst'⟩)) ?_
    rw [hpair', hpair, heq]
  calc (Store.savedEvents (own ++ (before ++ entry :: after))).filter (fun event => event.stream == entry.stream)
      = (Store.savedEvents own).filter (fun event => event.stream == entry.stream) ++
          (Store.savedEvents (before ++ entry :: after)).filter (fun event => event.stream == entry.stream) := by
        rw [← List.filter_append, Store.savedEvents, Store.savedEvents, Store.savedEvents, ← List.flatMap_append]
    _ = sequenceEvents entry.expectedVersion entry.events := by
        rw [hnone, List.nil_append, Store.savedEvents_filter hownStreams hbefore hafter]
    _ = sequenceEvents 0 entry.events := by rw [hstarts.expectedVersion]

/-- The saved events of a new stream, found by their ids. -/
theorem Batched.mapM_requireSavedEvent (h : Batched db saved snapshots db') {n : Nat} {events : List NewDomainEvent}
    (hevents : ∀ event ∈ sequenceEvents n events, event ∈ saved) :
    events.mapM (fun event => SeriesCreate.requireSavedEvent saved event.id) = .ok (sequenceEvents n events) := by
  induction events generalizing n with
  | nil => rfl
  | cons event events ih =>
    have hfirst := h.requireSavedEvent_eq (hevents (event.withSequence (n + 1)) List.mem_cons_self)
    have hrest := ih (fun other hother => hevents other (List.mem_cons_of_mem _ hother))
    rw [List.mapM_cons, show event.id = (event.withSequence (n + 1)).id from rfl, hfirst, hrest]
    rfl

/-- The row that is made for an entry that starts a run. -/
theorem Batched.row_started (h : Batched db (Store.savedEvents (own ++ entries)) snapshots db')
    {entry : DocumentCommitBatchEntry} (hentry : entry ∈ entries) (hstarts : StartsRun tenantId runId entry)
    {record : AutomationRunRecord} (hrecord : foldAutomationRun tenantId (sequenceEvents 0 entry.events) = some record) :
    AutomationRunCommitPlan.startedRow (Store.savedEvents (own ++ entries)) entry = .ok (automationRunSnapshot record) := by
  have hsaved : ∀ event ∈ sequenceEvents 0 entry.events, event ∈ Store.savedEvents (own ++ entries) := by
    intro event hevent
    refine List.mem_flatMap.mpr ⟨entry, List.mem_append_right _ hentry, ?_⟩
    rw [hstarts.expectedVersion]
    exact hevent
  have hfold : (sequenceEvents 0 entry.events).head?.bind
      (fun first => foldAutomationRun first.tenantId (sequenceEvents 0 entry.events)) = some record := by
    cases hevents : sequenceEvents 0 entry.events with
    | nil =>
      rw [hevents] at hrecord
      cases hrecord
    | cons first rest =>
      have hlocated := hstarts.log.located first (by rw [hevents]; exact List.mem_cons_self)
      rw [List.head?_cons, Option.bind_some, hlocated.tenantId, ← hevents]
      exact hrecord
  unfold AutomationRunCommitPlan.startedRow
  rw [h.mapM_requireSavedEvent hsaved]
  simp only [bind, Except.bind, hfold]
  rfl

/-- What is mapped has an image for each element. -/
theorem exists_mem_of_mapM {α β : Type} {f : α → Except FrameworkError β} {l : List α} {l' : List β}
    (h : l.mapM f = .ok l') {a : α} (ha : a ∈ l) : ∃ b ∈ l', f a = .ok b := by
  induction l generalizing l' with
  | nil => cases ha
  | cons first l ih =>
    rw [List.mapM_cons] at h
    obtain ⟨b, hb, h⟩ := except_bind_eq_ok h
    obtain ⟨rest, hrest, h⟩ := except_bind_eq_ok h
    cases h
    rcases List.mem_cons.mp ha with rfl | ha
    · exact ⟨b, List.mem_cons_self, hb⟩
    · obtain ⟨b', hb', hok⟩ := ih hrest ha
      exact ⟨b', List.mem_cons_of_mem _ hb', hok⟩

/-- The key of the row of a run that is started. -/
theorem StartsRun.documentKey_eq {entry : DocumentCommitBatchEntry} (h : StartsRun tenantId runId entry)
    {record : AutomationRunRecord} (hrecord : foldAutomationRun tenantId (sequenceEvents 0 entry.events) = some record) :
    documentKey (automationRunSnapshot record) = (tenantId, automationRunsDoctype, runId) := by
  have hof := h.log.of_fold hrecord
  rw [← hof.tenantId, ← hof.runId]
  rfl

/-- **A commit that starts runs keeps the invariant.** -/
theorem OK.enqueue (hok : db.OK) {rows runs : List DocumentSnapshot}
    (hown : ∀ entry ∈ own, ∀ event ∈ entry.events, ∀ tenantId runId, automationRunStream tenantId runId ≠ some event.stream)
    (hrows : ∀ snapshot ∈ rows, snapshot.doctype ≠ automationRunsDoctype)
    (hentries : ∀ entry ∈ entries, ∃ runId, StartsRun tenantId runId entry)
    (hruns : entries.mapM (AutomationRunCommitPlan.startedRow (Store.savedEvents (own ++ entries))) = .ok runs)
    (h : Batched db (Store.savedEvents (own ++ entries)) (rows ++ runs) db') : db'.OK := by
  -- the rows of a run come from the entry that starts it
  have hkeys : ∀ {tenantId' : TenantId} {runId' : JsString} {snapshot : DocumentSnapshot}, snapshot ∈ rows ++ runs →
      documentKey snapshot = (tenantId', automationRunsDoctype, runId') →
      ∃ entry ∈ entries, StartsRun tenantId runId' entry ∧ tenantId' = tenantId ∧
        ∃ record, foldAutomationRun tenantId (sequenceEvents 0 entry.events) = some record ∧
          snapshot = automationRunSnapshot record := by
    intro tenantId' runId' snapshot hsnapshot hkey
    rcases List.mem_append.mp hsnapshot with hrow | hrun
    · exact absurd (Prod.mk.inj (Prod.mk.inj hkey).2).1 (hrows snapshot hrow)
    · obtain ⟨entry, hentry, hstarted⟩ := mem_of_mapM_eq_ok hruns hrun
      obtain ⟨runId, hstarts⟩ := hentries entry hentry
      obtain ⟨record, hrecord⟩ := hstarts.record
      rw [h.row_started hentry hstarts hrecord] at hstarted
      obtain rfl := Except.ok.inj hstarted
      rw [hstarts.documentKey_eq hrecord] at hkey
      simp only [Prod.mk.injEq, true_and] at hkey
      obtain ⟨rfl, rfl⟩ := hkey
      exact ⟨entry, hentry, hstarts, rfl, record, hrecord, rfl⟩
  apply hok.batch h
  intro tenantId' runId'
  by_cases hrun : ∃ entry ∈ entries, automationRunStream tenantId' runId' = some entry.stream
  · obtain ⟨entry, hentry, hstream⟩ := hrun
    obtain ⟨runId, hstarts⟩ := hentries entry hentry
    have hparts := StreamRef.documentStream_injective hstream hstarts.stream
    simp only [Prod.mk.injEq] at hparts
    obtain ⟨rfl, -, rfl⟩ := hparts
    obtain ⟨record, hrecord⟩ := hstarts.record
    have hfilter := h.filter_started hown hentries hentry
    -- the stream was empty
    have hempty : db.stream entry.stream = [] := by
      obtain ⟨first, hfirst, hpair⟩ := hstarts.first
      rw [hstarts.expectedVersion] at hfirst
      rw [← hfilter] at hfirst
      obtain ⟨hname, hsequence⟩ := Prod.mk.inj hpair
      exact h.stream_unchanged List.nil_prefix (hok.logs hstream).sequenced (List.mem_filter.mp hfirst).1 hname hsequence
    refine .written hstream (by rw [hempty, hfilter, List.nil_append]) hstarts.log hrecord ?_ ?_ ?_
    · obtain ⟨snapshot, hsnapshot, hstarted⟩ := exists_mem_of_mapM hruns hentry
      rw [h.row_started hentry hstarts hrecord] at hstarted
      obtain rfl := Except.ok.inj hstarted
      exact List.mem_append_right _ hsnapshot
    · intro snapshot hsnapshot hkey
      obtain ⟨entry', hentry', hstarts', -, record', hrecord', rfl⟩ := hkeys hsnapshot hkey
      have hname : entry'.stream = entry.stream := Option.some.inj (hstarts'.stream.symm.trans hstarts.stream)
      rw [← h.filter_started hown hentries hentry', hname, hfilter, hrecord] at hrecord'
      rw [Option.some.inj hrecord']
    · intro old hold
      rw [run_eq hstream, hempty] at hold
      cases hold
  · have hother : ∀ entry ∈ entries, automationRunStream tenantId' runId' ≠ some entry.stream :=
      fun entry hentry hstream => hrun ⟨entry, hentry, hstream⟩
    apply KeepsRun.alone
    · intro stream hstream event hevent heq
      obtain ⟨entry, hentry, hin⟩ := List.mem_flatMap.mp hevent
      have hsource := Store.mem_sequenceEvents hin
      rcases List.mem_append.mp hentry with hentry | hentry
      · exact hown entry hentry _ hsource tenantId' runId' (by rw [hstream, ← heq])
      · obtain ⟨_, hstarts⟩ := hentries entry hentry
        have hname : event.stream = entry.stream := hstarts.own _ hsource
        exact hother entry hentry (by rw [hstream, ← heq, hname])
    · intro snapshot hsnapshot hkey
      obtain ⟨entry, hentry, hstarts, rfl, -⟩ := hkeys hsnapshot hkey
      exact hother entry hentry hstarts.stream

end Enqueuing

end D1Database
