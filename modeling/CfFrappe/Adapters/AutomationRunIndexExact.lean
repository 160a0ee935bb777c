import CfFrappe.Adapters.AutomationRunCommands
import CfFrappe.Application.AutomationLoops
import CfFrappe.Lib.Alone

set_option autoImplicit false

/-! # The index of automation runs is exact

On a store whose rows are those of its runs, the query of the candidates and the rule in memory accept the same
runs, and the query orders them by the bytes of the time of their enqueueing and of their ids. So the candidates are
the first ones of the runs that can be claimed, whatever else is stored (`listCandidates_eq`).
-/

open Utf PercentEncoding TextOrder

namespace D1Database

variable {db : D1Database} {tenantId : TenantId}

/-- The records of a tenant's runs, each once. -/
structure ListsRuns (db : D1Database) (tenantId : TenantId) (records : List AutomationRunRecord) : Prop where
  nodup : records.Nodup
  mem_iff : ∀ record, record ∈ records ↔ ∃ runId, db.run tenantId runId = some record

/-- By the bytes of the time of the enqueueing, then of the id. -/
def byEnqueuedAt (left right : AutomationRunRecord) : Ordering :=
  (binaryCompare left.enqueuedAt right.enqueuedAt).then (binaryCompare left.runId right.runId)

instance transCmp_candidateOrder : Std.TransCmp candidateOrder := by
  have hlex : Std.TransCmp (compareLex
      (fun left right : AutomationRunIndexRow × DocumentSnapshot => binaryCompare left.1.enqueued_at right.1.enqueued_at)
      (fun left right => binaryCompare left.1.run_id right.1.run_id)) := by
    have htime : Std.TransCmp (fun left right : AutomationRunIndexRow × DocumentSnapshot =>
        binaryCompare left.1.enqueued_at right.1.enqueued_at) :=
          transCmp_on (fun row : AutomationRunIndexRow × DocumentSnapshot => row.1.enqueued_at)
    have hid : Std.TransCmp (fun left right : AutomationRunIndexRow × DocumentSnapshot =>
        binaryCompare left.1.run_id right.1.run_id) :=
          transCmp_on (fun row : AutomationRunIndexRow × DocumentSnapshot => row.1.run_id)
    infer_instance
  exact hlex

/-! ## Run ids -/

/-- The id of a run is well-formed, since its stream has a name. -/
theorem wellFormed_of_run {runId : JsString} {record : AutomationRunRecord} (h : db.run tenantId runId = some record) :
    WellFormed runId := by
  obtain ⟨stream, hstream, _⟩ := Option.bind_eq_some_iff.mp h
  by_contra hill
  have hnone : escapePart runId = none := by
    have hany : (codePoints runId).any isSurrogatePoint = true := by
      simpa [WellFormed] using hill
    rw [escapePart, encodeURIComponent, if_pos hany]
    rfl
  unfold automationRunStream documentStream at hstream
  rw [hnone] at hstream
  simp at hstream

/-- Runs with the same bytes in their ids are the same. -/
theorem eq_of_byEnqueuedAt {left right : AutomationRunRecord} {runId runId' : JsString} (hok : db.OK)
    (hleft : db.run tenantId runId = some left) (hright : db.run tenantId runId' = some right)
    (h : byEnqueuedAt left right = .eq) : left = right := by
  have hid : binaryCompare left.runId right.runId = .eq := (Ordering.then_eq_eq.mp h).2
  rw [(hok.of_run hleft).2, (hok.of_run hright).2] at hid
  have hbytes : textEncode runId = textEncode runId' := Std.LawfulEqOrd.eq_of_compare hid
  have hsame := textEncode_injective (wellFormed_of_run hleft) (wellFormed_of_run hright) hbytes
  rw [hsame, hright] at hleft
  exact (Option.some.inj hleft).symm

/-! ## The join -/

/-- The row of a record in the join. -/
def joinedRow (record : AutomationRunRecord) : AutomationRunIndexRow × DocumentSnapshot :=
  (automationRunIndexRow record, automationRunSnapshot record)

/-- **The join has the rows of every run.** -/
theorem mem_joinedRuns (hok : db.OK) {row : AutomationRunIndexRow × DocumentSnapshot} :
    row ∈ db.joinedRuns ↔ ∃ tenantId runId record, db.run tenantId runId = some record ∧ row = joinedRow record := by
  unfold joinedRuns
  rw [List.mem_filterMap]
  constructor
  · rintro ⟨r, hr, hjoin⟩
    obtain ⟨d, hd, rfl⟩ := Option.map_eq_some_iff.mp hjoin
    rw [KeyedTable.mem_rows_iff, AutomationRunIndexRow.key, hok.index] at hr
    rw [hok.documents] at hd
    obtain ⟨record, hrecord, hindex⟩ := Option.map_eq_some_iff.mp hr
    rw [hrecord, Option.map_some, Option.some.injEq] at hd
    exact ⟨r.tenant_id, r.run_id, record, hrecord, by rw [joinedRow, hindex, hd]⟩
  · rintro ⟨tenantId, runId, record, hrecord, rfl⟩
    obtain ⟨htenant, hid⟩ := hok.of_run hrecord
    have hkey : (automationRunIndexRow record).key = (tenantId, runId) := Prod.ext htenant hid
    refine ⟨automationRunIndexRow record, ?_, ?_⟩
    · rw [KeyedTable.mem_rows_iff, hkey, hok.index, hrecord, Option.map_some]
    · rw [show (automationRunIndexRow record).tenant_id = tenantId from htenant,
        show (automationRunIndexRow record).run_id = runId from hid, hok.documents, hrecord]
      rfl

theorem nodup_joinedRuns : db.joinedRuns.Nodup := by
  have hkeys : (db.joinedRuns.map (fun row => row.1.key)).Nodup := by
    have hsub : (db.joinedRuns.map (fun row => row.1.key)).Sublist (db.automationRuns.rows.map (·.key)) := by
      unfold joinedRuns
      induction db.automationRuns.rows with
      | nil => exact List.Sublist.slnil
      | cons r rows ih =>
        rw [List.filterMap_cons, List.map_cons]
        cases db.documents.row (r.tenant_id, automationRunsDoctype, r.run_id) with
        | none => exact ih.cons _
        | some d => exact ih.cons_cons _
    exact hsub.nodup db.automationRuns.keyed
  exact List.Nodup.of_map _ hkeys

/-- The runs of a tenant can be listed. -/
theorem exists_listsRuns (hok : db.OK) (tenantId : TenantId) : ∃ records, db.ListsRuns tenantId records := by
  refine ⟨(db.joinedRuns.filterMap (fun row => db.run tenantId row.1.run_id)).dedup, List.nodup_dedup _, ?_⟩
  intro record
  rw [List.mem_dedup, List.mem_filterMap]
  constructor
  · rintro ⟨row, _, hrow⟩
    exact ⟨_, hrow⟩
  · rintro ⟨runId, hrecord⟩
    refine ⟨joinedRow record, (mem_joinedRuns hok).mpr ⟨tenantId, runId, record, hrecord, rfl⟩, ?_⟩
    rw [show (joinedRow record).1.run_id = runId from (hok.of_run hrecord).2]
    exact hrecord

/-! ## The candidates -/

/-- The runs that can be claimed, whatever the order they are given in. -/
theorem mem_claimableAutomationRuns {localeCompare : JsString → JsString → Ordering}
    {records : List AutomationRunRecord} {now : Timestamp} {record : AutomationRunRecord} :
    record ∈ claimableAutomationRuns localeCompare records now records.length ↔
      record ∈ records ∧ isClaimableAutomationRun record now = true := by
  unfold claimableAutomationRuns sortedAutomationRunRecords
  have hlength : (records.filter (fun record => isClaimableAutomationRun record now)).length ≤ records.length :=
    List.length_filter_le _ _
  rw [List.take_of_length_le (by rwa [List.length_insertionSort]), List.mem_insertionSort, List.mem_filter]

theorem nodup_claimableAutomationRuns {localeCompare : JsString → JsString → Ordering}
    {records : List AutomationRunRecord} (h : records.Nodup) (now : Timestamp) (limit : Nat) :
    (claimableAutomationRuns localeCompare records now limit).Nodup := by
  unfold claimableAutomationRuns sortedAutomationRunRecords
  apply List.Nodup.sublist (List.take_sublist _ _)
  exact (List.perm_insertionSort _ _).nodup_iff.mpr (h.filter _)

/-- **The candidates are the first of the runs that can be claimed.** -/
theorem OK.listCandidates (hok : db.OK) (htimed : db.Timed) (localeCompare : JsString → JsString → Ordering)
    {records : List AutomationRunRecord} (hrecords : db.ListsRuns tenantId records) {now : Timestamp}
    (hnow : isIsoTimestamp now = true) (hlater : ∀ record ∈ records, textLe record.enqueuedAt now = true) (limit : Nat) :
    listD1AutomationRunClaimCandidateSnapshots db tenantId now limit =
      (((claimableAutomationRuns localeCompare records now records.length).insertionSort
        (fun left right => byEnqueuedAt left right ≠ .gt)).take limit).map automationRunSnapshot := by
  -- the same rows, once each
  have hmem : ∀ row, row ∈ db.joinedRuns.filter (fun row => isClaimCandidate tenantId now row.1) ↔
      row ∈ (claimableAutomationRuns localeCompare records now records.length).map joinedRow := by
    intro row
    rw [List.mem_filter, mem_joinedRuns hok, List.mem_map]
    constructor
    · rintro ⟨⟨tenantId', runId, record, hrecord, rfl⟩, hcandidate⟩
      have htenant : tenantId' = tenantId := by
        have hcandidate' := hcandidate
        unfold isClaimCandidate at hcandidate'
        rw [Bool.and_eq_true, Bool.and_eq_true, beq_iff_eq] at hcandidate'
        exact (hok.of_run hrecord).1.symm.trans hcandidate'.1.1
      rw [htenant] at hrecord
      have hin := (hrecords.mem_iff record).mpr ⟨runId, hrecord⟩
      refine ⟨record, mem_claimableAutomationRuns.mpr ⟨hin, ?_⟩, rfl⟩
      rw [← isClaimCandidate_row (hok.timed htimed hrecord) hnow (hlater record hin), (hok.of_run hrecord).1]
      exact hcandidate
    · rintro ⟨record, hclaimable, rfl⟩
      obtain ⟨hin, hclaimable⟩ := mem_claimableAutomationRuns.mp hclaimable
      obtain ⟨runId, hrecord⟩ := (hrecords.mem_iff record).mp hin
      refine ⟨⟨tenantId, runId, record, hrecord, rfl⟩, ?_⟩
      rw [← (hok.of_run hrecord).1]
      exact (isClaimCandidate_row (hok.timed htimed hrecord) hnow (hlater record hin)).trans hclaimable
  have hinjective : ∀ left right, joinedRow left = joinedRow right → left ∈ records → right ∈ records → left = right := by
    intro left right heq hleft hright
    obtain ⟨runId, hrun⟩ := (hrecords.mem_iff left).mp hleft
    obtain ⟨runId', hrun'⟩ := (hrecords.mem_iff right).mp hright
    have hid : left.runId = right.runId := congrArg (fun row => row.1.run_id) heq
    rw [(hok.of_run hrun).2, (hok.of_run hrun').2] at hid
    rw [hid, hrun'] at hrun
    exact (Option.some.inj hrun).symm
  have hnodup : ((claimableAutomationRuns localeCompare records now records.length).map joinedRow).Nodup := by
    apply List.Nodup.map_on _ (nodup_claimableAutomationRuns hrecords.nodup now _)
    intro left hleft right hright heq
    exact hinjective left right heq (mem_claimableAutomationRuns.mp hleft).1 (mem_claimableAutomationRuns.mp hright).1
  -- the order tells them apart
  have hapart : ∀ left ∈ db.joinedRuns.filter (fun row => isClaimCandidate tenantId now row.1),
      ∀ right ∈ db.joinedRuns.filter (fun row => isClaimCandidate tenantId now row.1),
        candidateOrder left right = .eq → left = right := by
    intro left hleft right hright heq
    obtain ⟨record, hrecord, rfl⟩ := List.mem_map.mp ((hmem left).mp hleft)
    obtain ⟨record', hrecord', rfl⟩ := List.mem_map.mp ((hmem right).mp hright)
    obtain ⟨runId, hrun⟩ := (hrecords.mem_iff record).mp (mem_claimableAutomationRuns.mp hrecord).1
    obtain ⟨runId', hrun'⟩ := (hrecords.mem_iff record').mp (mem_claimableAutomationRuns.mp hrecord').1
    rw [eq_of_byEnqueuedAt hok hrun hrun' heq]
  have hsorted : (db.joinedRuns.filter (fun row => isClaimCandidate tenantId now row.1)).insertionSort
      (fun left right => candidateOrder left right ≠ .gt) =
        ((claimableAutomationRuns localeCompare records now records.length).insertionSort
          (fun left right => byEnqueuedAt left right ≠ .gt)).map joinedRow := by
    rw [insertionSort_eq_of_mem_iff candidateOrder (nodup_joinedRuns.filter _) hnodup hmem hapart]
    symm
    apply List.map_insertionSort
    intro left _ right _
    exact Iff.rfl
  unfold listD1AutomationRunClaimCandidateSnapshots
  rw [hsorted, ← List.map_take, List.map_map]
  rfl

/-- A run has an event on its stream. -/
theorem exists_event_of_run {runId : JsString} {record : AutomationRunRecord}
    (h : db.run tenantId runId = some record) : ∃ event ∈ db.events, automationRunStream tenantId runId = some event.stream := by
  obtain ⟨stream, hstream, hfold⟩ := Option.bind_eq_some_iff.mp h
  cases hevents : db.stream stream with
  | nil =>
    rw [hevents] at hfold
    cases hfold
  | cons event events =>
    have hmem : event ∈ db.stream stream := by
      rw [hevents]
      exact List.mem_cons_self
    obtain ⟨hin, hname⟩ := List.mem_filter.mp hmem
    exact ⟨event, hin, by rw [hstream, eq_of_beq hname]⟩

variable {addSeconds : Timestamp → Nat → Option Timestamp} {localeCompare : JsString → JsString → Ordering}
  {canonicalize : UInt16 → UInt16}

/-- **The index is exact**: after any run of commands that has stored ISO timestamps alone, at any time that is not
before the enqueueing of a run of the tenant, the candidates are the first of the tenant's runs that can be claimed. -/
theorem StoreRun.listCandidates_eq {threads : List (AutomationRunCommand × D1Program Unit)}
    {steps : List (RunStep AutomationRunCommand D1Database D1Action D1Action.Reply)}
    (hrun : StoreRun addSeconds localeCompare canonicalize threads db steps) (htimed : db.Timed) (tenantId : TenantId) :
    (∃ records, db.ListsRuns tenantId records) ∧
      ∀ records, db.ListsRuns tenantId records → ∀ now, isIsoTimestamp now = true →
        (∀ record ∈ records, textLe record.enqueuedAt now = true) → ∀ limit,
          listD1AutomationRunClaimCandidateSnapshots db tenantId now limit =
            (((claimableAutomationRuns localeCompare records now records.length).insertionSort
              (fun left right => byEnqueuedAt left right ≠ .gt)).take limit).map automationRunSnapshot := by
  have hok := hrun.ok
  constructor
  · exact exists_listsRuns hok tenantId
  · intro records hrecords now hnow hlater limit
    exact hok.listCandidates htimed localeCompare hrecords hnow hlater limit

end D1Database

/-! ## A claimed run -/

namespace ClaimedOrder

def now : Timestamp := js "2024-01-01T00:00:00.000Z"

def later : Timestamp := js "2024-01-01T00:05:00.000Z"

theorem iso_now : isIsoTimestamp now = true := by decide +kernel

def addSeconds (time : Timestamp) (seconds : Nat) : Option Timestamp :=
  if time = now ∧ seconds = 300 then some later else none

def byCodeUnits (left right : JsString) : Ordering := compareCodeUnits left right

def batchReply (db : D1Database) : Option D1Database → Except D1Failure Unit × D1Database
  | some db' => (.ok (), db')
  | none => (.error .constraint, db)

/-- How the store answers one command after the other. -/
def reply (db : D1Database) : (action : D1Action) → action.Reply × D1Database
  | .now => (now, db)
  | .nextId start => (start ++ Json.natToString db.events.length, db)
  | .readStream stream payloadKinds => (db.readStream stream payloadKinds, db)
  | .currentVersion stream => (db.currentVersion stream, db)
  | .listAutomationRunClaimCandidates tenantId now limit =>
    (listD1AutomationRunClaimCandidateSnapshots db tenantId now limit, db)
  | .batch saved snapshots => batchReply db (db.batch saved snapshots)

theorem exec_reply (db : D1Database) (action : D1Action) : db.exec action (reply db action).1 (reply db action).2 := by
  cases action with
  | now => exact ⟨iso_now, rfl⟩
  | nextId start => exact (rfl : db = db)
  | readStream stream payloadKinds => exact ⟨rfl, rfl⟩
  | currentVersion stream => exact ⟨rfl, rfl⟩
  | listAutomationRunClaimCandidates tenantId now limit => exact ⟨rfl, rfl⟩
  | batch saved snapshots =>
    cases hbatch : db.batch saved snapshots with
    | none =>
      refine Or.inl ⟨.constraint, ?_, ?_⟩
      · show (batchReply db (db.batch saved snapshots)).1 = _
        rw [hbatch]
        rfl
      · show (batchReply db (db.batch saved snapshots)).2 = _
        rw [hbatch]
        rfl
    | some db' =>
      refine Or.inr ⟨?_, ?_⟩
      · show (batchReply db (db.batch saved snapshots)).1 = _
        rw [hbatch]
        rfl
      · show db.batch saved snapshots = some (batchReply db (db.batch saved snapshots)).2
        rw [hbatch]
        rfl

/-- The update of an order, with the run that its rule asks for. -/
def commit : EnqueuingCommit :=
  { planner := InvoiceSync.planner, command := InvoiceSync.command InvoiceSync.orderUpdated, nextId := InvoiceSync.nextId
    entries := [{ stream := InvoiceSync.orderUpdated.stream, expectedVersion := 0
                  events := [InvoiceSync.orderUpdated.toNewDomainEvent] }]
    project := fun _ => .ok { snapshot := InvoiceSync.snapshot (js "Order") (js "ORD-1") 2 (js "Open") } }

def commands : List AutomationRunCommand :=
  [.enqueue commit, .claimPending { tenantId := defaultTenantId, now := some now }]

def db : D1Database :=
  Program.evalAll reply (fun command => command.start d1Ports addSeconds byCodeUnits (fun u => u)) commands .empty

def runId : JsString := InvoiceSync.orderAction.runId

/-- The run, claimed for five minutes. -/
def records : List AutomationRunRecord := (db.run defaultTenantId runId).toList

theorem timed : db.Timed := by
  have htimes : ∀ event ∈ db.events, isIsoTimestamp event.occurredAt = true ∧
      ∀ time ∈ event.payload.runTimes, isIsoTimestamp time = true := by
    decide +kernel
  exact fun event hevent _ _ => ⟨(htimes event hevent).1, (htimes event hevent).2⟩

theorem orderStream_ne (tenantId : TenantId) (runId : JsString) :
    automationRunStream tenantId runId ≠ some InvoiceSync.orderUpdated.stream := by
  intro heq
  have horder : documentStream (js "default") (js "Order") (js "ORD-1") = some InvoiceSync.orderUpdated.stream := by
    decide +kernel
  have hparts := StreamRef.documentStream_injective heq horder
  simp only [Prod.mk.injEq] at hparts
  exact absurd hparts.2.1 (by decide +kernel)

theorem admitted : ∀ command ∈ commands, D1Database.Admitted command := by
  intro command hcommand
  rcases List.mem_cons.mp hcommand with rfl | hcommand
  · refine ⟨⟨InvoiceSync.options, rfl⟩, ?_, ?_⟩
    · intro entry hentry event hevent tenantId runId
      rw [List.mem_singleton.mp hentry] at hevent
      rw [List.mem_singleton.mp hevent]
      exact orderStream_ne tenantId runId
    · intro saved projection hprojection snapshot hsnapshot
      cases hprojection
      rw [List.mem_singleton.mp hsnapshot]
      decide +kernel
  · rw [List.mem_singleton.mp hcommand]
    trivial

theorem listsRuns : db.ListsRuns defaultTenantId records := by
  constructor
  · show (db.run defaultTenantId runId).toList.Nodup
    cases db.run defaultTenantId runId with
    | none => exact List.nodup_nil
    | some record => exact List.nodup_singleton record
  · intro record
    rw [records, Option.mem_toList]
    constructor
    · exact fun hrecord => ⟨runId, hrecord⟩
    · rintro ⟨otherId, hrecord⟩
      obtain ⟨event, hevent, hstream⟩ := D1Database.exists_event_of_run hrecord
      -- the events are the order's and the run's
      have hstreams : ∀ event ∈ db.events, event.stream = InvoiceSync.orderUpdated.stream ∨
          automationRunStream defaultTenantId runId = some event.stream := by
        decide +kernel
      rcases hstreams event hevent with horder | hname
      · rw [horder] at hstream
        exact absurd hstream (orderStream_ne _ _)
      · have hparts := StreamRef.documentStream_injective hstream hname
        simp only [Prod.mk.injEq] at hparts
        rw [hparts.2.2] at hrecord
        exact hrecord

end ClaimedOrder

/-- The claimed run is a candidate when its claim has expired. -/
theorem listCandidates_eq_claimedOrder :
    ClaimedOrder.db.Timed ∧ ClaimedOrder.records.length = 1 ∧
      listD1AutomationRunClaimCandidateSnapshots ClaimedOrder.db defaultTenantId ClaimedOrder.now 25 = [] ∧
      listD1AutomationRunClaimCandidateSnapshots ClaimedOrder.db defaultTenantId ClaimedOrder.later 25 =
        ((((claimableAutomationRuns ClaimedOrder.byCodeUnits ClaimedOrder.records ClaimedOrder.later
          ClaimedOrder.records.length).insertionSort
            (fun left right => D1Database.byEnqueuedAt left right ≠ .gt)).take 25).map automationRunSnapshot) := by
  obtain ⟨threads, hrun⟩ := Program.run_evalAll ClaimedOrder.exec_reply ClaimedOrder.commands ClaimedOrder.admitted Run.nil
  have hexact := (D1Database.StoreRun.listCandidates_eq hrun ClaimedOrder.timed defaultTenantId).2
    ClaimedOrder.records ClaimedOrder.listsRuns
  have hlater : ∀ record ∈ ClaimedOrder.records, textLe record.enqueuedAt ClaimedOrder.later = true := by
    decide +kernel
  exact ⟨ClaimedOrder.timed, by decide +kernel, by decide +kernel,
    hexact ClaimedOrder.later (by decide +kernel) hlater 25⟩
