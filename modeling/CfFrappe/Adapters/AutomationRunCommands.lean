import CfFrappe.Adapters.AutomationRunCommits
import CfFrappe.Lib.SharedState

set_option autoImplicit false

/-! # The commands of automation runs on the store

The service runs on the ports of the store (`d1Ports`), and any number of its commands share it (`runStore`): the
events only grow, and every command keeps the invariant of the rows. A plan is made from what was read of a
stream, and it may add only what the record of the read allows (`PlansRunEvents`).
-/

open Utf
open SharedState (wp_action wp_checked wp_later wp_mono wp_ofExcept wp_then wp_throw)

def d1Ports : AutomationRunPorts D1Action D1Action.Reply where
  now := .perform D1Action.now
  nextId start := .perform (D1Action.nextId start)
  readStream stream payloadKinds := .perform (D1Action.readStream stream payloadKinds)
  commitBatch := D1DocumentStore.commitBatch
  listAutomationRunClaimCandidates tenantId now limit :=
    .perform (D1Action.listAutomationRunClaimCandidates tenantId now limit)

variable {now : Timestamp} {read : List DomainEvent} {existing : AutomationRunRecord}
variable {payload : AutomationRunEventPayload} {planned : NewDomainEvent}

namespace D1Database

/-- Only a batch changes the store, and it only adds events. -/
theorem exec_events {db db' : D1Database} {action : D1Action} {reply : action.Reply} (h : db.exec action reply db') :
    db.events <+: db'.events := by
  cases action with
  | now => rw [h.2]
  | nextId start =>
    have hsame : db' = db := h
    rw [hsame]
  | readStream stream payloadKinds => rw [h.2]
  | currentVersion stream => rw [h.2]
  | listAutomationRunClaimCandidates tenantId now limit => rw [h.2]
  | batch saved snapshots =>
    rcases h with ⟨_, _, hsame⟩ | ⟨_, hbatch⟩
    · rw [hsame]
    · rw [(batched hbatch).events]
      exact List.prefix_append _ _

/-- What the commands may count on while others act. -/
def runStore : SharedState D1Database D1Action D1Action.Reply where
  exec := D1Database.exec
  le db db' := db.events <+: db'.events
  le_refl _ := List.prefix_rfl
  le_trans := List.IsPrefix.trans
  exec_le := exec_events
  Inv := OK

abbrev RunWp {α : Type} (p : D1Program α) (Q : α → D1Database → Prop) (db : D1Database) : Prop := runStore.Wp p Q db

namespace RunWp

variable {db : D1Database} {tenantId : TenantId} {runId : JsString} {stream : StreamName}

/-- A stream only grows. -/
theorem stream_prefix {db db' : D1Database} (h : db.events <+: db'.events) (name : StreamName) :
    db.stream name <+: db'.stream name := h.filter _

theorem wp_now {Q : Timestamp → D1Database → Prop} (h : ∀ db' time, Q time db') : RunWp d1Ports.now Q db := by
  apply wp_action
  rintro db' time db'' hlater hok ⟨_, rfl⟩
  exact ⟨hok, trivial, h _ time⟩

theorem wp_nextId {start : JsString} {Q : JsString → D1Database → Prop}
    (h : ∀ db' id, db.events <+: db'.events → Q id db') : RunWp (d1Ports.nextId start) Q db := by
  apply wp_action
  rintro db' id db'' hlater hok rfl
  exact ⟨hok, trivial, h _ id hlater⟩

/-- What is read of a run is its stream. -/
theorem wp_readStream (hstream : automationRunStream tenantId runId = some stream)
    {Q : List DomainEvent → D1Database → Prop}
    (h : ∀ db', db'.OK → Q (db'.stream stream) db') :
    RunWp (d1Ports.readStream stream automationRunPayloadKinds) Q db := by
  apply wp_action
  rintro db' events db'' hlater hok ⟨hevents, rfl⟩
  have hlog := hok.logs hstream
  have hall : (db''.stream stream).filter (fun event => automationRunPayloadKinds.contains event.payload.kind) =
      db''.stream stream := by
    rw [List.filter_eq_self]
    intro event hevent
    obtain ⟨payload, hpayload⟩ := hlog.runPayload hevent
    rw [hpayload]
    cases payload <;> rfl
  have hread : events = db''.stream stream := by
    rw [hevents, readStream, hall, sortBySequence_eq hlog.sequenced]
  rw [hread]
  exact ⟨hok, trivial, h _ hok⟩

theorem wp_listCandidates {limit : Nat} {Q : List DocumentSnapshot → D1Database → Prop} (h : ∀ db' rows, Q rows db') :
    RunWp (d1Ports.listAutomationRunClaimCandidates tenantId now limit) Q db := by
  apply wp_action
  rintro db' rows db'' _ hok ⟨_, rfl⟩
  exact ⟨hok, trivial, h _ rows⟩

theorem wp_checkVersions {Q : Except FrameworkError Unit → D1Database → Prop}
    (h : ∀ db' result, db.events <+: db'.events → Q result db') (entries : List DocumentCommitBatchEntry) :
    RunWp (D1DocumentStore.checkVersions entries) Q db := by
  induction entries generalizing db with
  | nil => exact h db _ List.prefix_rfl
  | cons entry entries ih =>
    apply wp_then
    apply wp_action
    rintro db' current db'' hlater hok ⟨_, rfl⟩
    refine ⟨hok, trivial, ?_⟩
    split_ifs
    · exact h _ _ hlater
    · exact ih (fun db' result hlater' => h db' result (hlater.trans hlater'))

/-- **A commit**: if it goes through, its batch keeps the invariant. -/
theorem wp_commitBatch {entries : List DocumentCommitBatchEntry}
    {project : List DomainEvent → Except FrameworkError DocumentCommitBatchProjection}
    {Q : Except FrameworkError DocumentCommit → D1Database → Prop}
    (hkeeps : ∀ db₁ db₂ projection, db.events <+: db₁.events → db₁.OK →
      project (Store.savedEvents entries) = .ok projection →
      Batched db₁ (Store.savedEvents entries) (projection.snapshot :: projection.auxiliarySnapshots) db₂ → db₂.OK)
    (hQ : ∀ db' result, Q result db') : RunWp (d1Ports.commitBatch entries project) Q db := by
  apply wp_then
  apply wp_checkVersions
  intro db₁ result hlater
  cases result with
  | error error => exact hQ _ _
  | ok _ =>
    dsimp only
    cases hproject : project (Store.savedEvents entries) with
    | error error => exact hQ _ _
    | ok projection =>
      apply wp_then
      apply wp_action
      intro db₂ reply db₃ hlater₂ hok hexec
      rcases hexec with ⟨failure, rfl, rfl⟩ | ⟨rfl, hbatch⟩
      · exact ⟨hok, trivial, hQ _ _⟩
      · exact ⟨hkeeps db₂ db₃ projection (hlater.trans hlater₂) hok hproject (batched hbatch), trivial, hQ _ _⟩

end RunWp

/-! ## Plans -/

/-- A plan adds what the record that was read allows. -/
def PlansRunEvents (tenantId : TenantId) (runId : JsString) (stream : StreamName)
    (plan : Option AutomationRunRecord → D1Program RunEventPlan) : Prop :=
  ∀ read, AutomationRunStream tenantId runId stream read → ∀ db,
    RunWp (plan (foldAutomationRun tenantId read))
      (fun result _ => ∀ planned, result = .append planned →
        PlannedRunEvent tenantId runId stream (foldAutomationRun tenantId read) planned) db

section Plans

variable {tenantId : TenantId} {runId : JsString} {stream : StreamName}

/-- An event that is made for a record of the run. -/
theorem plannedRunEvent_of (hlog : AutomationRunStream tenantId runId stream read)
    (hstream : automationRunStream tenantId runId = some stream)
    (hexisting : foldAutomationRun tenantId read = some existing) (hevent : RunEventOf existing payload now planned)
    (hrun : payload.runId = runId)
    (henabled : ∀ event : DomainEvent, event.payload = .automationRun payload →
      AutomationRunEnabled runId (some existing) event) :
    PlannedRunEvent tenantId runId stream (foldAutomationRun tenantId read) planned := by
  have hof := hlog.of_fold hexisting
  have hname := hevent.stream
  rw [hof.tenantId, hof.runId, hstream, Option.some.injEq] at hname
  constructor
  · exact ⟨hname.symm, hevent.tenantId.trans hof.tenantId, hevent.doctype, hevent.documentName.trans hrun⟩
  · intro sequence
    rw [hexisting]
    exact henabled _ hevent.payload

/-- `newRunEvent` with the time of the clock. -/
theorem wp_stampedRunEvent {db : D1Database} {metadata : DocumentData} {Q : NewDomainEvent → D1Database → Prop}
    (h : ∀ db' now planned, RunEventOf existing payload now planned → Q planned db') :
    RunWp (AutomationRunService.stampedRunEvent d1Ports existing payload metadata) Q db := by
  apply wp_then
  apply RunWp.wp_nextId
  intro db₁ id _
  apply wp_then
  apply RunWp.wp_now
  intro db₂ now
  apply wp_ofExcept
  intro planned hplanned
  exact h db₂ now planned (newRunEvent_ok hplanned)

variable {addSeconds : Timestamp → Nat → Option Timestamp} {localeCompare : JsString → JsString → Ordering}

theorem plans_claim (hstream : automationRunStream tenantId runId = some stream)
    {command : ClaimAutomationRunCommand} (hrun : command.runId = runId) :
    PlansRunEvents tenantId runId stream (AutomationRunService.claimPlan d1Ports addSeconds localeCompare command) := by
  intro read hlog db
  apply wp_checked
  intro existing hexisting
  have hexisting := requireAutomationRunRecord_ok hexisting
  split_ifs with hclaimable
  · apply wp_checked
    intro claimExpiresAt _
    apply wp_then
    apply RunWp.wp_nextId
    intro db₁ id _
    apply wp_checked
    intro claimed hclaimed planned heq
    obtain rfl := RunEventPlan.append.inj heq
    apply plannedRunEvent_of hlog hstream hexisting (newRunEvent_ok hclaimed) hrun
    intro event hpayload
    have hcan := any_claimable hclaimable
    unfold AutomationRunEnabled
    rw [hpayload]
    -- what can be claimed is pending, failed or claimed
    unfold isClaimableAutomationRun automationRunClaimExpired at hcan
    simp only [Bool.or_eq_true, Bool.and_eq_true, beq_iff_eq] at hcan
    rcases hcan with (hpending | hfailed) | hexpired
    · exact Or.inl hpending
    · exact Or.inr (Or.inl hfailed.1)
    · exact Or.inr (Or.inr hexpired.1)
  · intro planned heq
    cases heq

/-- What the holder of a claim does at the end of it. -/
theorem planned_of_claimed (hlog : AutomationRunStream tenantId runId stream read)
    (hstream : automationRunStream tenantId runId = some stream)
    (hexisting : foldAutomationRun tenantId read = some existing) {claimId : JsString} {u : Unit}
    (hclaimed : ensureAutomationRunClaimed existing claimId = .ok u) (hevent : RunEventOf existing payload now planned)
    (hpayload : payload = .delivered runId claimId ∨ (∃ error retryAt, payload = .failed runId claimId error retryAt) ∨
      ∃ error, payload = .deadLettered runId claimId error) :
    PlannedRunEvent tenantId runId stream (foldAutomationRun tenantId read) planned := by
  have hholder := ensureAutomationRunClaimed_ok hclaimed
  apply plannedRunEvent_of hlog hstream hexisting hevent
  · rcases hpayload with rfl | ⟨error, retryAt, rfl⟩ | ⟨error, rfl⟩ <;> rfl
  · intro event heq
    unfold AutomationRunEnabled
    rw [heq]
    rcases hpayload with rfl | ⟨error, retryAt, rfl⟩ | ⟨error, rfl⟩ <;> exact hholder

theorem plans_delivered (hstream : automationRunStream tenantId runId = some stream)
    {command : CompleteAutomationRunCommand} (hrun : command.runId = runId) :
    PlansRunEvents tenantId runId stream (AutomationRunService.deliveredPlan d1Ports command) := by
  intro read hlog db
  apply wp_checked
  intro existing hexisting
  split_ifs
  · intro planned heq
    cases heq
  · apply wp_checked
    intro _ hclaimed
    apply wp_then
    apply wp_stampedRunEvent
    intro db' now delivered hevent planned heq
    obtain rfl := RunEventPlan.append.inj heq
    rw [hrun] at hevent
    exact planned_of_claimed hlog hstream (requireAutomationRunRecord_ok hexisting) hclaimed hevent (Or.inl rfl)

theorem plans_failed (hstream : automationRunStream tenantId runId = some stream)
    {command : FailAutomationRunCommand} (hrun : command.runId = runId) (normalizedError : JsString) :
    PlansRunEvents tenantId runId stream
      (AutomationRunService.failedPlan d1Ports addSeconds command normalizedError) := by
  intro read hlog db
  apply wp_checked
  intro existing hexisting
  apply wp_checked
  intro _ hclaimed
  apply wp_then
  -- the time of the next attempt
  have hretry : ∀ db', RunWp (AutomationRunService.retryAtOf d1Ports addSeconds command existing) (fun _ _ => True) db' := by
    intro db'
    unfold AutomationRunService.retryAtOf
    cases command.retryAt with
    | some retryAt => trivial
    | none =>
      apply wp_then
      apply RunWp.wp_now
      intro db₁ now
      exact wp_ofExcept (fun _ _ => trivial)
  apply wp_mono (hretry db)
  intro retryAt db' _
  apply wp_then
  apply wp_stampedRunEvent
  intro db'' now failed hevent planned heq
  obtain rfl := RunEventPlan.append.inj heq
  rw [hrun] at hevent
  exact planned_of_claimed hlog hstream (requireAutomationRunRecord_ok hexisting) hclaimed hevent
    (Or.inr (Or.inl ⟨_, _, rfl⟩))

theorem plans_deadLettered (hstream : automationRunStream tenantId runId = some stream)
    {command : FailAutomationRunCommand} (hrun : command.runId = runId) (normalizedError : JsString) :
    PlansRunEvents tenantId runId stream
      (AutomationRunService.deadLetteredPlan d1Ports command normalizedError) := by
  intro read hlog db
  apply wp_checked
  intro existing hexisting
  split_ifs
  · intro planned heq
    cases heq
  · apply wp_checked
    intro _ hclaimed
    apply wp_then
    apply wp_stampedRunEvent
    intro db' now dead hevent planned heq
    obtain rfl := RunEventPlan.append.inj heq
    rw [hrun] at hevent
    exact planned_of_claimed hlog hstream (requireAutomationRunRecord_ok hexisting) hclaimed hevent
      (Or.inr (Or.inr ⟨_, rfl⟩))

end Plans

/-! ## Appending -/

section Appending

variable {tenantId : TenantId} {runId : JsString} {stream : StreamName}
  {plan : Option AutomationRunRecord → D1Program RunEventPlan}

/-- The batch of an event that was planned from a read. -/
theorem ok_of_planned {db₁ db₂ : D1Database} (hok : db₁.OK) (hstream : automationRunStream tenantId runId = some stream)
    (hlog : AutomationRunStream tenantId runId stream read) (hread : read <+: db₁.stream stream)
    (hplanned : PlannedRunEvent tenantId runId stream (foldAutomationRun tenantId read) planned)
    {entries : List DocumentCommitBatchEntry}
    (hentries : entries =
      [{ stream, expectedVersion := ((foldAutomationRun tenantId read).map (·.version)).getD 0, events := [planned] }])
    {projection : DocumentCommitBatchProjection}
    (hproject : AutomationRunService.projectRunEvent tenantId read planned (Store.savedEvents entries) = .ok projection)
    (h : Batched db₁ (Store.savedEvents entries) (projection.snapshot :: projection.auxiliarySnapshots) db₂) :
    db₂.OK := by
  have hsaved : Store.savedEvents entries = [planned.withSequence (read.length + 1)] := by
    rw [hentries, ← hlog.length_eq]
    rfl
  rw [hsaved] at hproject h
  obtain ⟨saved, hfound, hproject⟩ := except_bind_eq_ok hproject
  have hself : SeriesCreate.requireSavedEvent [planned.withSequence (read.length + 1)] planned.id =
      .ok (planned.withSequence (read.length + 1)) := h.requireSavedEvent_eq List.mem_cons_self
  obtain rfl := Except.ok.inj (hself.symm.trans hfound)
  cases hupdated : foldAutomationRun tenantId (read ++ [planned.withSequence (read.length + 1)]) with
  | none =>
    rw [hupdated] at hproject
    cases hproject
  | some updated =>
    rw [hupdated] at hproject
    cases hproject
    exact hok.append hstream hread hplanned hupdated h

/-- **The attempts keep the invariant**, by induction on how many are left. -/
theorem wp_appendAttempts (hstream : automationRunStream tenantId runId = some stream)
    (hplan : PlansRunEvents tenantId runId stream plan) (allowMissingResult : Bool) (attempts : Nat) (db : D1Database) :
    RunWp (AutomationRunService.appendAttempts d1Ports tenantId runId stream plan allowMissingResult attempts)
      (fun _ _ => True) db := by
  induction attempts generalizing db with
  | zero => exact wp_throw
  | succ attempts ih =>
    apply wp_then
    apply RunWp.wp_readStream hstream
    intro db₁ hok₁
    apply wp_then
    have hlog := hok₁.logs hstream
    apply wp_mono (wp_later (hplan _ hlog db₁))
    rintro result db₂ ⟨hlater, hplanned⟩
    cases result with
    | keep record =>
      cases record with
      | some kept => trivial
      | none =>
        dsimp only
        split_ifs
        · trivial
        · exact wp_ofExcept (fun _ _ => trivial)
    | append planned =>
      apply wp_then
      apply RunWp.wp_commitBatch
      · intro db₃ db₄ projection hlater' hok hproject hbatch
        exact ok_of_planned hok hstream hlog (RunWp.stream_prefix (hlater.trans hlater') stream)
          (hplanned planned rfl) rfl hproject hbatch
      · intro db' result
        cases result with
        | ok commit => exact wp_ofExcept (fun _ _ => trivial)
        | error error =>
          dsimp only
          split_ifs
          · exact ih db'
          · exact wp_throw

theorem wp_appendRunEvent
    (hplan : ∀ stream, automationRunStream tenantId runId = some stream → PlansRunEvents tenantId runId stream plan)
    (allowMissingResult : Bool) (db : D1Database) :
    RunWp (AutomationRunService.appendRunEvent d1Ports tenantId runId plan allowMissingResult) (fun _ _ => True) db := by
  apply wp_checked
  intro stream hstream
  have hstream := requireStream_ok hstream
  exact wp_appendAttempts hstream (hplan stream hstream) allowMissingResult _ db

theorem wp_appendRequired
    (hplan : ∀ stream, automationRunStream tenantId runId = some stream → PlansRunEvents tenantId runId stream plan)
    (db : D1Database) :
    RunWp (AutomationRunService.appendRequired d1Ports tenantId runId plan) (fun _ _ => True) db := by
  apply wp_then
  apply wp_mono (wp_appendRunEvent hplan false db)
  intro record db' _
  exact wp_ofExcept (fun _ _ => trivial)

end Appending

/-! ## Commands -/

/-- What is promised of a command: the planner of a commit was created, and what a change writes of its own is not
about runs. -/
def Admitted : AutomationRunCommand → Prop
  | .enqueue commit =>
    (∃ options, AutomationRunPlanner.create options = .ok commit.planner) ∧
      (∀ entry ∈ commit.entries, ∀ event ∈ entry.events, ∀ tenantId runId,
        automationRunStream tenantId runId ≠ some event.stream) ∧
      ∀ saved projection, commit.project saved = .ok projection →
        ∀ snapshot ∈ projection.snapshot :: projection.auxiliarySnapshots, snapshot.doctype ≠ automationRunsDoctype
  | _ => True

section Commands

variable {addSeconds : Timestamp → Nat → Option Timestamp} {localeCompare : JsString → JsString → Ordering}
  {canonicalize : UInt16 → UInt16}

theorem wp_commitEnqueuing {commit : EnqueuingCommit} (hadmitted : Admitted (.enqueue commit)) (db : D1Database) :
    RunWp (AutomationRunService.commitEnqueuing d1Ports canonicalize commit) (fun _ _ => True) db := by
  obtain ⟨⟨options, hcreate⟩, hown, hrows⟩ := hadmitted
  have hretry := normalizeAutomationRunRetryPolicy_safe (AutomationRunPlanner.create_retry hcreate)
  apply wp_checked
  intro plan hplan
  apply wp_then
  apply RunWp.wp_commitBatch
  · intro db₁ db₂ projection _ hok hproject hbatch
    obtain ⟨ownProjection, hownProjection, hproject⟩ := except_bind_eq_ok hproject
    obtain ⟨runs, hruns, hproject⟩ := except_bind_eq_ok hproject
    cases hproject
    have hentries : ∀ entry ∈ plan.entries, ∃ runId, StartsRun commit.command.event.tenantId runId entry := by
      intro entry hentry
      obtain ⟨action, _, hplanned⟩ := AutomationRunPlanner.planned_of_mem hplan hentry
      exact ⟨action.runId, startsRun_of_planned hplanned hretry⟩
    exact hok.enqueue hown (hrows _ _ hownProjection) hentries hruns hbatch
  · intro db' result
    exact wp_ofExcept (fun _ _ => trivial)

theorem wp_claimSelected {tenantId : TenantId} {claimId : JsString} (leaseSeconds : Nat)
    (selected : List AutomationRunRecord) (db : D1Database) :
    RunWp (AutomationRunService.claimSelected d1Ports addSeconds localeCompare tenantId claimId now leaseSeconds selected)
      (fun _ _ => True) db := by
  induction selected generalizing db with
  | nil => trivial
  | cons record selected ih =>
    apply wp_then
    have hplan : ∀ stream, automationRunStream tenantId record.runId = some stream →
        PlansRunEvents tenantId record.runId stream (AutomationRunService.claimPlan d1Ports addSeconds localeCompare
          { runId := record.runId, claimId, now, leaseSeconds }) :=
      fun stream hstream => plans_claim hstream rfl
    apply wp_mono (wp_appendRunEvent hplan true db)
    intro next db' _
    apply wp_then
    exact wp_mono (ih db') (fun _ _ _ => trivial)

theorem wp_claimPending (command : ClaimAutomationRunsCommand) (db : D1Database) :
    RunWp (AutomationRunService.claimPending d1Ports addSeconds localeCompare command) (fun _ _ => True) db := by
  have htime : RunWp (AutomationRunService.claimTime d1Ports command) (fun _ _ => True) db := by
    unfold AutomationRunService.claimTime
    cases command.now with
    | some now => trivial
    | none => exact RunWp.wp_now (fun _ _ => trivial)
  apply wp_then
  apply wp_mono htime
  intro now db₁ _
  apply wp_checked
  intro limit _
  -- what is done with the id of the claim
  have hrest : ∀ claimId db₂, RunWp (do
      let leaseSeconds ← Program.ofExcept (automationRunClaimLeaseSeconds command.leaseSeconds)
      let candidates ← AutomationRunService.listClaimCandidates d1Ports localeCompare command.tenantId now limit
      let selected := claimableAutomationRuns localeCompare candidates now limit
      let claimed ← AutomationRunService.claimSelected d1Ports addSeconds localeCompare command.tenantId claimId now
        leaseSeconds selected
      return selectedAutomationRunRecords claimed (selected.map (·.runId))) (fun _ _ => True) db₂ := by
    intro claimId db₂
    apply wp_checked
    intro leaseSeconds _
    apply wp_then
    apply wp_then
    apply RunWp.wp_listCandidates
    intro db₃ rows
    apply wp_checked
    intro records _
    apply wp_then
    exact wp_mono (wp_claimSelected leaseSeconds _ db₃) (fun _ _ _ => trivial)
  cases command.claimId with
  | some claimId => exact hrest claimId db₁
  | none =>
    apply wp_then
    exact RunWp.wp_nextId (fun db₂ claimId _ => hrest claimId db₂)

/-- **Every command keeps the invariant.** -/
theorem wp_start {command : AutomationRunCommand} (hadmitted : Admitted command) (db : D1Database) :
    RunWp (command.start d1Ports addSeconds localeCompare canonicalize) (fun _ _ => True) db := by
  cases command with
  | enqueue commit =>
    apply wp_then
    exact wp_mono (wp_commitEnqueuing hadmitted db) (fun _ _ _ => trivial)
  | claimPending command =>
    apply wp_then
    exact wp_mono (wp_claimPending command db) (fun _ _ _ => trivial)
  | markDelivered tenantId command =>
    apply wp_then
    have hplan : ∀ stream, automationRunStream tenantId command.runId = some stream →
        PlansRunEvents tenantId command.runId stream (AutomationRunService.deliveredPlan d1Ports command) :=
      fun stream hstream => plans_delivered hstream rfl
    exact wp_mono (wp_appendRequired hplan db) (fun _ _ _ => trivial)
  | markFailed tenantId command =>
    apply wp_then
    apply wp_checked
    intro normalizedError _
    have hplan : ∀ stream, automationRunStream tenantId command.runId = some stream →
        PlansRunEvents tenantId command.runId stream
          (AutomationRunService.failedPlan d1Ports addSeconds command normalizedError) :=
      fun stream hstream => plans_failed hstream rfl normalizedError
    exact wp_mono (wp_appendRequired hplan db) (fun _ _ _ => trivial)
  | markDeadLettered tenantId command =>
    apply wp_then
    apply wp_checked
    intro normalizedError _
    have hplan : ∀ stream, automationRunStream tenantId command.runId = some stream →
        PlansRunEvents tenantId command.runId stream
          (AutomationRunService.deadLetteredPlan d1Ports command normalizedError) :=
      fun stream hstream => plans_deadLettered hstream rfl normalizedError
    exact wp_mono (wp_appendRequired hplan db) (fun _ _ _ => trivial)

/-- A run of commands on a store that was empty. -/
abbrev StoreRun (addSeconds : Timestamp → Nat → Option Timestamp) (localeCompare : JsString → JsString → Ordering)
    (canonicalize : UInt16 → UInt16) (threads : List (AutomationRunCommand × D1Program Unit)) (db : D1Database)
    (steps : List (RunStep AutomationRunCommand D1Database D1Action D1Action.Reply)) : Prop :=
  Run D1Database.exec (fun command => command.start d1Ports addSeconds localeCompare canonicalize) Admitted .empty
    threads db steps

/-- **Every run keeps the invariant.** -/
theorem StoreRun.ok {threads : List (AutomationRunCommand × D1Program Unit)}
    {db : D1Database} {steps : List (RunStep AutomationRunCommand D1Database D1Action D1Action.Reply)}
    (hrun : StoreRun addSeconds localeCompare canonicalize threads db steps) : db.OK := by
  have hstart : ∀ command db', Admitted command → runStore.Inv db' →
      runStore.Wp (command.start d1Ports addSeconds localeCompare canonicalize) (fun _ _ => True) db' :=
    fun command db' hadmitted _ => wp_start hadmitted db'
  exact (SharedState.run hrun ok_empty hstart).1

end Commands

end D1Database
