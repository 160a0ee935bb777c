import CfFrappe.Core.AutomationRules

set_option autoImplicit false

/-! # Automation runs

A run is a stream of its own: it is enqueued by the commit that asks for it, then claimed by
workers and delivered, failed or given up (`foldAutomationRun`). Its projection row is a snapshot of
the folded record (`automationRunSnapshot`), and reading the row gives the record back
(`automationRunRecordFromSnapshot_snapshot`).
-/

open Utf

def automationRunsDoctype : DocTypeName := js "__AutomationRuns"

/-! ## Records -/

inductive AutomationRunStatus
  | pending
  | claimed
  | delivered
  | failed
  | dead
  deriving DecidableEq

def AutomationRunStatus.toText : AutomationRunStatus → JsString
  | .pending => js "pending"
  | .claimed => js "claimed"
  | .delivered => js "delivered"
  | .failed => js "failed"
  | .dead => js "dead"

/-- A run, with what it is about; its `id` is the `runId` of its source. -/
structure AutomationRunRecord extends AutomationRunSource where
  tenantId : TenantId
  status : AutomationRunStatus
  attempts : Nat
  enqueuedAt : Timestamp
  claimedAt : Option Timestamp := none
  claimId : Option JsString := none
  claimExpiresAt : Option Timestamp := none
  deliveredAt : Option Timestamp := none
  failedAt : Option Timestamp := none
  error : Option JsString := none
  retryAt : Option Timestamp := none
  deadLetteredAt : Option Timestamp := none
  version : Nat
  deriving DecidableEq

def AutomationRunEventPayload.runId : AutomationRunEventPayload → JsString
  | .enqueued source => source.runId
  | .claimed runId _ _ | .delivered runId _ | .failed runId _ _ _ | .deadLettered runId _ _ | .suppressed runId _ =>
    runId

def automationRunEventType (payload : AutomationRunEventPayload) : JsString := (EventPayload.automationRun payload).kind

def automationRunEvent (id : JsString) (tenantId : TenantId) (stream : StreamName) (actorId : JsString)
    (occurredAt : Timestamp) (payload : AutomationRunEventPayload) (metadata : DocumentData) : NewDomainEvent :=
  { id, tenantId, stream, type := automationRunEventType payload, doctype := automationRunsDoctype,
    documentName := payload.runId, actorId, occurredAt, payload := .automationRun payload, metadata }

/-! ## The fold -/

def enqueuedRecord (tenantId : TenantId) (source : AutomationRunSource) (event : DomainEvent) : AutomationRunRecord :=
  { source with
    tenantId, status := .pending, attempts := 0, enqueuedAt := event.occurredAt, version := event.sequence }

def applyAutomationRunEvent (record : AutomationRunRecord) (event : DomainEvent) :
    AutomationRunEventPayload → AutomationRunRecord
  | .claimed _ claimId claimExpiresAt =>
    { record with
      error := none, retryAt := none, status := .claimed, attempts := record.attempts + 1,
      claimId := some claimId, claimedAt := some event.occurredAt, claimExpiresAt := some claimExpiresAt,
      version := event.sequence }
  | .delivered _ claimId =>
    { record with
      error := none, retryAt := none, claimExpiresAt := none, status := .delivered, claimId := some claimId,
      deliveredAt := some event.occurredAt, version := event.sequence }
  | .failed _ claimId error retryAt =>
    { record with
      status := .failed, claimId := some claimId, failedAt := some event.occurredAt, error := some error,
      retryAt := some retryAt, version := event.sequence }
  | .deadLettered _ claimId error =>
    { record with
      retryAt := none, claimExpiresAt := none, status := .dead, claimId := some claimId, error := some error,
      deadLetteredAt := some event.occurredAt, version := event.sequence }
  | .suppressed _ error =>
    { record with
      retryAt := none, claimExpiresAt := none, status := .dead, error := some error,
      deadLetteredAt := some event.occurredAt, version := event.sequence }
  | .enqueued _ => record

/-- One turn of the loop of `foldAutomationRunFrom`. -/
def foldAutomationRunEvent (tenantId : TenantId) (record : Option AutomationRunRecord) (event : DomainEvent) :
    Option AutomationRunRecord :=
  match event.payload with
  | .automationRun (.enqueued source) => some (enqueuedRecord tenantId source event)
  | .automationRun payload => record.map (fun record => applyAutomationRunEvent record event payload)
  | _ => record

def foldAutomationRunFrom (initial : Option AutomationRunRecord) (tenantId : TenantId) (events : List DomainEvent) :
    Option AutomationRunRecord :=
  (sortBySequence events).foldl (foldAutomationRunEvent tenantId) initial

def foldAutomationRun (tenantId : TenantId) (events : List DomainEvent) : Option AutomationRunRecord :=
  foldAutomationRunFrom none tenantId events

/-! ## Snapshots -/

namespace Json

/-- An object of members of which some may be left out. -/
def present (members : List (JsString × Option Json)) : DocumentData :=
  members.filterMap (fun member => member.2.map (fun value => (member.1, value)))

/-- A natural number. -/
def toNat? : Json → Option Nat
  | .num n => if n.den = 1 ∧ 0 ≤ n.num then some n.num.toNat else none
  | _ => none

end Json

/-- The members of the data of a row; those without a value are left out. -/
def automationRunMembers (record : AutomationRunRecord) : List (JsString × Option Json) :=
  [(js "sourceEventId", some (.str record.sourceEventId)),
   (js "sourceEventType", some (.str record.sourceEventType)),
   (js "sourcePayloadKind", some (.str record.sourcePayloadKind)),
   (js "sourceDoctype", some (.str record.sourceDoctype)),
   (js "sourceDocumentName", some (.str record.sourceDocumentName)),
   (js "sourceActorId", some (.str record.sourceActorId)),
   (js "workflowName", record.workflowName.map .str),
   (js "workflowAction", record.workflowAction.map .str),
   (js "workflowTransitions",
     record.workflowTransitions.map (fun transitions => .arr (transitions.map (·.toJson)))),
   (js "ruleId", some (.str record.ruleId)),
   (js "ruleName", some (.str record.ruleName)),
   (js "actionId", some (.str record.actionId)),
   (js "action", some record.action.toJson),
   (js "retry", some record.retry.toJson),
   (js "causationId", some (.str record.causationId)),
   (js "correlationId", some (.str record.correlationId)),
   (js "automationDepth", some (.num record.automationDepth)),
   (js "automationPath", some (Json.strings record.automationPath)),
   (js "status", some (.str record.status.toText)),
   (js "attempts", some (.num record.attempts)),
   (js "enqueuedAt", some (.str record.enqueuedAt)),
   (js "claimedAt", record.claimedAt.map .str),
   (js "claimId", record.claimId.map .str),
   (js "claimExpiresAt", record.claimExpiresAt.map .str),
   (js "deliveredAt", record.deliveredAt.map .str),
   (js "failedAt", record.failedAt.map .str),
   (js "error", record.error.map .str),
   (js "retryAt", record.retryAt.map .str),
   (js "deadLetteredAt", record.deadLetteredAt.map .str)]

def automationRunData (record : AutomationRunRecord) : DocumentData := Json.present (automationRunMembers record)

def AutomationRunStatus.docstatus : AutomationRunStatus → DocStatus
  | .dead => .cancelled
  | .delivered => .submitted
  | _ => .draft

def automationRunSnapshot (record : AutomationRunRecord) : DocumentSnapshot :=
  { tenantId := record.tenantId, doctype := automationRunsDoctype, name := record.runId, version := record.version
    docstatus := record.status.docstatus, data := automationRunData record, createdAt := record.enqueuedAt
    updatedAt := (((record.deliveredAt.or record.deadLetteredAt).or record.failedAt).or record.claimedAt).getD
      record.enqueuedAt }

/-! ## Reading a snapshot -/

/-- `String(value)`. -/
def stringFromData (value : Option Json) : JsString := (value.map (·.toText)).getD (js "undefined")

/-- `typeof value === "string"`. -/
def optionalStringFromData : Option Json → Option JsString
  | some (.str value) => some value
  | _ => none

/-- `Number(value)`. The numbers of a record are natural ones; the model gives up on any other. -/
def numberFromData (value : Option Json) : Except FrameworkError Nat :=
  match value.bind Json.toNat? with
  | some n => .ok n
  | none => .error (.ofError (js "NaN"))

def workflowTransitionFromData (item : Json) : Option DomainCommandTransitionFact :=
  match item with
  | .obj members =>
    match Record.get members (js "workflow"), Record.get members (js "stateField"),
      Record.get members (js "action"), Record.get members (js "from"), Record.get members (js "to") with
    | some (.str workflow), some (.str stateField), some (.str action), some (.str source), some (.str target) =>
      some { workflow, stateField, action, «from» := source, «to» := target }
    | _, _, _, _, _ => none
  | _ => none

def automationRunWorkflowTransitionsFromData (value : Option Json) :
    Except FrameworkError (Option (List DomainCommandTransitionFact)) :=
  match value with
  | none => .ok none
  | some (.arr items) =>
    match items.mapM workflowTransitionFromData with
    | some transitions => .ok (some transitions)
    | none => .error invalid
  | some _ => .error invalid
where
  invalid : FrameworkError := .ofError (js "Automation run snapshot contains invalid workflow transitions")

/-- The members of an object. -/
def membersFromData : Option Json → Option DocumentData
  | some (.obj members) => some members
  | _ => none

def automationRunActionFromData (value : Option Json) : Except FrameworkError ResolvedAutomationAction :=
  match membersFromData value with
  | none => .error (.ofError (js "Automation run snapshot contains an invalid action"))
  | some members =>
    if Record.get members (js "kind") ≠ some (.str (js "updateDocument")) then
      .error (.ofError (js "Automation run snapshot contains an invalid action"))
    else
      match membersFromData (Record.get members (js "target")), membersFromData (Record.get members (js "patch")) with
      | some target, some patch =>
        match Record.get target (js "doctype"), Record.get target (js "name") with
        | some (.str doctype), some (.str name) => .ok { doctype, name, patch }
        | _, _ => .error (.ofError (js "Automation run snapshot contains an invalid updateDocument action"))
      | _, _ => .error (.ofError (js "Automation run snapshot contains an invalid updateDocument action"))

/-- A safe integer; the model gives up on a negative one. -/
def safeNat? (value : Option Json) : Option Nat := (value.bind Json.toNat?).filter (fun n => Json.isSafeInteger n)

def automationRunRetryFromData (value : Option Json) : Except FrameworkError AutomationRunRetryPolicy :=
  match membersFromData value with
  | none => .error (.ofError (js "Automation run snapshot contains an invalid retry policy"))
  | some members =>
    match safeNat? (Record.get members (js "maxAttempts")), safeNat? (Record.get members (js "baseDelaySeconds")),
      safeNat? (Record.get members (js "maxDelaySeconds")) with
    | some maxAttempts, some baseDelaySeconds, some maxDelaySeconds =>
      .ok { maxAttempts, baseDelaySeconds, maxDelaySeconds }
    | _, _, _ => .error (.ofError (js "Automation run snapshot contains an invalid retry policy"))

def automationPathFromData (value : Option Json) : Except FrameworkError (List JsString) :=
  match value with
  | some (.arr items) =>
    match items.mapM (fun item => optionalStringFromData (some item)) with
    | some path => .ok path
    | none => .error invalid
  | _ => .error invalid
where
  invalid : FrameworkError := .ofError (js "Automation run snapshot contains an invalid automation path")

def automationRunStatusFromData (value : Option Json) : Except FrameworkError AutomationRunStatus :=
  match [AutomationRunStatus.pending, .claimed, .delivered, .failed, .dead].find? (fun status =>
    value == some (.str status.toText)) with
  | some status => .ok status
  | none => .error (.ofError (js "Automation run snapshot contains an invalid status"))

def automationRunRecordFromSnapshot (snapshot : DocumentSnapshot) : Except FrameworkError AutomationRunRecord := do
  let text (key : String) := stringFromData (Record.get snapshot.data (js key))
  let optional (key : String) := optionalStringFromData (Record.get snapshot.data (js key))
  let workflowTransitions ←
    automationRunWorkflowTransitionsFromData (Record.get snapshot.data (js "workflowTransitions"))
  let action ← automationRunActionFromData (Record.get snapshot.data (js "action"))
  let retry ← automationRunRetryFromData (Record.get snapshot.data (js "retry"))
  let automationDepth ← numberFromData (Record.get snapshot.data (js "automationDepth"))
  let automationPath ← automationPathFromData (Record.get snapshot.data (js "automationPath"))
  let status ← automationRunStatusFromData (Record.get snapshot.data (js "status"))
  let attempts ← numberFromData (Record.get snapshot.data (js "attempts"))
  pure
    { runId := snapshot.name, tenantId := snapshot.tenantId, sourceEventId := text "sourceEventId"
      sourceEventType := text "sourceEventType", sourcePayloadKind := text "sourcePayloadKind"
      sourceDoctype := text "sourceDoctype", sourceDocumentName := text "sourceDocumentName"
      sourceActorId := text "sourceActorId", workflowName := optional "workflowName"
      workflowAction := optional "workflowAction", workflowTransitions, ruleId := text "ruleId"
      ruleName := text "ruleName", actionId := text "actionId", action, retry, causationId := text "causationId"
      correlationId := text "correlationId", automationDepth, automationPath, status, attempts
      enqueuedAt := text "enqueuedAt", claimedAt := optional "claimedAt", claimId := optional "claimId"
      claimExpiresAt := optional "claimExpiresAt", deliveredAt := optional "deliveredAt"
      failedAt := optional "failedAt", error := optional "error", retryAt := optional "retryAt"
      deadLetteredAt := optional "deadLetteredAt", version := snapshot.version }

/-! ### The round trip -/

namespace Json

theorem keys_present_sublist (members : List (JsString × Option Json)) :
    (Record.keys (present members)).Sublist (members.map (·.1)) := by
  induction members with
  | nil => exact List.Sublist.slnil
  | cons member members ih =>
    rw [present, List.filterMap_cons, List.map_cons]
    cases member.2 with
    | none => exact ih.cons _
    | some value => exact ih.cons_cons _

/-- **A member of an object is read back**, also when it is left out. -/
theorem get_present {members : List (JsString × Option Json)} (hnodup : (members.map (·.1)).Nodup)
    {key : JsString} {value : Option Json} (hmem : (key, value) ∈ members) :
    Record.get (present members) key = value := by
  have hkeys : (Record.keys (present members)).Nodup := (keys_present_sublist members).nodup hnodup
  cases value with
  | some value =>
    apply Record.get_of_mem hkeys
    rw [present, List.mem_filterMap]
    exact ⟨(key, some value), hmem, rfl⟩
  | none =>
    by_contra hget
    obtain ⟨value, hvalue⟩ := Option.ne_none_iff_exists'.mp hget
    have hin := Record.mem_of_get hvalue
    rw [present, List.mem_filterMap] at hin
    obtain ⟨member, hmember, hmap⟩ := hin
    rw [Option.map_eq_some_iff] at hmap
    obtain ⟨found, hfound, heq⟩ := hmap
    rw [Prod.mk.injEq] at heq
    -- the key has one value only
    have hsame : (key, (none : Option Json)) = member := List.inj_on_of_nodup_map hnodup hmem hmember heq.1.symm
    rw [← hsame] at hfound
    cases hfound

theorem toNat?_natCast (n : Nat) : toNat? (.num n) = some n := by
  simp [toNat?]

end Json

theorem numberFromData_natCast (n : Nat) : numberFromData (some (.num n)) = .ok n := by
  rw [numberFromData, Option.bind_some, Json.toNat?_natCast]

theorem optionalStringFromData_str (value : Option JsString) :
    optionalStringFromData (value.map Json.str) = value := by
  cases value <;> rfl

theorem workflowTransitionFromData_toJson (transition : DomainCommandTransitionFact) :
    workflowTransitionFromData transition.toJson = some transition := rfl

/-- What the rows rely on: the numbers of a retry policy are safe integers. -/
structure AutomationRunRetryPolicy.Safe (retry : AutomationRunRetryPolicy) : Prop where
  maxAttempts : Json.isSafeInteger retry.maxAttempts = true
  baseDelaySeconds : Json.isSafeInteger retry.baseDelaySeconds = true
  maxDelaySeconds : Json.isSafeInteger retry.maxDelaySeconds = true

theorem safeNat?_natCast {n : Nat} (h : Json.isSafeInteger n = true) : safeNat? (some (.num n)) = some n := by
  rw [safeNat?, Option.bind_some, Json.toNat?_natCast, Option.filter_some, if_pos h]

theorem automationRunRetryFromData_toJson {retry : AutomationRunRetryPolicy} (h : retry.Safe) :
    automationRunRetryFromData (some retry.toJson) = .ok retry := by
  have hread : automationRunRetryFromData (some retry.toJson) =
      match safeNat? (some (.num retry.maxAttempts)), safeNat? (some (.num retry.baseDelaySeconds)),
        safeNat? (some (.num retry.maxDelaySeconds)) with
      | some maxAttempts, some baseDelaySeconds, some maxDelaySeconds =>
        .ok { maxAttempts, baseDelaySeconds, maxDelaySeconds }
      | _, _, _ => .error (.ofError (js "Automation run snapshot contains an invalid retry policy")) := rfl
  rw [hread, safeNat?_natCast h.maxAttempts, safeNat?_natCast h.baseDelaySeconds, safeNat?_natCast h.maxDelaySeconds]

theorem mapM_map_some {α β : Type} {encode : α → β} {decode : β → Option α} (h : ∀ a, decode (encode a) = some a)
    (l : List α) : (l.map encode).mapM decode = some l := by
  induction l with
  | nil => rfl
  | cons a l ih =>
    rw [List.map_cons, List.mapM_cons, h, ih]
    rfl

theorem automationRunWorkflowTransitionsFromData_toJson (transitions : Option (List DomainCommandTransitionFact)) :
    automationRunWorkflowTransitionsFromData
      (transitions.map (fun transitions => .arr (transitions.map (·.toJson)))) = .ok transitions := by
  cases transitions with
  | none => rfl
  | some transitions =>
    rw [Option.map_some, automationRunWorkflowTransitionsFromData,
      mapM_map_some workflowTransitionFromData_toJson transitions]

theorem automationPathFromData_strings (path : List JsString) :
    automationPathFromData (some (Json.strings path)) = .ok path := by
  have hmap : (path.map Json.str).mapM (fun item => optionalStringFromData (some item)) = some path := by
    apply mapM_map_some
    intro text
    rfl
  rw [Json.strings, automationPathFromData, hmap]

theorem automationRunStatusFromData_toText (status : AutomationRunStatus) :
    automationRunStatusFromData (some (.str status.toText)) = .ok status := by
  cases status <;> rfl

theorem nodup_automationRunMembers (record : AutomationRunRecord) :
    ((automationRunMembers record).map (·.1)).Nodup := by
  show
    ([js "sourceEventId", js "sourceEventType", js "sourcePayloadKind", js "sourceDoctype", js "sourceDocumentName",
      js "sourceActorId", js "workflowName", js "workflowAction", js "workflowTransitions", js "ruleId", js "ruleName",
      js "actionId", js "action", js "retry", js "causationId", js "correlationId", js "automationDepth",
      js "automationPath", js "status", js "attempts", js "enqueuedAt", js "claimedAt", js "claimId",
      js "claimExpiresAt", js "deliveredAt", js "failedAt", js "error", js "retryAt",
      js "deadLetteredAt"] : List JsString).Nodup
  decide +kernel

/-- The member at a place of the list is what its key reads. -/
theorem get_automationRunData (record : AutomationRunRecord) {key : JsString} {value : Option Json} (i : Nat)
    (h : (automationRunMembers record)[i]? = some (key, value)) :
    Record.get (automationRunSnapshot record).data key = value :=
  Json.get_present (nodup_automationRunMembers record) (List.mem_of_getElem? h)

/-- **The row of a record is read back as the record.** -/
theorem automationRunRecordFromSnapshot_snapshot {record : AutomationRunRecord} (h : record.retry.Safe) :
    automationRunRecordFromSnapshot (automationRunSnapshot record) = .ok record := by
  unfold automationRunRecordFromSnapshot
  simp only [get_automationRunData record 0 rfl, get_automationRunData record 1 rfl, get_automationRunData record 2 rfl,
    get_automationRunData record 3 rfl, get_automationRunData record 4 rfl, get_automationRunData record 5 rfl,
    get_automationRunData record 6 rfl, get_automationRunData record 7 rfl, get_automationRunData record 8 rfl,
    get_automationRunData record 9 rfl, get_automationRunData record 10 rfl, get_automationRunData record 11 rfl,
    get_automationRunData record 12 rfl, get_automationRunData record 13 rfl, get_automationRunData record 14 rfl,
    get_automationRunData record 15 rfl, get_automationRunData record 16 rfl, get_automationRunData record 17 rfl,
    get_automationRunData record 18 rfl, get_automationRunData record 19 rfl, get_automationRunData record 20 rfl,
    get_automationRunData record 21 rfl, get_automationRunData record 22 rfl, get_automationRunData record 23 rfl,
    get_automationRunData record 24 rfl, get_automationRunData record 25 rfl, get_automationRunData record 26 rfl,
    get_automationRunData record 27 rfl, get_automationRunData record 28 rfl,
    automationRunWorkflowTransitionsFromData_toJson, automationRunRetryFromData_toJson h, numberFromData_natCast,
    automationPathFromData_strings, automationRunStatusFromData_toText, optionalStringFromData_str]
  rfl

/-! ## The stream of a run

A run starts with its enqueueing and changes as its record allows: it may be suppressed at once, it
is claimed when it can be claimed, and only the holder of the claim ends it. -/

/-- What may happen to a run whose events so far fold to `record`. -/
def AutomationRunEnabled (runId : JsString) (record : Option AutomationRunRecord) (event : DomainEvent) : Prop :=
  match event.payload, record with
  | .automationRun (.enqueued source), none => source.runId = runId ∧ source.retry.Safe
  | .automationRun (.suppressed _ _), some record => record.status = .pending ∧ record.version = 1
  | .automationRun (.claimed _ _ _), some record =>
    record.status = .pending ∨ record.status = .failed ∨ record.status = .claimed
  | .automationRun (.delivered _ claimId), some record => record.status = .claimed ∧ record.claimId = some claimId
  | .automationRun (.failed _ claimId _ _), some record => record.status = .claimed ∧ record.claimId = some claimId
  | .automationRun (.deadLettered _ claimId _), some record => record.status = .claimed ∧ record.claimId = some claimId
  | _, _ => False

/-- The event is one of the run and of its stream. -/
structure AutomationRunLocated (event : NewDomainEvent) (tenantId : TenantId) (runId : JsString)
    (stream : StreamName) : Prop where
  stream : event.stream = stream
  tenantId : event.tenantId = tenantId
  doctype : event.doctype = automationRunsDoctype
  documentName : event.documentName = runId

/-- The stream of a run: every event is one that the events before it allow. -/
structure AutomationRunStream (tenantId : TenantId) (runId : JsString) (stream : StreamName)
    (events : List DomainEvent) : Prop where
  sequenced : Sequenced 0 events
  located : ∀ event ∈ events, AutomationRunLocated event.toNewDomainEvent tenantId runId stream
  enabled : ∀ before event after, events = before ++ event :: after →
    AutomationRunEnabled runId (foldAutomationRun tenantId before) event

theorem foldAutomationRun_eq {tenantId : TenantId} {events : List DomainEvent} (h : Sequenced 0 events) :
    foldAutomationRun tenantId events = events.foldl (foldAutomationRunEvent tenantId) none := by
  rw [foldAutomationRun, foldAutomationRunFrom, sortBySequence_eq h]

theorem foldAutomationRun_concat {tenantId : TenantId} {events : List DomainEvent} {event : DomainEvent}
    (h : Sequenced 0 (events ++ [event])) :
    foldAutomationRun tenantId (events ++ [event]) =
      foldAutomationRunEvent tenantId (foldAutomationRun tenantId events) event := by
  rw [foldAutomationRun_eq h, foldAutomationRun_eq h.left, List.foldl_append]
  rfl

/-- What a record of a run is after its events. -/
structure AutomationRunRecord.Of (record : AutomationRunRecord) (tenantId : TenantId) (runId : JsString)
    (version : Nat) : Prop where
  tenantId : record.tenantId = tenantId
  runId : record.runId = runId
  retry : record.retry.Safe
  version : record.version = version

/-- An event that is allowed gives a record of the run in the version of the event. -/
theorem foldAutomationRunEvent_enabled {tenantId : TenantId} {runId : JsString} {record : Option AutomationRunRecord}
    {event : DomainEvent} (henabled : AutomationRunEnabled runId record event)
    (hrecord : ∀ found, record = some found → found.tenantId = tenantId ∧ found.runId = runId ∧ found.retry.Safe) :
    ∃ next, foldAutomationRunEvent tenantId record event = some next ∧ next.Of tenantId runId event.sequence := by
  unfold AutomationRunEnabled at henabled
  unfold foldAutomationRunEvent
  split at henabled
  · rename_i source hpayload
    rw [hpayload]
    exact ⟨_, rfl, rfl, henabled.1, henabled.2, rfl⟩
  all_goals first
    | exact absurd henabled id
    | (rename_i found hpayload
       obtain ⟨htenant, hrun, hretry⟩ := hrecord found rfl
       rw [hpayload]
       exact ⟨_, rfl, htenant, hrun, hretry, rfl⟩)

namespace AutomationRunStream

variable {tenantId : TenantId} {runId : JsString} {stream : StreamName} {events : List DomainEvent}

theorem nil : AutomationRunStream tenantId runId stream [] := by
  refine ⟨trivial, ?_, ?_⟩
  · intro event hevent
    exact absurd hevent List.not_mem_nil
  · intro before event after heq
    exact absurd heq (by simp)

theorem left {a b : List DomainEvent} (h : AutomationRunStream tenantId runId stream (a ++ b)) :
    AutomationRunStream tenantId runId stream a := by
  refine ⟨h.sequenced.left, ?_, ?_⟩
  · intro event hevent
    exact h.located event (List.mem_append_left _ hevent)
  · rintro before event after rfl
    exact h.enabled before event (after ++ b) (by simp)

/-- **A stream with an event folds to the record of its run**, whose version is its length. -/
theorem fold_some (h : AutomationRunStream tenantId runId stream events) (hne : events ≠ []) :
    ∃ record, foldAutomationRun tenantId events = some record ∧ record.Of tenantId runId events.length := by
  -- by induction on the stream from its end: the events before the last one have a record, or there are none
  induction events using List.reverseRecOn with
  | nil => exact absurd rfl hne
  | append_singleton events event ih =>
    have henabled := h.enabled events event [] rfl
    have hsequence : event.sequence = events.length + 1 := by
      have hlast := h.sequenced.right.1
      omega
    have hrecord : ∀ found, foldAutomationRun tenantId events = some found →
        found.tenantId = tenantId ∧ found.runId = runId ∧ found.retry.Safe := by
      intro found hfound
      have hbefore : events ≠ [] := by
        rintro rfl
        cases hfound
      obtain ⟨record, hfold, hof⟩ := ih h.left hbefore
      rw [hfold, Option.some.injEq] at hfound
      subst hfound
      exact ⟨hof.tenantId, hof.runId, hof.retry⟩
    obtain ⟨next, hnext, hof⟩ := foldAutomationRunEvent_enabled henabled hrecord
    refine ⟨next, ?_, ?_⟩
    · rw [foldAutomationRun_concat h.sequenced, hnext]
    · rw [List.length_append, List.length_singleton, ← hsequence]
      exact hof

theorem of_fold (h : AutomationRunStream tenantId runId stream events) {record : AutomationRunRecord}
    (hfold : foldAutomationRun tenantId events = some record) : record.Of tenantId runId events.length := by
  have hne : events ≠ [] := by
    rintro rfl
    cases hfold
  obtain ⟨found, hfound, hof⟩ := h.fold_some hne
  rw [hfold, Option.some.injEq] at hfound
  subst hfound
  exact hof

theorem fold_none (h : AutomationRunStream tenantId runId stream events)
    (hfold : foldAutomationRun tenantId events = none) : events = [] := by
  by_contra hne
  obtain ⟨record, hrecord, -⟩ := h.fold_some hne
  rw [hfold] at hrecord
  cases hrecord

/-- `record?.version ?? 0` is the length of the stream. -/
theorem length_eq (h : AutomationRunStream tenantId runId stream events) :
    events.length = ((foldAutomationRun tenantId events).map (·.version)).getD 0 := by
  cases hfold : foldAutomationRun tenantId events with
  | none => rw [h.fold_none hfold]; rfl
  | some record => rw [Option.map_some, Option.getD_some, (h.of_fold hfold).version]

/-- The next event of a run. -/
theorem concat (h : AutomationRunStream tenantId runId stream events) {event : NewDomainEvent}
    (hlocated : AutomationRunLocated event tenantId runId stream)
    (henabled : AutomationRunEnabled runId (foldAutomationRun tenantId events)
      (event.withSequence (events.length + 1))) :
    AutomationRunStream tenantId runId stream (events ++ [event.withSequence (events.length + 1)]) := by
  refine ⟨?_, ?_, ?_⟩
  · refine h.sequenced.append ⟨?_, trivial⟩
    rw [Nat.zero_add]
    rfl
  · intro other hother
    rcases List.mem_append.mp hother with hold | hnew
    · exact h.located other hold
    · rw [List.mem_singleton] at hnew
      subst hnew
      exact ⟨hlocated.stream, hlocated.tenantId, hlocated.doctype, hlocated.documentName⟩
  · intro before last after heq
    -- the event is the last one, or one of the stream
    rcases List.eq_nil_or_concat after with rfl | ⟨rest, final, rfl⟩
    · obtain ⟨rfl, hlast⟩ := List.append_inj' heq rfl
      rw [List.cons.injEq] at hlast
      rw [← hlast.1]
      exact henabled
    · rw [List.concat_eq_append, ← List.cons_append, ← List.append_assoc] at heq
      obtain ⟨rfl, -⟩ := List.append_inj' heq rfl
      exact h.enabled before last rest rfl

end AutomationRunStream
