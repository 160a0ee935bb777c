import CfFrappe.Application.AutomationRunPlanner

set_option autoImplicit false

/-! # Loops of automation

A run updates a document, and the event of the update says which runs led to it. The planner suppresses a run
whose action is found too often among these (`suppressed_iff`). It knows actions by the ids of the rule and of
the action, which rules of different DocTypes may share: the repeats it counts are those of the action itself
exactly when the runs of other DocTypes do not make up for them (`suppression_genuine_iff`).
-/

open Utf

/-- The metadata of the update that delivers a run. -/
def targetUpdateMetadata (record : AutomationRunRecord) : DocumentData :=
  [(js "automationActionId", .str record.runId), (js "automationRunId", .str record.runId),
   (js "causationId", .str record.runId), (js "correlationId", .str record.correlationId),
   (js "automationDepth", .num record.automationDepth), (js "automationPath", Json.strings record.automationPath),
   (js "automationRuleId", .str record.ruleId), (js "automationRuleName", .str record.ruleName),
   (js "automationActionDefinitionId", .str record.actionId), (js "sourceEventId", .str record.sourceEventId),
   (js "sourceDoctype", .str record.sourceDoctype), (js "sourceDocumentName", .str record.sourceDocumentName)]

/-! ## Planned runs -/

def EventPayload.isSuppression : EventPayload → Bool
  | .automationRun (.suppressed _ _) => true
  | _ => false

namespace DocumentCommitBatchEntry

def suppressed (entry : DocumentCommitBatchEntry) : Bool := entry.events.any (·.payload.isSuppression)

/-- What the run of an entry is about. -/
def enqueuedSource (entry : DocumentCommitBatchEntry) : Option AutomationRunSource :=
  entry.events.head?.bind (fun event =>
    match event.payload with
    | .automationRun (.enqueued source) => some source
    | _ => none)

end DocumentCommitBatchEntry

/-! ## Chains -/

/-- An action of a rule of a DocType. -/
structure AutomationLink where
  doctype : DocTypeName
  ruleId : JsString
  actionId : JsString
  deriving DecidableEq

def AutomationRunSource.link (source : AutomationRunSource) : AutomationLink :=
  { doctype := source.sourceDoctype, ruleId := source.ruleId, actionId := source.actionId }

def AutomationLink.key (link : AutomationLink) : JsString := automationActionIdentity link.ruleId link.actionId

section

variable (planner : AutomationRunPlanner) (canonicalize : UInt16 → UInt16)
  (registry : DocTypeName → Option DocTypeDefinition)

/-- A plan for an event, with the rules of the DocType of its document. -/
structure PlannedRun (nextId : Nat → JsString) (command : PlanAutomationRunsFromDomainEventCommand)
    (entry : DocumentCommitBatchEntry) (source : AutomationRunSource) : Prop where
  rules : command.rules = (registry command.event.doctype).map (·.automationRules)
  planned : ∃ plan, planner.planEnqueueFromDomainEvent command canonicalize nextId = .ok plan ∧ entry ∈ plan.entries
  source : entry.enqueuedSource = some source

/-- An event of the update that delivers a run. -/
structure DeliveredBy (record : AutomationRunRecord) (event : DomainEvent) : Prop where
  doctype : event.doctype = record.action.doctype
  documentName : event.documentName = record.action.name
  metadata : event.metadata = targetUpdateMetadata record

/-- **A causal chain**: the actions whose runs led to an event, from one that no run caused. -/
inductive AutomationChain : List AutomationLink → DomainEvent → Prop
  | root {cause : DomainEvent} (hdepth : sourceAutomationDepth cause = 0) (hpath : sourceAutomationPath cause = []) :
      AutomationChain [] cause
  | delivered {chain : List AutomationLink} {nextId : Nat → JsString}
      {command : PlanAutomationRunsFromDomainEventCommand} {entry : DocumentCommitBatchEntry}
      {record : AutomationRunRecord} {caused : DomainEvent} (hchain : AutomationChain chain command.event)
      (hplanned : PlannedRun planner canonicalize registry nextId command entry record.toAutomationRunSource)
      (hrun : entry.suppressed = false) (hdelivered : DeliveredBy record caused) :
      AutomationChain (chain ++ [record.link]) caused

end

/-- A genuine repeat, at the end of a chain. -/
def AutomationRunPlanner.Repeats (planner : AutomationRunPlanner) (chain : List AutomationLink) (link : AutomationLink) :
    Prop :=
  planner.maxPathRepeats ≤ chain.count link

/-- The planner counts enough repeats, but not of the action itself: a run of another DocType has its ids. -/
def AutomationRunPlanner.Confuses (planner : AutomationRunPlanner) (chain : List AutomationLink)
    (link : AutomationLink) : Prop :=
  chain.count link < planner.maxPathRepeats ∧
    planner.maxPathRepeats ≤ chain.countP (fun other => other.ruleId = link.ruleId ∧ other.actionId = link.actionId)

/-! ## What the planner counts -/

theorem automationActionIdentity_inj {ruleId ruleId' actionId actionId' : JsString} :
    automationActionIdentity ruleId actionId = automationActionIdentity ruleId' actionId' ↔
      ruleId = ruleId' ∧ actionId = actionId' := by
  constructor
  · intro h
    obtain ⟨hrule, haction⟩ := before_colon_unique (colon_notMem_automationIdentityPart ruleId)
      (colon_notMem_automationIdentityPart ruleId') h
    exact ⟨automationIdentityPart_injective hrule, automationIdentityPart_injective haction⟩
  · rintro ⟨rfl, rfl⟩
    rfl

/-- What a delivered run says of its path is read back. -/
theorem sourceAutomationPath_delivered {record : AutomationRunRecord} {event : DomainEvent}
    (h : DeliveredBy record event) : sourceAutomationPath event = record.automationPath := by
  have hkeys : (Record.keys (targetUpdateMetadata record)).Nodup := by
    show ([js "automationActionId", js "automationRunId", js "causationId", js "correlationId", js "automationDepth",
      js "automationPath", js "automationRuleId", js "automationRuleName", js "automationActionDefinitionId",
      js "sourceEventId", js "sourceDoctype", js "sourceDocumentName"] : List JsString).Nodup
    decide +kernel
  have hget : Record.get event.metadata (js "automationPath") = some (Json.strings record.automationPath) := by
    rw [h.metadata]
    apply Record.get_of_mem hkeys
    simp [targetUpdateMetadata]
  unfold sourceAutomationPath
  rw [hget, automationPathFromData_strings]

section

variable {planner : AutomationRunPlanner} {canonicalize : UInt16 → UInt16}
  {registry : DocTypeName → Option DocTypeDefinition} {nextId : Nat → JsString}
  {command : PlanAutomationRunsFromDomainEventCommand} {entry : DocumentCommitBatchEntry} {source : AutomationRunSource}

/-- A planned run is about an action, and the planner has looked for loops of this action. -/
theorem PlannedRun.exists_action (h : PlannedRun planner canonicalize registry nextId command entry source) :
    ∃ action, source = planner.automationRunSource command action ∧
      (entry.suppressed = true ↔ (planner.suppressionError command action).isSome = true) := by
  obtain ⟨plan, hplan, hentry⟩ := h.planned
  obtain ⟨action, -, hplanned⟩ := AutomationRunPlanner.planned_of_mem hplan hentry
  obtain ⟨issued, hevents⟩ := hplanned.events
  have hsource := h.source
  refine ⟨action, ?_, ?_⟩
  · unfold DocumentCommitBatchEntry.enqueuedSource at hsource
    rw [hevents] at hsource
    unfold AutomationRunPlanner.groupEvents at hsource
    cases herror : planner.suppressionError command action with
    | none =>
      rw [herror] at hsource
      exact (Option.some.inj hsource).symm
    | some error =>
      rw [herror] at hsource
      exact (Option.some.inj hsource).symm
  · unfold DocumentCommitBatchEntry.suppressed
    rw [hevents]
    unfold AutomationRunPlanner.groupEvents
    cases planner.suppressionError command action with
    | none =>
      apply iff_of_false
      · exact Bool.false_ne_true
      · simp
    | some error => exact iff_of_true rfl rfl

/-- The path of a planned run is that of its event and the action. -/
theorem PlannedRun.automationPath (h : PlannedRun planner canonicalize registry nextId command entry source) :
    source.automationPath = sourceAutomationPath command.event ++ [source.link.key] := by
  obtain ⟨action, rfl, -⟩ := h.exists_action
  rfl

/-- **The path of an event is its chain**, without the DocTypes. -/
theorem AutomationChain.path {chain : List AutomationLink} {event : DomainEvent}
    (h : AutomationChain planner canonicalize registry chain event) :
    sourceAutomationPath event = chain.map AutomationLink.key := by
  induction h with
  | root hdepth hpath => exact hpath
  | delivered hchain hplanned hrun hdelivered ih =>
    rw [sourceAutomationPath_delivered hdelivered, hplanned.automationPath, ih, List.map_append]
    rfl

theorem length_filter_key (chain : List AutomationLink) (link : AutomationLink) :
    ((chain.map AutomationLink.key).filter (· == link.key)).length =
      chain.countP (fun other => other.ruleId = link.ruleId ∧ other.actionId = link.actionId) := by
  rw [← List.countP_eq_length_filter, List.countP_map]
  apply List.countP_congr
  intro other _
  simp [AutomationLink.key, automationActionIdentity_inj]

/-- **When a run is suppressed**: its depth, or the repeats of its ids in the chain. -/
theorem suppressed_iff {chain : List AutomationLink}
    (hchain : AutomationChain planner canonicalize registry chain command.event)
    (h : PlannedRun planner canonicalize registry nextId command entry source) :
    entry.suppressed = true ↔ planner.maxDepth < source.automationDepth ∨
      planner.maxPathRepeats ≤
        chain.countP (fun other => other.ruleId = source.ruleId ∧ other.actionId = source.actionId) := by
  obtain ⟨action, rfl, hsuppressed⟩ := h.exists_action
  have hcount := length_filter_key chain (planner.automationRunSource command action).link
  rw [hsuppressed]
  unfold AutomationRunPlanner.suppressionError automationLoopSuppressionError
  rw [hchain.path]
  change ((chain.map AutomationLink.key).filter
    (· == automationActionIdentity action.ruleId action.actionId)).length = _ at hcount
  rw [hcount]
  show _ ↔ planner.maxDepth < sourceAutomationDepth command.event + 1 ∨ _
  by_cases hdepth : planner.maxDepth < sourceAutomationDepth command.event + 1
  · rw [if_pos hdepth]
    exact iff_of_true rfl (Or.inl hdepth)
  · rw [if_neg hdepth]
    split_ifs with hrepeats
    · exact iff_of_true rfl (Or.inr hrepeats)
    · exact iff_of_false (by simp) (fun h => h.elim hdepth hrepeats)

/-- **Suppressed runs are too deep, or genuine repeats**, exactly when the planner does not confuse the action
with those of other DocTypes. -/
theorem suppression_genuine_iff {chain : List AutomationLink}
    (hchain : AutomationChain planner canonicalize registry chain command.event)
    (h : PlannedRun planner canonicalize registry nextId command entry source) :
    (entry.suppressed = true → planner.maxDepth < source.automationDepth ∨ planner.Repeats chain source.link) ↔
      planner.maxDepth < source.automationDepth ∨ ¬planner.Confuses chain source.link := by
  rw [suppressed_iff hchain h]
  unfold AutomationRunPlanner.Confuses AutomationRunPlanner.Repeats
  show _ ↔ planner.maxDepth < source.automationDepth ∨ ¬(_ ∧ planner.maxPathRepeats ≤
    chain.countP (fun other => other.ruleId = source.ruleId ∧ other.actionId = source.actionId))
  by_cases hdepth : planner.maxDepth < source.automationDepth
  · simp [hdepth]
  · simp only [hdepth, false_or, not_and, not_le]
    constructor
    · intro hgenuine hfew
      by_contra hmany
      have := hgenuine (by omega)
      omega
    · intro hclear hmany
      by_contra hfew
      have := hclear (by omega)
      omega

end

/-! ## Two DocTypes with the ids of one rule

A change of an order updates its invoice, and a change of an invoice updates the ledger. Both rules are called
`sync`, and their actions `touch`; the second run is no repeat of the first. -/

deriving instance DecidableEq for PlannedAutomationAction

/-- The plan for an event that asks for one action. -/
theorem AutomationRunPlanner.planEnqueue_single {planner : AutomationRunPlanner}
    {command : PlanAutomationRunsFromDomainEventCommand} {canonicalize : UInt16 → UInt16} (nextId : Nat → JsString)
    {action : PlannedAutomationAction} {stream : StreamName} (hactions : plannedActions command canonicalize = [action])
    (hstream : automationRunStream command.event.tenantId action.runId = some stream) :
    planner.planEnqueueFromDomainEvent command canonicalize nextId = .ok
      { entries := [{ stream, expectedVersion := 0, events := planner.groupEvents command nextId 0 stream action }]
        runIds := [action.runId] } := by
  unfold planEnqueueFromDomainEvent
  rw [hactions]
  unfold runGroups
  rw [hstream]
  rfl

namespace InvoiceSync

def options : AutomationRunPlannerOptions := {}

def planner : AutomationRunPlanner :=
  { retry := { maxAttempts := 10, baseDelaySeconds := 30, maxDelaySeconds := 1800 }, maxDepth := 8, maxPathRepeats := 1 }

/-- `touch` sets the status of a document. -/
def rule (target : DocTypeName) (name : DocumentName) : AutomationRuleDefinition :=
  { id := js "sync", name := js "Sync", trigger := { events := [.documentUpdated] }
    actions :=
      [{ id := js "touch", targetDoctype := target, targetName := .literal (.str name)
         patch := [(js "status", .literal (.str (js "Open")))] }] }

def doctype (name : DocTypeName) (automationRules : List AutomationRuleDefinition) : DocTypeDefinition :=
  { name, fields := [{ name := js "status", type := .text }], automationRules }

def registry (name : DocTypeName) : Option DocTypeDefinition :=
  if name = js "Order" then some (doctype name [rule (js "Invoice") (js "INV-1")])
  else if name = js "Invoice" then some (doctype name [rule (js "Ledger") (js "LED-1")])
  else if name = js "Ledger" then some (doctype name [])
  else none

def actor : Actor := { id := js "ada", roles := [js "Clerk"] }

def snapshot (doctype : DocTypeName) (name : DocumentName) (version : Nat) (status : JsString) : DocumentSnapshot :=
  { tenantId := defaultTenantId, doctype, name, version, docstatus := .draft, data := [(js "status", .str status)]
    createdAt := js "2024-01-01T00:00:00.000Z", updatedAt := js "2024-01-01T00:00:00.000Z" }

/-- An update of the status of a document. -/
def updated (id : JsString) (stream : StreamName) (doctype : DocTypeName) (name : DocumentName)
    (metadata : DocumentData) : DomainEvent :=
  { id, tenantId := defaultTenantId, stream, type := js "DocumentUpdated", doctype, documentName := name
    actorId := actor.id, occurredAt := js "2024-01-01T00:00:00.000Z"
    payload := .documentUpdated [(js "status", .str (js "Open"))] [], metadata, sequence := 2 }

def command (event : DomainEvent) : PlanAutomationRunsFromDomainEventCommand :=
  { event
    change := documentChangeContext (some (snapshot event.doctype event.documentName 1 (js "Draft")))
      (some (snapshot event.doctype event.documentName 2 (js "Open"))) [js "status"]
    input := [(js "status", .str (js "Open"))], actor, rules := (registry event.doctype).map (·.automationRules) }

def nextId (n : Nat) : JsString := js "evt_" ++ Json.natToString (n + 10)

def action (eventId : JsString) (target : DocTypeName) (name : DocumentName) : PlannedAutomationAction :=
  { runId := eventId ++ js ":sync:touch", ruleId := js "sync", ruleName := js "Sync", actionId := js "touch"
    action := { doctype := target, name, patch := [(js "status", .str (js "Open"))] } }

def orderUpdated : DomainEvent := updated (js "evt_1") (js "default:Order:ORD-1") (js "Order") (js "ORD-1") []

def orderAction : PlannedAutomationAction := action (js "evt_1") (js "Invoice") (js "INV-1")

/-- The run of the order, claimed by a worker. -/
def record : AutomationRunRecord :=
  { planner.automationRunSource (command orderUpdated) orderAction with
    tenantId := defaultTenantId, status := .claimed, attempts := 1, enqueuedAt := orderUpdated.occurredAt
    claimId := some (js "claim_1"), version := 2 }

def invoiceUpdated : DomainEvent :=
  updated (js "evt_2") (js "default:Invoice:INV-1") (js "Invoice") (js "INV-1") (targetUpdateMetadata record)

def invoiceAction : PlannedAutomationAction := action (js "evt_2") (js "Ledger") (js "LED-1")

/-- What the run of the invoice is about. -/
def invoiceSource : AutomationRunSource := planner.automationRunSource (command invoiceUpdated) invoiceAction

def runStream (runId : JsString) : StreamName := (automationRunStream defaultTenantId runId).getD []

def entry (event : DomainEvent) (planned : PlannedAutomationAction) : DocumentCommitBatchEntry :=
  { stream := runStream planned.runId, expectedVersion := 0
    events := planner.groupEvents (command event) nextId 0 (runStream planned.runId) planned }

theorem normalized (name : DocTypeName) (definition : DocTypeDefinition) (h : registry name = some definition) :
    AutomationRulesNormalized definition.automationRules := by
  unfold registry at h
  split_ifs at h <;> cases h <;> constructor <;> simp [doctype, rule]

theorem planned_order : PlannedRun planner (fun u => u) registry nextId (command orderUpdated)
    (entry orderUpdated orderAction) record.toAutomationRunSource := by
  have hactions : AutomationRunPlanner.plannedActions (command orderUpdated) (fun u => u) = [orderAction] := by
    decide +kernel
  have hstream : automationRunStream defaultTenantId orderAction.runId = some (runStream orderAction.runId) := by
    decide +kernel
  exact ⟨rfl, ⟨_, planner.planEnqueue_single nextId hactions hstream, List.mem_singleton.mpr rfl⟩, by decide +kernel⟩

theorem planned_invoice : PlannedRun planner (fun u => u) registry nextId (command invoiceUpdated)
    (entry invoiceUpdated invoiceAction) invoiceSource := by
  have hactions : AutomationRunPlanner.plannedActions (command invoiceUpdated) (fun u => u) = [invoiceAction] := by
    decide +kernel
  have hstream : automationRunStream defaultTenantId invoiceAction.runId = some (runStream invoiceAction.runId) := by
    decide +kernel
  exact ⟨rfl, ⟨_, planner.planEnqueue_single nextId hactions hstream, List.mem_singleton.mpr rfl⟩, by decide +kernel⟩

theorem chain : AutomationChain planner (fun u => u) registry [⟨js "Order", js "sync", js "touch"⟩] invoiceUpdated := by
  have hroot : AutomationChain planner (fun u => u) registry [] (command orderUpdated).event :=
    .root (by decide +kernel) (by decide +kernel)
  exact hroot.delivered planned_order (by decide +kernel) ⟨rfl, rfl, rfl⟩

end InvoiceSync

/-- **The run of the invoice is suppressed** for the run of the order. -/
theorem not_suppression_genuine :
    ¬ ∀ {options : AutomationRunPlannerOptions} {planner : AutomationRunPlanner} {canonicalize : UInt16 → UInt16}
        {registry : DocTypeName → Option DocTypeDefinition} {nextId : Nat → JsString}
        {command : PlanAutomationRunsFromDomainEventCommand} {entry : DocumentCommitBatchEntry}
        {source : AutomationRunSource} {chain : List AutomationLink},
      AutomationRunPlanner.create options = .ok planner →
      (∀ name doctype, registry name = some doctype → AutomationRulesNormalized doctype.automationRules) →
      AutomationChain planner canonicalize registry chain command.event →
      PlannedRun planner canonicalize registry nextId command entry source →
      entry.suppressed = true → planner.maxDepth < source.automationDepth ∨ planner.Repeats chain source.link := by
  intro h
  have hcreate : AutomationRunPlanner.create InvoiceSync.options = .ok InvoiceSync.planner := by rfl
  have hresult := h hcreate InvoiceSync.normalized InvoiceSync.chain InvoiceSync.planned_invoice (by decide +kernel)
  revert hresult
  unfold AutomationRunPlanner.Repeats
  decide +kernel

/-- The order is not confused with anything, the invoice is. -/
theorem suppression_genuine_iff_invoice :
    ((InvoiceSync.entry InvoiceSync.orderUpdated InvoiceSync.orderAction).suppressed = true →
      InvoiceSync.planner.maxDepth < InvoiceSync.record.automationDepth ∨
        InvoiceSync.planner.Repeats [] InvoiceSync.record.link) ∧
    ¬((InvoiceSync.entry InvoiceSync.invoiceUpdated InvoiceSync.invoiceAction).suppressed = true →
      InvoiceSync.planner.maxDepth < InvoiceSync.invoiceSource.automationDepth ∨
        InvoiceSync.planner.Repeats [⟨js "Order", js "sync", js "touch"⟩] InvoiceSync.invoiceSource.link) := by
  have hroot : AutomationChain InvoiceSync.planner (fun u => u) InvoiceSync.registry []
      (InvoiceSync.command InvoiceSync.orderUpdated).event :=
    .root (by decide +kernel) (by decide +kernel)
  constructor
  · apply (suppression_genuine_iff hroot InvoiceSync.planned_order).mpr
    unfold AutomationRunPlanner.Confuses
    decide +kernel
  · rw [suppression_genuine_iff InvoiceSync.chain InvoiceSync.planned_invoice]
    unfold AutomationRunPlanner.Confuses
    decide +kernel
