import CfFrappe.Application.DocumentStore
import CfFrappe.Core.NamingCandidates
import CfFrappe.Lib.Traces

set_option autoImplicit false

/-! # Creating documents of a naming series

`DocumentService.create` for a DocType with a naming series, from the point where the data are prepared. In
each turn of its loop it plans the next value of the counter, checks whether the name is free and commits the
document together with the counter; when the name or the counter has been taken, it starts over behind it, as
long as there are attempts left. A turn calls the scan for candidates, the store, and the code around it: what
validates a document, what reserves its unique values and what plans its automation runs.
-/

open Utf Naming

namespace SeriesCreate

/-! ## Calls -/

/-- What else a commit writes: its entries, and the rows that follow from the saved events. -/
structure AtomicWrites where
  entries : List DocumentCommitBatchEntry := []
  auxiliarySnapshots : List DomainEvent → Except FrameworkError (List DocumentSnapshot) := fun _ => .ok []

/-- The calls of a creation. -/
inductive CreateAction
  | scanNamingCandidates (input : ScanInput)
  | readStream (stream : StreamName)
  | nextId (start : JsString)
  /-- the issues of the workflow states, the field permissions, the validation hooks and the links -/
  | validationIssues (name : DocumentName) (data : DocumentData)
  | planUniqueValueReservationWrites (name : DocumentName) (data : DocumentData)
  | planAutomationRuns (event : NewDomainEvent) (data : DocumentData)
  | commitBatch (entries : List DocumentCommitBatchEntry)
      (project : List DomainEvent → Except FrameworkError DocumentCommitBatchProjection)

def CreateAction.Reply : CreateAction → Type
  | .scanNamingCandidates _ => Except FrameworkError NamingCandidateScan
  | .readStream _ => Except FrameworkError (List DomainEvent)
  | .nextId _ => JsString
  | .validationIssues _ _ => Except FrameworkError (List ValidationIssue)
  | .planUniqueValueReservationWrites _ _ => Except FrameworkError AtomicWrites
  | .planAutomationRuns _ _ => Except FrameworkError AtomicWrites
  | .commitBatch _ _ => Except FrameworkError DocumentCommit

abbrev Create (α : Type) := Program CreateAction CreateAction.Reply FrameworkError α

/-- One call, which may fail. -/
def call {α : Type} (reply : Create (Except FrameworkError α)) : Create α := reply >>= .ofExcept

def scanCandidates (input : ScanInput) : Create NamingCandidateScan :=
  call (.perform (CreateAction.scanNamingCandidates input))

def readStream (stream : StreamName) : Create (List DomainEvent) := call (.perform (CreateAction.readStream stream))

def nextEventId : Create JsString := .perform (CreateAction.nextId (js "evt_"))

def validationIssues (name : DocumentName) (data : DocumentData) : Create (List ValidationIssue) :=
  call (.perform (CreateAction.validationIssues name data))

def planUniqueValueReservationWrites (name : DocumentName) (data : DocumentData) : Create AtomicWrites :=
  call (.perform (CreateAction.planUniqueValueReservationWrites name data))

def planAutomationRuns (event : NewDomainEvent) (data : DocumentData) : Create AtomicWrites :=
  call (.perform (CreateAction.planAutomationRuns event data))

/-- The call of the commit, whose failure is caught. -/
def commitBatch (entries : List DocumentCommitBatchEntry)
    (project : List DomainEvent → Except FrameworkError DocumentCommitBatchProjection) :
    Create (Except FrameworkError DocumentCommit) :=
  .perform (CreateAction.commitBatch entries project)

/-! ## Events -/

def requireSavedEvent (events : List DomainEvent) (id : JsString) : Except FrameworkError DomainEvent :=
  match events.find? (fun event => event.id == id) with
  | some event => .ok event
  | none => .error { code := .badRequest, message := js "Event store did not return saved event", status := 500 }

def snapshotFromDocumentCreatedEvent (event : DomainEvent) : Except FrameworkError DocumentSnapshot :=
  match event.payload with
  | .documentCreated data docstatus =>
    .ok
      { tenantId := event.tenantId, doctype := event.doctype, name := event.documentName,
        version := event.sequence, docstatus, data, createdAt := event.occurredAt, updatedAt := event.occurredAt }
  | _ => .error (.ofError (js "Expected DocumentCreated event"))

def namingSeriesDoctype : DocTypeName := js "__NamingSeries"

/-- What a creation works with when its data are prepared. -/
structure SeriesDocument where
  actorId : JsString
  tenantId : TenantId
  doctype : DocTypeDefinition
  strategy : NamingSeriesStrategy
  data : DocumentData
  now : Timestamp
  eventType : Option JsString := none
  metadata : DocumentData := []

def planNamingSeriesEvent (document : SeriesDocument) (identity : SeriesIdentity) (next : Nat)
    (existing : Option DocumentSnapshot) : EventPlan :=
  let scope := if identity.scope.isEmpty then [] else [(js "scope", Json.str identity.scope)]
  match existing with
  | some _ =>
    { eventType := js "NamingSeriesAdvanced"
      payload := .documentUpdated
        ([(js "current", .num next), (js "pattern", .str document.strategy.pattern),
          (js "counter", .str identity.counter)] ++ scope) [] }
  | none =>
    { eventType := js "NamingSeriesStarted"
      payload := .documentCreated
        ([(js "doctype", .str document.doctype.name), (js "pattern", .str document.strategy.pattern),
          (js "counter", .str identity.counter)] ++ scope ++ [(js "current", .num next)]) .draft }

def namingSeriesEventCommand (document : SeriesDocument) (identity : SeriesIdentity) (stream : StreamName)
    (plan : EventPlan) (id : JsString) : NewDomainEvent :=
  EventTarget.planned
    { tenantId := document.tenantId, stream, doctypeName := namingSeriesDoctype
      documentName := identity.documentName, actorId := document.actorId, occurredAt := document.now
      metadata :=
        [(js "target_doctype", .str document.doctype.name), (js "counter", .str identity.counter)] ++
          if identity.scope.isEmpty then [] else [(js "scope", .str identity.scope)] } plan id

/-! ## The counter -/

structure NamingSeriesWrite where
  stream : StreamName
  existing : Option DocumentSnapshot
  next : Nat
  name : DocumentName
  candidateAttempts : Nat
  event : NewDomainEvent

/-- The version that a commit expects of the counter. -/
def NamingSeriesWrite.expectedVersion (write : NamingSeriesWrite) : Nat := (write.existing.map (·.version)).getD 0

def projectNamingSeriesWrite (write : NamingSeriesWrite) (savedEvents : List DomainEvent) :
    Except FrameworkError DocumentSnapshot := do
  let saved ← requireSavedEvent savedEvents write.event.id
  match write.existing with
  | none => snapshotFromDocumentCreatedEvent saved
  | some existing =>
    let patch := match saved.payload with
      | .documentUpdated patch _ => patch
      | _ => []
    return { existing with
      version := saved.sequence, updatedAt := saved.occurredAt
      data := Record.set (Record.merge existing.data patch) (js "current") (.num write.next) }

/-- The value that the next candidate comes behind: the stored one, or the occupied one if that is greater. -/
def currentValue (stored occupied : Option Nat) : Option Nat :=
  match stored, occupied with
  | none, occupied => occupied
  | some stored, none => some stored
  | some stored, some occupied => some (max stored occupied)

/-- The attempts that are left, and the value whose name has turned out to be occupied. -/
structure CreateState where
  remaining : Nat
  occupied : Option Nat
  deriving DecidableEq

/-- What a turn scans. -/
def scanInput (document : SeriesDocument) (stored : Option Nat) (state : CreateState) : ScanInput where
  doctype := document.doctype
  strategy := document.strategy
  data := document.data
  context := { tenantId := document.tenantId, now := document.now }
  current := currentValue stored state.occupied
  attemptLimit := some state.remaining

/-- `scan.candidates[0]!`. -/
def firstOf (scan : NamingCandidateScan) : Except FrameworkError NamingCandidate :=
  match scan.candidates with
  | candidate :: _ => .ok candidate
  | [] => .error (.ofError (js "Cannot read properties of undefined (reading 'value')"))

/-- What `planNamingSeriesWrite` returns. -/
def plannedWrite (document : SeriesDocument) (identity : SeriesIdentity) (stream : StreamName)
    (existing : Option DocumentSnapshot) (scan : NamingCandidateScan) (candidate : NamingCandidate) (id : JsString) :
    NamingSeriesWrite where
  stream
  existing
  next := candidate.value
  name := candidate.name
  candidateAttempts := scan.attempts
  event := namingSeriesEventCommand document identity stream
    (planNamingSeriesEvent document identity candidate.value existing) id

def planNamingSeriesWrite (parseDate : Timestamp → Option UtcDate) (document : SeriesDocument) (state : CreateState) :
    Create NamingSeriesWrite := do
  let identity ← .ofExcept (resolveNamingSeriesIdentity parseDate document.doctype document.strategy document.data
    { tenantId := document.tenantId, now := document.now })
  let stream ← .ofExcept (requireStream
    (namingSeriesStream document.tenantId document.doctype.name identity.counter identity.scope))
  let events ← readStream stream
  let existing := foldDocument events
  let stored := namingSeriesCurrentValue (existing.bind (fun existing => Record.get existing.data (js "current")))
  let scan ← scanCandidates (scanInput document stored state)
  let candidate ← .ofExcept (firstOf scan)
  let id ← nextEventId
  return plannedWrite document identity stream existing scan candidate id

/-! ## Conflicts -/

inductive NamingConflict
  | counter
  | document
  deriving DecidableEq

/-- What a commit has failed on: the counter, the document, or something else. -/
def namingConflictDisposition (write : NamingSeriesWrite) (stream : StreamName) (error : FrameworkError) :
    Create (Option NamingConflict) :=
  if isDocumentConflictError error then do
    let counterEvents ← readStream write.stream
    if ((counterEvents.getLast?).map (·.sequence)).getD 0 != write.expectedVersion then return some .counter
    else do
      let events ← readStream stream
      return if (foldDocument events).any (fun document => document.docstatus != .deleted) then some .document
        else none
  else return none

/-! ## The loop -/

def documentCreateEvent (document : SeriesDocument) (stream : StreamName) (name : DocumentName) (data : DocumentData)
    (id : JsString) : NewDomainEvent :=
  EventTarget.planned
    { tenantId := document.tenantId, stream, doctypeName := document.doctype.name, documentName := name
      actorId := document.actorId, occurredAt := document.now, metadata := document.metadata }
    (planDocumentCreatePolicy document.doctype data document.eventType) id

def counterEntry (write : NamingSeriesWrite) : DocumentCommitBatchEntry where
  stream := write.stream
  expectedVersion := write.expectedVersion
  events := [write.event]

def documentEntry (stream : StreamName) (event : NewDomainEvent) : DocumentCommitBatchEntry where
  stream
  expectedVersion := 0
  events := [event]

/-- The counter, the reservations, the document and the automation runs. -/
def creationEntries (write : NamingSeriesWrite) (stream : StreamName) (event : NewDomainEvent)
    (unique automation : AtomicWrites) : List DocumentCommitBatchEntry :=
  [counterEntry write] ++ unique.entries ++ [documentEntry stream event] ++ automation.entries

def projectCreation (write : NamingSeriesWrite) (event : NewDomainEvent) (unique automation : AtomicWrites)
    (savedEvents : List DomainEvent) : Except FrameworkError DocumentCommitBatchProjection := do
  let saved ← requireSavedEvent savedEvents event.id
  let snapshot ← snapshotFromDocumentCreatedEvent saved
  let counter ← projectNamingSeriesWrite write savedEvents
  let reservations ← unique.auxiliarySnapshots savedEvents
  let rows ← automation.auxiliarySnapshots savedEvents
  return { snapshot, auxiliarySnapshots := [counter] ++ reservations ++ rows }

/-- The commit of a document with its counter. -/
def commitCreation (document : SeriesDocument) (write : NamingSeriesWrite) (stream : StreamName)
    (data : DocumentData) : Create (Except FrameworkError DocumentCommit) := do
  let unique ← planUniqueValueReservationWrites write.name data
  let id ← nextEventId
  let event := documentCreateEvent document stream write.name data id
  let automation ← planAutomationRuns event data
  commitBatch (creationEntries write stream event unique automation) (projectCreation write event unique automation)

/-- The end of a turn, with the events of the stream of its name: the commit, or the state to start over with. -/
def createUnder (document : SeriesDocument) (state : CreateState) (write : NamingSeriesWrite) (stream : StreamName)
    (events : List DomainEvent) : Create (CreateState ⊕ DocumentCommit) :=
  let remaining := state.remaining - write.candidateAttempts
  match ensureDocumentCreateAvailable document.doctype.name write.name (foldDocument events) with
  | .error error =>
    if isDocumentConflictError error && 0 < remaining then return .inl { remaining, occupied := some write.next }
    else .throw error
  | .ok _ => do
      let committed ← commitCreation document write stream (namingTargetData document.strategy document.data write.name)
      match committed with
      | .ok commit => return .inr commit
      | .error error => do
          let conflict ← namingConflictDisposition write stream error
          match conflict with
          | some kind =>
            if 0 < remaining then
              return .inl { remaining, occupied := if kind = .document then some write.next else state.occupied }
            else .throw error
          | none => .throw error

/-- A turn behind its name. -/
def createNamed (document : SeriesDocument) (state : CreateState) (write : NamingSeriesWrite) :
    Create (CreateState ⊕ DocumentCommit) := do
  let issues ← validationIssues write.name (namingTargetData document.strategy document.data write.name)
  if !issues.isEmpty then .throw (.ofIssues issues)
  else do
    let stream ← .ofExcept (requireStream (documentStream document.tenantId document.doctype.name write.name))
    let events ← readStream stream
    createUnder document state write stream events

/-- One turn of the loop of `create`. -/
def createTurn (parseDate : Timestamp → Option UtcDate) (document : SeriesDocument) (state : CreateState) :
    Create (CreateState ⊕ DocumentCommit) := do
  let write ← planNamingSeriesWrite parseDate document state
  createNamed document state write

/-- The loop of `create`, for a number of turns; `none` when these do not suffice. -/
def createLoop (parseDate : Timestamp → Option UtcDate) (document : SeriesDocument) :
    Nat → CreateState → Create (Option DocumentCommit)
  | 0, _ => return none
  | turns + 1, state =>
    if state.remaining = 0 then
      .throw (.conflict (js "Could not allocate naming series for " ++ document.doctype.name))
    else do
      let turn ← createTurn parseDate document state
      match turn with
      | .inl state => createLoop parseDate document turns state
      | .inr commit => return some commit

def start (document : SeriesDocument) : CreateState where
  remaining := document.strategy.maxAttempts.getD defaultMaxAttempts
  occupied := none

end SeriesCreate
