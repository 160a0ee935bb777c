import CfFrappe.Lib.EventLog
import CfFrappe.Lib.Reporting
import CfFrappe.Core.Events
import CfFrappe.Core.JsValue

set_option autoImplicit false

/-! # Rebuilding a projection

A rebuild folds the streams of a DocType again and saves the snapshots to a projection that serves no
reads. Its run is a stream of its own: drivers advance it batch by batch behind a cursor, and anyone
may abort it. Drivers work side by side; the run is appended to at the version that was read.

Ids and times of the run's events are left out. An event of an advance carries what its batch did with
every stream (`counts`); the stored payload has only the number of saved ones and the errors.
-/

open Utf

/-- `left < right` on strings: the order of their code units. -/
def Precedes (s t : JsString) : Prop := s.map UInt16.toNat < t.map UInt16.toNat

instance (s t : JsString) : Decidable (Precedes s t) :=
  inferInstanceAs (Decidable (s.map UInt16.toNat < t.map UInt16.toNat))

theorem Precedes.trans {s t u : JsString} (h : Precedes s t) (h' : Precedes t u) : Precedes s u := lt_trans h h'

theorem Precedes.irrefl (s : JsString) : ¬ Precedes s s := lt_irrefl _

theorem Precedes.of_not {s t u : JsString} (h : ¬ Precedes t s) (h' : Precedes t u) : Precedes s u :=
  lt_of_le_of_lt (not_lt.mp h) h'

/-! ## The run -/

inductive ProjectionRebuildStatus
  | running
  | aborted
  | completed
  | failed
  deriving DecidableEq

structure ProjectionRebuildError where
  stream : StreamName
  reason : JsString
  deriving DecidableEq

inductive ProjectionRebuildEventPayload
  | started (runId : JsString) (doctype : DocTypeName) (target : JsString) (batchSize totalStreams : Nat)
  | advanced (runId : JsString) (cursor : StreamName) (rebuilt : Nat) (errors : List ProjectionRebuildError)
  | completed (runId : JsString)
  | aborted (runId reason : JsString)
  | failed (runId reason : JsString)
  deriving DecidableEq

/-- The payload of an event after which a run is over. -/
def ProjectionRebuildEventPayload.Ends : ProjectionRebuildEventPayload → Prop
  | .completed _ => True
  | .aborted _ _ => True
  | .failed _ _ => True
  | _ => False

/-- What an advance did with a stream of its batch. -/
inductive RebuildOutcome
  | saved
  /-- the stream folds to nothing that could be saved -/
  | empty
  | failed (reason : JsString)
  deriving DecidableEq

structure ProjectionRebuildEvent where
  payload : ProjectionRebuildEventPayload
  counts : List (StreamName × RebuildOutcome) := []
  deriving DecidableEq

abbrev ProjectionRebuildLog := List (Recorded ProjectionRebuildEvent)

structure ProjectionRebuildState where
  runId : JsString
  doctype : DocTypeName
  target : JsString
  batchSize : Nat
  totalStreams : Nat
  status : ProjectionRebuildStatus
  cursor : Option StreamName := none
  rebuilt : Nat := 0
  failed : Nat := 0
  recentErrors : List ProjectionRebuildError := []
  version : Nat
  reason : Option JsString := none
  deriving DecidableEq

/-- `PROJECTION_REBUILD_ERROR_SAMPLE` -/
def projectionRebuildErrorSample : Nat := 20

/-- One turn of the loop of `foldProjectionRebuildFrom`. -/
def applyProjectionRebuildEvent (state : Option ProjectionRebuildState) (event : Recorded ProjectionRebuildEvent) :
    Option ProjectionRebuildState :=
  match event.event.payload, state with
  | .started runId doctype target batchSize totalStreams, _ =>
    some { runId, doctype, target, batchSize, totalStreams, status := .running, version := event.sequence }
  | _, none => none
  | .advanced _ cursor rebuilt errors, some state =>
    some
      { state with
        cursor := some cursor
        rebuilt := state.rebuilt + rebuilt
        failed := state.failed + errors.length
        recentErrors := (state.recentErrors ++ errors).drop
          ((state.recentErrors ++ errors).length - projectionRebuildErrorSample)
        version := event.sequence }
  | .completed _, some state => some { state with status := .completed, version := event.sequence }
  | .aborted _ reason, some state =>
    some { state with status := .aborted, reason := some reason, version := event.sequence }
  | .failed _ reason, some state =>
    some { state with status := .failed, reason := some reason, version := event.sequence }

def foldProjectionRebuild (log : ProjectionRebuildLog) : Option ProjectionRebuildState :=
  log.foldl applyProjectionRebuildEvent none

/-- `projectionRebuildStream` -/
def projectionRebuildStream (tenantId : TenantId) (runId : JsString) : StreamName :=
  tenantId ++ js "/__ProjectionRebuild/" ++ runId

/-! ## Actions -/

structure RebuildWorld where
  runs : StreamName → ProjectionRebuildLog
  documents : StreamName → List DomainEvent
  /-- the streams that drivers have read, with what they found -/
  reads : List (StreamName × List DomainEvent)
  /-- the snapshots that targets have saved -/
  saves : List (JsString × DocumentSnapshot)

inductive RebuildAction
  /-- `readStream` of a run; `last` tells the read after a batch that left nothing pending -/
  | readRun (stream : StreamName) (last : Bool)
  | appendRun (stream : StreamName) (version : Nat) (event : ProjectionRebuildEvent)
  /-- `assertRebuildableTarget` -/
  | checkTarget (name : JsString)
  | listStreams (tenantId : TenantId) (doctype : DocTypeName)
  | readStream (stream : StreamName)
  | save (target : JsString) (snapshot : DocumentSnapshot)
  /-- somebody appends to a document stream -/
  | extend (stream : StreamName) (events : List DomainEvent)

def RebuildAction.Reply : RebuildAction → Type
  | .readRun _ _ => ProjectionRebuildLog
  | .appendRun _ _ _ => Except JsError Unit
  | .checkTarget _ => Except JsError Unit
  | .listStreams _ _ => List StreamName
  | .readStream _ => Except JsError (List DomainEvent)
  | .save _ _ => Except JsError Unit
  | .extend _ _ => Except JsError Unit

abbrev RebuildProgram (α : Type) := Program RebuildAction RebuildAction.Reply JsError α

def RebuildAction.perform (action : RebuildAction) : RebuildProgram action.Reply := .act action .pure

namespace RebuildWorld

/-- A stream of the DocType: one of its events is the DocType's. -/
def HasStream (w : RebuildWorld) (tenantId : TenantId) (doctype : DocTypeName) (stream : StreamName) : Prop :=
  ∃ e ∈ w.documents stream, e.tenantId = tenantId ∧ e.doctype = doctype

/-- What `listStreams` returns: every stream of the DocType, in order. -/
structure Lists (w : RebuildWorld) (tenantId : TenantId) (doctype : DocTypeName) (streams : List StreamName) : Prop where
  sorted : streams.Pairwise Precedes
  complete : ∀ stream, stream ∈ streams ↔ w.HasStream tenantId doctype stream

/-- The world after an append to a run. -/
def pushRun (w : RebuildWorld) (stream : StreamName) (event : ProjectionRebuildEvent) : RebuildWorld :=
  { w with
    runs := fun k => if k = stream then w.runs k ++ recorded (w.runs k).length [event] else w.runs k }

/-- The world after an append to a document stream. -/
def pushDocument (w : RebuildWorld) (stream : StreamName) (events : List DomainEvent) : RebuildWorld :=
  { w with documents := fun k => if k = stream then w.documents k ++ events else w.documents k }

/-- How an action changes the world. Targets may be refused, reads and saves may fail, and an append
to a run is saved at its version only. -/
def exec (w : RebuildWorld) : (action : RebuildAction) → action.Reply → RebuildWorld → Prop
  | .readRun stream _, log, w' => log = w.runs stream ∧ w' = w
  | .appendRun stream version event, reply, w' =>
    (∃ error, reply = .error error ∧ w' = w) ∨
      (w.runs stream).length = version ∧ reply = .ok () ∧ w' = w.pushRun stream event
  | .checkTarget _, _, w' => w' = w
  | .listStreams tenantId doctype, streams, w' => w.Lists tenantId doctype streams ∧ w' = w
  | .readStream stream, reply, w' =>
    (∃ error, reply = .error error ∧ w' = w) ∨
      reply = .ok (w.documents stream) ∧ w' = { w with reads := w.reads ++ [(stream, w.documents stream)] }
  | .save target snapshot, reply, w' =>
    (∃ error, reply = .error error ∧ w' = w) ∨
      reply = .ok () ∧ w' = { w with saves := w.saves ++ [(target, snapshot)] }
  | .extend stream events, reply, w' =>
    (∃ error, reply = .error error ∧ w' = w) ∨ reply = .ok () ∧ w' = w.pushDocument stream events

end RebuildWorld

/-! ## The service -/

structure ProjectionRebuildAdvanceResult where
  state : ProjectionRebuildState
  more : Bool

structure ProjectionRebuildStartOptions where
  tenantId : TenantId
  doctype : DocTypeName
  target : JsString
  batchSize : Option Rat := none

namespace ProjectionRebuildService

/-- `assertBatchSize` -/
def assertBatchSize (batchSize : Rat) : Except JsError Nat :=
  if batchSize.den = 1 ∧ 1 ≤ batchSize.num ∧ batchSize.num ≤ 500 then .ok batchSize.num.toNat
  else
    .error (.framework
      { code := .projectionRebuildBatchInvalid
        message := js "Projection rebuild batch size must be an integer between 1 and 500", status := 400 })

/-- `requireState` -/
def requireState (tenantId : TenantId) (runId : JsString) (last : Bool) : RebuildProgram ProjectionRebuildState := do
  let log ← (RebuildAction.readRun (projectionRebuildStream tenantId runId) last).perform
  match foldProjectionRebuild log with
  | some state => return state
  | none =>
    .throw (.framework
      { code := .projectionRebuildNotFound
        message := js "Projection rebuild '" ++ runId ++ js "' was not found", status := 404 })

/-- `append` -/
def append (tenantId : TenantId) (runId : JsString) (version : Nat) (event : ProjectionRebuildEvent) :
    RebuildProgram Unit := do
  let reply ← (RebuildAction.appendRun (projectionRebuildStream tenantId runId) version event).perform
  Program.ofExcept reply

/-- `assertRebuildableTarget` -/
def assertRebuildableTarget (name : JsString) : RebuildProgram Unit := do
  let reply ← (RebuildAction.checkTarget name).perform
  Program.ofExcept reply

/-- `start`, with the run id that it draws. -/
def start (runId : JsString) (input : ProjectionRebuildStartOptions) : RebuildProgram ProjectionRebuildState := do
  let batchSize ← Program.ofExcept (assertBatchSize (input.batchSize.getD 50))
  assertRebuildableTarget input.target
  let streams : List StreamName ← (RebuildAction.listStreams input.tenantId input.doctype).perform
  append input.tenantId runId 0 { payload := .started runId input.doctype input.target batchSize streams.length }
  requireState input.tenantId runId false

def abort (tenantId : TenantId) (runId reason : JsString) : RebuildProgram ProjectionRebuildState := do
  let state ← requireState tenantId runId false
  if state.status ≠ .running then return state
  else
    append tenantId runId state.version { payload := .aborted runId reason }
    requireState tenantId runId false

/-- The body of the batch loop: read, fold and save one stream. -/
def rebuildStream (target : JsString) (stream : StreamName) : RebuildProgram RebuildOutcome := do
  match ← (RebuildAction.readStream stream).perform with
  | .error cause =>
    let reason ← Program.ofExcept cause.text
    return .failed reason
  | .ok events =>
    match foldDocument events with
    | none => return .empty
    | some snapshot =>
      match ← (RebuildAction.save target snapshot).perform with
      | .ok () => return .saved
      | .error cause =>
        let reason ← Program.ofExcept cause.text
        return .failed reason

/-- The batch loop. -/
def rebuildBatch (target : JsString) : List StreamName → RebuildProgram (List (StreamName × RebuildOutcome))
  | [] => return []
  | stream :: batch => do
      let outcome ← rebuildStream target stream
      let outcomes ← rebuildBatch target batch
      return (stream, outcome) :: outcomes

/-- `rebuilt` of a batch. -/
def rebuiltOf (counts : List (StreamName × RebuildOutcome)) : Nat :=
  (counts.filter (fun count => count.2 = .saved)).length

/-- `errors` of a batch. -/
def errorsOf (counts : List (StreamName × RebuildOutcome)) : List ProjectionRebuildError :=
  counts.filterMap (fun count =>
    match count.2 with
    | .failed reason => some { stream := count.1, reason }
    | _ => none)

/-- The event of a batch. -/
def advancedEvent (runId : JsString) (cursor : StreamName) (counts : List (StreamName × RebuildOutcome)) :
    ProjectionRebuildEvent :=
  { payload := .advanced runId cursor (rebuiltOf counts) (errorsOf counts), counts }

/-- The streams after the cursor. -/
def pendingStreams (cursor : Option StreamName) (streams : List StreamName) : List StreamName :=
  streams.filter (fun stream =>
    match cursor with
    | none => true
    | some cursor => decide (Precedes cursor stream))

/-- `advance` -/
def advance (tenantId : TenantId) (runId : JsString) : RebuildProgram ProjectionRebuildAdvanceResult := do
  let state ← requireState tenantId runId false
  if state.status ≠ .running then return { state, more := false }
  else
    assertRebuildableTarget state.target
    let streams : List StreamName ← (RebuildAction.listStreams tenantId state.doctype).perform
    let pending := pendingStreams state.cursor streams
    if pending.isEmpty then
      append tenantId runId state.version { payload := .completed runId }
      return { state := ← requireState tenantId runId false, more := false }
    else
      let batch := pending.take state.batchSize
      let counts ← rebuildBatch state.target batch
      match counts.getLast? with
      | none => return { state, more := true }
      | some (cursor, _) =>
        append tenantId runId state.version (advancedEvent runId cursor counts)
        if pending.length > batch.length then
          return { state := ← requireState tenantId runId false, more := true }
        else
          -- the batch consumed the last pending stream
          let advanced ← requireState tenantId runId true
          append tenantId runId advanced.version { payload := .completed runId }
          return { state := ← requireState tenantId runId false, more := false }

end ProjectionRebuildService
