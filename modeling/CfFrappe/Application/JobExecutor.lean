import CfFrappe.Lib.Program
import CfFrappe.Lib.ExclusiveWork
import CfFrappe.Core.JsValue

set_option autoImplicit false

/-! # Job execution

A queue may deliver a job message more than once, and to several workers at a time. The executor
asks the execution log before it calls the handler, and tells it how the call ended. A log keeps one
record for every slot: the database has a row for every tenant and key, the log in memory an entry
for every text made of the two (`slotOf`).

Every call of `execute` has a number, by which the history of a slot says who did what; the code
knows neither.
-/

open Utf

/-- `JobMessage` -/
structure JobMessage where
  tenantId : Option TenantId := none
  jobName : JsString
  payload : DocumentData
  runId : JsString
  idempotencyKey : JsString
  enqueuedAt : Timestamp
  metadata : DocumentData
  deriving DecidableEq

/-- `message.tenantId ?? DEFAULT_TENANT_ID` -/
def JobMessage.tenant (message : JobMessage) : TenantId := message.tenantId.getD defaultTenantId

inductive JobExecutionStatus
  | running
  | succeeded
  | failed
  deriving DecidableEq

structure JobExecutionRecord where
  tenantId : TenantId
  idempotencyKey : JsString
  jobName : JsString
  runId : JsString
  payload : Option DocumentData
  metadata : Option DocumentData
  enqueuedAt : Option Timestamp
  status : JobExecutionStatus
  startedAt : Timestamp
  finishedAt : Option Timestamp := none
  result : Option Json := none
  error : Option JsString := none
  deriving DecidableEq

inductive JobExecutionBeginResult
  | started (record : JobExecutionRecord)
  | duplicate (record : JobExecutionRecord)
  deriving DecidableEq

/-- The record of a call that may go on. -/
def JobExecutionBeginResult.started? : JobExecutionBeginResult → Option JobExecutionRecord
  | .started record => some record
  | .duplicate _ => none

/-- What a handler is called with; the resources of the application are left out. -/
structure JobHandlerContext where
  tenantId : TenantId
  jobName : JsString
  payload : DocumentData
  runId : JsString
  idempotencyKey : JsString
  enqueuedAt : Timestamp
  attempt : Rat
  metadata : DocumentData
  deriving DecidableEq

/-! ## Records by slot -/

/-- The records of a log, each in its own slot. -/
structure JobTable {Slot : Type} (slotOf : TenantId → JsString → Slot) where
  row : Slot → Option JobExecutionRecord
  keyed : ∀ {slot record}, row slot = some record → slotOf record.tenantId record.idempotencyKey = slot

namespace JobTable

variable {Slot : Type} {slotOf : TenantId → JsString → Slot}

def empty : JobTable slotOf := ⟨fun _ => none, fun h => by cases h⟩

variable [DecidableEq Slot]

/-- The table with a record in its slot, whatever was there. -/
def put (table : JobTable slotOf) (record : JobExecutionRecord) : JobTable slotOf where
  row slot := if slotOf record.tenantId record.idempotencyKey = slot then some record else table.row slot
  keyed := by
    intro slot r h
    split_ifs at h with hslot
    · obtain rfl := Option.some.inj h
      exact hslot
    · exact table.keyed h

theorem put_row (table : JobTable slotOf) (record : JobExecutionRecord) (slot : Slot) :
    (table.put record).row slot =
      if slotOf record.tenantId record.idempotencyKey = slot then some record else table.row slot := rfl

@[simp] theorem put_row_self (table : JobTable slotOf) (record : JobExecutionRecord) :
    (table.put record).row (slotOf record.tenantId record.idempotencyKey) = some record := by
  rw [put_row, if_pos rfl]

/-- The record that a claim writes. -/
def claimed (message : JobMessage) (startedAt : Timestamp) : JobExecutionRecord :=
  { tenantId := message.tenant, idempotencyKey := message.idempotencyKey, jobName := message.jobName
    runId := message.runId, payload := some message.payload, metadata := some message.metadata
    enqueuedAt := some message.enqueuedAt, status := .running, startedAt }

/-- The record that the end of a call writes, by the record that it finds. -/
def finished (message : JobMessage) (previous : Option JobExecutionRecord) (finishedAt : Timestamp)
    (status : JobExecutionStatus) (result : Option Json) (error : Option JsString) : JobExecutionRecord :=
  { tenantId := (previous.map (·.tenantId)).getD message.tenant
    idempotencyKey := message.idempotencyKey
    jobName := message.jobName
    runId := message.runId
    payload := some ((previous.bind (·.payload)).getD message.payload)
    metadata := some ((previous.bind (·.metadata)).getD message.metadata)
    enqueuedAt := some ((previous.bind (·.enqueuedAt)).getD message.enqueuedAt)
    status
    startedAt := (previous.map (·.startedAt)).getD finishedAt
    finishedAt := some finishedAt
    result
    error }

/-- The statement of `D1JobExecutionLog.claim`: an insert that takes the row of another call over
only if that one has failed. It returns the row that it has written. -/
def claim (table : JobTable slotOf) (message : JobMessage) (startedAt : Timestamp) :
    Option JobExecutionRecord × JobTable slotOf :=
  let record := claimed message startedAt
  match table.row (slotOf message.tenant message.idempotencyKey) with
  | none => (some record, table.put record)
  | some previous => if previous.status = .failed then (some record, table.put record) else (none, table)

/-- `InMemoryJobExecutionLog.begin` -/
def begin (table : JobTable slotOf) (message : JobMessage) (startedAt : Timestamp) :
    JobExecutionBeginResult × JobTable slotOf :=
  let record := claimed message startedAt
  match table.row (slotOf message.tenant message.idempotencyKey) with
  | none => (.started record, table.put record)
  | some existing =>
    if existing.status = .running ∨ existing.status = .succeeded then (.duplicate existing, table)
    else (.started record, table.put record)

/-- `InMemoryJobExecutionLog.complete` and `fail` -/
def finish (table : JobTable slotOf) (message : JobMessage) (finishedAt : Timestamp)
    (status : JobExecutionStatus) (result : Option Json) (error : Option JsString) : JobTable slotOf :=
  table.put (finished message (table.row (slotOf message.tenant message.idempotencyKey)) finishedAt status result error)

end JobTable

/-! ## Actions -/

/-- How a call of the executor ends in the log. -/
inductive JobEnd
  | succeeded (result : Option Json)
  | failed (error : JsString)
  deriving DecidableEq

namespace JobEnd

def status : JobEnd → JobExecutionStatus
  | succeeded _ => .succeeded
  | failed _ => .failed

def result : JobEnd → Option Json
  | succeeded result => result
  | failed _ => none

def error : JobEnd → Option JsString
  | succeeded _ => none
  | failed error => some error

end JobEnd

/-- What calls of the executor do. Statements of the database, and methods of the log in memory,
which run in one turn, are one action each. -/
inductive JobAction
  /-- a call of `execute` begins -/
  | call
  | now
  | startHandler (call : Nat) (context : JobHandlerContext)
  | endHandler (call : Nat) (context : JobHandlerContext)
  /-- the statements of `D1JobExecutionLog` -/
  | claim (call : Nat) (message : JobMessage) (startedAt : Timestamp)
  | select (tenantId : TenantId) (idempotencyKey : JsString)
  | save (call : Nat) (record : JobExecutionRecord)
  /-- the methods of `InMemoryJobExecutionLog` -/
  | begin (call : Nat) (message : JobMessage) (startedAt : Timestamp)
  | finish (call : Nat) (message : JobMessage) (finishedAt : Timestamp) (ending : JobEnd)

def JobAction.Reply : JobAction → Type
  | .call => Nat
  | .now => Timestamp
  | .startHandler _ _ => Unit
  | .endHandler _ _ => Except JsError JsValue
  | .claim _ _ _ => Option JobExecutionRecord
  | .select _ _ => Option JobExecutionRecord
  | .save _ _ => Unit
  | .begin _ _ _ => JobExecutionBeginResult
  | .finish _ _ _ _ => Unit

abbrev JobProgram (α : Type) := Program JobAction JobAction.Reply JsError α

def JobAction.perform (action : JobAction) : JobProgram action.Reply := .act action .pure

/-! ## The executor -/

/-- The part of `JobExecutionLog` that the executor uses. -/
structure JobExecutionLog where
  begin (call : Nat) (message : JobMessage) (startedAt : Timestamp) : JobProgram JobExecutionBeginResult
  complete (call : Nat) (message : JobMessage) (finishedAt : Timestamp) (result : Option Json) : JobProgram Unit
  fail (call : Nat) (message : JobMessage) (finishedAt : Timestamp) (error : JsError) : JobProgram Unit

/-- `JobRegistry`, by the names of its jobs. -/
structure JobRegistry where
  jobs : List JsString

/-- `JobRegistry.get` -/
def JobRegistry.get (registry : JobRegistry) (name : JsString) : Except JsError Unit :=
  if registry.jobs.contains name then .ok ()
  else .error (.framework { code := .jobNotFound, message := js "Job '" ++ name ++ js "' is not registered", status := 404 })

inductive JobExecutionOutcome
  | succeeded (result : Option Json)
  | skipped
  deriving DecidableEq

/-- `normalizeJobHandlerResult` -/
def normalizeJobHandlerResult (value : JsValue) : Except JsError (Option Json) :=
  match value with
  | .undefined => .ok none
  | value =>
    match value.jsonValue? with
    | some result => .ok (some result)
    | none => .error (.framework (.ofBadRequest (js "Job result must be JSON-serializable")))

def jobHandlerContext (message : JobMessage) (attempt : Option Rat) : JobHandlerContext :=
  { tenantId := message.tenant, jobName := message.jobName, payload := message.payload, runId := message.runId
    idempotencyKey := message.idempotencyKey, enqueuedAt := message.enqueuedAt, attempt := attempt.getD 1
    metadata := message.metadata }

namespace JobExecutor

/-- `this.executionLog?.begin(…)` -/
def begin? (log : Option JobExecutionLog) (call : Nat) (message : JobMessage) (startedAt : Timestamp) :
    JobProgram (Option JobExecutionBeginResult) :=
  match log with
  | none => pure none
  | some log => do return some (← log.begin call message startedAt)

/-- `this.executionLog?.complete(…)` -/
def complete? (log : Option JobExecutionLog) (call : Nat) (message : JobMessage) (finishedAt : Timestamp)
    (result : Option Json) : JobProgram Unit :=
  match log with
  | none => pure ()
  | some log => log.complete call message finishedAt result

/-- The `catch` of `execute`: the failure is recorded and thrown again. -/
def rethrow (log : Option JobExecutionLog) (call : Nat) (message : JobMessage) (error : JsError) :
    JobProgram JobExecutionOutcome := do
  let finishedAt ← JobAction.now.perform
  match log with
  | none => .throw error
  | some log =>
    log.fail call message finishedAt error
    .throw error

/-- The `try` of `execute`. Only the handler and the check of its result can throw: what `complete`
copies is JSON already, and no statement fails. -/
def runHandler (log : Option JobExecutionLog) (call : Nat) (message : JobMessage) (attempt : Option Rat) :
    JobProgram JobExecutionOutcome := do
  let context := jobHandlerContext message attempt
  (JobAction.startHandler call context).perform
  match (← (JobAction.endHandler call context).perform).bind normalizeJobHandlerResult with
  | .error error => rethrow log call message error
  | .ok result =>
    let finishedAt ← JobAction.now.perform
    complete? log call message finishedAt result
    return .succeeded result

/-- `JobExecutor.execute` -/
def execute (registry : JobRegistry) (log : Option JobExecutionLog) (message : JobMessage) (attempt : Option Rat) :
    JobProgram JobExecutionOutcome := do
  let call ← JobAction.call.perform
  Program.ofExcept (registry.get message.jobName)
  let startedAt ← JobAction.now.perform
  match ← begin? log call message startedAt with
  | some (.duplicate _) => return .skipped
  | _ => runHandler log call message attempt

end JobExecutor

/-! ## The logs -/

namespace D1JobExecutionLog

/-- The primary key of the table. -/
def rowKey (tenantId : TenantId) (idempotencyKey : JsString) : TenantId × JsString := (tenantId, idempotencyKey)

/-- `D1JobExecutionLog.begin` -/
def begin (call : Nat) (message : JobMessage) (startedAt : Timestamp) : JobProgram JobExecutionBeginResult := do
  match ← (JobAction.claim call message startedAt).perform with
  | some record => return .started record
  | none =>
    match ← (JobAction.select message.tenant message.idempotencyKey).perform with
    | some record => return .duplicate record
    | none =>
      .throw (.framework (.ofError (js "Unable to claim job execution '" ++ message.idempotencyKey ++ js "'")))

/-- What `complete` and `fail` share: a read and then an unconditional write. -/
def finish (call : Nat) (message : JobMessage) (finishedAt : Timestamp) (ending : Except JsError JobEnd) :
    JobProgram Unit := do
  let previous ← (JobAction.select message.tenant message.idempotencyKey).perform
  let ending ← Program.ofExcept ending
  (JobAction.save call
    (JobTable.finished message previous finishedAt ending.status ending.result ending.error)).perform

def complete (call : Nat) (message : JobMessage) (finishedAt : Timestamp) (result : Option Json) : JobProgram Unit :=
  finish call message finishedAt (.ok (.succeeded result))

def fail (call : Nat) (message : JobMessage) (finishedAt : Timestamp) (error : JsError) : JobProgram Unit :=
  finish call message finishedAt (error.text.map .failed)

end D1JobExecutionLog

def d1JobExecutionLog : JobExecutionLog :=
  { begin := D1JobExecutionLog.begin, complete := D1JobExecutionLog.complete, fail := D1JobExecutionLog.fail }

namespace InMemoryJobExecutionLog

def begin (call : Nat) (message : JobMessage) (startedAt : Timestamp) : JobProgram JobExecutionBeginResult :=
  (JobAction.begin call message startedAt).perform

def complete (call : Nat) (message : JobMessage) (finishedAt : Timestamp) (result : Option Json) : JobProgram Unit :=
  (JobAction.finish call message finishedAt (.succeeded result)).perform

/-- The text of the error is made before the record is set. -/
def fail (call : Nat) (message : JobMessage) (finishedAt : Timestamp) (error : JsError) : JobProgram Unit := do
  let text ← Program.ofExcept error.text
  (JobAction.finish call message finishedAt (.failed text)).perform

/-- `recordKey` -/
def recordKey (tenantId : TenantId) (idempotencyKey : JsString) : JsString := tenantId ++ [0] ++ idempotencyKey

end InMemoryJobExecutionLog

def inMemoryJobExecutionLog : JobExecutionLog :=
  { begin := InMemoryJobExecutionLog.begin, complete := InMemoryJobExecutionLog.complete
    fail := InMemoryJobExecutionLog.fail }
