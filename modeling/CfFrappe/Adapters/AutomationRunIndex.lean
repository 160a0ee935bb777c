import CfFrappe.Application.AutomationRunPolicy
import CfFrappe.Application.DocumentStore
import CfFrappe.Lib.Program
import CfFrappe.Lib.UpsertTable

set_option autoImplicit false

/-! # The claim index of automation runs

The D1 store keeps events, projection rows and, for every projection row of a run, a row of an index: whether
and from when on the run can be claimed is one column there (`automationRunAvailableAt`), and the candidates of
a claim are one query on the index (`listD1AutomationRunClaimCandidateSnapshots`). A commit is a batch of
statements that all take effect or none (`D1Database.batch`).
-/

open Utf

/-! ## Times -/

/-- A text of the shape of a template, in which the letter `d` stands for a digit. -/
def matchesTemplate : JsString → JsString → Bool
  | [], [] => true
  | u :: text, d :: template => (if d == 0x64 then isAsciiDigit u else u == d) && matchesTemplate text template
  | _, _ => false

/-- What `toISOString` gives for the years from 0 to 9999. -/
def isIsoTimestamp (time : Timestamp) : Bool := matchesTemplate time (js "dddd-dd-ddTdd:dd:dd.dddZ")

theorem surrogateFree_of_matchesTemplate {text template : JsString} (h : matchesTemplate text template = true)
    (htemplate : SurrogateFree template) : SurrogateFree text := by
  induction text, template using matchesTemplate.induct with
  | case1 =>
    intro u hu
    cases hu
  | case2 u text d template ih =>
    rw [matchesTemplate, Bool.and_eq_true] at h
    have hrest := ih h.2 (fun v hv => htemplate v (List.mem_cons_of_mem _ hv))
    intro v hv
    rcases List.mem_cons.mp hv with rfl | hv
    · have hfirst := h.1
      split_ifs at hfirst
      · -- a digit
        simp only [isAsciiDigit, Bool.and_eq_true, decide_eq_true_eq, UInt16.le_iff_toNat_le] at hfirst
        have hupper : v.toNat ≤ 0x39 := hfirst.2
        simp only [isSurrogate, Bool.and_eq_false_iff, decide_eq_false_iff_not]
        omega
      · rw [beq_iff_eq] at hfirst
        rw [hfirst]
        exact htemplate d List.mem_cons_self
    · exact hrest v hv
  | case3 text template hnil hcons =>
    unfold matchesTemplate at h
    split at h
    · exact absurd rfl (hnil rfl)
    · exact absurd rfl (hcons _ _ _ _ rfl)
    · cases h

theorem surrogateFree_of_isIsoTimestamp {time : Timestamp} (h : isIsoTimestamp time = true) : SurrogateFree time := by
  apply surrogateFree_of_matchesTemplate h
  have htemplate : (js "dddd-dd-ddTdd:dd:dd.dddZ").all (fun u => !isSurrogate u) = true := by decide +kernel
  intro u hu
  simpa using List.all_eq_true.mp htemplate u hu

/-- The order of `COLLATE BINARY`: by the bytes of UTF-8. -/
def binaryCompare (left right : JsString) : Ordering := compare (textEncode left) (textEncode right)

instance transCmp_binaryCompare : Std.TransCmp binaryCompare := transCmp_on textEncode

theorem compareCodeUnits_of_surrogateFree {left right : JsString} (hleft : SurrogateFree left)
    (hright : SurrogateFree right) : compareCodeUnits left right = binaryCompare left right := by
  rw [binaryCompare, compare_textEncode hleft.wellFormed hright.wellFormed, codePoints_of_surrogateFree _ hleft,
    codePoints_of_surrogateFree _ hright]
  rfl

/-! ## The tables -/

/-- A row of the index. -/
structure AutomationRunIndexRow where
  tenant_id : TenantId
  run_id : JsString
  status : JsString
  available_at : Option Timestamp
  enqueued_at : Timestamp
  updated_at : Timestamp
  deriving DecidableEq

/-- The key of a projection row. -/
def documentKey (row : DocumentSnapshot) : TenantId × DocTypeName × DocumentName := (row.tenantId, row.doctype, row.name)

def AutomationRunIndexRow.key (row : AutomationRunIndexRow) : TenantId × JsString := (row.tenant_id, row.run_id)

/-- The store: the events in the order of their insertion, the projection rows and the index. -/
structure D1Database where
  events : List DomainEvent
  documents : KeyedTable (TenantId × DocTypeName × DocumentName) DocumentSnapshot documentKey
  automationRuns : KeyedTable (TenantId × JsString) AutomationRunIndexRow AutomationRunIndexRow.key

/-- The columns of `ON CONFLICT(tenant_id, doctype, name) DO UPDATE SET`: the time of the creation stays. -/
def documentUpsert : Upsert documentKey where
  change old new :=
    { old with version := new.version, docstatus := new.docstatus, data := new.data, updatedAt := new.updatedAt }
  key_change _ _ := rfl

def automationRunIndexUpsert : Upsert AutomationRunIndexRow.key where
  change old new :=
    { old with status := new.status, available_at := new.available_at, enqueued_at := new.enqueued_at,
               updated_at := new.updated_at }
  key_change _ _ := rfl

def automationRunAvailableAt (status : JsString) (enqueuedAt : Timestamp) (retryAt claimExpiresAt : Option Timestamp) :
    Option Timestamp :=
  if status = js "pending" then some enqueuedAt
  else if status = js "failed" then some (retryAt.getD enqueuedAt)
  else if status = js "claimed" then some (claimExpiresAt.getD enqueuedAt)
  else none

/-- The row that is written for a projection row, if it is one of a run. -/
def automationRunIndexUpsertStatement (snapshot : DocumentSnapshot) : Option AutomationRunIndexRow :=
  if snapshot.doctype ≠ automationRunsDoctype then none
  else
    let text (key : String) := optionalStringFromData (Record.get snapshot.data (js key))
    let status := (text "status").getD []
    let enqueuedAt := (text "enqueuedAt").getD snapshot.createdAt
    some
      { tenant_id := snapshot.tenantId, run_id := snapshot.name, status
        available_at := automationRunAvailableAt status enqueuedAt (text "retryAt") (text "claimExpiresAt")
        enqueued_at := enqueuedAt, updated_at := snapshot.updatedAt }

namespace D1Database

def empty : D1Database := { events := [], documents := .empty, automationRuns := .empty }

/-- The events of a stream, as they were inserted. -/
def stream (db : D1Database) (name : StreamName) : List DomainEvent := db.events.filter (fun event => event.stream == name)

/-- `SELECT ... WHERE stream = ? ORDER BY sequence`. -/
def readStream (db : D1Database) (name : StreamName) (payloadKinds : List JsString) : List DomainEvent :=
  sortBySequence ((db.stream name).filter (fun event => payloadKinds.contains event.payload.kind))

/-- `COALESCE(MAX(sequence), 0)`. -/
def currentVersion (db : D1Database) (name : StreamName) : Nat := ((db.stream name).map (·.sequence)).foldl max 0

/-- `id` is the primary key of the events, and no stream has two events of one sequence. -/
structure Constraints (events : List DomainEvent) : Prop where
  ids : (events.map (·.id)).Nodup
  sequences : (events.map (fun event => (event.stream, event.sequence))).Nodup

instance (events : List DomainEvent) : Decidable (Constraints events) :=
  decidable_of_iff ((events.map (·.id)).Nodup ∧ (events.map (fun event => (event.stream, event.sequence))).Nodup)
    ⟨fun h => ⟨h.1, h.2⟩, fun h => ⟨h.ids, h.sequences⟩⟩

/-- The statements of a batch: events are inserted, projection rows and their index rows are written. If a
constraint fails, there is no database after it. -/
def batch (db : D1Database) (saved : List DomainEvent) (snapshots : List DocumentSnapshot) : Option D1Database :=
  if Constraints (db.events ++ saved) then
    some
      { events := db.events ++ saved
        documents := db.documents.upsertAll documentUpsert snapshots
        automationRuns :=
          db.automationRuns.upsertAll automationRunIndexUpsert (snapshots.filterMap automationRunIndexUpsertStatement) }
  else none

/-! ## The query of the candidates -/

/-- `ORDER BY r.enqueued_at COLLATE BINARY ASC, r.run_id COLLATE BINARY ASC`. -/
def candidateOrder (left right : AutomationRunIndexRow × DocumentSnapshot) : Ordering :=
  (binaryCompare left.1.enqueued_at right.1.enqueued_at).then (binaryCompare left.1.run_id right.1.run_id)

/-- The join of the index with the projection rows on their primary key. -/
def joinedRuns (db : D1Database) : List (AutomationRunIndexRow × DocumentSnapshot) :=
  db.automationRuns.rows.filterMap (fun r =>
    (db.documents.row (r.tenant_id, automationRunsDoctype, r.run_id)).map (fun d => (r, d)))

/-- The condition of the query. -/
def isClaimCandidate (tenantId : TenantId) (now : Timestamp) (r : AutomationRunIndexRow) : Bool :=
  r.tenant_id == tenantId && [js "pending", js "failed", js "claimed"].contains r.status &&
    r.available_at.any (fun availableAt => binaryCompare availableAt now != .gt)

end D1Database

def listD1AutomationRunClaimCandidateSnapshots (db : D1Database) (tenantId : TenantId) (now : Timestamp) (limit : Nat) :
    List DocumentSnapshot :=
  ((((db.joinedRuns).filter (fun row => D1Database.isClaimCandidate tenantId now row.1)).insertionSort
    (fun left right => D1Database.candidateOrder left right ≠ .gt)).take limit).map (·.2)

/-! ## Programs on the store -/

/-- What a service does with the store, the clock and the generator of ids. -/
inductive D1Action
  | now
  | nextId (start : JsString)
  | readStream (stream : StreamName) (payloadKinds : List JsString)
  | currentVersion (stream : StreamName)
  | listAutomationRunClaimCandidates (tenantId : TenantId) (now : Timestamp) (limit : Nat)
  | batch (saved : List DomainEvent) (snapshots : List DocumentSnapshot)

/-- Why a batch has failed. -/
inductive D1Failure
  | constraint
  | other (error : FrameworkError)

def D1Action.Reply : D1Action → Type
  | .now => Timestamp
  | .nextId _ => JsString
  | .readStream .. => List DomainEvent
  | .currentVersion _ => Nat
  | .listAutomationRunClaimCandidates .. => List DocumentSnapshot
  | .batch .. => Except D1Failure Unit

abbrev D1Program (α : Type) := Program D1Action D1Action.Reply FrameworkError α

/-- How an action changes the store. The clock gives ISO timestamps; a batch may fail for reasons of its own,
and then it has no effect. -/
def D1Database.exec (db : D1Database) : (action : D1Action) → action.Reply → D1Database → Prop
  | .now, time, db' => isIsoTimestamp time = true ∧ db' = db
  | .nextId _, _, db' => db' = db
  | .readStream stream payloadKinds, events, db' => events = db.readStream stream payloadKinds ∧ db' = db
  | .currentVersion stream, version, db' => version = db.currentVersion stream ∧ db' = db
  | .listAutomationRunClaimCandidates tenantId now limit, rows, db' =>
    rows = listD1AutomationRunClaimCandidateSnapshots db tenantId now limit ∧ db' = db
  | .batch saved snapshots, reply, db' =>
    (∃ failure, reply = .error failure ∧ db' = db) ∨ (reply = .ok () ∧ db.batch saved snapshots = some db')

namespace D1DocumentStore

/-- The versions of the streams before the batch. -/
def checkVersions : List DocumentCommitBatchEntry → D1Program (Except FrameworkError Unit)
  | [] => return .ok ()
  | entry :: entries => do
      let current : Nat ← .perform (D1Action.currentVersion entry.stream)
      if current ≠ entry.expectedVersion then
        return .error (.conflict (js "Expected stream '" ++ entry.stream ++ js "' at version " ++
          Json.natToString entry.expectedVersion ++ js ", found " ++ Json.natToString current))
      else checkVersions entries

def D1Failure.toError : D1Failure → FrameworkError
  | .constraint => .conflict (js "One or more streams changed while committing")
  | .other error => error

/-- `commitBatch`; what it throws is its result here. -/
def commitBatch (entries : List DocumentCommitBatchEntry)
    (project : List DomainEvent → Except FrameworkError DocumentCommitBatchProjection) :
    D1Program (Except FrameworkError DocumentCommit) := do
  match ← checkVersions entries with
  | .error error => return .error error
  | .ok _ =>
    let saved := Store.savedEvents entries
    match project saved with
    | .error error => return .error error
    | .ok projection =>
      let written : Except D1Failure Unit ←
        .perform (D1Action.batch saved (projection.snapshot :: projection.auxiliarySnapshots))
      match written with
      | .error failure => return .error (D1Failure.toError failure)
      | .ok _ => return .ok { events := saved, snapshot := projection.snapshot }

end D1DocumentStore
