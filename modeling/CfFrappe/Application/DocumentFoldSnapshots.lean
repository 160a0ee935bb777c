import CfFrappe.Application.DocumentStreams
import CfFrappe.Application.SeriesCreate
import CfFrappe.Lib.SharedState

set_option autoImplicit false

/-! # Snapshots of the document fold

`DocumentFoldSnapshots` reads the fold of a document through a cache that may lose anything, fail, or return
anything old. A command reads the document through it, commits what it plans for that document, and files the
document of the commit. What is filed is the fold of a head of the stream (`FoldsOK`), so resuming from it gives
the fold of the whole stream at the moment of the read (`resume_eq_fold`).
-/

open Utf
open SharedState (wp_action wp_checked wp_then wp_throw)

/-- A stored fold of the events up to a sequence. -/
structure FoldSnapshot where
  uptoSequence : Nat
  state : Option DocumentSnapshot
  deriving DecidableEq

/-- What a snapshot is filed under: a stream, and how it is folded. -/
structure FoldSnapshotKey where
  stream : StreamName
  foldName : JsString
  foldVersion : Nat
  deriving DecidableEq

namespace DocumentFoldSnapshots

/-! ## The ports -/

inductive FoldAction
  | readStream (stream : StreamName) (minSequence : Option Nat)
  | commitBatch (entries : List DocumentCommitBatchEntry)
      (project : List DomainEvent → Except FrameworkError DocumentCommitBatchProjection)
  | readSnapshot (key : FoldSnapshotKey)
  | writeSnapshot (key : FoldSnapshotKey) (snapshot : FoldSnapshot)

def FoldAction.Reply : FoldAction → Type
  | .readStream .. => Except FrameworkError (List DomainEvent)
  | .commitBatch .. => Except FrameworkError DocumentCommit
  | .readSnapshot _ => Except FrameworkError (Option FoldSnapshot)
  | .writeSnapshot .. => Except FrameworkError Unit

abbrev FoldProgram (α : Type) := Program FoldAction FoldAction.Reply FrameworkError α

def readStream (stream : StreamName) (minSequence : Option Nat) : FoldProgram (Except FrameworkError (List DomainEvent)) :=
  .perform (FoldAction.readStream stream minSequence)

def commitBatch (entries : List DocumentCommitBatchEntry)
    (project : List DomainEvent → Except FrameworkError DocumentCommitBatchProjection) :
    FoldProgram (Except FrameworkError DocumentCommit) :=
  .perform (FoldAction.commitBatch entries project)

def readSnapshot (key : FoldSnapshotKey) : FoldProgram (Except FrameworkError (Option FoldSnapshot)) :=
  .perform (FoldAction.readSnapshot key)

def writeSnapshot (key : FoldSnapshotKey) (snapshot : FoldSnapshot) : FoldProgram (Except FrameworkError Unit) :=
  .perform (FoldAction.writeSnapshot key snapshot)

/-- The store, and every snapshot that was ever written. -/
structure FoldWorld where
  store : Store
  written : List (FoldSnapshotKey × FoldSnapshot)

/-- Any read or write may fail for reasons of its own. A write of a snapshot may be lost whatever its reply says,
and a read finds nothing or anything that was ever written under its key. -/
def FoldWorld.exec (w : FoldWorld) : (action : FoldAction) → action.Reply → FoldWorld → Prop
  | .readStream stream minSequence, reply, w' =>
    ((∃ error, reply = .error error) ∨ reply = .ok (w.store.readStream stream minSequence none)) ∧ w' = w
  | .commitBatch entries project, reply, w' =>
    (∃ error, reply = .error error ∧ w' = w) ∨
      ∃ commit store, reply = .ok commit ∧ w.store.commitBatch entries project = .ok (commit, store) ∧
        w' = { w with store }
  | .readSnapshot key, reply, w' =>
    (∀ snapshot, reply = .ok (some snapshot) → (key, snapshot) ∈ w.written) ∧ w' = w
  | .writeSnapshot key snapshot, _, w' => w' = w ∨ w' = { w with written := (key, snapshot) :: w.written }

/-! ## The service -/

def documentFoldName : JsString := js "document"

def documentFoldVersion : Nat := 1

def documentKey (stream : StreamName) : FoldSnapshotKey :=
  { stream, foldName := documentFoldName, foldVersion := documentFoldVersion }

section

variable (snapshots : Bool)

/-- What is stored of a stream, when there is a snapshot store and it does not fail. -/
def read (stream : StreamName) : FoldProgram (Option FoldSnapshot) :=
  if snapshots then do
    let found ← readSnapshot (documentKey stream)
    return (found.toOption.bind id)
  else return none

/-- `foldDocument(await this.store.readStream(stream))`. -/
def coldFold (stream : StreamName) : FoldProgram (Option DocumentSnapshot) := do
  let events ← readStream stream none
  let events ← .ofExcept events
  return foldDocument events

/-- The fold of the tail onto a stored state. When the tail cannot be read, everything is read. -/
def resumeFrom (stream : StreamName) (base : FoldSnapshot) : FoldProgram (Option DocumentSnapshot) := do
  let tail ← readStream stream (some (base.uptoSequence + 1))
  match tail with
  | .ok events => return foldDocumentFrom base.state events
  | .error _ => coldFold stream

def resume (stream : StreamName) : FoldProgram (Option DocumentSnapshot) := do
  let base ← read snapshots stream
  match base with
  | some base => resumeFrom stream base
  | none => coldFold stream

/-- The last sequence that a batch has given to a stream. -/
def uptoSequence (stream : StreamName) (events : List DomainEvent) : Option Nat :=
  ((events.filter (fun event => event.stream == stream)).getLast?).map (·.sequence)

/-- The failure of the write is ignored. -/
def record (stream : StreamName) (commit : DocumentCommit) : FoldProgram Unit :=
  match uptoSequence stream commit.events with
  | none => return ()
  | some uptoSequence =>
    if snapshots then do
      let _ ← writeSnapshot (documentKey stream) { uptoSequence, state := some commit.snapshot }
      return ()
    else return ()

end

/-! ## Commands -/

/-- What a command commits: the batch, and how its rows follow from the saved events. -/
structure PlannedCommit where
  entries : List DocumentCommitBatchEntry
  project : List DomainEvent → Except FrameworkError DocumentCommitBatchProjection

/-- The commit is for the document of the stream: at the version that was read it gives the row that the stream
folds to with the new events. -/
structure PlannedCommit.ForDocument (planned : PlannedCommit) (stream : StreamName) (events : List DomainEvent) :
    Prop where
  distinct : (planned.entries.map (·.stream)).Nodup
  own : Store.OwnStreams planned.entries
  version : ∀ entry ∈ planned.entries, entry.stream = stream →
    entry.expectedVersion = ((foldDocument events).map (·.version)).getD 0
  projects : ∀ entry ∈ planned.entries, entry.stream = stream → entry.expectedVersion = events.length →
    ∀ projection, planned.project (Store.savedEvents planned.entries) = .ok projection →
      foldDocument (events ++ sequenceEvents events.length entry.events) = some projection.snapshot

/-- What a command plans for the document that it reads. -/
abbrev DocumentPlan := Option DocumentSnapshot → Except FrameworkError PlannedCommit

/-- Every commit of the plan is for the document that it was planned for. -/
def DocumentPlan.ForDocument (plan : DocumentPlan) (stream : StreamName) : Prop :=
  ∀ events planned, Sequenced 0 events → plan (foldDocument events) = .ok planned → planned.ForDocument stream events

inductive FoldCommand
  /-- reads a document -/
  | read (stream : StreamName)
  /-- reads a document, through the snapshots or not, commits what is planned for it and files its snapshot -/
  | write (stream : StreamName) (resumes : Bool) (plan : DocumentPlan)
  /-- a commit of which no snapshot is filed -/
  | commit (planned : PlannedCommit)
  /-- another fold files a snapshot of its own -/
  | file (key : FoldSnapshotKey) (snapshot : FoldSnapshot)

/-- What the callers promise of the commands. -/
def FoldCommand.Promised : FoldCommand → Prop
  | .read _ => True
  | .write stream _ plan => plan.ForDocument stream
  | .commit planned => (planned.entries.map (·.stream)).Nodup ∧ Store.OwnStreams planned.entries
  | .file key _ => key.foldName ≠ documentFoldName

/-- The document that a command starts from. -/
def existing (snapshots resumes : Bool) (stream : StreamName) : FoldProgram (Option DocumentSnapshot) :=
  if resumes then resume snapshots stream else coldFold stream

def FoldCommand.program (snapshots : Bool) : FoldCommand → FoldProgram (Option DocumentSnapshot)
  | .read stream => resume snapshots stream
  | .write stream resumes plan => do
      let existing ← existing snapshots resumes stream
      let planned ← .ofExcept (plan existing)
      let committed ← commitBatch planned.entries planned.project
      let commit ← .ofExcept committed
      record snapshots stream commit
      return some commit.snapshot
  | .commit planned => do
      let committed ← commitBatch planned.entries planned.project
      let commit ← .ofExcept committed
      return some commit.snapshot
  | .file key snapshot => do
      let _ ← writeSnapshot key snapshot
      return none

/-! ## The commits of the document service -/

/-- What the event of a command says about its row besides the version and the time. -/
structure CommittedDocumentSnapshotProjection where
  data : Option DocumentData := none
  docstatus : Option DocStatus := none

def snapshotFromCommittedDocumentEvent (existing : DocumentSnapshot) (event : DomainEvent)
    (projection : CommittedDocumentSnapshotProjection) : DocumentSnapshot :=
  { existing with
    version := event.sequence
    docstatus := projection.docstatus.getD existing.docstatus
    data := projection.data.getD existing.data
    updatedAt := event.occurredAt }

/-- The projection that a command passes with its event: the data that its plan came to, or the next status. -/
def committedProjection (existing : DocumentSnapshot) : EventPayload → CommittedDocumentSnapshotProjection
  | .documentUpdated patch unset => { data := some (applyDocumentDataChange existing.data patch unset) }
  | .workflowTransitioned _ _ _ _ _ patch => { data := some (Record.merge existing.data patch) }
  | .domainCommandApplied _ _ patch _ => { data := some (Record.merge existing.data patch) }
  | .documentDeleted => { docstatus := some .deleted }
  | .documentSubmitted => { docstatus := some .submitted }
  | .documentCancelled => { docstatus := some .cancelled }
  | _ => {}

/-- A change of a document: its event, and the entries for other streams before and after it. -/
structure DocumentChange where
  event : NewDomainEvent
  before : List DocumentCommitBatchEntry := []
  after : List DocumentCommitBatchEntry := []
  auxiliarySnapshots : List DomainEvent → Except FrameworkError (List DocumentSnapshot) := fun _ => .ok []

def DocumentChange.entry (change : DocumentChange) (existing : DocumentSnapshot) : DocumentCommitBatchEntry :=
  { stream := change.event.stream, expectedVersion := existing.version, events := [change.event] }

/-- The commit of a change at the version of the document. -/
def DocumentChange.planned (change : DocumentChange) (existing : DocumentSnapshot) : PlannedCommit where
  entries := change.before ++ change.entry existing :: change.after
  project savedEvents := do
    let saved ← SeriesCreate.requireSavedEvent savedEvents change.event.id
    let auxiliarySnapshots ← change.auxiliarySnapshots savedEvents
    return {
      snapshot := snapshotFromCommittedDocumentEvent existing saved (committedProjection existing change.event.payload)
      auxiliarySnapshots }

/-- A change is one of the folded kinds, for different streams, with ids of their own. -/
structure DocumentChange.OK (change : DocumentChange) (existing : DocumentSnapshot) : Prop where
  changes : change.event.payload.changes = true
  distinct : ((change.planned existing).entries.map (·.stream)).Nodup
  own : Store.OwnStreams (change.planned existing).entries
  ids : (((change.planned existing).entries.flatMap (·.events)).map (·.id)).Nodup

/-- **The row of a change is the fold** with its event. -/
theorem foldEvent_committed {existing : DocumentSnapshot} {event : DomainEvent} (h : event.payload.changes = true) :
    foldEvent (some existing) event =
      some (snapshotFromCommittedDocumentEvent existing event (committedProjection existing event.payload)) := by
  unfold foldEvent
  cases hpayload : event.payload with
  | documentCreated data docstatus => rw [hpayload] at h; cases h
  | automationRun payload => rw [hpayload] at h; cases h
  | other kind value => rw [hpayload] at h; cases h
  | workflowTransitioned workflow stateField action source target patch =>
    rw [hpayload] at h
    have hcurrent : isCurrentWorkflowTransitionPayload
        (.workflowTransitioned workflow stateField action source target patch) = true := h
    simp only [hcurrent, if_true]
    rfl
  | _ => rfl

theorem map_id_savedEvents (entries : List DocumentCommitBatchEntry) :
    (Store.savedEvents entries).map (·.id) = (entries.flatMap (·.events)).map (·.id) := by
  unfold Store.savedEvents
  rw [List.map_flatMap, List.map_flatMap]
  exact List.flatMap_congr (fun entry _ => map_id_sequenceEvents _ _)

/-- The saved event of an id that only one event has. -/
theorem requireSavedEvent_of_mem {events : List DomainEvent} {event : DomainEvent} (hids : (events.map (·.id)).Nodup)
    (hmem : event ∈ events) : SeriesCreate.requireSavedEvent events event.id = .ok event := by
  have hfind : events.find? (fun other => other.id == event.id) = some event := by
    obtain ⟨found, hfound⟩ : ∃ found, events.find? (fun other => other.id == event.id) = some found := by
      rw [← Option.isSome_iff_exists, List.find?_isSome]
      exact ⟨event, hmem, by simp⟩
    have hid : found.id = event.id := by simpa using List.find?_some hfound
    rw [hfound, List.inj_on_of_nodup_map hids (List.mem_of_find?_eq_some hfound) hmem hid]
  rw [SeriesCreate.requireSavedEvent, hfind]

/-- **What the service commits is for its document.** -/
theorem DocumentChange.forDocument {change : DocumentChange} {existing : DocumentSnapshot} {events : List DomainEvent}
    (h : change.OK existing) (hevents : Sequenced 0 events) (hexisting : foldDocument events = some existing) :
    (change.planned existing).ForDocument change.event.stream events := by
  have honly : ∀ entry ∈ (change.planned existing).entries, entry.stream = change.event.stream →
      entry = change.entry existing := by
    intro entry hentry hstream
    have hmem : change.entry existing ∈ (change.planned existing).entries :=
      List.mem_append_right _ List.mem_cons_self
    exact List.inj_on_of_nodup_map h.distinct hentry hmem hstream
  constructor
  case distinct => exact h.distinct
  case own => exact h.own
  case version =>
    intro entry hentry hstream
    rw [honly entry hentry hstream, hexisting]
    rfl
  case projects =>
    intro entry hentry hstream hversion projection hproject
    obtain rfl := honly entry hentry hstream
    have hlength : existing.version = events.length := hversion
    -- the saved event is the one that the stream gets
    have hsaved : change.event.withSequence (existing.version + 1) ∈ Store.savedEvents (change.planned existing).entries :=
      List.mem_flatMap.mpr ⟨change.entry existing, hentry, List.mem_singleton_self _⟩
    have hids : ((Store.savedEvents (change.planned existing).entries).map (·.id)).Nodup := by
      rw [map_id_savedEvents]
      exact h.ids
    obtain ⟨saved, hrequire, hrest⟩ := except_bind_eq_ok hproject
    obtain rfl : change.event.withSequence (existing.version + 1) = saved :=
      Except.ok.inj ((requireSavedEvent_of_mem hids hsaved).symm.trans hrequire)
    obtain ⟨auxiliarySnapshots, _, hprojection⟩ := except_bind_eq_ok hrest
    obtain rfl := Except.ok.inj hprojection
    have hnumbered : Sequenced 0 (events ++ [change.event.withSequence (existing.version + 1)]) := by
      refine hevents.append ⟨?_, trivial⟩
      rw [hlength, Nat.zero_add]
      rfl
    calc foldDocument (events ++ sequenceEvents events.length (change.entry existing).events)
        = foldDocument (events ++ [change.event.withSequence (existing.version + 1)]) := by
          rw [hlength]
          rfl
      _ = foldEvent (some existing) (change.event.withSequence (existing.version + 1)) := by
          rw [foldDocument_concat hnumbered, hexisting]
      _ = some (snapshotFromCommittedDocumentEvent existing (change.event.withSequence (existing.version + 1))
            (committedProjection existing change.event.payload)) := foldEvent_committed h.changes

/-- The plan of a command that changes a live document. -/
def documentPlan (change : DocumentSnapshot → DocumentChange) (doctypeName : DocTypeName) (documentName : DocumentName) :
    DocumentPlan := fun existing => do
  let existing ← requireLiveDocumentSnapshot existing doctypeName documentName
  return (change existing).planned existing

theorem documentPlan_forDocument {change : DocumentSnapshot → DocumentChange} {stream : StreamName}
    (h : ∀ existing, (change existing).event.stream = stream ∧ (change existing).OK existing)
    (doctypeName : DocTypeName) (documentName : DocumentName) :
    (documentPlan change doctypeName documentName).ForDocument stream := by
  intro events planned hevents hplan
  obtain ⟨existing, hlive, hplanned⟩ := except_bind_eq_ok hplan
  obtain ⟨hexisting, _⟩ := requireLiveDocumentSnapshot_ok hlive
  obtain ⟨hstream, hok⟩ := h existing
  rw [← Except.ok.inj hplanned, ← hstream]
  exact DocumentChange.forDocument hok hevents hexisting

/-! ## What always holds -/

/-- Streams grow. -/
def FoldWorld.Later (w w' : FoldWorld) : Prop := ∀ stream, w.store.streams stream <+: w'.store.streams stream

/-- **The invariant**: numbered streams, and filed documents that are folds of heads of their streams. -/
structure FoldsOK (w : FoldWorld) : Prop where
  sequenced : ∀ stream, Sequenced 0 (w.store.streams stream)
  filed : ∀ stream snapshot, (documentKey stream, snapshot) ∈ w.written →
    snapshot.uptoSequence ≤ (w.store.streams stream).length ∧
      snapshot.state = foldDocument ((w.store.streams stream).take snapshot.uptoSequence)


section

variable {w w' w'' : FoldWorld}

theorem FoldWorld.Later.refl (w : FoldWorld) : w.Later w := fun _ => List.prefix_rfl

theorem FoldWorld.Later.trans (h : w.Later w') (h' : w'.Later w'') : w.Later w'' :=
  fun stream => (h stream).trans (h' stream)

theorem FoldWorld.exec_later {action : FoldAction} {reply : action.Reply} (h : w.exec action reply w') :
    w.Later w' := by
  cases action with
  | readStream stream minSequence =>
    obtain ⟨-, rfl⟩ := h
    exact .refl _
  | readSnapshot key =>
    obtain ⟨-, rfl⟩ := h
    exact .refl _
  | writeSnapshot key snapshot =>
    rcases h with rfl | rfl
    · exact .refl _
    · exact fun _ => List.prefix_rfl
  | commitBatch entries project =>
    rcases h with ⟨error, -, rfl⟩ | ⟨commit, store, -, hcommit, rfl⟩
    · exact .refl _
    · obtain ⟨projection, hcommitted⟩ := Store.commitBatch_ok hcommit
      exact hcommitted.toAppended.le.streams

/-- A head of a stream is a head of the stream later on. -/
theorem filed_later {stream : StreamName} {k : Nat} {state : Option DocumentSnapshot} (hlater : w.Later w')
    (h : k ≤ (w.store.streams stream).length ∧ state = foldDocument ((w.store.streams stream).take k)) :
    k ≤ (w'.store.streams stream).length ∧ state = foldDocument ((w'.store.streams stream).take k) := by
  obtain ⟨hlength, hstate⟩ := h
  obtain ⟨rest, hrest⟩ := hlater stream
  rw [← hrest, List.length_append, List.take_append_of_le_length hlength]
  exact ⟨by omega, hstate⟩

/-- A batch for different streams keeps every stream numbered. -/
theorem sequenced_appended {s t : Store} {entries : List DocumentCommitBatchEntry} (h : Store.Appended s entries t)
    (hdistinct : (entries.map (·.stream)).Nodup) (hown : Store.OwnStreams entries)
    (hs : ∀ stream, Sequenced 0 (s.streams stream)) (stream : StreamName) : Sequenced 0 (t.streams stream) := by
  by_cases hwritten : ∃ entry ∈ entries, entry.stream = stream
  · obtain ⟨entry, hentry, rfl⟩ := hwritten
    rw [h.stream_written hown hdistinct hentry]
    refine (hs entry.stream).append ?_
    rw [Nat.zero_add]
    exact sequenced_sequenceEvents _ _
  · rw [h.stream_unwritten (fun entry hentry heq => hwritten ⟨entry, hentry, heq⟩)]
    exact hs stream

theorem FoldsOK.commit {entries : List DocumentCommitBatchEntry} {t : Store} (h : FoldsOK w)
    (hdistinct : (entries.map (·.stream)).Nodup) (hown : Store.OwnStreams entries)
    (hcommit : Store.Appended w.store entries t) : FoldsOK { w with store := t } := by
  have hlater : w.Later { w with store := t } := hcommit.le.streams
  constructor
  · exact sequenced_appended hcommit hdistinct hown h.sequenced
  · intro stream snapshot hmem
    exact filed_later hlater (h.filed stream snapshot hmem)

/-- The invariant holds with another snapshot if that is a fold, or not one of documents. -/
theorem FoldsOK.file {key : FoldSnapshotKey} {snapshot : FoldSnapshot} (h : FoldsOK w)
    (hfold : ∀ stream, key = documentKey stream → snapshot.uptoSequence ≤ (w.store.streams stream).length ∧
      snapshot.state = foldDocument ((w.store.streams stream).take snapshot.uptoSequence)) :
    FoldsOK { w with written := (key, snapshot) :: w.written } := by
  refine ⟨h.sequenced, ?_⟩
  intro stream other hmem
  rcases List.mem_cons.mp hmem with heq | hold
  · rw [Prod.mk.injEq] at heq
    rw [heq.2]
    exact hfold stream heq.1.symm
  · exact h.filed stream other hold

end

/-! ## Reads of a numbered stream -/

section

variable {n : Nat} {events : List DomainEvent} {s : Store} {stream : StreamName}

theorem last_sequence (h : Sequenced n events) {last : DomainEvent} (hlast : events.getLast? = some last) :
    last.sequence = n + events.length := by
  induction events generalizing n with
  | nil => cases hlast
  | cons event events ih =>
    cases events with
    | nil =>
      obtain rfl : event = last := Option.some.inj hlast
      exact h.1
    | cons second events =>
      rw [List.getLast?_cons_cons] at hlast
      rw [ih h.2 hlast, List.length_cons (a := event)]
      omega

/-- A turn of the fold gives the version of its event, or leaves the document alone. -/
theorem foldEvent_version {snapshot : Option DocumentSnapshot} {event : DomainEvent} {document : DocumentSnapshot}
    (h : foldEvent snapshot event = some document) : document.version = event.sequence ∨ snapshot = some document := by
  unfold foldEvent at h
  cases hpayload : event.payload <;> simp only [hpayload] at h
  case documentCreated =>
    rw [← Option.some.inj h]
    exact Or.inl rfl
  case automationRun => exact Or.inr h
  case other => exact Or.inr h
  case workflowTransitioned =>
    split_ifs at h
    · obtain ⟨current, -, rfl⟩ := Option.map_eq_some_iff.mp h
      exact Or.inl rfl
    · exact Or.inr h
  all_goals
    obtain ⟨current, -, rfl⟩ := Option.map_eq_some_iff.mp h
    exact Or.inl rfl

/-- The version of a folded document is at most the length of its stream. -/
theorem foldDocument_version_le (h : Sequenced 0 events) :
    ((foldDocument events).map (·.version)).getD 0 ≤ events.length := by
  have hfold : ∀ (events : List DomainEvent) (n : Nat) (snapshot : Option DocumentSnapshot), Sequenced n events →
      (snapshot.map (·.version)).getD 0 ≤ n →
      ((events.foldl foldEvent snapshot).map (·.version)).getD 0 ≤ n + events.length := by
    intro events
    induction events with
    | nil => exact fun n snapshot _ hversion => hversion
    | cons event events ih =>
      intro n snapshot hsequenced hversion
      rw [List.foldl_cons, List.length_cons]
      have hnext : ((foldEvent snapshot event).map (·.version)).getD 0 ≤ n + 1 := by
        cases hturn : foldEvent snapshot event with
        | none => exact Nat.zero_le _
        | some document =>
          show document.version ≤ n + 1
          rcases foldEvent_version hturn with hevent | hsame
          · rw [hevent, hsequenced.1]
          · rw [hsame] at hversion
            exact Nat.le_succ_of_le hversion
      have hrest := ih (n + 1) _ hsequenced.2 hnext
      omega
  have hwhole := hfold events 0 none h (Nat.le_refl 0)
  rw [foldDocument, foldDocumentFrom_eq h]
  omega

/-- A read from sequence `k + 1` on, folded onto the fold of the first `k` events, is the fold of the whole
stream. -/
theorem foldDocumentFrom_tail (h : Sequenced 0 (s.streams stream)) {k : Nat} :
    foldDocumentFrom (foldDocument ((s.streams stream).take k)) (s.readStream stream (some (k + 1)) none) =
      foldDocument (s.streams stream) := by
  have hsplit : Sequenced 0 ((s.streams stream).take k ++ (s.streams stream).drop k) := by
    rwa [List.take_append_drop]
  have htail : s.readStream stream (some (k + 1)) none = (s.streams stream).drop k := by
    have hfilter : (s.streams stream).filter (fun event =>
        (some (k + 1)).all (fun minSequence => decide (minSequence ≤ event.sequence))) =
          (s.streams stream).drop k := h.filter_after k
    rw [Store.readStream, filter_payloadKinds_none, hfilter, sortBySequence_eq hsplit.right]
  calc foldDocumentFrom (foldDocument ((s.streams stream).take k)) (s.readStream stream (some (k + 1)) none)
      = foldDocumentFrom (foldDocumentFrom none ((s.streams stream).take k)) ((s.streams stream).drop k) := by
        rw [htail]
        rfl
    _ = foldDocumentFrom none ((s.streams stream).take k ++ (s.streams stream).drop k) :=
        (foldDocumentFrom_append hsplit none).symm
    _ = foldDocument (s.streams stream) := by
        rw [List.take_append_drop]
        rfl

end

/-! ## Commands keep the invariant -/

abbrev foldsShared : SharedState FoldWorld FoldAction FoldAction.Reply where
  exec := FoldWorld.exec
  le := FoldWorld.Later
  le_refl := .refl
  le_trans := .trans
  exec_le := FoldWorld.exec_later
  Inv := FoldsOK

abbrev FoldWp {α : Type} (p : FoldProgram α) (Q : α → FoldWorld → Prop) (w : FoldWorld) : Prop := foldsShared.Wp p Q w

/-- The document is the fold of what the stream was at some time. -/
def FoldedBefore (w : FoldWorld) (stream : StreamName) (document : Option DocumentSnapshot) : Prop :=
  ∃ events, Sequenced 0 events ∧ events <+: w.store.streams stream ∧ document = foldDocument events

/-- What a commit has for a stream may be filed. -/
def Fileable (w : FoldWorld) (stream : StreamName) (commit : DocumentCommit) : Prop :=
  ∀ upto, uptoSequence stream commit.events = some upto → upto ≤ (w.store.streams stream).length ∧
    some commit.snapshot = foldDocument ((w.store.streams stream).take upto)

section

variable {snapshots : Bool} {w : FoldWorld} {stream : StreamName}

theorem wp_coldFold {Q : Option DocumentSnapshot → FoldWorld → Prop}
    (h : ∀ w', w.Later w' → FoldsOK w' → Q (foldDocument (w'.store.streams stream)) w') :
    FoldWp (coldFold stream) Q w := by
  apply wp_then
  apply wp_action
  intro w' reply w'' hlater hok hexec
  obtain ⟨hreply, rfl⟩ := hexec
  refine ⟨hok, trivial, ?_⟩
  apply wp_checked
  intro events hevents
  rcases hreply with ⟨error, rfl⟩ | rfl
  · cases hevents
  · obtain rfl := Except.ok.inj hevents
    rw [Store.readStream_all (hok.sequenced stream)]
    exact h w'' hlater hok

/-- **Resuming gives the fold of the whole stream**, at the moment of the last read. -/
theorem wp_resume {Q : Option DocumentSnapshot → FoldWorld → Prop}
    (h : ∀ w', w.Later w' → FoldsOK w' → Q (foldDocument (w'.store.streams stream)) w') :
    FoldWp (resume snapshots stream) Q w := by
  apply wp_then
  unfold read
  split_ifs
  · apply wp_then
    apply wp_action
    intro w₁ found w₁' hlater₁ hok₁ hexec
    obtain ⟨hwritten, rfl⟩ := hexec
    refine ⟨hok₁, trivial, ?_⟩
    change FoldWp (match found.toOption.bind id with
      | some base => resumeFrom stream base
      | none => coldFold stream) Q w₁'
    cases hbase : found.toOption.bind id with
    | none => exact wp_coldFold (fun w' hlater => h w' (hlater₁.trans hlater))
    | some base =>
      have hfound : found = .ok (some base) := by
        cases found with
        | error e => cases hbase
        | ok found => rw [show found = some base from hbase]
      have hfiled := hok₁.filed stream base (hwritten base hfound)
      apply wp_then
      apply wp_action
      intro w₂ tail w₂' hlater₂ hok₂ hexec₂
      obtain ⟨hreply, rfl⟩ := hexec₂
      refine ⟨hok₂, trivial, ?_⟩
      have hlater := hlater₁.trans hlater₂
      rcases hreply with ⟨error, rfl⟩ | rfl
      · exact wp_coldFold (fun w' hlater' => h w' (hlater.trans hlater'))
      · show Q (foldDocumentFrom base.state _) w₂'
        -- others may have appended since, and the base is still the fold of a head
        rw [(filed_later hlater₂ hfiled).2, foldDocumentFrom_tail (hok₂.sequenced stream)]
        exact h w₂' hlater hok₂
  · exact wp_coldFold h

theorem wp_existing {resumes : Bool} {Q : Option DocumentSnapshot → FoldWorld → Prop}
    (h : ∀ w' document, FoldedBefore w' stream document → Q document w') :
    FoldWp (existing snapshots resumes stream) Q w := by
  have hnow : ∀ w', w.Later w' → FoldsOK w' → Q (foldDocument (w'.store.streams stream)) w' :=
    fun w' _ hok => h w' _ ⟨_, hok.sequenced stream, List.prefix_rfl, rfl⟩
  unfold existing
  split_ifs
  · exact wp_resume hnow
  · exact wp_coldFold hnow

theorem wp_record {commit : DocumentCommit} {Q : Unit → FoldWorld → Prop} (hcommit : Fileable w stream commit)
    (h : ∀ w', Q () w') : FoldWp (record snapshots stream commit) Q w := by
  unfold record
  cases hupto : uptoSequence stream commit.events with
  | none => exact h w
  | some upto =>
    dsimp only
    split_ifs
    · apply wp_then
      apply wp_action
      intro w' reply w'' hlater hok hexec
      refine ⟨?_, trivial, h w''⟩
      rcases hexec with rfl | rfl
      · exact hok
      · apply hok.file
        intro stream' hkey
        obtain rfl : stream = stream' := congrArg FoldSnapshotKey.stream hkey
        exact filed_later hlater (hcommit upto hupto)
    · exact h w

/-- **What a command commits for its document may be filed**: the version says that nobody has written to the stream
since it was read. -/
theorem fileable_of_committed {events : List DomainEvent} {planned : PlannedCommit} {commit : DocumentCommit}
    {t : Store} (hplanned : planned.ForDocument stream events) (hevents : Sequenced 0 events)
    (hbefore : events <+: w.store.streams stream)
    (hcommit : w.store.commitBatch planned.entries planned.project = .ok (commit, t)) :
    Fileable { w with store := t } stream commit := by
  obtain ⟨projection, hcommitted⟩ := Store.commitBatch_ok hcommit
  intro upto hupto
  rw [hcommitted.events] at hupto
  obtain ⟨last, hlast, rfl⟩ := Option.map_eq_some_iff.mp hupto
  -- the last event of the stream in the batch is one of an entry of the stream
  have hmem := List.mem_filter.mp (List.mem_of_getLast? hlast)
  obtain ⟨entry, hentry, hin⟩ := List.mem_flatMap.mp hmem.1
  have hstream : entry.stream = stream := by
    rw [← hplanned.own entry hentry _ (Store.mem_sequenceEvents hin)]
    exact eq_of_beq hmem.2
  subst hstream
  -- the stream is as it was read
  have hversion : (w.store.streams entry.stream).length = entry.expectedVersion := hcommitted.versions entry hentry
  have hlength : events.length = (w.store.streams entry.stream).length := by
    have hle := hbefore.length_le
    have hread := foldDocument_version_le hevents
    have hplan := hplanned.version entry hentry rfl
    omega
  have hsame : events = w.store.streams entry.stream := hbefore.eq_of_length hlength
  have hwritten : t.streams entry.stream = events ++ sequenceEvents events.length entry.events := by
    rw [hcommitted.stream_written hplanned.own hplanned.distinct hentry, ← hsame]
  -- the batch ends on the stream where the stream ends
  have hlastSequence : last.sequence = (t.streams entry.stream).length := by
    obtain ⟨before, after, hsplit⟩ := List.append_of_mem hentry
    have hdistinct := hplanned.distinct
    have hown := hplanned.own
    rw [hsplit] at hlast hdistinct hown
    rw [List.map_append, List.map_cons, List.nodup_append, List.nodup_cons] at hdistinct
    obtain ⟨_, ⟨hnotAfter, _⟩, hnotBefore⟩ := hdistinct
    rw [Store.savedEvents_filter hown
      (fun other hother => hnotBefore _ (List.mem_map_of_mem hother) _ List.mem_cons_self)
      (fun other hother heq => hnotAfter (heq ▸ List.mem_map_of_mem hother))] at hlast
    rw [last_sequence (sequenced_sequenceEvents _ _) hlast, hwritten, List.length_append, ← hversion, hlength]
  have hprojects := hplanned.projects entry hentry rfl (by omega) projection hcommitted.projected
  show last.sequence ≤ (t.streams entry.stream).length ∧
    some commit.snapshot = foldDocument ((t.streams entry.stream).take last.sequence)
  rw [hlastSequence, List.take_length, hwritten, hprojects, hcommitted.snapshot]
  exact ⟨Nat.le_refl _, rfl⟩

/-- A commit, by what it leaves when it goes through. -/
theorem wp_commitBatch {planned : PlannedCommit} {Q : Except FrameworkError DocumentCommit → FoldWorld → Prop}
    (hdistinct : (planned.entries.map (·.stream)).Nodup) (hown : Store.OwnStreams planned.entries)
    (herror : ∀ w' error, Q (.error error) w')
    (hok : ∀ w' commit t, w.Later w' → FoldsOK w' →
      w'.store.commitBatch planned.entries planned.project = .ok (commit, t) → Q (.ok commit) { w' with store := t }) :
    FoldWp (commitBatch planned.entries planned.project) Q w := by
  apply wp_action
  intro w' reply w'' hlater hinv hexec
  rcases hexec with ⟨error, rfl, rfl⟩ | ⟨commit, t, rfl, hcommit, rfl⟩
  · exact ⟨hinv, trivial, herror _ error⟩
  · obtain ⟨projection, hcommitted⟩ := Store.commitBatch_ok hcommit
    exact ⟨hinv.commit hdistinct hown hcommitted.toAppended, trivial, hok w' commit t hlater hinv hcommit⟩

theorem wp_write {resumes : Bool} {plan : DocumentPlan} (hplan : plan.ForDocument stream) :
    FoldWp (FoldCommand.program snapshots (.write stream resumes plan)) (fun _ _ => True) w := by
  apply wp_then
  apply wp_existing
  intro w₁ document hdocument
  obtain ⟨events, hevents, hbefore, rfl⟩ := hdocument
  apply wp_checked
  intro planned hplanned
  have hfor := hplan events planned hevents hplanned
  apply wp_then
  apply wp_commitBatch hfor.distinct hfor.own
  · intro w' error
    exact wp_throw
  · intro w₂ commit t hlater _ hcommit
    apply wp_checked
    intro commit' hcommit'
    obtain rfl := Except.ok.inj hcommit'
    apply wp_then
    apply wp_record
    · exact fileable_of_committed hfor hevents (hbefore.trans (hlater stream)) hcommit
    · exact fun _ => trivial

end

/-- What is known of the result of a command at its end. -/
def FoldCommand.Result : FoldCommand → Option DocumentSnapshot → FoldWorld → Prop
  | .read stream, document, w => document = foldDocument (w.store.streams stream)
  | _, _, _ => True

/-- **Every command keeps the invariant**, and what a read gives is the fold of the whole stream. -/
theorem wp_foldCommand {snapshots : Bool} {w : FoldWorld} (command : FoldCommand) (h : command.Promised) :
    FoldWp (command.program snapshots) command.Result w := by
  cases command with
  | read stream => exact wp_resume (fun w' _ _ => rfl)
  | write stream resumes plan => exact wp_write h
  | commit planned =>
    apply wp_then
    apply wp_commitBatch h.1 h.2
    · intro w' error
      exact wp_throw
    · exact fun _ _ _ _ _ _ => trivial
  | file key snapshot =>
    apply wp_then
    apply wp_action
    intro w' reply w'' hlater hok hexec
    refine ⟨?_, trivial, trivial⟩
    rcases hexec with rfl | rfl
    · exact hok
    · apply hok.file
      intro stream hkey
      -- the key has the name of another fold
      exact absurd (congrArg FoldSnapshotKey.foldName hkey) h

/-! ## Runs -/

/-- Empty streams, and no snapshots. -/
def emptyFoldWorld : FoldWorld := { store := Store.empty, written := [] }

theorem foldsOK_empty : FoldsOK emptyFoldWorld := ⟨fun _ => trivial, fun _ _ hmem => absurd hmem List.not_mem_nil⟩

/-- The runs of reads and commits, in any interleaving. A program need not come to its end: of any commit the
snapshot may be filed late or never. -/
abbrev FoldRun (snapshots : Bool) :=
  Run FoldWorld.exec (FoldCommand.program snapshots) FoldCommand.Promised emptyFoldWorld

/-- **A snapshot can always be ignored.** In every run, a read that comes to an end gives the fold of the whole
stream, as it is at that moment. -/
theorem resume_eq_fold {snapshots : Bool} {others others' : List (FoldCommand × FoldProgram (Option DocumentSnapshot))}
    {stream : StreamName} {action : FoldAction} {rest : action.Reply → FoldProgram (Option DocumentSnapshot)}
    {w w' : FoldWorld} {steps : List (RunStep FoldCommand FoldWorld FoldAction FoldAction.Reply)}
    {reply : action.Reply} {document : Option DocumentSnapshot}
    (hrun : FoldRun snapshots (others ++ (.read stream, .act action rest) :: others') w steps)
    (hexec : w.exec action reply w') (hend : rest reply = .pure document) :
    document = foldDocument (w'.store.streams stream) := by
  obtain ⟨own, hresult⟩ := Run.result (D := foldsShared.discipline) (G := fun _ s a r _ => foldsShared.Good s a r)
    (Q := fun (command : FoldCommand) document _ w => command.Result document w) hrun foldsOK_empty
    (fun command _ hpromised _ => wp_foldCommand command hpromised) hexec hend
  exact hresult

/-! ### A document with comments

A task is created, two comments are added, and the store finds the snapshot of the first. -/

namespace Comments

def commitReply (w : FoldWorld) :
    Except FrameworkError (DocumentCommit × Store) → Except FrameworkError DocumentCommit × FoldWorld
  | .ok committed => (.ok committed.1, { w with store := committed.2 })
  | .error error => (.error error, w)

/-- The reply to an action and the world after it, when nothing but a conflict fails; a read of a snapshot finds the
oldest. -/
def reply (w : FoldWorld) : (action : FoldAction) → action.Reply × FoldWorld
  | .readStream stream minSequence => (.ok (w.store.readStream stream minSequence none), w)
  | .commitBatch entries project => commitReply w (w.store.commitBatch entries project)
  | .readSnapshot key => (.ok ((w.written.reverse.find? (fun filed => filed.1 == key)).map (·.2)), w)
  | .writeSnapshot key snapshot => (.ok (), { w with written := (key, snapshot) :: w.written })

theorem exec_reply (w : FoldWorld) (action : FoldAction) : w.exec action (reply w action).1 (reply w action).2 := by
  cases action with
  | readStream stream minSequence => exact ⟨Or.inr rfl, rfl⟩
  | commitBatch entries project =>
    rw [reply]
    cases hcommit : w.store.commitBatch entries project with
    | ok committed => exact Or.inr ⟨committed.1, committed.2, rfl, hcommit, rfl⟩
    | error error => exact Or.inl ⟨error, rfl, rfl⟩
  | readSnapshot key =>
    refine ⟨?_, rfl⟩
    intro snapshot hfound
    obtain ⟨filed, hfind, rfl⟩ := Option.map_eq_some_iff.mp (Except.ok.inj hfound)
    have hkey : filed.1 = key := by simpa using List.find?_some hfind
    rw [← hkey]
    exact List.mem_reverse.mp (List.mem_of_find?_eq_some hfind)
  | writeSnapshot key snapshot => exact Or.inr rfl

def stream : StreamName := js "acme:Task:T1"

def event (id : JsString) (payload : EventPayload) : NewDomainEvent :=
  { id, tenantId := js "acme", stream, type := js "TaskChanged", doctype := js "Task", documentName := js "T1"
    actorId := js "ann", occurredAt := js "2026-01-01T00:00:00.000Z", payload, metadata := [] }

def created : PlannedCommit :=
  { entries := [{ stream, expectedVersion := 0, events := [event (js "e1") (.documentCreated [] .draft)] }]
    project := fun saved => do
      let saved ← SeriesCreate.requireSavedEvent saved (js "e1")
      let snapshot ← SeriesCreate.snapshotFromDocumentCreatedEvent saved
      return { snapshot } }

def comment (id : JsString) : DocumentSnapshot → DocumentChange :=
  fun _ => { event := event id (.documentCommentAdded (js "done")) }

theorem comment_ok (id : JsString) (existing : DocumentSnapshot) :
    (comment id existing).event.stream = stream ∧ (comment id existing).OK existing := by
  refine ⟨rfl, rfl, List.nodup_singleton _, ?_, List.nodup_singleton _⟩
  intro entry hentry event hevent
  rw [List.mem_singleton.mp hentry] at hevent ⊢
  rw [List.mem_singleton.mp hevent]
  rfl

def commands : List FoldCommand :=
  [.commit created, .write stream true (documentPlan (comment (js "e2")) (js "Task") (js "T1")),
    .write stream false (documentPlan (comment (js "e3")) (js "Task") (js "T1"))]

theorem commands_promised : ∀ command ∈ commands, command.Promised := by
  intro command hcommand
  simp only [commands, List.mem_cons, List.not_mem_nil, or_false] at hcommand
  rcases hcommand with rfl | rfl | rfl
  · refine ⟨List.nodup_singleton _, ?_⟩
    intro entry hentry event hevent
    rw [List.mem_singleton.mp hentry] at hevent ⊢
    rw [List.mem_singleton.mp hevent]
    rfl
  · exact documentPlan_forDocument (comment_ok (js "e2")) _ _
  · exact documentPlan_forDocument (comment_ok (js "e3")) _ _

def world : FoldWorld := Program.evalAll reply (FoldCommand.program true) commands emptyFoldWorld

theorem run_commands : ∃ threads steps, FoldRun true threads world steps := by
  obtain ⟨threads, hrun⟩ := Program.run_evalAll exec_reply commands commands_promised Run.nil
  exact ⟨threads, _, hrun⟩

end Comments

/-- The snapshot of version 2 is found at version 3. -/
theorem resume_eq_fold_comments :
    ∃ others w steps action rest document, FoldRun true (others ++ [(.read Comments.stream, .act action rest)]) w steps ∧
      rest (Comments.reply w action).1 = .pure document ∧
      document = foldDocument ((Comments.reply w action).2.store.streams Comments.stream) ∧
      (Comments.world.written.map (fun filed => filed.2.uptoSequence) = [3, 2]) ∧
      document.map (·.version) = some 3 := by
  obtain ⟨threads, steps, hrun⟩ := Comments.run_commands
  have hstart := hrun.spawn (FoldCommand.read Comments.stream) trivial
  have hended : ∃ document, ((FoldCommand.program true (.read Comments.stream)).eval Comments.reply
      Comments.world).1 = .ok document ∧ document.map (·.version) = some 3 := ⟨_, rfl, by decide +kernel⟩
  obtain ⟨document, hdocument, hversion⟩ := hended
  obtain ⟨w, steps, action, rest, hlast, hend, _⟩ :=
    Program.run_last Comments.exec_reply hstart (by trivial) hdocument
  exact ⟨threads, w, steps, action, rest, document, hlast, hend,
    resume_eq_fold hlast (Comments.exec_reply w action) hend, by decide +kernel, hversion⟩

end DocumentFoldSnapshots
