import CfFrappe.Application.CommandPolicy
import CfFrappe.Core.Streams

set_option autoImplicit false

/-! # The store

The state that all commands share: the event streams, the projection rows (keyed by tenant, DocType and name, the
primary key of the projection table) and the ids that were ever issued.

A service writes to it in batches. A batch names a stream for each entry, with the version that the stream is
expected to have; if one of them is at another version nothing is written (`checkVersions_conflict`), else every
stream gets the events of its own entry, numbered from its version on (`Appended.stream_written`), and the rows that
the batch projects are saved with them. So streams only ever grow, which is what the promises about reads in between
rest on.
-/

open Utf

structure DocumentCommitBatchEntry where
  stream : StreamName
  expectedVersion : Nat
  events : List NewDomainEvent

structure DocumentCommitBatchProjection where
  snapshot : DocumentSnapshot
  auxiliarySnapshots : List DocumentSnapshot := []

structure DocumentCommit where
  events : List DomainEvent
  snapshot : DocumentSnapshot

/-! ## The store -/

structure Store where
  streams : StreamName → List DomainEvent
  documents : TenantId → DocTypeName → DocumentName → Option DocumentSnapshot
  issuedIds : List JsString

variable {s t : Store} {entries : List DocumentCommitBatchEntry} {entry : DocumentCommitBatchEntry}

namespace Store

def empty : Store := { streams := fun _ => [], documents := fun _ _ _ => none, issuedIds := [] }

def append (s : Store) (stream : StreamName) (events : List DomainEvent) : Store :=
  { s with streams := fun name => if name = stream then s.streams name ++ events else s.streams name }

/-- `ProjectionStore.save`. -/
def save (s : Store) (snapshot : DocumentSnapshot) : Store :=
  { s with
    documents := fun tenantId doctype name =>
      if tenantId = snapshot.tenantId ∧ doctype = snapshot.doctype ∧ name = snapshot.name then some snapshot
      else s.documents tenantId doctype name }

def readStream (s : Store) (stream : StreamName) (minSequence : Option Nat) (payloadKinds : Option (List JsString)) :
    List DomainEvent :=
  sortBySequence (((s.streams stream).filter (fun event =>
    minSequence.all (fun minSequence => decide (minSequence ≤ event.sequence)))).filter (fun event =>
      payloadKinds.all (fun payloadKinds => payloadKinds.contains event.payload.kind)))

/-- The events of a batch with their sequences. -/
def savedEvents (entries : List DocumentCommitBatchEntry) : List DomainEvent :=
  entries.flatMap (fun entry => sequenceEvents entry.expectedVersion entry.events)

def appendEntries (saved : List DomainEvent) (s : Store) (entries : List DocumentCommitBatchEntry) : Store :=
  entries.foldl (fun s entry => s.append entry.stream (saved.filter (fun event => event.stream == entry.stream))) s

/-- The error of the first stream that is not at its expected version. -/
def checkVersions (s : Store) (entries : List DocumentCommitBatchEntry) : Except FrameworkError Unit :=
  match entries.find? (fun entry => (s.streams entry.stream).length != entry.expectedVersion) with
  | some entry =>
    .error (.conflict (js "Expected stream '" ++ entry.stream ++ js "' at version " ++
      Json.natToString entry.expectedVersion ++ js ", found " ++
      Json.natToString (s.streams entry.stream).length))
  | none => .ok ()

/-- `commitBatch`: every stream is at its expected version, or nothing is written. -/
def commitBatch (s : Store) (entries : List DocumentCommitBatchEntry)
    (project : List DomainEvent → Except FrameworkError DocumentCommitBatchProjection) :
    Except FrameworkError (DocumentCommit × Store) :=
  match s.checkVersions entries with
  | .error error => .error error
  | .ok _ =>
    match project (savedEvents entries) with
    | .error error => .error error
    | .ok projection =>
      let appended := appendEntries (savedEvents entries) s entries
      let rows := projection.snapshot :: projection.auxiliarySnapshots
      .ok ({ events := savedEvents entries, snapshot := projection.snapshot }, rows.foldl save appended)

/-- A later store: streams have grown and issued ids stay issued. -/
structure Le (s t : Store) : Prop where
  streams : ∀ stream, s.streams stream <+: t.streams stream
  issuedIds : ∀ id ∈ s.issuedIds, id ∈ t.issuedIds

/-! ## What a commit does -/

theorem streams_appendEntries (saved : List DomainEvent) (s : Store) (entries : List DocumentCommitBatchEntry)
    (stream : StreamName) :
    (appendEntries saved s entries).streams stream =
      s.streams stream ++ (entries.filter (fun entry => entry.stream == stream)).flatMap
        (fun _ => saved.filter (fun event => event.stream == stream)) := by
  unfold appendEntries
  induction entries generalizing s with
  | nil => simp
  | cons entry entries ih =>
    rw [List.foldl_cons, ih]
    by_cases heq : entry.stream = stream
    · subst heq
      simp [append]
    · simp [append, heq, Ne.symm heq]

@[simp] theorem appendEntries_documents (saved : List DomainEvent) (s : Store)
    (entries : List DocumentCommitBatchEntry) : (appendEntries saved s entries).documents = s.documents := by
  unfold appendEntries
  induction entries generalizing s with
  | nil => rfl
  | cons entry entries ih => rw [List.foldl_cons, ih]; rfl

@[simp] theorem appendEntries_issuedIds (saved : List DomainEvent) (s : Store)
    (entries : List DocumentCommitBatchEntry) : (appendEntries saved s entries).issuedIds = s.issuedIds := by
  unfold appendEntries
  induction entries generalizing s with
  | nil => rfl
  | cons entry entries ih => rw [List.foldl_cons, ih]; rfl

@[simp] theorem saveAll_streams (rows : List DocumentSnapshot) (s : Store) :
    (rows.foldl save s).streams = s.streams := by
  induction rows generalizing s with
  | nil => rfl
  | cons row rows ih => rw [List.foldl_cons, ih]; rfl

@[simp] theorem saveAll_issuedIds (rows : List DocumentSnapshot) (s : Store) :
    (rows.foldl save s).issuedIds = s.issuedIds := by
  induction rows generalizing s with
  | nil => rfl
  | cons row rows ih => rw [List.foldl_cons, ih]; rfl

/-- What a batch has done to the streams. -/
structure Appended (s : Store) (entries : List DocumentCommitBatchEntry) (t : Store) : Prop where
  versions : ∀ entry ∈ entries, (s.streams entry.stream).length = entry.expectedVersion
  streams : t.streams = (appendEntries (savedEvents entries) s entries).streams
  issuedIds : t.issuedIds = s.issuedIds

/-- What a commit that went through has done. -/
structure Committed (s : Store) (entries : List DocumentCommitBatchEntry)
    (project : List DomainEvent → Except FrameworkError DocumentCommitBatchProjection)
    (commit : DocumentCommit) (projection : DocumentCommitBatchProjection) (t : Store) : Prop
    extends Appended s entries t where
  projected : project (savedEvents entries) = .ok projection
  events : commit.events = savedEvents entries
  snapshot : commit.snapshot = projection.snapshot
  documents : t.documents = ((projection.snapshot :: projection.auxiliarySnapshots).foldl save s).documents

theorem checkVersions_ok {u : Unit} (h : s.checkVersions entries = .ok u) :
    ∀ entry ∈ entries, (s.streams entry.stream).length = entry.expectedVersion := by
  unfold checkVersions at h
  split at h
  · cases h
  · rename_i hversions
    intro entry hentry
    have hok := List.find?_eq_none.mp hversions entry hentry
    simpa using hok

theorem checkVersions_eq_ok (h : ∀ entry ∈ entries, (s.streams entry.stream).length = entry.expectedVersion) :
    s.checkVersions entries = .ok () := by
  have hnone : entries.find? (fun entry => (s.streams entry.stream).length != entry.expectedVersion) = none := by
    rw [List.find?_eq_none]
    intro entry hentry
    simpa using h entry hentry
  unfold checkVersions
  rw [hnone]

/-- A batch with a stream that is not at its expected version is a conflict. -/
theorem checkVersions_conflict (hentry : entry ∈ entries) (h : (s.streams entry.stream).length ≠ entry.expectedVersion) :
    ∃ error, s.checkVersions entries = .error error ∧ isDocumentConflictError error = true := by
  unfold checkVersions
  cases hfound : entries.find? (fun entry => (s.streams entry.stream).length != entry.expectedVersion) with
  | none =>
    have hversion := List.find?_eq_none.mp hfound entry hentry
    exact absurd (by simpa using hversion) h
  | some other => exact ⟨_, rfl, rfl⟩

/-- A commit whose streams are at their expected versions and whose rows can be projected goes through. -/
theorem commitBatch_eq_ok {project : List DomainEvent → Except FrameworkError DocumentCommitBatchProjection}
    {projection : DocumentCommitBatchProjection}
    (h : ∀ entry ∈ entries, (s.streams entry.stream).length = entry.expectedVersion)
    (hproject : project (savedEvents entries) = .ok projection) :
    ∃ t, s.commitBatch entries project =
      .ok ({ events := savedEvents entries, snapshot := projection.snapshot }, t) := by
  unfold commitBatch
  rw [checkVersions_eq_ok h]
  dsimp only
  rw [hproject]
  exact ⟨_, rfl⟩

/-- Rows do not depend on the streams they are saved beside. -/
theorem saveAll_documents_congr {rows : List DocumentSnapshot} (h : s.documents = t.documents) :
    (rows.foldl save s).documents = (rows.foldl save t).documents := by
  induction rows generalizing s t with
  | nil => exact h
  | cons row rows ih =>
    rw [List.foldl_cons, List.foldl_cons]
    apply ih
    simp only [save, h]

theorem commitBatch_ok {project : List DomainEvent → Except FrameworkError DocumentCommitBatchProjection}
    {commit : DocumentCommit} (h : s.commitBatch entries project = .ok (commit, t)) :
    ∃ projection, Committed s entries project commit projection t := by
  unfold commitBatch at h
  split at h
  · cases h
  · rename_i u hversions
    split at h
    · cases h
    · rename_i projection hprojected
      dsimp only at h
      rw [Except.ok.injEq, Prod.mk.injEq] at h
      obtain ⟨rfl, rfl⟩ := h
      refine ⟨projection, ⟨checkVersions_ok hversions, ?_, ?_⟩, hprojected, rfl, rfl, ?_⟩
      · rw [saveAll_streams]
      · rw [saveAll_issuedIds, appendEntries_issuedIds]
      · exact saveAll_documents_congr (appendEntries_documents _ _ _)

theorem Appended.stream (h : Appended s entries t) (stream : StreamName) :
    t.streams stream = s.streams stream ++ (entries.filter (fun entry => entry.stream == stream)).flatMap
      (fun _ => (savedEvents entries).filter (fun event => event.stream == stream)) := by
  rw [h.streams, streams_appendEntries]

theorem Appended.le (h : Appended s entries t) : s.Le t := by
  refine ⟨fun stream => ?_, fun id hid => ?_⟩
  · rw [h.stream]
    exact List.prefix_append _ _
  · rw [h.issuedIds]
    exact hid

theorem mem_sequenceEvents {n : Nat} {events : List NewDomainEvent} {event : DomainEvent}
    (h : event ∈ sequenceEvents n events) : event.toNewDomainEvent ∈ events := by
  induction events generalizing n with
  | nil => exact absurd h List.not_mem_nil
  | cons first events ih =>
    rcases List.mem_cons.mp h with rfl | htail
    · exact List.mem_cons_self
    · exact List.mem_cons_of_mem _ (ih htail)

/-- The entries of a batch write to their own streams. -/
def OwnStreams (entries : List DocumentCommitBatchEntry) : Prop :=
  ∀ entry ∈ entries, ∀ event ∈ entry.events, event.stream = entry.stream

/-- The saved events of a stream that one entry of the batch writes. -/
theorem savedEvents_filter {before after : List DocumentCommitBatchEntry} (hown : OwnStreams (before ++ entry :: after))
    (hbefore : ∀ other ∈ before, other.stream ≠ entry.stream) (hafter : ∀ other ∈ after, other.stream ≠ entry.stream) :
    (savedEvents (before ++ entry :: after)).filter (fun event => event.stream == entry.stream) =
      sequenceEvents entry.expectedVersion entry.events := by
  have hother : ∀ others : List DocumentCommitBatchEntry, (∀ other ∈ others, other.stream ≠ entry.stream) →
      (∀ other ∈ others, ∀ event ∈ other.events, event.stream = other.stream) →
      (savedEvents others).filter (fun event => event.stream == entry.stream) = [] := by
    intro others hne hothers
    rw [List.filter_eq_nil_iff]
    intro event hevent
    obtain ⟨other, hmem, hin⟩ := List.mem_flatMap.mp hevent
    have hstream : event.stream = other.stream := hothers other hmem _ (mem_sequenceEvents hin)
    rw [hstream]
    simpa using hne other hmem
  have hself : (sequenceEvents entry.expectedVersion entry.events).filter
      (fun event => event.stream == entry.stream) = sequenceEvents entry.expectedVersion entry.events := by
    rw [List.filter_eq_self]
    intro event hevent
    have hstream : event.stream = entry.stream :=
      hown entry (List.mem_append_right _ List.mem_cons_self) _ (mem_sequenceEvents hevent)
    simpa using hstream
  rw [savedEvents, List.flatMap_append, List.flatMap_cons, List.filter_append, List.filter_append, hself]
  have h1 := hother before hbefore (fun other hmem => hown other (List.mem_append_left _ hmem))
  have h2 := hother after hafter (fun other hmem =>
    hown other (List.mem_append_right _ (List.mem_cons_of_mem _ hmem)))
  rw [savedEvents] at h1 h2
  rw [h1, h2, List.nil_append, List.append_nil]

/-- A stream that no entry before and none after writes gets the events of the entry between them. -/
theorem Appended.stream_between {before after : List DocumentCommitBatchEntry}
    (h : Appended s (before ++ entry :: after) t) (hown : OwnStreams (before ++ entry :: after))
    (hbefore : ∀ other ∈ before, other.stream ≠ entry.stream) (hafter : ∀ other ∈ after, other.stream ≠ entry.stream) :
    t.streams entry.stream =
      s.streams entry.stream ++ sequenceEvents (s.streams entry.stream).length entry.events := by
  have hnone : ∀ others : List DocumentCommitBatchEntry, (∀ other ∈ others, other.stream ≠ entry.stream) →
      others.filter (fun other => other.stream == entry.stream) = [] := by
    intro others hne
    rw [List.filter_eq_nil_iff]
    intro other hmem
    simpa using hne other hmem
  rw [h.stream, savedEvents_filter hown hbefore hafter, List.filter_append, hnone before hbefore,
    List.filter_cons_of_pos (by simp), hnone after hafter, h.versions entry (by simp)]
  simp

/-- **A stream that one entry writes** gets that entry's events. -/
theorem Appended.stream_written (h : Appended s entries t) (hown : OwnStreams entries)
    (hdistinct : (entries.map (·.stream)).Nodup) (hentry : entry ∈ entries) :
    t.streams entry.stream =
      s.streams entry.stream ++ sequenceEvents (s.streams entry.stream).length entry.events := by
  obtain ⟨before, after, rfl⟩ := List.append_of_mem hentry
  rw [List.map_append, List.map_cons, List.nodup_append, List.nodup_cons] at hdistinct
  obtain ⟨-, ⟨hnotAfter, -⟩, hnotBefore⟩ := hdistinct
  refine h.stream_between hown ?_ ?_
  · exact fun other hother => hnotBefore _ (List.mem_map_of_mem hother) _ List.mem_cons_self
  · intro other hother heq
    exact hnotAfter (heq ▸ List.mem_map_of_mem hother)

theorem Appended.stream_unwritten (h : Appended s entries t) {stream : StreamName}
    (hne : ∀ entry ∈ entries, entry.stream ≠ stream) : t.streams stream = s.streams stream := by
  have hnone : entries.filter (fun entry => entry.stream == stream) = [] := by
    rw [List.filter_eq_nil_iff]
    intro entry hmem
    simpa using hne entry hmem
  rw [h.stream, hnone, List.flatMap_nil, List.append_nil]

end Store
