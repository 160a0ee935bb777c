import CfFrappe.Application.DocumentStore

set_option autoImplicit false

/-! # Streams of documents

The stream of a document is empty, or begins with the creation of the document, and is numbered from 1 on (`Begun`).
Such a stream folds to a document as soon as it has an event: nothing that happens to a document makes the fold lose
it, a deletion included (`Begun.fold_some`).

When every later event changes the document (`DocumentStream`), the version of the fold is the length of the stream
(`DocumentStream.fold_version`), so that who has folded the stream knows the version to commit at. Events that change
nothing, such as the transitions of old installations, would leave the version behind.

A service that reads a stream reads all of it in order, whatever the order in which the store keeps the events
(`Store.readStream_all`), because a store numbers the events of a stream when it writes them.
-/

open Utf

def EventPayload.isCreated : EventPayload → Bool
  | .documentCreated _ _ => true
  | _ => false

/-- The payloads that change a document: the fold gives it their sequence as its version. -/
def EventPayload.changes : EventPayload → Bool
  | .documentCreated _ _ | .automationRun _ | .other _ _ => false
  | .workflowTransitioned workflow stateField action source target patch =>
    isCurrentWorkflowTransitionPayload (.workflowTransitioned workflow stateField action source target patch)
  | _ => true

/-- Events that are numbered from 1 on, the first of which creates a document. -/
structure Begun (events : List DomainEvent) : Prop where
  sequenced : Sequenced 0 events
  created : ∀ first rest, events = first :: rest → first.payload.isCreated = true

/-- The stream of a document that every event after the creation changes. -/
structure DocumentStream (events : List DomainEvent) : Prop extends Begun events where
  changes : ∀ first rest, events = first :: rest → ∀ event ∈ rest, event.payload.changes = true

/-! ## Folding a stream -/

/-- A creation folds to the document it creates, in the version of its sequence. -/
theorem foldEvent_created {event : DomainEvent} (h : event.payload.isCreated = true)
    (snapshot : Option DocumentSnapshot) :
    ∃ document, foldEvent snapshot event = some document ∧ document.version = event.sequence := by
  unfold foldEvent
  cases hpayload : event.payload with
  | documentCreated data docstatus => exact ⟨_, rfl, rfl⟩
  | _ => rw [hpayload] at h; exact absurd h Bool.false_ne_true

/-- A change folds to the same document in another version. -/
theorem foldEvent_changes {event : DomainEvent} (h : event.payload.changes = true) (snapshot : DocumentSnapshot) :
    ∃ document, foldEvent (some snapshot) event = some document ∧ document.version = event.sequence := by
  unfold foldEvent
  cases hpayload : event.payload with
  | documentCreated data docstatus => rw [hpayload] at h; exact absurd h Bool.false_ne_true
  | automationRun payload => rw [hpayload] at h; exact absurd h Bool.false_ne_true
  | other kind value => rw [hpayload] at h; exact absurd h Bool.false_ne_true
  | workflowTransitioned workflow stateField action source target patch =>
    rw [hpayload] at h
    have hcurrent : isCurrentWorkflowTransitionPayload
        (.workflowTransitioned workflow stateField action source target patch) = true := h
    simp only [hcurrent, if_true]
    exact ⟨_, rfl, rfl⟩
  | _ => exact ⟨_, rfl, rfl⟩

/-- No event makes the fold lose a document. -/
theorem foldEvent_isSome {snapshot : Option DocumentSnapshot} (h : snapshot.isSome = true) (event : DomainEvent) :
    (foldEvent snapshot event).isSome = true := by
  unfold foldEvent
  cases event.payload with
  | workflowTransitioned workflow stateField action source target patch =>
    dsimp only
    split_ifs
    · rwa [Option.isSome_map]
    · exact h
  | documentCreated data docstatus => rfl
  | automationRun payload => exact h
  | other kind value => exact h
  | _ => dsimp only; rwa [Option.isSome_map]

theorem foldl_isSome (events : List DomainEvent) {snapshot : Option DocumentSnapshot} (h : snapshot.isSome = true) :
    (events.foldl foldEvent snapshot).isSome = true := by
  induction events generalizing snapshot with
  | nil => exact h
  | cons event events ih => exact ih (foldEvent_isSome h event)

/-- Changes leave a document in the version of the last sequence. -/
theorem foldl_changes {n : Nat} {events : List DomainEvent} (hsequenced : Sequenced n events)
    (hchanges : ∀ event ∈ events, event.payload.changes = true) (snapshot : DocumentSnapshot)
    (hversion : snapshot.version = n) :
    ∃ document, events.foldl foldEvent (some snapshot) = some document ∧ document.version = n + events.length := by
  induction events generalizing n snapshot with
  | nil => exact ⟨snapshot, rfl, hversion⟩
  | cons event events ih =>
    obtain ⟨next, hnext, hnextVersion⟩ := foldEvent_changes (hchanges event List.mem_cons_self) snapshot
    have hrest : ∀ later ∈ events, later.payload.changes = true :=
      fun later hlater => hchanges later (List.mem_cons_of_mem _ hlater)
    obtain ⟨document, hfold, hdocument⟩ := ih hsequenced.2 hrest next (hnextVersion.trans hsequenced.1)
    refine ⟨document, ?_, ?_⟩
    · rw [List.foldl_cons, hnext, hfold]
    · rw [hdocument, List.length_cons]
      omega

/-- **A stream with an event folds to a document.** -/
theorem Begun.fold_some {events : List DomainEvent} (h : Begun events) (hne : events ≠ []) :
    ∃ document, foldDocument events = some document := by
  cases events with
  | nil => exact absurd rfl hne
  | cons first rest =>
    obtain ⟨created, hfirst, -⟩ := foldEvent_created (h.created first rest rfl) none
    have hsome : (rest.foldl foldEvent (some created)).isSome = true := foldl_isSome rest rfl
    obtain ⟨document, hdocument⟩ := Option.isSome_iff_exists.mp hsome
    refine ⟨document, ?_⟩
    rw [foldDocument, foldDocumentFrom_eq h.sequenced, List.foldl_cons, hfirst, hdocument]

namespace DocumentStream

variable {events : List DomainEvent}

theorem nil : DocumentStream [] := by
  constructor
  case toBegun => exact ⟨trivial, fun first rest heq => absurd heq.symm (List.cons_ne_nil _ _)⟩
  case changes => exact fun first rest heq => absurd heq.symm (List.cons_ne_nil _ _)

/-- **The version of the fold**, with 0 for no document, is the length of the stream. -/
theorem fold_version (h : DocumentStream events) : events.length = ((foldDocument events).map (·.version)).getD 0 := by
  cases events with
  | nil => rfl
  | cons first rest =>
    obtain ⟨created, hfirst, hversion⟩ := foldEvent_created (h.created first rest rfl) none
    obtain ⟨document, hfold, hdocument⟩ :=
      foldl_changes h.sequenced.2 (h.changes first rest rfl) created (hversion.trans h.sequenced.1)
    have hwhole : foldDocument (first :: rest) = some document := by
      rw [foldDocument, foldDocumentFrom_eq h.sequenced, List.foldl_cons, hfirst, hfold]
    rw [hwhole, List.length_cons, Option.map_some, Option.getD_some, hdocument]
    omega

end DocumentStream

/-! ## Reading a stream -/

theorem filter_payloadKinds_none (events : List DomainEvent) :
    events.filter (fun event => (none : Option (List JsString)).all (fun kinds => kinds.contains event.payload.kind)) =
      events := by
  rw [List.filter_eq_self]
  intro event _
  rfl

/-- A full read of a numbered stream is the stream. -/
theorem Store.readStream_all {s : Store} {stream : StreamName} (h : Sequenced 0 (s.streams stream)) :
    s.readStream stream none none = s.streams stream := by
  have hall : (s.streams stream).filter (fun event =>
      (none : Option Nat).all (fun minSequence => decide (minSequence ≤ event.sequence))) = s.streams stream := by
    rw [List.filter_eq_self]
    intro event _
    rfl
  rw [Store.readStream, filter_payloadKinds_none, hall, sortBySequence_eq h]

theorem map_id_sequenceEvents (n : Nat) (events : List NewDomainEvent) :
    (sequenceEvents n events).map (·.id) = events.map (·.id) := by
  induction events generalizing n with
  | nil => rfl
  | cons event events ih =>
    rw [sequenceEvents, List.map_cons, List.map_cons, ih]
    rfl
