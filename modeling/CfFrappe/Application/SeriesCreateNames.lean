import CfFrappe.Application.DocumentStreams
import CfFrappe.Application.SeriesCreate
import CfFrappe.Core.NamingTurns

set_option autoImplicit false

/-! # Which name a creation takes

A creation that runs alone on a store (`reply`), with valid data (`ValidData`). The candidates of its series come
one by one; those before the first empty one (`FirstEmpty`) are taken by documents. Each turn scans behind the
candidate of the turn before (`turnState`). It steps over a candidate that a live document has, because the
document is found before the commit; it commits under an empty one (`createNamed_empty`); and it fails on one whose
document is deleted, because the commit then finds the stream where nobody has looked for a document
(`createNamed_deleted`). `create_stepsOver_iff` says when the creation comes to the first empty candidate.
-/

open Utf Naming Program

namespace SeriesCreate

/-! ## A creation that runs alone -/

/-- What the code around a creation answers, given the store. -/
structure Surroundings where
  nextId : List JsString → JsString
  validationIssues : Store → DocumentName → DocumentData → List ValidationIssue
  uniqueValueReservationWrites : Store → DocumentName → DocumentData → AtomicWrites
  automationRuns : Store → NewDomainEvent → DocumentData → AtomicWrites

/-- The ids of the events that are written. -/
def AtomicWrites.ids (writes : AtomicWrites) : List JsString :=
  writes.entries.flatMap (fun entry => entry.events.map (·.id))

/-- Ids have been handed out. -/
def issue (s : Store) (ids : List JsString) : Store := { s with issuedIds := ids ++ s.issuedIds }

/-- A commit that fails leaves the store as it was. -/
def commitReply (s : Store) : Except FrameworkError (DocumentCommit × Store) → Except FrameworkError DocumentCommit × Store
  | .ok (commit, t) => (.ok commit, t)
  | .error error => (.error error, s)

section

variable (parseDate : Timestamp → Option UtcDate)
variable (safeRegex : JsString → Bool → Except FrameworkError (JsString → Bool)) (around : Surroundings)

/-- What the calls of a creation return that runs alone, and what they leave behind. -/
def reply (s : Store) : (action : CreateAction) → action.Reply × Store
  | .scanNamingCandidates input => (scanNamingCandidates parseDate safeRegex input, s)
  | .readStream stream => (.ok (s.readStream stream none none), s)
  | .nextId _ => (around.nextId s.issuedIds, issue s [around.nextId s.issuedIds])
  | .validationIssues name data => (.ok (around.validationIssues s name data), s)
  | .planUniqueValueReservationWrites name data =>
    (.ok (around.uniqueValueReservationWrites s name data),
      issue s (around.uniqueValueReservationWrites s name data).ids)
  | .planAutomationRuns event data =>
    (.ok (around.automationRuns s event data), issue s (around.automationRuns s event data).ids)
  | .commitBatch entries project =>
    commitReply s (s.commitBatch entries project)

end

/-- The stream of a document of the series. -/
def SeriesDocument.streamOf (document : SeriesDocument) (name : DocumentName) : Option StreamName :=
  documentStream document.tenantId document.doctype.name name

/-- Writes that can be committed with a document: their streams are where they expect them and belong to no
document of the series, and their rows follow from any events that theirs are among. -/
structure AtomicWrites.Joins (writes : AtomicWrites) (document : SeriesDocument) (s : Store) : Prop where
  versions : ∀ entry ∈ writes.entries, (s.streams entry.stream).length = entry.expectedVersion
  own : ∀ entry ∈ writes.entries, ∀ event ∈ entry.events, event.stream = entry.stream
  apart : ∀ entry ∈ writes.entries, ∀ name, document.streamOf name ≠ some entry.stream
  rows : ∀ before after : List DomainEvent, (∀ event ∈ before ++ after, event.id ∉ writes.ids) →
    ∃ rows, writes.auxiliarySnapshots (before ++ Store.savedEvents writes.entries ++ after) = .ok rows

/-- The data are valid, whatever the name is, and ids are new. -/
structure ValidData (around : Surroundings) (document : SeriesDocument) (s : Store) : Prop where
  nextId : ∀ issuedIds, around.nextId issuedIds ∉ issuedIds
  issues : ∀ t, t.streams = s.streams → ∀ name,
    around.validationIssues t name (namingTargetData document.strategy document.data name) = []
  unique : ∀ t, t.streams = s.streams → ∀ name data,
    (around.uniqueValueReservationWrites t name data).Joins document s ∧
      ∀ id ∈ (around.uniqueValueReservationWrites t name data).ids, id ∉ t.issuedIds
  automation : ∀ t, t.streams = s.streams → ∀ event data,
    (around.automationRuns t event data).Joins document s ∧
      ∀ id ∈ (around.automationRuns t event data).ids, id ∉ t.issuedIds

/-! ## The counter and the candidates -/

/-- The stored value of a counter. -/
def storedValue (events : List DomainEvent) : Option Nat :=
  namingSeriesCurrentValue ((foldDocument events).bind (fun existing => Record.get existing.data (js "current")))

/-- The counter of the series. -/
structure CounterOf (parseDate : Timestamp → Option UtcDate) (document : SeriesDocument) (identity : SeriesIdentity)
    (counter : StreamName) : Prop where
  resolves : resolveNamingSeriesIdentity parseDate document.doctype document.strategy document.data
    { tenantId := document.tenantId, now := document.now } = .ok identity
  named : namingSeriesStream document.tenantId document.doctype.name identity.counter identity.scope = some counter

/-- The scan that the whole creation makes, turn by turn. -/
def wholeScan (document : SeriesDocument) (counterEvents : List DomainEvent) : ScanInput :=
  scanInput document (storedValue counterEvents) (start document)

/-- **The first empty candidate**: within the attempts of the series, all the candidates before it are taken by
documents, and its own stream is empty. -/
structure FirstEmpty (parseDate : Timestamp → Option UtcDate) (document : SeriesDocument) (s : Store)
    (input : ScanInput) (compiled : List PatternToken) (exclusions : List CompiledExclusion) (k : Nat)
    (taken : List NamingCandidate) (candidate : NamingCandidate) : Prop where
  within : k < document.strategy.maxAttempts.getD defaultMaxAttempts
  upTo : allowedAmong parseDate input compiled exclusions k = .ok taken
  next : allowedAmong parseDate input compiled exclusions (k + 1) = .ok (taken ++ [candidate])
  occupied : ∀ other ∈ taken, ∃ stream, document.streamOf other.name = some stream ∧ s.streams stream ≠ []
  empty : ∃ stream, document.streamOf candidate.name = some stream ∧ s.streams stream = []

/-- A document that is not deleted has the name. -/
def LiveName (document : SeriesDocument) (s : Store) (name : DocumentName) : Prop :=
  ∃ stream snapshot, document.streamOf name = some stream ∧ foldDocument (s.streams stream) = some snapshot ∧
    snapshot.docstatus ≠ .deleted

/-- **The run has committed a document under the name**: it returns the commit, and the stream of the document holds
its creation and nothing else. -/
def CommitsUnder (document : SeriesDocument) (run : Except FrameworkError (Option DocumentCommit) × Store)
    (name : DocumentName) : Prop :=
  ∃ commit stream event, run.1 = .ok (some commit) ∧ commit.snapshot.name = name ∧
    document.streamOf name = some stream ∧ run.2.streams stream = [event] ∧
    snapshotFromDocumentCreatedEvent event = .ok commit.snapshot

/-- What a creation finds: the counter is at the version of its fold, and a stream of the series that has an event
begins with a creation. Nothing is asked of the streams that a creation does not read. -/
structure StoreOK (document : SeriesDocument) (counter : StreamName) (s : Store) : Prop where
  counter : DocumentStream (s.streams counter)
  documents : ∀ {name stream}, document.streamOf name = some stream → Begun (s.streams stream)

/-! ## One turn -/

section

variable {parseDate : Timestamp → Option UtcDate}
variable {safeRegex : JsString → Bool → Except FrameworkError (JsString → Bool)} {around : Surroundings}
variable {document : SeriesDocument} {s t : Store}

/-- A full read of a store that has the streams of a well-formed one. -/
theorem readStream_whole (ht : t.streams = s.streams) {stream : StreamName} (hstream : Sequenced 0 (s.streams stream)) :
    t.readStream stream none none = s.streams stream := by
  have hsame : Sequenced 0 (t.streams stream) := by rwa [ht]
  rw [Store.readStream_all hsame, ht]

section

variable (parseDate safeRegex around)

theorem eval_readStream (stream : StreamName) (t : Store) :
    (readStream stream).eval (reply parseDate safeRegex around) t = (.ok (t.readStream stream none none), t) := rfl

theorem eval_validationIssues (name : DocumentName) (data : DocumentData) (t : Store) :
    (validationIssues name data).eval (reply parseDate safeRegex around) t =
      (.ok (around.validationIssues t name data), t) := rfl

theorem eval_scanCandidates (input : ScanInput) (t : Store) :
    (scanCandidates input).eval (reply parseDate safeRegex around) t =
      (scanNamingCandidates parseDate safeRegex input, t) := by
  show (Program.ofExcept (scanNamingCandidates parseDate safeRegex input)).eval _ _ = _
  exact eval_ofExcept _ _

end

/-- Planning a name: what the scan finds. -/
theorem planNamingSeriesWrite_eval {identity : SeriesIdentity} {counter : StreamName} {state : CreateState}
    (hs : StoreOK document counter s) (ht : t.streams = s.streams) (hcounter : CounterOf parseDate document identity counter)
    {candidate : NamingCandidate} {attempts : Nat}
    (hscan : scanNamingCandidates parseDate safeRegex (scanInput document (storedValue (s.streams counter)) state) =
      .ok { candidates := [candidate], attempts }) :
    (planNamingSeriesWrite parseDate document state).eval (reply parseDate safeRegex around) t =
      (.ok (plannedWrite document identity counter (foldDocument (s.streams counter))
        { candidates := [candidate], attempts } candidate (around.nextId t.issuedIds)),
        issue t [around.nextId t.issuedIds]) := by
  unfold planNamingSeriesWrite
  rw [eval_bind, eval_ofExcept, hcounter.resolves]
  dsimp only
  rw [eval_bind, eval_ofExcept, hcounter.named]
  show (readStream counter >>= _).eval _ _ = _
  rw [eval_bind, eval_readStream, readStream_whole ht hs.counter.sequenced]
  dsimp only
  rw [eval_bind, eval_scanCandidates]
  have hscan' : scanNamingCandidates parseDate safeRegex (scanInput document (namingSeriesCurrentValue
      ((foldDocument (s.streams counter)).bind (fun existing => Record.get existing.data (js "current")))) state) =
    .ok { candidates := [candidate], attempts } := hscan
  rw [hscan']
  rfl

/-- Planning a name fails when the scan does. -/
theorem planNamingSeriesWrite_error {identity : SeriesIdentity} {counter : StreamName} {state : CreateState}
    (hs : StoreOK document counter s) (ht : t.streams = s.streams) (hcounter : CounterOf parseDate document identity counter)
    {error : FrameworkError}
    (hscan : scanNamingCandidates parseDate safeRegex (scanInput document (storedValue (s.streams counter)) state) =
      .error error) :
    (planNamingSeriesWrite parseDate document state).eval (reply parseDate safeRegex around) t = (.error error, t) := by
  unfold planNamingSeriesWrite
  rw [eval_bind, eval_ofExcept, hcounter.resolves]
  dsimp only
  rw [eval_bind, eval_ofExcept, hcounter.named]
  show (readStream counter >>= _).eval _ _ = _
  rw [eval_bind, eval_readStream, readStream_whole ht hs.counter.sequenced]
  dsimp only
  rw [eval_bind, eval_scanCandidates]
  have hscan' : scanNamingCandidates parseDate safeRegex (scanInput document (namingSeriesCurrentValue
      ((foldDocument (s.streams counter)).bind (fun existing => Record.get existing.data (js "current")))) state) =
    .error error := hscan
  rw [hscan']

/-! ### The commit -/

theorem AtomicWrites.Joins.congr {writes : AtomicWrites} (h : writes.Joins document s) (ht : t.streams = s.streams) :
    writes.Joins document t := by
  refine ⟨?_, h.own, h.apart, h.rows⟩
  rw [ht]
  exact h.versions

/-- The saved event that an id belongs to. -/
theorem requireSavedEvent_eq {before after : List DomainEvent} {saved : DomainEvent} {id : JsString}
    (hbefore : ∀ event ∈ before, event.id ≠ id) (hid : saved.id = id) :
    requireSavedEvent (before ++ saved :: after) id = .ok saved := by
  have hfind : (before ++ saved :: after).find? (fun event => event.id == id) = some saved := by
    rw [List.find?_append]
    have hnone : before.find? (fun event => event.id == id) = none := by
      rw [List.find?_eq_none]
      intro event hevent
      simpa using hbefore event hevent
    rw [hnone, List.find?_cons_of_pos (by simpa using hid)]
    rfl
  unfold requireSavedEvent
  rw [hfind]

theorem mem_ids {writes : AtomicWrites} {event : DomainEvent} (h : event ∈ Store.savedEvents writes.entries) :
    event.id ∈ writes.ids := by
  obtain ⟨entry, hentry, hevent⟩ := List.mem_flatMap.mp h
  exact List.mem_flatMap.mpr ⟨entry, hentry, List.mem_map_of_mem (f := fun e : NewDomainEvent => e.id)
    (Store.mem_sequenceEvents hevent)⟩

/-- The counter of a planned name can be projected from a batch that begins with its event. -/
theorem projectNamingSeriesWrite_ok {identity : SeriesIdentity} {counter : StreamName}
    {existing : Option DocumentSnapshot} {scan : NamingCandidateScan} {candidate : NamingCandidate} {id : JsString}
    {n : Nat} {after : List DomainEvent} :
    ∃ row, projectNamingSeriesWrite (plannedWrite document identity counter existing scan candidate id)
      ((plannedWrite document identity counter existing scan candidate id).event.withSequence n :: after) = .ok row := by
  have hsaved : requireSavedEvent
      ((plannedWrite document identity counter existing scan candidate id).event.withSequence n :: after)
      (plannedWrite document identity counter existing scan candidate id).event.id =
        .ok ((plannedWrite document identity counter existing scan candidate id).event.withSequence n) :=
    @requireSavedEvent_eq [] after _ _ (by simp) rfl
  unfold projectNamingSeriesWrite
  rw [hsaved]
  cases existing with
  | none => exact ⟨_, rfl⟩
  | some existing => exact ⟨_, rfl⟩

/-- The counter is at the version that a planned name expects. -/
theorem counter_version {identity : SeriesIdentity} {counter : StreamName} (hcounter : DocumentStream (s.streams counter))
    {scan : NamingCandidateScan} {candidate : NamingCandidate} {id : JsString} :
    (s.streams counter).length =
      (plannedWrite document identity counter (foldDocument (s.streams counter)) scan candidate id).expectedVersion := by
  have hversion := hcounter.fold_version
  unfold NamingSeriesWrite.expectedVersion plannedWrite
  dsimp only
  rw [hversion]

/-- The counter is no document of the series. -/
theorem counter_apart (hname : isMetadataName document.doctype.name = true) {identity : SeriesIdentity}
    {counter : StreamName} (hcounter : CounterOf parseDate document identity counter) (name : DocumentName) :
    document.streamOf name ≠ some counter := by
  intro h
  have hsame := StreamRef.documentStream_injective h hcounter.named
  have hdoctype : document.doctype.name = js "__NamingSeries" := congrArg (fun key => key.2.1) hsame
  exact StreamRef.metadataName_ne hname (by decide) hdoctype

section

variable {write : NamingSeriesWrite} {stream : StreamName} {event : NewDomainEvent} {unique automation : AtomicWrites}

/-- A document and its counter, ready to be committed to a store. -/
structure Ready (document : SeriesDocument) (t : Store) (write : NamingSeriesWrite) (stream : StreamName)
    (event : NewDomainEvent) (unique automation : AtomicWrites) : Prop where
  counterOwn : write.event.stream = write.stream
  counterVersion : (t.streams write.stream).length = write.expectedVersion
  counterApart : write.stream ≠ stream
  counterRow : ∀ n after, ∃ row, projectNamingSeriesWrite write (write.event.withSequence n :: after) = .ok row
  own : event.stream = stream
  created : event.payload.isCreated = true
  named : document.streamOf event.documentName = some stream
  uniqueJoins : unique.Joins document t
  automationJoins : automation.Joins document t
  ids : write.event.id ≠ event.id
  uniqueIds : write.event.id ∉ unique.ids ∧ event.id ∉ unique.ids
  automationIds : ∀ id ∈ [write.event.id, event.id] ++ unique.ids, id ∉ automation.ids

theorem savedEvents_creationEntries (write : NamingSeriesWrite) (stream : StreamName) (event : NewDomainEvent)
    (unique automation : AtomicWrites) :
    Store.savedEvents (creationEntries write stream event unique automation) =
      [write.event.withSequence (write.expectedVersion + 1)] ++ Store.savedEvents unique.entries ++
        [event.withSequence 1] ++ Store.savedEvents automation.entries := by
  unfold creationEntries Store.savedEvents
  rw [List.flatMap_append, List.flatMap_append, List.flatMap_append]
  rfl

/-- An entry of a creation, by its place. -/
theorem mem_creationEntries {entry : DocumentCommitBatchEntry}
    (h : entry ∈ creationEntries write stream event unique automation) :
    entry = counterEntry write ∨ entry ∈ unique.entries ∨ entry = documentEntry stream event ∨
      entry ∈ automation.entries := by
  unfold creationEntries at h
  simpa [or_assoc] using h

/-- The rows of a creation follow from its saved events. -/
theorem projectCreation_ok (h : Ready document t write stream event unique automation) :
    ∃ projection, projectCreation write event unique automation
        (Store.savedEvents (creationEntries write stream event unique automation)) = .ok projection ∧
      projection.snapshot.name = event.documentName ∧
      snapshotFromDocumentCreatedEvent (event.withSequence 1) = .ok projection.snapshot := by
  -- the parts of a batch have different ids, so each finds its own events among the saved ones
  have hsaved : requireSavedEvent (Store.savedEvents (creationEntries write stream event unique automation)) event.id =
      .ok (event.withSequence 1) := by
    rw [savedEvents_creationEntries, List.append_assoc _ [event.withSequence 1]]
    refine requireSavedEvent_eq ?_ rfl
    intro other hother
    rcases List.mem_append.mp hother with hcounter | hunique
    · obtain rfl := List.mem_singleton.mp hcounter
      exact h.ids
    · intro heq
      exact h.uniqueIds.2 (heq ▸ mem_ids hunique)
  have hsnapshot : ∃ snapshot, snapshotFromDocumentCreatedEvent (event.withSequence 1) = .ok snapshot ∧
      snapshot.name = event.documentName := by
    have hcreated := h.created
    unfold snapshotFromDocumentCreatedEvent
    cases hpayload : event.payload with
    | documentCreated data docstatus =>
      have : (event.withSequence 1).payload = .documentCreated data docstatus := hpayload
      rw [this]
      exact ⟨_, rfl, rfl⟩
    | _ =>
      rw [hpayload] at hcreated
      exact absurd hcreated Bool.false_ne_true
  have hreservations : ∃ rows, unique.auxiliarySnapshots
      (Store.savedEvents (creationEntries write stream event unique automation)) = .ok rows := by
    rw [savedEvents_creationEntries, List.append_assoc _ [event.withSequence 1]]
    refine h.uniqueJoins.rows _ _ ?_
    intro other hother
    rcases List.mem_append.mp hother with hcounter | hother
    · obtain rfl := List.mem_singleton.mp hcounter
      exact h.uniqueIds.1
    · rcases List.mem_cons.mp hother with rfl | hautomation
      · exact h.uniqueIds.2
      · exact fun hunique => h.automationIds _ (List.mem_append_right _ hunique) (mem_ids hautomation)
  have hrows : ∃ rows, automation.auxiliarySnapshots
      (Store.savedEvents (creationEntries write stream event unique automation)) = .ok rows := by
    rw [savedEvents_creationEntries, ← List.append_nil (_ ++ Store.savedEvents automation.entries)]
    refine h.automationJoins.rows _ _ ?_
    intro other hother
    rw [List.append_nil] at hother
    refine h.automationIds _ ?_
    rcases List.mem_append.mp hother with hother | hdocument
    · rcases List.mem_append.mp hother with hcounter | hunique
      · obtain rfl := List.mem_singleton.mp hcounter
        exact List.mem_cons_self
      · exact List.mem_append_right _ (mem_ids hunique)
    · obtain rfl := List.mem_singleton.mp hdocument
      exact List.mem_append_left _ (List.mem_cons_of_mem _ List.mem_cons_self)
  obtain ⟨snapshot, hsnapshot, hname⟩ := hsnapshot
  obtain ⟨counter, hcounter⟩ := h.counterRow (write.expectedVersion + 1)
    (Store.savedEvents unique.entries ++ [event.withSequence 1] ++ Store.savedEvents automation.entries)
  obtain ⟨reservations, hreservations⟩ := hreservations
  obtain ⟨rows, hrows⟩ := hrows
  have hcounter : projectNamingSeriesWrite write
      (Store.savedEvents (creationEntries write stream event unique automation)) = .ok counter := by
    rw [savedEvents_creationEntries]
    exact hcounter
  refine ⟨{ snapshot, auxiliarySnapshots := [counter] ++ reservations ++ rows }, ?_, hname, hsnapshot⟩
  unfold projectCreation
  simp only [Bind.bind, Except.bind, hsaved, hsnapshot, hcounter, hreservations, hrows]
  rfl

/-- **A creation that is ready goes through**: the stream of the document holds its creation, and nothing else. -/
theorem creation_commits (h : Ready document t write stream event unique automation) (hempty : t.streams stream = []) :
    ∃ commit u, t.commitBatch (creationEntries write stream event unique automation)
        (projectCreation write event unique automation) = .ok (commit, u) ∧
      commit.snapshot.name = event.documentName ∧ u.streams stream = [event.withSequence 1] ∧
      snapshotFromDocumentCreatedEvent (event.withSequence 1) = .ok commit.snapshot := by
  have hversions : ∀ entry ∈ creationEntries write stream event unique automation,
      (t.streams entry.stream).length = entry.expectedVersion := by
    intro entry hentry
    rcases mem_creationEntries hentry with rfl | hunique | rfl | hautomation
    · exact h.counterVersion
    · exact h.uniqueJoins.versions entry hunique
    · exact congrArg List.length hempty
    · exact h.automationJoins.versions entry hautomation
  have hown : Store.OwnStreams (creationEntries write stream event unique automation) := by
    intro entry hentry
    rcases mem_creationEntries hentry with rfl | hunique | rfl | hautomation
    · intro other hother
      obtain rfl := List.mem_singleton.mp hother
      exact h.counterOwn
    · exact h.uniqueJoins.own entry hunique
    · intro other hother
      obtain rfl := List.mem_singleton.mp hother
      exact h.own
    · exact h.automationJoins.own entry hautomation
  -- no other entry writes to the stream of the document
  have hbefore : ∀ other ∈ [counterEntry write] ++ unique.entries, other.stream ≠ stream := by
    intro other hother
    rcases List.mem_append.mp hother with hcounter | hunique
    · obtain rfl := List.mem_singleton.mp hcounter
      exact h.counterApart
    · intro heq
      exact h.uniqueJoins.apart other hunique _ (heq ▸ h.named)
  have hafter : ∀ other ∈ automation.entries, other.stream ≠ stream := by
    intro other hautomation heq
    exact h.automationJoins.apart other hautomation _ (heq ▸ h.named)
  obtain ⟨projection, hprojection, hname, hsnapshot⟩ := projectCreation_ok h
  obtain ⟨u, hu⟩ := Store.commitBatch_eq_ok hversions hprojection
  obtain ⟨_, hcommitted⟩ := Store.commitBatch_ok hu
  refine ⟨_, u, hu, hname, ?_, hsnapshot⟩
  have hsplit : creationEntries write stream event unique automation =
      ([counterEntry write] ++ unique.entries) ++ documentEntry stream event :: automation.entries := by
    unfold creationEntries
    rw [List.append_assoc _ [documentEntry stream event]]
    rfl
  have happended := hcommitted.toAppended
  rw [hsplit] at happended hown
  calc u.streams stream
      = t.streams stream ++ sequenceEvents (t.streams stream).length [event] :=
        happended.stream_between hown hbefore hafter
    _ = [event.withSequence 1] := by
        rw [hempty]
        rfl

/-- A planned name comes to a commit that is ready. -/
theorem commitCreation_ready {identity : SeriesIdentity} {counter : StreamName} (hs : StoreOK document counter s)
    (ht : t.streams = s.streams) (hvalid : ValidData around document s)
    (hname : isMetadataName document.doctype.name = true) (hcounter : CounterOf parseDate document identity counter) {scan : NamingCandidateScan}
    {candidate : NamingCandidate} {id : JsString} (hid : id ∈ t.issuedIds)
    (hwrite : write = plannedWrite document identity counter (foldDocument (s.streams counter)) scan candidate id)
    (hstream : document.streamOf write.name = some stream) (data : DocumentData) :
    ∃ u event unique automation, u.streams = s.streams ∧ event.documentName = write.name ∧
      Ready document u write stream event unique automation ∧
      (commitCreation document write stream data).eval (reply parseDate safeRegex around) t =
        (.ok (commitReply u (u.commitBatch (creationEntries write stream event unique automation)
            (projectCreation write event unique automation))).1,
          (commitReply u (u.commitBatch (creationEntries write stream event unique automation)
            (projectCreation write event unique automation))).2) := by
  set unique := around.uniqueValueReservationWrites t write.name data with hunique
  set eventId := around.nextId (issue t unique.ids).issuedIds with heventId
  set event := documentCreateEvent document stream write.name data eventId with hevent
  set automation := around.automationRuns (issue (issue t unique.ids) [eventId]) event data with hautomation
  obtain ⟨huniqueJoins, huniqueNew⟩ := hvalid.unique t ht write.name data
  obtain ⟨hautomationJoins, hautomationNew⟩ :=
    hvalid.automation (issue (issue t unique.ids) [eventId]) ht event data
  have hnew : eventId ∉ unique.ids ++ t.issuedIds := hvalid.nextId _
  rw [List.mem_append, not_or] at hnew
  have hwriteId : write.event.id = id := by rw [hwrite]; rfl
  refine ⟨issue (issue (issue t unique.ids) [eventId]) automation.ids, event, unique, automation, ht, rfl, ?_, rfl⟩
  constructor
  case counterOwn => rw [hwrite]; rfl
  case counterVersion =>
    change (t.streams write.stream).length = _
    rw [ht, hwrite]
    exact counter_version hs.counter
  case counterApart =>
    intro heq
    refine counter_apart hname hcounter write.name (hstream.trans (congrArg some (heq.symm.trans ?_)))
    rw [hwrite]
    rfl
  case counterRow =>
    intro n after
    rw [hwrite]
    exact projectNamingSeriesWrite_ok
  case own => rfl
  case created => rfl
  case named => exact hstream
  case uniqueJoins => exact huniqueJoins.congr ht
  case automationJoins => exact hautomationJoins.congr ht
  case ids =>
    rw [hwriteId]
    intro heq
    have heq : id = eventId := heq
    exact hnew.2 (heq ▸ hid)
  case uniqueIds =>
    rw [hwriteId]
    exact ⟨fun hmem => huniqueNew id hmem hid, hnew.1⟩
  case automationIds =>
    -- the ids of the runs were handed out last
    intro other hother hmem
    refine hautomationNew other hmem ?_
    rw [hwriteId] at hother
    change other ∈ [eventId] ++ (unique.ids ++ t.issuedIds)
    rcases List.mem_append.mp hother with hother | hother
    · rcases List.mem_cons.mp hother with rfl | hother
      · exact List.mem_append_right _ (List.mem_append_right _ hid)
      · exact List.mem_append_left _ hother
    · exact List.mem_append_right _ (List.mem_append_left _ hother)

/-! ### Behind the name -/

section

variable {state : CreateState} {events : List DomainEvent}

/-- With valid data, a turn goes on with the stream of its name. -/
theorem createNamed_eval {counter : StreamName} (hs : StoreOK document counter s) (ht : t.streams = s.streams) (hvalid : ValidData around document s)
    (hstream : document.streamOf write.name = some stream) :
    (createNamed document state write).eval (reply parseDate safeRegex around) t =
      (createUnder document state write stream (s.streams stream)).eval (reply parseDate safeRegex around) t := by
  unfold createNamed
  rw [eval_bind, eval_validationIssues, hvalid.issues t ht]
  dsimp only
  rw [if_neg (by decide), eval_bind, eval_ofExcept]
  have hnamed : documentStream document.tenantId document.doctype.name write.name = some stream := hstream
  rw [hnamed]
  show (readStream stream >>= _).eval _ _ = _
  rw [eval_bind, eval_readStream, readStream_whole ht (hs.documents hstream).sequenced]

/-- **A live document is stepped over**, as long as there are attempts left. -/
theorem createUnder_live {snapshot : DocumentSnapshot} (hfold : foldDocument events = some snapshot)
    (hlive : snapshot.docstatus ≠ .deleted) (hleft : 0 < state.remaining - write.candidateAttempts) :
    (createUnder document state write stream events).eval (reply parseDate safeRegex around) t =
      (.ok (.inl { remaining := state.remaining - write.candidateAttempts, occupied := some write.next }), t) := by
  have hunavailable : ∃ message, ensureDocumentCreateAvailable document.doctype.name write.name (foldDocument events) =
      .error (.conflict message) := by
    have hstatus : (some snapshot).all (fun existing => existing.docstatus == .deleted) = false := by simpa using hlive
    unfold ensureDocumentCreateAvailable
    rw [hfold, hstatus]
    exact ⟨_, rfl⟩
  obtain ⟨message, hunavailable⟩ := hunavailable
  unfold createUnder
  rw [hunavailable]
  dsimp only
  rw [if_pos (by rw [Bool.and_eq_true, decide_eq_true_eq]; exact ⟨rfl, hleft⟩)]
  rfl

/-- The last sequence of a stream is its length. -/
theorem lastSequence_eq {n : Nat} {events : List DomainEvent} (h : Sequenced n events) (hne : events ≠ []) :
    (events.getLast?.map (·.sequence)).getD 0 = n + events.length := by
  induction events generalizing n with
  | nil => exact absurd rfl hne
  | cons event events ih =>
    cases events with
    | nil => exact h.1
    | cons next events =>
      have hlength : (event :: next :: events).length = (next :: events).length + 1 := List.length_cons
      rw [List.getLast?_cons_cons, ih h.2 (List.cons_ne_nil _ _), hlength]
      omega

/-- A commit that fails on a deleted document is no naming conflict: the counter is where the plan expects it, and
no live document has the name. -/
theorem namingConflictDisposition_deleted {identity : SeriesIdentity} {counter : StreamName}
    (hs : StoreOK document counter s) {scan : NamingCandidateScan} {candidate : NamingCandidate} {id : JsString}
    (hwrite : write = plannedWrite document identity counter (foldDocument (s.streams counter)) scan candidate id)
    (hstream : document.streamOf write.name = some stream) {snapshot : DocumentSnapshot} {u : Store}
    (hu : u.streams = s.streams) (hfold : foldDocument (s.streams stream) = some snapshot)
    (hdeleted : snapshot.docstatus = .deleted) (error : FrameworkError) :
    (namingConflictDisposition write stream error).eval (reply parseDate safeRegex around) u = (.ok none, u) := by
  have hlast : (((s.streams counter).getLast?).map (·.sequence)).getD 0 = write.expectedVersion := by
    rw [hwrite, ← counter_version hs.counter]
    by_cases hempty : s.streams counter = []
    · rw [hempty]
      rfl
    · rw [lastSequence_eq hs.counter.sequenced hempty, Nat.zero_add]
  have hcounterStream : write.stream = counter := by
    rw [hwrite]
    rfl
  have hstatus : (some snapshot).any (fun document => document.docstatus != .deleted) = false := by simpa using hdeleted
  unfold namingConflictDisposition
  split_ifs
  · rw [eval_bind, eval_readStream, hcounterStream, readStream_whole hu hs.counter.sequenced]
    dsimp only
    rw [hlast, if_neg (by simp), eval_bind, eval_readStream, readStream_whole hu (hs.documents hstream).sequenced]
    dsimp only
    rw [hfold, hstatus]
    rfl
  · rfl

section

variable {identity : SeriesIdentity} {counter : StreamName} (hs : StoreOK document counter s)
variable (ht : t.streams = s.streams) (hvalid : ValidData around document s)
variable (hname : isMetadataName document.doctype.name = true)
variable (hcounter : CounterOf parseDate document identity counter) {scan : NamingCandidateScan}
variable {candidate : NamingCandidate} {id : JsString} (hid : id ∈ t.issuedIds)
variable (hwrite : write = plannedWrite document identity counter (foldDocument (s.streams counter)) scan candidate id)
variable (hstream : document.streamOf write.name = some stream)

include hs ht hvalid hname hcounter hid hwrite hstream

/-- **An empty stream gets the document.** -/
theorem createUnder_empty (hempty : s.streams stream = []) :
    ∃ commit u event, (createUnder document state write stream []).eval (reply parseDate safeRegex around) t =
        (.ok (.inr commit), u) ∧ commit.snapshot.name = write.name ∧ u.streams stream = [event] ∧
      snapshotFromDocumentCreatedEvent event = .ok commit.snapshot := by
  obtain ⟨u, event, unique, automation, hu, hdocument, hready, heval⟩ :=
    commitCreation_ready hs ht hvalid hname hcounter hid hwrite hstream
      (namingTargetData document.strategy document.data write.name)
  obtain ⟨commit, v, hcommit, hcommitName, hwritten, hsnapshot⟩ := creation_commits hready (by rw [hu, hempty])
  refine ⟨commit, v, _, ?_, hcommitName.trans hdocument, hwritten, hsnapshot⟩
  unfold createUnder
  show (commitCreation _ _ _ _ >>= _).eval _ _ = _
  rw [eval_bind, heval, hcommit]
  rfl

/-- **A deleted document stops the creation**: no document is found before the commit, the stream makes the commit
a conflict, and the conflict is not taken for one of names. -/
theorem createUnder_deleted {snapshot : DocumentSnapshot} (hne : s.streams stream ≠ [])
    (hfold : foldDocument (s.streams stream) = some snapshot) (hdeleted : snapshot.docstatus = .deleted) :
    ∃ error u, (createUnder document state write stream (s.streams stream)).eval (reply parseDate safeRegex around) t =
      (.error error, u) := by
  obtain ⟨u, event, unique, automation, hu, hdocument, hready, heval⟩ :=
    @commitCreation_ready parseDate safeRegex around document s t write stream identity counter hs ht hvalid hname
      hcounter scan candidate id hid hwrite hstream (namingTargetData document.strategy document.data write.name)
  have havailable : ensureDocumentCreateAvailable document.doctype.name write.name (foldDocument (s.streams stream)) =
      .ok () := by
    have hstatus : (some snapshot).all (fun existing => existing.docstatus == .deleted) = true := by simpa using hdeleted
    unfold ensureDocumentCreateAvailable
    rw [hfold, hstatus]
    rfl
  -- the document is expected to be new
  have hentry : documentEntry stream event ∈ creationEntries write stream event unique automation := by
    unfold creationEntries
    simp
  have hversion : (u.streams (documentEntry stream event).stream).length ≠ (documentEntry stream event).expectedVersion := by
    change (u.streams stream).length ≠ 0
    rw [hu]
    exact fun hlength => hne (List.length_eq_zero_iff.mp hlength)
  obtain ⟨error, hversions, -⟩ := Store.checkVersions_conflict hentry hversion
  have hcommit : u.commitBatch (creationEntries write stream event unique automation)
      (projectCreation write event unique automation) = .error error := by
    unfold Store.commitBatch
    rw [hversions]
  refine ⟨error, u, ?_⟩
  unfold createUnder
  rw [havailable]
  show (commitCreation _ _ _ _ >>= _).eval _ _ = _
  rw [eval_bind, heval, hcommit]
  show (namingConflictDisposition _ _ _ >>= _).eval _ u = _
  rw [eval_bind, namingConflictDisposition_deleted hs hwrite hstream hu hfold hdeleted]
  rfl

end

end

end

/-! ## The turns -/

/-- A turn plans a name and goes on with its stream. -/
theorem createTurn_eval {identity : SeriesIdentity} {counter stream : StreamName} {state : CreateState}
    (hs : StoreOK document counter s) (ht : t.streams = s.streams) (hvalid : ValidData around document s)
    (hcounter : CounterOf parseDate document identity counter) {candidate : NamingCandidate} {attempts : Nat}
    (hscan : scanNamingCandidates parseDate safeRegex (scanInput document (storedValue (s.streams counter)) state) =
      .ok { candidates := [candidate], attempts })
    (hstream : document.streamOf candidate.name = some stream) :
    (createTurn parseDate document state).eval (reply parseDate safeRegex around) t =
      (createUnder document state (plannedWrite document identity counter (foldDocument (s.streams counter))
        { candidates := [candidate], attempts } candidate (around.nextId t.issuedIds)) stream (s.streams stream)).eval
          (reply parseDate safeRegex around) (issue t [around.nextId t.issuedIds]) := by
  unfold createTurn
  rw [eval_bind, planNamingSeriesWrite_eval hs ht hcounter hscan]
  exact createNamed_eval hs ht hvalid hstream

/-- The state of the loop behind the first candidates. -/
def turnState (document : SeriesDocument) (input : ScanInput) (j : Nat) : CreateState where
  remaining := (start document).remaining - j
  occupied := if j = 0 then none else some (input.term (j - 1))

/-- The state behind a candidate that is occupied. -/
theorem turnState_behind (input : ScanInput) {j a : Nat} (hja : j ≤ a + 1) {value : Nat} (hvalue : value = input.term a) :
    ({ remaining := (turnState document input j).remaining - (a + 1 - j), occupied := some value } : CreateState) =
      turnState document input (a + 1) := by
  unfold turnState
  rw [if_neg (Nat.succ_ne_zero a), hvalue]
  have hremaining : (start document).remaining - j - (a + 1 - j) = (start document).remaining - (a + 1) := by omega
  dsimp only
  rw [hremaining]
  rfl

/-- A turn scans behind the candidates of the turns before it. -/
theorem scanInput_turnState (counterEvents : List DomainEvent) (j : Nat) :
    scanInput document (storedValue counterEvents) (turnState document (wholeScan document counterEvents) j) =
      (wholeScan document counterEvents).behind j := by
  have hcurrent : currentValue (storedValue counterEvents)
      (turnState document (wholeScan document counterEvents) j).occupied =
        ((wholeScan document counterEvents).behind j).current := by
    unfold turnState ScanInput.behind
    dsimp only
    by_cases hj : j = 0
    · rw [if_pos hj, if_pos hj]
      rfl
    · rw [if_neg hj, if_neg hj]
      cases hstored : storedValue counterEvents with
      | none => rfl
      | some stored =>
        -- the occupied value is behind the stored one
        have hfirst : (wholeScan document counterEvents).first = stored + (wholeScan document counterEvents).step := by
          unfold ScanInput.first
          have : (wholeScan document counterEvents).current = some stored := by
            unfold wholeScan scanInput
            rw [hstored]
            rfl
          rw [this]
        have hle : stored ≤ (wholeScan document counterEvents).term (j - 1) := by
          unfold ScanInput.term
          omega
        exact congrArg some (Nat.max_eq_right hle)
  unfold scanInput
  rw [hcurrent]
  rfl

section

variable {turns : Nat} {state next : CreateState} {u : Store}

theorem createLoop_error (hleft : state.remaining ≠ 0) {error : FrameworkError}
    (hturn : (createTurn parseDate document state).eval (reply parseDate safeRegex around) t = (.error error, u)) :
    (createLoop parseDate document (turns + 1) state).eval (reply parseDate safeRegex around) t = (.error error, u) := by
  unfold createLoop
  rw [if_neg hleft, eval_bind, hturn]

theorem createLoop_inl (hleft : state.remaining ≠ 0)
    (hturn : (createTurn parseDate document state).eval (reply parseDate safeRegex around) t = (.ok (.inl next), u)) :
    (createLoop parseDate document (turns + 1) state).eval (reply parseDate safeRegex around) t =
      (createLoop parseDate document turns next).eval (reply parseDate safeRegex around) u := by
  rw [createLoop, if_neg hleft, eval_bind, hturn]

theorem createLoop_inr (hleft : state.remaining ≠ 0) {commit : DocumentCommit}
    (hturn : (createTurn parseDate document state).eval (reply parseDate safeRegex around) t = (.ok (.inr commit), u)) :
    (createLoop parseDate document (turns + 1) state).eval (reply parseDate safeRegex around) t =
      (.ok (some commit), u) := by
  rw [createLoop, if_neg hleft, eval_bind, hturn]
  rfl

end

/-! ## The run -/

theorem not_commitsUnder_error {error : FrameworkError} {u : Store} {name : DocumentName} :
    ¬CommitsUnder document (.error error, u) name := by
  rintro ⟨commit, stream, event, h, -⟩
  cases h

section

variable {compiled : List PatternToken} {exclusions : List CompiledExclusion}
variable {identity : SeriesIdentity} {counter : StreamName} {k : Nat} {taken : List NamingCandidate}
variable {candidate : NamingCandidate}

/-- The scan of a turn: the next candidate, if the value behind it is a safe integer. -/
theorem turn_scan (hseries : NormalizedSeries safeRegex document.doctype document.strategy compiled exclusions)
    {j a : Nat} {before : List NamingCandidate} {next : NamingCandidate} (hja : j ≤ a)
    (ha : a < document.strategy.maxAttempts.getD defaultMaxAttempts)
    (hbefore : allowedAmong parseDate (wholeScan document (s.streams counter)) compiled exclusions j = .ok before)
    (hlast : allowedAmong parseDate (wholeScan document (s.streams counter)) compiled exclusions a = .ok before)
    (hnext : allowedAmong parseDate (wholeScan document (s.streams counter)) compiled exclusions (a + 1) =
      .ok (before ++ [next])) :
    if (wholeScan document (s.streams counter)).term (a + 1) ≤ maxSafeInteger then
      scanNamingCandidates parseDate safeRegex (scanInput document (storedValue (s.streams counter))
        (turnState document (wholeScan document (s.streams counter)) j)) =
          .ok { candidates := [next], attempts := a + 1 - j }
    else ∃ error, scanNamingCandidates parseDate safeRegex (scanInput document (storedValue (s.streams counter))
        (turnState document (wholeScan document (s.streams counter)) j)) = .error error := by
  rw [scanInput_turnState]
  exact scan_next hseries rfl (Nat.le_refl _) hja ha hbefore hlast hnext

variable (hs : StoreOK document counter s) (hvalid : ValidData around document s)
variable (hname : isMetadataName document.doctype.name = true)
variable (hseries : NormalizedSeries safeRegex document.doctype document.strategy compiled exclusions)
variable (hcounter : CounterOf parseDate document identity counter)
variable (hfirst : FirstEmpty parseDate document s (wholeScan document (s.streams counter)) compiled exclusions k taken
  candidate)

include hs hvalid hname hseries hcounter hfirst

/-- From the state behind the first `j` candidates on, the run steps over the candidates that are left. -/
theorem createLoop_commitsUnder_iff {rest before : List NamingCandidate} {j turns : Nat} (ht : t.streams = s.streams)
    (hj : j ≤ k) (hbefore : allowedAmong parseDate (wholeScan document (s.streams counter)) compiled exclusions j =
      .ok before) (hrest : taken = before ++ rest)
    (hturns : document.strategy.maxAttempts.getD defaultMaxAttempts - j < turns) :
    CommitsUnder document ((createLoop parseDate document turns
        (turnState document (wholeScan document (s.streams counter)) j)).eval (reply parseDate safeRegex around) t)
        candidate.name ↔
      (∀ other ∈ rest, LiveName document s other.name) ∧
        (wholeScan document (s.streams counter)).term (k + 1) ≤ maxSafeInteger := by
  have hwithin := hfirst.within
  obtain ⟨turns, rfl⟩ : ∃ more, turns = more + 1 := ⟨turns - 1, by omega⟩
  have hleft : (turnState document (wholeScan document (s.streams counter)) j).remaining ≠ 0 := by
    change document.strategy.maxAttempts.getD defaultMaxAttempts - j ≠ 0
    omega
  induction rest generalizing before j turns t with
  | nil =>
    -- the next candidate is the first empty one
    rw [List.append_nil] at hrest
    subst hrest
    have hscan := turn_scan hseries hj hwithin hbefore hfirst.upTo hfirst.next
    split_ifs at hscan with hsafe
    · obtain ⟨stream, hstream, hempty⟩ := hfirst.empty
      obtain ⟨commit, u, event, heval, hcommitName, hwritten, hsnapshot⟩ :=
        @createUnder_empty parseDate safeRegex around document s (issue t [around.nextId t.issuedIds]) _ stream
          (turnState document (wholeScan document (s.streams counter)) j) identity counter hs ht hvalid hname hcounter
          _ candidate _ List.mem_cons_self rfl hstream hempty
      have hturn := createTurn_eval hs ht hvalid hcounter hscan hstream
      rw [hempty, heval] at hturn
      rw [createLoop_inr hleft hturn]
      constructor
      · exact fun _ => ⟨fun other hother => absurd hother List.not_mem_nil, hsafe⟩
      · exact fun _ => ⟨commit, stream, event, rfl, hcommitName, hstream, hwritten, hsnapshot⟩
    · obtain ⟨error, hscan⟩ := hscan
      have hturn : (createTurn parseDate document (turnState document (wholeScan document (s.streams counter)) j)).eval
          (reply parseDate safeRegex around) t = (.error error, t) := by
        unfold createTurn
        rw [eval_bind, planNamingSeriesWrite_error hs ht hcounter hscan]
      rw [createLoop_error hleft hturn]
      constructor
      · exact fun h => absurd h not_commitsUnder_error
      · exact fun h => absurd h.2 hsafe
  | cons next rest ih =>
    -- a document has the next candidate
    have hmem : next ∈ taken := by
      rw [hrest]
      simp
    rcases next_allowed hj hbefore hfirst.upTo with hnone | ⟨a, candidate', hja, hak, hvalue, hlast, hnext⟩
    · rw [hrest] at hnone
      simp at hnone
    obtain rfl : candidate' = next := by
      obtain ⟨upTo, hupTo, hprefix⟩ := allowedAmong_prefix (Nat.succ_le_of_lt hak) hfirst.upTo
      rw [hnext] at hupTo
      rw [← Except.ok.inj hupTo, hrest, List.prefix_append_right_inj] at hprefix
      exact (List.cons_prefix_cons.mp hprefix).1
    have hsafe : (wholeScan document (s.streams counter)).term (a + 1) ≤ maxSafeInteger :=
      (term_mono (Nat.succ_le_of_lt hak)).trans (term_safe hfirst.next)
    have hscan := turn_scan hseries hja (hak.trans hwithin) hbefore hlast hnext
    rw [if_pos hsafe] at hscan
    obtain ⟨stream, hstream, hne⟩ := hfirst.occupied candidate' hmem
    have hturn := createTurn_eval hs ht hvalid hcounter hscan hstream
    obtain ⟨snapshot, hfold⟩ := (hs.documents hstream).fold_some hne
    by_cases hdeleted : snapshot.docstatus = .deleted
    · obtain ⟨error, u, heval⟩ :=
        @createUnder_deleted parseDate safeRegex around document s (issue t [around.nextId t.issuedIds]) _ stream
          (turnState document (wholeScan document (s.streams counter)) j) identity counter hs ht hvalid hname hcounter
          _ candidate' _ List.mem_cons_self rfl hstream snapshot hne hfold hdeleted
      rw [heval] at hturn
      rw [createLoop_error hleft hturn]
      constructor
      · exact fun h => absurd h not_commitsUnder_error
      · rintro ⟨hlive, -⟩
        obtain ⟨stream', snapshot', hstream', hfold', hlive⟩ := hlive candidate' List.mem_cons_self
        rw [hstream] at hstream'
        cases hstream'
        rw [hfold] at hfold'
        cases hfold'
        exact absurd hdeleted hlive
    · have hremaining : 0 < (turnState document (wholeScan document (s.streams counter)) j).remaining - (a + 1 - j) := by
        change 0 < document.strategy.maxAttempts.getD defaultMaxAttempts - j - (a + 1 - j)
        omega
      rw [createUnder_live hfold hdeleted hremaining] at hturn
      have hstate := @turnState_behind document (wholeScan document (s.streams counter)) j a (Nat.le_succ_of_le hja) _ hvalue
      rw [createLoop_inl hleft (hturn.trans (congrArg (fun state => (Except.ok (Sum.inl state), _)) hstate))]
      obtain ⟨turns, rfl⟩ : ∃ more, turns = more + 1 := ⟨turns - 1, by omega⟩
      have hrun := ih (t := issue t [around.nextId t.issuedIds]) ht (Nat.succ_le_of_lt hak) hnext
        (by rw [hrest, List.append_assoc]; rfl) turns (by omega) (by
          change document.strategy.maxAttempts.getD defaultMaxAttempts - (a + 1) ≠ 0
          omega)
      refine hrun.trans ?_
      rw [List.forall_mem_cons]
      have hnextLive : LiveName document s candidate'.name := ⟨stream, snapshot, hstream, hfold, hdeleted⟩
      constructor
      · exact fun h => ⟨⟨hnextLive, h.1⟩, h.2⟩
      · exact fun h => ⟨h.1.2, h.2⟩

/-- **A creation steps over the names of a series** up to the first empty one exactly when no document there is
deleted, and the value behind the empty one is a safe integer. -/
theorem create_stepsOver_iff {turns : Nat}
    (hturns : document.strategy.maxAttempts.getD defaultMaxAttempts < turns) :
    CommitsUnder document
        ((createLoop parseDate document turns (start document)).eval (reply parseDate safeRegex around) s) candidate.name ↔
      (∀ other ∈ taken, LiveName document s other.name) ∧
        (wholeScan document (s.streams counter)).term (k + 1) ≤ maxSafeInteger :=
  createLoop_commitsUnder_iff hs hvalid hname hseries hcounter hfirst rfl (Nat.zero_le k) rfl (List.nil_append _).symm
    hturns

end

end

/-! ### A series with a name from before -/

/-- A series of numbers. -/
def numbers : SeriesDocument where
  actorId := js "u"
  tenantId := js "t"
  doctype := { name := js "Q", fields := [] }
  strategy := { pattern := js "#" }
  data := []
  now := js "2024-01-01T00:00:00.000Z"

def numbersDate : Timestamp → Option UtcDate := fun _ => some ⟨2024, 1, 1⟩

def noPatterns : JsString → Bool → Except FrameworkError (JsString → Bool) := fun _ _ => .ok (fun _ => false)

/-- Nothing is wrong, nothing is unique, nothing runs; an id is longer than all the others together. -/
def plainSurroundings : Surroundings where
  nextId := fun issuedIds => List.replicate ((issuedIds.map List.length).sum + 1) 0x65
  validationIssues := fun _ _ _ => []
  uniqueValueReservationWrites := fun _ _ _ => { entries := [] }
  automationRuns := fun _ _ _ => { entries := [] }

/-- An event of the document `Q/1`. -/
def oldEvent (id : JsString) (payload : EventPayload) : NewDomainEvent :=
  { id, tenantId := js "t", stream := js "t:Q:1", type := js "QChanged", doctype := js "Q", documentName := js "1"
    actorId := js "u", occurredAt := js "2023-01-01T00:00:00.000Z", payload, metadata := [] }

def oldEvents : List DomainEvent := [(oldEvent (js "a") (.documentCreated [] .draft)).withSequence 1]

def deletedEvents : List DomainEvent := oldEvents ++ [(oldEvent (js "b") .documentDeleted).withSequence 2]

/-- The store in which the first number is taken. -/
def oldStore (events : List DomainEvent) : Store where
  streams := fun stream => if stream = js "t:Q:1" then events else []
  documents := fun tenantId doctype name =>
    if tenantId = js "t" ∧ doctype = js "Q" ∧ name = js "1" then foldDocument events else none
  issuedIds := events.map (·.id)

theorem plainSurroundings_valid (s : Store) : ValidData plainSurroundings numbers s := by
  have hjoins : ({ entries := [] } : AtomicWrites).Joins numbers s := by
    constructor
    case rows => exact fun _ _ _ => ⟨[], rfl⟩
    all_goals exact fun entry hentry => absurd hentry List.not_mem_nil
  constructor
  case nextId =>
    intro issuedIds hmem
    have hle : (plainSurroundings.nextId issuedIds).length ≤ (issuedIds.map List.length).sum :=
      List.le_sum_of_mem (List.mem_map_of_mem hmem)
    have hlength : (plainSurroundings.nextId issuedIds).length = (issuedIds.map List.length).sum + 1 :=
      List.length_replicate
    omega
  case issues => exact fun _ _ _ => rfl
  case unique => exact fun _ _ _ _ => ⟨hjoins, fun id hid => absurd hid List.not_mem_nil⟩
  case automation => exact fun _ _ _ _ => ⟨hjoins, fun id hid => absurd hid List.not_mem_nil⟩

theorem numbers_series : NormalizedSeries noPatterns numbers.doctype numbers.strategy [.sequence (some 1)] [] := by
  constructor
  all_goals first | decide | rfl

theorem numbers_counter : CounterOf numbersDate numbers
    { counter := js "#", scope := [], documentName := js "Q:#" } (js "t:__NamingSeries:Q%3A%23") :=
  ⟨rfl, by decide⟩

/-- The counter of the store has not been used yet. -/
theorem oldStore_ok {events : List DomainEvent} (h : Begun events) :
    StoreOK numbers (js "t:__NamingSeries:Q%3A%23") (oldStore events) := by
  constructor
  case counter => exact DocumentStream.nil
  case documents =>
    intro name stream _
    show Begun (if stream = js "t:Q:1" then events else [])
    split_ifs
    · exact h
    · exact DocumentStream.nil.toBegun

theorem oldEvents_begun : Begun oldEvents := by
  refine ⟨⟨rfl, trivial⟩, ?_⟩
  intro first rest heq
  rw [← (List.cons.inj heq).1]
  rfl

theorem deletedEvents_begun : Begun deletedEvents := by
  refine ⟨⟨rfl, rfl, trivial⟩, ?_⟩
  intro first rest heq
  rw [← (List.cons.inj heq).1]
  rfl

/-- The second number is the first empty one. -/
theorem numbers_firstEmpty {events : List DomainEvent} (hne : events ≠ []) :
    FirstEmpty numbersDate numbers (oldStore events) (wholeScan numbers []) [.sequence (some 1)] [] 1
      [{ value := 1, name := js "1" }] { value := 2, name := js "2" } := by
  constructor
  case within => decide
  case upTo => rfl
  case next => rfl
  case occupied =>
    intro other hother
    obtain rfl := List.mem_singleton.mp hother
    refine ⟨js "t:Q:1", by decide, ?_⟩
    change (if js "t:Q:1" = js "t:Q:1" then events else []) ≠ []
    rw [if_pos rfl]
    exact hne
  case empty => exact ⟨js "t:Q:2", by decide, rfl⟩

/-- Over a live document, the series goes on to the second number. -/
theorem create_stepsOver_iff_live :
    CommitsUnder numbers ((createLoop numbersDate numbers 10001 (start numbers)).eval
        (reply numbersDate noPatterns plainSurroundings) (oldStore oldEvents)) (js "2") ↔
      (∀ other ∈ [({ value := 1, name := js "1" } : NamingCandidate)], LiveName numbers (oldStore oldEvents) other.name) ∧
        (wholeScan numbers []).term 2 ≤ maxSafeInteger :=
  create_stepsOver_iff (oldStore_ok oldEvents_begun) (plainSurroundings_valid _) (by decide) numbers_series numbers_counter
    (numbers_firstEmpty (List.cons_ne_nil _ _)) (by decide)

/-- Over a deleted document, the creation fails, although the second number is empty. -/
theorem not_stepsOver_deleted :
    StoreOK numbers (js "t:__NamingSeries:Q%3A%23") (oldStore deletedEvents) ∧
      ValidData plainSurroundings numbers (oldStore deletedEvents) ∧
      FirstEmpty numbersDate numbers (oldStore deletedEvents) (wholeScan numbers []) [.sequence (some 1)] [] 1
        [{ value := 1, name := js "1" }] { value := 2, name := js "2" } ∧
      ¬CommitsUnder numbers ((createLoop numbersDate numbers 10001 (start numbers)).eval
        (reply numbersDate noPatterns plainSurroundings) (oldStore deletedEvents)) (js "2") := by
  have hfirst := numbers_firstEmpty (show deletedEvents ≠ [] from List.cons_ne_nil _ _)
  refine ⟨oldStore_ok deletedEvents_begun, plainSurroundings_valid _, hfirst, ?_⟩
  intro h
  have hrun := (createLoop_commitsUnder_iff (oldStore_ok deletedEvents_begun)
    (plainSurroundings_valid _) (by decide) numbers_series numbers_counter hfirst rfl (Nat.zero_le 1) rfl rfl
    (by decide)).mp h
  obtain ⟨stream, snapshot, hstream, hfold, hlive⟩ := hrun.1 _ List.mem_cons_self
  have hnamed : numbers.streamOf (js "1") = some (js "t:Q:1") := by decide
  rw [hnamed] at hstream
  cases hstream
  have hdeleted : foldDocument ((oldStore deletedEvents).streams (js "t:Q:1")) = foldDocument deletedEvents := by
    change foldDocument (if js "t:Q:1" = js "t:Q:1" then deletedEvents else []) = _
    rw [if_pos rfl]
  rw [hdeleted] at hfold
  cases hfold
  exact hlive rfl

end SeriesCreate
