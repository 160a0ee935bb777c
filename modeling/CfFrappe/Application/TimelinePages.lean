import CfFrappe.Application.DocumentHistory

set_option autoImplicit false

/-! # Timeline pages

A reader who follows `nextBeforeSequence` goes through the history of a document from its end. A page goes on only
when all the events that it has read are part of the history: a legacy transition among them makes the page look
like the last one, and what stands before it is never shown. So the pages make up the history exactly when there is
nothing of it before the first page with a legacy transition (`NothingBeforeLegacy`).
-/

open Utf

/-! ## Streams of a document -/

variable {events before segment after : List DomainEvent} {bound n : Nat} {beforeSequence : Option Rat}
variable {event : DomainEvent} {snapshot : DocumentSnapshot}

namespace Sequenced

theorem filter_upto (h : Sequenced 0 events) (k : Nat) :
    events.filter (fun event => decide (event.sequence ≤ k)) = events.take k := by
  have hsplit : Sequenced 0 (events.take k ++ events.drop k) := by rwa [List.take_append_drop]
  have hfirst : (events.take k).filter (fun event => decide (event.sequence ≤ k)) = events.take k := by
    rw [List.filter_eq_self]
    intro event hmem
    have hle := hsplit.left.le_length hmem
    have hlen := List.length_take_le k events
    rw [decide_eq_true_eq]
    omega
  have hlast : (events.drop k).filter (fun event => decide (event.sequence ≤ k)) = [] := by
    rw [List.filter_eq_nil_iff]
    intro event hmem
    have hlt := hsplit.right.lt hmem
    rw [decide_eq_true_eq]
    by_cases hk : k ≤ events.length
    · rw [List.length_take_of_le hk] at hlt
      omega
    · rw [List.drop_eq_nil_of_le (by omega)] at hmem
      exact absurd hmem List.not_mem_nil
  conv_lhs => rw [← List.take_append_drop k events]
  rw [List.filter_append, hfirst, hlast, List.append_nil]

theorem pairwise (h : Sequenced n events) : events.Pairwise (fun left right => left.sequence < right.sequence) := by
  induction events generalizing n with
  | nil => exact List.Pairwise.nil
  | cons event events ih =>
    refine List.Pairwise.cons ?_ (ih h.2)
    intro later hlater
    have hlt := h.2.lt hlater
    rw [h.1]
    omega

/-- What is left of a stream is in order already. -/
theorem sort_filter (h : Sequenced n events) (p : DomainEvent → Bool) :
    sortBySequence (events.filter p) = events.filter p := by
  have hordered : (events.filter p).Pairwise (fun left right => left.sequence < right.sequence) :=
    h.pairwise.sublist List.filter_sublist
  exact (hordered.imp (fun hlt => Nat.le_of_lt hlt)).insertionSort_eq

theorem take (h : Sequenced 0 events) (k : Nat) : Sequenced 0 (events.take k) := by
  have hsplit : Sequenced 0 (events.take k ++ events.drop k) := by rwa [List.take_append_drop]
  exact hsplit.left

end Sequenced

/-- Reading up to a sequence. -/
theorem readStream_upto (h : Sequenced 0 events) (k : Nat) :
    readStream events { maxSequence := some k } = events.take k := by
  have hall : events.filter (fun _ => true) = events := List.filter_true events
  simp only [readStream, Option.all_none, Option.all_some]
  rw [hall, h.filter_upto, sortBySequence_eq (h.take k)]

/-- Reading the last events up to a sequence. -/
theorem readStream_last (h : Sequenced 0 events) {k : Nat} (hk : k ≤ events.length) (limit : Nat) :
    readStream events { maxSequence := some k, limit := some limit } = (events.take k).drop (k - limit) := by
  have hall : events.filter (fun _ => true) = events := List.filter_true events
  simp only [readStream, Option.all_none, Option.all_some]
  rw [hall, h.filter_upto, sortBySequence_eq (h.take k), List.length_take_of_le hk]

theorem Sequenced.getElem?_sequence (h : Sequenced n events) {i : Nat} (hi : i < events.length) :
    events[i]?.map (·.sequence) = some (n + i + 1) := by
  induction events generalizing n i with
  | nil => exact absurd hi (Nat.not_lt_zero i)
  | cons event events ih =>
    cases i with
    | zero =>
      rw [List.getElem?_cons_zero, Option.map_some, h.1]
    | succ i =>
      rw [List.getElem?_cons_succ, ih h.2 (by simpa using hi)]
      congr 1
      omega

/-! ## Pages of a stream -/

/-- The events that a page reads: those it may show, and one more. -/
def pageWindow (events : List DomainEvent) (beforeSequence limit : Nat) : List DomainEvent :=
  (events.take beforeSequence).drop (beforeSequence - (limit + 1))

theorem filter_pageWindow (h : Sequenced 0 events) (beforeSequence limit : Nat) :
    sortBySequence ((pageWindow events beforeSequence limit).filter (fun event =>
        decide (event.sequence ≤ beforeSequence) && isCurrentDocumentHistoryEvent event)) =
      (pageWindow events beforeSequence limit).filter isCurrentDocumentHistoryEvent := by
  have htake := h.take beforeSequence
  have hsplit : Sequenced 0 ((events.take beforeSequence).take (beforeSequence - (limit + 1)) ++
      pageWindow events beforeSequence limit) := by rwa [pageWindow, List.take_append_drop]
  rw [hsplit.right.sort_filter]
  apply List.filter_congr
  intro event hmem
  have hle : event.sequence ≤ beforeSequence := by
    have hlength := htake.le_length (List.mem_of_mem_drop hmem)
    have hshort := List.length_take_le beforeSequence events
    omega
  rw [decide_eq_true hle, Bool.true_and]

theorem length_pageWindow {beforeSequence : Nat} (hle : beforeSequence ≤ events.length) (limit : Nat) :
    (pageWindow events beforeSequence limit).length = min beforeSequence (limit + 1) := by
  rw [pageWindow, List.length_drop, List.length_take_of_le hle]
  omega

/-- A page goes on when it has read one event more than it shows, and all are part of the history. -/
def PageGoesOn (events : List DomainEvent) (beforeSequence limit : Nat) : Prop :=
  limit + 1 ≤ beforeSequence ∧
    ∀ event ∈ pageWindow events beforeSequence limit, isCurrentDocumentHistoryEvent event = true

theorem selectDocumentTimelinePage_of_goesOn (h : Sequenced 0 events) {beforeSequence limit : Nat}
    (hle : beforeSequence ≤ events.length) (hon : PageGoesOn events beforeSequence limit) :
    selectDocumentTimelinePage (pageWindow events beforeSequence limit) beforeSequence limit =
      { visibleEvents := (events.take beforeSequence).drop (beforeSequence - limit)
        nextBeforeSequence := some (beforeSequence - limit) } := by
  obtain ⟨hroom, hcurrent⟩ := hon
  have hfilter : (pageWindow events beforeSequence limit).filter isCurrentDocumentHistoryEvent =
      pageWindow events beforeSequence limit := List.filter_eq_self.mpr hcurrent
  have hlength : (pageWindow events beforeSequence limit).length = limit + 1 := by
    rw [length_pageWindow hle]
    omega
  have hone : limit + 1 - limit = 1 := by omega
  have hfirst : (pageWindow events beforeSequence limit)[0]?.map (·.sequence) = some (beforeSequence - limit) := by
    rw [pageWindow, List.getElem?_drop, Nat.add_zero, (h.take beforeSequence).getElem?_sequence]
    · congr 1
      omega
    · rw [List.length_take_of_le hle]
      omega
  have hrest : (pageWindow events beforeSequence limit).drop 1 =
      (events.take beforeSequence).drop (beforeSequence - limit) := by
    rw [pageWindow, List.drop_drop]
    congr 1
    omega
  rw [selectDocumentTimelinePage, filter_pageWindow h, hfilter]
  rw [if_pos (by omega), hlength, hone, hfirst, hrest]

/-- The last page has no more events than it may show. -/
theorem length_filter_of_stops {beforeSequence limit : Nat} (hle : beforeSequence ≤ events.length)
    (hstop : ¬ PageGoesOn events beforeSequence limit) :
    ((pageWindow events beforeSequence limit).filter isCurrentDocumentHistoryEvent).length ≤ limit := by
  have hlength := length_pageWindow hle limit
  have hfilter := List.length_filter_le isCurrentDocumentHistoryEvent (pageWindow events beforeSequence limit)
  by_cases hroom : limit + 1 ≤ beforeSequence
  · -- one of the events that were read is not part of the history
    by_contra hmany
    have hall : ((pageWindow events beforeSequence limit).filter isCurrentDocumentHistoryEvent).length =
        (pageWindow events beforeSequence limit).length := by omega
    exact hstop ⟨hroom, List.length_filter_eq_length_iff.mp hall⟩
  · omega

theorem selectDocumentTimelinePage_of_stops (h : Sequenced 0 events) {beforeSequence limit : Nat}
    (hle : beforeSequence ≤ events.length) (hstop : ¬ PageGoesOn events beforeSequence limit) :
    selectDocumentTimelinePage (pageWindow events beforeSequence limit) beforeSequence limit =
      { visibleEvents := (pageWindow events beforeSequence limit).filter isCurrentDocumentHistoryEvent
        nextBeforeSequence := none } := by
  have hfew := length_filter_of_stops hle hstop
  rw [selectDocumentTimelinePage, filter_pageWindow h]
  rw [if_neg (by omega)]

/-! ## Legacy transitions -/

/-- The fold passes over a legacy transition. -/
theorem foldEvent_of_legacy (h : isCurrentDocumentHistoryEvent event = false) (snapshot : Option DocumentSnapshot) :
    foldEvent snapshot event = snapshot := by
  rw [isCurrentDocumentHistoryEvent, Bool.or_eq_false_iff, decide_eq_false_iff_not, not_not] at h
  obtain ⟨hkind, hlegacy⟩ := h
  unfold domainEventPayloadKind at hkind
  unfold foldEvent
  cases hpayload : event.payload with
  | workflowTransitioned => rw [hpayload] at hlegacy; simp [hlegacy]
  | automationRun => rfl
  | other => rfl
  | _ =>
    rw [hpayload, EventPayload.kind] at hkind
    exact absurd hkind (by decide)

/-- The events that a document stream holds, legacy ones included. -/
def isDocumentPayload : EventPayload → Bool
  | .automationRun _ => false
  | .other kind _ => kind = js "WorkflowTransitioned"
  | _ => true

/-- An event of the history of a document gives the document its version. -/
theorem version_foldEvent (hdocument : isDocumentPayload event.payload = true)
    (hcurrent : isCurrentDocumentHistoryEvent event = true) {before : Option DocumentSnapshot}
    {after : DocumentSnapshot} (h : foldEvent before event = some after) : after.version = event.sequence := by
  rw [isCurrentDocumentHistoryEvent, domainEventPayloadKind, Bool.or_eq_true, decide_eq_true_eq] at hcurrent
  have hchanged : ∀ change : DocumentSnapshot → DocumentSnapshot, before.map change = some after →
      (∀ current, (change current).version = event.sequence) → after.version = event.sequence := by
    intro change hmap hversion
    obtain ⟨current, -, rfl⟩ := Option.map_eq_some_iff.mp hmap
    exact hversion current
  unfold foldEvent at h
  cases hpayload : event.payload with
  | documentCreated =>
    rw [hpayload] at h
    rw [← Option.some.inj h]
  | workflowTransitioned workflow stateField action start target patch =>
    rw [hpayload] at h hcurrent
    have hshape : isCurrentWorkflowTransitionPayload
        (.workflowTransitioned workflow stateField action start target patch) = true :=
      hcurrent.resolve_left (fun hkind => hkind rfl)
    simp only [hshape, if_true] at h
    exact hchanged _ h (fun _ => rfl)
  | automationRun =>
    rw [hpayload] at hdocument
    exact nomatch hdocument
  | other kind value =>
    rw [hpayload] at hdocument hcurrent
    have hkind : kind = js "WorkflowTransitioned" := by simpa [isDocumentPayload] using hdocument
    rcases hcurrent with hother | hshape
    · exact absurd hkind hother
    · exact nomatch hshape
  | _ =>
    rw [hpayload] at h
    exact hchanged _ h (fun _ => rfl)

/-- The version of a document is the sequence of the last event of its history. -/
theorem foldDocument_version (h : Sequenced 0 events)
    (hpayloads : ∀ event ∈ events, isDocumentPayload event.payload = true) (hfold : foldDocument events = some snapshot) :
    snapshot.version ≤ events.length ∧
      ∀ event ∈ events, isCurrentDocumentHistoryEvent event = true → event.sequence ≤ snapshot.version := by
  induction events using List.reverseRecOn with
  | nil => exact nomatch hfold
  | append_singleton events last ih =>
    rw [foldDocument_concat h] at hfold
    have hlast : last.sequence = events.length + 1 := by
      have hright := h.right.1
      rwa [Nat.zero_add] at hright
    rw [List.length_append, List.length_singleton]
    by_cases hcurrent : isCurrentDocumentHistoryEvent last = true
    · have hversion := version_foldEvent (hpayloads last (by simp)) hcurrent hfold
      rw [hversion, hlast]
      refine ⟨Nat.le_refl _, ?_⟩
      intro event hmem _
      have hle := h.le_length hmem
      rwa [List.length_append, List.length_singleton, Nat.zero_add] at hle
    · have hlegacy : isCurrentDocumentHistoryEvent last = false := by simpa using hcurrent
      rw [foldEvent_of_legacy hlegacy] at hfold
      obtain ⟨hle, hbound⟩ := ih h.left (fun event hmem => hpayloads event (List.mem_append_left _ hmem)) hfold
      refine ⟨by omega, ?_⟩
      intro event hmem hevent
      rcases List.mem_append.mp hmem with hmem | hmem
      · exact hbound event hmem hevent
      · obtain rfl := List.mem_singleton.mp hmem
        exact absurd hevent hcurrent

/-- Legacy transitions at the end of a stream are of no matter to its fold. -/
theorem foldDocument_append_legacy {legacy : List DomainEvent} (h : Sequenced 0 (events ++ legacy))
    (hlegacy : ∀ event ∈ legacy, isCurrentDocumentHistoryEvent event = false) :
    foldDocument (events ++ legacy) = foldDocument events := by
  have hrun : ∀ (legacy : List DomainEvent) (before : Option DocumentSnapshot),
      (∀ event ∈ legacy, isCurrentDocumentHistoryEvent event = false) → legacy.foldl foldEvent before = before := by
    intro legacy
    induction legacy with
    | nil => exact fun _ _ => rfl
    | cons event legacy ih =>
      intro before hlegacy
      rw [List.foldl_cons, foldEvent_of_legacy (hlegacy event List.mem_cons_self)]
      exact ih before (fun other hother => hlegacy other (List.mem_cons_of_mem _ hother))
  calc foldDocument (events ++ legacy)
      = foldDocumentFrom (foldDocument events) legacy := foldDocumentFrom_append h none
    _ = legacy.foldl foldEvent (foldDocument events) := foldDocumentFrom_eq h.right _
    _ = foldDocument events := hrun legacy _ hlegacy

/-! ## A document and its history -/

/-- A document that nobody else writes, and an actor who may read its DocType: the projection is the fold of the
stream, and no fold of a page is larger than the service allows. -/
structure HasHistory (services : DocumentHistoryServices) (actor : Actor) (doctypeName : DocTypeName)
    (name : DocumentName) (tenantId : Option TenantId) (context : QueryServiceDocTypeContext) (stream : StreamName)
    (document : DocumentSnapshot) : Prop where
  found : services.getDocument actor doctypeName name tenantId = .ok document
  stream_eq : documentStream document.tenantId document.doctype document.name = some stream
  sequenced : Sequenced 0 (services.streams stream)
  payloads : ∀ event ∈ services.streams stream, isDocumentPayload event.payload = true
  identity : ∀ event ∈ services.streams stream,
    event.tenantId = document.tenantId ∧ event.doctype = document.doctype
  version_eq : (foldDocument (services.streams stream)).map (·.version) = some document.version
  context_eq : services.doctypeContext actor document.doctype document.tenantId = .ok context
  read : planDocTypeActionAccess actor context.doctype .read = .ok ()
  budget : document.version ≤ services.maxDiffBaselineEvents

section History

variable (services : DocumentHistoryServices) (actor : Actor) (context : QueryServiceDocTypeContext)

/-- The document as the actor sees it. -/
def seenBy (snapshot : Option DocumentSnapshot) : Option DocumentSnapshot :=
  snapshot.map (redactDocumentSnapshot context.relatedDocType actor context.doctype)

/-- The fields of the current document that the actor may read. -/
def visibleNow (events : List DomainEvent) : List JsString :=
  match foldDocument events with
  | none => []
  | some currentSnapshot =>
    DocumentHistoryServices.readableDocumentFieldNames actor context.doctype currentSnapshot

/-- The entry of an event: what it has changed between the fold of the events before it and the fold of the
events up to it. -/
def historyEntry (events : List DomainEvent) (event : DomainEvent) : DocumentTimelineEntry :=
  redactedTimelineEntry services.texts (visibleNow actor context events) event
    (seenBy actor context (foldDocument (events.filter (fun other => decide (other.sequence < event.sequence)))))
    (seenBy actor context (foldDocument (events.filter (fun other => decide (other.sequence ≤ event.sequence)))))

end History

/-- A fold keeps the tenant and the DocType of its events. -/
theorem foldEvent_identity {tenantId : TenantId} {doctype : DocTypeName} {before : Option DocumentSnapshot}
    (hevent : event.tenantId = tenantId ∧ event.doctype = doctype)
    (hbefore : ∀ snapshot, before = some snapshot → snapshot.tenantId = tenantId ∧ snapshot.doctype = doctype)
    (h : foldEvent before event = some snapshot) :
    snapshot.tenantId = tenantId ∧ snapshot.doctype = doctype := by
  have hchanged : ∀ change : DocumentSnapshot → DocumentSnapshot, before.map change = some snapshot →
      (∀ current, (change current).tenantId = current.tenantId ∧ (change current).doctype = current.doctype) →
      snapshot.tenantId = tenantId ∧ snapshot.doctype = doctype := by
    intro change hmap hkeeps
    obtain ⟨current, hcurrent, rfl⟩ := Option.map_eq_some_iff.mp hmap
    rw [(hkeeps current).1, (hkeeps current).2]
    exact hbefore current hcurrent
  unfold foldEvent at h
  split at h
  case h_1 =>
    rw [← Option.some.inj h]
    exact hevent
  case h_3 =>
    split_ifs at h
    · exact hchanged _ h (fun _ => ⟨rfl, rfl⟩)
    · exact hbefore snapshot h
  all_goals first
    | exact hbefore snapshot h
    | exact hchanged _ h (fun _ => ⟨rfl, rfl⟩)

theorem foldDocument_identity {tenantId : TenantId} {doctype : DocTypeName}
    (h : ∀ event ∈ events, event.tenantId = tenantId ∧ event.doctype = doctype)
    (hfold : foldDocument events = some snapshot) : snapshot.tenantId = tenantId ∧ snapshot.doctype = doctype := by
  have hrun : ∀ (events : List DomainEvent) (before : Option DocumentSnapshot),
      (∀ event ∈ events, event.tenantId = tenantId ∧ event.doctype = doctype) →
      (∀ snapshot, before = some snapshot → snapshot.tenantId = tenantId ∧ snapshot.doctype = doctype) →
      ∀ snapshot, events.foldl foldEvent before = some snapshot →
        snapshot.tenantId = tenantId ∧ snapshot.doctype = doctype := by
    intro events
    induction events with
    | nil => exact fun _ _ hbefore => hbefore
    | cons event events ih =>
      intro before hevents hbefore
      rw [List.foldl_cons]
      apply ih _ (fun other hother => hevents other (List.mem_cons_of_mem _ hother))
      intro snapshot hafter
      exact foldEvent_identity (hevents event List.mem_cons_self) hbefore hafter
  refine hrun (sortBySequence events) none ?_ (fun _ hnone => nomatch hnone) snapshot hfold
  intro event hmem
  exact h event ((List.perm_insertionSort _ events).mem_iff.mp hmem)

section Pages

variable {services : DocumentHistoryServices} {actor : Actor} {doctypeName : DocTypeName} {name : DocumentName}
variable {tenantId : Option TenantId} {context : QueryServiceDocTypeContext} {stream : StreamName}
variable {document : DocumentSnapshot}

/-- What the queries hand out of a state of the document. -/
theorem HasHistory.mapM_redactDocument (h : HasHistory services actor doctypeName name tenantId context stream document)
    (hevents : ∀ event ∈ events, event ∈ services.streams stream) :
    (foldDocument events).mapM (services.redactDocument actor) = .ok (seenBy actor context (foldDocument events)) := by
  cases hfold : foldDocument events with
  | none => rfl
  | some snapshot =>
    obtain ⟨htenant, hdoctype⟩ :=
      foldDocument_identity (fun event hmem => h.identity event (hevents event hmem)) hfold
    have hredact : services.redactDocument actor snapshot =
        .ok (redactDocumentSnapshot context.relatedDocType actor context.doctype snapshot) := by
      rw [DocumentHistoryServices.redactDocument, htenant, hdoctype, h.context_eq]
      simp only [bind, Except.bind, h.read]
      rfl
    change (some <$> services.redactDocument actor snapshot) = _
    rw [hredact]
    rfl

/-- The entries of a part of the stream, from the fold of what comes before it. -/
theorem HasHistory.redactedTimelineEntries_eq
    (h : HasHistory services actor doctypeName name tenantId context stream document)
    (hevents : services.streams stream = before ++ segment ++ after) :
    services.redactedTimelineEntries actor (visibleNow actor context (services.streams stream)) (foldDocument before)
        (segment.filter isCurrentDocumentHistoryEvent) =
      .ok ((segment.filter isCurrentDocumentHistoryEvent).map
        (historyEntry services actor context (services.streams stream))) := by
  induction segment generalizing before with
  | nil => rfl
  | cons event segment ih =>
    have hevents' : services.streams stream = (before ++ [event]) ++ segment ++ after := by
      rw [hevents]
      simp
    have hsequenced := h.sequenced
    rw [hevents'] at hsequenced
    have hprefix : Sequenced 0 (before ++ [event]) := hsequenced.left.left
    have hnext : foldDocumentFrom (foldDocument before) [event] = foldDocument (before ++ [event]) :=
      (foldDocument_concat hprefix).symm
    by_cases hcurrent : isCurrentDocumentHistoryEvent event = true
    · have hsequence : event.sequence = before.length + 1 := by
        have hright := hprefix.right.1
        rwa [Nat.zero_add] at hright
      have htake : (services.streams stream).take before.length = before := by
        rw [hevents, List.append_assoc, List.take_left']
        rfl
      have htake' : (services.streams stream).take (before.length + 1) = before ++ [event] := by
        rw [hevents', List.append_assoc, List.take_left']
        rw [List.length_append, List.length_singleton]
      -- the documents before and after the event are read from what stands up to its sequence
      have hbefore : (services.streams stream).filter (fun other => decide (other.sequence < event.sequence)) =
          before := by
        rw [hsequence]
        simp only [Nat.lt_succ_iff]
        rw [h.sequenced.filter_upto, htake]
      have hupto : (services.streams stream).filter (fun other => decide (other.sequence ≤ event.sequence)) =
          before ++ [event] := by
        rw [hsequence, h.sequenced.filter_upto, htake']
      have hmem : ∀ other ∈ before ++ [event], other ∈ services.streams stream := by
        intro other hother
        rw [hevents']
        exact List.mem_append_left _ (List.mem_append_left _ hother)
      rw [List.filter_cons_of_pos hcurrent, List.map_cons, DocumentHistoryServices.redactedTimelineEntries, hnext,
        h.mapM_redactDocument (fun other hother => hmem other (List.mem_append_left _ hother)),
        h.mapM_redactDocument hmem, historyEntry, hbefore, hupto]
      change ((services.redactedTimelineEntries _ _ _ _).bind _) = _
      rw [ih hevents']
      rfl
    · have hlegacy : isCurrentDocumentHistoryEvent event = false := by simpa using hcurrent
      -- an event of the old kind changes no document
      have hsame : foldDocument before = foldDocument (before ++ [event]) := by
        rw [← hnext, foldDocumentFrom_eq hprefix.right]
        exact (foldEvent_of_legacy hlegacy _).symm
      rw [List.filter_cons_of_neg hcurrent, hsame]
      exact ih hevents'

/-- The entries of a page: the baseline is the fold of what comes before its first event. -/
theorem HasHistory.entries_eq (h : HasHistory services actor doctypeName name tenantId context stream document)
    (hevents : services.streams stream = before ++ segment ++ after)
    (hbudget : ∀ event ∈ segment, event.sequence ≤ services.maxDiffBaselineEvents + 1) :
    ∃ baseline, services.baselineBefore stream
        ((segment.filter isCurrentDocumentHistoryEvent).head?.map (·.sequence)) = .ok baseline ∧
      services.redactedTimelineEntries actor (visibleNow actor context (services.streams stream)) baseline
          (segment.filter isCurrentDocumentHistoryEvent) =
        .ok ((segment.filter isCurrentDocumentHistoryEvent).map
          (historyEntry services actor context (services.streams stream))) := by
  cases hvisible : segment.filter isCurrentDocumentHistoryEvent with
  | nil => exact ⟨none, rfl, rfl⟩
  | cons first rest =>
    -- the baseline is folded up to the first visible event
    obtain ⟨legacy, others, rfl, -, hfirst, hrest⟩ := List.filter_eq_cons_iff.mp hvisible
    have hevents' : services.streams stream = (before ++ legacy) ++ (first :: others) ++ after := by
      rw [hevents]
      simp
    have hsequenced := h.sequenced
    rw [hevents'] at hsequenced
    have hsequence : first.sequence = (before ++ legacy).length + 1 := by
      have hright := hsequenced.left.right.1
      rwa [Nat.zero_add] at hright
    have hentries := h.redactedTimelineEntries_eq hevents'
    rw [List.filter_cons_of_pos hfirst, hrest] at hentries
    refine ⟨foldDocument (before ++ legacy), ?_, hentries⟩
    have hcount : documentTimelineBaselineEventCount (some first.sequence) services.maxDiffBaselineEvents =
        .ok (if before ++ legacy = [] then none else some (before ++ legacy).length) := by
      have hle := hbudget first (List.mem_append_right _ List.mem_cons_self)
      rw [documentTimelineBaselineEventCount]
      by_cases hnil : before ++ legacy = []
      · have hone : first.sequence ≤ 1 := by
          rw [hsequence, hnil]
          exact Nat.le_refl 1
        rw [if_pos hone, if_pos hnil]
      · have hpos : 0 < (before ++ legacy).length := List.length_pos_iff.mpr hnil
        rw [if_neg (by omega), if_neg (by omega), if_neg hnil, hsequence, Nat.add_sub_cancel]
    rw [DocumentHistoryServices.baselineBefore]
    change ((documentTimelineBaselineEventCount (some first.sequence) _).bind _) = _
    rw [hcount]
    by_cases hnil : before ++ legacy = []
    · rw [if_pos hnil, hnil]
      rfl
    · have htake : (services.streams stream).take (before ++ legacy).length = before ++ legacy := by
        rw [hevents', List.append_assoc, List.take_left']
        rfl
      rw [if_neg hnil]
      change Except.ok (foldDocument (readStream (services.streams stream) _)) = _
      rw [readStream_upto h.sequenced, htake]

theorem HasHistory.version_bounds (h : HasHistory services actor doctypeName name tenantId context stream document) :
    document.version ≤ (services.streams stream).length ∧
      ∀ event ∈ services.streams stream, isCurrentDocumentHistoryEvent event = true →
        event.sequence ≤ document.version := by
  obtain ⟨snapshot, hfold, hversion⟩ := Option.map_eq_some_iff.mp h.version_eq
  rw [← hversion]
  exact foldDocument_version h.sequenced h.payloads hfold

/-- The fields that the actor sees are those of the current document, whatever the page. -/
theorem HasHistory.visibleFieldNames_eq
    (h : HasHistory services actor doctypeName name tenantId context stream document) :
    services.visibleFieldNames actor (services.snapshotAt stream document.version) =
      .ok (visibleNow actor context (services.streams stream)) := by
  obtain ⟨hversion, hcurrent⟩ := h.version_bounds
  -- what comes after the version is legacy
  have hsplit : Sequenced 0 ((services.streams stream).take document.version ++
      (services.streams stream).drop document.version) := by
    rw [List.take_append_drop]
    exact h.sequenced
  have hsame : services.snapshotAt stream document.version = foldDocument (services.streams stream) := by
    rw [DocumentHistoryServices.snapshotAt, readStream_upto h.sequenced]
    conv_rhs => rw [← List.take_append_drop document.version (services.streams stream)]
    rw [foldDocument_append_legacy hsplit]
    intro event hmem
    have hlt := hsplit.right.lt hmem
    rw [List.length_take_of_le hversion] at hlt
    by_contra hevent
    have hle := hcurrent event (List.mem_of_mem_drop hmem) (by simpa using hevent)
    omega
  rw [hsame, visibleNow]
  cases hfold : foldDocument (services.streams stream) with
  | none => rfl
  | some snapshot =>
    obtain ⟨htenant, hdoctype⟩ := foldDocument_identity h.identity hfold
    rw [DocumentHistoryServices.visibleFieldNames, DocumentHistoryServices.readableFieldNames, htenant, hdoctype,
      h.context_eq]
    simp only [bind, Except.bind, h.read]
    rfl

/-- A page of the timeline. -/
theorem HasHistory.getTimeline_eq (h : HasHistory services actor doctypeName name tenantId context stream document)
    {limit : Option Rat} {most : Nat} (hlimit : normalizeDocumentTimelineLimit limit = .ok most)
    (hbefore : normalizeDocumentTimelineBeforeSequence beforeSequence document.version = .ok bound)
    (hbound : bound ≤ document.version) {page : DocumentTimelinePage}
    (hpage : selectDocumentTimelinePage (pageWindow (services.streams stream) bound most) bound most = page)
    (hevents : services.streams stream = before ++ segment ++ after)
    (hvisible : page.visibleEvents = segment.filter isCurrentDocumentHistoryEvent)
    (hsegment : ∀ event ∈ segment, event.sequence ≤ bound) :
    services.getTimeline actor doctypeName name { tenantId, limit, beforeSequence } =
      .ok (documentTimeline document most bound page
        (page.visibleEvents.map (historyEntry services actor context (services.streams stream)))) := by
  have hlength := h.version_bounds.1
  have hread : readStream (services.streams stream) { maxSequence := some bound, limit := some (most + 1) } =
      pageWindow (services.streams stream) bound most := readStream_last h.sequenced (by omega) _
  obtain ⟨baseline, hbaseline, hentries⟩ := h.entries_eq hevents (by
    intro event hmem
    have hle := hsegment event hmem
    have hbudget := h.budget
    omega)
  rw [← hvisible] at hbaseline hentries
  rw [DocumentHistoryServices.getTimeline]
  simp only [h.found, h.stream_eq, requireStream, hlimit, hbefore, hread, hpage, hbaseline, h.visibleFieldNames_eq,
    hentries, bind, Except.bind]
  rfl

end Pages

/-! ## Following the pages -/

/-- The pages of a reader who asks for the events up to a sequence and follows `nextBeforeSequence` until it is
absent. -/
inductive TimelinePages (page : Option Rat → Except FrameworkError DocumentTimeline) :
    Option Rat → List DocumentTimeline → Prop
  | last {beforeSequence : Option Rat} {timeline : DocumentTimeline} (h : page beforeSequence = .ok timeline)
      (hnext : timeline.nextBeforeSequence = none) : TimelinePages page beforeSequence [timeline]
  | more {beforeSequence : Option Rat} {timeline : DocumentTimeline} {next : Nat} {pages : List DocumentTimeline}
      (h : page beforeSequence = .ok timeline) (hnext : timeline.nextBeforeSequence = some next)
      (hrest : TimelinePages page (some next) pages) : TimelinePages page beforeSequence (timeline :: pages)

theorem TimelinePages.unique {page : Option Rat → Except FrameworkError DocumentTimeline}
    {pages pages' : List DocumentTimeline} (h : TimelinePages page beforeSequence pages)
    (h' : TimelinePages page beforeSequence pages') : pages = pages' := by
  induction h generalizing pages' with
  | last h hnext =>
    cases h' with
    | last h' hnext' => rw [Except.ok.inj (h.symm.trans h')]
    | more h' hnext' hrest' =>
      rw [← Except.ok.inj (h.symm.trans h'), hnext] at hnext'
      exact nomatch hnext'
  | more h hnext hrest ih =>
    cases h' with
    | last h' hnext' =>
      rw [← Except.ok.inj (h.symm.trans h'), hnext] at hnext'
      exact nomatch hnext'
    | more h' hnext' hrest' =>
      rw [← Except.ok.inj (h.symm.trans h'), hnext] at hnext'
      obtain rfl := Option.some.inj hnext'
      rw [Except.ok.inj (h.symm.trans h'), ih hrest']

theorem normalizeDocumentTimelineLimit_pos {limit : Option Rat} {most : Nat}
    (h : normalizeDocumentTimelineLimit limit = .ok most) : 1 ≤ most := by
  have hinteger : ∀ (value : Rat) (n : Nat), integerFrom 1 value = some n → 1 ≤ n := by
    intro value n hn
    unfold integerFrom at hn
    split_ifs at hn with hvalue
    have hone : (1 : Rat) ≤ value := by simpa using hvalue.2
    have hnum : value = value.num := (Rat.den_eq_one_iff value).mp hvalue.1 |>.symm
    rw [hnum] at hone
    have hint : (1 : Int) ≤ value.num := by exact_mod_cast hone
    rw [← Option.some.inj hn]
    omega
  unfold normalizeDocumentTimelineLimit at h
  cases limit with
  | none => rw [← Except.ok.inj h]; decide
  | some value =>
    dsimp only at h
    split at h
    · next n hn =>
        have hpos := hinteger value n hn
        rw [← Except.ok.inj h, maxTimelineLimit]
        omega
    · exact nomatch h

theorem normalizeDocumentTimelineBeforeSequence_natCast {next version : Nat} (hpos : 1 ≤ next) (hle : next ≤ version) :
    normalizeDocumentTimelineBeforeSequence (some (next : Rat)) version = .ok next := by
  have hone : ((1 : Nat) : Rat) ≤ (next : Rat) := by exact_mod_cast hpos
  have hinteger : integerFrom 1 (next : Rat) = some next := by
    rw [integerFrom, if_pos ⟨Rat.den_natCast next, hone⟩, Rat.num_natCast, Int.toNat_natCast]
  unfold normalizeDocumentTimelineBeforeSequence
  dsimp only
  rw [hinteger]
  exact congrArg Except.ok (Nat.min_eq_left hle)

section Following

variable {services : DocumentHistoryServices} {actor : Actor} {doctypeName : DocTypeName} {name : DocumentName}
variable {tenantId : Option TenantId} {context : QueryServiceDocTypeContext} {stream : StreamName}
variable {document : DocumentSnapshot} {limit : Option Rat} {most : Nat}

/-- A page that holds at most `limit` entries, in order. -/
structure BoundedPage (limit : Nat) (page : DocumentTimeline) : Prop where
  length_le : page.entries.length ≤ limit
  increasing : page.entries.Pairwise (fun left right => left.sequence < right.sequence)

/-- A page that shows the history from `start` to `bound`. -/
def ShowsHistory (services : DocumentHistoryServices) (actor : Actor) (context : QueryServiceDocTypeContext)
    (events : List DomainEvent) (start bound : Nat) (entries : List DocumentTimelineEntry) : Prop :=
  entries = (((events.take bound).drop start).filter isCurrentDocumentHistoryEvent).map
    (historyEntry services actor context events)

/-- The page up to a sequence, when it has been selected as a part of the history. -/
theorem HasHistory.page_of (h : HasHistory services actor doctypeName name tenantId context stream document)
    (hlimit : normalizeDocumentTimelineLimit limit = .ok most) {start : Nat}
    (hbefore : normalizeDocumentTimelineBeforeSequence beforeSequence document.version = .ok bound)
    (hbound : bound ≤ document.version) {next : Option Nat}
    (hpage : selectDocumentTimelinePage (pageWindow (services.streams stream) bound most) bound most =
      { visibleEvents := (((services.streams stream).take bound).drop start).filter isCurrentDocumentHistoryEvent
        nextBeforeSequence := next })
    (hfew : ((((services.streams stream).take bound).drop start).filter isCurrentDocumentHistoryEvent).length ≤ most) :
    ∃ timeline, services.getTimeline actor doctypeName name { tenantId, limit, beforeSequence } = .ok timeline ∧
      timeline.nextBeforeSequence = next ∧ BoundedPage most timeline ∧
      ShowsHistory services actor context (services.streams stream) start bound timeline.entries := by
  have hlength : bound ≤ (services.streams stream).length := Nat.le_trans hbound h.version_bounds.1
  have htake := h.sequenced.take bound
  have hparts : services.streams stream = ((services.streams stream).take bound).take start ++
      ((services.streams stream).take bound).drop start ++ (services.streams stream).drop bound := by
    rw [List.take_append_drop, List.take_append_drop]
  have hupto : ∀ event ∈ ((services.streams stream).take bound).drop start, event.sequence ≤ bound := by
    intro event hmem
    have hle := htake.le_length (List.mem_of_mem_drop hmem)
    rwa [List.length_take_of_le hlength, Nat.zero_add] at hle
  have htimeline := h.getTimeline_eq hlimit hbefore hbound hpage hparts rfl hupto
  refine ⟨_, htimeline, rfl, ?_, rfl⟩
  have hordered : ((((services.streams stream).take bound).drop start).filter isCurrentDocumentHistoryEvent).Pairwise
      (fun left right => left.sequence < right.sequence) :=
    htake.pairwise.sublist (List.filter_sublist.trans (List.drop_sublist _ _))
  exact
    { length_le := by rw [documentTimeline, List.length_map]; exact hfew
      increasing := by rw [documentTimeline, List.pairwise_map]; exact hordered }

/-- A page that goes on shows `limit` events. -/
theorem HasHistory.page_goesOn (h : HasHistory services actor doctypeName name tenantId context stream document)
    (hlimit : normalizeDocumentTimelineLimit limit = .ok most)
    (hbefore : normalizeDocumentTimelineBeforeSequence beforeSequence document.version = .ok bound)
    (hbound : bound ≤ document.version) (hon : PageGoesOn (services.streams stream) bound most) :
    ∃ timeline, services.getTimeline actor doctypeName name { tenantId, limit, beforeSequence } = .ok timeline ∧
      timeline.nextBeforeSequence = some (bound - most) ∧ BoundedPage most timeline ∧
      ShowsHistory services actor context (services.streams stream) (bound - most) bound timeline.entries := by
  have hlength : bound ≤ (services.streams stream).length := Nat.le_trans hbound h.version_bounds.1
  have hall : (((services.streams stream).take bound).drop (bound - most)).filter isCurrentDocumentHistoryEvent =
      ((services.streams stream).take bound).drop (bound - most) := by
    apply List.filter_eq_self.mpr
    intro event hmem
    apply hon.2
    have hwindow : ((services.streams stream).take bound).drop (bound - most) =
        (pageWindow (services.streams stream) bound most).drop 1 := by
      have hroom := hon.1
      rw [pageWindow, List.drop_drop]
      congr 1
      omega
    rw [hwindow] at hmem
    exact List.mem_of_mem_drop hmem
  have hpage := selectDocumentTimelinePage_of_goesOn h.sequenced hlength hon
  rw [← hall] at hpage
  apply h.page_of hlimit hbefore hbound hpage
  rw [hall, List.length_drop, List.length_take_of_le hlength]
  omega

/-- The last page. -/
theorem HasHistory.page_stops (h : HasHistory services actor doctypeName name tenantId context stream document)
    (hlimit : normalizeDocumentTimelineLimit limit = .ok most)
    (hbefore : normalizeDocumentTimelineBeforeSequence beforeSequence document.version = .ok bound)
    (hbound : bound ≤ document.version) (hstop : ¬ PageGoesOn (services.streams stream) bound most) :
    ∃ timeline, services.getTimeline actor doctypeName name { tenantId, limit, beforeSequence } = .ok timeline ∧
      timeline.nextBeforeSequence = none ∧ BoundedPage most timeline ∧
      ShowsHistory services actor context (services.streams stream) (bound - (most + 1)) bound timeline.entries := by
  have hlength : bound ≤ (services.streams stream).length := Nat.le_trans hbound h.version_bounds.1
  exact h.page_of hlimit hbefore hbound (selectDocumentTimelinePage_of_stops h.sequenced hlength hstop)
    (length_filter_of_stops hlength hstop)

/-- What two parts of the history show one after the other. -/
theorem ShowsHistory.append {start middle : Nat} {before after : List DocumentTimelineEntry} (hstart : start ≤ middle)
    (hmiddle : middle ≤ bound) (hbound : bound ≤ events.length)
    (hbefore : ShowsHistory services actor context events start middle before)
    (hafter : ShowsHistory services actor context events middle bound after) :
    ShowsHistory services actor context events start bound (before ++ after) := by
  have hsplit : (events.take bound).drop start =
      (events.take middle).drop start ++ (events.take bound).drop middle := by
    have htake : (events.take bound).take middle = events.take middle := by
      rw [List.take_take, Nat.min_eq_left hmiddle]
    calc (events.take bound).drop start
        = ((events.take bound).take middle ++ (events.take bound).drop middle).drop start := by
          rw [List.take_append_drop]
      _ = (events.take middle).drop start ++ (events.take bound).drop middle := by
          rw [htake, List.drop_append_of_le_length]
          rw [List.length_take_of_le (Nat.le_trans hmiddle hbound)]
          exact hstart
  rw [ShowsHistory, hsplit, List.filter_append, List.map_append, hbefore, hafter]

/-- The pages from a sequence on: they end after `j` pages that go on, and show the history from there. -/
theorem HasHistory.pages_from (h : HasHistory services actor doctypeName name tenantId context stream document)
    (hlimit : normalizeDocumentTimelineLimit limit = .ok most) (bound : Nat) :
    ∀ beforeSequence, normalizeDocumentTimelineBeforeSequence beforeSequence document.version = .ok bound →
      bound ≤ document.version →
      ∃ pages j, TimelinePages (fun beforeSequence =>
          services.getTimeline actor doctypeName name { tenantId, limit, beforeSequence }) beforeSequence pages ∧
        (∀ page ∈ pages, BoundedPage most page) ∧
        (∀ i < j, PageGoesOn (services.streams stream) (bound - i * most) most) ∧
        ¬ PageGoesOn (services.streams stream) (bound - j * most) most ∧
        ShowsHistory services actor context (services.streams stream) (bound - j * most - (most + 1)) bound
          (pages.reverse.flatMap (·.entries)) := by
  have hpos := normalizeDocumentTimelineLimit_pos hlimit
  have hversion := h.version_bounds.1
  induction bound using Nat.strong_induction_on with
  | _ bound ih =>
    intro beforeSequence hbefore hbound
    by_cases hon : PageGoesOn (services.streams stream) bound most
    · -- the page is full, and the reader goes on below it
      obtain ⟨timeline, htimeline, hnext, hpage, hshows⟩ := h.page_goesOn hlimit hbefore hbound hon
      have hroom := hon.1
      have hsmaller : bound - most < bound := by omega
      obtain ⟨pages, j, hpages, hbounded, hgoesOn, hstops, hrest⟩ := ih (bound - most) hsmaller (some _)
        (normalizeDocumentTimelineBeforeSequence_natCast (by omega) (by omega)) (by omega)
      have hshift : ∀ i, bound - most - i * most = bound - (i + 1) * most := by
        intro i
        rw [Nat.succ_mul]
        omega
      rw [hshift] at hstops hrest
      refine ⟨timeline :: pages, j + 1, TimelinePages.more htimeline hnext hpages, ?_, ?_, hstops, ?_⟩
      · intro page hmem
        rcases List.mem_cons.mp hmem with rfl | hmem
        · exact hpage
        · exact hbounded page hmem
      · intro i hi
        cases i with
        | zero => rwa [Nat.zero_mul, Nat.sub_zero]
        | succ i =>
          rw [← hshift]
          exact hgoesOn i (by omega)
      · rw [List.reverse_cons, List.flatMap_append, List.flatMap_singleton]
        have hbelow : bound - (j + 1) * most - (most + 1) ≤ bound - most := by
          rw [Nat.succ_mul]
          omega
        exact hrest.append hbelow (by omega) (by omega) hshows
    · -- the last page
      obtain ⟨timeline, htimeline, hnext, hpage, hshows⟩ := h.page_stops hlimit hbefore hbound hon
      refine ⟨[timeline], 0, TimelinePages.last htimeline hnext, ?_, fun i hi => absurd hi (Nat.not_lt_zero i), ?_, ?_⟩
      · intro page hmem
        rw [List.mem_singleton.mp hmem]
        exact hpage
      · rwa [Nat.zero_mul, Nat.sub_zero]
      · rw [Nat.zero_mul, Nat.sub_zero, List.reverse_singleton, List.flatMap_singleton]
        exact hshows

/-! ## Complete timelines -/

/-- The pages are small and in order, and one after the other, from the last page to the first, they hold the
entries. -/
structure MakesUpHistory (limit : Nat) (entries : List DocumentTimelineEntry) (pages : List DocumentTimeline) : Prop where
  bounded : ∀ page ∈ pages, BoundedPage limit page
  complete : pages.reverse.flatMap (·.entries) = entries

/-- Count the pages of `limit` events from the end of the history. When a legacy transition stands among the events
that a page reads, those it shows and one more, then nothing of the history stands before them. -/
def NothingBeforeLegacy (events : List DomainEvent) (version limit : Nat) : Prop :=
  ∀ k, (∃ legacy ∈ events, isCurrentDocumentHistoryEvent legacy = false ∧
      version ≤ legacy.sequence + (k + 1) * limit ∧ legacy.sequence + k * limit ≤ version) →
    ∀ event ∈ events, isCurrentDocumentHistoryEvent event = true → version ≤ event.sequence + (k + 1) * limit

theorem mem_pageWindow (h : Sequenced 0 events) :
    event ∈ pageWindow events bound most ↔
      event ∈ events ∧ bound < event.sequence + (most + 1) ∧ event.sequence ≤ bound := by
  rw [pageWindow, ← (h.take bound).filter_after, List.mem_filter, ← h.filter_upto, List.mem_filter, decide_eq_true_eq,
    decide_eq_true_eq]
  constructor
  · rintro ⟨⟨hmem, hle⟩, hlt⟩
    exact ⟨hmem, by omega, hle⟩
  · rintro ⟨hmem, hlt, hle⟩
    have hpos := h.lt hmem
    exact ⟨⟨hmem, hle⟩, by omega⟩

/-- The condition is about the first page that does not go on. -/
theorem nothingBeforeLegacy_iff (h : Sequenced 0 events) {version j : Nat}
    (hgoesOn : ∀ i < j, PageGoesOn events (version - i * most) most)
    (hstops : ¬ PageGoesOn events (version - j * most) most) :
    NothingBeforeLegacy events version most ↔
      ∀ event ∈ events, isCurrentDocumentHistoryEvent event = true →
        version - j * most - (most + 1) < event.sequence := by
  have hsucc : ∀ k, (k + 1) * most = k * most + most := fun k => Nat.succ_mul k most
  constructor
  · intro hnothing event hmem hcurrent
    by_cases hroom : most + 1 ≤ version - j * most
    · -- the page stops at a legacy transition
      have hlegacy : ∃ legacy ∈ pageWindow events (version - j * most) most,
          isCurrentDocumentHistoryEvent legacy = false := by
        by_contra hnone
        apply hstops
        refine ⟨hroom, ?_⟩
        intro other hother
        by_contra hfalse
        exact hnone ⟨other, hother, by simpa using hfalse⟩
      obtain ⟨legacy, hlegacyMem, hlegacyFalse⟩ := hlegacy
      obtain ⟨hlegacyEvents, hlow, hhigh⟩ := (mem_pageWindow h).mp hlegacyMem
      have hbound := hnothing j ⟨legacy, hlegacyEvents, hlegacyFalse, by rw [hsucc]; omega, by omega⟩ event hmem hcurrent
      rw [hsucc] at hbound
      omega
    · have hpos := h.lt hmem
      omega
  · intro hall k hlegacy event hmem hcurrent
    obtain ⟨legacy, hlegacyEvents, hlegacyFalse, hlow, hhigh⟩ := hlegacy
    rw [hsucc] at hlow
    -- the pages before the last one hold no legacy transition
    have hlate : j ≤ k := by
      by_contra hearly
      obtain ⟨hroom, hcurrents⟩ := hgoesOn k (by omega)
      have hlegacyTrue := hcurrents legacy ((mem_pageWindow h).mpr ⟨hlegacyEvents, by omega, by omega⟩)
      rw [hlegacyFalse] at hlegacyTrue
      exact absurd hlegacyTrue (by decide)
    have hmul : j * most ≤ k * most := Nat.mul_le_mul_right most hlate
    have hafter := hall event hmem hcurrent
    rw [hsucc]
    omega

end Following

/-! ### A note with a legacy transition in the middle -/

def historian : Actor := { id := js "ada", roles := [systemManagerRole], tenantId := some (js "acme") }

def historyNoteType : DocTypeDefinition where
  name := js "Note"
  fields := [{ name := js "body", type := .text }]

def noteContext : QueryServiceDocTypeContext where
  doctype := historyNoteType
  relatedDocType := fun _ => none

def historyNoteEvent (sequence : Nat) (payload : EventPayload) : DomainEvent where
  id := js "evt-" ++ Json.natToString sequence
  tenantId := js "acme"
  stream := js "acme:Note:todo"
  type := payload.kind
  doctype := js "Note"
  documentName := js "todo"
  actorId := js "ada"
  occurredAt := js "2026-01-01T00:00:00.000Z"
  payload
  metadata := []
  sequence

def noteCreated : EventPayload := .documentCreated [(js "body", .str (js "Milk"))] .draft

def bodyUpdated (body : JsString) : EventPayload := .documentUpdated [(js "body", .str body)] []

/-- A transition from before workflows had names. -/
def legacyTransition : EventPayload :=
  .workflowTransitioned [] (js "status") (js "approve") (js "Draft") (js "Approved") [(js "status", .str (js "Approved"))]

def legacyNote : List DomainEvent :=
  [historyNoteEvent 1 noteCreated, historyNoteEvent 2 legacyTransition, historyNoteEvent 3 (bodyUpdated (js "Eggs")),
   historyNoteEvent 4 (bodyUpdated (js "Bread"))]

def noteHistoryServices (events : List DomainEvent) : DocumentHistoryServices where
  doctypeContext := fun _ _ _ => .ok noteContext
  projection := fun _ _ _ => foldDocument events
  canReadDocument := fun _ _ _ => true
  streams := fun _ => events
  texts := { toUpperCase := id, otherSummary := fun _ => js "Recorded document event" }
  maxDiffBaselineEvents := 1000

def noteDocument (version : Nat) : DocumentSnapshot where
  tenantId := js "acme"
  doctype := js "Note"
  name := js "todo"
  version
  docstatus := .draft
  data := [(js "body", .str (js "Bread"))]
  createdAt := js "2026-01-01T00:00:00.000Z"
  updatedAt := js "2026-01-01T00:00:00.000Z"

theorem hasHistory_legacyNote : HasHistory (noteHistoryServices legacyNote) historian (js "Note") (js "todo") none
    noteContext (js "acme:Note:todo") (noteDocument 4) where
  found := rfl
  stream_eq := rfl
  sequenced := ⟨rfl, rfl, rfl, rfl, trivial⟩
  payloads := by decide
  identity := by decide
  version_eq := rfl
  context_eq := rfl
  read := rfl
  budget := by decide
