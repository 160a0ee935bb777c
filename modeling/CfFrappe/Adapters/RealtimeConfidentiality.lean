import CfFrappe.Adapters.RealtimeSessions

set_option autoImplicit false

/-! # What a realtime session tells about a field

Two streams of a document that agree apart from the values of one field (`EventAgreesApart`) fold to
documents that agree apart from it. Publications carry events and documents whole, so a session tells the
two streams apart exactly when a commit it carries has other values in the field (`RealtimeConfidential`).
-/

open Utf

/-! ## Records apart from one field -/

namespace DocumentData

variable (f : JsString)

/-- The record with the values of one field covered. -/
def cover (data : DocumentData) : DocumentData := data.map (fun e => (e.1, if e.1 = f then .null else e.2))

/-- The values of one field. -/
def valuesOf (data : DocumentData) : List Json := (data.filter (fun e => e.1 = f)).map (·.2)

theorem get_cover (data : DocumentData) (key : JsString) :
    Record.get (cover f data) key = (Record.get data key).map (fun value => if key = f then .null else value) :=
  Record.get_map_keys (fun key (value : Json) => if key = f then Json.null else value) data key

theorem has_cover (data : DocumentData) (key : JsString) : Record.has (cover f data) key = Record.has data key := by
  rw [Record.has, Record.has, get_cover, Option.isSome_map]

theorem cover_merge (data patch : DocumentData) :
    cover f (Record.merge data patch) = Record.merge (cover f data) (cover f patch) := by
  have hnew : (cover f patch).filter (fun e => !Record.has (cover f data) e.1) =
      cover f (patch.filter (fun e => !Record.has data e.1)) := by
    simp only [has_cover]
    exact List.filter_map
  have hold : cover f (data.map (fun e => (e.1, (Record.get patch e.1).getD e.2))) =
      (cover f data).map (fun e => (e.1, (Record.get (cover f patch) e.1).getD e.2)) := by
    unfold cover
    rw [List.map_map, List.map_map]
    apply List.map_congr_left
    intro e _
    have hget := get_cover f patch e.1
    unfold cover at hget
    simp only [Function.comp_apply, hget]
    cases Record.get patch e.1 <;> simp
  unfold Record.merge
  rw [hnew, ← hold]
  exact List.map_append

theorem cover_without (data : DocumentData) (keys : List JsString) :
    cover f (Record.without data keys) = Record.without (cover f data) keys := by
  unfold Record.without cover
  rw [List.filter_map]
  rfl

variable {f}

/-- A record is what it is apart from a field, with the values of the field. -/
theorem eq_of_cover {data data' : DocumentData} (hcover : cover f data = cover f data')
    (hvalues : valuesOf f data = valuesOf f data') : data = data' := by
  induction data generalizing data' with
  | nil => exact (List.map_eq_nil_iff.mp hcover.symm).symm
  | cons e data ih =>
    cases data' with
    | nil => exact absurd hcover (by simp [cover])
    | cons e' data' =>
      obtain ⟨key, value⟩ := e
      obtain ⟨key', value'⟩ := e'
      simp only [cover, List.map_cons, List.cons.injEq, Prod.mk.injEq] at hcover
      obtain ⟨⟨rfl, hvalue⟩, hrest⟩ := hcover
      by_cases hkey : key = f
      · simp only [valuesOf, List.filter_cons, hkey, decide_true, if_true, List.map_cons, List.cons.injEq]
          at hvalues
        rw [hvalues.1, ih hrest hvalues.2]
      · rw [if_neg hkey, if_neg hkey] at hvalue
        simp only [valuesOf, List.filter_cons, hkey, decide_false, Bool.false_eq_true, if_false] at hvalues
        rw [hvalue, ih hrest hvalues]

end DocumentData

/-! ## Events and documents apart from one field -/

/-- The records of a payload that hold values of fields. -/
def EventPayload.records : EventPayload → List DocumentData
  | .documentCreated data _ => [data]
  | .documentUpdated patch _ => [patch]
  | .workflowTransitioned _ _ _ _ _ patch => [patch]
  | .domainCommandApplied _ input patch _ => [input, patch]
  | _ => []

variable {events events' : List DomainEvent} {snapshot snapshot' : Option DocumentSnapshot}
variable {payload payload' : EventPayload} {event event' : DomainEvent} {topic : RealtimeTopic}

section

variable (f : JsString)

/-- Payloads of one kind that differ in the values of one field only. -/
inductive PayloadAgreesApart : EventPayload → EventPayload → Prop
  | same (payload : EventPayload) : PayloadAgreesApart payload payload
  | documentCreated {data data' : DocumentData} (docstatus : DocStatus)
      (hdata : DocumentData.cover f data = DocumentData.cover f data') :
      PayloadAgreesApart (.documentCreated data docstatus) (.documentCreated data' docstatus)
  | documentUpdated {patch patch' : DocumentData} (unset : List JsString)
      (hpatch : DocumentData.cover f patch = DocumentData.cover f patch') :
      PayloadAgreesApart (.documentUpdated patch unset) (.documentUpdated patch' unset)
  | workflowTransitioned {patch patch' : DocumentData} (workflow stateField action «from» «to» : JsString)
      (hpatch : DocumentData.cover f patch = DocumentData.cover f patch') :
      PayloadAgreesApart (.workflowTransitioned workflow stateField action «from» «to» patch)
        (.workflowTransitioned workflow stateField action «from» «to» patch')
  | domainCommandApplied {input input' patch patch' : DocumentData} (command : JsString)
      (transitions : List DomainCommandTransitionFact)
      (hinput : DocumentData.cover f input = DocumentData.cover f input')
      (hpatch : DocumentData.cover f patch = DocumentData.cover f patch') :
      PayloadAgreesApart (.domainCommandApplied command input patch transitions)
        (.domainCommandApplied command input' patch' transitions)

structure EventAgreesApart (event event' : DomainEvent) : Prop where
  payload : PayloadAgreesApart f event.payload event'.payload
  rest : event' = { event with payload := event'.payload }

/-- Streams of the same events, apart from the values of one field. -/
abbrev StreamAgreesApart : List DomainEvent → List DomainEvent → Prop := List.Forall₂ (EventAgreesApart f)

def coverPayload : EventPayload → EventPayload
  | .documentCreated data docstatus => .documentCreated (DocumentData.cover f data) docstatus
  | .documentUpdated patch unset => .documentUpdated (DocumentData.cover f patch) unset
  | .workflowTransitioned workflow stateField action «from» «to» patch =>
    .workflowTransitioned workflow stateField action «from» «to» (DocumentData.cover f patch)
  | .domainCommandApplied command input patch transitions =>
    .domainCommandApplied command (DocumentData.cover f input) (DocumentData.cover f patch) transitions
  | payload => payload

def coverEvent (event : DomainEvent) : DomainEvent := { event with payload := coverPayload f event.payload }

def coverSnapshot (snapshot : DocumentSnapshot) : DocumentSnapshot :=
  { snapshot with data := DocumentData.cover f snapshot.data }

variable {f}

theorem PayloadAgreesApart.cover (h : PayloadAgreesApart f payload payload') :
    coverPayload f payload = coverPayload f payload' := by
  cases h with
  | same => rfl
  | documentCreated docstatus hdata => simp only [coverPayload, hdata]
  | documentUpdated unset hpatch => simp only [coverPayload, hpatch]
  | workflowTransitioned workflow stateField action «from» «to» hpatch => simp only [coverPayload, hpatch]
  | domainCommandApplied command transitions hinput hpatch => simp only [coverPayload, hinput, hpatch]

theorem EventAgreesApart.cover (h : EventAgreesApart f event event') :
    coverEvent f event = coverEvent f event' := by
  rw [h.rest]
  unfold coverEvent
  rw [h.payload.cover]

variable (f)

/-- **The fold does not mix fields.** -/
theorem foldEvent_cover (snapshot : Option DocumentSnapshot) (event : DomainEvent) :
    (foldEvent snapshot event).map (coverSnapshot f) =
      foldEvent (snapshot.map (coverSnapshot f)) (coverEvent f event) := by
  obtain ⟨⟨id, tenantId, stream, type, doctype, documentName, actorId, occurredAt, payload, metadata⟩, sequence⟩ := event
  -- an event that keeps the data, or merges into it, commutes with covering a field
  have hmap : ∀ (g h : DocumentSnapshot → DocumentSnapshot), (∀ s, coverSnapshot f (g s) = h (coverSnapshot f s)) →
      (snapshot.map g).map (coverSnapshot f) = (snapshot.map (coverSnapshot f)).map h := by
    intro g h hgh
    cases snapshot with
    | none => rfl
    | some s => exact congrArg some (hgh s)
  cases payload with
  | documentCreated data docstatus => rfl
  | documentUpdated patch unset =>
    refine hmap _ _ (fun s => ?_)
    show DocumentSnapshot.mk .. = DocumentSnapshot.mk ..
    congr 1
    show DocumentData.cover f (applyDocumentDataChange s.data patch unset) = _
    unfold applyDocumentDataChange
    rw [DocumentData.cover_without, DocumentData.cover_merge]
    rfl
  | workflowTransitioned workflow stateField action «from» «to» patch =>
    have hcurrent : isCurrentWorkflowTransitionPayload
          (.workflowTransitioned workflow stateField action «from» «to» (DocumentData.cover f patch)) =
        isCurrentWorkflowTransitionPayload (.workflowTransitioned workflow stateField action «from» «to» patch) := rfl
    simp only [foldEvent, coverEvent, coverPayload, hcurrent]
    split_ifs
    · refine hmap _ _ (fun s => ?_)
      show DocumentSnapshot.mk .. = DocumentSnapshot.mk ..
      congr 1
      exact DocumentData.cover_merge f s.data patch
    · rfl
  | domainCommandApplied command input patch transitions =>
    refine hmap _ _ (fun s => ?_)
    show DocumentSnapshot.mk .. = DocumentSnapshot.mk ..
    congr 1
    exact DocumentData.cover_merge f s.data patch
  | _ => first | rfl | exact hmap _ _ (fun s => rfl)

variable {f}

theorem foldEvent_agrees (hsnapshot : snapshot.map (coverSnapshot f) = snapshot'.map (coverSnapshot f))
    (hevent : EventAgreesApart f event event') :
    (foldEvent snapshot event).map (coverSnapshot f) = (foldEvent snapshot' event').map (coverSnapshot f) := by
  rw [foldEvent_cover, foldEvent_cover, hsnapshot, hevent.cover]

/-- Streams that agree apart from a field fold to documents that do. -/
theorem foldl_foldEvent_agrees (h : StreamAgreesApart f events events')
    (hsnapshot : snapshot.map (coverSnapshot f) = snapshot'.map (coverSnapshot f)) :
    (events.foldl foldEvent snapshot).map (coverSnapshot f) =
      (events'.foldl foldEvent snapshot').map (coverSnapshot f) := by
  induction h generalizing snapshot snapshot' with
  | nil => exact hsnapshot
  | cons hevent _ ih => exact ih (foldEvent_agrees hsnapshot hevent)

end

/-! ## Commits apart from one field -/

section

variable (f : JsString)

structure CommitAgreesApart (commit commit' : AfterCommitContext) : Prop where
  event : EventAgreesApart f commit.1 commit'.1
  snapshot : commit.2.map (coverSnapshot f) = commit'.2.map (coverSnapshot f)

/-- Two commits write the same values to the field, and leave the same one stored. -/
structure SameValues (commit commit' : AfterCommitContext) : Prop where
  written : commit.1.payload.records.map (DocumentData.valuesOf f) =
    commit'.1.payload.records.map (DocumentData.valuesOf f)
  stored : commit.2.map (fun snapshot => DocumentData.valuesOf f snapshot.data) =
    commit'.2.map (fun snapshot => DocumentData.valuesOf f snapshot.data)

variable {f}

theorem PayloadAgreesApart.eq_of_values (h : PayloadAgreesApart f payload payload')
    (hvalues : payload.records.map (DocumentData.valuesOf f) = payload'.records.map (DocumentData.valuesOf f)) :
    payload = payload' := by
  cases h with
  | same => rfl
  | documentCreated docstatus hdata => rw [DocumentData.eq_of_cover hdata (List.cons.inj hvalues).1]
  | documentUpdated unset hpatch => rw [DocumentData.eq_of_cover hpatch (List.cons.inj hvalues).1]
  | workflowTransitioned workflow stateField action «from» «to» hpatch =>
    rw [DocumentData.eq_of_cover hpatch (List.cons.inj hvalues).1]
  | domainCommandApplied command transitions hinput hpatch =>
    obtain ⟨hfirst, hrest⟩ := List.cons.inj hvalues
    rw [DocumentData.eq_of_cover hinput hfirst, DocumentData.eq_of_cover hpatch (List.cons.inj hrest).1]

/-- What a payload is written as shows its records. -/
theorem PayloadAgreesApart.values_of_members (h : PayloadAgreesApart f payload payload')
    (hmembers : payload.toMembers = payload'.toMembers) :
    payload.records.map (DocumentData.valuesOf f) = payload'.records.map (DocumentData.valuesOf f) := by
  cases h with
  | same => rfl
  | documentCreated docstatus hdata =>
    simp only [EventPayload.toMembers, List.cons.injEq, Prod.mk.injEq, Json.obj.injEq, true_and, and_true] at hmembers
    rw [hmembers]
  | documentUpdated unset hpatch =>
    simp only [EventPayload.toMembers, List.cons.injEq, Prod.mk.injEq, Json.obj.injEq, true_and, and_true] at hmembers
    rw [hmembers]
  | workflowTransitioned workflow stateField action «from» «to» hpatch =>
    simp only [EventPayload.toMembers, List.cons.injEq, Prod.mk.injEq, Json.obj.injEq, true_and, and_true] at hmembers
    rw [hmembers]
  | domainCommandApplied command transitions hinput hpatch =>
    simp only [EventPayload.toMembers, List.cons.injEq, Prod.mk.injEq, Json.obj.injEq, true_and, and_true] at hmembers
    rw [hmembers.1, hmembers.2]

theorem snapshot_eq_of_values (hcover : snapshot.map (coverSnapshot f) = snapshot'.map (coverSnapshot f))
    (hvalues : snapshot.map (fun s => DocumentData.valuesOf f s.data) =
      snapshot'.map (fun s => DocumentData.valuesOf f s.data)) : snapshot = snapshot' := by
  cases snapshot with
  | none => exact (Option.map_eq_none_iff.mp hcover.symm).symm
  | some s =>
    cases snapshot' with
    | none => cases hcover
    | some s' =>
      obtain ⟨tenantId, doctype, name, version, docstatus, data, createdAt, updatedAt⟩ := s
      obtain ⟨tenantId', doctype', name', version', docstatus', data', createdAt', updatedAt'⟩ := s'
      simp only [Option.map_some, coverSnapshot, Option.some.injEq, DocumentSnapshot.mk.injEq] at hcover hvalues
      obtain ⟨rfl, rfl, rfl, rfl, rfl, hdata, rfl, rfl⟩ := hcover
      rw [DocumentData.eq_of_cover hdata hvalues]

/-- What a document is written as shows its data. -/
theorem snapshot_values_of_toJson (h : (snapshot.map (·.toJson)).getD .null = (snapshot'.map (·.toJson)).getD .null) :
    snapshot.map (fun s => DocumentData.valuesOf f s.data) = snapshot'.map (fun s => DocumentData.valuesOf f s.data) := by
  cases snapshot with
  | none =>
    cases snapshot' with
    | none => rfl
    | some s' => cases h
  | some s =>
    cases snapshot' with
    | none => cases h
    | some s' =>
      simp only [Option.map_some, Option.getD_some, DocumentSnapshot.toJson, Json.obj.injEq, List.cons.injEq,
        Prod.mk.injEq, true_and] at h
      rw [Option.map_some, Option.map_some, h.2.2.2.2.2.1]

theorem CommitAgreesApart.eq_of_sameValues {commit commit' : AfterCommitContext} (h : CommitAgreesApart f commit commit')
    (hvalues : SameValues f commit commit') : commit = commit' := by
  have hpayload := h.event.payload.eq_of_values hvalues.written
  have hevent : commit.1 = commit'.1 := by
    rw [h.event.rest, ← hpayload]
  exact Prod.ext hevent (snapshot_eq_of_values h.snapshot hvalues.stored)

/-- **Publications show the field**: those of two commits are the same when the values in it are. -/
theorem CommitAgreesApart.publication_iff {commit commit' : AfterCommitContext} (h : CommitAgreesApart f commit commit')
    (topics : List RealtimeTopic) (tenantId : TenantId) :
    commitPublication topics tenantId commit = commitPublication topics tenantId commit' ↔
      SameValues f commit commit' := by
  constructor
  · intro hsame
    have hpayload := congrArg RealtimeEvent.payload hsame
    simp only [commitPublication, realtimePayload, Json.obj.injEq, List.cons.injEq, Prod.mk.injEq, true_and,
      and_true] at hpayload
    obtain ⟨hevent, hsnapshot⟩ := hpayload
    simp only [DomainEvent.toJson, Json.obj.injEq, List.cons.injEq, Prod.mk.injEq, true_and, and_true] at hevent
    exact ⟨h.event.payload.values_of_members hevent.2.2.2.2.2.2.2.2.2.1.2, snapshot_values_of_toJson hsnapshot⟩
  · intro hvalues
    rw [h.eq_of_sameValues hvalues]

/-- The commits of two streams that agree apart from a field do so one by one. -/
theorem zip_commitsFrom_agrees (h : StreamAgreesApart f events events')
    (hsnapshot : snapshot.map (coverSnapshot f) = snapshot'.map (coverSnapshot f)) :
    ∀ commits ∈ (commitsFrom snapshot events).zip (commitsFrom snapshot' events'),
      CommitAgreesApart f commits.1 commits.2 := by
  induction h generalizing snapshot snapshot' with
  | nil => intro commits hmem; exact absurd hmem List.not_mem_nil
  | cons hevent _ ih =>
    intro commits hmem
    have hfold := foldEvent_agrees hsnapshot hevent
    rcases List.mem_cons.mp hmem with rfl | htail
    · exact ⟨hevent, hfold⟩
    · exact ih hfold commits htail

theorem length_commitsFrom (snapshot : Option DocumentSnapshot) (events : List DomainEvent) :
    (commitsFrom snapshot events).length = events.length := by
  rw [← List.length_map (·.1), fst_commitsFrom]

/-- An event that agrees apart from a field is on the same document. -/
theorem EventAgreesApart.onDocument {tenantId : TenantId} {doctype : DocTypeName} {name : DocumentName}
    (h : EventAgreesApart f event event') (hevent : OnDocument tenantId doctype name event) :
    OnDocument tenantId doctype name event' := by
  rw [h.rest]
  exact ⟨hevent.tenantId, hevent.doctype, hevent.documentName⟩

theorem StreamAgreesApart.onDocument {tenantId : TenantId} {doctype : DocTypeName} {name : DocumentName}
    (h : StreamAgreesApart f events events') (hevents : ∀ event ∈ events, OnDocument tenantId doctype name event) :
    ∀ event ∈ events', OnDocument tenantId doctype name event := by
  induction h with
  | nil => exact hevents
  | cons hevent _ ih =>
    intro event hmem
    rcases List.mem_cons.mp hmem with rfl | htail
    · exact hevent.onDocument (hevents _ List.mem_cons_self)
    · exact ih (fun event hevent => hevents event (List.mem_cons_of_mem _ hevent)) event htail

end

/-! ## Sessions of two runs -/

/-- The rules of a DocType do not look at the document. -/
def DocTypeDefinition.Unconditional (doctype : DocTypeDefinition) : Prop :=
  (∀ rule ∈ doctype.permissions, rule.condition = none) ∧
    ∀ field ∈ doctype.fields, ∀ rule ∈ field.permissions, rule.condition = none

/-- The field is one of the DocType that the actor of the context may not read. -/
def MayNotRead (services : RealtimeServices) (context : FieldPermissionContext) (doctypeName : DocTypeName)
    (f : JsString) : Prop :=
  ∃ doctype field, services.doctypeFor doctypeName = .ok doctype ∧ doctype.field? f = some field ∧
    canReadField field context = false

/-- The subscription is accepted. -/
def Accepted (services : RealtimeServices) (streams : DocumentStreams) (actor : Actor)
    (requestedTopics : List JsString) : Prop :=
  ∃ topic, authorizeRealtime services streams actor requestedTopics = .ok topic

/-- The pairs of commits of two streams. -/
def commitPairs (snapshot snapshot' : Option DocumentSnapshot) (events events' : List DomainEvent) :
    List (AfterCommitContext × AfterCommitContext) :=
  (commitsFrom snapshot events).zip (commitsFrom snapshot' events')

/-- The pairs of commits that a session of two runs carries: what is replayed, and what comes later. -/
def deliveredPairs (options : RealtimeHubOptions) (request : Option RealtimeReplayRequest)
    (before before' after after' : List DomainEvent) : List (AfterCommitContext × AfterCommitContext) :=
  replayedEvents options request (commitPairs none none before before') ++
    commitPairs (before.foldl foldEvent none) (before'.foldl foldEvent none) after after'

section

variable {services : RealtimeServices} {streams : DocumentStreams} {actor : Actor} {requestedTopics : List JsString}
  {tenantId : TenantId} {doctype : DocTypeName} {name : DocumentName}

theorem authorizeRealtime_topic {scope : RealtimeTopicScope} (hscope : requireRealtimeTopic requestedTopics = .ok scope)
    (h : authorizeRealtime services streams actor requestedTopics = .ok topic) :
    realtimeTopicFromScope scope = .ok topic := by
  unfold authorizeRealtime at h
  rw [hscope] at h
  change (realtimeTopicFromScope scope).bind _ = _ at h
  obtain ⟨topic', htopic, h⟩ := except_bind_eq_ok h
  obtain ⟨-, -, h⟩ := except_bind_eq_ok h
  obtain ⟨-, -, h⟩ := except_bind_eq_ok h
  rw [htopic]
  exact h

theorem documentSession_eq (options : RealtimeHubOptions)
    (h : authorizeRealtime services streams actor requestedTopics = .ok topic) (request : Option RealtimeReplayRequest)
    (after : List DomainEvent) :
    documentSession options services streams actor requestedTopics request tenantId doctype name after =
      .ok (sessionMessages options topic request
        (topicPublications topic (commitsFrom none (streams tenantId doctype name)))
        (topicPublications topic (commitsFrom ((streams tenantId doctype name).foldl foldEvent none) after))) := by
  unfold documentSession
  rw [h]
  rfl

theorem map_fst_commitPairs {f : JsString} (h : StreamAgreesApart f events events')
    (snapshot snapshot' : Option DocumentSnapshot) :
    (commitPairs snapshot snapshot' events events').map (·.1) = commitsFrom snapshot events := by
  apply List.map_fst_zip
  rw [length_commitsFrom, length_commitsFrom, h.length_eq]

theorem map_snd_commitPairs {f : JsString} (h : StreamAgreesApart f events events')
    (snapshot snapshot' : Option DocumentSnapshot) :
    (commitPairs snapshot snapshot' events events').map (·.2) = commitsFrom snapshot' events' := by
  apply List.map_snd_zip
  rw [length_commitsFrom, length_commitsFrom, h.length_eq]

theorem mem_replayedEvents {E : Type} {options : RealtimeHubOptions} {request : Option RealtimeReplayRequest}
    {before : List E} {event : E} (h : event ∈ replayedEvents options request before) : event ∈ before := by
  unfold replayedEvents at h
  obtain ⟨request, -, h⟩ := List.mem_flatMap.mp h
  obtain ⟨entry, hentry, rfl⟩ := List.mem_map.mp h
  have hrows := List.mem_of_mem_filter (List.mem_of_mem_take hentry)
  have hnumbered := List.mem_of_mem_drop hrows
  rw [← event_numberFrom 0 before]
  exact List.mem_map_of_mem hnumbered

/-- Every commit of a stream of a document is on the document. -/
theorem commitsFrom_onDocument (h : ∀ event ∈ events, OnDocument tenantId doctype name event)
    (snapshot : Option DocumentSnapshot) :
    ∀ commit ∈ commitsFrom snapshot events, OnDocument tenantId doctype name commit.1 := by
  intro commit hmem
  apply h
  rw [← fst_commitsFrom snapshot events]
  exact List.mem_map_of_mem hmem

/-- Two accepted sessions are sent the same exactly when the commits they carry have the same values. -/
theorem sessionMessages_agree_iff (options : RealtimeHubOptions) (request : Option RealtimeReplayRequest) {f : JsString}
    (htopic : documentRealtimeTopic tenantId doctype name = .ok topic) {before before' after after' : List DomainEvent}
    (hdocument : ∀ event ∈ before ++ after, OnDocument tenantId doctype name event)
    (hbefore : StreamAgreesApart f before before') (hafter : StreamAgreesApart f after after') :
    sessionMessages options topic request (topicPublications topic (commitsFrom none before'))
          (topicPublications topic (commitsFrom (before'.foldl foldEvent none) after')) =
        sessionMessages options topic request (topicPublications topic (commitsFrom none before))
          (topicPublications topic (commitsFrom (before.foldl foldEvent none) after)) ↔
      ∀ commits ∈ deliveredPairs options request before before' after after', SameValues f commits.1 commits.2 := by
  obtain ⟨topics, htopics⟩ := publishedTo_afterCommitPublications htopic
  have hon : ∀ event ∈ before, OnDocument tenantId doctype name event :=
    fun event hmem => hdocument event (List.mem_append_left _ hmem)
  have honAfter : ∀ event ∈ after, OnDocument tenantId doctype name event :=
    fun event hmem => hdocument event (List.mem_append_right _ hmem)
  rw [topicPublications_eq htopics (commitsFrom_onDocument hon none),
    topicPublications_eq htopics (commitsFrom_onDocument honAfter _),
    topicPublications_eq htopics (commitsFrom_onDocument (hbefore.onDocument hon) none),
    topicPublications_eq htopics (commitsFrom_onDocument (hafter.onDocument honAfter) _),
    ← map_fst_commitPairs hbefore none none, ← map_snd_commitPairs hbefore none none,
    ← map_fst_commitPairs hafter (before.foldl foldEvent none) (before'.foldl foldEvent none),
    ← map_snd_commitPairs hafter (before.foldl foldEvent none) (before'.foldl foldEvent none)]
  -- the two sessions are images of one session of pairs
  rw [List.map_map, List.map_map, List.map_map, List.map_map, eq_comm, map_sessionMessages_eq_iff]
  apply forall₂_congr
  intro commits hmem
  have hagrees : CommitAgreesApart f commits.1 commits.2 := by
    rcases List.mem_append.mp hmem with hreplayed | hlive
    · exact zip_commitsFrom_agrees hbefore rfl commits (mem_replayedEvents hreplayed)
    · exact zip_commitsFrom_agrees hafter (foldl_foldEvent_agrees hbefore rfl) commits hlive
  exact hagrees.publication_iff topics tenantId

end

/-- **What a session tells about a field.** Between two runs that differ in the values of a field only, an
accepted session on the document is the same unless the actor may not read the field and the second run
rejects the session, or a commit that the session carries has other values in the field. -/
theorem documentSession_confidential_iff (options : RealtimeHubOptions) (services : RealtimeServices)
    (streams streams' : DocumentStreams) (context : FieldPermissionContext) (requestedTopics : List JsString)
    (request : Option RealtimeReplayRequest) (tenantId : TenantId) (doctype : DocTypeName) (name : DocumentName)
    (f : JsString) (after after' : List DomainEvent)
    (hscope : requireRealtimeTopic requestedTopics = .ok (.document tenantId doctype name))
    (haccepted : Accepted services streams context.actor requestedTopics)
    (hdocument : ∀ event ∈ streams tenantId doctype name ++ after, OnDocument tenantId doctype name event)
    (hbefore : StreamAgreesApart f (streams tenantId doctype name) (streams' tenantId doctype name))
    (hafter : StreamAgreesApart f after after') :
    (MayNotRead services context doctype f →
        documentSession options services streams' context.actor requestedTopics request tenantId doctype name after' =
          documentSession options services streams context.actor requestedTopics request tenantId doctype name after) ↔
      ¬MayNotRead services context doctype f ∨
        Accepted services streams' context.actor requestedTopics ∧
          ∀ commits ∈ deliveredPairs options request (streams tenantId doctype name) (streams' tenantId doctype name)
            after after', SameValues f commits.1 commits.2 := by
  rw [imp_iff_not_or]
  apply or_congr_right
  obtain ⟨topic, htopic⟩ := haccepted
  have hname := authorizeRealtime_topic hscope htopic
  -- the messages of a session agree exactly if the values of the field that it delivers do
  have hsame := sessionMessages_agree_iff options request hname hdocument hbefore hafter
  rw [documentSession_eq options htopic]
  constructor
  · intro hsession
    cases hauthorized : authorizeRealtime services streams' context.actor requestedTopics with
    | error e =>
      unfold documentSession at hsession
      rw [hauthorized] at hsession
      cases hsession
    | ok topic' =>
      obtain rfl : topic = topic' := Except.ok.inj (hname.symm.trans (authorizeRealtime_topic hscope hauthorized))
      rw [documentSession_eq options hauthorized, Except.ok.injEq] at hsession
      exact ⟨⟨topic, hauthorized⟩, hsame.mp hsession⟩
  · rintro ⟨⟨topic', hauthorized⟩, hvalues⟩
    obtain rfl : topic = topic' := Except.ok.inj (hname.symm.trans (authorizeRealtime_topic hscope hauthorized))
    rw [documentSession_eq options hauthorized, Except.ok.injEq]
    exact hsame.mpr hvalues

/-! ## A salary in two runs -/

namespace Payroll

/-- Only human resources may read a salary. -/
def salary : FieldDefinition where
  name := js "salary"
  type := .number
  permissions := [{ roles := [js "HR"], actions := [.read] }]

def employee : DocTypeDefinition where
  name := js "Employee"
  fields := [salary]
  permissions := [{ roles := [js "Staff"], actions := [.read] }]

def services : RealtimeServices where
  doctypeFor name :=
    if name = js "Employee" then .ok employee else .error { code := .doctypeNotFound, message := name, status := 404 }
  doctypeFor_name := by
    intro name doctype h
    split_ifs at h with hname
    rw [← Except.ok.inj h, hname]
    rfl
  permissionsFor _ _ := []

def context : FieldPermissionContext where
  actor := { id := js "ada", roles := [js "Staff"], tenantId := some (js "acme") }
  action := .read

def payrollEvent (sequence : Nat) (payload : EventPayload) : DomainEvent where
  id := js "evt" ++ Json.natToString sequence
  tenantId := js "acme"
  stream := js "acme:Employee:E1"
  sequence := sequence
  type := payload.kind
  doctype := js "Employee"
  documentName := js "E1"
  actorId := js "hr"
  occurredAt := js "2026-01-01T00:00:00.000Z"
  payload := payload
  metadata := []

def streams (amount : Nat) : DocumentStreams := fun _ _ _ =>
  [payrollEvent 1 (.documentCreated [(js "salary", .num amount)] .draft)]

def raises (amount : Nat) : List DomainEvent := [payrollEvent 2 (.documentUpdated [(js "salary", .num amount)] [])]

def topics : List JsString := [js "document:acme:Employee:E1"]

def session (amount amount' : Nat) : Except FrameworkError (List (RealtimeMessage RealtimeEvent)) :=
  documentSession {} services (streams amount) context.actor topics (some { after := some 0 }) (js "acme")
    (js "Employee") (js "E1") (raises amount')

theorem employee_unconditional : employee.Unconditional := by
  constructor
  · intro rule hrule
    obtain rfl := List.mem_singleton.mp hrule
    rfl
  · intro field hfield rule hrule
    obtain rfl := List.mem_singleton.mp hfield
    obtain rfl := List.mem_singleton.mp hrule
    rfl

theorem topics_scope : requireRealtimeTopic topics = .ok (.document (js "acme") (js "Employee") (js "E1")) := by
  decide +kernel

theorem onDocument_payroll (amount amount' : Nat) :
    ∀ event ∈ streams amount (js "acme") (js "Employee") (js "E1") ++ raises amount',
      OnDocument (js "acme") (js "Employee") (js "E1") event := by
  intro event hmem
  simp only [streams, raises, List.cons_append, List.nil_append, List.mem_cons, List.not_mem_nil, or_false] at hmem
  rcases hmem with rfl | rfl <;> exact ⟨rfl, rfl, rfl⟩

theorem streams_accepted : Accepted services (streams 100) context.actor topics :=
  ⟨js "document:acme:Employee:E1", by decide +kernel⟩

theorem streams_accepted' : Accepted services (streams 200) context.actor topics :=
  ⟨js "document:acme:Employee:E1", by decide +kernel⟩

theorem mayNotRead_salary : MayNotRead services context (js "Employee") (js "salary") :=
  ⟨employee, salary, rfl, rfl, by decide +kernel⟩

theorem streams_agree (amount amount' : Nat) :
    StreamAgreesApart (js "salary") (streams amount (js "acme") (js "Employee") (js "E1"))
      (streams amount' (js "acme") (js "Employee") (js "E1")) :=
  .cons ⟨.documentCreated .draft rfl, rfl⟩ .nil

theorem raises_agree (amount amount' : Nat) : StreamAgreesApart (js "salary") (raises amount) (raises amount') :=
  .cons ⟨.documentUpdated [] rfl, rfl⟩ .nil

end Payroll

/-- The two runs of `Payroll` satisfy what the theorem asks of runs. -/
theorem documentSession_confidential_iff_payroll :
    (MayNotRead Payroll.services Payroll.context (js "Employee") (js "salary") →
        Payroll.session 200 210 = Payroll.session 100 110) ↔
      ¬MayNotRead Payroll.services Payroll.context (js "Employee") (js "salary") ∨
        Accepted Payroll.services (Payroll.streams 200) Payroll.context.actor Payroll.topics ∧
          ∀ commits ∈ deliveredPairs {} (some { after := some 0 })
              (Payroll.streams 100 (js "acme") (js "Employee") (js "E1"))
              (Payroll.streams 200 (js "acme") (js "Employee") (js "E1")) (Payroll.raises 110) (Payroll.raises 210),
            SameValues (js "salary") commits.1 commits.2 :=
  documentSession_confidential_iff {} Payroll.services (Payroll.streams 100) (Payroll.streams 200) Payroll.context
    Payroll.topics (some { after := some 0 }) (js "acme") (js "Employee") (js "E1") (js "salary") (Payroll.raises 110)
    (Payroll.raises 210) Payroll.topics_scope Payroll.streams_accepted (Payroll.onDocument_payroll 100 110)
    (Payroll.streams_agree 100 200) (Payroll.raises_agree 110 210)

/-- **A field that the actor may not read comes through**: sessions of two runs are not the same. -/
theorem not_documentSession_confidential :
    ¬∀ (options : RealtimeHubOptions) (services : RealtimeServices) (streams streams' : DocumentStreams)
      (context : FieldPermissionContext) (requestedTopics : List JsString) (request : Option RealtimeReplayRequest)
      (tenantId : TenantId) (doctype : DocTypeName) (name : DocumentName) (f : JsString)
      (after after' : List DomainEvent),
      (∀ name doctype, services.doctypeFor name = .ok doctype → doctype.Unconditional) →
      requireRealtimeTopic requestedTopics = .ok (.document tenantId doctype name) →
      Accepted services streams context.actor requestedTopics →
      Accepted services streams' context.actor requestedTopics →
      (∀ event ∈ streams tenantId doctype name ++ after, OnDocument tenantId doctype name event) →
      StreamAgreesApart f (streams tenantId doctype name) (streams' tenantId doctype name) →
      StreamAgreesApart f after after' → MayNotRead services context doctype f →
        documentSession options services streams' context.actor requestedTopics request tenantId doctype name after' =
          documentSession options services streams context.actor requestedTopics request tenantId doctype name
            after := by
  intro h
  have hunconditional : ∀ name doctype, Payroll.services.doctypeFor name = .ok doctype → doctype.Unconditional := by
    intro name doctype hdoctype
    simp only [Payroll.services] at hdoctype
    split_ifs at hdoctype
    rw [← Except.ok.inj hdoctype]
    exact Payroll.employee_unconditional
  have hsame := h {} Payroll.services (Payroll.streams 100) (Payroll.streams 200) Payroll.context Payroll.topics
    (some { after := some 0 }) (js "acme") (js "Employee") (js "E1") (js "salary") (Payroll.raises 110)
    (Payroll.raises 210) hunconditional Payroll.topics_scope Payroll.streams_accepted Payroll.streams_accepted'
    (Payroll.onDocument_payroll 100 110) (Payroll.streams_agree 100 200) (Payroll.raises_agree 110 210)
    Payroll.mayNotRead_salary
  have hdiffer : Payroll.session 200 210 ≠ Payroll.session 100 110 := by decide +kernel
  exact hdiffer hsame
