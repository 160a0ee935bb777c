import CfFrappe.Lib.PercentEncoding

set_option autoImplicit false

/-! # Stream names

Every event stream of the framework is named by three escaped parts: the tenant, a DocType
and a document name. User documents use their own DocType; the framework's own records use
reserved DocTypes that start with two underscores, and pack several values into the last
part with colons between them.

`StreamRef` lists the calls of the stream-name constructors. A call whose tenant, names and
values are well-formed Unicode, with metadata names where the framework demands them, is
`Admissible`; the name of an admissible call can be read back (`readParts_parts`), so no two
admissible calls share a name (`streamName_injective`).
-/

open Utf PercentEncoding

/-! ## Identifiers -/

def isAsciiLetter (u : UInt16) : Bool := (0x41 ≤ u && u ≤ 0x5A) || (0x61 ≤ u && u ≤ 0x7A)

def isAsciiDigit (u : UInt16) : Bool := 0x30 ≤ u && u ≤ 0x39

/-- An author-facing metadata name: `/^[A-Za-z][A-Za-z0-9_ ]*$/`. -/
def isMetadataName : JsString → Bool
  | [] => false
  | u :: rest =>
    isAsciiLetter u && rest.all (fun c => isAsciiLetter c || isAsciiDigit c || c == 0x5F || c == 0x20)

/-- A naming counter: `/^[A-Za-z0-9][A-Za-z0-9_.-]*$/`. -/
def isNamingCounter : JsString → Bool
  | [] => false
  | u :: rest =>
    (isAsciiLetter u || isAsciiDigit u) &&
      rest.all (fun c => isAsciiLetter c || isAsciiDigit c || c == 0x5F || c == 0x2E || c == 0x2D)

/-! ## The constructors -/

/-- Replaces every full stop by its percent encoding. -/
def replaceDots (s : JsString) : JsString := s.flatMap (fun u => if u = 0x2E then js "%2E" else [u])

def escapePart (value : JsString) : Option JsString := (encodeURIComponent value).map replaceDots

def colon : UInt16 := 0x3A

/-- The name of a stream; `none` when a part holds an unpaired surrogate, where
`encodeURIComponent` throws. -/
def documentStream (tenantId doctype name : JsString) : Option JsString := do
  let tenantId ← escapePart tenantId
  let doctype ← escapePart doctype
  let name ← escapePart name
  return tenantId ++ [colon] ++ doctype ++ [colon] ++ name

def namingSeriesStream (tenantId doctype counter scope : JsString) : Option JsString :=
  documentStream tenantId (js "__NamingSeries")
    (doctype ++ [colon] ++ counter ++ if scope.isEmpty then [] else [colon] ++ scope)

def namingConfigurationStream (tenantId doctype : JsString) : Option JsString :=
  documentStream tenantId (js "__NamingConfiguration") doctype

def metadataRevisionStream (tenantId doctype : JsString) : Option JsString :=
  documentStream tenantId (js "__MetadataRevision") doctype

def uniqueValueStream (tenantId doctype field value : JsString) : Option JsString :=
  documentStream tenantId (js "__UniqueValues") (doctype ++ [colon] ++ field ++ [colon] ++ value)

def savedListFiltersStream (tenantId doctype ownerId : JsString) : Option JsString :=
  documentStream tenantId (js "__SavedListFilters") (doctype ++ [colon] ++ ownerId)

def savedReportsStream (tenantId doctype ownerId : JsString) : Option JsString :=
  documentStream tenantId (js "__SavedReports") (doctype ++ [colon] ++ ownerId)

def customFieldsCatalogStream (tenantId : JsString) : Option JsString :=
  documentStream tenantId (js "__CustomFields") (js "__catalog")

def customFieldsStream (tenantId doctype : JsString) : Option JsString :=
  documentStream tenantId (js "__CustomFields") doctype

def namedWorkflowStream (tenantId doctype workflowName : JsString) : Option JsString :=
  documentStream tenantId (js "__NamedWorkflows") (doctype ++ [colon] ++ workflowName)

def namedWorkflowStateFieldStream (tenantId doctype stateField : JsString) : Option JsString :=
  documentStream tenantId (js "__NamedWorkflowFields") (doctype ++ [colon] ++ stateField)

def fieldPropertyOverridesStream (tenantId : JsString) : Option JsString :=
  documentStream tenantId (js "__FieldProperties") (js "overrides")

def userPermissionsStream (tenantId userId : JsString) : Option JsString :=
  documentStream tenantId (js "__UserPermissions") userId

def userAccountsStream (tenantId userId : JsString) : Option JsString :=
  documentStream tenantId (js "__UserAccounts") userId

def userProfilesStream (tenantId userId : JsString) : Option JsString :=
  documentStream tenantId (js "__UserProfiles") userId

def printSettingsStream (tenantId : JsString) : Option JsString :=
  documentStream tenantId (js "__PrintSettings") (js "settings")

def userNotificationsStream (tenantId userId : JsString) : Option JsString :=
  documentStream tenantId (js "__UserNotifications") userId

def notificationRulesStream (tenantId : JsString) : Option JsString :=
  documentStream tenantId (js "__NotificationRules") (js "rules")

def assignmentRulesStream (tenantId : JsString) : Option JsString :=
  documentStream tenantId (js "__AssignmentRules") (js "rules")

def emailOutboxStream (tenantId messageId : JsString) : Option JsString :=
  documentStream tenantId (js "__EmailOutbox") messageId

def documentDeliveryOutboxStream (tenantId : JsString) : Option JsString :=
  documentStream tenantId (js "__DocumentDeliveryOutbox") (js "deliveries")

def automationRunStream (tenantId runId : JsString) : Option JsString :=
  documentStream tenantId (js "__AutomationRuns") runId

def roleCatalogStream (tenantId : JsString) : Option JsString :=
  documentStream tenantId (js "__Roles") (js "catalog")

def jobScheduleOverridesStream (tenantId : JsString) : Option JsString :=
  documentStream tenantId (js "__JobSchedules") (js "overrides")

def jobScheduleDefinitionsStream : Option JsString :=
  documentStream (js "__global__") (js "__JobSchedules") (js "definitions")

/-! ## Calls of the constructors -/

/-- A call of a stream-name constructor with its arguments. -/
inductive StreamRef
  | document (tenantId doctype name : JsString)
  | namingSeries (tenantId doctype counter scope : JsString)
  | namingConfiguration (tenantId doctype : JsString)
  | metadataRevision (tenantId doctype : JsString)
  | uniqueValue (tenantId doctype field value : JsString)
  | savedListFilters (tenantId doctype ownerId : JsString)
  | savedReports (tenantId doctype ownerId : JsString)
  | customFieldsCatalog (tenantId : JsString)
  | customFields (tenantId doctype : JsString)
  | namedWorkflow (tenantId doctype workflowName : JsString)
  | namedWorkflowStateField (tenantId doctype stateField : JsString)
  | fieldPropertyOverrides (tenantId : JsString)
  | userPermissions (tenantId userId : JsString)
  | userAccounts (tenantId userId : JsString)
  | userProfiles (tenantId userId : JsString)
  | printSettings (tenantId : JsString)
  | userNotifications (tenantId userId : JsString)
  | notificationRules (tenantId : JsString)
  | assignmentRules (tenantId : JsString)
  | emailOutbox (tenantId messageId : JsString)
  | documentDeliveryOutbox (tenantId : JsString)
  | automationRun (tenantId runId : JsString)
  | roleCatalog (tenantId : JsString)
  | jobScheduleOverrides (tenantId : JsString)
  | jobScheduleDefinitions
  deriving DecidableEq

variable {s t d a n : JsString}

namespace StreamRef

/-- The name the call returns. -/
def streamName : StreamRef → Option JsString
  | document t d n => documentStream t d n
  | namingSeries t d c s => namingSeriesStream t d c s
  | namingConfiguration t d => namingConfigurationStream t d
  | metadataRevision t d => metadataRevisionStream t d
  | uniqueValue t d f v => uniqueValueStream t d f v
  | savedListFilters t d o => savedListFiltersStream t d o
  | savedReports t d o => savedReportsStream t d o
  | customFieldsCatalog t => customFieldsCatalogStream t
  | customFields t d => customFieldsStream t d
  | namedWorkflow t d w => namedWorkflowStream t d w
  | namedWorkflowStateField t d f => namedWorkflowStateFieldStream t d f
  | fieldPropertyOverrides t => fieldPropertyOverridesStream t
  | userPermissions t u => userPermissionsStream t u
  | userAccounts t u => userAccountsStream t u
  | userProfiles t u => userProfilesStream t u
  | printSettings t => printSettingsStream t
  | userNotifications t u => userNotificationsStream t u
  | notificationRules t => notificationRulesStream t
  | assignmentRules t => assignmentRulesStream t
  | emailOutbox t m => emailOutboxStream t m
  | documentDeliveryOutbox t => documentDeliveryOutboxStream t
  | automationRun t r => automationRunStream t r
  | roleCatalog t => roleCatalogStream t
  | jobScheduleOverrides t => jobScheduleOverridesStream t
  | jobScheduleDefinitions => jobScheduleDefinitionsStream

/-- The tenant whose stream the call names. -/
def tenantId : StreamRef → JsString
  | document t .. | namingSeries t .. | namingConfiguration t .. | metadataRevision t ..
  | uniqueValue t .. | savedListFilters t .. | savedReports t .. | customFieldsCatalog t
  | customFields t .. | namedWorkflow t .. | namedWorkflowStateField t ..
  | fieldPropertyOverrides t | userPermissions t .. | userAccounts t .. | userProfiles t ..
  | printSettings t | userNotifications t .. | notificationRules t | assignmentRules t
  | emailOutbox t .. | documentDeliveryOutbox t | automationRun t .. | roleCatalog t
  | jobScheduleOverrides t => t
  | jobScheduleDefinitions => js "__global__"

/-- The DocType, field and counter names of the call are ones the framework accepts. -/
def validNames : StreamRef → Bool
  | document _ d _ | namingConfiguration _ d | metadataRevision _ d | savedListFilters _ d _
  | savedReports _ d _ | customFields _ d | namedWorkflow _ d _
  | namedWorkflowStateField _ d _ => isMetadataName d
  | namingSeries _ d c _ => isMetadataName d && isNamingCounter c
  | uniqueValue _ d f _ => isMetadataName d && isMetadataName f
  | _ => true

/-- Every argument of the call. -/
def arguments : StreamRef → List JsString
  | document t d n => [t, d, n]
  | namingSeries t d c s => [t, d, c, s]
  | uniqueValue t d f v => [t, d, f, v]
  | savedListFilters t d o | savedReports t d o | namedWorkflow t d o
  | namedWorkflowStateField t d o => [t, d, o]
  | namingConfiguration t d | metadataRevision t d | customFields t d | userPermissions t d
  | userAccounts t d | userProfiles t d | userNotifications t d | emailOutbox t d
  | automationRun t d => [t, d]
  | customFieldsCatalog t | fieldPropertyOverrides t | printSettings t | notificationRules t
  | assignmentRules t | documentDeliveryOutbox t | roleCatalog t | jobScheduleOverrides t => [t]
  | jobScheduleDefinitions => []

/-- A call the framework can make: valid names, and well-formed Unicode throughout. -/
structure Admissible (r : StreamRef) : Prop where
  names : r.validNames = true
  wellFormed : ∀ s ∈ r.arguments, WellFormed s

/-! ## Reading the three parts back -/

/-- The tenant, DocType and document name a call passes to `documentStream`. -/
def parts : StreamRef → JsString × JsString × JsString
  | document t d n => (t, d, n)
  | namingSeries t d c s =>
    (t, js "__NamingSeries", d ++ [colon] ++ c ++ if s.isEmpty then [] else [colon] ++ s)
  | namingConfiguration t d => (t, js "__NamingConfiguration", d)
  | metadataRevision t d => (t, js "__MetadataRevision", d)
  | uniqueValue t d f v => (t, js "__UniqueValues", d ++ [colon] ++ f ++ [colon] ++ v)
  | savedListFilters t d o => (t, js "__SavedListFilters", d ++ [colon] ++ o)
  | savedReports t d o => (t, js "__SavedReports", d ++ [colon] ++ o)
  | customFieldsCatalog t => (t, js "__CustomFields", js "__catalog")
  | customFields t d => (t, js "__CustomFields", d)
  | namedWorkflow t d w => (t, js "__NamedWorkflows", d ++ [colon] ++ w)
  | namedWorkflowStateField t d f => (t, js "__NamedWorkflowFields", d ++ [colon] ++ f)
  | fieldPropertyOverrides t => (t, js "__FieldProperties", js "overrides")
  | userPermissions t u => (t, js "__UserPermissions", u)
  | userAccounts t u => (t, js "__UserAccounts", u)
  | userProfiles t u => (t, js "__UserProfiles", u)
  | printSettings t => (t, js "__PrintSettings", js "settings")
  | userNotifications t u => (t, js "__UserNotifications", u)
  | notificationRules t => (t, js "__NotificationRules", js "rules")
  | assignmentRules t => (t, js "__AssignmentRules", js "rules")
  | emailOutbox t m => (t, js "__EmailOutbox", m)
  | documentDeliveryOutbox t => (t, js "__DocumentDeliveryOutbox", js "deliveries")
  | automationRun t r => (t, js "__AutomationRuns", r)
  | roleCatalog t => (t, js "__Roles", js "catalog")
  | jobScheduleOverrides t => (t, js "__JobSchedules", js "overrides")
  | jobScheduleDefinitions => (js "__global__", js "__JobSchedules", js "definitions")

theorem streamName_eq (r : StreamRef) : r.streamName = documentStream r.parts.1 r.parts.2.1 r.parts.2.2 := by
  cases r <;> rfl

/-- What stands before and after the first colon. -/
def splitColon (s : JsString) : JsString × JsString := (s.takeWhile (· ≠ colon), (s.dropWhile (· ≠ colon)).drop 1)

/-- The call with the given parts. -/
def readParts : JsString × JsString × JsString → StreamRef
  | (t, d, n) =>
    let head := (splitColon n).1
    let tail := (splitColon n).2
    if d = js "__NamingSeries" then
      namingSeries t head (splitColon tail).1 (splitColon tail).2
    else if d = js "__NamingConfiguration" then namingConfiguration t n
    else if d = js "__MetadataRevision" then metadataRevision t n
    else if d = js "__UniqueValues" then
      uniqueValue t head (splitColon tail).1 (splitColon tail).2
    else if d = js "__SavedListFilters" then savedListFilters t head tail
    else if d = js "__SavedReports" then savedReports t head tail
    else if d = js "__CustomFields" then
      if n = js "__catalog" then customFieldsCatalog t else customFields t n
    else if d = js "__NamedWorkflows" then namedWorkflow t head tail
    else if d = js "__NamedWorkflowFields" then namedWorkflowStateField t head tail
    else if d = js "__FieldProperties" then fieldPropertyOverrides t
    else if d = js "__UserPermissions" then userPermissions t n
    else if d = js "__UserAccounts" then userAccounts t n
    else if d = js "__UserProfiles" then userProfiles t n
    else if d = js "__PrintSettings" then printSettings t
    else if d = js "__UserNotifications" then userNotifications t n
    else if d = js "__NotificationRules" then notificationRules t
    else if d = js "__AssignmentRules" then assignmentRules t
    else if d = js "__EmailOutbox" then emailOutbox t n
    else if d = js "__DocumentDeliveryOutbox" then documentDeliveryOutbox t
    else if d = js "__AutomationRuns" then automationRun t n
    else if d = js "__Roles" then roleCatalog t
    else if d = js "__JobSchedules" then
      if n = js "overrides" then jobScheduleOverrides t else jobScheduleDefinitions
    else document t d n

theorem splitColon_append (b : JsString) (h : colon ∉ a) : splitColon (a ++ [colon] ++ b) = (a, b) := by
  have hp : ∀ u ∈ a, decide (u ≠ colon) = true := by
    intro u hu
    exact decide_eq_true (fun heq => h (heq ▸ hu))
  rw [splitColon, List.append_assoc, List.takeWhile_append_of_pos hp, List.dropWhile_append_of_pos hp]
  simp

theorem splitColon_of_notMem (h : colon ∉ a) : splitColon a = (a, []) := by
  have hp : ∀ u ∈ a, decide (u ≠ colon) = true := by
    intro u hu
    exact decide_eq_true (fun heq => h (heq ▸ hu))
  rw [splitColon, List.takeWhile_eq_self_iff.2 hp, List.dropWhile_eq_nil_iff.2 hp]
  rfl

theorem colon_notMem_metadataName (h : isMetadataName s = true) : colon ∉ s := by
  cases s with
  | nil => simp
  | cons u rest =>
    rw [isMetadataName, Bool.and_eq_true, List.all_eq_true] at h
    rintro (_ | ⟨_, hm⟩)
    · exact absurd h.1 (by decide)
    · exact absurd (h.2 colon hm) (by decide)

theorem colon_notMem_counter (h : isNamingCounter s = true) : colon ∉ s := by
  cases s with
  | nil => simp
  | cons u rest =>
    rw [isNamingCounter, Bool.and_eq_true, List.all_eq_true] at h
    rintro (_ | ⟨_, hm⟩)
    · exact absurd h.1 (by decide)
    · exact absurd (h.2 colon hm) (by decide)

/-- A metadata name is none of the framework's own, which are no metadata names. -/
theorem metadataName_ne (h : isMetadataName s = true) (ht : isMetadataName t = false) : s ≠ t := by
  rintro rfl
  rw [h] at ht
  exact absurd ht (by decide)

/-- A name of one DocType and one further value, read back. -/
theorem splitColon_doctype (h : isMetadataName d = true) (v : JsString) : splitColon (d ++ [colon] ++ v) = (d, v) :=
  splitColon_append v (colon_notMem_metadataName h)

/-- **The parts of a call with valid names determine it.** -/
theorem readParts_parts (r : StreamRef) (h : r.validNames = true) : readParts r.parts = r := by
  cases r with
  | document t d n =>
    simp only [parts, readParts]
    repeat refine (if_neg (metadataName_ne h (by rfl))).trans ?_
    rfl
  | namingSeries t d c s =>
    rw [validNames, Bool.and_eq_true] at h
    -- a counter has no colon, so the first one behind the doctype ends it
    have hc := colon_notMem_counter h.2
    show namingSeries t (splitColon _).1 (splitColon (splitColon _).2).1 (splitColon (splitColon _).2).2 = _
    rw [List.append_assoc, splitColon_doctype h.1]
    cases s with
    | nil => simp [splitColon_of_notMem hc]
    | cons u s =>
      have hs := splitColon_append (u :: s) hc
      rw [List.append_assoc] at hs
      simp only [List.isEmpty_cons, Bool.false_eq_true, if_false, hs]
  | uniqueValue t d f v =>
    rw [validNames, Bool.and_eq_true] at h
    show uniqueValue t (splitColon _).1 (splitColon (splitColon _).2).1 (splitColon (splitColon _).2).2 = _
    rw [List.append_assoc, List.append_assoc, splitColon_doctype h.1, ← List.append_assoc,
      splitColon_append v (colon_notMem_metadataName h.2)]
  | savedListFilters t d o =>
    show savedListFilters t (splitColon _).1 (splitColon _).2 = _
    rw [splitColon_doctype h]
  | savedReports t d o =>
    show savedReports t (splitColon _).1 (splitColon _).2 = _
    rw [splitColon_doctype h]
  | namedWorkflow t d w =>
    show namedWorkflow t (splitColon _).1 (splitColon _).2 = _
    rw [splitColon_doctype h]
  | namedWorkflowStateField t d f =>
    show namedWorkflowStateField t (splitColon _).1 (splitColon _).2 = _
    rw [splitColon_doctype h]
  | customFields t d =>
    show (if d = js "__catalog" then _ else _) = _
    rw [if_neg (metadataName_ne h (by rfl))]
  | _ => rfl

/-! ## The escaped parts -/

/-- The characters `escapePart` writes as themselves. -/
def isKept (c : Nat) : Bool := isUriUnreserved c && c != 0x2E

theorem isKept_ascii (c : Nat) (h : isKept c = true) : c < 0x80 ∧ c ≠ 0x25 := by
  simp only [isKept, isUriUnreserved, isAsciiAlphanumeric, Bool.and_eq_true, Bool.or_eq_true,
    decide_eq_true_eq, List.contains_eq_mem, List.mem_cons, List.not_mem_nil, or_false] at h
  omega

theorem replaceDots_of_notMem (h : (0x2E : UInt16) ∉ s) : replaceDots s = s := by
  induction s with
  | nil => rfl
  | cons u s ih =>
    rw [List.mem_cons, not_or] at h
    have hs : replaceDots (u :: s) = u :: replaceDots s := by
      simp [replaceDots, Ne.symm h.1]
    rw [hs, ih h.2]

/-- No unit of a percent-encoded character is one that is neither kept nor a digit. -/
theorem notMem_percentEncode {keep : Nat → Bool} (hkeep : ∀ c, keep c = true → c < 0x80)
    {c : Nat} (hc : c < 0x110000) {u : UInt16} (hu : keep u.toNat = false)
    (hp : u ≠ 0x25) (hd : ∀ n < 16, u ≠ hexDigit n) : u ∉ percentEncode keep c := by
  intro hm
  rcases mem_percentEncode hc hm with ⟨hk, hm⟩ | h | ⟨n, hn, h⟩
  · have hlt := hkeep c hk
    rw [utf16, if_pos (by omega), List.mem_singleton] at hm
    subst hm
    rw [UInt16.toNat_ofNat', Nat.mod_eq_of_lt (by omega), hk] at hu
    exact absurd hu (by decide)
  · exact hp h
  · exact hd n hn h

/-- Escaping writes each character of a part on its own. -/
theorem replaceDots_percentEncode {c : Nat} (hc : c < 0x110000) :
    replaceDots (percentEncode isUriUnreserved c) = percentEncode isKept c := by
  by_cases hdot : c = 0x2E
  · subst hdot
    decide
  · have hk : percentEncode isKept c = percentEncode isUriUnreserved c := by
      simp [percentEncode, isKept, hdot]
    rw [← hk]
    refine replaceDots_of_notMem (notMem_percentEncode (fun c h => (isKept_ascii c h).1) hc
      (by decide) (by decide) (by decide))

theorem replaceDots_append (a b : JsString) : replaceDots (a ++ b) = replaceDots a ++ replaceDots b :=
  List.flatMap_append

/-- The escaped form of a part. -/
def escaped (s : JsString) : JsString := (codePoints s).flatMap (percentEncode isKept)

theorem replaceDots_flatMap (cs : List Nat) (h : ∀ c ∈ cs, c < 0x110000) :
    replaceDots (cs.flatMap (percentEncode isUriUnreserved)) = cs.flatMap (percentEncode isKept) := by
  induction cs with
  | nil => rfl
  | cons c cs ih =>
    rw [List.forall_mem_cons] at h
    rw [List.flatMap_cons, replaceDots_append, replaceDots_percentEncode h.1, ih h.2, List.flatMap_cons]

theorem escapePart_of_wellFormed (h : WellFormed s) : escapePart s = some (escaped s) := by
  rw [escapePart, encodeURIComponent_of_wellFormed h, Option.map_some,
    replaceDots_flatMap _ (codePoints_lt s), escaped]

theorem escapePart_eq_some {e : JsString} (h : escapePart s = some e) : e = escaped s := by
  by_cases hs : WellFormed s
  · rw [escapePart_of_wellFormed hs, Option.some.injEq] at h
    exact h.symm
  · have hany : (codePoints s).any isSurrogatePoint = true := by
      simpa [WellFormed] using hs
    rw [escapePart, encodeURIComponent, if_pos hany] at h
    exact absurd h (by simp)

theorem escaped_injective (h : escaped s = escaped t) : s = t := percentEncode_text_injective isKept_ascii h

theorem colon_notMem_escaped (s : JsString) : colon ∉ escaped s := by
  rw [escaped, List.mem_flatMap]
  rintro ⟨c, hc, hm⟩
  exact notMem_percentEncode (fun c h => (isKept_ascii c h).1) (codePoints_lt s c hc)
    (by decide) (by decide) (by decide) hm

/-! ## No two calls share a name -/

theorem documentStream_eq_some (h : documentStream t d n = some s) :
    s = escaped t ++ [colon] ++ (escaped d ++ [colon] ++ escaped n) := by
  simp only [documentStream, Option.bind_eq_bind, Option.bind_eq_some_iff, Option.pure_def, Option.some.injEq] at h
  obtain ⟨t', ht, d', hd, n', hn, rfl⟩ := h
  rw [escapePart_eq_some ht, escapePart_eq_some hd, escapePart_eq_some hn]
  simp

theorem documentStream_of_wellFormed (ht : WellFormed t) (hd : WellFormed d) (hn : WellFormed n) :
    ∃ s, documentStream t d n = some s := by
  simp [documentStream, escapePart_of_wellFormed ht, escapePart_of_wellFormed hd, escapePart_of_wellFormed hn]

theorem documentStream_injective {t' d' n' : JsString} (h : documentStream t d n = some s)
    (h' : documentStream t' d' n' = some s) :
    (t, d, n) = (t', d', n') := by
  have heq := (documentStream_eq_some h).symm.trans (documentStream_eq_some h')
  have hs := congrArg splitColon heq
  rw [splitColon_append _ (colon_notMem_escaped t), splitColon_append _ (colon_notMem_escaped t'),
    Prod.mk.injEq] at hs
  have hs' := congrArg splitColon hs.2
  rw [splitColon_append _ (colon_notMem_escaped d), splitColon_append _ (colon_notMem_escaped d'),
    Prod.mk.injEq] at hs'
  rw [escaped_injective hs.1, escaped_injective hs'.1, escaped_injective hs'.2]

/-- **Calls with valid names that return the same name are the same call.** -/
theorem eq_of_streamName {r r' : StreamRef} (hr : r.validNames = true) (hr' : r'.validNames = true)
    (h : r.streamName = some s) (h' : r'.streamName = some s) :
    r = r' := by
  rw [streamName_eq] at h h'
  have hp : r.parts = r'.parts := documentStream_injective h h'
  rw [← readParts_parts r hr, hp, readParts_parts r' hr']

theorem wellFormed_joined {b : JsString} (ha : WellFormed a) (hb : WellFormed b) :
    WellFormed (a ++ [colon] ++ b) := by
  rw [List.append_assoc]
  exact ha.append_cons (by decide) hb

/-- The DocType part of a call is the one given or one of the framework's own. -/
theorem wellFormed_doctypePart (r : StreamRef) (h : ∀ s ∈ r.arguments, WellFormed s) : WellFormed r.parts.2.1 := by
  cases r with
  | document t d n => exact h d (by simp [arguments])
  | _ => show WellFormed (js _); decide

/-- The last part of a call joins values of the call, or is a fixed one. -/
theorem wellFormed_namePart (r : StreamRef) (h : ∀ s ∈ r.arguments, WellFormed s) : WellFormed r.parts.2.2 := by
  cases r with
  | document t d n => exact h n (by simp [arguments])
  | namingSeries t d c s =>
    have hdc := wellFormed_joined (h d (by simp [arguments])) (h c (by simp [arguments]))
    simp only [parts]
    split_ifs
    · rw [List.append_nil]
      exact hdc
    · rw [← List.append_assoc]
      exact wellFormed_joined hdc (h s (by simp [arguments]))
  | uniqueValue t d f v =>
    exact wellFormed_joined
      (wellFormed_joined (h d (by simp [arguments])) (h f (by simp [arguments])))
      (h v (by simp [arguments]))
  | savedListFilters t d o | savedReports t d o | namedWorkflow t d o
  | namedWorkflowStateField t d o =>
    exact wellFormed_joined (h d (by simp [arguments])) (h o (by simp [arguments]))
  | namingConfiguration t d | metadataRevision t d | customFields t d | userPermissions t d
  | userAccounts t d | userProfiles t d | userNotifications t d | emailOutbox t d
  | automationRun t d => exact h d (by simp [arguments])
  | _ => show WellFormed (js _); decide

/-- The parts of an admissible call are well-formed, so the call returns a name. -/
theorem Admissible.streamName_isSome {r : StreamRef} (h : r.Admissible) : ∃ s, r.streamName = some s := by
  have ht : WellFormed r.parts.1 := by
    have hw := h.wellFormed
    cases r with
    | jobScheduleDefinitions => show WellFormed (js _); decide
    | _ => exact hw _ (by simp [arguments, parts])
  rw [streamName_eq]
  exact documentStream_of_wellFormed ht (wellFormed_doctypePart r h.wellFormed) (wellFormed_namePart r h.wellFormed)

/-- **Stream names never collide**: an admissible call returns a name, two admissible calls
return the same name only when they are the same constructor applied to the same arguments,
and the streams of different tenants are different. -/
theorem streamName_collision_free (r r' : StreamRef) (h : r.Admissible) (h' : r'.Admissible) :
    (∃ s, r.streamName = some s) ∧ (r.streamName = r'.streamName ↔ r = r') ∧
      (r.tenantId ≠ r'.tenantId → r.streamName ≠ r'.streamName) := by
  obtain ⟨s, hs⟩ := h.streamName_isSome
  have hinj : r.streamName = r'.streamName → r = r' := fun heq => eq_of_streamName h.names h'.names hs (heq ▸ hs)
  refine ⟨⟨s, hs⟩, ⟨hinj, fun heq => by rw [heq]⟩, ?_⟩
  intro hne heq
  exact hne (by rw [hinj heq])

theorem streamName_collision_free_note :
    (document (js "a:b") (js "Note") (js "x.😀")).streamName ≠
      (uniqueValue (js "a") (js "Note") (js "title") (js "s:x")).streamName :=
  (streamName_collision_free (document (js "a:b") (js "Note") (js "x.😀"))
    (uniqueValue (js "a") (js "Note") (js "title") (js "s:x"))
    ⟨by decide, by decide⟩ ⟨by decide, by decide⟩).2.2 (by decide)

end StreamRef
