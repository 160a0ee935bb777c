import CfFrappe.Application.EmailVerification
import CfFrappe.Lib.Alone
import CfFrappe.Lib.NormalForms

set_option autoImplicit false

/-! # Provider syncs

A login through an identity provider runs `syncProvider`, so the command runs again and again with the
same contents. The account and the link that the first run leaves agree with the command in all that it says
(`InSync`), the time of the verification included; a run on such an account appends nothing, at whatever time.
-/

open Utf UserAccountService
open Program (eval_bind_ok eval_ofExcept eval_ofExcept_ok of_eval_bind_ok of_eval_ofExcept_ok)

/-! ## Role names in normal form -/

theorem head?_collapseWhitespace {text : JsString} (h : text.head?.any Json.isWhitespace = false) :
    (collapseWhitespace text).head? = text.head? := by
  cases text with
  | nil => rfl
  | cons u text =>
    have hu : ¬ Json.isWhitespace u = true := by simpa using h
    rw [collapseWhitespace, if_neg hu]
    rfl

theorem getLast?_collapseWhitespace {text : JsString} (h : text.getLast?.any Json.isWhitespace = false) :
    (collapseWhitespace text).getLast? = text.getLast? := by
  induction text with
  | nil => rfl
  | cons u text ih =>
    cases text with
    | nil =>
      have hu : ¬ Json.isWhitespace u = true := by simpa using h
      rw [collapseWhitespace, if_neg hu]
      rfl
    | cons v text =>
      rw [List.getLast?_cons_cons] at h ⊢
      -- the rest does not become empty, so its last unit stays the last one
      have hrest := ih h
      have hcons : ∀ w, (w :: collapseWhitespace (v :: text)).getLast? = (v :: text).getLast? := by
        intro w
        rw [List.getLast?_cons, hrest]
        cases hlast : (v :: text).getLast? with
        | none => exact absurd (List.getLast?_eq_none_iff.mp hlast) (List.cons_ne_nil v text)
        | some last => rfl
      rw [collapseWhitespace]
      split_ifs
      · exact hrest
      · exact hcons _
      · exact hcons _

theorem collapseWhitespace_collapseWhitespace (text : JsString) :
    collapseWhitespace (collapseWhitespace text) = collapseWhitespace text := by
  induction text with
  | nil => rfl
  | cons u text ih =>
    rw [collapseWhitespace]
    split_ifs with hu hnext
    · exact ih
    · have hhead : (collapseWhitespace text).head? = text.head? := by
        apply head?_collapseWhitespace
        simpa using hnext
      rw [collapseWhitespace, if_pos (by decide), hhead, if_neg hnext, ih]
    · rw [collapseWhitespace, if_neg hu, ih]

theorem normalizeRoleName_normalizeRoleName (role : JsString) :
    normalizeRoleName (normalizeRoleName role) = normalizeRoleName role := by
  have htrimmed : Trimmed Json.isWhitespace (Json.trim role) := trimmed_dropWhile role
  have hcollapsed : Trimmed Json.isWhitespace (collapseWhitespace (Json.trim role)) :=
    { head := by rw [head?_collapseWhitespace htrimmed.head]; exact htrimmed.head
      last := by rw [getLast?_collapseWhitespace htrimmed.last]; exact htrimmed.last }
  have htrim : Json.trim (normalizeRoleName role) = normalizeRoleName role := hcollapsed.dropWhile_eq
  rw [normalizeRoleName, htrim]
  exact collapseWhitespace_collapseWhitespace _

section Roles

variable (platform : UserAccountPlatform) [Std.TransCmp platform.localeCompare]

/-- Roles in normal form are left as they are. -/
theorem normalizeUserRoles_normalizeUserRoles (roles : List JsString) :
    normalizeUserRoles platform (normalizeUserRoles platform roles) = normalizeUserRoles platform roles := by
  have hnames : ∀ role ∈ normalizeUserRoles platform roles, normalizeRoleName role = role ∧ role ≠ [] := by
    intro role hrole
    have hmem : role ∈ (roles.map normalizeRoleName).filter (fun role => !role.isEmpty) :=
      (mem_sortedSet platform.localeCompare).mp hrole
    rw [List.mem_filter, List.mem_map] at hmem
    constructor
    · obtain ⟨⟨original, -, rfl⟩, -⟩ := hmem
      exact normalizeRoleName_normalizeRoleName original
    · simpa using hmem.2
  have hmap : (normalizeUserRoles platform roles).map normalizeRoleName = normalizeUserRoles platform roles := by
    calc (normalizeUserRoles platform roles).map normalizeRoleName
        = (normalizeUserRoles platform roles).map id := List.map_congr_left (fun role hrole => (hnames role hrole).1)
      _ = normalizeUserRoles platform roles := List.map_id _
  have hfilter : (normalizeUserRoles platform roles).filter (fun role => !role.isEmpty) =
      normalizeUserRoles platform roles := by
    apply List.filter_eq_self.mpr
    intro role hrole
    simpa using (hnames role hrole).2
  rw [normalizeUserRoles, hmap, hfilter]
  exact sortedSet_sortedSet platform.localeCompare _

theorem normalizeRequiredUserRoles_normal {roles normal : List JsString}
    (h : normalizeRequiredUserRoles platform roles = .ok normal) : normalizeUserRoles platform normal = normal := by
  unfold normalizeRequiredUserRoles at h
  dsimp only at h
  split_ifs at h
  obtain rfl := Except.ok.inj h
  exact normalizeUserRoles_normalizeUserRoles platform roles

end Roles

/-! ## The link after a sync -/

section Links

variable {platform : UserAccountPlatform} {providers : List UserAuthProviderLink} {patch : UserAuthProviderPatch}
variable {linkedAt : Option Timestamp} {lastSyncedAt : Timestamp}

/-- What a patch says is in the link. -/
structure LinkFollows (platform : UserAccountPlatform) (patch : UserAuthProviderPatch) (link : UserAuthProviderLink) :
    Prop where
  email : ∀ email, patch.email = some email → link.email = some email
  roles : ∀ roles, patch.roles = some roles → link.roles = some (normalizeUserRoles platform roles)
  enabled : ∀ enabled, patch.enabled = some enabled → link.enabled = some enabled
  emailVerifiedAt : ∀ verifiedAt, patch.emailVerifiedAt = some verifiedAt → link.emailVerifiedAt = verifiedAt

/-- An upsert puts one link in the place of those of its provider and subject. -/
theorem mem_upsertProviderLink :
    ∃ link, (∀ other, other ∈ upsertProviderLink platform providers patch linkedAt lastSyncedAt ↔
        (other ∈ providers ∧ isProviderLink patch.provider patch.subject other = false) ∨ other = link) ∧
      isProviderLink patch.provider patch.subject link = true ∧ LinkFollows platform patch link := by
  let current := providers.find? (isProviderLink patch.provider patch.subject)
  let link : UserAuthProviderLink :=
    { provider := patch.provider
      subject := patch.subject
      email := patch.email.or (current.bind (·.email))
      roles := (patch.roles.map (normalizeUserRoles platform)).or (current.bind (·.roles))
      enabled := patch.enabled.or (current.bind (·.enabled))
      emailVerifiedAt := providerLinkEmailVerifiedAt current patch
      linkedAt := ((current.map (·.linkedAt)).or linkedAt).getD lastSyncedAt
      lastSyncedAt }
  refine ⟨link, ?_, ?_, ?_⟩
  · intro other
    rw [upsertProviderLink, List.mem_insertionSort, List.mem_append, List.mem_filter, List.mem_singleton,
      Bool.not_eq_true']
  · simp [isProviderLink, link]
  · constructor
    · intro email hemail
      simp [link, hemail]
    · intro roles hroles
      simp [link, hroles]
    · intro enabled henabled
      simp [link, henabled]
    · intro verifiedAt hverified
      simp [link, providerLinkEmailVerifiedAt, hverified]

/-- The link is found again after an upsert. -/
theorem find?_upsertProviderLink :
    ∃ link, (upsertProviderLink platform providers patch linkedAt lastSyncedAt).find?
        (isProviderLink patch.provider patch.subject) = some link ∧ LinkFollows platform patch link := by
  obtain ⟨link, hupsert, hfits, hfollows⟩ := @mem_upsertProviderLink platform providers patch linkedAt lastSyncedAt
  cases hfound : (upsertProviderLink platform providers patch linkedAt lastSyncedAt).find?
      (isProviderLink patch.provider patch.subject) with
  | none =>
    have hnone := List.find?_eq_none.mp hfound link ((hupsert link).mpr (Or.inr rfl))
    exact absurd hfits hnone
  | some found =>
    have hfits' := List.find?_some hfound
    rcases (hupsert found).mp (List.mem_of_find?_eq_some hfound) with ⟨-, hother⟩ | hsame
    · rw [hother] at hfits'
      exact absurd hfits' (by decide)
    · exact ⟨link, congrArg some hsame, hfollows⟩

end Links

/-- The account and the link agree with what a command says, so that there is nothing to change. -/
structure InSync (command : SyncAuthProviderAccountCommand) (sync : ProviderSync) (state : UserAccountState)
    (link : UserAuthProviderLink) : Prop where
  email : ∀ email, sync.email = some email → state.email = some email ∧ link.email = some email
  roles : ∀ roles, sync.roles = some roles → state.roles = roles ∧ link.roles.getD [] = roles
  enabled : ∀ enabled, command.enabled = some enabled → state.enabled = enabled ∧ link.enabled = some enabled
  refuted : command.emailVerified = some false → state.emailVerifiedAt = none ∧ link.emailVerifiedAt = none
  verified : command.emailVerified = some true → state.email ≠ none ∧
    ∃ time, state.emailVerifiedAt = some time ∧ link.emailVerifiedAt = some time

section Agreement

variable {command : SyncAuthProviderAccountCommand} {sync : ProviderSync} {state : UserAccountState}
variable {link : UserAuthProviderLink}

/-- At whatever time the command runs: there is nothing to change. -/
theorem InSync.unchanged (h : InSync command sync state link) (now : Timestamp) :
    ∃ verified, emailVerificationPatch command.emailVerified (sync.email.or state.email) state.email
        state.emailVerifiedAt now = .ok verified ∧
      providerSyncChangesState state link (providerPatch command sync verified) = false := by
  have heffective : sync.email.or state.email = state.email := by
    cases hemail : sync.email with
    | none => rfl
    | some email => exact (h.email email hemail).1.symm
  -- the time of the verification is the one that is there already
  obtain ⟨verified, hpatch, hverified⟩ : ∃ verified, emailVerificationPatch command.emailVerified
      (sync.email.or state.email) state.email state.emailVerifiedAt now = .ok verified ∧
      ∀ next, verified = some next → state.emailVerifiedAt = next ∧ link.emailVerifiedAt = next := by
    rw [heffective]
    cases hsaid : command.emailVerified with
    | none => exact ⟨none, rfl, fun _ hnext => absurd hnext (Option.some_ne_none _).symm⟩
    | some said =>
      cases said with
      | false =>
        refine ⟨some none, rfl, ?_⟩
        intro next hnext
        obtain rfl := Option.some.inj hnext
        exact h.refuted hsaid
      | true =>
        obtain ⟨hsome, time, hstate, hlink⟩ := h.verified hsaid
        refine ⟨some (some time), ?_, ?_⟩
        · have hisNone : ¬ state.email.isNone = true := by simpa using hsome
          rw [emailVerificationPatch, if_neg hisNone, if_pos rfl, hstate]
          rfl
        · intro next hnext
          obtain rfl := Option.some.inj hnext
          exact ⟨hstate, hlink⟩
  refine ⟨verified, hpatch, ?_⟩
  simp only [providerSyncChangesState, providerPatch, Bool.or_eq_false_iff, Option.any_eq_false, ne_eq, decide_not]
  refine ⟨⟨⟨?_, ?_⟩, ?_⟩, ?_⟩
  · intro email hemail
    simp [h.email email hemail]
  · intro roles hroles
    simp [h.roles roles hroles]
  · intro enabled henabled
    simp [h.enabled enabled henabled]
  · intro next hnext
    simp [hverified next hnext]

/-- A run that has found nothing to change has found the account in sync. -/
theorem InSync.of_unchanged {now : Timestamp} {verified : Option (Option Timestamp)}
    (hpatch : emailVerificationPatch command.emailVerified (sync.email.or state.email) state.email
      state.emailVerifiedAt now = .ok verified)
    (h : providerSyncChangesState state link (providerPatch command sync verified) = false) :
    InSync command sync state link := by
  simp only [providerSyncChangesState, providerPatch, Bool.or_eq_false_iff, Option.any_eq_false] at h
  have hemail : ∀ email, sync.email = some email → state.email = some email ∧ link.email = some email := by
    intro email hemail
    have hsame := h.1.1.1 email hemail
    simpa using hsame
  have hverified : ∀ next, verified = some next → state.emailVerifiedAt = next ∧ link.emailVerifiedAt = next := by
    intro next hnext
    have hsame := h.2 next hnext
    simpa using hsame
  constructor
  · exact hemail
  · intro roles hroles
    have hsame := h.1.1.2 roles hroles
    simpa using hsame
  · intro enabled henabled
    have hsame := h.1.2 enabled henabled
    simpa using hsame
  · intro hfalse
    rcases emailVerificationPatch_cases hpatch with ⟨hnone, -⟩ | ⟨-, hnull⟩ | ⟨htrue, -⟩
    · exact nomatch hnone.symm.trans hfalse
    · exact hverified none hnull
    · exact nomatch htrue.symm.trans hfalse
  · intro htrue
    rcases emailVerificationPatch_cases hpatch with ⟨hnone, -⟩ | ⟨hfalse, -⟩ | ⟨-, ⟨address, haddress⟩, time, htime⟩
    · exact nomatch hnone.symm.trans htrue
    · exact nomatch hfalse.symm.trans htrue
    · refine ⟨?_, time, hverified _ htime⟩
      intro hstate
      rw [hstate, Option.or_none] at haddress
      have hsome := (hemail address haddress).1
      rw [hstate] at hsome
      exact nomatch hsome

end Agreement

/-! ## The account after a sync -/

section Patches

variable (platform : UserAccountPlatform) (state : UserAccountState) (patch : UserAuthProviderPatch)
variable (occurredAt : Timestamp)

@[simp] theorem applyProviderAccountPatch_roles :
    (applyProviderAccountPatch platform state patch occurredAt).roles =
      (patch.roles.map (normalizeUserRoles platform)).getD state.roles := by
  unfold applyProviderAccountPatch
  rcases patch.emailVerifiedAt with _ | _ | _ <;> rfl

@[simp] theorem applyProviderAccountPatch_enabled :
    (applyProviderAccountPatch platform state patch occurredAt).enabled = patch.enabled.getD state.enabled := by
  unfold applyProviderAccountPatch
  rcases patch.emailVerifiedAt with _ | _ | _ <;> rfl

end Patches

/-- `state'` is `state` with what a patch says, and the link of the provider is in it. -/
structure PatchApplied (platform : UserAccountPlatform) (patch : UserAuthProviderPatch)
    (state state' : UserAccountState) : Prop where
  exists_eq : state'.exists = true
  email : state'.email = patch.email.or state.email
  roles : state'.roles = (patch.roles.map (normalizeUserRoles platform)).getD state.roles
  enabled : state'.enabled = patch.enabled.getD state.enabled
  emailVerifiedAt : state'.emailVerifiedAt = patch.emailVerifiedAt.getD state.emailVerifiedAt
  link : ∃ link, state'.providers.find? (isProviderLink patch.provider patch.subject) = some link ∧
    LinkFollows platform patch link

section Applied

variable {platform : UserAccountPlatform} {tenantId : TenantId} {userId : JsString}
variable {state state' : UserAccountState} {patch : UserAuthProviderPatch}

/-- An event of the provider applies its patch to an account that exists. -/
theorem patchApplied_of_event {event : Recorded UserAccountEvent} (hexists : state.exists = true)
    (hpayload : event.event.payload = .authProviderLinked userId patch ∨
      event.event.payload = .authProviderSynced userId patch) :
    PatchApplied platform patch state (applyUserAccountEvent platform tenantId userId state event) := by
  rcases hpayload with hpayload | hpayload
  all_goals
    simp only [applyUserAccountEvent, hpayload, UserAccountEventPayload.userId?, hexists, if_true,
      applyUserAccountPayload]
    constructor
    · exact applyProviderAccountPatch_exists ..
    · exact applyProviderAccountPatch_email ..
    · exact applyProviderAccountPatch_roles ..
    · exact applyProviderAccountPatch_enabled ..
    · exact applyProviderAccountPatch_emailVerifiedAt ..
    · exact find?_upsertProviderLink

/-- A patch that says what the command says brings the account in sync. -/
theorem PatchApplied.inSync {command : SyncAuthProviderAccountCommand} {sync : ProviderSync}
    {current : Option JsString} {verifiedAt : Option Timestamp} {now : Timestamp}
    (h : PatchApplied platform patch state state') (hemail : patch.email = sync.email)
    (hroles : ∀ roles, sync.roles = some roles → patch.roles = some roles ∧ normalizeUserRoles platform roles = roles)
    (henabled : ∀ enabled, command.enabled = some enabled → patch.enabled = some enabled)
    (hpatch : emailVerificationPatch command.emailVerified (sync.email.or state.email) current verifiedAt now =
      .ok patch.emailVerifiedAt) :
    ∃ link, state'.providers.find? (isProviderLink patch.provider patch.subject) = some link ∧
      InSync command sync state' link := by
  obtain ⟨link, hfound, hfollows⟩ := h.link
  refine ⟨link, hfound, ?_⟩
  constructor
  · intro email hsome
    rw [h.email, hemail, hsome]
    exact ⟨rfl, hfollows.email email (hemail.trans hsome)⟩
  · intro roles hsome
    obtain ⟨hpatched, hnormal⟩ := hroles roles hsome
    rw [h.roles, hfollows.roles roles hpatched, hpatched, Option.map_some, Option.getD_some, Option.getD_some, hnormal]
    exact ⟨rfl, rfl⟩
  · intro enabled hsome
    have hpatched := henabled enabled hsome
    rw [h.enabled, hpatched]
    exact ⟨rfl, hfollows.enabled enabled hpatched⟩
  · intro hfalse
    rcases emailVerificationPatch_cases hpatch with ⟨hnone, -⟩ | ⟨-, hnull⟩ | ⟨htrue, -⟩
    · exact nomatch hnone.symm.trans hfalse
    · rw [h.emailVerifiedAt, hnull]
      exact ⟨rfl, hfollows.emailVerifiedAt none hnull⟩
    · exact nomatch htrue.symm.trans hfalse
  · intro htrue
    rcases emailVerificationPatch_cases hpatch with ⟨hnone, -⟩ | ⟨hfalse, -⟩ | ⟨-, ⟨address, haddress⟩, time, htime⟩
    · exact nomatch hnone.symm.trans htrue
    · exact nomatch hfalse.symm.trans htrue
    · refine ⟨?_, time, ?_, hfollows.emailVerifiedAt _ htime⟩
      · rw [h.email, hemail, haddress]
        exact Option.some_ne_none address
      · rw [h.emailVerifiedAt, htime]
        rfl

theorem applyUserAccountPayload_exists (occurredAt : Timestamp) (payload : UserAccountEventPayload) :
    (applyUserAccountPayload platform state occurredAt payload).exists = state.exists := by
  cases payload with
  | authProviderLinked _ patch => exact applyProviderAccountPatch_exists ..
  | authProviderSynced _ patch => exact applyProviderAccountPatch_exists ..
  | _ => rfl

theorem applyUserAccountEvent_absent {event : Recorded UserAccountEvent}
    (hstate : state.exists = false → state.email = none)
    (h : (applyUserAccountEvent platform tenantId userId state event).exists = false) :
    (applyUserAccountEvent platform tenantId userId state event).email = none := by
  unfold applyUserAccountEvent at h ⊢
  dsimp only at h ⊢
  split_ifs at h ⊢ with huser hexists
  · split at h
    · exact nomatch h
    · have hkept := (applyUserAccountPayload_exists _ _).symm.trans h
      exact absurd (hexists.symm.trans hkept) (by decide)
  · split at h
    · exact nomatch h
    · exact hstate h
  · exact hstate h

/-- An account that does not exist has no address. -/
theorem foldUserAccount_email_of_absent {log : UserAccountLog}
    (h : (foldUserAccount platform tenantId userId log).exists = false) :
    (foldUserAccount platform tenantId userId log).email = none := by
  have hfold : ∀ (log : UserAccountLog) (state : UserAccountState), (state.exists = false → state.email = none) →
      (log.foldl (applyUserAccountEvent platform tenantId userId) state).exists = false →
      (log.foldl (applyUserAccountEvent platform tenantId userId) state).email = none := by
    intro log
    induction log with
    | nil => exact fun state hstate => hstate
    | cons event log ih =>
      intro state hstate
      exact ih _ (applyUserAccountEvent_absent hstate)
  exact hfold log _ (fun _ => rfl) h

end Applied

/-! ## The command alone -/

/-- The account exists, and its link of the provider agrees with the command. -/
structure SyncedAccount (command : SyncAuthProviderAccountCommand) (sync : ProviderSync) (state : UserAccountState) :
    Prop where
  exists_eq : state.exists = true
  link : ∃ link, state.providers.find? (isProviderLink sync.provider sync.subject) = some link ∧
    InSync command sync state link

section Alone

variable {W : Type} {conflict : FrameworkError} {answer : W → (call : UserAccountCall) → call.Reply × W}
variable {s : LogState StreamName UserAccountEvent W} {tenantId : TenantId} {userId : JsString} {stream : StreamName}

theorem eval_accountStream (hstream : userAccountsStream tenantId userId = some stream) :
    (accountStream tenantId userId).eval (LogState.reply conflict answer) s = (.ok stream, s) := by
  rw [accountStream, hstream, eval_ofExcept]
  rfl

theorem eval_now (s : LogState StreamName UserAccountEvent W) :
    now.eval (LogState.reply conflict answer) s =
      (.ok (answer s.world .now).1, { s with world := (answer s.world .now).2 }) := rfl

theorem eval_nextId (start : JsString) (s : LogState StreamName UserAccountEvent W) :
    (nextId start).eval (LogState.reply conflict answer) s =
      (.ok (answer s.world (.nextId start)).1, { s with world := (answer s.world (.nextId start)).2 }) := rfl

theorem eval_accountEvents (actorId : JsString) (occurredAt : Timestamp) (metadata : DocumentData)
    (payloads : List UserAccountEventPayload) (s : LogState StreamName UserAccountEvent W) :
    ∃ events w, (accountEvents tenantId stream actorId occurredAt metadata payloads).eval
        (LogState.reply conflict answer) s = (.ok events, { s with world := w }) ∧
      events.map (·.payload) = payloads := by
  induction payloads generalizing s with
  | nil => exact ⟨[], s.world, rfl, rfl⟩
  | cons payload payloads ih =>
    obtain ⟨events, w, heval, hpayloads⟩ := ih { s with world := (answer s.world (.nextId (js "evt_"))).2 }
    let event : UserAccountEvent :=
      { id := (answer s.world (.nextId (js "evt_"))).1, tenantId, stream, documentName := payload.userId?.getD []
        actorId, occurredAt, payload, metadata }
    refine ⟨event :: events, w, ?_, ?_⟩
    · rw [accountEvents, eval_bind_ok (eval_nextId _ s), eval_bind_ok heval]
      rfl
    · rw [List.map_cons, hpayloads]

/-- Nobody else writes, so what a command appends is saved. -/
theorem eval_appendEvents {version : Nat} (hstream : userAccountsStream tenantId userId = some stream)
    (hversion : (s.logs stream).length = version) (actorId : JsString) (metadata : DocumentData)
    (payloads : List UserAccountEventPayload) :
    ∃ events w, (appendEvents tenantId userId version actorId metadata payloads).eval
        (LogState.reply conflict answer) s =
          (.ok (recorded version events), ({ s with world := w } : LogState StreamName UserAccountEvent W).push
            stream events) ∧
      events.map (·.payload) = payloads := by
  obtain ⟨events, w, hevents, hpayloads⟩ := @eval_accountEvents W conflict answer tenantId stream actorId
    (answer s.world .now).1 metadata payloads { s with world := (answer s.world .now).2 }
  refine ⟨events, w, ?_, hpayloads⟩
  have htry : (tryAppendEvents tenantId userId version actorId metadata payloads).eval
      (LogState.reply conflict answer) s = (.ok (.ok (recorded version events)),
        ({ s with world := w } : LogState StreamName UserAccountEvent W).push stream events) := by
    rw [tryAppendEvents, eval_bind_ok (eval_accountStream hstream), eval_bind_ok (eval_now s), eval_bind_ok hevents]
    exact LogState.eval_append events hversion
  rw [appendEvents, eval_bind_ok htry]
  rfl

variable {platform : UserAccountPlatform}

theorem eval_stateFor (hstream : userAccountsStream tenantId userId = some stream) :
    (stateFor platform tenantId userId).eval (LogState.reply conflict answer) s =
      (.ok (foldUserAccount platform tenantId userId (s.logs stream)), s) := by
  rw [stateFor, eval_bind_ok (eval_accountStream hstream), eval_bind_ok (LogState.eval_read stream s)]
  rfl

/-- A commit appends one event and returns the account with it. -/
theorem eval_commit (hnumbered : Numbered 0 (s.logs stream))
    (hstream : userAccountsStream tenantId userId = some stream) (actorId : JsString) (metadata : DocumentData)
    (payload : UserAccountEventPayload) :
    ∃ event w, (commit platform tenantId userId (foldUserAccount platform tenantId userId (s.logs stream)) actorId
        metadata payload).eval (LogState.reply conflict answer) s =
      (.ok (publicUserAccount (foldUserAccount platform tenantId userId
          (s.logs stream ++ recorded (s.logs stream).length [event]))),
        ({ s with world := w } : LogState StreamName UserAccountEvent W).push stream [event]) ∧
      event.payload = payload := by
  have hversion := foldUserAccount_version platform tenantId userId hnumbered
  obtain ⟨events, w, happend, hpayloads⟩ := @eval_appendEvents W conflict answer s tenantId userId stream _ hstream
    hversion.symm actorId metadata [payload]
  obtain ⟨event, rfl, hpayload⟩ := List.map_eq_singleton_iff.mp hpayloads
  refine ⟨event, w, ?_, hpayload⟩
  have hkept : (s.logs stream ++ recorded (s.logs stream).length [event]).filter
      (fun e => decide (e.sequence ≤ (s.logs stream).length)) = s.logs stream := by
    apply Numbered.filter_le
    apply hnumbered.append
    rw [Nat.zero_add]
    exact numbered_recorded _ _
  rw [commit, eval_bind_ok happend, refold, eval_bind_ok (eval_accountStream hstream),
    eval_bind_ok (LogState.eval_read stream _), LogState.push_logs_self, hversion, hkept]
  rfl

/-- The roles of a command are valid for a catalog that does not change. -/
theorem eval_validateRoles {catalog : TenantId → List JsString → Except FrameworkError Unit}
    (hcatalog : ∀ w tenantId roles, (answer w (.validateRoles tenantId roles)).1 = catalog tenantId roles)
    (roles : List JsString) :
    ∃ w, (validateRoles tenantId roles).eval (LogState.reply conflict answer) s =
      (catalog tenantId roles, { s with world := w }) := by
  refine ⟨(answer s.world (.validateRoles tenantId roles)).2, ?_⟩
  rw [validateRoles, eval_bind_ok (LogState.eval_other _ s), hcatalog]
  exact eval_ofExcept _ _

variable {command : SyncAuthProviderAccountCommand} {sync : ProviderSync}

section Catalog

variable {catalog : TenantId → List JsString → Except FrameworkError Unit}

/-- A run on an account that agrees with the command changes nothing, at whatever time. -/
theorem eval_syncProvider_of_synced
    (hcatalog : ∀ w tenantId roles, (answer w (.validateRoles tenantId roles)).1 = catalog tenantId roles)
    (hsync : normalizeProviderSync platform command = .ok sync) (hexpected : command.expectedVersion = none)
    (hroles : ∀ roles, sync.roles = some roles → catalog sync.tenantId roles = .ok ())
    (hstream : userAccountsStream sync.tenantId sync.userId = some stream)
    (h : SyncedAccount command sync (foldUserAccount platform sync.tenantId sync.userId (s.logs stream))) :
    ∃ w, (syncProvider platform command).eval (LogState.reply conflict answer) s =
      (.ok (publicUserAccount (foldUserAccount platform sync.tenantId sync.userId (s.logs stream))),
        { s with world := w }) := by
  have hstate := @eval_stateFor W conflict answer s _ _ _ platform hstream
  generalize foldUserAccount platform sync.tenantId sync.userId (s.logs stream) = state at *
  obtain ⟨link, hlink, hagrees⟩ := h.link
  obtain ⟨verified, hpatch, hsame⟩ := hagrees.unchanged (answer s.world .now).1
  have hread : (syncProvider platform command).eval (LogState.reply conflict answer) s =
      (changeFromProvider platform command sync state verified).eval (LogState.reply conflict answer)
        { s with world := (answer s.world .now).2 } := by
    have hversion : ensureUserAccountExpectedVersion state command.expectedVersion = .ok () := by
      rw [hexpected]
      rfl
    rw [syncProvider, eval_bind_ok (eval_ofExcept_ok hsync s), eval_bind_ok hstate,
      eval_bind_ok (eval_ofExcept_ok hversion s), eval_bind_ok (eval_now s),
      eval_bind_ok (eval_ofExcept_ok hpatch _), if_pos h.exists_eq]
  obtain ⟨w, hvalid⟩ : ∃ w, (validateOptionalRoles sync.tenantId sync.roles).eval (LogState.reply conflict answer)
      { s with world := (answer s.world .now).2 } = (.ok (), { s with world := w }) := by
    cases hsome : sync.roles with
    | none => exact ⟨_, rfl⟩
    | some roles =>
      obtain ⟨w, heval⟩ := @eval_validateRoles W conflict answer { s with world := (answer s.world .now).2 }
        sync.tenantId catalog hcatalog roles
      exact ⟨w, heval.trans (by rw [hroles roles hsome])⟩
  refine ⟨w, ?_⟩
  rw [hread, changeFromProvider, eval_bind_ok hvalid, hlink]
  -- what the provider says is what the account says already
  have hunchanged : (some link).any (fun link =>
      !providerSyncChangesState state link (providerPatch command sync verified)) = true := by
    rw [Option.any_some, hsame]
    rfl
  dsimp only
  rw [if_pos hunchanged]
  rfl

/-- What a successful run leaves: its roles are valid, the account agrees with the command, and it is the
account that is returned. -/
structure SyncResult (platform : UserAccountPlatform)
    (catalog : TenantId → List JsString → Except FrameworkError Unit) (command : SyncAuthProviderAccountCommand)
    (sync : ProviderSync) (log : UserAccountLog) (account : UserAccount) : Prop where
  roles : ∀ roles, sync.roles = some roles → catalog sync.tenantId roles = .ok ()
  synced : SyncedAccount command sync (foldUserAccount platform sync.tenantId sync.userId log)
  account : account = publicUserAccount (foldUserAccount platform sync.tenantId sync.userId log)

variable {account : UserAccount} {t : LogState StreamName UserAccountEvent W}

/-- A run on an account that exists: there was nothing to change, or the link is written. -/
theorem SyncResult.of_change {state : UserAccountState} {now : Timestamp} {verified : Option (Option Timestamp)}
    (hcatalog : ∀ w tenantId roles, (answer w (.validateRoles tenantId roles)).1 = catalog tenantId roles)
    (hnormal : ∀ roles, sync.roles = some roles → normalizeUserRoles platform roles = roles)
    (hstream : userAccountsStream sync.tenantId sync.userId = some stream) (hnumbered : Numbered 0 (s.logs stream))
    (hstate : state = foldUserAccount platform sync.tenantId sync.userId (s.logs stream))
    (hexists : state.exists = true)
    (hpatch : emailVerificationPatch command.emailVerified (sync.email.or state.email) state.email
      state.emailVerifiedAt now = .ok verified)
    (h : (changeFromProvider platform command sync state verified).eval (LogState.reply conflict answer) s =
      (.ok account, t)) :
    SyncResult platform catalog command sync (t.logs stream) account := by
  rw [changeFromProvider] at h
  obtain ⟨_, s₁, hvalid, h⟩ := of_eval_bind_ok h
  -- the validation leaves the logs alone
  have hroles : (∀ roles, sync.roles = some roles → catalog sync.tenantId roles = .ok ()) ∧ s₁.logs = s.logs := by
    cases hsome : sync.roles with
    | none =>
      rw [hsome] at hvalid
      obtain ⟨-, rfl⟩ := Prod.mk.inj hvalid
      exact ⟨fun _ hnone => absurd hnone (Option.some_ne_none _).symm, rfl⟩
    | some roles =>
      obtain ⟨w, heval⟩ := @eval_validateRoles W conflict answer s sync.tenantId catalog hcatalog roles
      rw [hsome] at hvalid
      obtain ⟨hok, rfl⟩ := Prod.mk.inj (heval.symm.trans hvalid)
      refine ⟨?_, rfl⟩
      intro roles' hroles'
      obtain rfl := Option.some.inj hroles'
      exact hok
  dsimp only at h
  have hlogs : s₁.logs stream = s.logs stream := congrFun hroles.2 stream
  split_ifs at h with hsame
  · -- nothing to change
    obtain ⟨haccount, rfl⟩ := Prod.mk.inj h
    rw [Option.any_eq_true] at hsame
    obtain ⟨link, hlink, hunchanged⟩ := hsame
    have hagrees : InSync command sync state link := InSync.of_unchanged hpatch (by simpa using hunchanged)
    refine ⟨hroles.1, ?_, ?_⟩
    · rw [hlogs, ← hstate]
      exact ⟨hexists, link, hlink, hagrees⟩
    · rw [hlogs, ← hstate]
      exact (Except.ok.inj haccount).symm
  · -- the link is written
    rw [← hlogs] at hnumbered hstate
    rw [hstate] at h
    obtain ⟨event, w, hcommit, hpayload⟩ := @eval_commit W conflict answer s₁ _ _ stream platform hnumbered hstream
      command.actor.id command.metadata (userAuthProviderChangePayload sync.userId (providerPatch command sync verified)
        (state.providers.find? (isProviderLink sync.provider sync.subject)))
    rw [← hstate] at h hcommit
    obtain ⟨haccount, rfl⟩ := Prod.mk.inj (hcommit.symm.trans h)
    have hpayload' : event.payload = .authProviderLinked sync.userId (providerPatch command sync verified) ∨
        event.payload = .authProviderSynced sync.userId (providerPatch command sync verified) := by
      rw [hpayload]
      cases state.providers.find? (isProviderLink sync.provider sync.subject) with
      | none => exact Or.inl rfl
      | some link => exact Or.inr rfl
    have happlied := @patchApplied_of_event platform sync.tenantId sync.userId state _
      ⟨(s₁.logs stream).length + 1, event⟩ hexists hpayload'
    have hfold : foldUserAccount platform sync.tenantId sync.userId
        (s₁.logs stream ++ recorded (s₁.logs stream).length [event]) =
          applyUserAccountEvent platform sync.tenantId sync.userId state ⟨(s₁.logs stream).length + 1, event⟩ := by
      rw [foldUserAccount_append, hstate]
      rfl
    rw [hfold] at haccount
    have hagrees := happlied.inSync rfl (fun roles hsome => ⟨hsome, hnormal roles hsome⟩) (fun _ hsome => hsome) hpatch
    refine ⟨hroles.1, ?_, ?_⟩
    · rw [LogState.push_logs_self]
      change SyncedAccount command sync (foldUserAccount platform sync.tenantId sync.userId
        (s₁.logs stream ++ recorded (s₁.logs stream).length [event]))
      rw [hfold]
      exact ⟨happlied.exists_eq, hagrees⟩
    · rw [LogState.push_logs_self]
      exact (Except.ok.inj haccount).symm.trans (congrArg publicUserAccount hfold.symm)

/-- A run on an account that does not exist: the account is created, and linked. -/
theorem SyncResult.of_create {state : UserAccountState} {now : Timestamp} {verified : Option (Option Timestamp)}
    (hcatalog : ∀ w tenantId roles, (answer w (.validateRoles tenantId roles)).1 = catalog tenantId roles)
    (hnormal : ∀ roles, sync.roles = some roles → normalizeUserRoles platform roles = roles)
    (hstream : userAccountsStream sync.tenantId sync.userId = some stream) (hnumbered : Numbered 0 (s.logs stream))
    (hstate : state = foldUserAccount platform sync.tenantId sync.userId (s.logs stream))
    (habsent : state.exists = false)
    (hpatch : emailVerificationPatch command.emailVerified (sync.email.or state.email) state.email
      state.emailVerifiedAt now = .ok verified)
    (h : (createFromProvider platform command sync state verified).eval (LogState.reply conflict answer) s =
      (.ok account, t)) :
    SyncResult platform catalog command sync (t.logs stream) account := by
  rw [createFromProvider] at h
  obtain ⟨roles, s₁, hdefault, hrest⟩ := of_eval_bind_ok h
  obtain ⟨hcreated, hs₁⟩ := of_eval_ofExcept_ok hdefault
  rw [hs₁] at hrest
  dsimp only at hrest
  obtain ⟨_, s₂, hvalidate, hrest⟩ := of_eval_bind_ok hrest
  obtain ⟨w, heval⟩ := @eval_validateRoles W conflict answer s sync.tenantId catalog hcatalog roles
  obtain ⟨hvalid, hs₂⟩ := Prod.mk.inj (heval.symm.trans hvalidate)
  have hroles : ∀ roles', sync.roles = some roles' → roles = roles' := by
    intro roles' hsome
    rw [hsome] at hcreated
    exact (Except.ok.inj hcreated).symm
  have hversion : (s.logs stream).length = state.version := by
    rw [hstate, foldUserAccount_version platform sync.tenantId sync.userId hnumbered]
  let patch : UserAuthProviderPatch :=
    { provider := sync.provider, subject := sync.subject, email := sync.email, roles := some roles
      enabled := some (command.enabled.getD true), emailVerifiedAt := verified }
  obtain ⟨events, w', happend, hpayloads⟩ := @eval_appendEvents W conflict answer
    ({ s with world := w } : LogState StreamName UserAccountEvent W) _ _ stream _ hstream hversion command.actor.id
    command.metadata [.accountCreated sync.userId sync.email roles none (command.enabled.getD true) verified.join,
      .authProviderLinked sync.userId patch]
  rw [← hs₂, eval_bind_ok happend] at hrest
  obtain ⟨haccount, rfl⟩ := Prod.mk.inj hrest
  obtain ⟨created, others, rfl, hcreatedPayload, hothers⟩ := List.map_eq_cons_iff.mp hpayloads
  obtain ⟨linked, rfl, hlinkedPayload⟩ := List.map_eq_singleton_iff.mp hothers
  -- the created account does not depend on what was there
  let base : UserAccountState :=
    { tenantId := sync.tenantId, userId := sync.userId, version := state.version + 1, «exists» := true
      email := sync.email, emailVerifiedAt := verified.join, roles := normalizeUserRoles platform roles
      passwordHash := none, enabled := command.enabled.getD true, createdAt := some created.occurredAt
      updatedAt := some created.occurredAt }
  have hbase : ∀ before : UserAccountState, (recorded state.version [created, linked]).foldl
      (applyUserAccountEvent platform sync.tenantId sync.userId) before =
        applyUserAccountEvent platform sync.tenantId sync.userId base ⟨state.version + 1 + 1, linked⟩ := by
    intro before
    have hcreatedState : applyUserAccountEvent platform sync.tenantId sync.userId before
        ⟨state.version + 1, created⟩ = base := by
      simp only [applyUserAccountEvent, hcreatedPayload, UserAccountEventPayload.userId?, if_true]
      rfl
    change applyUserAccountEvent platform sync.tenantId sync.userId (applyUserAccountEvent platform sync.tenantId
      sync.userId before ⟨state.version + 1, created⟩) ⟨state.version + 1 + 1, linked⟩ = _
    rw [hcreatedState]
  have happlied := @patchApplied_of_event platform sync.tenantId sync.userId base patch
    ⟨state.version + 1 + 1, linked⟩ rfl (Or.inl hlinkedPayload)
  have heffective : sync.email.or base.email = sync.email.or state.email := by
    have hnone : state.email = none := by
      rw [hstate] at habsent ⊢
      exact foldUserAccount_email_of_absent habsent
    rw [hnone, Option.or_none]
    exact Option.or_self
  have hagrees := @PatchApplied.inSync platform base _ patch command sync state.email state.emailVerifiedAt now
    happlied rfl (fun roles' hsome => ⟨congrArg some (hroles roles' hsome), hnormal roles' hsome⟩)
    (fun enabled hsome => congrArg some (by rw [hsome]; rfl)) (by rw [heffective]; exact hpatch)
  have hfold : foldUserAccount platform sync.tenantId sync.userId
      (s.logs stream ++ recorded (s.logs stream).length [created, linked]) =
        applyUserAccountEvent platform sync.tenantId sync.userId base ⟨state.version + 1 + 1, linked⟩ := by
    rw [foldUserAccount_append, hversion, hbase]
  refine ⟨?_, ?_, ?_⟩
  · intro roles' hsome
    rw [← hroles roles' hsome]
    exact hvalid
  · rw [LogState.push_logs_self]
    change SyncedAccount command sync (foldUserAccount platform sync.tenantId sync.userId
      (s.logs stream ++ recorded (s.logs stream).length [created, linked]))
    rw [hfold]
    exact ⟨happlied.exists_eq, hagrees⟩
  · rw [LogState.push_logs_self]
    calc account
        = publicUserAccount (foldUserAccount platform sync.tenantId sync.userId
            (recorded state.version [created, linked])) := (Except.ok.inj haccount).symm
      _ = publicUserAccount (applyUserAccountEvent platform sync.tenantId sync.userId base
            ⟨state.version + 1 + 1, linked⟩) := congrArg publicUserAccount (hbase _)
      _ = _ := congrArg publicUserAccount hfold.symm

theorem normalizeProviderSync_roles [Std.TransCmp platform.localeCompare]
    (hsync : normalizeProviderSync platform command = .ok sync) {roles : List JsString}
    (hroles : sync.roles = some roles) : normalizeUserRoles platform roles = roles := by
  unfold normalizeProviderSync at hsync
  obtain ⟨_, -, hsync⟩ := except_bind_eq_ok hsync
  obtain ⟨tenantId, -, hsync⟩ := except_bind_eq_ok hsync
  obtain ⟨provider, -, hsync⟩ := except_bind_eq_ok hsync
  obtain ⟨subject, -, hsync⟩ := except_bind_eq_ok hsync
  obtain ⟨userId, -, hsync⟩ := except_bind_eq_ok hsync
  obtain ⟨normal, hnormal, hsync⟩ := except_bind_eq_ok hsync
  obtain rfl := Except.ok.inj hsync
  cases hcommand : command.roles with
  | none =>
    rw [hcommand] at hnormal
    exact nomatch (Except.ok.inj hnormal).trans hroles
  | some original =>
    have hmap : (some <$> normalizeRequiredUserRoles platform original) = .ok normal := by
      rw [← hnormal, hcommand]
      rfl
    cases hrequired : normalizeRequiredUserRoles platform original with
    | error e =>
      rw [hrequired] at hmap
      exact nomatch hmap
    | ok normalized =>
      rw [hrequired] at hmap
      obtain rfl : normalized = roles := Option.some.inj ((Except.ok.inj hmap).trans hroles)
      exact normalizeRequiredUserRoles_normal platform hrequired

/-- A run that succeeds leaves an account that agrees with the command. -/
theorem SyncResult.of_eval [Std.TransCmp platform.localeCompare]
    (hcatalog : ∀ w tenantId roles, (answer w (.validateRoles tenantId roles)).1 = catalog tenantId roles)
    (hnumbered : ∀ stream, Numbered 0 (s.logs stream))
    (h : (syncProvider platform command).eval (LogState.reply conflict answer) s = (.ok account, t)) :
    ∃ sync stream, normalizeProviderSync platform command = .ok sync ∧
      userAccountsStream sync.tenantId sync.userId = some stream ∧
      SyncResult platform catalog command sync (t.logs stream) account := by
  rw [syncProvider] at h
  obtain ⟨sync, s₁, hfirst, hrest⟩ := of_eval_bind_ok h
  obtain ⟨hsync, hs₁⟩ := of_eval_ofExcept_ok hfirst
  rw [hs₁] at hrest
  obtain ⟨state, s₂, hread, hrest⟩ := of_eval_bind_ok hrest
  obtain ⟨stream, hstream⟩ : ∃ stream, userAccountsStream sync.tenantId sync.userId = some stream := by
    rw [stateFor] at hread
    obtain ⟨stream, _, hname, _⟩ := of_eval_bind_ok hread
    exact ⟨stream, requireStream_ok (of_eval_ofExcept_ok hname).1⟩
  obtain ⟨hstate, hs₂⟩ := Prod.mk.inj ((eval_stateFor hstream).symm.trans hread)
  rw [← hs₂] at hrest
  obtain ⟨_, s₃, hversion, hrest⟩ := of_eval_bind_ok hrest
  rw [(of_eval_ofExcept_ok hversion).2, eval_bind_ok (eval_now s)] at hrest
  obtain ⟨verified, s₄, hverified, hrest⟩ := of_eval_bind_ok hrest
  obtain ⟨hpatch, hs₄⟩ := of_eval_ofExcept_ok hverified
  rw [hs₄] at hrest
  -- the clock is asked, which leaves the logs alone
  generalize hs₅ : ({ s with world := (answer s.world .now).2 } : LogState StreamName UserAccountEvent W) = s₅ at hrest
  have hlogs : s₅.logs stream = s.logs stream := by rw [← hs₅]
  have hnormal : ∀ roles, sync.roles = some roles → normalizeUserRoles platform roles = roles :=
    fun roles hsome => normalizeProviderSync_roles hsync hsome
  have hstate' := (Except.ok.inj hstate).symm
  have hstored := hnumbered stream
  rw [← hlogs] at hstate' hstored
  refine ⟨sync, stream, hsync, hstream, ?_⟩
  by_cases hexists : state.exists = true
  · rw [if_pos hexists] at hrest
    exact SyncResult.of_change hcatalog hnormal hstream hstored hstate' hexists hpatch hrest
  · rw [if_neg hexists] at hrest
    exact SyncResult.of_create hcatalog hnormal hstream hstored hstate' (by simpa using hexists) hpatch hrest

/-- A provider sync is idempotent: after a run that has succeeded the same command, at any later time,
appends nothing and returns the same account. Nobody else writes, and the catalog of roles stays the same. -/
theorem syncProvider_again (platform : UserAccountPlatform) [Std.TransCmp platform.localeCompare]
    (conflict : FrameworkError) (answer : W → (call : UserAccountCall) → call.Reply × W)
    (catalog : TenantId → List JsString → Except FrameworkError Unit)
    (hcatalog : ∀ w tenantId roles, (answer w (.validateRoles tenantId roles)).1 = catalog tenantId roles)
    (command : SyncAuthProviderAccountCommand) (hexpected : command.expectedVersion = none)
    (s t : LogState StreamName UserAccountEvent W) (hnumbered : ∀ stream, Numbered 0 (s.logs stream))
    (account : UserAccount)
    (h : (syncProvider platform command).eval (LogState.reply conflict answer) s = (.ok account, t)) (later : W) :
    ∃ w, (syncProvider platform command).eval (LogState.reply conflict answer) { t with world := later } =
      (.ok account, { t with world := w }) := by
  obtain ⟨sync, stream, hsync, hstream, hresult⟩ := SyncResult.of_eval hcatalog hnumbered h
  obtain ⟨w, hagain⟩ := @eval_syncProvider_of_synced W conflict answer { t with world := later } stream platform command
    sync catalog hcatalog hsync hexpected hresult.roles hstream hresult.synced
  refine ⟨w, ?_⟩
  rw [hagain, hresult.account]

end Catalog

end Alone

/-! ### A login that comes back the next day -/

/-- What is answered at a time: every role is known. -/
def accountCallAt (time : Timestamp) : (call : UserAccountCall) → call.Reply × Timestamp
  | .now => (time, time)
  | call => ((answerAccountCall () call).1, time)

def loginSync : SyncAuthProviderAccountCommand :=
  { actor := { id := js "admin", roles := [js "System Manager"] }
    provider := js "oidc"
    subject := js "1"
    userId := some (js "ada")
    email := some (js "ada@example.com")
    roles := some [js " Sales  User ", js "Accounts User"]
    emailVerified := some true }

theorem syncProvider_again_login :
    ∃ account t, (syncProvider plainAccountPlatform loginSync).eval (LogState.reply (.conflict []) accountCallAt)
        { logs := fun _ => [], world := js "2024-01-01T00:00:00.000Z" } = (.ok account, t) ∧
      ∃ w, (syncProvider plainAccountPlatform loginSync).eval (LogState.reply (.conflict []) accountCallAt)
        { t with world := js "2024-01-02T00:00:00.000Z" } = (.ok account, { t with world := w }) := by
  have horder : Std.TransCmp plainAccountPlatform.localeCompare :=
    @transCmp_on _ _ (fun s t : List Nat => compare s t) _ (List.map UInt16.toNat)
  obtain ⟨account, t, hfirst⟩ : ∃ account t, (syncProvider plainAccountPlatform loginSync).eval
      (LogState.reply (.conflict []) accountCallAt) { logs := fun _ => [], world := js "2024-01-01T00:00:00.000Z" } =
        (.ok account, t) := ⟨_, _, rfl⟩
  exact ⟨account, t, hfirst, syncProvider_again plainAccountPlatform (.conflict []) accountCallAt (fun _ _ => .ok ())
    (fun _ _ _ => rfl) loginSync rfl { logs := fun _ => [], world := js "2024-01-01T00:00:00.000Z" } t
    (fun _ => trivial) account hfirst _⟩
