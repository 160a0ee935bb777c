import CfFrappe.Application.SeriesCreate

set_option autoImplicit false

/-! # The budget of a creation

What a creation spends on names: the candidates that its scans render, over all its turns. `countedScan` is the
scan with the number of candidates it renders; `Answers` lets the store and everything else answer in any way.
A turn spends what its scan has tried and starts over with what is left (`createTurn_spends`), so a whole run
stays within the attempts of the strategy, whatever the others do meanwhile (`create_withinBudget`).
-/

open Utf Naming Program

namespace SeriesCreate

variable {parseDate : Timestamp → Option UtcDate}
variable {safeRegex : JsString → Bool → Except FrameworkError (JsString → Bool)}

/-! ## Counting the candidates of a scan -/

/-- `scanLoop`, with the number of candidates it renders. -/
def countedLoop (parseDate : Timestamp → Option UtcDate) (input : ScanInput) (compiled : List PatternToken)
    (exclusions : List CompiledExclusion) (step : Nat) :
    (remaining candidate attempts : Nat) → (found : List NamingCandidate) →
    Except FrameworkError NamingCandidateScan × Nat
  | remaining, candidate, attempts, found =>
    if input.count ≤ found.length then (.ok { candidates := found, attempts }, 0)
    else
      match remaining with
      | 0 => (.error (invalidNaming (js "Naming series for " ++ input.doctype.name ++
          js " could not find an allowed value within the configured attempt limit") 409), 0)
      | remaining + 1 =>
        match renderNamingCandidate parseDate input.doctype input.strategy input.data input.context candidate compiled with
        | .error error => (.error error, 1)
        | .ok name =>
          let found := if isExcluded exclusions candidate name then found
            else found ++ [{ value := candidate, name }]
          match safeAdd candidate step with
          | .error error => (.error error, 1)
          | .ok next =>
            let rest := countedLoop parseDate input compiled exclusions step remaining next (attempts + 1) found
            (rest.1, rest.2 + 1)

theorem countedLoop_fst {input : ScanInput} {compiled : List PatternToken} {exclusions : List CompiledExclusion}
    {step remaining candidate attempts : Nat} {found : List NamingCandidate} :
    (countedLoop parseDate input compiled exclusions step remaining candidate attempts found).1 =
      scanLoop parseDate input compiled exclusions step remaining candidate attempts found := by
  induction remaining generalizing candidate attempts found with
  | zero =>
    unfold countedLoop scanLoop
    split_ifs <;> rfl
  | succ remaining ih =>
    unfold countedLoop scanLoop
    by_cases henough : input.count ≤ found.length
    · rw [if_pos henough, if_pos henough]
    · rw [if_neg henough, if_neg henough]
      dsimp only
      cases hname : renderNamingCandidate parseDate input.doctype input.strategy input.data input.context candidate
          compiled with
      | error error => rfl
      | ok name =>
        cases hnext : safeAdd candidate step with
        | error error => rfl
        | ok next => exact ih

/-- The loop renders one candidate in each attempt, and no attempt follows the one that fails. -/
theorem countedLoop_snd {input : ScanInput} {compiled : List PatternToken} {exclusions : List CompiledExclusion}
    {step remaining candidate attempts : Nat} {found : List NamingCandidate} :
    (countedLoop parseDate input compiled exclusions step remaining candidate attempts found).2 ≤ remaining ∧
      ∀ scan, (countedLoop parseDate input compiled exclusions step remaining candidate attempts found).1 = .ok scan →
        scan.attempts = attempts + (countedLoop parseDate input compiled exclusions step remaining candidate attempts found).2 ∧
          input.count ≤ found.length +
            (countedLoop parseDate input compiled exclusions step remaining candidate attempts found).2 := by
  induction remaining generalizing candidate attempts found with
  | zero =>
    unfold countedLoop
    split_ifs with henough
    · refine ⟨Nat.le_refl _, ?_⟩
      rintro scan h
      cases h
      exact ⟨rfl, henough⟩
    · refine ⟨Nat.le_refl _, ?_⟩
      rintro scan h
      cases h
  | succ remaining ih =>
    unfold countedLoop
    by_cases henough : input.count ≤ found.length
    · rw [if_pos henough]
      refine ⟨Nat.zero_le _, ?_⟩
      rintro scan h
      cases h
      exact ⟨rfl, henough⟩
    · rw [if_neg henough]
      dsimp only
      cases hname : renderNamingCandidate parseDate input.doctype input.strategy input.data input.context candidate
          compiled with
      | error error =>
        refine ⟨Nat.succ_le_succ (Nat.zero_le _), ?_⟩
        rintro scan h
        cases h
      | ok name =>
        cases hnext : safeAdd candidate step with
        | error error =>
          refine ⟨Nat.succ_le_succ (Nat.zero_le _), ?_⟩
          rintro scan h
          cases h
        | ok next =>
          -- one attempt and one candidate more than the rest of the loop
          obtain ⟨hrest, hscan⟩ := @ih next (attempts + 1)
            (if isExcluded exclusions candidate name then found else found ++ [{ value := candidate, name }])
          refine ⟨Nat.succ_le_succ hrest, ?_⟩
          rintro scan h
          obtain ⟨hattempts, hcount⟩ := hscan scan h
          have hfound : (if isExcluded exclusions candidate name then found
              else found ++ [{ value := candidate, name }]).length ≤ found.length + 1 := by
            split_ifs <;> simp
          dsimp only
          omega

/-- What a scan works with. -/
structure ScanStart where
  compiled : List PatternToken
  exclusions : List CompiledExclusion
  attemptLimit : Nat
  candidate : Nat

/-- `scanNamingCandidates` up to its loop. -/
def scanStart (safeRegex : JsString → Bool → Except FrameworkError (JsString → Bool)) (input : ScanInput) :
    Except FrameworkError ScanStart := do
  ensure (1 ≤ input.count && input.count ≤ 100)
    (invalidNaming (js "Naming preview count must be an integer between 1 and 100") 400)
  let compiled ← compileNamingPattern input.doctype input.strategy
  let exclusions ← compileExclusions safeRegex (input.strategy.exclusions.getD [])
  ensure (1 ≤ input.limit && input.limit ≤ input.strategy.maxAttempts.getD defaultMaxAttempts)
    (invalidNaming (js "Naming attempt limit must be an integer between 1 and " ++
      Json.natToString (input.strategy.maxAttempts.getD defaultMaxAttempts)) 400)
  let candidate ← firstCandidate input.strategy input.current
  return { compiled, exclusions, attemptLimit := input.limit, candidate }

/-- `scanNamingCandidates`, with the number of candidates it renders. -/
def countedScan (parseDate : Timestamp → Option UtcDate)
    (safeRegex : JsString → Bool → Except FrameworkError (JsString → Bool)) (input : ScanInput) :
    Except FrameworkError NamingCandidateScan × Nat :=
  match scanStart safeRegex input with
  | .error error => (.error error, 0)
  | .ok start =>
    countedLoop parseDate input start.compiled start.exclusions (input.strategy.step.getD 1) start.attemptLimit
      start.candidate 0 []

theorem countedScan_fst {input : ScanInput} :
    (countedScan parseDate safeRegex input).1 = scanNamingCandidates parseDate safeRegex input := by
  have hscan : scanNamingCandidates parseDate safeRegex input =
      scanStart safeRegex input >>= fun start =>
        scanLoop parseDate input start.compiled start.exclusions (input.strategy.step.getD 1) start.attemptLimit
          start.candidate 0 [] := by
    unfold scanNamingCandidates scanStart ScanInput.limit
    simp only [bind_assoc, pure_bind]
  rw [hscan]
  unfold countedScan
  cases scanStart safeRegex input with
  | error error => rfl
  | ok start => exact countedLoop_fst

theorem scanStart_ok {input : ScanInput} {start : ScanStart} (h : scanStart safeRegex input = .ok start) :
    1 ≤ input.count ∧ start.attemptLimit = input.limit := by
  obtain ⟨_, hcount, h⟩ := except_bind_eq_ok h
  iterate 4 obtain ⟨_, -, h⟩ := except_bind_eq_ok h
  cases h
  have hcount := ensure_eq_ok hcount
  rw [Bool.and_eq_true, decide_eq_true_eq] at hcount
  exact ⟨hcount.1, rfl⟩

/-- A scan renders at most as many candidates as it has attempts, and one in each attempt if it succeeds. -/
theorem countedScan_snd {input : ScanInput} :
    (countedScan parseDate safeRegex input).2 ≤ input.limit ∧
      ∀ scan, scanNamingCandidates parseDate safeRegex input = .ok scan →
        scan.attempts = (countedScan parseDate safeRegex input).2 ∧ 1 ≤ scan.attempts := by
  rw [← countedScan_fst]
  unfold countedScan
  cases hstart : scanStart safeRegex input with
  | error error =>
    refine ⟨Nat.zero_le _, ?_⟩
    rintro scan h
    cases h
  | ok start =>
    obtain ⟨hcount, hlimit⟩ := scanStart_ok hstart
    obtain ⟨hrendered, hscan⟩ := @countedLoop_snd parseDate input start.compiled start.exclusions
      (input.strategy.step.getD 1) start.attemptLimit start.candidate 0 []
    refine ⟨hrendered.trans (Nat.le_of_eq hlimit), ?_⟩
    rintro scan h
    obtain ⟨hattempts, henough⟩ := hscan scan h
    rw [List.length_nil] at henough
    dsimp only
    omega

/-! ## What a run spends -/

/-- What a scan returns is right; everything else may be answered in any way. -/
def Answers (parseDate : Timestamp → Option UtcDate)
    (safeRegex : JsString → Bool → Except FrameworkError (JsString → Bool)) :
    (action : CreateAction) → action.Reply → Prop
  | .scanNamingCandidates input, reply => reply = scanNamingCandidates parseDate safeRegex input
  | _, _ => True

/-- The input of a scan. -/
def scanned : (action : CreateAction) × action.Reply → Option ScanInput
  | ⟨.scanNamingCandidates input, _⟩ => some input
  | _ => none

/-- The candidates that some scans render. -/
def rendered (parseDate : Timestamp → Option UtcDate)
    (safeRegex : JsString → Bool → Except FrameworkError (JsString → Bool)) (scans : List ScanInput) : Nat :=
  (scans.map (fun input => (countedScan parseDate safeRegex input).2)).sum

/-- **Scans within a budget**: they render no more candidates than there are attempts, and each of them gets an
attempt limit of its own, at least 1, at most the budget, and less than the one before. -/
structure WithinBudget (parseDate : Timestamp → Option UtcDate)
    (safeRegex : JsString → Bool → Except FrameworkError (JsString → Bool)) (attempts : Nat)
    (scans : List ScanInput) : Prop where
  spent : rendered parseDate safeRegex scans ≤ attempts
  limits : ∃ limits : List Nat, scans.map (·.attemptLimit) = limits.map some ∧ limits.Pairwise (· > ·) ∧
    ∀ limit ∈ limits, 1 ≤ limit ∧ limit ≤ attempts

theorem WithinBudget.nil {attempts : Nat} : WithinBudget parseDate safeRegex attempts [] :=
  ⟨Nat.zero_le _, [], rfl, List.Pairwise.nil, fun _ hmem => absurd hmem List.not_mem_nil⟩

theorem rendered_append (before after : List ScanInput) :
    rendered parseDate safeRegex (before ++ after) =
      rendered parseDate safeRegex before + rendered parseDate safeRegex after := by
  unfold rendered
  rw [List.map_append, List.sum_append]

/-- One scan with all that is left, and what is spent with less. -/
theorem WithinBudget.cons {attempts left : Nat} {input : ScanInput} {scans : List ScanInput}
    (hinput : input.attemptLimit = some attempts) (hleft : left < attempts)
    (hspent : rendered parseDate safeRegex [input] + left ≤ attempts) (h : WithinBudget parseDate safeRegex left scans) :
    WithinBudget parseDate safeRegex attempts ([input] ++ scans) := by
  obtain ⟨limits, hlimits, hsorted, hbounds⟩ := h.limits
  constructor
  · rw [rendered_append]
    have := h.spent
    omega
  · refine ⟨attempts :: limits, ?_, ?_, ?_⟩
    · rw [List.map_append, hlimits, List.map_singleton, hinput]
      rfl
    · refine List.pairwise_cons.mpr ⟨?_, hsorted⟩
      intro limit hlimit
      have := hbounds limit hlimit
      omega
    · intro limit hlimit
      rcases List.mem_cons.mp hlimit with rfl | hlimit
      · omega
      · have := hbounds limit hlimit
        omega

/-- One scan with all that is left, and nothing behind it. -/
theorem WithinBudget.single {attempts : Nat} {input : ScanInput} (hinput : input.attemptLimit = some attempts)
    (hpositive : 0 < attempts) : WithinBudget parseDate safeRegex attempts [input] := by
  refine WithinBudget.cons hinput hpositive ?_ WithinBudget.nil
  have hlimit : input.limit = attempts := by
    unfold ScanInput.limit
    rw [hinput]
    rfl
  calc rendered parseDate safeRegex [input] + 0 = (countedScan parseDate safeRegex input).2 := rfl
    _ ≤ input.limit := countedScan_snd.1
    _ = attempts := hlimit

/-! ## One turn -/

section

variable {document : SeriesDocument} {state : CreateState}

/-- What a part of a creation ensures about its scans. -/
abbrev Spends {α : Type} (parseDate : Timestamp → Option UtcDate)
    (safeRegex : JsString → Bool → Except FrameworkError (JsString → Bool))
    (Q : List ScanInput → Except FrameworkError α → Prop) (p : Create α) : Prop :=
  Ensures (Answers parseDate safeRegex) scanned Q p

theorem call_silent {α : Type} {reply : Create (Except FrameworkError α)} (h : reply.Within (Silent scanned)) :
    (call reply).Within (Silent scanned) :=
  h.bind fun _ => Within.ofExcept _

theorem readStream_silent (stream : StreamName) : (readStream stream).Within (Silent scanned) :=
  call_silent ⟨fun _ => rfl, fun _ => trivial⟩

theorem nextEventId_silent : nextEventId.Within (Silent scanned) := ⟨fun _ => rfl, fun _ => trivial⟩

theorem validationIssues_silent (name : DocumentName) (data : DocumentData) :
    (validationIssues name data).Within (Silent scanned) :=
  call_silent ⟨fun _ => rfl, fun _ => trivial⟩

theorem scanCandidates_spends {input : ScanInput} :
    Spends parseDate safeRegex
      (fun scans result => scans = [input] ∧ result = scanNamingCandidates parseDate safeRegex input)
      (scanCandidates input) := by
  intro events result h
  rcases h.of_bind with ⟨error, hscan, -⟩ | ⟨reply, before, after, hscan, hreply, rfl⟩
  · obtain ⟨_, -, -, h⟩ := Traces.of_perform hscan
    cases h
  · obtain ⟨_, hanswer, rfl, h⟩ := Traces.of_perform hscan
    obtain ⟨rfl, rfl⟩ := Traces.of_ofExcept hreply
    cases h
    exact ⟨rfl, hanswer⟩

/-- What planning a name spends: at most one scan, with the attempts that are left; a name costs what the scan
has rendered. -/
def PlanSpends (parseDate : Timestamp → Option UtcDate)
    (safeRegex : JsString → Bool → Except FrameworkError (JsString → Bool)) (attempts : Nat)
    (scans : List ScanInput) (result : Except FrameworkError NamingSeriesWrite) : Prop :=
  (scans = [] ∧ ∃ error, result = .error error) ∨
    ∃ input, scans = [input] ∧ input.attemptLimit = some attempts ∧
      ∀ write, result = .ok write →
        write.candidateAttempts = rendered parseDate safeRegex [input] ∧ 1 ≤ write.candidateAttempts

theorem planNamingSeriesWrite_spends :
    Spends parseDate safeRegex (PlanSpends parseDate safeRegex state.remaining)
      (planNamingSeriesWrite parseDate document state) := by
  have hstop : ∀ error, PlanSpends parseDate safeRegex state.remaining [] (.error error) :=
    fun error => Or.inl ⟨rfl, error, rfl⟩
  refine Ensures.silent_bind (Within.ofExcept _) hstop fun identity => ?_
  refine Ensures.silent_bind (Within.ofExcept _) hstop fun stream => ?_
  refine Ensures.silent_bind (readStream_silent stream) hstop fun events => ?_
  refine Ensures.bind scanCandidates_spends ?_ ?_
  · rintro scans error ⟨rfl, -⟩
    exact Or.inr ⟨_, rfl, rfl, fun write h => by cases h⟩
  · rintro scans scan ⟨rfl, hscan⟩
    obtain ⟨hattempts, hpositive⟩ := countedScan_snd.2 scan hscan.symm
    refine (Ensures.of_silent (Q := fun write => write.candidateAttempts = scan.attempts) ?_ ?_).mono ?_
    · exact (Within.ofExcept _).bind fun candidate => nextEventId_silent.bind fun id => Within.pure _
    · exact Yields.bind fun candidate => Yields.bind fun id => rfl
    · rintro rest result ⟨rfl, hwrite⟩
      refine Or.inr ⟨_, rfl, rfl, ?_⟩
      intro write h
      rw [hwrite write h]
      exact ⟨hattempts.trans (Nat.add_zero _).symm, hpositive⟩

theorem commitCreation_silent (write : NamingSeriesWrite) (stream : StreamName) (data : DocumentData) :
    (commitCreation document write stream data).Within (Silent scanned) := by
  refine Within.bind (call_silent ⟨fun _ => rfl, fun _ => trivial⟩) fun unique => ?_
  refine Within.bind nextEventId_silent fun id => ?_
  exact Within.bind (call_silent ⟨fun _ => rfl, fun _ => trivial⟩) fun automation => ⟨fun _ => rfl, fun _ => trivial⟩

theorem namingConflictDisposition_silent (write : NamingSeriesWrite) (stream : StreamName) (error : FrameworkError) :
    (namingConflictDisposition write stream error).Within (Silent scanned) := by
  unfold namingConflictDisposition
  split_ifs
  · refine Within.bind (readStream_silent _) fun counterEvents => ?_
    split_ifs
    · exact Within.pure _
    · exact Within.bind (readStream_silent _) fun events => Within.pure _
  · exact Within.pure _

theorem createUnder_silent (write : NamingSeriesWrite) (stream : StreamName) (events : List DomainEvent) :
    (createUnder document state write stream events).Within (Silent scanned) := by
  unfold createUnder
  dsimp only
  split
  · split
    · exact Within.pure _
    · trivial
  · refine Within.bind (commitCreation_silent write stream _) fun committed => ?_
    split
    · exact Within.pure _
    · refine Within.bind (namingConflictDisposition_silent write stream _) fun conflict => ?_
      split
      · split
        · exact Within.pure _
        · trivial
      · trivial

/-- Behind its name, a turn spends nothing. -/
theorem createNamed_silent (write : NamingSeriesWrite) :
    (createNamed document state write).Within (Silent scanned) := by
  unfold createNamed
  refine Within.bind (validationIssues_silent _ _) fun issues => ?_
  split
  · trivial
  · refine Within.bind (Within.ofExcept _) fun stream => ?_
    exact Within.bind (readStream_silent stream) fun events => createUnder_silent write stream events

/-- A turn starts over with what its name has left. -/
def StartsOver (state : CreateState) (write : NamingSeriesWrite) (turn : CreateState ⊕ DocumentCommit) : Prop :=
  ∀ next, turn = .inl next → next.remaining = state.remaining - write.candidateAttempts ∧ 0 < next.remaining

theorem createUnder_yields (write : NamingSeriesWrite) (stream : StreamName) (events : List DomainEvent) :
    (createUnder document state write stream events).Yields (StartsOver state write) := by
  unfold createUnder
  dsimp only
  split
  · split_ifs with hover
    · rintro next ⟨⟩
      rw [Bool.and_eq_true, decide_eq_true_eq] at hover
      exact ⟨rfl, hover.2⟩
    · trivial
  · refine Yields.bind fun committed => ?_
    split
    · rintro next ⟨⟩
    · refine Yields.bind fun conflict => ?_
      split
      · split
        · rintro next ⟨⟩
          exact ⟨rfl, ‹_›⟩
        · trivial
      · trivial

theorem createNamed_yields (write : NamingSeriesWrite) :
    (createNamed document state write).Yields (StartsOver state write) := by
  unfold createNamed
  refine Yields.bind fun issues => ?_
  split
  · trivial
  · exact Yields.bind fun stream => Yields.bind fun events => createUnder_yields write stream events

/-- What a turn spends: at most one scan, with the attempts that are left; it starts over with fewer. -/
def TurnSpends (parseDate : Timestamp → Option UtcDate)
    (safeRegex : JsString → Bool → Except FrameworkError (JsString → Bool)) (attempts : Nat)
    (scans : List ScanInput) (turn : Except FrameworkError (CreateState ⊕ DocumentCommit)) : Prop :=
  (scans = [] ∧ ∃ error, turn = .error error) ∨
    ∃ input, scans = [input] ∧ input.attemptLimit = some attempts ∧
      ∀ next, turn = .ok (.inl next) →
        next.remaining < attempts ∧ rendered parseDate safeRegex [input] + next.remaining ≤ attempts

theorem createTurn_spends :
    Spends parseDate safeRegex (TurnSpends parseDate safeRegex state.remaining) (createTurn parseDate document state) := by
  refine Ensures.bind planNamingSeriesWrite_spends ?_ ?_
  · rintro scans error (⟨rfl, -⟩ | ⟨input, rfl, hlimit, -⟩)
    · exact Or.inl ⟨rfl, error, rfl⟩
    · exact Or.inr ⟨input, rfl, hlimit, fun next h => by cases h⟩
  · rintro scans write (⟨-, error, h⟩ | ⟨input, rfl, hlimit, hwrite⟩)
    · cases h
    · obtain ⟨hattempts, hpositive⟩ := hwrite write rfl
      refine (Ensures.of_silent (createNamed_silent write) (createNamed_yields write)).mono ?_
      rintro rest turn ⟨rfl, hturn⟩
      refine Or.inr ⟨input, rfl, hlimit, ?_⟩
      intro next h
      obtain ⟨hremaining, hleft⟩ := hturn _ h next rfl
      omega

/-! ## A run -/

/-- From any state of the loop, the run stays within the attempts that are left, and more turns than attempts
suffice. -/
theorem createLoop_spends {turns : Nat} (hturns : state.remaining < turns) :
    Spends parseDate safeRegex
      (fun scans result => WithinBudget parseDate safeRegex state.remaining scans ∧ result ≠ .ok none)
      (createLoop parseDate document turns state) := by
  induction turns generalizing state with
  | zero => exact absurd hturns (Nat.not_lt_zero _)
  | succ turns ih =>
    unfold createLoop
    split_ifs with hnone
    · exact Ensures.throw ⟨WithinBudget.nil, by rintro ⟨⟩⟩
    · refine Ensures.bind createTurn_spends ?_ ?_
      · rintro scans error (⟨rfl, -⟩ | ⟨input, rfl, hlimit, -⟩)
        · exact ⟨WithinBudget.nil, by rintro ⟨⟩⟩
        · exact ⟨WithinBudget.single hlimit (Nat.pos_of_ne_zero hnone), by rintro ⟨⟩⟩
      · rintro scans turn (⟨-, error, h⟩ | ⟨input, rfl, hlimit, hnext⟩)
        · cases h
        · cases turn with
          | inr commit =>
            refine Ensures.pure ⟨?_, by rintro ⟨⟩⟩
            exact WithinBudget.single hlimit (Nat.pos_of_ne_zero hnone)
          | inl next =>
            obtain ⟨hless, hspent⟩ := hnext next rfl
            refine (ih (by omega)).mono ?_
            rintro rest result ⟨hrest, hresult⟩
            exact ⟨hrest.cons hlimit hless hspent, hresult⟩

/-- **A creation stays within the attempts of its strategy**, whatever the store and everything else answer: all
its scans together render at most `maxAttempts` candidates, the limits of the scans are at least 1, at most
`maxAttempts` and decreasing, and the loop comes to its own end. -/
theorem create_withinBudget {turns : Nat} (hturns : document.strategy.maxAttempts.getD defaultMaxAttempts < turns)
    {events : List ((action : CreateAction) × action.Reply)} {result : Except FrameworkError (Option DocumentCommit)}
    (h : Traces (Answers parseDate safeRegex) (createLoop parseDate document turns (start document)) events result) :
    WithinBudget parseDate safeRegex (document.strategy.maxAttempts.getD defaultMaxAttempts)
        (events.filterMap scanned) ∧
      result ≠ .ok none :=
  createLoop_spends hturns events result h

end

/-- A series of numbers with two attempts. -/
def ticket : SeriesDocument where
  actorId := js "u"
  tenantId := js "t"
  doctype := { name := js "Q", fields := [] }
  strategy := { pattern := js "#", maxAttempts := some 2 }
  data := []
  now := js "2024-01-01T00:00:00.000Z"

/-- The document that has the first name. -/
def firstTicket : DomainEvent :=
  { id := js "evt_0", tenantId := js "t", stream := js "t:Q:1", type := js "QCreated", doctype := js "Q"
    documentName := js "1", actorId := js "u", occurredAt := js "2024-01-01T00:00:00.000Z"
    payload := .documentCreated [] .draft, metadata := [], sequence := 1 }

def parseTicketDate : Timestamp → Option UtcDate := fun _ => some ⟨2024, 1, 1⟩

def noRegex : JsString → Bool → Except FrameworkError (JsString → Bool) := fun _ _ => .ok (fun _ => false)

/-- The first name is occupied, the second one fails its validation. -/
theorem create_withinBudget_ticket :
    ∃ (events : List ((action : CreateAction) × action.Reply)) (result : Except FrameworkError (Option DocumentCommit)),
      2 < 3 ∧ Traces (Answers parseTicketDate noRegex) (createLoop parseTicketDate ticket 3 (start ticket)) events result ∧
      WithinBudget parseTicketDate noRegex 2 (events.filterMap scanned) ∧ result ≠ .ok none := by
  have hrun : ∃ (events : List ((action : CreateAction) × action.Reply))
      (result : Except FrameworkError (Option DocumentCommit)),
      Traces (Answers parseTicketDate noRegex) (createLoop parseTicketDate ticket 3 (start ticket)) events result := by
    refine Traces.exists_act (.ok []) trivial ?_
    refine Traces.exists_act (.ok { candidates := [{ value := 1, name := js "1" }], attempts := 1 }) rfl ?_
    refine Traces.exists_act (js "evt_1") trivial ?_
    refine Traces.exists_act (.ok []) trivial ?_
    refine Traces.exists_act (.ok [firstTicket]) trivial ?_
    refine Traces.exists_act (.ok []) trivial ?_
    refine Traces.exists_act (.ok { candidates := [{ value := 2, name := js "2" }], attempts := 1 }) rfl ?_
    refine Traces.exists_act (js "evt_2") trivial ?_
    refine Traces.exists_act (.error (.ofError (js "offline"))) trivial ?_
    exact ⟨_, _, Traces.throw _⟩
  obtain ⟨events, result, h⟩ := hrun
  exact ⟨events, result, by decide, h, @create_withinBudget parseTicketDate noRegex ticket 3 (by decide) _ _ h⟩

end SeriesCreate
