import CfFrappe.Application.AutomationRuns

set_option autoImplicit false

/-! # The policy of automation runs

Limits, leases and delays, and which runs can be claimed.
-/

open Utf

def automationRunDefaultClaimLimit : Nat := 25
def automationRunMaxClaimLimit : Nat := 100
def automationRunDefaultClaimLeaseSeconds : Nat := 300
def automationRunMaxClaimLeaseSeconds : Nat := 3600
def automationRunDefaultMaxAttempts : Nat := 10
def automationRunDefaultRetryBaseDelaySeconds : Nat := 30
def automationRunDefaultRetryMaxDelaySeconds : Nat := 1800

def automationRunNotFound (message : JsString) : FrameworkError :=
  { code := .automationRunNotFound, message, status := 404 }

/-- An integer from 1 to the most that is allowed, or the default. -/
def boundedInteger (value : Option Rat) (default max : Nat) (label : JsString) : Except FrameworkError Nat :=
  match value with
  | none => .ok default
  | some value =>
    if Json.isSafeInteger value && 1 ≤ value && value ≤ max then .ok value.num.toNat
    else .error (.ofBadRequest (label ++ js " must be an integer between 1 and " ++ Json.natToString max))

def automationRunClaimLimit (limit : Option Rat) : Except FrameworkError Nat :=
  boundedInteger limit automationRunDefaultClaimLimit automationRunMaxClaimLimit (js "Automation run claim limit")

def automationRunClaimLeaseSeconds (value : Option Rat) : Except FrameworkError Nat :=
  boundedInteger value automationRunDefaultClaimLeaseSeconds automationRunMaxClaimLeaseSeconds
    (js "Automation run claim lease seconds")

def automationRunFailureError (error : JsString) : Except FrameworkError JsString :=
  if (Json.trim error).isEmpty then .error (.ofBadRequest (js "Automation run failure error is required"))
  else .ok (Json.trim error)

/-- The delay doubles with every attempt, up to a bound. -/
def automationRunRetryDelay (retry : AutomationRunRetryPolicy) (attempts : Nat) : Nat :=
  min retry.maxDelaySeconds (retry.baseDelaySeconds * 2 ^ (attempts - 1))

/-- `new Date(Date.parse(now) + seconds * 1000).toISOString()`; `addSeconds` knows the calendar. -/
def laterTimestamp (addSeconds : Timestamp → Nat → Option Timestamp) (now : Timestamp) (seconds : Nat) :
    Except FrameworkError Timestamp :=
  match addSeconds now seconds with
  | some later => .ok later
  | none => .error (.ofError (js "Invalid time value"))

def automationRunRetryAt (addSeconds : Timestamp → Nat → Option Timestamp) (now : Timestamp)
    (retry : AutomationRunRetryPolicy) (attempts : Nat) : Except FrameworkError Timestamp :=
  laterTimestamp addSeconds now (automationRunRetryDelay retry attempts)

/-- `left <= right` on texts. -/
def textLe (left right : JsString) : Bool := compareCodeUnits left right != .gt

def automationRunRetryDue (record : AutomationRunRecord) (now : Timestamp) : Bool :=
  record.retryAt.all (textLe · now)

def automationRunClaimExpired (record : AutomationRunRecord) (now : Timestamp) : Bool :=
  record.status == .claimed && record.claimExpiresAt.any (textLe · now)

def isClaimableAutomationRun (record : AutomationRunRecord) (now : Timestamp) : Bool :=
  record.status == .pending || (record.status == .failed && automationRunRetryDue record now) ||
    automationRunClaimExpired record now

section

variable (localeCompare : JsString → JsString → Ordering)

def sortedAutomationRunRecords (records : List AutomationRunRecord) : List AutomationRunRecord :=
  records.insertionSort (fun left right =>
    (localeCompare left.enqueuedAt right.enqueuedAt).then (localeCompare left.runId right.runId) ≠ .gt)

def claimableAutomationRuns (records : List AutomationRunRecord) (now : Timestamp) (limit : Nat) :
    List AutomationRunRecord :=
  (sortedAutomationRunRecords localeCompare
    (records.filter (fun record => isClaimableAutomationRun record now))).take limit

end

/-- The last record of an id, as a `Map` of the records gives it. -/
def selectedAutomationRunRecords (records : List AutomationRunRecord) (runIds : List JsString) :
    List AutomationRunRecord :=
  runIds.filterMap (fun runId => records.reverse.find? (fun record => record.runId == runId))

def ensureAutomationRunClaimed (record : AutomationRunRecord) (claimId : JsString) : Except FrameworkError Unit :=
  ensure (record.status == .claimed && record.claimId == some claimId)
    (.conflict (js "Automation run '" ++ record.runId ++ js "' is not claimed by '" ++ claimId ++ js "'"))

def automationRunShouldDeadLetter (record : AutomationRunRecord) : Bool := record.retry.maxAttempts ≤ record.attempts

/-- The retry policy of a planner before it is checked. -/
structure AutomationRunRetryOptions where
  maxAttempts : Option Rat := none
  baseDelaySeconds : Option Rat := none
  maxDelaySeconds : Option Rat := none

def normalizeAutomationRunRetryPolicy (value : AutomationRunRetryOptions) :
    Except FrameworkError AutomationRunRetryPolicy := do
  let maxAttempts := value.maxAttempts.getD automationRunDefaultMaxAttempts
  let baseDelaySeconds := value.baseDelaySeconds.getD automationRunDefaultRetryBaseDelaySeconds
  let maxDelaySeconds := value.maxDelaySeconds.getD automationRunDefaultRetryMaxDelaySeconds
  ensure (Json.isSafeInteger maxAttempts && 1 ≤ maxAttempts)
    (.ofBadRequest (js "Automation run retry maxAttempts must be a positive integer"))
  ensure (Json.isSafeInteger baseDelaySeconds && 1 ≤ baseDelaySeconds)
    (.ofBadRequest (js "Automation run retry baseDelaySeconds must be a positive integer"))
  ensure (Json.isSafeInteger maxDelaySeconds && baseDelaySeconds ≤ maxDelaySeconds)
    (.ofBadRequest (js "Automation run retry maxDelaySeconds must be greater than or equal to baseDelaySeconds"))
  return { maxAttempts := maxAttempts.num.toNat, baseDelaySeconds := baseDelaySeconds.num.toNat
           maxDelaySeconds := maxDelaySeconds.num.toNat }

/-- A safe integer that is not negative is the natural number it is read as. -/
theorem natCast_num_toNat {n : Rat} (hsafe : Json.isSafeInteger n = true) (hpos : 0 ≤ n) :
    ((n.num.toNat : Nat) : Rat) = n := by
  rw [Json.isSafeInteger, Bool.and_eq_true, beq_iff_eq] at hsafe
  have hnum : 0 ≤ n.num := Rat.num_nonneg.mpr hpos
  have hcast : ((n.num.toNat : Nat) : Int) = n.num := Int.toNat_of_nonneg hnum
  calc ((n.num.toNat : Nat) : Rat) = (((n.num.toNat : Nat) : Int) : Rat) := by norm_cast
    _ = (n.num : Rat) := by rw [hcast]
    _ = n := Rat.coe_int_num_of_den_eq_one hsafe.1

theorem normalizeAutomationRunRetryPolicy_safe {value : AutomationRunRetryOptions} {retry : AutomationRunRetryPolicy}
    (h : normalizeAutomationRunRetryPolicy value = .ok retry) : retry.Safe := by
  unfold normalizeAutomationRunRetryPolicy at h
  obtain ⟨_, hattempts, h⟩ := except_bind_eq_ok h
  obtain ⟨_, hbase, h⟩ := except_bind_eq_ok h
  obtain ⟨_, hmax, h⟩ := except_bind_eq_ok h
  have hattempts := ensure_eq_ok hattempts
  have hbase := ensure_eq_ok hbase
  have hmax := ensure_eq_ok hmax
  rw [Bool.and_eq_true, decide_eq_true_eq] at hattempts hbase hmax
  cases h
  constructor
  · show Json.isSafeInteger ((_ : Nat) : Rat) = true
    rw [natCast_num_toNat hattempts.1 (zero_le_one.trans hattempts.2)]
    exact hattempts.1
  · show Json.isSafeInteger ((_ : Nat) : Rat) = true
    rw [natCast_num_toNat hbase.1 (zero_le_one.trans hbase.2)]
    exact hbase.1
  · show Json.isSafeInteger ((_ : Nat) : Rat) = true
    rw [natCast_num_toNat hmax.1 ((zero_le_one.trans hbase.2).trans hmax.2)]
    exact hmax.1
