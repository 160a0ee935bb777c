import CfFrappe.Core.NamingCandidates
import CfFrappe.Core.NumberTexts

set_option autoImplicit false

/-! # Names of different counter scopes

A counter that starts again in every year, or for every value of a field, has a scope: the date and the fields that
choose it. Names of different scopes are to differ although their numbers may be the same. What the code checks for
that is that the pattern shows whatever the scope is made of (`ScopeVisible`). The module says how far this carries:

* `scope_eq_of_tokenTexts_eq`: the texts of the tokens, one by one, do tell the scopes apart, except for a few days
  whose numbers in the year `Date.UTC` gets wrong or does not know (`UnnumberedDays`).
* A name is these texts without anything between them. Of two contexts, take what the pattern shows before the number
  and behind it (`surroundings`): the names of the two are different for all numbers exactly where these texts do not
  meet (`names_of_different_scopes_iff`). Texts meet where one number fits into the digits that the other context
  shows around its own, where two numbers overlap, or where one of them stands in the text behind the other; and
  where the texts are the same.
-/

open Utf

namespace Naming

/-! ## Dates -/

/-- A leap year of the Gregorian calendar. -/
def isLeapYear (year : Int) : Bool := decide (year % 4 = 0) && (decide (year % 100 ≠ 0) || decide (year % 400 = 0))

def daysInMonth (leap : Bool) : Nat → Nat
  | 2 => if leap then 29 else 28
  | 4 | 6 | 9 | 11 => 30
  | _ => 31

/-- A date of the calendar, not farther from 1970 than dates go. -/
structure UtcDate.IsCalendarDate (date : UtcDate) : Prop where
  month : 1 ≤ date.month ∧ date.month ≤ 12
  day : 1 ≤ date.day ∧ date.day ≤ daysInMonth (isLeapYear date.year) date.month
  near : (dayNumber date.year date.month date.day).natAbs ≤ 100000000

instance (date : UtcDate) : Decidable date.IsCalendarDate :=
  decidable_of_iff ((1 ≤ date.month ∧ date.month ≤ 12) ∧
    (1 ≤ date.day ∧ date.day ≤ daysInMonth (isLeapYear date.year) date.month) ∧
      (dayNumber date.year date.month date.day).natAbs ≤ 100000000)
    ⟨fun h => ⟨h.1, h.2.1, h.2.2⟩, fun h => ⟨h.month, h.day, h.near⟩⟩

/-- The days of a year before a month. -/
def daysBefore (leap : Bool) (month : Nat) : Nat := ((List.range (month - 1)).map (fun m => daysInMonth leap (m + 1))).sum

theorem daysBefore_add_daysInMonth : ∀ leap : Bool, ∀ month < 13, ∀ later < 13, 1 ≤ month → month < later →
    daysBefore leap month + daysInMonth leap month ≤ daysBefore leap later := by decide

/-- The days up to the first of March of a year. -/
def daysToMarch (year : Int) : Int :=
  year / 400 * 146097 + (year - year / 400 * 400) * 365 + (year - year / 400 * 400) / 4 - (year - year / 400 * 400) / 100

theorem daysToMarch_succ (year : Int) :
    daysToMarch year = daysToMarch (year - 1) + 365 + if isLeapYear year = true then 1 else 0 := by
  unfold daysToMarch isLeapYear
  simp only [Bool.and_eq_true, Bool.or_eq_true, decide_eq_true_eq]
  split_ifs <;> omega

theorem dayNumber_eq (year : Int) (month day : Nat) :
    dayNumber year month day =
      daysToMarch (if month ≤ 2 then year - 1 else year) +
        (153 * (if month ≤ 2 then (month : Int) + 9 else month - 3) + 2) / 5 + day - 1 - 719468 := by
  have hdiv : ∀ y : Int, y.fdiv 400 = y / 400 := fun y => Int.fdiv_eq_ediv_of_nonneg y (by decide)
  unfold dayNumber daysToMarch
  simp only [hdiv]
  split_ifs <;> omega

theorem daysInMonth_le (leap : Bool) : ∀ month, daysInMonth leap month ≤ 31 := by
  intro month
  unfold daysInMonth
  split
  · split_ifs <;> omega
  all_goals omega

/-- The years that dates have. -/
theorem UtcDate.IsCalendarDate.year {date : UtcDate} (h : date.IsCalendarDate) :
    -271821 ≤ date.year ∧ date.year ≤ 275760 := by
  have hmonth := h.month
  have hday := h.day
  have hlength := daysInMonth_le (isLeapYear date.year) date.month
  have hnear := h.near
  rw [dayNumber_eq] at hnear
  unfold daysToMarch at hnear
  generalize daysInMonth (isLeapYear date.year) date.month = length at hday hlength
  split_ifs at hnear <;> omega

/-- The days of a year of which `Date.UTC` knows the first one. -/
theorem dateUtc_eq {year : Int} {month day : Nat} (hyear : -271821 < year ∧ year ≤ 275760)
    (hmonth : 1 ≤ month ∧ month ≤ 12) (hday : 1 ≤ day ∧ day ≤ 31)
    (hnear : year ≤ 275759 ∨ (dayNumber year month day).natAbs ≤ 100000000) :
    dateUtc year month day = some (dayNumber (utcYear year) month day) := by
  have hbound : (dayNumber (utcYear year) month day).natAbs ≤ 100000000 := by
    by_cases htwoDigits : 0 ≤ year ∧ year ≤ 99
    · unfold utcYear
      rw [if_pos htwoDigits, dayNumber_eq]
      unfold daysToMarch
      split_ifs <;> omega
    · unfold utcYear
      rw [if_neg htwoDigits]
      rcases hnear with hearly | hnear
      · rw [dayNumber_eq]
        unfold daysToMarch
        split_ifs <;> omega
      · exact hnear
  unfold dateUtc
  rw [if_pos hbound]

/-- In the year that the dates begin in, no day has a number. -/
theorem dayOfYear_firstYear {date : UtcDate} (h : date.year = -271821) : dayOfYear date = none := by
  unfold dayOfYear
  rw [h]
  rfl

theorem dayOfYear_eq {date : UtcDate} (h : date.IsCalendarDate) (hyear : date.year ≠ -271821) :
    dayOfYear date = some ((daysBefore (isLeapYear (utcYear date.year)) date.month : Int) + date.day) := by
  obtain ⟨hmonth, hmonth'⟩ := h.month
  have hrange := h.year
  have hday := h.day
  have hlength := daysInMonth_le (isLeapYear date.year) date.month
  have hmarch := daysToMarch_succ (utcYear date.year)
  have hfirst : dateUtc date.year 1 1 = some (dayNumber (utcYear date.year) 1 1) := by
    refine dateUtc_eq ⟨by omega, hrange.2⟩ (by decide) (by decide) ?_
    by_cases hlast : date.year = 275760
    · rw [hlast]
      exact Or.inr (by decide)
    · left
      omega
  have hlast : dateUtc date.year date.month date.day = some (dayNumber (utcYear date.year) date.month date.day) :=
    dateUtc_eq ⟨by omega, hrange.2⟩ h.month ⟨hday.1, hday.2.trans hlength⟩ (Or.inr h.near)
  unfold dayOfYear
  rw [hfirst, hlast]
  show some _ = some _
  rw [Option.some.injEq, dayNumber_eq, dayNumber_eq]
  generalize utcYear date.year = year at hmarch ⊢
  generalize isLeapYear year = leap at hmarch ⊢
  -- January and February belong to the year that began in March
  have hbefore : ∀ month < 13, 1 ≤ month → (daysBefore leap month : Int) =
      (153 * (if month ≤ 2 then (month : Int) + 9 else month - 3) + 2) / 5 +
        if month ≤ 2 then -306 else 59 + if leap = true then 1 else 0 := by
    cases leap <;> decide
  have hmonthBefore := hbefore date.month (by omega) hmonth
  rw [hmonthBefore]
  clear hfirst hlast hrange hday hlength
  split_ifs at * <;> omega

/-- The months and days of a year of which `Date.UTC` knows the length. -/
theorem day_eq_of_daysBefore {leap : Bool} {month month' day day' : Nat} (hmonth : 1 ≤ month ∧ month ≤ 12)
    (hmonth' : 1 ≤ month' ∧ month' ≤ 12) (hday : 1 ≤ day ∧ day ≤ daysInMonth leap month)
    (hday' : 1 ≤ day' ∧ day' ≤ daysInMonth leap month')
    (h : daysBefore leap month + day = daysBefore leap month' + day') : month = month' ∧ day = day' := by
  have hordered := daysBefore_add_daysInMonth leap month (by omega) month' (by omega) hmonth.1
  have hordered' := daysBefore_add_daysInMonth leap month' (by omega) month (by omega) hmonth'.1
  rcases Nat.lt_trichotomy month month' with hlt | rfl | hgt
  · have := hordered hlt
    omega
  · exact ⟨rfl, by omega⟩
  · have := hordered' hgt
    omega

/-- `Date.UTC` takes the year 0 for 1900, which has no leap day: the leap day of the year 0 and the day
behind it have the same number. -/
def LeapDayOfYearZero (date date' : UtcDate) : Prop :=
  date = ⟨0, 2, 29⟩ ∧ date' = ⟨0, 3, 1⟩ ∨ date = ⟨0, 3, 1⟩ ∧ date' = ⟨0, 2, 29⟩

instance (date date' : UtcDate) : Decidable (LeapDayOfYearZero date date') :=
  inferInstanceAs (Decidable (_ ∨ _))

/-- Days that their numbers in the year do not tell apart: the leap day of the year 0 and the day behind it, and all
days of the year that the dates begin in. -/
def UnnumberedDays (date date' : UtcDate) : Prop :=
  LeapDayOfYearZero date date' ∨ date.year = -271821 ∧ date'.year = -271821

/-- A day of a leap year is a day of the common year with the same number, or it is the leap day. -/
theorem exists_day_of_commonYear {month day : Nat} (hmonth : 1 ≤ month ∧ month ≤ 12)
    (hday : 1 ≤ day ∧ day ≤ daysInMonth true month) :
    (1 ≤ day ∧ day ≤ daysInMonth false month) ∨ (month = 2 ∧ day = 29) := by
  have hlonger : ∀ month < 13, month ≠ 2 → daysInMonth true month = daysInMonth false month := by decide
  by_cases hfebruary : month = 2
  · subst hfebruary
    have hcommon : daysInMonth false 2 = 28 := rfl
    have hleap : daysInMonth true 2 = 29 := rfl
    omega
  · rw [← hlonger month (by omega) hfebruary]
    exact Or.inl hday

/-- The days of the year 0, numbered as those of 1900. -/
theorem day_eq_of_daysBefore_yearZero {month month' day day' : Nat} (hmonth : 1 ≤ month ∧ month ≤ 12)
    (hmonth' : 1 ≤ month' ∧ month' ≤ 12) (hday : 1 ≤ day ∧ day ≤ daysInMonth true month)
    (hday' : 1 ≤ day' ∧ day' ≤ daysInMonth true month')
    (h : daysBefore false month + day = daysBefore false month' + day') :
    (month = month' ∧ day = day') ∨ (month = 2 ∧ day = 29 ∧ month' = 3 ∧ day' = 1) ∨
      (month = 3 ∧ day = 1 ∧ month' = 2 ∧ day' = 29) := by
  have hfebruary : daysBefore false 2 = 31 := rfl
  have hmarch : daysBefore false 3 = 59 := rfl
  have hone : 1 ≤ daysInMonth false 3 := by decide
  rcases exists_day_of_commonYear hmonth hday with hcommon | ⟨rfl, rfl⟩
  · rcases exists_day_of_commonYear hmonth' hday' with hcommon' | ⟨rfl, rfl⟩
    · exact Or.inl (day_eq_of_daysBefore hmonth hmonth' hcommon hcommon' h)
    · have hsame := @day_eq_of_daysBefore false month 3 day 1 hmonth (by decide) hcommon ⟨by decide, hone⟩ (by omega)
      exact Or.inr (Or.inr ⟨hsame.1, hsame.2, rfl, rfl⟩)
  · rcases exists_day_of_commonYear hmonth' hday' with hcommon' | ⟨rfl, rfl⟩
    · have hsame := @day_eq_of_daysBefore false month' 3 day' 1 hmonth' (by decide) hcommon' ⟨by decide, hone⟩ (by omega)
      exact Or.inr (Or.inl ⟨rfl, rfl, hsame.1, hsame.2⟩)
    · exact Or.inl ⟨rfl, rfl⟩

/-- **The year and the day of the year make up the date**, except for a few days. -/
theorem date_eq_of_dayOfYear {date date' : UtcDate} (h : date.IsCalendarDate) (h' : date'.IsCalendarDate)
    (hyear : date.year = date'.year) (hday : dayOfYear date = dayOfYear date') :
    date = date' ∨ UnnumberedDays date date' := by
  by_cases hfirstYear : date.year = -271821
  · exact Or.inr (Or.inr ⟨hfirstYear, hyear ▸ hfirstYear⟩)
  rw [dayOfYear_eq h hfirstYear, dayOfYear_eq h' (hyear ▸ hfirstYear), hyear, Option.some.injEq] at hday
  have hmonth := h.month
  have hmonth' := h'.month
  have hlength := h.day
  have hlength' := h'.day
  rw [hyear] at hlength
  obtain ⟨year, month, day⟩ := date
  obtain ⟨year', month', day'⟩ := date'
  dsimp only at hyear hday hmonth hmonth' hlength hlength'
  subst hyear
  by_cases hzero : year = 0
  · subst hzero
    have hleap : isLeapYear 0 = true := by decide
    have hshort : isLeapYear (utcYear 0) = false := by decide
    rw [hshort] at hday
    rw [hleap] at hlength hlength'
    rcases day_eq_of_daysBefore_yearZero hmonth hmonth' hlength hlength' (by omega) with
      ⟨rfl, rfl⟩ | ⟨rfl, rfl, rfl, rfl⟩ | ⟨rfl, rfl, rfl, rfl⟩
    · exact Or.inl rfl
    · exact Or.inr (Or.inl (Or.inl ⟨rfl, rfl⟩))
    · exact Or.inr (Or.inl (Or.inr ⟨rfl, rfl⟩))
  · -- in the years 1 to 99, as in 1901 to 1999, every fourth year is a leap year
    have hleap : isLeapYear (utcYear year) = isLeapYear year := by
      unfold utcYear
      split_ifs with htwoDigits
      · have hyear : year % 4 = (1900 + year) % 4 := by omega
        have hnot : year % 100 ≠ 0 := by omega
        have hnot' : (1900 + year) % 100 ≠ 0 := by omega
        simp [isLeapYear, hnot, hnot', hyear]
      · rfl
    rw [hleap] at hday
    obtain ⟨rfl, rfl⟩ := day_eq_of_daysBefore hmonth hmonth' hlength hlength' (by omega)
    exact Or.inl rfl

/-! ## Numbers as texts -/

theorem mem_natToString {n : Nat} {u : UInt16} (h : u ∈ Json.natToString n) : u ≠ 0x2D := by
  induction n using Nat.strongRecOn with
  | ind n ih =>
    by_cases hn : n < 10
    · have hdigit : u = UInt16.ofNat (Nat.digitChar n).toNat := by
        unfold Json.natToString at h
        rw [Nat.toDigits_of_lt_base hn] at h
        simpa using h
      rw [hdigit]
      interval_cases n <;> decide
    · rw [Json.natToString_of_ge (by omega), List.mem_append] at h
      rcases h with h | h
      · exact ih (n / 10) (by omega) h
      · exact ih (n % 10) (by omega) h

/-- The minus sign of a padded negative number tells how far it was padded. -/
theorem dropWhile_padZeros_negative (width n : Nat) :
    (Json.padZeros width (js "-" ++ Json.natToString n)).dropWhile (· != 0x2D) = js "-" ++ Json.natToString n := by
  unfold Json.padZeros
  rw [List.dropWhile_append_of_pos]
  · rfl
  · intro u hu
    rw [(List.mem_replicate.mp hu).2]
    decide

theorem minus_notMem_padZeros (width n : Nat) : 0x2D ∉ Json.padZeros width (Json.natToString n) := by
  unfold Json.padZeros
  rw [List.mem_append, not_or]
  constructor
  · intro h
    exact absurd (List.mem_replicate.mp h).2 (by decide)
  · exact fun h => mem_natToString h rfl

theorem mem_padZeros_intToString {width : Nat} {n : Int} {u : UInt16} (h : u ∈ Json.padZeros width (intToString n)) :
    u ≠ 0x4E := by
  unfold Json.padZeros intToString at h
  rintro rfl
  have hdigit : ∀ m, (0x4E : UInt16) ∉ Json.natToString m := by
    intro m hmem
    exact absurd (Json.isAsciiDigit_of_mem_natToString hmem) (by decide)
  rcases List.mem_append.mp h with h | h
  · exact absurd (List.mem_replicate.mp h).2 (by decide)
  · split_ifs at h
    · rcases List.mem_append.mp h with h | h
      · exact absurd h (by decide)
      · exact hdigit _ h
    · exact hdigit _ h

theorem padZeros_intToString_injective {width : Nat} {a b : Int}
    (h : Json.padZeros width (intToString a) = Json.padZeros width (intToString b)) : a = b := by
  have hminus : ∀ n, (0x2D : UInt16) ∈ Json.padZeros width (js "-" ++ Json.natToString n) := by
    intro n
    unfold Json.padZeros
    exact List.mem_append_right _ (List.mem_append_left _ (by decide))
  unfold intToString at h
  by_cases ha : a < 0
  · rw [if_pos ha] at h
    by_cases hb : b < 0
    · rw [if_pos hb] at h
      have hdrop := congrArg (List.dropWhile (· != (0x2D : UInt16))) h
      rw [dropWhile_padZeros_negative, dropWhile_padZeros_negative, List.append_cancel_left_eq] at hdrop
      have habs : a.natAbs = b.natAbs := @Json.padZeros_natToString_injective 0 _ _ (by rw [hdrop])
      omega
    · rw [if_neg hb] at h
      exact absurd (h ▸ hminus a.natAbs) (minus_notMem_padZeros width b.natAbs)
  · rw [if_neg ha] at h
    by_cases hb : b < 0
    · rw [if_pos hb] at h
      exact absurd (h ▸ hminus b.natAbs) (minus_notMem_padZeros width a.natAbs)
    · rw [if_neg hb] at h
      have habs := Json.padZeros_natToString_injective h
      omega

/-- A number, or `NaN`, is read off its padded text. -/
theorem padZeros_countText_injective {width : Nat} {a b : Option Int}
    (h : Json.padZeros width (countText a) = Json.padZeros width (countText b)) : a = b := by
  have hnan : (0x4E : UInt16) ∈ Json.padZeros width (js "NaN") := List.mem_append_right _ (by decide)
  cases a with
  | none =>
    cases b with
    | none => rfl
    | some b =>
      unfold countText at h
      exact absurd rfl (mem_padZeros_intToString (h ▸ hnan))
  | some a =>
    cases b with
    | none =>
      unfold countText at h
      exact absurd rfl (mem_padZeros_intToString (h.symm ▸ hnan))
    | some b => rw [padZeros_intToString_injective h]

/-! ## The texts of the tokens -/

section

variable {parseDate : Timestamp → Option UtcDate} {doctype : DocTypeDefinition} {strategy : NamingSeriesStrategy}

/-- What a document is named from: its data, the tenant and the date, and the value of the counter. -/
structure NameSource where
  data : DocumentData
  tenantId : TenantId
  date : UtcDate
  value : Nat

/-- The texts of tokens, one by one. -/
def tokenTexts (doctype : DocTypeDefinition) (strategy : NamingSeriesStrategy) (source : NameSource)
    (tokens : List PatternToken) : Except FrameworkError (List JsString) :=
  tokens.mapM (renderToken doctype strategy source.data source.tenantId source.date source.value)

/-- With the same texts every token has the same text. -/
theorem renderToken_of_tokenTexts {source source' : NameSource} {tokens : List PatternToken} {texts : List JsString}
    (h : tokenTexts doctype strategy source tokens = .ok texts)
    (h' : tokenTexts doctype strategy source' tokens = .ok texts) {token : PatternToken} (htoken : token ∈ tokens) :
    ∃ text, renderToken doctype strategy source.data source.tenantId source.date source.value token = .ok text ∧
      renderToken doctype strategy source'.data source'.tenantId source'.date source'.value token = .ok text := by
  unfold tokenTexts at h h'
  induction tokens generalizing texts with
  | nil => cases htoken
  | cons head tokens ih =>
    rw [List.mapM_cons] at h h'
    obtain ⟨first, hfirst, h⟩ := except_bind_eq_ok h
    obtain ⟨rest, hrest, h⟩ := except_bind_eq_ok h
    obtain ⟨first', hfirst', h'⟩ := except_bind_eq_ok h'
    obtain ⟨rest', hrest', h'⟩ := except_bind_eq_ok h'
    cases h
    obtain ⟨hsame, hsameRest⟩ := List.cons.inj (Except.ok.inj h')
    rcases List.mem_cons.mp htoken with rfl | htoken
    · exact ⟨first, hfirst, hsame ▸ hfirst'⟩
    · exact ih hrest (hsameRest ▸ hrest') htoken

/-! ## The scope is visible -/

/-- What `assertCounterScopeIsVisible` checks. -/
structure ScopeVisible (strategy : NamingSeriesStrategy) (compiled : List PatternToken) : Prop where
  fields : ∀ field ∈ strategy.scopeFields.getD [], PatternToken.field field ∈ compiled
  year : strategy.reset.getD .never ≠ .never → PatternToken.date .yyyy ∈ compiled
  month : strategy.reset.getD .never = .month → PatternToken.date .mm ∈ compiled
  day : strategy.reset.getD .never = .day →
    PatternToken.date .ddd ∈ compiled ∨ PatternToken.date .mm ∈ compiled ∧ PatternToken.date .dd ∈ compiled

theorem assertCounterScopeIsVisible_ok {compiled : List PatternToken} {u : Unit}
    (h : assertCounterScopeIsVisible strategy compiled = .ok u) : ScopeVisible strategy compiled := by
  unfold assertCounterScopeIsVisible at h
  split at h
  · cases h
  · rename_i hnone
    have hfields : ∀ field ∈ strategy.scopeFields.getD [], PatternToken.field field ∈ compiled := by
      intro field hfield
      have hhas := List.find?_eq_none.mp hnone field hfield
      simpa using hhas
    unfold assertResetIsVisible at h
    cases hreset : strategy.reset.getD .never with
    | never => refine ⟨hfields, ?_, ?_, ?_⟩ <;> simp [hreset]
    | year =>
      rw [hreset] at h
      have hhas := ensure_eq_ok h
      refine ⟨hfields, ?_, ?_, ?_⟩ <;> simp [hreset]
      simpa using hhas
    | month =>
      rw [hreset] at h
      have hhas := ensure_eq_ok h
      simp only [List.contains_eq_mem, Bool.and_eq_true, decide_eq_true_eq] at hhas
      refine ⟨hfields, ?_, ?_, ?_⟩ <;> simp [hreset, hhas]
    | day =>
      rw [hreset] at h
      have hhas := ensure_eq_ok h
      simp only [List.contains_eq_mem, Bool.and_eq_true, Bool.or_eq_true, decide_eq_true_eq] at hhas
      refine ⟨hfields, ?_, ?_, ?_⟩ <;> simp [hreset, hhas]

theorem scopeVisible_of_normalizeSeries {safeRegex : JsString → Bool → Except FrameworkError (JsString → Bool)}
    {given : NamingSeriesStrategy} {compiled : List PatternToken}
    (h : normalizeSeries safeRegex doctype given = .ok strategy)
    (hcompiled : compileNamingPattern doctype strategy = .ok compiled) : ScopeVisible strategy compiled := by
  unfold normalizeSeries at h
  iterate 9 obtain ⟨_, -, h⟩ := except_bind_eq_ok h
  obtain ⟨_, hdefinition, h⟩ := except_bind_eq_ok h
  cases h
  iterate 3 obtain ⟨_, -, hdefinition⟩ := except_bind_eq_ok hdefinition
  obtain ⟨compiled', hcompiled', hvisible⟩ := except_bind_eq_ok hdefinition
  rw [hcompiled] at hcompiled'
  cases hcompiled'
  exact assertCounterScopeIsVisible_ok hvisible

/-- With the same texts for the date tokens of a period, two dates fall into the same period, unless their numbers in
the year do not tell them apart. -/
theorem dateBucket_eq {source source' : NameSource} {compiled : List PatternToken} {texts : List JsString}
    (hvisible : ScopeVisible strategy compiled) (hdate : source.date.IsCalendarDate) (hdate' : source'.date.IsCalendarDate)
    (h : tokenTexts doctype strategy source compiled = .ok texts)
    (h' : tokenTexts doctype strategy source' compiled = .ok texts) :
    dateBucket source.date (strategy.reset.getD .never) = dateBucket source'.date (strategy.reset.getD .never) ∨
      UnnumberedDays source.date source'.date := by
  have htoken : ∀ token, PatternToken.date token ∈ compiled →
      renderDateToken source.date token = renderDateToken source'.date token := by
    intro token hmem
    obtain ⟨text, htext, htext'⟩ := renderToken_of_tokenTexts h h' hmem
    exact (Except.ok.inj htext).trans (Except.ok.inj htext').symm
  cases hreset : strategy.reset.getD .never with
  | never => exact Or.inl rfl
  | year => exact Or.inl (htoken .yyyy (hvisible.year (by rw [hreset]; decide)))
  | month =>
    have hyear := htoken .yyyy (hvisible.year (by rw [hreset]; decide))
    -- month and day are written, so the day of the year is
    have hmonth := htoken .mm (hvisible.month hreset)
    unfold renderDateToken at hyear hmonth
    unfold dateBucket
    dsimp only at hyear hmonth ⊢
    rw [hyear, hmonth]
    exact Or.inl rfl
  | day =>
    have hyear := htoken .yyyy (hvisible.year (by rw [hreset]; decide))
    rcases hvisible.day hreset with hddd | ⟨hmm, hdd⟩
    · have hday := htoken .ddd hddd
      rcases date_eq_of_dayOfYear hdate hdate' (padZeros_intToString_injective hyear)
        (padZeros_countText_injective hday) with hsame | hleap
      · rw [hsame]
        exact Or.inl rfl
      · exact Or.inr hleap
    · have hmonth := htoken .mm hmm
      have hday := htoken .dd hdd
      unfold renderDateToken at hyear hmonth hday
      unfold dateBucket
      dsimp only at hyear hmonth hday ⊢
      rw [hyear, hmonth, hday]
      exact Or.inl rfl

/-- With the same texts for the field tokens, the parts of the scope fields are the same. -/
theorem scopeParts_eq {source source' : NameSource} {compiled : List PatternToken} {texts : List JsString}
    (h : tokenTexts doctype strategy source compiled = .ok texts)
    (h' : tokenTexts doctype strategy source' compiled = .ok texts) {fields : List JsString}
    (hfields : ∀ field ∈ fields, PatternToken.field field ∈ compiled) :
    scopeParts source.data fields = scopeParts source'.data fields := by
  induction fields with
  | nil => rfl
  | cons field fields ih =>
    obtain ⟨text, htext, htext'⟩ := renderToken_of_tokenTexts h h' (hfields field List.mem_cons_self)
    have hvalue : namingFieldValue (Record.get source.data field) field =
        namingFieldValue (Record.get source'.data field) field := Eq.trans htext htext'.symm
    unfold scopeParts scopePart
    rw [hvalue, ih (fun other hother => hfields other (List.mem_cons_of_mem _ hother))]

/-- The part of the scope that the date makes up. -/
def datePart (date : UtcDate) : NamingSeriesReset → List JsString
  | .never => []
  | reset => [js "date=" ++ dateBucket date reset]

theorem datePart_eq {date date' : UtcDate} {reset : NamingSeriesReset}
    (h : dateBucket date reset = dateBucket date' reset) : datePart date reset = datePart date' reset := by
  cases reset
  · rfl
  all_goals
    unfold datePart
    dsimp only
    rw [h]

theorem resolveNamingSeriesIdentity_scope {data : DocumentData} {context : RenderContext} {date : UtcDate}
    {identity : SeriesIdentity} (hdate : parseDate context.now = some date)
    (h : resolveNamingSeriesIdentity parseDate doctype strategy data context = .ok identity) :
    ∃ parts, scopeParts data (strategy.scopeFields.getD []) = .ok parts ∧
      identity.scope = (js "|").intercalate (datePart date (strategy.reset.getD .never) ++ parts) := by
  unfold resolveNamingSeriesIdentity parsedDate at h
  rw [hdate] at h
  -- without a reset the date is not looked at
  by_cases hnever : strategy.reset.getD .never = .never
  · rw [hnever] at h ⊢
    obtain ⟨_, hpart, h⟩ := except_bind_eq_ok h
    obtain ⟨parts, hparts, h⟩ := except_bind_eq_ok h
    cases hpart
    rw [← Except.ok.inj h]
    exact ⟨parts, hparts, rfl⟩
  · cases hreset : strategy.reset.getD .never <;> rw [hreset] at h
    · exact absurd hreset hnever
    all_goals
      obtain ⟨_, hread, h⟩ := except_bind_eq_ok h
      obtain ⟨_, hpart, h⟩ := except_bind_eq_ok h
      obtain ⟨parts, hparts, h⟩ := except_bind_eq_ok h
      cases hread
      cases hpart
      rw [← Except.ok.inj h]
      exact ⟨parts, hparts, rfl⟩

/-- **The scope is a function of the texts**, except for a few days. -/
theorem scope_eq_of_tokenTexts_eq {data data' : DocumentData} {context context' : RenderContext} {date date' : UtcDate}
    {value value' : Nat} {compiled : List PatternToken} {texts : List JsString} {identity identity' : SeriesIdentity}
    (hvisible : ScopeVisible strategy compiled)
    (hparse : parseDate context.now = some date) (hparse' : parseDate context'.now = some date')
    (hdate : date.IsCalendarDate) (hdate' : date'.IsCalendarDate)
    (h : tokenTexts doctype strategy ⟨data, context.tenantId, date, value⟩ compiled = .ok texts)
    (h' : tokenTexts doctype strategy ⟨data', context'.tenantId, date', value'⟩ compiled = .ok texts)
    (hidentity : resolveNamingSeriesIdentity parseDate doctype strategy data context = .ok identity)
    (hidentity' : resolveNamingSeriesIdentity parseDate doctype strategy data' context' = .ok identity') :
    identity.scope = identity'.scope ∨ UnnumberedDays date date' := by
  obtain ⟨parts, hparts, hscope⟩ := resolveNamingSeriesIdentity_scope hparse hidentity
  obtain ⟨parts', hparts', hscope'⟩ := resolveNamingSeriesIdentity_scope hparse' hidentity'
  have hsameParts := scopeParts_eq h h' hvisible.fields
  dsimp only at hsameParts
  rw [hparts, hparts'] at hsameParts
  rcases @dateBucket_eq doctype strategy ⟨data, context.tenantId, date, value⟩ ⟨data', context'.tenantId, date', value'⟩
    compiled texts hvisible hdate hdate' h h' with hbucket | hleap
  · rw [hscope, hscope', Except.ok.inj hsameParts, datePart_eq hbucket]
    exact Or.inl rfl
  · exact Or.inr hleap

/-! ## What stands around the number -/

theorem renderTokens_append_ok {data : DocumentData} {tenantId : TenantId} {date : UtcDate} {value : Nat}
    {a b : List PatternToken} {x y : JsString} (ha : renderTokens doctype strategy data tenantId date value a = .ok x)
    (hb : renderTokens doctype strategy data tenantId date value b = .ok y) :
    renderTokens doctype strategy data tenantId date value (a ++ b) = .ok (x ++ y) := by
  induction a generalizing x with
  | nil =>
    cases ha
    exact hb
  | cons token a ih =>
    obtain ⟨first, hfirst, ha⟩ := except_bind_eq_ok ha
    obtain ⟨rest, hrest, ha⟩ := except_bind_eq_ok ha
    cases ha
    rw [List.cons_append]
    simp only [renderTokens, hfirst, ih hrest]
    exact congrArg Except.ok (List.append_assoc _ _ _).symm

variable (parseDate doctype strategy) in
/-- The texts that a pattern shows before the number and behind it. No other token looks at the number. -/
def surroundings (data : DocumentData) (context : RenderContext) (compiled : List PatternToken) :
    Except FrameworkError (JsString × JsString) := do
  let date ← parsedDate parseDate context.now
  let before ← renderTokens doctype strategy data context.tenantId date 0
    (compiled.takeWhile (fun token => !isSequenceToken token))
  let behind ← renderTokens doctype strategy data context.tenantId date 0
    ((compiled.dropWhile (fun token => !isSequenceToken token)).drop 1)
  return (before, behind)

/-- The width that the number of a pattern is padded to. No number is shorter than one digit. -/
def seriesWidth (strategy : NamingSeriesStrategy) (compiled : List PatternToken) : Nat :=
  match compiled.find? isSequenceToken with
  | some (.sequence width) => max 1 (width.getD (strategy.padding.getD 4))
  | _ => 1

theorem seriesWidth_pos (compiled : List PatternToken) : 0 < seriesWidth strategy compiled := by
  unfold seriesWidth
  split <;> omega

theorem padZeros_max (width value : Nat) :
    Json.padZeros (max 1 width) (Json.natToString value) = Json.padZeros width (Json.natToString value) := by
  have hpos : 0 < (Json.natToString value).length := List.length_pos_iff.mpr (Json.natToString_ne_nil value)
  have hsame : max 1 width - (Json.natToString value).length = width - (Json.natToString value).length := by omega
  unfold Json.padZeros
  rw [hsame]

theorem takeWhile_of_sequence {before behind : List PatternToken} {width : Option Nat}
    (hbefore : ∀ token ∈ before, isSequenceToken token = false) :
    (before ++ .sequence width :: behind).takeWhile (fun token => !isSequenceToken token) = before ∧
      ((before ++ .sequence width :: behind).dropWhile (fun token => !isSequenceToken token)).drop 1 = behind ∧
      (before ++ .sequence width :: behind).find? isSequenceToken = some (.sequence width) := by
  have hnot : ∀ token ∈ before, (!isSequenceToken token) = true := by
    intro token htoken
    rw [hbefore token htoken]
    rfl
  refine ⟨?_, ?_, ?_⟩
  · rw [List.takeWhile_append_of_pos hnot]
    show before ++ [] = before
    exact List.append_nil before
  · rw [List.dropWhile_append_of_pos hnot]
    rfl
  · rw [List.find?_append, List.find?_eq_none.mpr (by simpa using hbefore)]
    rfl

/-- A number has no control characters. -/
theorem hasUnsafeControlCharacter_name (a b : JsString) (width value : Nat) :
    hasUnsafeControlCharacter (a ++ Json.padZeros width (Json.natToString value) ++ b) =
      hasUnsafeControlCharacter (a ++ b) := by
  have hdigits : hasUnsafeControlCharacter (Json.padZeros width (Json.natToString value)) = false := by
    unfold hasUnsafeControlCharacter
    rw [List.any_eq_false]
    intro u hu
    have hdigit := Json.toNat_of_isAsciiDigit (Json.isAsciiDigit_of_mem_padZeros hu)
    have hlow : ¬u ≤ 0x1F := by
      rw [UInt16.le_iff_toNat_le]
      have hbound : (0x1F : UInt16).toNat = 0x1F := rfl
      omega
    have hdelete : u ≠ 0x7F := by
      rintro rfl
      exact absurd hdigit.2 (by decide)
    simp [hlow, hdelete]
  unfold hasUnsafeControlCharacter at hdigits ⊢
  rw [List.any_append, List.any_append, List.any_append, hdigits, Bool.or_false]

/-- **A name** is the number between the two texts around it. -/
theorem renderNamingCandidate_iff {data : DocumentData} {context : RenderContext} {value : Nat}
    {compiled : List PatternToken} {name : JsString} (hcompiled : compileNamingPattern doctype strategy = .ok compiled) :
    renderNamingCandidate parseDate doctype strategy data context value compiled = .ok name ↔
      value ≤ maxSafeInteger ∧ ∃ a b, surroundings parseDate doctype strategy data context compiled = .ok (a, b) ∧
        name = a ++ Json.padZeros (seriesWidth strategy compiled) (Json.natToString value) ++ b ∧
        name.length ≤ maxIdentifierLength ∧ hasUnsafeControlCharacter (a ++ b) = false := by
  obtain ⟨before, width, behind, rfl, hbefore, hbehind⟩ := compileNamingPattern_ok hcompiled
  obtain ⟨htake, hdrop, hfind⟩ := @takeWhile_of_sequence before behind width hbefore
  have hwidth : Json.padZeros (seriesWidth strategy (before ++ .sequence width :: behind)) (Json.natToString value) =
      Json.padZeros (width.getD (strategy.padding.getD 4)) (Json.natToString value) := by
    unfold seriesWidth
    rw [hfind]
    exact padZeros_max _ value
  unfold surroundings
  rw [hwidth, htake, hdrop]
  constructor
  · intro h
    obtain ⟨_, hvalue, h⟩ := except_bind_eq_ok h
    obtain ⟨date, hdate, h⟩ := except_bind_eq_ok h
    obtain ⟨rendered, hrendered, h⟩ := except_bind_eq_ok h
    obtain ⟨_, hname, h⟩ := except_bind_eq_ok h
    cases h
    obtain ⟨a, rest, ha, hrest, hsplit⟩ := renderTokens_append hrendered
    obtain ⟨b, hb, hrest⟩ := except_bind_eq_ok hrest
    cases hrest
    rw [renderTokens_value value 0 hbefore] at ha
    rw [renderTokens_value value 0 hbehind] at hb
    have hchecked := ensure_eq_ok hname
    simp only [Bool.and_eq_true, Bool.not_eq_true', decide_eq_true_eq] at hchecked
    rw [← List.append_assoc] at hsplit
    refine ⟨of_decide_eq_true (ensure_eq_ok hvalue), a, b, ?_, hsplit, hchecked.1.2, ?_⟩
    · rw [hdate]
      show (renderTokens _ _ _ _ _ _ _ >>= _) = _
      rw [ha]
      show (renderTokens _ _ _ _ _ _ _ >>= _) = _
      rw [hb]
      rfl
    · rw [← hasUnsafeControlCharacter_name a b _ value, ← hsplit]
      exact hchecked.2
  · rintro ⟨hvalue, a, b, hsurroundings, rfl, hlength, hcontrol⟩
    obtain ⟨date, hdate, h⟩ := except_bind_eq_ok hsurroundings
    obtain ⟨a', ha, h⟩ := except_bind_eq_ok h
    obtain ⟨b', hb, h⟩ := except_bind_eq_ok h
    cases h
    rw [renderTokens_value 0 value hbefore] at ha
    rw [renderTokens_value 0 value hbehind] at hb
    -- the text of the number stands between the texts before and behind it
    have hnumber : renderTokens doctype strategy data context.tenantId date value (.sequence width :: behind) =
        .ok (Json.padZeros (width.getD (strategy.padding.getD 4)) (Json.natToString value) ++ b) := by
      unfold renderTokens
      rw [hb]
      rfl
    have hrendered := renderTokens_append_ok ha hnumber
    rw [← List.append_assoc] at hrendered
    -- a number is never written as nothing
    have hne : (a ++ Json.padZeros (width.getD (strategy.padding.getD 4)) (Json.natToString value) ++ b).isEmpty = false := by
      rw [List.isEmpty_eq_false_iff]
      intro hempty
      have hparts := List.append_eq_nil_iff.mp (List.append_eq_nil_iff.mp hempty).1
      exact Json.natToString_ne_nil value (List.append_eq_nil_iff.mp hparts.2).2
    unfold renderNamingCandidate
    rw [hdate]
    show (ensure _ _ >>= fun _ => _) = _
    rw [show decide (value ≤ maxSafeInteger) = true from decide_eq_true hvalue]
    show (renderTokens _ _ _ _ _ _ _ >>= _) = _
    rw [hrendered]
    show (ensure _ _ >>= fun _ => _) = _
    rw [hne, hasUnsafeControlCharacter_name, hcontrol, decide_eq_true hlength]
    rfl

variable (parseDate doctype strategy) in
/-- **The texts around the numbers of two contexts meet**, without control characters. -/
def NamesMeet (compiled : List PatternToken) (tenantId : TenantId) (data : DocumentData) (now : Timestamp)
    (data' : DocumentData) (now' : Timestamp) : Prop :=
  ∃ a b a' b', surroundings parseDate doctype strategy data ⟨tenantId, now⟩ compiled = .ok (a, b) ∧
    surroundings parseDate doctype strategy data' ⟨tenantId, now'⟩ compiled = .ok (a', b') ∧
    hasUnsafeControlCharacter (a ++ b) = false ∧ hasUnsafeControlCharacter (a' ++ b') = false ∧
    NumberTexts.Meet (seriesWidth strategy compiled) maxSafeInteger maxIdentifierLength a b a' b'

/-- Two contexts have no name in common where the texts around their numbers do not meet. -/
theorem names_differ_iff {compiled : List PatternToken} {tenantId : TenantId} {data data' : DocumentData}
    {now now' : Timestamp} (hcompiled : compileNamingPattern doctype strategy = .ok compiled) :
    (∀ value value' name name',
      renderNamingCandidate parseDate doctype strategy data ⟨tenantId, now⟩ value compiled = .ok name →
      renderNamingCandidate parseDate doctype strategy data' ⟨tenantId, now'⟩ value' compiled = .ok name' →
        name ≠ name') ↔
      ¬NamesMeet parseDate doctype strategy compiled tenantId data now data' now' := by
  have hwidth : 0 < seriesWidth strategy compiled := seriesWidth_pos compiled
  constructor
  · rintro hdiffer ⟨a, b, a', b', ha, ha', hcontrol, hcontrol', hmeet⟩
    obtain ⟨t, t', ht, ht', hsame, hlimit⟩ := (NumberTexts.meet_iff hwidth).mp hmeet
    obtain ⟨value, hvalue, rfl⟩ := (NumberTexts.numberText_iff hwidth).mp ht
    obtain ⟨value', hvalue', rfl⟩ := (NumberTexts.numberText_iff hwidth).mp ht'
    exact hdiffer value value' _ _
      ((renderNamingCandidate_iff hcompiled).mpr ⟨hvalue, a, b, ha, rfl, hlimit, hcontrol⟩)
      ((renderNamingCandidate_iff hcompiled).mpr ⟨hvalue', a', b', ha', rfl, hsame ▸ hlimit, hcontrol'⟩) hsame
  · rintro hmeet value value' name name' hname hname' rfl
    obtain ⟨hvalue, a, b, ha, hsplit, hlimit, hcontrol⟩ := (renderNamingCandidate_iff hcompiled).mp hname
    obtain ⟨hvalue', a', b', ha', hsplit', -, hcontrol'⟩ := (renderNamingCandidate_iff hcompiled).mp hname'
    have ht := NumberTexts.numberText_padZeros hwidth hvalue
    have ht' := NumberTexts.numberText_padZeros hwidth hvalue'
    exact hmeet ⟨a, b, a', b', ha, ha', hcontrol, hcontrol',
      (NumberTexts.meet_iff hwidth).mpr ⟨_, _, ht, ht', hsplit.symm.trans hsplit', hsplit ▸ hlimit⟩⟩

/-- **Names of different scopes** differ, for any two values of the counters, exactly where the texts around the numbers
do not meet. The texts of the tokens, one by one, are never all the same, except for days that their numbers do not
tell apart. -/
theorem names_of_different_scopes_iff {safeRegex : JsString → Bool → Except FrameworkError (JsString → Bool)}
    {given : NamingSeriesStrategy} {compiled : List PatternToken} {tenantId : TenantId} {data data' : DocumentData}
    {now now' : Timestamp} {identity identity' : SeriesIdentity}
    (hcalendar : ∀ now date, parseDate now = some date → date.IsCalendarDate)
    (hstrategy : normalizeSeries safeRegex doctype given = .ok strategy)
    (hcompiled : compileNamingPattern doctype strategy = .ok compiled)
    (hidentity : resolveNamingSeriesIdentity parseDate doctype strategy data ⟨tenantId, now⟩ = .ok identity)
    (hidentity' : resolveNamingSeriesIdentity parseDate doctype strategy data' ⟨tenantId, now'⟩ = .ok identity')
    (hscope : identity.scope ≠ identity'.scope) :
    ((∀ value value' name name',
      renderNamingCandidate parseDate doctype strategy data ⟨tenantId, now⟩ value compiled = .ok name →
      renderNamingCandidate parseDate doctype strategy data' ⟨tenantId, now'⟩ value' compiled = .ok name' →
        name ≠ name') ↔
      ¬NamesMeet parseDate doctype strategy compiled tenantId data now data' now') ∧
    ∀ date date' value value' texts, parseDate now = some date → parseDate now' = some date' →
      tokenTexts doctype strategy ⟨data, tenantId, date, value⟩ compiled = .ok texts →
      tokenTexts doctype strategy ⟨data', tenantId, date', value'⟩ compiled = .ok texts → UnnumberedDays date date' := by
  refine ⟨names_differ_iff hcompiled, ?_⟩
  intro date date' value value' texts hdate hdate' htexts htexts'
  rcases scope_eq_of_tokenTexts_eq (scopeVisible_of_normalizeSeries hstrategy hcompiled) hdate hdate'
    (hcalendar _ _ hdate) (hcalendar _ _ hdate') htexts htexts' hidentity hidentity' with hsame | hdays
  · exact absurd hsame hscope
  · exact hdays

end

/-! ### A field before the number -/

/-- A doctype with the name of a batch. -/
def batched : DocTypeDefinition := { name := js "Q", fields := [{ name := js "batch", type := .text }] }

/-- Every batch has its counter, and the number stands right behind the name of the batch. -/
def perBatch : NamingSeriesStrategy := { pattern := js "\x7bfield:batch\x7d#", scopeFields := some [js "batch"] }

def batch (name : JsString) : DocumentData := [(js "batch", .str name)]

theorem names_of_different_scopes_iff_perBatch :
    ((∀ value value' name name',
      renderNamingCandidate (fun _ => some ⟨2024, 1, 1⟩) batched perBatch (batch (js "1")) ⟨js "t", []⟩ value
        [.field (js "batch"), .sequence (some 1)] = .ok name →
      renderNamingCandidate (fun _ => some ⟨2024, 1, 1⟩) batched perBatch (batch (js "12")) ⟨js "t", []⟩ value'
        [.field (js "batch"), .sequence (some 1)] = .ok name' → name ≠ name') ↔
      ¬NamesMeet (fun _ => some ⟨2024, 1, 1⟩) batched perBatch [.field (js "batch"), .sequence (some 1)] (js "t")
        (batch (js "1")) [] (batch (js "12")) []) ∧
    NamesMeet (fun _ => some ⟨2024, 1, 1⟩) batched perBatch [.field (js "batch"), .sequence (some 1)] (js "t")
        (batch (js "1")) [] (batch (js "12")) [] := by
  refine ⟨(names_of_different_scopes_iff
    (show ∀ now date, (fun _ : Timestamp => some (⟨2024, 1, 1⟩ : UtcDate)) now = some date → date.IsCalendarDate by
      rintro now date ⟨⟩
      decide)
    (show normalizeSeries (fun _ _ => .ok (fun _ => false)) batched perBatch = .ok perBatch from rfl)
    rfl
    (show resolveNamingSeriesIdentity _ batched perBatch (batch (js "1")) ⟨js "t", []⟩ = _ from rfl)
    (show resolveNamingSeriesIdentity _ batched perBatch (batch (js "12")) ⟨js "t", []⟩ = _ from rfl)
    (by decide)).1, ?_⟩
  -- the number 0 of the batch 12 lies inside the number 20 of the batch 1
  exact ⟨js "1", [], js "12", [], rfl, rfl, rfl, rfl,
    NumberTexts.Meet.encloses (js "1") (js "2") [] [] (by decide) (by decide)⟩

/-- The number 23 of the batch 1 and the number 3 of the batch 12 make the same name. -/
theorem names_of_different_scopes_perBatch :
    normalizeSeries (fun _ _ => .ok (fun _ => false)) batched perBatch = .ok perBatch ∧
    compileNamingPattern batched perBatch = .ok [.field (js "batch"), .sequence (some 1)] ∧
    (∃ identity identity',
      resolveNamingSeriesIdentity (fun _ => some ⟨2024, 1, 1⟩) batched perBatch (batch (js "1")) ⟨js "t", []⟩ =
        .ok identity ∧
      resolveNamingSeriesIdentity (fun _ => some ⟨2024, 1, 1⟩) batched perBatch (batch (js "12")) ⟨js "t", []⟩ =
        .ok identity' ∧
      identity.scope ≠ identity'.scope) ∧
    renderNamingCandidate (fun _ => some ⟨2024, 1, 1⟩) batched perBatch (batch (js "1")) ⟨js "t", []⟩ 23
      [.field (js "batch"), .sequence (some 1)] = .ok (js "123") ∧
    renderNamingCandidate (fun _ => some ⟨2024, 1, 1⟩) batched perBatch (batch (js "12")) ⟨js "t", []⟩ 3
      [.field (js "batch"), .sequence (some 1)] = .ok (js "123") := by
  refine ⟨rfl, rfl, ⟨_, _, rfl, rfl, ?_⟩, rfl, rfl⟩
  decide

end Naming
