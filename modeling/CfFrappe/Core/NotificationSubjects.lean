import CfFrappe.Core.Notifications
import CfFrappe.Lib.Placeholders
import Mathlib.Tactic.SplitIfs

set_option autoImplicit false

/-! # Subjects of rule notifications

A subject template is meant to be filled at once: each placeholder stands for a string, and everything else is
text (`literalSubject`). The code fills one placeholder after the other, and reads replacement patterns in the
strings. Every character of a subject has its source (`SubjectSource`), so it shows when text of a string is read
as anything but text (`markedSubject`).
-/

open Utf Placeholders

/-- What a placeholder stands for. -/
inductive SubjectValue
  | doctype
  | name
  | actor
  deriving DecidableEq

/-- Where a character comes from; `expansion` is what a replacement pattern gives. -/
inductive SubjectSource
  | template
  | placeholder
  | value (value : SubjectValue)
  | expansion
  deriving DecidableEq

namespace SubjectValue

def placeholder : SubjectValue → JsString
  | .doctype => js "\x7b\x7b doctype \x7d\x7d"
  | .name => js "\x7b\x7b name \x7d\x7d"
  | .actor => js "\x7b\x7b actor \x7d\x7d"

def all : List SubjectValue := [.doctype, .name, .actor]

/-- The strings of an event. -/
def ofEvent (event : DomainEvent) : SubjectValue → JsString
  | .doctype => event.doctype
  | .name => event.documentName
  | .actor => event.actorId

theorem mem_all (s : SubjectValue) : s ∈ all := by
  cases s <;> decide

theorem placeholder_ne_nil (s : SubjectValue) : s.placeholder ≠ [] := by
  cases s <;> decide +kernel

/-- No placeholder starts in another one. -/
theorem apart : Apart placeholder where
  nonempty := placeholder_ne_nil
  apart := by
    have hall : ∀ s ∈ all, ∀ t ∈ all, s ≠ t → ∀ rest ∈ t.placeholder.tails, rest ≠ [] →
        ¬ rest <+: s.placeholder ∧ ¬ s.placeholder <+: rest := by
      decide +kernel
    intro s t hst rest hsuffix hne
    exact hall s (mem_all s) t (mem_all t) hst rest ((List.mem_tails _ _).mpr hsuffix) hne

end SubjectValue

/-! ## What is meant -/

/-- The template of a rule: its subject without blanks around it, if there is any text. -/
def subjectTemplate (rule : NotificationRuleDefinition) : Option JsString :=
  (rule.subject.map Json.trim).filter (fun subject => !subject.isEmpty)

def subjectPieces (template : JsString) : List (Piece UInt16 SubjectSource SubjectValue) :=
  pieces SubjectValue.placeholder SubjectValue.all .template 0 template

def markedValue (values : SubjectValue → JsString) (s : SubjectValue) : List (UInt16 × SubjectSource) :=
  (values s).map (fun u => (u, .value s))

/-- The template with the string of every placeholder in its place. -/
def markedLiteralSubject (template : JsString) (values : SubjectValue → JsString) :
    List (UInt16 × SubjectSource) := substitute (markedValue values) (subjectPieces template)

def literalSubject (template : JsString) (values : SubjectValue → JsString) : JsString :=
  units (markedLiteralSubject template values)

example : literalSubject (js "\x7b\x7b name \x7d\x7d by \x7b\x7b actor \x7d\x7d")
    (fun s => if s = .name then js "\x7b\x7b actor \x7d\x7d" else js "$&") =
      js "\x7b\x7b actor \x7d\x7d by $&" := by decide +kernel

/-! ## What the code does, with sources -/

/-- `getSubstitution`, with the source of each character. -/
def markedSubstitution (source : SubjectSource) (matched before after : JsString) :
    JsString → List (UInt16 × SubjectSource)
  | 0x24 :: 0x24 :: template => (0x24, .expansion) :: markedSubstitution source matched before after template
  | 0x24 :: 0x26 :: template =>
    matched.map (fun u => (u, .expansion)) ++ markedSubstitution source matched before after template
  | 0x24 :: 0x60 :: template =>
    before.map (fun u => (u, .expansion)) ++ markedSubstitution source matched before after template
  | 0x24 :: 0x27 :: template =>
    after.map (fun u => (u, .expansion)) ++ markedSubstitution source matched before after template
  | u :: template => (u, source) :: markedSubstitution source matched before after template
  | [] => []

/-- A replacement in which `$` stands for something. -/
def hasReplacementPattern : JsString → Bool
  | 0x24 :: 0x24 :: _ => true
  | 0x24 :: 0x26 :: _ => true
  | 0x24 :: 0x60 :: _ => true
  | 0x24 :: 0x27 :: _ => true
  | _ :: rest => hasReplacementPattern rest
  | [] => false

variable {s : SubjectValue} {p : SubjectSource → Bool} {ps : List (Piece UInt16 SubjectSource SubjectValue)}
variable {u : UInt16} {mark : SubjectSource}

section Substitution

variable (source : SubjectSource) (matched before after : JsString)

theorem units_markedSubstitution (replacement : JsString) :
    units (markedSubstitution source matched before after replacement) =
      getSubstitution matched before after replacement := by
  fun_induction getSubstitution matched before after replacement with
  | case1 template ih =>
    rw [markedSubstitution, units, List.map_cons, ← units, ih]
  | case2 template ih => rw [markedSubstitution, units_append, units_map_mark, ih]
  | case3 template ih => rw [markedSubstitution, units_append, units_map_mark, ih]
  | case4 template ih => rw [markedSubstitution, units_append, units_map_mark, ih]
  | case5 u template h1 h2 h3 h4 ih =>
    rw [markedSubstitution, units, List.map_cons, ← units, ih]
    all_goals assumption
  | case6 => rfl

/-- Without a pattern, a replacement is taken as it is. -/
theorem markedSubstitution_eq {replacement : JsString} (h : hasReplacementPattern replacement = false) :
    markedSubstitution source matched before after replacement = replacement.map (fun u => (u, source)) := by
  fun_induction getSubstitution matched before after replacement with
  | case1 template ih => cases h
  | case2 template ih => cases h
  | case3 template ih => cases h
  | case4 template ih => cases h
  | case5 u template h1 h2 h3 h4 ih =>
    rw [hasReplacementPattern] at h
    · rw [markedSubstitution, ih h, List.map_cons]
      all_goals assumption
    all_goals assumption
  | case6 => rfl

/-- The characters of a replacement that stand for themselves. -/
def plainUnits : JsString → Nat
  | 0x24 :: 0x24 :: template => plainUnits template
  | 0x24 :: 0x26 :: template => plainUnits template
  | 0x24 :: 0x60 :: template => plainUnits template
  | 0x24 :: 0x27 :: template => plainUnits template
  | _ :: template => plainUnits template + 1
  | [] => 0

/-- What a replacement keeps of its own characters does not depend on the match. -/
theorem kept_markedSubstitution (hexpansion : p .expansion = false) (replacement : JsString) :
    kept p (markedSubstitution source matched before after replacement) =
      if p source then plainUnits replacement else 0 := by
  have hnone : ∀ text : JsString, kept p (text.map (fun u => (u, SubjectSource.expansion))) = 0 := by
    intro text
    rw [kept_map_mark, hexpansion]
    rfl
  fun_induction getSubstitution matched before after replacement with
  | case1 template ih =>
    have hone : kept p [((0x24 : UInt16), SubjectSource.expansion)] = 0 := hnone [0x24]
    rw [markedSubstitution, plainUnits, kept_cons, hone, ih, Nat.zero_add]
  | case2 template ih => rw [markedSubstitution, plainUnits, kept_append, hnone, ih, Nat.zero_add]
  | case3 template ih => rw [markedSubstitution, plainUnits, kept_append, hnone, ih, Nat.zero_add]
  | case4 template ih => rw [markedSubstitution, plainUnits, kept_append, hnone, ih, Nat.zero_add]
  | case5 u template h1 h2 h3 h4 ih =>
    have hone : kept p [(u, source)] = if p source then 1 else 0 := kept_map_mark p [u] source
    rw [markedSubstitution, plainUnits, kept_cons, hone, ih]
    · split_ifs <;> omega
    all_goals assumption
  | case6 => simp [markedSubstitution, plainUnits, kept]

end Substitution

theorem plainUnits_le (replacement : JsString) : plainUnits replacement ≤ replacement.length := by
  fun_induction plainUnits replacement with
  | case1 template ih => simp only [List.length_cons]; omega
  | case2 template ih => simp only [List.length_cons]; omega
  | case3 template ih => simp only [List.length_cons]; omega
  | case4 template ih => simp only [List.length_cons]; omega
  | case5 u template h1 h2 h3 h4 ih => exact Nat.succ_le_succ ih
  | case6 => exact Nat.le_refl 0

/-- A pattern takes characters away. -/
theorem not_hasReplacementPattern_of_le {replacement : JsString} (h : replacement.length ≤ plainUnits replacement) :
    hasReplacementPattern replacement = false := by
  have hle : ∀ template : JsString, ¬ template.length + 1 + 1 ≤ plainUnits template := by
    intro template hlong
    have := plainUnits_le template
    omega
  fun_induction plainUnits replacement with
  | case1 template ih => exact absurd h (hle template)
  | case2 template ih => exact absurd h (hle template)
  | case3 template ih => exact absurd h (hle template)
  | case4 template ih => exact absurd h (hle template)
  | case5 u template h1 h2 h3 h4 ih =>
    rw [hasReplacementPattern]
    · exact ih (Nat.le_of_succ_le_succ h)
    all_goals assumption
  | case6 => rfl

/-- One replacement of the code. -/
def replaceMarked (s : SubjectValue) (value : JsString) (m : List (UInt16 × SubjectSource)) :
    List (UInt16 × SubjectSource) :=
  replaceWith s.placeholder
    (fun before after => markedSubstitution (.value s) s.placeholder before after value) [] 0 m

/-- Erasing the sources gives `replaceAll`. -/
theorem units_replaceMarked (s : SubjectValue) (value : JsString) (m : List (UInt16 × SubjectSource)) :
    units (replaceMarked s value m) = replaceAll (units m) s.placeholder value := by
  have hfrom : ∀ (before : JsString) (skip : Nat), units (replaceWith s.placeholder
      (fun before after => markedSubstitution (.value s) s.placeholder before after value) before skip m) =
        replaceAllFrom s.placeholder value before skip (units m) := by
    induction m with
    | nil =>
      intro before skip
      rfl
    | cons u m ih =>
      intro before skip
      have hunits : units (u :: m) = u.1 :: units m := rfl
      rw [hunits, replaceWith, replaceAllFrom, hunits]
      split_ifs
      · rw [units_append, units_markedSubstitution, ih]
      · rw [units, List.map_cons, ← units, ih]
      · rw [ih]
  exact hfrom [] 0

/-- `renderRuleSubject` of a template, with the source of each character. -/
def markedSubject (template : JsString) (values : SubjectValue → JsString) : List (UInt16 × SubjectSource) :=
  replaceMarked .actor (values .actor) (replaceMarked .name (values .name)
    (replaceMarked .doctype (values .doctype)
      (marked SubjectValue.placeholder .placeholder (subjectPieces template))))

theorem renderRuleSubject_eq {rule : NotificationRuleDefinition} {template : JsString}
    (h : subjectTemplate rule = some template) (event : DomainEvent) (snapshot : DocumentSnapshot) :
    renderRuleSubject rule event snapshot = units (markedSubject template (SubjectValue.ofEvent event)) := by
  have htemplate : units (marked SubjectValue.placeholder .placeholder (subjectPieces template)) = template := by
    rw [units_marked, subjectPieces, text_pieces SubjectValue.placeholder_ne_nil]
    rfl
  rw [markedSubject, units_replaceMarked, units_replaceMarked, units_replaceMarked, htemplate]
  rw [subjectTemplate] at h
  rw [renderRuleSubject, h]
  rfl

/-! ## When the strings are taken literally -/

section Literal

variable (template : JsString) (values : SubjectValue → JsString)

/-- The template with the doctype in its places. -/
def withDoctype : List (Piece UInt16 SubjectSource SubjectValue) :=
  fill .doctype (markedValue values .doctype) (subjectPieces template)

/-- The template with the doctype and the name in their places. -/
def withName : List (Piece UInt16 SubjectSource SubjectValue) :=
  fill .name (markedValue values .name) (withDoctype template values)

/-- No string that has a place in the template has a replacement pattern, and no string makes a placeholder that is
filled after it. -/
structure TakenLiterally : Prop where
  plain : ∀ s, slots s (subjectPieces template) ≠ 0 → hasReplacementPattern (values s) = false
  name : standsInSlots SubjectValue.placeholder (SubjectValue.placeholder .name) (withDoctype template values) = true
  actor : standsInSlots SubjectValue.placeholder (SubjectValue.placeholder .actor) (withName template values) = true

variable {template values}

theorem doctype_stands : standsInSlots SubjectValue.placeholder (SubjectValue.placeholder .doctype)
    (subjectPieces template) = true :=
  standsInSlots_pieces SubjectValue.placeholder_ne_nil (SubjectValue.mem_all _) 0 template

/-- What is meant, one placeholder after the other. -/
theorem markedLiteralSubject_eq : markedLiteralSubject template values =
    marked SubjectValue.placeholder .placeholder
      (fill .actor (markedValue values .actor) (withName template values)) := by
  rw [← substitute_of_no_slot (markedValue values) SubjectValue.placeholder]
  · rw [substitute_fill, withName, substitute_fill, withDoctype, substitute_fill]
    rfl
  · intro s hs
    obtain ⟨hactor, hs⟩ := slot_mem_fill hs
    obtain ⟨hname, hs⟩ := slot_mem_fill hs
    obtain ⟨hdoctype, -⟩ := slot_mem_fill hs
    cases s with
    | doctype => exact hdoctype rfl
    | name => exact hname rfl
    | actor => exact hactor rfl

/-- **One replacement** puts a string in the places of its placeholder, if the placeholder stands nowhere else and
the string is plain. -/
theorem replaceMarked_eq (hstands : standsInSlots SubjectValue.placeholder s.placeholder ps = true)
    (hplain : slots s ps ≠ 0 → hasReplacementPattern (values s) = false) :
    replaceMarked s (values s) (marked SubjectValue.placeholder .placeholder ps) =
      marked SubjectValue.placeholder .placeholder (fill s (markedValue values s) ps) :=
  replaceWith_marked SubjectValue.apart hstands (fun hslots _ _ => markedSubstitution_eq _ _ _ _ (hplain hslots)) []

theorem slots_withDoctype (h : s ≠ .doctype) :
    slots s (withDoctype template values) = slots s (subjectPieces template) :=
  slots_fill_of_ne _ _ h _

theorem slots_withName (h : s ≠ .doctype) (h' : s ≠ .name) :
    slots s (withName template values) = slots s (subjectPieces template) :=
  (slots_fill_of_ne _ _ h' _).trans (slots_withDoctype h)

theorem markedSubject_eq (h : TakenLiterally template values) :
    markedSubject template values = markedLiteralSubject template values := by
  have hname : slots .name (withDoctype template values) ≠ 0 → hasReplacementPattern (values .name) = false := by
    rw [slots_withDoctype (by decide)]
    exact h.plain .name
  have hactor : slots .actor (withName template values) ≠ 0 → hasReplacementPattern (values .actor) = false := by
    rw [slots_withName (by decide) (by decide)]
    exact h.plain .actor
  rw [markedSubject, replaceMarked_eq doctype_stands (h.plain .doctype), ← withDoctype, replaceMarked_eq h.name hname,
    ← withName, replaceMarked_eq h.actor hactor, markedLiteralSubject_eq]

/-! ### Nothing else is taken literally -/

/-- A replacement only takes away characters of other sources. -/
theorem kept_replaceMarked_le (hs : p (.value s) = false) (hexpansion : p .expansion = false) (value : JsString)
    (m : List (UInt16 × SubjectSource)) :
    kept p (replaceMarked s value m) ≤ kept p m := by
  refine kept_replaceWith_le ?_ [] 0 m
  intro before after
  rw [kept_markedSubstitution _ _ _ _ hexpansion, hs]
  rfl

/-- The characters of one string. -/
def ofValue (s : SubjectValue) : SubjectSource → Bool
  | .value t => t = s
  | _ => false

/-- The characters of the template and of some strings. -/
def ofTemplate (filled : List SubjectValue) : SubjectSource → Bool
  | .template => true
  | .value t => filled.contains t
  | _ => false

theorem ofValue_self (s : SubjectValue) : ofValue s (.value s) = true := decide_eq_true rfl

/-- A string whose characters are all there is plain. -/
theorem plain_of_kept (hstands : standsInSlots SubjectValue.placeholder s.placeholder ps = true)
    (hunits : ∀ u mark, .unit u mark ∈ ps → ofValue s mark = false)
    (hkept : slots s ps * (values s).length ≤
      kept (ofValue s) (replaceMarked s (values s) (marked SubjectValue.placeholder .placeholder ps))) :
    slots s ps ≠ 0 → hasReplacementPattern (values s) = false := by
  intro hslots
  have hreplacement : ∀ before after, kept (ofValue s)
      (markedSubstitution (.value s) s.placeholder before after (values s)) = plainUnits (values s) := by
    intro before after
    rw [kept_markedSubstitution _ _ _ _ rfl, if_pos (ofValue_self s)]
  have hplain : kept (ofValue s) (replaceMarked s (values s) (marked SubjectValue.placeholder .placeholder ps)) =
      slots s ps * plainUnits (values s) :=
    kept_replaceWith SubjectValue.apart hreplacement rfl hunits hstands []
  rw [hplain] at hkept
  exact not_hasReplacementPattern_of_le (Nat.le_of_mul_le_mul_left hkept (Nat.pos_of_ne_zero hslots))

/-- A replacement that takes nothing else away has found its placeholder in its places. -/
theorem stands_of_kept (filled : List SubjectValue) (hs : filled.contains s = false)
    (hunits : ∀ u mark, .unit u mark ∈ ps → ofTemplate filled mark = true)
    (hkept : kept (ofTemplate filled) (marked SubjectValue.placeholder .placeholder ps) ≤
      kept (ofTemplate filled) (replaceMarked s (values s) (marked SubjectValue.placeholder .placeholder ps))) :
    standsInSlots SubjectValue.placeholder s.placeholder ps = true := by
  refine standsInSlots_of_kept SubjectValue.apart ?_ rfl hunits [] hkept
  intro before after
  rw [kept_markedSubstitution _ _ _ _ rfl]
  show (if filled.contains s = true then _ else 0) = 0
  rw [hs]
  rfl

theorem kept_fill_le (hown : p .placeholder = false) (s : SubjectValue)
    (ps : List (Piece UInt16 SubjectSource SubjectValue)) :
    kept p (marked SubjectValue.placeholder .placeholder ps) ≤
      kept p (marked SubjectValue.placeholder .placeholder (fill s (markedValue values s) ps)) := by
  rw [kept_fill _ _ hown]
  exact Nat.le_add_right _ _

/-- A filled text has the characters of the string, once for each place. -/
theorem slots_mul_le_kept_fill (s : SubjectValue) (ps : List (Piece UInt16 SubjectSource SubjectValue)) :
    slots s ps * (values s).length ≤
      kept (ofValue s) (marked SubjectValue.placeholder .placeholder (fill s (markedValue values s) ps)) := by
  rw [kept_fill _ _ rfl, markedValue, kept_map_mark, if_pos (ofValue_self s)]
  exact Nat.le_add_left _ _

theorem template_of_mem_subjectPieces (h : .unit u mark ∈ subjectPieces template) :
    mark = .template := mark_of_mem_pieces h

theorem source_of_mem_withDoctype (h : .unit u mark ∈ withDoctype template values) :
    mark = .template ∨ mark = .value .doctype := by
  rcases unit_mem_fill h with hunit | hvalue
  · exact Or.inl (template_of_mem_subjectPieces hunit)
  · obtain ⟨v, _, heq⟩ := List.mem_map.mp hvalue
    exact Or.inr (congrArg Prod.snd heq).symm

theorem source_of_mem_withName (h : .unit u mark ∈ withName template values) :
    mark = .template ∨ mark = .value .doctype ∨ mark = .value .name := by
  rcases unit_mem_fill h with hunit | hvalue
  · exact (source_of_mem_withDoctype hunit).imp_right Or.inl
  · obtain ⟨v, _, heq⟩ := List.mem_map.mp hvalue
    exact Or.inr (Or.inr (congrArg Prod.snd heq).symm)

theorem takenLiterally_of_eq (h : markedSubject template values = markedLiteralSubject template values) :
    TakenLiterally template values := by
  rw [markedLiteralSubject_eq, markedSubject] at h
  -- the doctype
  have hdoctype : slots .doctype (subjectPieces template) ≠ 0 → hasReplacementPattern (values .doctype) = false := by
    apply plain_of_kept doctype_stands
    · intro u mark hmem
      rw [template_of_mem_subjectPieces hmem]
      rfl
    · calc slots .doctype (subjectPieces template) * (values .doctype).length
          ≤ kept (ofValue .doctype) (marked SubjectValue.placeholder .placeholder (withDoctype template values)) :=
            slots_mul_le_kept_fill _ _
        _ ≤ kept (ofValue .doctype) (marked SubjectValue.placeholder .placeholder (withName template values)) :=
            kept_fill_le rfl _ _
        _ ≤ _ := kept_fill_le rfl _ _
        _ ≤ _ := by rw [← h]; exact kept_replaceMarked_le rfl rfl _ _
        _ ≤ _ := kept_replaceMarked_le rfl rfl _ _
  rw [replaceMarked_eq doctype_stands hdoctype, ← withDoctype] at h
  -- the name
  have hstandsName : standsInSlots SubjectValue.placeholder (SubjectValue.placeholder .name)
      (withDoctype template values) = true := by
    apply stands_of_kept [.doctype] rfl
    · intro u mark hmem
      rcases source_of_mem_withDoctype hmem with hmark | hmark <;> rw [hmark] <;> rfl
    · calc kept (ofTemplate [.doctype]) (marked SubjectValue.placeholder .placeholder (withDoctype template values))
          ≤ kept (ofTemplate [.doctype]) (marked SubjectValue.placeholder .placeholder (withName template values)) :=
            kept_fill_le rfl _ _
        _ ≤ _ := kept_fill_le rfl _ _
        _ ≤ _ := by rw [← h]; exact kept_replaceMarked_le rfl rfl _ _
  have hname : slots .name (withDoctype template values) ≠ 0 → hasReplacementPattern (values .name) = false := by
    apply plain_of_kept hstandsName
    · intro u mark hmem
      rcases source_of_mem_withDoctype hmem with hmark | hmark <;> rw [hmark] <;> rfl
    · calc slots .name (withDoctype template values) * (values .name).length
          ≤ kept (ofValue .name) (marked SubjectValue.placeholder .placeholder (withName template values)) :=
            slots_mul_le_kept_fill _ _
        _ ≤ _ := kept_fill_le rfl _ _
        _ ≤ _ := by rw [← h]; exact kept_replaceMarked_le rfl rfl _ _
  rw [replaceMarked_eq hstandsName hname, ← withName] at h
  -- the actor
  have hstandsActor : standsInSlots SubjectValue.placeholder (SubjectValue.placeholder .actor)
      (withName template values) = true := by
    apply stands_of_kept [.doctype, .name] rfl
    · intro u mark hmem
      rcases source_of_mem_withName hmem with hmark | hmark | hmark <;> rw [hmark] <;> rfl
    · rw [h]
      exact kept_fill_le rfl _ _
  have hactor : slots .actor (withName template values) ≠ 0 → hasReplacementPattern (values .actor) = false := by
    apply plain_of_kept hstandsActor
    · intro u mark hmem
      rcases source_of_mem_withName hmem with hmark | hmark | hmark <;> rw [hmark] <;> rfl
    · rw [h]
      exact slots_mul_le_kept_fill _ _
  rw [slots_withDoctype (by decide)] at hname
  rw [slots_withName (by decide) (by decide)] at hactor
  refine ⟨?_, hstandsName, hstandsActor⟩
  intro s
  cases s with
  | doctype => exact hdoctype
  | name => exact hname
  | actor => exact hactor

end Literal

/-! ## The subjects of notifications -/

/-- A rule's notifications have the subject that is meant, and each of its characters comes from where it is meant
to come from: none of them from a pattern or a placeholder in a string. -/
structure RendersLiterally (rule : NotificationRuleDefinition) (event : DomainEvent) (snapshot : DocumentSnapshot)
    (template : JsString) : Prop where
  inbox : ∀ recipientId, (ruleNotification rule event snapshot recipientId).subject =
    some (literalSubject template (SubjectValue.ofEvent event))
  email : ∀ recipientId, (emailNotification rule event snapshot recipientId).subject =
    literalSubject template (SubjectValue.ofEvent event)
  sources : markedSubject template (SubjectValue.ofEvent event) =
    markedLiteralSubject template (SubjectValue.ofEvent event)

/-- **Subjects are literal substitutions exactly if the strings of the event are taken literally.** -/
theorem rendersLiterally_iff {rule : NotificationRuleDefinition} {template : JsString}
    (h : subjectTemplate rule = some template) (event : DomainEvent) (snapshot : DocumentSnapshot) :
    RendersLiterally rule event snapshot template ↔ TakenLiterally template (SubjectValue.ofEvent event) := by
  constructor
  · intro hliteral
    exact takenLiterally_of_eq hliteral.sources
  · intro htaken
    have hsources := markedSubject_eq htaken
    have hsubject : renderRuleSubject rule event snapshot = literalSubject template (SubjectValue.ofEvent event) := by
      rw [renderRuleSubject_eq h, hsources, literalSubject]
    exact ⟨fun _ => congrArg some hsubject, fun _ => hsubject, hsources⟩

namespace TaskNotice

/-- The rule of the subject `Task {{ name }} changed`. -/
def rule : NotificationRuleDefinition :=
  { name := js "task-changed", events := [js "DocumentUpdated"], recipients := [.documentOwner]
    subject := some (js "Task \x7b\x7b name \x7d\x7d changed") }

def template : JsString := js "Task \x7b\x7b name \x7d\x7d changed"

/-- The update of a document of some name. -/
def updated (name : JsString) : DomainEvent :=
  { id := js "e", tenantId := js "acme", stream := js "acme:Task:t", type := js "TaskUpdated", doctype := js "Task"
    documentName := name, actorId := js "ada", occurredAt := js "2024-01-01T00:00:00.000Z"
    payload := .documentUpdated [] [], metadata := [], sequence := 2 }

def snapshot (name : JsString) : DocumentSnapshot :=
  { tenantId := js "acme", doctype := js "Task", name, version := 2, docstatus := .draft, data := []
    createdAt := js "2024-01-01T00:00:00.000Z", updatedAt := js "2024-01-01T00:00:00.000Z" }

end TaskNotice

/-- The dollar sign of `Save $5` is no pattern. -/
theorem rendersLiterally_iff_saveFive :
    subjectTemplate TaskNotice.rule = some TaskNotice.template ∧
      (RendersLiterally TaskNotice.rule (TaskNotice.updated (js "Save $5")) (TaskNotice.snapshot (js "Save $5"))
        TaskNotice.template ↔
        TakenLiterally TaskNotice.template (SubjectValue.ofEvent (TaskNotice.updated (js "Save $5")))) :=
  have htemplate : subjectTemplate TaskNotice.rule = some TaskNotice.template := by decide +kernel
  ⟨htemplate, rendersLiterally_iff htemplate _ _⟩

/-- The document `Save $$5` is announced as `Save $5`. -/
theorem not_literalSubject : ¬ ∀ (rule : NotificationRuleDefinition) (template : JsString),
    subjectTemplate rule = some template → ∀ (event : DomainEvent) (snapshot : DocumentSnapshot),
      renderRuleSubject rule event snapshot = literalSubject template (SubjectValue.ofEvent event) := by
  intro hall
  have hcase := hall TaskNotice.rule TaskNotice.template (by decide +kernel) (TaskNotice.updated (js "Save $$5"))
    (TaskNotice.snapshot (js "Save $$5"))
  have hrendered : renderRuleSubject TaskNotice.rule (TaskNotice.updated (js "Save $$5"))
      (TaskNotice.snapshot (js "Save $$5")) = js "Task Save $5 changed" := by
    decide +kernel
  have hmeant : literalSubject TaskNotice.template (SubjectValue.ofEvent (TaskNotice.updated (js "Save $$5"))) =
      js "Task Save $$5 changed" := by
    decide +kernel
  rw [hrendered, hmeant] at hcase
  exact absurd hcase (by decide +kernel)
