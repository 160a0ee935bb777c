import Mathlib.Data.List.Induction

set_option autoImplicit false

/-! # Since an event of a log

A slot of a folded state that some events fill and others empty: whatever it holds was put there by an event after which
no other has emptied it (`since_of_foldl`). If only one event of a log can fill the slot in a certain way, and the slot
is emptied once, it is never again found filled in that way (`Since.once`).
-/

variable {E σ : Type}

/-- An event of the log is `set`, and none after it is an `end`. -/
def Since (sets ends : E → Prop) (log : List E) : Prop :=
  ∃ before e after, log = before ++ e :: after ∧ sets e ∧ ∀ later ∈ after, ¬ ends later

variable {sets sets' ends : E → Prop}

theorem Since.mono {log : List E} (h : Since sets ends log) (hsets : ∀ e, sets e → sets' e) : Since sets' ends log := by
  obtain ⟨before, e, after, hlog, hset, hafter⟩ := h
  exact ⟨before, e, after, hlog, hsets e hset, hafter⟩

theorem since_concat {log : List E} {e : E} (h : sets e ∨ (Since sets ends log ∧ ¬ ends e)) :
    Since sets ends (log ++ [e]) := by
  rcases h with hset | ⟨⟨before, first, after, rfl, hset, hafter⟩, hnot⟩
  · exact ⟨log, e, [], rfl, hset, fun later hlater => absurd hlater List.not_mem_nil⟩
  · refine ⟨before, first, after ++ [e], by simp, hset, ?_⟩
    intro later hlater
    rcases List.mem_append.mp hlater with hold | hnew
    · exact hafter later hold
    · rw [List.mem_singleton.mp hnew]
      exact hnot

/-- **What a slot holds is there since an event**, if every step fills it or leaves it as it is. -/
theorem since_of_foldl {C : Type} (f : σ → E → σ) (slot : σ → Option C) (sets : E → C → Prop) {init : σ}
    (hinit : slot init = none)
    (hstep : ∀ s e c, slot (f s e) = some c → sets e c ∨ (slot s = some c ∧ ¬ ends e)) {log : List E} {c : C}
    (h : slot (log.foldl f init) = some c) : Since (fun e => sets e c) ends log := by
  induction log using List.reverseRecOn with
  | nil => cases hinit.symm.trans h
  | append_singleton log e ih =>
    rw [List.foldl_append] at h
    apply since_concat
    exact (hstep _ e c h).imp id (fun hkept => ⟨ih hkept.1, hkept.2⟩)

/-- **Once**: when only one event of the log is `set`, and the log had it before an `end`, it has it no more. -/
theorem Since.once {log more : List E} {e : E} (h : Since sets ends log) (hends : ends e)
    (hone : (log ++ e :: more).Pairwise (fun first second => ¬ (sets first ∧ sets second))) :
    ¬ Since sets ends (log ++ e :: more) := by
  rintro ⟨before', second, after', hlog', hset', hafter'⟩
  obtain ⟨before, first, after, rfl, hset, hafter⟩ := h
  -- the two events are one, for otherwise both would be `set`
  have hsame : before'.length = before.length := by
    have hfirst : (before ++ first :: after ++ e :: more)[before.length]? = some first := by simp
    have hsecond : (before ++ first :: after ++ e :: more)[before'.length]? = some second := by
      rw [hlog']
      simp
    obtain ⟨hlt, hfirst⟩ := List.getElem?_eq_some_iff.mp hfirst
    obtain ⟨hlt', hsecond⟩ := List.getElem?_eq_some_iff.mp hsecond
    by_contra hne
    rcases Nat.lt_or_gt_of_ne hne with hbefore | hbefore
    · have hpair := List.pairwise_iff_getElem.mp hone _ _ hlt' hlt hbefore
      rw [hfirst, hsecond] at hpair
      exact hpair ⟨hset', hset⟩
    · have hpair := List.pairwise_iff_getElem.mp hone _ _ hlt hlt' hbefore
      rw [hfirst, hsecond] at hpair
      exact hpair ⟨hset, hset'⟩
  -- so the `end` comes after it
  have hlog : before ++ first :: (after ++ e :: more) = before' ++ second :: after' := by
    rw [← hlog']
    simp
  obtain ⟨-, hrest⟩ := List.append_inj hlog hsame.symm
  obtain ⟨-, hafters⟩ := List.cons.inj hrest
  apply hafter' e _ hends
  rw [← hafters]
  exact List.mem_append_right _ List.mem_cons_self
