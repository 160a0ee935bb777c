import Mathlib.Logic.Basic

set_option autoImplicit false

/-! # Outcomes of computations that may throw

`Returns x P`: what `x` returns has a property. `OkLe x y`: whatever `x` returns, `y` returns; where `x`
throws, `y` may do anything. The rules follow the shape of a computation, so that one run of a function is
described, and two runs of it on different arguments are compared, step by step.
-/

/-- If the computation returns, what it returns has the property. -/
def Returns {ε α : Type} (x : Except ε α) (P : α → Prop) : Prop := ∀ a, x = .ok a → P a

namespace Returns

variable {ε α β : Type} {x y : Except ε α} {P : α → Prop}

theorem ok {a : α} (h : P a) : Returns (.ok a : Except ε α) P := fun _ ha => Except.ok.inj ha ▸ h

theorem error (e : ε) : Returns (.error e) P := fun _ h => by cases h

theorem bind {f : α → Except ε β} {Q : β → Prop} (h : ∀ a, x = .ok a → Returns (f a) Q) : Returns (x >>= f) Q := by
  intro b hb
  cases hx : x with
  | error e =>
    rw [hx] at hb
    cases hb
  | ok a =>
    rw [hx] at hb
    exact h a hx b hb

theorem ite {c : Prop} [Decidable c] (hthen : c → Returns x P) (helse : ¬c → Returns y P) :
    Returns (if c then x else y) P := by
  by_cases hc : c
  · rw [if_pos hc]
    exact hthen hc
  · rw [if_neg hc]
    exact helse hc

end Returns

/-- What the first computation returns, the second returns. -/
def OkLe {ε α : Type} (x y : Except ε α) : Prop := ∀ a, x = .ok a → y = .ok a

namespace OkLe

variable {ε α β : Type} {x y : Except ε α}

theorem refl (x : Except ε α) : OkLe x x := fun _ h => h

theorem bind {f g : α → Except ε β} (hxy : OkLe x y) (hfg : ∀ a, x = .ok a → OkLe (f a) (g a)) :
    OkLe (x >>= f) (y >>= g) := by
  intro b hb
  cases hx : x with
  | error e =>
    rw [hx] at hb
    cases hb
  | ok a =>
    rw [hx] at hb
    rw [hxy a hx]
    exact hfg a hx b hb

/-- The rest of a computation is compared after a common step. -/
theorem bind_right {f g : α → Except ε β} (hfg : ∀ a, x = .ok a → OkLe (f a) (g a)) : OkLe (x >>= f) (x >>= g) :=
  (refl x).bind hfg

theorem ite {c : Prop} [Decidable c] {x' y' : Except ε α} (hthen : c → OkLe x y) (helse : ¬c → OkLe x' y') :
    OkLe (if c then x else x') (if c then y else y') := by
  by_cases hc : c
  · rw [if_pos hc, if_pos hc]
    exact hthen hc
  · rw [if_neg hc, if_neg hc]
    exact helse hc

theorem mapM {f g : α → Except ε β} (hfg : ∀ a, OkLe (f a) (g a)) (l : List α) : OkLe (l.mapM f) (l.mapM g) := by
  induction l with
  | nil => exact refl _
  | cons a l ih =>
    rw [List.mapM_cons, List.mapM_cons]
    apply (hfg a).bind
    intro b _
    apply ih.bind
    intro rest _
    exact refl _

end OkLe
