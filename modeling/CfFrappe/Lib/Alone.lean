import CfFrappe.Lib.EventLog
import CfFrappe.Lib.Traces

set_option autoImplicit false

/-! # Programs that run alone

`eval` runs a program on a store that answers by a function. Here is what its steps do on an event log: a read
changes nothing, and an append at the length of the log is saved. `attempt` is `try … catch`: it hands out the
result, also when that is an error.
-/

namespace Program

variable {σ A : Type} {R : A → Type} {ε α β : Type}

/-- `try … catch`: the result of a program, whatever it is. -/
def attempt : Program A R ε α → Program A R ε (Except ε α)
  | .pure a => .pure (.ok a)
  | .throw e => .pure (.error e)
  | .act a k => .act a (fun r => (k r).attempt)

theorem eval_attempt (reply : σ → (a : A) → R a × σ) (p : Program A R ε α) (s : σ) :
    p.attempt.eval reply s = (.ok (p.eval reply s).1, (p.eval reply s).2) := by
  induction p generalizing s with
  | pure a => rfl
  | throw e => rfl
  | act a k ih => exact ih _ _

/-- The first part comes to a result. -/
theorem eval_bind_ok {reply : σ → (a : A) → R a × σ} {p : Program A R ε α} {f : α → Program A R ε β} {s t : σ}
    {a : α} (h : p.eval reply s = (.ok a, t)) : (p >>= f).eval reply s = (f a).eval reply t := by
  rw [eval_bind, h]

/-- A program that comes to a result has come to one in both of its parts. -/
theorem of_eval_bind_ok {reply : σ → (a : A) → R a × σ} {p : Program A R ε α} {f : α → Program A R ε β} {s u : σ}
    {b : β} (h : (p >>= f).eval reply s = (.ok b, u)) :
    ∃ a t, p.eval reply s = (.ok a, t) ∧ (f a).eval reply t = (.ok b, u) := by
  rw [eval_bind] at h
  split at h
  · next a t hp => exact ⟨a, t, hp, h⟩
  · exact nomatch congrArg Prod.fst h

theorem eval_ofExcept_ok {reply : σ → (a : A) → R a × σ} {x : Except ε α} {a : α} (h : x = .ok a) (s : σ) :
    (ofExcept x : Program A R ε α).eval reply s = (.ok a, s) := by
  rw [eval_ofExcept, h]

/-- A value that is not an error is handed out, and nothing happens. -/
theorem of_eval_ofExcept_ok {reply : σ → (a : A) → R a × σ} {x : Except ε α} {s t : σ} {a : α}
    (h : (ofExcept x : Program A R ε α).eval reply s = (.ok a, t)) : x = .ok a ∧ t = s := by
  rw [eval_ofExcept] at h
  obtain ⟨rfl, rfl⟩ := Prod.mk.inj h
  exact ⟨rfl, rfl⟩

/-- The first part throws. -/
theorem eval_bind_error {reply : σ → (a : A) → R a × σ} {p : Program A R ε α} {f : α → Program A R ε β} {s t : σ}
    {e : ε} (h : p.eval reply s = (.error e, t)) : (p >>= f).eval reply s = (.error e, t) := by
  rw [eval_bind, h]

end Program

namespace LogState

variable {K N X W ε α : Type} {RX : X → Type} [DecidableEq K]

theorem eval_read {conflict : ε} {answer : W → (x : X) → RX x × W} (key : K) (s : LogState K N W) :
    (LogProgram.read key : LogProgram K N X ε RX _).eval (LogState.reply conflict answer) s = (.ok (s.logs key), s) :=
  rfl

/-- What a call brings is of no matter to the logs. -/
theorem eval_other {conflict : ε} {answer : W → (x : X) → RX x × W} (x : X) (s : LogState K N W) :
    (LogProgram.other x : LogProgram K N X ε RX _).eval (LogState.reply conflict answer) s =
      (.ok (answer s.world x).1, { s with world := (answer s.world x).2 }) := rfl

/-- Nobody else writes, so an append at the length of the log is saved. -/
theorem eval_append {conflict : ε} {answer : W → (x : X) → RX x × W} {key : K} {version : Nat} (events : List N)
    {s : LogState K N W} (h : (s.logs key).length = version) :
    (LogProgram.append key version events : LogProgram K N X ε RX _).eval (LogState.reply conflict answer) s =
      (.ok (.ok (recorded version events)), s.push key events) := by
  show Program.eval (LogState.reply conflict answer) (.act (.append key version events) .pure) s = _
  rw [Program.eval, LogState.reply, if_pos h]
  rfl

end LogState
