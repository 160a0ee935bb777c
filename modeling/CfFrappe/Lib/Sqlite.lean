import CfFrappe.Lib.TextOrder
import CfFrappe.Lib.Wildcard

set_option autoImplicit false

/-! # SQL values and conditions

The part of SQLite's expression language that filters and orders rows: values with their
storage classes, the comparison of text by its UTF-8 bytes, three-valued logic, `GLOB`, and
the evaluation of a condition written as a sequence of tokens with positional parameters.

A condition is evaluated by a machine that reads the tokens once, with a frame for every open
parenthesis; `AND` binds tighter than `OR`. What proofs use of it are the two notions
`TermDenotes` (the tokens are one operand of `AND`) and `Denotes` (the tokens are a
conjunction), and the rules that build them.
-/

namespace Sqlite

open Utf

/-! ## Values -/

/-- A value: `NULL`, a number, or a text given by its characters. -/
inductive Value
  | null
  | num (n : Rat)
  | text (chars : List Nat)
  deriving DecidableEq

/-- The order of numbers. -/
def compareNum (a b : Rat) : Ordering := if a < b then .lt else if a = b then .eq else .gt

/-- The `BINARY` collation: texts compare by their UTF-8 bytes. -/
def compareText (a b : List Nat) : Ordering := compare (a.flatMap utf8) (b.flatMap utf8)

/-- The order of values across storage classes: `NULL`, then numbers, then texts. -/
def compareValues : Value → Value → Ordering
  | .null, .null => .eq
  | .null, _ => .lt
  | _, .null => .gt
  | .num a, .num b => compareNum a b
  | .num _, .text _ => .lt
  | .text _, .num _ => .gt
  | .text a, .text b => compareText a b

/-- A string as it is bound: an unpaired surrogate becomes U+FFFD. -/
def ofString (s : JsString) : Value := .text ((codePoints s).map scalarOf)

/-! ## Three-valued logic -/

/-- A truth value; `none` is unknown. -/
abbrev Truth := Option Bool

def kand : Truth → Truth → Truth
  | some false, _ | _, some false => some false
  | some true, some true => some true
  | _, _ => none

def kor : Truth → Truth → Truth
  | some true, _ | _, some true => some true
  | some false, some false => some false
  | _, _ => none

def knot : Truth → Truth := Option.map not

/-- The value of a truth value: 1, 0 or `NULL`. -/
def ofTruth : Truth → Value
  | some true => .num 1
  | some false => .num 0
  | none => .null

/-- The truth value of an operand of `AND` or `OR`; a text counts by its numeric reading, which
is left at false. -/
def truth : Value → Truth
  | .null => none
  | .num n => some (n ≠ 0)
  | .text _ => some false

@[simp] theorem truth_ofTruth (t : Truth) : truth (ofTruth t) = t := by
  rcases t with _ | _ | _
  · rfl
  · simp [ofTruth, truth]
  · simp [ofTruth, truth]

theorem ofTruth_eq_one {t : Truth} : ofTruth t = .num 1 ↔ t = some true := by
  rcases t with _ | _ | _ <;> simp [ofTruth]

theorem kand_assoc (a b c : Truth) : kand (kand a b) c = kand a (kand b c) := by
  rcases a with _ | _ | _ <;> rcases b with _ | _ | _ <;> rcases c with _ | _ | _ <;> rfl

theorem kor_assoc (a b c : Truth) : kor (kor a b) c = kor a (kor b c) := by
  rcases a with _ | _ | _ <;> rcases b with _ | _ | _ <;> rcases c with _ | _ | _ <;> rfl

theorem kand_eq_true {a b : Truth} : kand a b = some true ↔ a = some true ∧ b = some true := by
  rcases a with _ | _ | _ <;> rcases b with _ | _ | _ <;> simp [kand]

theorem kor_eq_true {a b : Truth} : kor a b = some true ↔ a = some true ∨ b = some true := by
  rcases a with _ | _ | _ <;> rcases b with _ | _ | _ <;> simp [kor]

/-- The conjunction of a list of conditions. -/
def kall (ts : List Truth) : Truth := ts.foldr kand (some true)

/-- The disjunction of a list of conditions. -/
def kany (ts : List Truth) : Truth := ts.foldr kor (some false)

@[simp] theorem kand_true (t : Truth) : kand t (some true) = t := by
  rcases t with _ | _ | _ <;> rfl

@[simp] theorem kor_false (t : Truth) : kor t (some false) = t := by
  rcases t with _ | _ | _ <;> rfl

theorem kany_eq_true {ts : List Truth} : kany ts = some true ↔ ∃ t ∈ ts, t = some true := by
  induction ts with
  | nil => simp [kany]
  | cons t ts ih =>
    rw [kany, List.foldr_cons, ← kany, kor_eq_true, ih, List.exists_mem_cons_iff]

/-! ## `GLOB` -/

/-- Where a reader of a pattern stands: outside of a class, right after the opening bracket,
right after the caret, or among the members, with the last single one. -/
inductive GlobMode
  | outer
  | opened
  | caret
  | inside (invert : Bool) (prior : Option Nat) (members : List (Nat × Nat))

/-- Whether a class accepts a character. -/
def classAccepts (invert : Bool) (members : List (Nat × Nat)) (c : Nat) : Bool :=
  members.any (fun m => m.1 ≤ c && c ≤ m.2) != invert

/-- One step among the members of a class: a range when a dash follows a single member and
does not close the class, else a single member. -/
def memberStep (invert : Bool) (members : List (Nat × Nat)) (c : Nat) : GlobMode :=
  .inside invert (some c) ((c, c) :: members)

/-- The atoms of a pattern; `none` when a class is left open, which matches nothing. -/
def globAtoms : GlobMode → List Nat → Option (List (Wildcard.Atom Nat))
  | .outer, [] => some []
  | .outer, c :: rest =>
    if c = 0x2A then (globAtoms .outer rest).map (.star :: ·)
    else if c = 0x3F then (globAtoms .outer rest).map (.one (fun _ => true) :: ·)
    else if c = 0x5B then globAtoms .opened rest
    else (globAtoms .outer rest).map (.one (· == c) :: ·)
  | .opened, c :: rest =>
    if c = 0x5E then globAtoms .caret rest
    else if c = 0x5D then globAtoms (.inside false none [(c, c)]) rest
    else globAtoms (memberStep false [] c) rest
  | .caret, c :: rest =>
    if c = 0x5D then globAtoms (.inside true none [(c, c)]) rest
    else globAtoms (memberStep true [] c) rest
  | .inside invert prior members, c :: rest =>
    if c = 0x5D then (globAtoms .outer rest).map (.one (classAccepts invert members) :: ·)
    else match prior, c == 0x2D, rest with
      | some p, true, d :: rest' =>
        if d = 0x5D then globAtoms (memberStep invert members c) (d :: rest')
        else globAtoms (.inside invert none ((p, d) :: members)) rest'
      | _, _, rest => globAtoms (memberStep invert members c) rest
  | _, [] => none

/-- `text GLOB pattern` on characters. -/
def globMatches (text pattern : List Nat) : Bool :=
  match globAtoms .outer pattern with
  | some atoms => Wildcard.accepts atoms text
  | none => false

/-! ## Conditions -/

/-- The comparison operators. -/
inductive Operator
  | eq | ne | lt | le | gt | ge | glob
  deriving DecidableEq

/-- A comparison by the order of values, unknown when an operand is `NULL`. -/
def orderTruth (holds : Ordering → Bool) : Value → Value → Truth
  | .null, _ | _, .null => none
  | a, b => some (holds (compareValues a b))

/-- The truth of a comparison; `none` when an operand of `GLOB` is a number, whose text is not
modelled. -/
def applyOperator : Operator → Value → Value → Option Truth
  | .eq, a, b => some (orderTruth (· == .eq) a b)
  | .ne, a, b => some (orderTruth (· != .eq) a b)
  | .lt, a, b => some (orderTruth (· == .lt) a b)
  | .le, a, b => some (orderTruth (· != .gt) a b)
  | .gt, a, b => some (orderTruth (· == .gt) a b)
  | .ge, a, b => some (orderTruth (· != .lt) a b)
  | .glob, .text a, .text b => some (some (globMatches a b))
  | .glob, .null, _ | .glob, _, .null => some none
  | .glob, _, _ => none

/-- `a IN (…)`. -/
def inTruth (a : Value) (values : List Value) : Truth := kany (values.map (orderTruth (· == .eq) a))

/-- The tokens of a condition over the column expressions `κ`. The postfix forms are one token
each, and a membership test carries the number of its placeholders. -/
inductive Token (κ : Type)
  | column (expression : κ)
  | literal (value : Value)
  | param
  | operator (op : Operator)
  | isNull
  | isNotNull
  | isNotOne
  | inParams (count : Nat)
  | notInParams (count : Nat)
  | and
  | or
  | lparen
  | rparen

/-- The term being read: nothing yet, a value, or a value and an operator. -/
inductive Term
  | empty
  | value (v : Value)
  | awaiting (v : Value) (op : Operator)

/-- An open level of parentheses: the disjunction of the finished conjunctions, the
conjunction of the finished terms, and the term being read. -/
structure Frame where
  disj : Option Value
  conj : Option Value
  term : Term

def Frame.start : Frame := ⟨none, none, .empty⟩

structure Machine where
  params : List Value
  frame : Frame
  outer : List Frame

def andValue (a b : Value) : Value := ofTruth (kand (truth a) (truth b))

def orValue (a b : Value) : Value := ofTruth (kor (truth a) (truth b))

/-- The conjunction read so far with one more term. -/
def joinConj : Option Value → Value → Value
  | none, v => v
  | some c, v => andValue c v

/-- The disjunction read so far with one more conjunction. -/
def joinDisj : Option Value → Value → Value
  | none, v => v
  | some d, v => orValue d v

/-- The value of a level, when its last term is complete. -/
def Frame.result (f : Frame) : Option Value :=
  match f.term with
  | .value v => some (joinDisj f.disj (joinConj f.conj v))
  | _ => none

/-- Hands an operand to the term being read. -/
def Frame.put (f : Frame) (v : Value) : Option Frame :=
  match f.term with
  | .empty => some { f with term := .value v }
  | .awaiting a op => (applyOperator op a v).map (fun t => { f with term := .value (ofTruth t) })
  | .value _ => none

/-- Replaces a complete term by what `k` makes of it. -/
def Frame.change (f : Frame) (k : Value → Value) : Option Frame :=
  match f.term with
  | .value v => some { f with term := .value (k v) }
  | _ => none

variable {κ : Type} (row : κ → Value)

/-- Reads one token. -/
def step (m : Machine) : Token κ → Option Machine
  | .column e => (m.frame.put (row e)).map (fun f => { m with frame := f })
  | .literal v => (m.frame.put v).map (fun f => { m with frame := f })
  | .param =>
    match m.params with
    | [] => none
    | v :: rest => (m.frame.put v).map (fun f => { m with params := rest, frame := f })
  | .operator op =>
    match m.frame.term with
    | .value v => some { m with frame := { m.frame with term := .awaiting v op } }
    | _ => none
  | .isNull => (m.frame.change (fun v => ofTruth (some (v == .null)))).map ({ m with frame := · })
  | .isNotNull => (m.frame.change (fun v => ofTruth (some (v != .null)))).map ({ m with frame := · })
  | .isNotOne => (m.frame.change (fun v => ofTruth (some (v != .num 1)))).map ({ m with frame := · })
  | .inParams n =>
    if n ≤ m.params.length then
      (m.frame.change (fun v => ofTruth (inTruth v (m.params.take n)))).map
        (fun f => { m with params := m.params.drop n, frame := f })
    else none
  | .notInParams n =>
    if n ≤ m.params.length then
      (m.frame.change (fun v => ofTruth (knot (inTruth v (m.params.take n))))).map
        (fun f => { m with params := m.params.drop n, frame := f })
    else none
  | .and =>
    match m.frame.term with
    | .value v =>
      some { m with frame := { m.frame with conj := some (joinConj m.frame.conj v), term := .empty } }
    | _ => none
  | .or => m.frame.result.map (fun v => { m with frame := ⟨some v, none, .empty⟩ })
  | .lparen => some { m with frame := .start, outer := m.frame :: m.outer }
  | .rparen =>
    match m.outer, m.frame.result with
    | f :: outer, some v => (f.put v).map (fun f => { m with frame := f, outer := outer })
    | _, _ => none

/-- Reads a sequence of tokens. -/
def run (tokens : List (Token κ)) (m : Machine) : Option Machine := tokens.foldlM (step row) m

/-- **The value of a condition on a row**: all tokens are read, every parenthesis is closed and
every parameter is used. -/
def evaluate (tokens : List (Token κ)) (params : List Value) : Option Value :=
  match run row tokens ⟨params, .start, []⟩ with
  | some ⟨[], f, []⟩ => f.result
  | _ => none

/-! ## What a sequence of tokens denotes -/

theorem run_append (a b : List (Token κ)) (m : Machine) : run row (a ++ b) m = (run row a m).bind (run row b) :=
  List.foldlM_append

theorem run_cons (t : Token κ) (ts : List (Token κ)) (m : Machine) :
    run row (t :: ts) m = (step row m t).bind (run row ts) :=
  List.foldlM_cons

@[simp] theorem run_nil (m : Machine) : run row [] m = some m := rfl

/-- The tokens are one term: read where a term may start, they leave the truth value `t` and
use up the parameters `ps`. -/
def TermDenotes (ts : List (Token κ)) (ps : List Value) (t : Truth) : Prop :=
  ∀ rest disj conj outer,
    run row ts ⟨ps ++ rest, ⟨disj, conj, .empty⟩, outer⟩ = some ⟨rest, ⟨disj, conj, .value (ofTruth t)⟩, outer⟩

/-- The tokens are a conjunction of terms: joined with what was read before them, they leave
the truth value `t`. -/
def Denotes (ts : List (Token κ)) (ps : List Value) (t : Truth) : Prop :=
  ∀ rest disj conj outer, ∃ conj' v,
    run row ts ⟨ps ++ rest, ⟨disj, conj, .empty⟩, outer⟩ = some ⟨rest, ⟨disj, conj', .value v⟩, outer⟩ ∧
    joinConj conj' v = joinConj conj (ofTruth t)

variable {row}

theorem TermDenotes.denotes {ts : List (Token κ)} {ps : List Value} {t : Truth}
    (h : TermDenotes row ts ps t) : Denotes row ts ps t :=
  fun rest disj conj outer => ⟨conj, ofTruth t, h rest disj conj outer, rfl⟩

theorem joinConj_and (conj : Option Value) (a b : Truth) :
    joinConj (some (joinConj conj (ofTruth a))) (ofTruth b) = joinConj conj (ofTruth (kand a b)) := by
  cases conj with
  | none => simp [joinConj, andValue]
  | some c => simp [joinConj, andValue, kand_assoc]

/-- **`AND` of two conjunctions.** -/
theorem Denotes.and {ts us : List (Token κ)} {ps qs : List Value} {a b : Truth}
    (hts : Denotes row ts ps a) (hus : Denotes row us qs b) :
    Denotes row (ts ++ [.and] ++ us) (ps ++ qs) (kand a b) := by
  intro rest disj conj outer
  obtain ⟨conj₁, v₁, hrun₁, hv₁⟩ := hts (qs ++ rest) disj conj outer
  obtain ⟨conj₂, v₂, hrun₂, hv₂⟩ := hus rest disj (some (joinConj conj₁ v₁)) outer
  refine ⟨conj₂, v₂, ?_, ?_⟩
  · rw [List.append_assoc, List.append_assoc, run_append, hrun₁, Option.bind_some, run_append]
    exact hrun₂
  · rw [hv₂, hv₁, joinConj_and]

/-- What a conjunction leaves at the start of a level is its truth value. -/
theorem Denotes.result {ts : List (Token κ)} {ps : List Value} {t : Truth}
    (h : Denotes row ts ps t) (rest : List Value) (disj : Option Value) (outer : List Frame) :
    ∃ f : Frame, run row ts ⟨ps ++ rest, ⟨disj, none, .empty⟩, outer⟩ = some ⟨rest, f, outer⟩ ∧
      f.result = some (joinDisj disj (ofTruth t)) := by
  obtain ⟨conj', v, hrun, hv⟩ := h rest disj none outer
  refine ⟨_, hrun, ?_⟩
  show some (joinDisj disj (joinConj conj' v)) = _
  rw [hv]
  rfl

/-- A clause of a group: its tokens, its parameters and its truth value. -/
structure Clause (κ : Type) where
  tokens : List (Token κ)
  params : List Value
  truth : Truth

/-- The clauses are conjunctions with the truth values they carry. -/
def AllDenote (row : κ → Value) (cs : List (Clause κ)) : Prop := ∀ c ∈ cs, Denotes row c.tokens c.params c.truth

/-- Clauses joined by a connective. -/
def joinTokens (connective : Token κ) (cs : List (Clause κ)) : List (Token κ) :=
  List.intercalate [connective] (cs.map Clause.tokens)

theorem joinTokens_cons_cons (connective : Token κ) (c d : Clause κ) (cs : List (Clause κ)) :
    joinTokens connective (c :: d :: cs) = c.tokens ++ [connective] ++ joinTokens connective (d :: cs) := by
  simp [joinTokens, List.intercalate]

theorem joinTokens_singleton (connective : Token κ) (c : Clause κ) : joinTokens connective [c] = c.tokens := by
  simp [joinTokens, List.intercalate]

/-- **Conjunctions joined by `AND`.** -/
theorem denotes_joinAnd {c : Clause κ} {cs : List (Clause κ)} (h : AllDenote row (c :: cs)) :
    Denotes row (joinTokens .and (c :: cs)) ((c :: cs).flatMap Clause.params)
      (kall ((c :: cs).map Clause.truth)) := by
  induction cs generalizing c with
  | nil =>
    rw [joinTokens_singleton]
    simpa [kall] using h c (by simp)
  | cons d ds ih =>
    rw [joinTokens_cons_cons]
    exact (h c (by simp)).and (ih (fun e he => h e (List.mem_cons_of_mem c he)))

theorem joinDisj_or (disj : Option Value) (a b : Truth) :
    joinDisj (some (joinDisj disj (ofTruth a))) (ofTruth b) = joinDisj disj (ofTruth (kor a b)) := by
  cases disj with
  | none => simp [joinDisj, orValue]
  | some d => simp [joinDisj, orValue, kor_assoc]

/-- **Conjunctions joined by `OR`**: the level ends with their disjunction. -/
theorem result_joinOr {c : Clause κ} {cs : List (Clause κ)} (h : AllDenote row (c :: cs))
    (rest : List Value) (disj : Option Value) (outer : List Frame) :
    ∃ f : Frame,
      run row (joinTokens .or (c :: cs))
          ⟨(c :: cs).flatMap Clause.params ++ rest, ⟨disj, none, .empty⟩, outer⟩ =
        some ⟨rest, f, outer⟩ ∧
      f.result = some (joinDisj disj (ofTruth (kany ((c :: cs).map Clause.truth)))) := by
  induction cs generalizing c disj with
  | nil =>
    rw [joinTokens_singleton]
    simpa [kany] using (h c (by simp)).result rest disj outer
  | cons d ds ih =>
    obtain ⟨f, hrun, hf⟩ := (h c (by simp)).result ((d :: ds).flatMap Clause.params ++ rest) disj outer
    obtain ⟨f', hrun', hf'⟩ := ih (fun e he => h e (List.mem_cons_of_mem c he))
      (some (joinDisj disj (ofTruth c.truth)))
    refine ⟨f', ?_, ?_⟩
    · rw [joinTokens_cons_cons, List.append_assoc, run_append, List.flatMap_cons,
        List.append_assoc, hrun, Option.bind_some, List.singleton_append, run_cons, step, hf,
        Option.map_some, Option.bind_some, hrun']
    · rw [hf', joinDisj_or]
      rfl

/-- Closing a level hands its value to the level around it. -/
theorem termDenotes_paren {ts : List (Token κ)} {ps : List Value} {t : Truth}
    (h : ∀ rest outer, ∃ f : Frame,
      run row ts ⟨ps ++ rest, .start, outer⟩ = some ⟨rest, f, outer⟩ ∧ f.result = some (ofTruth t)) :
    TermDenotes row ([.lparen] ++ ts ++ [.rparen]) ps t := by
  intro rest disj conj outer
  obtain ⟨f, hrun, hf⟩ := h rest (⟨disj, conj, .empty⟩ :: outer)
  rw [List.append_assoc, List.singleton_append, run_cons, step, Option.bind_some, run_append, hrun,
    Option.bind_some, run_cons, step, hf]
  rfl

/-- **A conjunction in parentheses is a term.** -/
theorem Denotes.paren {ts : List (Token κ)} {ps : List Value} {t : Truth}
    (h : Denotes row ts ps t) : TermDenotes row ([.lparen] ++ ts ++ [.rparen]) ps t :=
  termDenotes_paren (fun rest outer => h.result rest none outer)

/-- **A disjunction in parentheses is a term.** -/
theorem termDenotes_any {c : Clause κ} {cs : List (Clause κ)} (h : AllDenote row (c :: cs)) :
    TermDenotes row ([.lparen] ++ joinTokens .or (c :: cs) ++ [.rparen])
      ((c :: cs).flatMap Clause.params) (kany ((c :: cs).map Clause.truth)) :=
  termDenotes_paren (fun rest outer => result_joinOr h rest none outer)

/-- **The null-safe negation of a term.** -/
theorem TermDenotes.isNotOne {ts : List (Token κ)} {ps : List Value} {t : Truth}
    (h : TermDenotes row ts ps t) :
    TermDenotes row (ts ++ [.isNotOne]) ps (some (decide (t ≠ some true))) := by
  intro rest disj conj outer
  have hv : (ofTruth t != .num 1) = decide (t ≠ some true) := by
    rw [Bool.eq_iff_iff, bne_iff_ne, decide_eq_true_eq, ne_eq, ofTruth_eq_one]
  rw [run_append, h, Option.bind_some, run_cons, step, Frame.change, Option.map_some, Option.bind_some, run_nil, hv]

theorem not_denotes_nil {ps : List Value} {t : Truth} : ¬ Denotes row [] ps t := by
  intro h
  obtain ⟨_, _, hrun, _⟩ := h [] none none []
  simp at hrun

/-- **The value of a condition is the truth value it denotes.** -/
theorem Denotes.evaluate {ts : List (Token κ)} {ps : List Value} {t : Truth}
    (h : Denotes row ts ps t) : evaluate row ts ps = some (ofTruth t) := by
  obtain ⟨f, hrun, hf⟩ := h.result [] none []
  rw [List.append_nil] at hrun
  rw [Sqlite.evaluate, Frame.start, hrun]
  exact hf

/-! ## Single comparisons -/

theorem termDenotes_compare (e : κ) (op : Operator) (v : Value) {t : Truth}
    (h : applyOperator op (row e) v = some t) :
    TermDenotes row [.column e, .operator op, .param] [v] t := by
  intro rest disj conj outer
  simp [run_cons, step, Frame.put, h]

theorem termDenotes_compareLiteral (e : κ) (op : Operator) (v : Value) {t : Truth}
    (h : applyOperator op (row e) v = some t) :
    TermDenotes row [.column e, .operator op, .literal v] [] t := by
  intro rest disj conj outer
  simp [run_cons, step, Frame.put, h]

theorem termDenotes_isNull (e : κ) : TermDenotes row [.column e, .isNull] [] (some (row e == .null)) := by
  intro rest disj conj outer
  simp [run_cons, step, Frame.put, Frame.change]

theorem termDenotes_isNotNull (e : κ) : TermDenotes row [.column e, .isNotNull] [] (some (row e != .null)) := by
  intro rest disj conj outer
  simp [run_cons, step, Frame.put, Frame.change]

theorem termDenotes_in (e : κ) (vs : List Value) :
    TermDenotes row [.column e, .inParams vs.length] vs (inTruth (row e) vs) := by
  intro rest disj conj outer
  simp [run_cons, step, Frame.put, Frame.change]

theorem termDenotes_notIn (e : κ) (vs : List Value) :
    TermDenotes row [.column e, .notInParams vs.length] vs (knot (inTruth (row e) vs)) := by
  intro rest disj conj outer
  simp [run_cons, step, Frame.put, Frame.change]

/-- A comparison of two literals. -/
theorem termDenotes_literals (a : Value) (op : Operator) (b : Value) {t : Truth}
    (h : applyOperator op a b = some t) :
    TermDenotes row [.literal a, .operator op, .literal b] [] t := by
  intro rest disj conj outer
  simp [run_cons, step, Frame.put, h]

end Sqlite
