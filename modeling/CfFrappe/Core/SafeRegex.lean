import CfFrappe.Core.Types
import CfFrappe.Lib.StepMatching

set_option autoImplicit false

/-! # Safe regular expressions

The patterns of naming exclusions: a sequence of atoms, each of which stands for one character and may be
quantified, anchored at either end. A pattern is compiled to steps (`compileSafeRegex`), and the steps are
matched in one pass over the text for each of them (`matchesSafeRegex`). `Reads` says what a pattern
consists of; `matchesSafeRegex_iff` says that a compiled pattern matches what these atoms, repeated as their
quantifiers say, make up. How the language turns a character to lower case is a parameter.
-/

open Utf

variable {text rest : JsString}

namespace SafeRegex

def maxPatternLength : Nat := 128
def maxExpandedAtoms : Nat := 256

def invalidRegex (message : JsString) : FrameworkError := { code := .namingInvalid, message, status := 400 }

inductive Shorthand
  | digit | word | space
  deriving DecidableEq

inductive Atom
  | literal (value : UInt16)
  | any
  | shorthand (kind : Shorthand) (negated : Bool)
  | charClass (negated : Bool) (singles : List UInt16) (ranges : List (UInt16 × UInt16))
  deriving DecidableEq

inductive StepKind
  | required | optional | star
  deriving DecidableEq

structure Step where
  kind : StepKind
  atom : Atom
  deriving DecidableEq

structure Expression where
  anchoredStart : Bool
  anchoredEnd : Bool
  ignoreCase : Bool
  steps : List Step
  deriving DecidableEq

/-! ## Single characters -/

def isAsciiWord (value : UInt16) : Bool :=
  (0x61 ≤ value && value ≤ 0x7A) || (0x41 ≤ value && value ≤ 0x5A) || (0x30 ≤ value && value ≤ 0x39) || value == 0x5F

def Shorthand.accepts : Shorthand → UInt16 → Bool
  | .digit, value => 0x30 ≤ value && value ≤ 0x39
  | .word, value => isAsciiWord value
  | .space, value => value == 0x20 || value == 0x09

section

variable (toLocaleLowerCase : UInt16 → JsString) (ignoreCase : Bool)

def comparable (value : UInt16) : JsString := if ignoreCase then toLocaleLowerCase value else [value]

/-- Strings compare by their code units. -/
def atomMatches (atom : Atom) (value : UInt16) : Bool :=
  let key := comparable toLocaleLowerCase ignoreCase
  match atom with
  | .any => true
  | .literal literal => key literal == key value
  | .shorthand kind negated => kind.accepts value != negated
  | .charClass negated singles ranges =>
    (singles.any (fun single => key single == key value) ||
      ranges.any (fun range => decide (key range.1 ≤ key value) && decide (key value ≤ key range.2))) != negated

end

/-! ## Atoms -/

/-- `d`, `w` and `s`, and their negations in upper case. -/
def shorthandAtom (character : UInt16) : Option Atom :=
  if character = 0x64 then some (.shorthand .digit false)
  else if character = 0x44 then some (.shorthand .digit true)
  else if character = 0x77 then some (.shorthand .word false)
  else if character = 0x57 then some (.shorthand .word true)
  else if character = 0x73 then some (.shorthand .space false)
  else if character = 0x53 then some (.shorthand .space true)
  else none

/-- The characters of a class, each with whether it was escaped, and what follows them. -/
def classValues : JsString → Except FrameworkError (List (UInt16 × Bool) × JsString)
  | [] => .ok ([], [])
  | character :: rest =>
    if character = 0x5D then .ok ([], character :: rest)
    else if character = 0x5C then
      match rest with
      | [] => .error (invalidRegex (js "Safe regex character classes only support escaped literal characters"))
      | escaped :: rest => do
          ensure (shorthandAtom escaped).isNone
            (invalidRegex (js "Safe regex character classes only support escaped literal characters"))
          let (values, rest) ← classValues rest
          return ((escaped, true) :: values, rest)
    else do
      let (values, rest) ← classValues rest
      return ((character, false) :: values, rest)

/-- The single characters and the ranges of a class. -/
def classMembers : List (UInt16 × Bool) → Except FrameworkError (List UInt16 × List (UInt16 × UInt16))
  | [] => .ok ([], [])
  | [first] => .ok ([first.1], [])
  | [first, second] => .ok ([first.1, second.1], [])
  | first :: second :: third :: rest =>
    if second = (0x2D, false) ∧ first.1 ≠ 0x2D ∧ third.1 ≠ 0x2D then do
      ensure (first.1 ≤ third.1)
        (invalidRegex (js "Safe regex character class range '" ++ [first.1] ++ js "-" ++ [third.1] ++ js "' is reversed"))
      let (singles, ranges) ← classMembers rest
      return (singles, (first.1, third.1) :: ranges)
    else do
      let (singles, ranges) ← classMembers (second :: third :: rest)
      return (first.1 :: singles, ranges)

/-- The class behind its opening bracket. -/
def parseCharacterClass (text : JsString) : Except FrameworkError (Atom × JsString) := do
  let negated := text.head? == some 0x5E
  let (values, rest) ← classValues (if negated then text.drop 1 else text)
  ensure (rest.head? == some 0x5D && !values.isEmpty)
    (invalidRegex (js "Safe regex character classes must be non-empty and closed"))
  let (singles, ranges) ← classMembers values
  return (.charClass negated singles ranges, rest.drop 1)

/-- The character behind a backslash. -/
def parseEscape : JsString → Except FrameworkError (Atom × JsString)
  | [] => .error (invalidRegex (js "Safe regex patterns cannot end with an escape character"))
  | escaped :: rest => .ok ((shorthandAtom escaped).getD (.literal escaped), rest)

def isQuantifierStart (character : UInt16) : Bool :=
  character == 0x3F || character == 0x2A || character == 0x2B || character == 0x7B

/-- `^`, `$`, `(`, `)`, `|` and what starts a quantifier. -/
def isOperator (character : UInt16) : Bool :=
  [0x5E, 0x24, 0x28, 0x29, 0x7C].contains character || isQuantifierStart character

/-- The atom at the beginning of a text, which stands at `index` in the pattern, and what follows it. -/
def parseAtom (index : Nat) : JsString → Except FrameworkError (Atom × JsString)
  | [] => .error (invalidRegex (js "Safe regex patterns must contain at least one match atom"))
  | character :: rest =>
    if isOperator character then
      .error (invalidRegex (js "Unexpected safe regex operator '" ++ [character] ++ js "' at position " ++
        Json.natToString index))
    else if character = 0x2E then .ok (.any, rest)
    else if character = 0x5B then parseCharacterClass rest
    else if character = 0x5C then parseEscape rest
    else .ok (.literal character, rest)

/-! ## Quantifiers -/

def isDecimal (value : JsString) : Bool := !value.isEmpty && value.all (fun character => 0x30 ≤ character && character ≤ 0x39)

/-- `Number(value)` of digits. -/
def decimalNumber (value : JsString) : Nat := value.foldl (fun number digit => number * 10 + (digit.toNat - 0x30)) 0

/-- The upper bound of a quantifier, from what follows its lower bound. -/
def upperBound (min : Nat) : List JsString → Except FrameworkError (Option Nat)
  | [] => .ok (some min)
  | second :: _ =>
    if second.isEmpty then .ok none
    else do
      ensure (isDecimal second) (invalidRegex (js "Safe regex quantifiers must contain decimal integers"))
      return some (decimalNumber second)

/-- The numbers between the braces of a quantifier. -/
def parseBounds (body : JsString) : Except FrameworkError (Nat × Option Nat) := do
  let parts := body.splitOn 0x2C
  let first := parts.headD []
  ensure (parts.length ≤ 2 && isDecimal first)
    (invalidRegex (js "Safe regex quantifiers must use '\x7bn\x7d', '\x7bn,m\x7d', or '\x7bn,\x7d'"))
  let min := decimalNumber first
  let max ← upperBound min (parts.drop 1)
  ensure (min ≤ maxExpandedAtoms && max.all (fun max => min ≤ max && max ≤ maxExpandedAtoms))
    (invalidRegex (js "Safe regex quantifiers must stay within " ++ Json.natToString maxExpandedAtoms ++ js " atoms"))
  return (min, max)

/-- How often the atom before a text is repeated, and what follows the quantifier. -/
def parseQuantifier : JsString → Except FrameworkError (Nat × Option Nat × JsString)
  | [] => .ok (1, some 1, [])
  | character :: rest =>
    if character = 0x3F then .ok (0, some 1, rest)
    else if character = 0x2A then .ok (0, none, rest)
    else if character = 0x2B then .ok (1, none, rest)
    else if character = 0x7B then do
      ensure (rest.contains 0x7D) (invalidRegex (js "Safe regex quantifiers must be closed"))
      let (min, max) ← parseBounds (rest.takeWhile (· != 0x7D))
      return (min, max, (rest.dropWhile (· != 0x7D)).drop 1)
    else .ok (1, some 1, character :: rest)

def appendQuantifiedSteps (steps : List Step) (atom : Atom) (min : Nat) (max : Option Nat) : List Step :=
  let required := steps ++ List.replicate min ⟨.required, atom⟩
  match max with
  | none => required ++ [⟨.star, atom⟩]
  | some max => required ++ List.replicate (max - min) ⟨.optional, atom⟩

/-! ## Compilation -/

structure Compiled where
  steps : List Step
  atomCount : Nat
  anchoredEnd : Bool

/-- The loop of `compileSafeRegex` on the rest of a pattern of some length. Every turn takes at least one
character, so that this length is enough fuel. -/
def compileSteps (length : Nat) : (fuel : Nat) → JsString → List Step → (atomCount : Nat) → Except FrameworkError Compiled
  | 0, _, steps, atomCount => .ok ⟨steps, atomCount, false⟩
  | fuel + 1, rest, steps, atomCount =>
    if rest = [] then .ok ⟨steps, atomCount, false⟩
    else if rest = [0x24] then .ok ⟨steps, atomCount, true⟩
    else do
      let (atom, rest) ← parseAtom (length - rest.length) rest
      let (min, max, rest) ← parseQuantifier rest
      let steps := appendQuantifiedSteps steps atom min max
      ensure (steps.length ≤ maxExpandedAtoms)
        (invalidRegex (js "Safe regex patterns cannot expand beyond " ++ Json.natToString maxExpandedAtoms ++ js " atoms"))
      compileSteps length fuel rest steps (atomCount + 1)

def hasUnsafeControlCharacter (value : JsString) : Bool := value.any (fun u => u ≤ 0x1F || u == 0x7F)

def startsWithCaret (pattern : JsString) : Bool := pattern.head? == some 0x5E

/-- The pattern without the anchor at its beginning. -/
def afterCaret (pattern : JsString) : JsString := if startsWithCaret pattern then pattern.drop 1 else pattern

def compileSafeRegex (pattern : JsString) (ignoreCase : Bool) : Except FrameworkError Expression := do
  ensure (!pattern.isEmpty && pattern.length ≤ maxPatternLength && !hasUnsafeControlCharacter pattern)
    (invalidRegex (js "Safe regex patterns must contain 1-" ++ Json.natToString maxPatternLength ++ js " safe characters"))
  let compiled ← compileSteps pattern.length pattern.length (afterCaret pattern) [] 0
  ensure (compiled.atomCount != 0) (invalidRegex (js "Safe regex patterns must contain at least one match atom"))
  return { anchoredStart := startsWithCaret pattern, anchoredEnd := compiled.anchoredEnd, ignoreCase, steps := compiled.steps }

/-! ## Matching -/

/-- What a step takes, as a step of the general matcher. -/
def Step.matcher (accepts : Atom → UInt16 → Bool) (step : Step) : StepMatching.Step UInt16 :=
  match step.kind with
  | .required => .required (accepts step.atom)
  | .optional => .optional (accepts step.atom)
  | .star => .star (accepts step.atom)

def matchesSafeRegex (toLocaleLowerCase : UInt16 → JsString) (expression : Expression) (value : JsString) : Bool :=
  StepMatching.matchesSteps
    (expression.steps.map (Step.matcher (atomMatches toLocaleLowerCase expression.ignoreCase)))
    expression.anchoredStart expression.anchoredEnd value

/-! ## What a pattern consists of -/

/-- An atom of a pattern, with the bounds of its quantifier. -/
structure Piece where
  atom : Atom
  min : Nat
  max : Option Nat
  deriving DecidableEq

/-- The pattern, behind its first anchor, consists of these pieces, with an anchor at its end or without. -/
inductive Reads : JsString → List Piece → (anchoredEnd : Bool) → Prop
  | nil : Reads [] [] false
  | anchor : Reads [0x24] [] true
  | piece {index : Nat} {text afterAtom rest : JsString} {atom : Atom} {min : Nat} {max : Option Nat}
      {pieces : List Piece} {anchoredEnd : Bool} (notAnchor : text ≠ [0x24])
      (hatom : parseAtom index text = .ok (atom, afterAtom)) (hquantifier : parseQuantifier afterAtom = .ok (min, max, rest))
      (hrest : Reads rest pieces anchoredEnd) : Reads text (⟨atom, min, max⟩ :: pieces) anchoredEnd

/-- The words of a piece: its atom as often as its quantifier allows. -/
def Piece.language (accepts : Atom → UInt16 → Bool) (piece : Piece) : Language UInt16 :=
  StepMatching.repeated (accepts piece.atom) piece.min piece.max

def Piece.steps (piece : Piece) : List Step := appendQuantifiedSteps [] piece.atom piece.min piece.max

/-- The text ends in a dollar sign that no backslash escapes. -/
def endsWithDollar : JsString → Bool
  | [] => false
  | character :: rest =>
    if character = 0x5C then
      match rest with
      | [] => false
      | _ :: rest => endsWithDollar rest
    else if character = 0x24 ∧ rest = [] then true
    else endsWithDollar rest

/-! ### What the parts of a pattern take of it -/

theorem endsWithDollar_cons {character : UInt16} (hescape : character ≠ 0x5C) (h : character ≠ 0x24 ∨ rest ≠ []) :
    endsWithDollar (character :: rest) = endsWithDollar rest := by
  rw [endsWithDollar.eq_def]
  dsimp only
  rw [if_neg hescape, if_neg]
  rintro ⟨rfl, rfl⟩
  simp at h

theorem endsWithDollar_append (htext : 0x5C ∉ text) (hrest : rest ≠ []) :
    endsWithDollar (text ++ rest) = endsWithDollar rest := by
  induction text with
  | nil => rfl
  | cons character text ih =>
    rw [List.mem_cons, not_or] at htext
    rw [List.cons_append, endsWithDollar_cons (Ne.symm htext.1) (Or.inr (by simp [hrest])), ih htext.2]

theorem classValues_ok {values : List (UInt16 × Bool)} (h : classValues text = .ok (values, rest))
    (hclosed : rest.head? = some 0x5D) :
    rest.length ≤ text.length ∧ endsWithDollar text = endsWithDollar rest := by
  -- by induction on the reading of the class: each case consumes units before a dollar sign at the end
  induction text using classValues.induct generalizing values with
  | case1 =>
    cases h
    cases hclosed
  | case2 tail =>
    rw [classValues.eq_def] at h
    cases h
    exact ⟨le_rfl, rfl⟩
  | case3 =>
    rw [classValues.eq_def] at h
    cases h
  | case4 escaped tail hne ih =>
    rw [classValues.eq_def] at h
    dsimp only at h
    rw [if_neg hne, if_pos rfl] at h
    obtain ⟨_, -, h⟩ := except_bind_eq_ok h
    obtain ⟨⟨values', rest'⟩, hvalues, h⟩ := except_bind_eq_ok h
    cases h
    obtain ⟨hlength, hends⟩ := ih hvalues
    have hshorter : rest'.length ≤ tail.length := hlength
    refine ⟨by simp only [List.length_cons]; omega, ?_⟩
    rw [← hends]
    rfl
  | case5 character tail hclose hescape ih =>
    rw [classValues.eq_def] at h
    dsimp only at h
    rw [if_neg hclose, if_neg hescape] at h
    obtain ⟨⟨values', rest'⟩, hvalues, h⟩ := except_bind_eq_ok h
    cases h
    obtain ⟨hlength, hends⟩ := ih hvalues
    have hshorter : rest'.length ≤ tail.length := hlength
    have htail : tail ≠ [] := by
      rintro rfl
      cases hvalues
      cases hclosed
    refine ⟨by simp only [List.length_cons]; omega, ?_⟩
    rw [endsWithDollar_cons hescape (Or.inr htail), hends]

theorem parseCharacterClass_ok {atom : Atom} (h : parseCharacterClass text = .ok (atom, rest)) :
    rest.length ≤ text.length ∧ endsWithDollar text = endsWithDollar rest := by
  obtain ⟨⟨values, closing⟩, hvalues, h⟩ := except_bind_eq_ok h
  obtain ⟨_, hclosed, h⟩ := except_bind_eq_ok h
  obtain ⟨⟨singles, ranges⟩, -, h⟩ := except_bind_eq_ok h
  cases h
  have hclosed' := ensure_eq_ok hclosed
  rw [Bool.and_eq_true, beq_iff_eq] at hclosed'
  obtain ⟨hlength, hends⟩ := classValues_ok hvalues hclosed'.1
  -- behind the closing bracket
  have hclosing : (closing.drop 1).length ≤ closing.length ∧ endsWithDollar closing = endsWithDollar (closing.drop 1) := by
    cases closing with
    | nil => cases hclosed'.1
    | cons character rest =>
      have hcharacter : character = 0x5D := Option.some.inj hclosed'.1
      subst hcharacter
      exact ⟨by simp, endsWithDollar_cons (by decide) (Or.inl (by decide))⟩
  have hopening : (if (text.head? == some 0x5E) = true then text.drop 1 else text).length ≤ text.length ∧
      endsWithDollar text = endsWithDollar (if (text.head? == some 0x5E) = true then text.drop 1 else text) := by
    cases text with
    | nil => exact ⟨by simp, rfl⟩
    | cons character rest =>
      split_ifs with hnegated
      · have hcharacter : character = 0x5E := by simpa using hnegated
        subst hcharacter
        exact ⟨by simp, endsWithDollar_cons (by decide) (Or.inl (by decide))⟩
      · exact ⟨le_rfl, rfl⟩
  exact ⟨by omega, hopening.2.trans (hends.trans hclosing.2)⟩

/-- An atom takes at least one character, and no anchor. -/
theorem parseAtom_ok {index : Nat} {atom : Atom} (h : parseAtom index text = .ok (atom, rest)) :
    rest.length < text.length ∧ endsWithDollar text = endsWithDollar rest := by
  cases text with
  | nil => cases h
  | cons character tail =>
    unfold parseAtom at h
    dsimp only at h
    by_cases hoperator : isOperator character = true
    · rw [if_pos hoperator] at h
      cases h
    · rw [if_neg hoperator] at h
      have hdollar : character ≠ 0x24 := by
        rintro rfl
        exact hoperator (by decide)
      by_cases hany : character = 0x2E
      · rw [if_pos hany] at h
        cases h
        exact ⟨by simp, endsWithDollar_cons (by rw [hany]; decide) (Or.inl hdollar)⟩
      · rw [if_neg hany] at h
        by_cases hclass : character = 0x5B
        · rw [if_pos hclass] at h
          obtain ⟨hlength, hends⟩ := parseCharacterClass_ok h
          refine ⟨by simp only [List.length_cons]; omega, ?_⟩
          rw [endsWithDollar_cons (by rw [hclass]; decide) (Or.inl hdollar), hends]
        · rw [if_neg hclass] at h
          by_cases hescape : character = 0x5C
          · rw [if_pos hescape] at h
            cases tail with
            | nil => cases h
            | cons escaped tail =>
              cases h
              subst hescape
              exact ⟨by simp only [List.length_cons]; omega, rfl⟩
          · rw [if_neg hescape] at h
            cases h
            exact ⟨by simp, endsWithDollar_cons hescape (Or.inl hdollar)⟩

theorem notMem_of_isDecimal (h : isDecimal text = true) : 0x5C ∉ text := by
  intro hmem
  rw [isDecimal, Bool.and_eq_true] at h
  have hdigit := List.all_eq_true.mp h.2 _ hmem
  revert hdigit
  decide

/-- Bounds are in order, and written with digits and a comma. -/
theorem parseBounds_ok {body : JsString} {min : Nat} {max : Option Nat} (h : parseBounds body = .ok (min, max)) :
    0x5C ∉ body ∧ ∀ m, max = some m → min ≤ m := by
  have hbody : [0x2C].intercalate (body.splitOn 0x2C) = body := List.intercalate_splitOn 0x2C
  unfold parseBounds at h
  generalize body.splitOn 0x2C = parts at h hbody
  obtain ⟨_, hfirst, h⟩ := except_bind_eq_ok h
  obtain ⟨bound, hbound, h⟩ := except_bind_eq_ok h
  obtain ⟨_, hrange, h⟩ := except_bind_eq_ok h
  cases h
  have hfirst' := ensure_eq_ok hfirst
  rw [Bool.and_eq_true, decide_eq_true_eq] at hfirst'
  have hrange' := ensure_eq_ok hrange
  rw [Bool.and_eq_true] at hrange'
  constructor
  · rw [← hbody]
    -- one number, or two with a comma between them
    rcases parts with _ | ⟨first, _ | ⟨second, _ | ⟨third, parts⟩⟩⟩
    · simp
    · have hplain := notMem_of_isDecimal hfirst'.2
      simpa using hplain
    · have hplain : 0x5C ∉ first := notMem_of_isDecimal hfirst'.2
      have hsecond : 0x5C ∉ second := by
        by_cases hempty : second.isEmpty = true
        · rw [List.isEmpty_iff] at hempty
          simp [hempty]
        · have hdecimal : isDecimal second = true := by
            have hstep : upperBound (decimalNumber first) [second] = .ok max := hbound
            unfold upperBound at hstep
            dsimp only at hstep
            rw [if_neg hempty] at hstep
            obtain ⟨_, hdecimal, -⟩ := except_bind_eq_ok hstep
            exact ensure_eq_ok hdecimal
          exact notMem_of_isDecimal hdecimal
      have hjoin : [0x2C].intercalate [first, second] = first ++ 0x2C :: second := by
        simp [List.intercalate]
      rw [hjoin, List.mem_append, List.mem_cons, not_or, not_or]
      exact ⟨hplain, by decide, hsecond⟩
    · have hlength := hfirst'.1
      simp only [List.length_cons] at hlength
      omega
  · rintro m rfl
    have hm := hrange'.2
    rw [Option.all_some, Bool.and_eq_true, decide_eq_true_eq] at hm
    exact hm.1

theorem parseQuantifier_ok {min : Nat} {max : Option Nat} (h : parseQuantifier text = .ok (min, max, rest)) :
    rest.length ≤ text.length ∧ endsWithDollar text = endsWithDollar rest ∧ ∀ m, max = some m → min ≤ m := by
  cases text with
  | nil =>
    cases h
    refine ⟨le_rfl, rfl, ?_⟩
    rintro m hm
    cases hm
    exact le_rfl
  | cons character tail =>
    unfold parseQuantifier at h
    dsimp only at h
    have hsimple : ∀ {c : UInt16}, character = c → c ≠ 0x5C → c ≠ 0x24 →
        endsWithDollar (character :: tail) = endsWithDollar tail := by
      rintro c rfl hescape hdollar
      exact endsWithDollar_cons hescape (Or.inl hdollar)
    by_cases hoptional : character = 0x3F
    · rw [if_pos hoptional] at h
      cases h
      exact ⟨by simp, hsimple hoptional (by decide) (by decide), by simp⟩
    · rw [if_neg hoptional] at h
      by_cases hstar : character = 0x2A
      · rw [if_pos hstar] at h
        cases h
        exact ⟨by simp, hsimple hstar (by decide) (by decide), by simp⟩
      · rw [if_neg hstar] at h
        by_cases hplus : character = 0x2B
        · rw [if_pos hplus] at h
          cases h
          exact ⟨by simp, hsimple hplus (by decide) (by decide), by simp⟩
        · rw [if_neg hplus] at h
          by_cases hbrace : character = 0x7B
          · rw [if_pos hbrace] at h
            obtain ⟨_, hclosed, h⟩ := except_bind_eq_ok h
            obtain ⟨⟨min', max'⟩, hbounds, h⟩ := except_bind_eq_ok h
            cases h
            obtain ⟨hplain, hordered⟩ := parseBounds_ok hbounds
            have hclosed' : (0x7D : UInt16) ∈ tail := by simpa using ensure_eq_ok hclosed
            -- the text up to the closing brace, the brace, and the rest
            have hdrop : tail.dropWhile (· != 0x7D) ≠ [] := by
              intro hnil
              rw [List.dropWhile_eq_nil_iff] at hnil
              simpa using hnil _ hclosed'
            obtain ⟨brace, after, hafter⟩ := List.exists_cons_of_ne_nil hdrop
            have hbraceEq : brace = 0x7D := by
              have hhead := List.head_dropWhile_not (p := (· != (0x7D : UInt16))) (l := tail) hdrop
              simp only [hafter, List.head_cons] at hhead
              simpa using hhead
            have hsplit := List.takeWhile_append_dropWhile (p := (· != (0x7D : UInt16))) (l := tail)
            rw [hafter, hbraceEq] at hsplit
            have htail : tail = tail.takeWhile (· != 0x7D) ++ 0x7D :: after := hsplit.symm
            have hlength := congrArg List.length htail
            rw [List.length_append, List.length_cons] at hlength
            rw [hafter, List.drop_one, List.tail_cons]
            refine ⟨by rw [List.length_cons]; omega, ?_, hordered⟩
            rw [hsimple hbrace (by decide) (by decide)]
            conv_lhs => rw [htail]
            rw [endsWithDollar_append hplain (by simp), endsWithDollar_cons (by decide) (Or.inl (by decide))]
          · rw [if_neg hbrace] at h
            cases h
            exact ⟨le_rfl, rfl, by simp⟩

/-! ### Reading and compiling -/

/-- The anchor at the end of a pattern is its last character, if that is a dollar sign and not escaped. -/
theorem Reads.anchoredEnd_eq {pieces : List Piece} {anchoredEnd : Bool} (h : Reads text pieces anchoredEnd) :
    anchoredEnd = endsWithDollar text := by
  induction h with
  | nil => rfl
  | anchor => rfl
  | piece notAnchor hatom hquantifier hrest ih =>
    rw [ih, (parseAtom_ok hatom).2, (parseQuantifier_ok hquantifier).2.1]

theorem appendQuantifiedSteps_eq (steps : List Step) (atom : Atom) (min : Nat) (max : Option Nat) :
    appendQuantifiedSteps steps atom min max = steps ++ appendQuantifiedSteps [] atom min max := by
  cases max <;> simp [appendQuantifiedSteps]

/-- The steps of a compiled pattern are those of its pieces. -/
theorem compileSteps_reads {length fuel : Nat} {steps : List Step} {atomCount : Nat} {compiled : Compiled}
    (h : compileSteps length fuel text steps atomCount = .ok compiled) (hfuel : text.length ≤ fuel) :
    ∃ pieces, Reads text pieces compiled.anchoredEnd ∧ compiled.steps = steps ++ pieces.flatMap Piece.steps ∧
      ∀ piece ∈ pieces, ∀ m, piece.max = some m → piece.min ≤ m := by
  induction fuel generalizing text steps atomCount with
  | zero =>
    have hempty : text = [] := List.length_eq_zero_iff.mp (Nat.le_zero.mp hfuel)
    subst hempty
    cases h
    exact ⟨[], .nil, (List.append_nil _).symm, by simp⟩
  | succ fuel ih =>
    unfold compileSteps at h
    by_cases hempty : text = []
    · rw [if_pos hempty] at h
      subst hempty
      cases h
      exact ⟨[], .nil, (List.append_nil _).symm, by simp⟩
    · rw [if_neg hempty] at h
      by_cases hanchor : text = [0x24]
      · rw [if_pos hanchor] at h
        subst hanchor
        cases h
        exact ⟨[], .anchor, (List.append_nil _).symm, by simp⟩
      · rw [if_neg hanchor] at h
        obtain ⟨⟨atom, afterAtom⟩, hatom, h⟩ := except_bind_eq_ok h
        obtain ⟨⟨min, max, rest⟩, hquantifier, h⟩ := except_bind_eq_ok h
        obtain ⟨_, -, h⟩ := except_bind_eq_ok h
        -- an atom consumes a unit, so the fuel lasts
        have hshorter := (parseAtom_ok hatom).1
        obtain ⟨hnotLonger, -, hordered⟩ := parseQuantifier_ok hquantifier
        have hfuel' : rest.length ≤ fuel := by omega
        obtain ⟨pieces, hreads, hsteps, hbounds⟩ := ih h hfuel'
        refine ⟨⟨atom, min, max⟩ :: pieces, .piece hanchor hatom hquantifier hreads, ?_, ?_⟩
        · rw [hsteps, appendQuantifiedSteps_eq, List.flatMap_cons, List.append_assoc]
          rfl
        · intro piece hpiece
          rcases List.mem_cons.mp hpiece with rfl | hpiece
          · exact hordered
          · exact hbounds piece hpiece

/-! ### Matching -/

theorem language_steps (accepts : Atom → UInt16 → Bool) {pieces : List Piece}
    (h : ∀ piece ∈ pieces, ∀ m, piece.max = some m → piece.min ≤ m) :
    StepMatching.language ((pieces.flatMap Piece.steps).map (Step.matcher accepts)) =
      (pieces.map (Piece.language accepts)).prod := by
  induction pieces with
  | nil => rfl
  | cons piece pieces ih =>
    have hsteps : piece.steps.map (Step.matcher accepts) =
        StepMatching.repeatSteps (accepts piece.atom) piece.min piece.max := by
      unfold Piece.steps appendQuantifiedSteps StepMatching.repeatSteps
      cases piece.max <;> simp [Step.matcher]
    have hpiece : StepMatching.language (piece.steps.map (Step.matcher accepts)) = piece.language accepts := by
      rw [hsteps, StepMatching.language_repeatSteps (h piece List.mem_cons_self)]
      rfl
    have hrest := ih (fun other hother => h other (List.mem_cons_of_mem _ hother))
    rw [List.map_cons, List.prod_cons, ← hpiece, ← hrest, List.flatMap_cons, List.map_append]
    unfold StepMatching.language
    rw [List.map_append, List.prod_append]

theorem endsWithDollar_afterCaret (pattern : JsString) : endsWithDollar (afterCaret pattern) = endsWithDollar pattern := by
  unfold afterCaret startsWithCaret
  split_ifs with hcaret
  · cases pattern with
    | nil => rfl
    | cons character rest =>
      have hcharacter : character = 0x5E := by simpa using hcaret
      rw [hcharacter]
      exact (endsWithDollar_cons (by decide) (Or.inl (by decide))).symm
  · rfl

/-- **Matching is language membership.** An accepted pattern consists of pieces, and a text matches it if it
has a block in the concatenation of their languages: at the beginning of the text if the pattern starts with a
caret, at its end if it ends in an unescaped dollar sign. -/
theorem matchesSafeRegex_iff {pattern : JsString} {ignoreCase : Bool} {expression : Expression}
    (h : compileSafeRegex pattern ignoreCase = .ok expression) (toLocaleLowerCase : UInt16 → JsString) :
    ∃ pieces, Reads (afterCaret pattern) pieces (endsWithDollar pattern) ∧
      ∀ value, matchesSafeRegex toLocaleLowerCase expression value = true ↔
        ∃ before block after, value = before ++ block ++ after ∧
          (startsWithCaret pattern = true → before = []) ∧ (endsWithDollar pattern = true → after = []) ∧
          block ∈ (pieces.map (Piece.language (atomMatches toLocaleLowerCase ignoreCase))).prod := by
  obtain ⟨_, -, h⟩ := except_bind_eq_ok h
  obtain ⟨compiled, hcompiled, h⟩ := except_bind_eq_ok h
  obtain ⟨_, -, h⟩ := except_bind_eq_ok h
  cases h
  have hfuel : (afterCaret pattern).length ≤ pattern.length := by
    unfold afterCaret
    split_ifs
    · simp
    · exact le_rfl
  obtain ⟨pieces, hreads, hsteps, hbounds⟩ := compileSteps_reads hcompiled hfuel
  have hend : compiled.anchoredEnd = endsWithDollar pattern := by
    rw [hreads.anchoredEnd_eq, endsWithDollar_afterCaret]
  rw [hend] at hreads
  refine ⟨pieces, hreads, fun value => ?_⟩
  have hlanguage := language_steps (atomMatches toLocaleLowerCase ignoreCase) hbounds
  unfold matchesSafeRegex
  rw [StepMatching.matchesSteps_iff, hsteps, List.nil_append, hlanguage, hend]

theorem matchesSafeRegex_iff_twoOrMore :
    ∃ pieces, Reads (afterCaret (js "a\x7b2,\x7d$")) pieces (endsWithDollar (js "a\x7b2,\x7d$")) ∧
      ∀ value, matchesSafeRegex (fun u => [u])
          ⟨false, true, false, [⟨.required, .literal 0x61⟩, ⟨.required, .literal 0x61⟩, ⟨.star, .literal 0x61⟩]⟩ value = true ↔
        ∃ before block after, value = before ++ block ++ after ∧
          (startsWithCaret (js "a\x7b2,\x7d$") = true → before = []) ∧
          (endsWithDollar (js "a\x7b2,\x7d$") = true → after = []) ∧
          block ∈ (pieces.map (Piece.language (atomMatches (fun u => [u]) false))).prod :=
  matchesSafeRegex_iff (show compileSafeRegex (js "a\x7b2,\x7d$") false = .ok _ from rfl) _

end SafeRegex
