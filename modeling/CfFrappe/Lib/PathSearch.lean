import Mathlib.Data.List.Basic
import Mathlib.Data.List.Infix
import Mathlib.Logic.Relation

set_option autoImplicit false

/-! # Search for cycles with a path

The search from one key that carries the path of each branch and one set of visited keys for all branches. It stops
at an edge to a key of its path. A visited key that is not on the path is done: everything it leads to is done, and
no cycle goes through it (`Good`). So a search stops with an error exactly if a cycle can be reached from its key
(`search_isOk_iff`). The depth of the recursion is bounded by fuel, of which one more than the number of edges is
enough (`visit_eq_search`).

An acyclic graph that gets edges from one key has a cycle only if one can be reached from this key
(`Graph.acyclic_of_edges_from`).
-/

namespace PathSearch

open Relation

/-- Edges between keys, and what is thrown for an edge that closes a path. -/
structure Graph (κ η ε : Type) where
  edges : List η
  source : η → κ
  target : η → κ
  cycle : η → List κ → ε

variable {κ η ε : Type}

namespace Graph

variable (G : Graph κ η ε)

def Edge (a b : κ) : Prop := ∃ edge ∈ G.edges, G.source edge = a ∧ G.target edge = b

def Acyclic : Prop := ∀ a, ¬ TransGen G.Edge a a

/-- A cycle can be reached from a key. -/
def ReachesCycle (root : κ) : Prop := ∃ a, ReflTransGen G.Edge root a ∧ TransGen G.Edge a a

variable {G} {G' : Graph κ η ε}

theorem Acyclic.not_reachesCycle (h : G.Acyclic) (root : κ) : ¬ G.ReachesCycle root := by
  rintro ⟨a, _, hcycle⟩
  exact h a hcycle

/-- Edges that are taken away make no cycle. -/
theorem Acyclic.of_edges (h : G.Acyclic) (hedges : ∀ a b, G'.Edge a b → G.Edge a b) : G'.Acyclic :=
  fun a hcycle => h a (TransGen.mono hedges a a hcycle)

/-- **New edges of one key** make a cycle only where this key reaches one. -/
theorem acyclic_of_edges_from (h : G.Acyclic) {root : κ} (hedges : ∀ a b, G'.Edge a b → G.Edge a b ∨ a = root)
    (hroot : ¬ G'.ReachesCycle root) : G'.Acyclic := by
  -- a way has old edges only, or it passes the key
  have hways : ∀ a b, TransGen G'.Edge a b →
      TransGen G.Edge a b ∨ ReflTransGen G'.Edge a root ∧ TransGen G'.Edge root b := by
    intro a b hway
    induction hway with
    | single hedge =>
      rcases hedges _ _ hedge with hold | rfl
      · exact Or.inl (.single hold)
      · exact Or.inr ⟨.refl, .single hedge⟩
    | tail hway hedge ih =>
      rcases ih with hold | ⟨hto, hfrom⟩
      · rcases hedges _ _ hedge with hold' | rfl
        · exact Or.inl (hold.tail hold')
        · exact Or.inr ⟨hway.to_reflTransGen, .single hedge⟩
      · exact Or.inr ⟨hto, hfrom.tail hedge⟩
  intro a hcycle
  rcases hways a a hcycle with hold | ⟨hto, hfrom⟩
  · exact h a hold
  · exact hroot ⟨root, .refl, hfrom.trans_left hto⟩

end Graph

/-! ## The search -/

section

variable [DecidableEq κ] (G : Graph κ η ε)

/-- The edges of the last key of a path, one after the other; `none` if a visit runs out of fuel. -/
def visitEdges (visitNext : List κ → κ → List κ → Option (Except ε (List κ))) (path : List κ) :
    List η → List κ → Option (Except ε (List κ))
  | [], visited => some (.ok visited)
  | edge :: edges, visited =>
    if path.contains (G.target edge) then
      some (.error (G.cycle edge (path.dropWhile (· != G.target edge) ++ [G.target edge])))
    else if visited.contains (G.target edge) then visitEdges visitNext path edges visited
    else
      match visitNext visited (G.target edge) (path ++ [G.target edge]) with
      | some (.ok visited) => visitEdges visitNext path edges visited
      | stopped => stopped

/-- The keys that have been visited after a visit. -/
def visit : Nat → List κ → κ → List κ → Option (Except ε (List κ))
  | 0, _, _, _ => none
  | fuel + 1, visited, key, path =>
    visitEdges G (visit fuel) path (G.edges.filter (fun edge => G.source edge == key)) (key :: visited)

variable {G}

theorem visitEdges_mono {f g : List κ → κ → List κ → Option (Except ε (List κ))}
    (h : ∀ visited key path result, f visited key path = some result → g visited key path = some result)
    {path : List κ} {edges : List η} {visited : List κ} {result : Except ε (List κ)}
    (hresult : visitEdges G f path edges visited = some result) : visitEdges G g path edges visited = some result := by
  induction edges generalizing visited with
  | nil => exact hresult
  | cons edge edges ih =>
    unfold visitEdges at hresult ⊢
    split_ifs at hresult ⊢
    · exact hresult
    · exact ih hresult
    · cases hnext : f visited (G.target edge) (path ++ [G.target edge]) with
      | none =>
        rw [hnext] at hresult
        cases hresult
      | some next =>
        rw [hnext] at hresult
        rw [h _ _ _ _ hnext]
        cases next with
        | error e => exact hresult
        | ok after => exact ih hresult

/-- More fuel makes no difference to a visit that ends. -/
theorem visit_mono {fuel fuel' : Nat} (hle : fuel ≤ fuel') {visited : List κ} {key : κ} {path : List κ}
    {result : Except ε (List κ)} (h : visit G fuel visited key path = some result) :
    visit G fuel' visited key path = some result := by
  induction fuel generalizing fuel' visited key path result with
  | zero => cases h
  | succ fuel ih =>
    obtain ⟨n, rfl⟩ : ∃ n, fuel' = n + 1 := ⟨fuel' - 1, by omega⟩
    exact visitEdges_mono (fun visited key path result hnext => ih (by omega) hnext) h

/-! ## What a visit leaves -/

/-- Visited keys that are not on the path are done. -/
structure Good (G : Graph κ η ε) (path seen : List κ) : Prop where
  visited : ∀ a ∈ path, a ∈ seen
  closed : ∀ a ∈ seen, a ∉ path → ∀ b, G.Edge a b → b ∈ seen ∧ b ∉ path
  acyclic : ∀ a ∈ seen, a ∉ path → ¬ TransGen G.Edge a a

omit [DecidableEq κ] in
theorem Good.nil : Good G [] [] :=
  ⟨fun _ h => h, fun _ h => absurd h List.not_mem_nil, fun _ h => absurd h List.not_mem_nil⟩

omit [DecidableEq κ] in
/-- What is done leads only to what is done. -/
theorem Good.reaches {path visited : List κ} (h : Good G path visited) {a b : κ} (ha : a ∈ visited) (hpath : a ∉ path)
    (hway : ReflTransGen G.Edge a b) : b ∈ visited ∧ b ∉ path := by
  induction hway with
  | refl => exact ⟨ha, hpath⟩
  | tail _ hedge ih => exact h.closed _ ih.1 ih.2 _ hedge

omit [DecidableEq κ] in
/-- A new key comes on the path. -/
theorem Good.enter {path visited : List κ} (h : Good G path visited) {key : κ} (hkey : key ∉ visited) :
    Good G (path ++ [key]) (key :: visited) := by
  have hdone : ∀ a ∈ key :: visited, a ∉ path ++ [key] → a ∈ visited ∧ a ∉ path := by
    intro a ha hpath
    rw [List.mem_append, List.mem_singleton, not_or] at hpath
    exact ⟨(List.mem_cons.mp ha).resolve_left hpath.2, hpath.1⟩
  constructor
  · intro a ha
    rcases List.mem_append.mp ha with hold | hnew
    · exact List.mem_cons_of_mem _ (h.visited a hold)
    · rw [List.mem_singleton.mp hnew]
      exact List.mem_cons_self
  · intro a ha hpath b hedge
    obtain ⟨hin, hout⟩ := hdone a ha hpath
    obtain ⟨hb, hb'⟩ := h.closed a hin hout b hedge
    refine ⟨List.mem_cons_of_mem _ hb, ?_⟩
    rw [List.mem_append, List.mem_singleton, not_or]
    refine ⟨hb', ?_⟩
    rintro rfl
    exact hkey hb
  · intro a ha hpath
    obtain ⟨hin, hout⟩ := hdone a ha hpath
    exact h.acyclic a hin hout

omit [DecidableEq κ] in
/-- **A key leaves the path** when all its edges lead to what is done. -/
theorem Good.leave {path visited : List κ} {key : κ} (h : Good G (path ++ [key]) visited)
    (hedges : ∀ b, G.Edge key b → b ∈ visited ∧ b ∉ path ++ [key]) : Good G path visited := by
  have hkey : key ∈ path ++ [key] := List.mem_append_right _ List.mem_cons_self
  have hshorter : ∀ b, b ∉ path ++ [key] → b ∉ path := fun b hb hin => hb (List.mem_append_left _ hin)
  constructor
  · exact fun a ha => h.visited a (List.mem_append_left _ ha)
  · intro a ha hpath b hedge
    by_cases heq : a = key
    · rw [heq] at hedge
      exact ⟨(hedges b hedge).1, hshorter b (hedges b hedge).2⟩
    · have hout : a ∉ path ++ [key] := by
        rw [List.mem_append, List.mem_singleton, not_or]
        exact ⟨hpath, heq⟩
      obtain ⟨hb, hb'⟩ := h.closed a ha hout b hedge
      exact ⟨hb, hshorter b hb'⟩
  · intro a ha hpath hcycle
    by_cases heq : a = key
    · -- the cycle would come back to the path from what is done
      rw [heq] at hcycle
      obtain ⟨b, hedge, hback⟩ := TransGen.head'_iff.mp hcycle
      obtain ⟨hb, hb'⟩ := hedges b hedge
      exact (h.reaches hb hb' hback).2 hkey
    · have hout : a ∉ path ++ [key] := by
        rw [List.mem_append, List.mem_singleton, not_or]
        exact ⟨hpath, heq⟩
      exact h.acyclic a ha hout hcycle

/-- How a visit ends: with more keys visited, or at a cycle. -/
inductive Outcome (G : Graph κ η ε) (root : κ) (path visited : List κ) (Done : List κ → Prop) :
    Option (Except ε (List κ)) → Prop
  | ok {after : List κ} (hgood : Good G path after) (hextends : visited ⊆ after) (hdone : Done after) :
      Outcome G root path visited Done (some (.ok after))
  | error (e : ε) (hcycle : G.ReachesCycle root) : Outcome G root path visited Done (some (.error e))

/-- The keys of a path are on the way from the root to its last key. -/
structure Way (G : Graph κ η ε) (root : κ) (path : List κ) (key : κ) : Prop where
  reached : ∀ a ∈ path, ReflTransGen G.Edge root a
  leads : ∀ a ∈ path, ReflTransGen G.Edge a key

theorem length_filter_unvisited {nodes visited : List κ} {key : κ} (hkey : key ∈ nodes) (hnew : key ∉ visited) :
    (nodes.filter (fun a => !(key :: visited).contains a)).length <
      (nodes.filter (fun a => !visited.contains a)).length := by
  have hsub : (nodes.filter (fun a => !(key :: visited).contains a)).Sublist
      (nodes.filter (fun a => !visited.contains a)) := by
    apply List.monotone_filter_right
    intro a ha
    simp only [List.contains_eq_mem, List.mem_cons, Bool.not_eq_true', decide_eq_false_iff_not, not_or] at ha ⊢
    exact ha.2
  apply lt_of_le_of_ne hsub.length_le
  intro hlength
  have hmem : key ∈ nodes.filter (fun a => !visited.contains a) := by simp [hkey, hnew]
  rw [← hsub.eq_of_length hlength] at hmem
  simp at hmem

theorem length_filter_unvisited_le (nodes : List κ) {visited after : List κ} (h : visited ⊆ after) :
    (nodes.filter (fun a => !after.contains a)).length ≤ (nodes.filter (fun a => !visited.contains a)).length := by
  apply List.Sublist.length_le
  apply List.monotone_filter_right
  intro a ha
  simp only [List.contains_eq_mem, Bool.not_eq_true', decide_eq_false_iff_not] at ha ⊢
  exact fun hin => ha (h hin)

/-- The edges of a key, with what a visit of the next key does. -/
theorem visitEdges_spec {root key : κ} {path nodes : List κ} {fuel : Nat}
    {visitNext : List κ → κ → List κ → Option (Except ε (List κ))}
    (hvisit : ∀ visited next, next ∈ nodes → next ∉ visited → Good G path visited → Way G root path next →
      ReflTransGen G.Edge root next → (nodes.filter (fun a => !visited.contains a)).length ≤ fuel →
      Outcome G root path visited (fun after => next ∈ after) (visitNext visited next (path ++ [next])))
    (hway : Way G root path key) (hkey : key ∈ path) (hnodes : ∀ edge ∈ G.edges, G.target edge ∈ nodes)
    {edges : List η} (hedges : ∀ edge ∈ edges, edge ∈ G.edges ∧ G.source edge = key) {visited : List κ}
    (hgood : Good G path visited) (hfuel : (nodes.filter (fun a => !visited.contains a)).length ≤ fuel) :
    Outcome G root path visited (fun after => ∀ edge ∈ edges, G.target edge ∈ after ∧ G.target edge ∉ path)
      (visitEdges G visitNext path edges visited) := by
  induction edges generalizing visited with
  | nil => exact .ok hgood (List.Subset.refl _) (fun edge hedge => by cases hedge)
  | cons edge edges ih =>
    have hrest : ∀ edge ∈ edges, edge ∈ G.edges ∧ G.source edge = key :=
      fun other hother => hedges other (List.mem_cons_of_mem _ hother)
    obtain ⟨hmem, hsource⟩ := hedges edge List.mem_cons_self
    have hstep : G.Edge key (G.target edge) := ⟨edge, hmem, hsource, rfl⟩
    unfold visitEdges
    by_cases hpath : G.target edge ∈ path
    · rw [if_pos (List.contains_iff_mem.mpr hpath)]
      -- back to the path, which leads here
      exact .error _ ⟨G.target edge, hway.reached _ hpath, TransGen.tail' (hway.leads _ hpath) hstep⟩
    · rw [if_neg (fun h => hpath (List.contains_iff_mem.mp h))]
      by_cases hvisited : G.target edge ∈ visited
      · rw [if_pos (List.contains_iff_mem.mpr hvisited)]
        have hafter := ih hrest hgood hfuel
        generalize visitEdges G visitNext path edges visited = result at hafter
        cases hafter with
        | error e hcycle => exact .error e hcycle
        | @ok after hgood' hextends hdone =>
          refine .ok hgood' hextends ?_
          intro other hother
          rcases List.mem_cons.mp hother with rfl | hother
          · exact ⟨hextends hvisited, hpath⟩
          · exact hdone other hother
      · rw [if_neg (fun h => hvisited (List.contains_iff_mem.mp h))]
        have hnext : Way G root path (G.target edge) := ⟨hway.reached, fun a ha => (hway.leads a ha).tail hstep⟩
        have hone := hvisit visited (G.target edge) (hnodes edge hmem) hvisited hgood hnext
          ((hway.reached key hkey).tail hstep) hfuel
        generalize visitNext visited (G.target edge) (path ++ [G.target edge]) = result at hone
        cases hone with
        | error e hcycle => exact .error e hcycle
        | @ok middle hgood' hextends hin =>
          have hfuel' := (length_filter_unvisited_le nodes hextends).trans hfuel
          have hafter := ih hrest hgood' hfuel'
          dsimp only
          generalize visitEdges G visitNext path edges middle = result at hafter
          cases hafter with
          | error e hcycle => exact .error e hcycle
          | @ok after hgood'' hextends' hdone =>
            refine .ok hgood'' (List.Subset.trans hextends hextends') ?_
            intro other hother
            rcases List.mem_cons.mp hother with rfl | hother
            · exact ⟨hextends' hin, hpath⟩
            · exact hdone other hother

/-- **A visit** ends with its key done, or at a cycle. By induction on the fuel, which bounds the keys that have not
been visited. -/
theorem visit_spec {root : κ} {nodes : List κ} (hnodes : ∀ edge ∈ G.edges, G.target edge ∈ nodes) {fuel : Nat}
    {visited : List κ} {key : κ} {path : List κ} (hkey : key ∈ nodes) (hnew : key ∉ visited)
    (hgood : Good G path visited) (hway : Way G root path key) (hreached : ReflTransGen G.Edge root key)
    (hfuel : (nodes.filter (fun a => !visited.contains a)).length ≤ fuel) :
    Outcome G root path visited (fun after => key ∈ after) (visit G fuel visited key (path ++ [key])) := by
  have hfewer := length_filter_unvisited hkey hnew
  induction fuel generalizing visited key path with
  | zero => omega
  | succ fuel ih =>
    have hway' : Way G root (path ++ [key]) key := by
      constructor
      · intro a ha
        rcases List.mem_append.mp ha with hold | hlast
        · exact hway.reached a hold
        · rw [List.mem_singleton.mp hlast]
          exact hreached
      · intro a ha
        rcases List.mem_append.mp ha with hold | hlast
        · exact hway.leads a hold
        · rw [List.mem_singleton.mp hlast]
    have hedges : ∀ edge ∈ G.edges.filter (fun edge => G.source edge == key), edge ∈ G.edges ∧ G.source edge = key := by
      intro edge hedge
      obtain ⟨hin, hsource⟩ := List.mem_filter.mp hedge
      exact ⟨hin, eq_of_beq hsource⟩
    -- the edges are followed with the node visited, on the path that ends in it
    have hall := visitEdges_spec
      (fun visited next hnext hnew hgood hway hreached hfuel =>
        ih hnext hnew hgood hway hreached hfuel (length_filter_unvisited hnext hnew))
      hway' (List.mem_append_right _ List.mem_cons_self) hnodes hedges (hgood.enter hnew) (by omega)
    unfold visit
    generalize visitEdges G (visit G fuel) (path ++ [key]) (G.edges.filter (fun edge => G.source edge == key))
      (key :: visited) = result at hall
    cases hall with
    | error e hcycle => exact .error e hcycle
    | @ok after hgood' hextends hdone =>
      refine .ok (hgood'.leave ?_) (fun a ha => hextends (List.mem_cons_of_mem _ ha)) (hextends List.mem_cons_self)
      rintro b ⟨edge, hedge, hsource, rfl⟩
      exact hdone edge (List.mem_filter.mpr ⟨hedge, beq_iff_eq.mpr hsource⟩)

/-! ## The search from a key -/

theorem outcome_root (root : κ) : Outcome G root [] [] (fun after => root ∈ after)
    (visit G (G.edges.length + 1) [] root [root]) := by
  have hnodes : ∀ edge ∈ G.edges, G.target edge ∈ root :: G.edges.map G.target :=
    fun edge hedge => List.mem_cons_of_mem _ (List.mem_map_of_mem hedge)
  have hfuel : ((root :: G.edges.map G.target).filter (fun a => !([] : List κ).contains a)).length ≤ G.edges.length + 1 := by
    have hle := List.length_filter_le (fun a => !([] : List κ).contains a) (root :: G.edges.map G.target)
    rw [List.length_cons, List.length_map] at hle
    exact hle
  exact visit_spec hnodes List.mem_cons_self List.not_mem_nil .nil
    ⟨fun _ h => absurd h List.not_mem_nil, fun _ h => absurd h List.not_mem_nil⟩ .refl hfuel

theorem visit_isSome (G : Graph κ η ε) (root : κ) : (visit G (G.edges.length + 1) [] root [root]).isSome = true := by
  have houtcome := outcome_root (G := G) root
  generalize visit G (G.edges.length + 1) [] root [root] = result at houtcome
  cases houtcome <;> rfl

/-- The search from a key: the keys that it has visited, or the error of an edge that closes a cycle. -/
def Graph.search (G : Graph κ η ε) (root : κ) : Except ε (List κ) :=
  (visit G (G.edges.length + 1) [] root [root]).get (visit_isSome G root)

/-- **The search ends**: with fuel for every edge and one more, a visit is the search. -/
theorem visit_eq_search (G : Graph κ η ε) (root : κ) {fuel : Nat} (hfuel : G.edges.length + 1 ≤ fuel) :
    visit G fuel [] root [root] = some (G.search root) := by
  apply visit_mono hfuel
  rw [Graph.search, Option.some_get]

/-- **The search succeeds exactly if no cycle can be reached.** -/
theorem search_isOk_iff (G : Graph κ η ε) (root : κ) : (G.search root).isOk = true ↔ ¬ G.ReachesCycle root := by
  have houtcome := outcome_root (G := G) root
  have hsearch := visit_eq_search G root (Nat.le_refl _)
  rw [hsearch] at houtcome
  generalize G.search root = result at houtcome
  cases houtcome with
  | error e hcycle => exact iff_of_false (by simp [Except.isOk, Except.toBool]) (not_not.mpr hcycle)
  | @ok after hgood hextends hroot =>
    refine iff_of_true rfl ?_
    rintro ⟨a, hreached, hcycle⟩
    obtain ⟨ha, ha'⟩ := hgood.reaches hroot List.not_mem_nil hreached
    exact hgood.acyclic a ha ha' hcycle

end

end PathSearch
