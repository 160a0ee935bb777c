import CfFrappe.Lib.Record
import Mathlib.Data.List.Infix
import Mathlib.Logic.Relation

set_option autoImplicit false

/-! # Depth-first search

The search that visits the edges of a node before the node itself, with a set of the keys that are being
visited and a set of those that have been. It meets a key that is being visited only on a cycle
(`visit_spec`), and the nodes it leaves in order have their edges before them (`Search.Good`); so a search
that visits all nodes succeeds exactly on the graphs without cycles and without missing keys
(`visitAll_isOk_iff`). The depth of the recursion is bounded by fuel, of which the number of nodes is enough.
-/

namespace DepthFirst

/-- Nodes that name others by their keys, and what is thrown at a cycle and at a missing key. -/
structure Graph (κ ν ε : Type) where
  key : ν → κ
  edges : ν → List κ
  nodes : List ν
  cycle : ν → ε
  missing : ν → κ → ε

variable {κ ν ε : Type}

/-- The state of a search. -/
structure Search (κ ν : Type) where
  visiting : List κ := []
  visited : List κ := []
  ordered : List ν := []

namespace Graph

variable (G : Graph κ ν ε)

def find [DecidableEq κ] (key : κ) : Option ν := G.nodes.find? (fun node => G.key node == key)

/-- One key names another. -/
def Edge (a b : κ) : Prop := ∃ node ∈ G.nodes, G.key node = a ∧ b ∈ G.edges node

def Acyclic : Prop := ∀ a, ¬Relation.TransGen G.Edge a a

/-- Every key that is named is there. -/
def Complete [DecidableEq κ] : Prop := ∀ node ∈ G.nodes, ∀ key ∈ G.edges node, (G.find key).isSome

/-- The keys of the nodes are different. -/
def Distinct : Prop := (G.nodes.map G.key).Nodup

end Graph

/-! ## The search -/

section

variable [DecidableEq κ] (G : Graph κ ν ε)

/-- The edges of a node, one after the other; `none` if a visit runs out of fuel. -/
def visitEdges (visitNode : ν → Search κ ν → Option (Except ε (Search κ ν))) (node : ν) :
    List κ → Search κ ν → Option (Except ε (Search κ ν))
  | [], search => some (.ok search)
  | key :: keys, search =>
    match G.find key with
    | none => some (.error (G.missing node key))
    | some next =>
      match visitNode next search with
      | some (.ok search) => visitEdges visitNode node keys search
      | stopped => stopped

def visit : Nat → ν → Search κ ν → Option (Except ε (Search κ ν))
  | 0, _, _ => none
  | fuel + 1, node, search =>
    let key := G.key node
    if search.visited.contains key then some (.ok search)
    else if search.visiting.contains key then some (.error (G.cycle node))
    else
      match visitEdges G (visit fuel) node (G.edges node) { search with visiting := key :: search.visiting } with
      | some (.ok search) =>
        some (.ok
          { visiting := search.visiting.filter (· ≠ key), visited := key :: search.visited
            ordered := search.ordered ++ [node] })
      | stopped => stopped

/-- Nodes one after the other. -/
def visitAll (fuel : Nat) : List ν → Search κ ν → Option (Except ε (Search κ ν))
  | [], search => some (.ok search)
  | node :: nodes, search =>
    match visit G fuel node search with
    | some (.ok search) => visitAll fuel nodes search
    | stopped => stopped

end

/-! ## Fuel -/

section

variable [DecidableEq κ] {G : Graph κ ν ε}

/-- With visits that return at least as often, the edges return what they returned. -/
theorem visitEdges_mono {visitNode visitNode' : ν → Search κ ν → Option (Except ε (Search κ ν))}
    (hvisit : ∀ next search result, visitNode next search = some result → visitNode' next search = some result)
    {node : ν} {keys : List κ} {search : Search κ ν} {result : Except ε (Search κ ν)}
    (h : visitEdges G visitNode node keys search = some result) :
    visitEdges G visitNode' node keys search = some result := by
  induction keys generalizing search with
  | nil => exact h
  | cons key keys ih =>
    unfold visitEdges at h ⊢
    cases hfind : G.find key with
    | none =>
      rw [hfind] at h
      exact h
    | some next =>
      rw [hfind] at h
      dsimp only at h ⊢
      cases hstep : visitNode next search with
      | none =>
        rw [hstep] at h
        cases h
      | some step =>
        rw [hvisit next search step hstep]
        rw [hstep] at h
        cases step with
        | error e => exact h
        | ok after => exact ih h

/-- More fuel does not change what a visit returns. -/
theorem visit_succ {fuel : Nat} {node : ν} {search : Search κ ν} {result : Except ε (Search κ ν)}
    (h : visit G fuel node search = some result) : visit G (fuel + 1) node search = some result := by
  induction fuel generalizing node search result with
  | zero => cases h
  | succ fuel ih =>
    unfold visit at h ⊢
    dsimp only at h ⊢
    split_ifs at h ⊢
    · exact h
    · exact h
    · cases hedges : visitEdges G (visit G fuel) node (G.edges node)
          { search with visiting := G.key node :: search.visiting } with
      | none =>
        rw [hedges] at h
        cases h
      | some step =>
        rw [visitEdges_mono (fun next search result => ih) hedges]
        rw [hedges] at h
        exact h

theorem visitAll_succ {fuel : Nat} {nodes : List ν} {search : Search κ ν} {result : Except ε (Search κ ν)}
    (h : visitAll G fuel nodes search = some result) : visitAll G (fuel + 1) nodes search = some result := by
  induction nodes generalizing search with
  | nil => exact h
  | cons node nodes ih =>
    unfold visitAll at h ⊢
    cases hstep : visit G fuel node search with
    | none =>
      rw [hstep] at h
      cases h
    | some step =>
      rw [visit_succ hstep]
      rw [hstep] at h
      cases step with
      | error e => exact h
      | ok after => exact ih h

theorem visitAll_mono {fuel fuel' : Nat} (hle : fuel ≤ fuel') {nodes : List ν} {search : Search κ ν}
    {result : Except ε (Search κ ν)} (h : visitAll G fuel nodes search = some result) :
    visitAll G fuel' nodes search = some result := by
  induction hle with
  | refl => exact h
  | step _ ih => exact visitAll_succ ih

end

/-! ## What a search keeps -/

section

variable {G : Graph κ ν ε}

/-- **What holds of a search**: the nodes in order are those that have been visited, each once, and what they
name is before them. -/
structure Search.Good (G : Graph κ ν ε) (search : Search κ ν) : Prop where
  visited : ∀ key, key ∈ search.visited ↔ key ∈ search.ordered.map G.key
  disjoint : ∀ key ∈ search.visiting, key ∉ search.visited
  nodes : ∀ node ∈ search.ordered, node ∈ G.nodes
  nodup : (search.ordered.map G.key).Nodup
  closed : ∀ before node after, search.ordered = before ++ node :: after →
    ∀ key ∈ G.edges node, key ∈ before.map G.key

/-- What a visit changes: nodes are added to the order. -/
structure Search.Extends (search next : Search κ ν) : Prop where
  visiting : next.visiting = search.visiting
  ordered : search.ordered <+: next.ordered

theorem Search.Extends.refl (search : Search κ ν) : search.Extends search := ⟨rfl, List.prefix_refl _⟩

theorem Search.Extends.trans {first second third : Search κ ν} (h : first.Extends second) (h' : second.Extends third) :
    first.Extends third :=
  ⟨h'.visiting.trans h.visiting, h.ordered.trans h'.ordered⟩

/-- A visited key stays visited. -/
theorem Search.Good.visited_of_extends {search next : Search κ ν} (h : search.Good G) (h' : next.Good G)
    (hext : search.Extends next) {key : κ} (hkey : key ∈ search.visited) : key ∈ next.visited := by
  rw [h.visited] at hkey
  rw [h'.visited]
  exact (hext.ordered.map G.key).subset hkey

/-- Why a search throws. -/
inductive Blocked [DecidableEq κ] (G : Graph κ ν ε) : Prop
  | cycle (a : κ) (h : Relation.TransGen G.Edge a a)
  | missing (node : ν) (hnode : node ∈ G.nodes) (key : κ) (hkey : key ∈ G.edges node) (h : G.find key = none)

/-- What comes of a visit: more order, or a reason to throw; fuel does not run out. -/
inductive Outcome [DecidableEq κ] (G : Graph κ ν ε) (search : Search κ ν) (done : Search κ ν → Prop) :
    Option (Except ε (Search κ ν)) → Prop
  | ok {next : Search κ ν} (good : next.Good G) (extends' : search.Extends next) (h : done next) :
      Outcome G search done (some (.ok next))
  | error (e : ε) (h : Blocked G) : Outcome G search done (some (.error e))

theorem Graph.find_mem [DecidableEq κ] {key : κ} {node : ν} (h : G.find key = some node) : node ∈ G.nodes ∧ G.key node = key := by
  constructor
  · exact List.mem_of_find?_eq_some h
  · have hkey := List.find?_some h
    simpa using hkey

/-- What may be visited next: the keys being visited lead to it, and there is fuel for the others. -/
structure Reachable [DecidableEq κ] (G : Graph κ ν ε) (search : Search κ ν) (node : ν) (fuel : Nat) : Prop where
  mem : node ∈ G.nodes
  path : ∀ key ∈ search.visiting, Relation.TransGen G.Edge key (G.key node)
  fuel : (G.nodes.filter (fun node => !search.visiting.contains (G.key node))).length < fuel

/-- Adding the node itself to a good order. -/
theorem Search.Good.concat {search : Search κ ν} (h : search.Good G) {node : ν} (hnode : node ∈ G.nodes)
    (hnew : G.key node ∉ search.visited) (hedges : ∀ key ∈ G.edges node, key ∈ search.visited)
    {visiting : List κ} (hvisiting : ∀ key ∈ visiting, key ∉ search.visited ∧ key ≠ G.key node) :
    Search.Good G { visiting, visited := G.key node :: search.visited, ordered := search.ordered ++ [node] } where
  visited := by
    intro key
    simp only [List.mem_cons, List.map_append, List.map_cons, List.map_nil, List.mem_append, List.not_mem_nil,
      or_false, h.visited]
    exact or_comm
  disjoint := by
    intro key hkey
    obtain ⟨hunvisited, hne⟩ := hvisiting key hkey
    rw [List.mem_cons, not_or]
    exact ⟨hne, hunvisited⟩
  nodes := by
    intro other hother
    rcases List.mem_append.mp hother with hold | hlast
    · exact h.nodes other hold
    · rw [List.mem_singleton.mp hlast]
      exact hnode
  nodup := by
    rw [List.map_append, List.map_singleton, ← List.concat_eq_append, List.nodup_concat]
    exact ⟨fun hmem => hnew ((h.visited _).mpr hmem), h.nodup⟩
  closed := by
    intro before other after hsplit key hkey
    -- the node is the last one, or one of the order before
    rcases List.eq_nil_or_concat after with rfl | ⟨after', last, rfl⟩
    · obtain ⟨rfl, hlast⟩ := List.append_inj' hsplit rfl
      have hother : node = other := by simpa using hlast
      subst hother
      exact (h.visited key).mp (hedges key hkey)
    · rw [List.concat_eq_append, ← List.cons_append, ← List.append_assoc] at hsplit
      obtain ⟨hsplit, -⟩ := List.append_inj' hsplit rfl
      exact h.closed before other after' hsplit key hkey

/-- With one more key being visited there are fewer nodes left. -/
theorem length_filter_visiting [DecidableEq κ] {visiting : List κ} {node : ν} (hnode : node ∈ G.nodes)
    (hnew : G.key node ∉ visiting) :
    (G.nodes.filter (fun other => !(G.key node :: visiting).contains (G.key other))).length <
      (G.nodes.filter (fun other => !visiting.contains (G.key other))).length := by
  have hsub : ((G.nodes.filter (fun other => !(G.key node :: visiting).contains (G.key other))).Sublist
      (G.nodes.filter (fun other => !visiting.contains (G.key other)))) := by
    apply List.monotone_filter_right
    intro other hother
    simp only [List.contains_eq_mem, List.mem_cons, Bool.not_eq_true', decide_eq_false_iff_not, not_or] at hother ⊢
    exact hother.2
  apply lt_of_le_of_ne hsub.length_le
  intro hlength
  have hsame := hsub.eq_of_length hlength
  have hmem : node ∈ G.nodes.filter (fun other => !visiting.contains (G.key other)) := by
    simp [hnode, hnew]
  rw [← hsame] at hmem
  simp at hmem

variable [DecidableEq κ]

/-- The edges of a node that is being visited. -/
theorem visitEdges_spec {fuel : Nat} {visitNode : ν → Search κ ν → Option (Except ε (Search κ ν))}
    (hvisit : ∀ next search, Reachable G search next fuel → search.Good G →
      Outcome G search (fun after => G.key next ∈ after.visited) (visitNode next search))
    {node : ν} (hnode : node ∈ G.nodes) {visiting : List κ}
    (hpath : ∀ key ∈ visiting, Relation.TransGen G.Edge key (G.key node))
    (hfuel : (G.nodes.filter (fun other => !(G.key node :: visiting).contains (G.key other))).length < fuel)
    (keys : List κ) (hkeys : ∀ key ∈ keys, key ∈ G.edges node) {search : Search κ ν} (hgood : search.Good G)
    (hvisiting : search.visiting = G.key node :: visiting) :
    Outcome G search (fun after => ∀ key ∈ keys, key ∈ after.visited) (visitEdges G visitNode node keys search) := by
  induction keys generalizing search with
  | nil => exact .ok hgood (Search.Extends.refl search) (by simp)
  | cons key keys ih =>
    have hedge : key ∈ G.edges node := hkeys key List.mem_cons_self
    unfold visitEdges
    cases hfind : G.find key with
    | none => exact .error _ (.missing node hnode key hedge hfind)
    | some next =>
      obtain ⟨hnext, hkey⟩ := Graph.find_mem hfind
      have hsingle : Relation.TransGen G.Edge (G.key node) (G.key next) :=
        Relation.TransGen.single ⟨node, hnode, rfl, hkey ▸ hedge⟩
      -- there is a path from every node being visited to the next one
      have hreachable : Reachable G search next fuel := by
        refine ⟨hnext, ?_, by rwa [hvisiting]⟩
        intro other hother
        rw [hvisiting] at hother
        rcases List.mem_cons.mp hother with rfl | hother
        · exact hsingle
        · exact (hpath other hother).trans hsingle
      have hstep := hvisit next search hreachable hgood
      dsimp only
      generalize visitNode next search = result at hstep
      cases hstep with
      | error e hblocked => exact .error e hblocked
      | @ok after hafter hextends hdone =>
        have hrest := ih (fun key hkey => hkeys key (List.mem_cons_of_mem _ hkey)) hafter
          (hextends.visiting.trans hvisiting)
        dsimp only
        generalize visitEdges G visitNode node keys after = result at hrest
        cases hrest with
        | error e hblocked => exact .error e hblocked
        | @ok last hlast hextends' hall =>
          refine .ok hlast (hextends.trans hextends') ?_
          intro other hother
          rcases List.mem_cons.mp hother with rfl | hother
          · rw [← hkey]
            exact hafter.visited_of_extends hlast hextends' hdone
          · exact hall other hother

/-- **A visit**: it puts the node in order, or finds a cycle or a missing key. By induction on the fuel, which
bounds the nodes that are not being visited. -/
theorem visit_spec {fuel : Nat} {node : ν} {search : Search κ ν} (hreachable : Reachable G search node fuel)
    (hgood : search.Good G) :
    Outcome G search (fun after => G.key node ∈ after.visited) (visit G fuel node search) := by
  induction fuel generalizing node search with
  | zero => exact absurd hreachable.fuel (Nat.not_lt_zero _)
  | succ fuel ih =>
    unfold visit
    dsimp only
    by_cases hvisited : G.key node ∈ search.visited
    · rw [if_pos (List.contains_iff_mem.mpr hvisited)]
      exact .ok hgood (Search.Extends.refl search) hvisited
    · rw [if_neg (fun h => hvisited (List.contains_iff_mem.mp h))]
      by_cases hvisiting : G.key node ∈ search.visiting
      · rw [if_pos (List.contains_iff_mem.mpr hvisiting)]
        exact .error _ (.cycle (G.key node) (hreachable.path _ hvisiting))
      · rw [if_neg (fun h => hvisiting (List.contains_iff_mem.mp h))]
        have hfewer := length_filter_visiting hreachable.mem hvisiting
        have hfuel := hreachable.fuel
        -- the node is being visited while its edges are
        have hgood' : Search.Good G { search with visiting := G.key node :: search.visiting } := by
          refine ⟨hgood.visited, ?_, hgood.nodes, hgood.nodup, hgood.closed⟩
          intro key hkey
          rcases List.mem_cons.mp hkey with rfl | hkey
          · exact hvisited
          · exact hgood.disjoint key hkey
        have hedges := visitEdges_spec (fun next search => ih) hreachable.mem hreachable.path
          (by omega) (G.edges node) (fun key hkey => hkey) hgood' rfl
        generalize visitEdges G (visit G fuel) node (G.edges node)
          { search with visiting := G.key node :: search.visiting } = result at hedges
        cases hedges with
        | error e hblocked => exact .error e hblocked
        | @ok after hafter hextends hall =>
          have hstack : after.visiting = G.key node :: search.visiting := hextends.visiting
          -- the visits of its edges have left the stack as it was, with the node on it
          have hunvisited : G.key node ∉ after.visited := by
            apply hafter.disjoint
            rw [hstack]
            exact List.mem_cons_self
          have hrestored : after.visiting.filter (· ≠ G.key node) = search.visiting := by
            rw [hstack, List.filter_cons_of_neg (by simp), List.filter_eq_self]
            intro key hkey
            rw [decide_eq_true_eq]
            rintro rfl
            exact hvisiting hkey
          dsimp only
          rw [hrestored]
          refine .ok (hafter.concat hreachable.mem hunvisited hall ?_) ⟨rfl, ?_⟩ List.mem_cons_self
          · intro key hkey
            constructor
            · apply hafter.disjoint
              rw [hstack]
              exact List.mem_cons_of_mem _ hkey
            · rintro rfl
              exact hvisiting hkey
          · exact hextends.ordered.trans (List.prefix_append _ _)

/-- Nodes one after the other, with nothing being visited. -/
theorem visitAll_spec {fuel : Nat} (hfuel : G.nodes.length < fuel) {nodes : List ν} (hnodes : ∀ node ∈ nodes, node ∈ G.nodes)
    {search : Search κ ν} (hgood : search.Good G) (hvisiting : search.visiting = []) :
    Outcome G search (fun after => ∀ node ∈ nodes, G.key node ∈ after.visited) (visitAll G fuel nodes search) := by
  induction nodes generalizing search with
  | nil => exact .ok hgood (Search.Extends.refl search) (by simp)
  | cons node nodes ih =>
    have hreachable : Reachable G search node fuel := by
      refine ⟨hnodes node List.mem_cons_self, by simp [hvisiting], ?_⟩
      have hlength := (List.filter_sublist (p := fun node => !search.visiting.contains (G.key node))
        (l := G.nodes)).length_le
      omega
    have hstep := visit_spec hreachable hgood
    unfold visitAll
    generalize visit G fuel node search = result at hstep
    cases hstep with
    | error e hblocked => exact .error e hblocked
    | @ok after hafter hextends hdone =>
      have hrest := ih (fun node hnode => hnodes node (List.mem_cons_of_mem _ hnode)) hafter
        (hextends.visiting.trans hvisiting)
      dsimp only
      generalize visitAll G fuel nodes after = result at hrest
      cases hrest with
      | error e hblocked => exact .error e hblocked
      | @ok last hlast hextends' hall =>
        refine .ok hlast (hextends.trans hextends') ?_
        intro other hother
        rcases List.mem_cons.mp hother with rfl | hother
        · exact hafter.visited_of_extends hlast hextends' hdone
        · exact hall other hother

/-! ## Search from all nodes -/

/-- There is no good order of a graph that a search cannot finish. -/
theorem Blocked.not_sortable (h : Blocked G) : ¬(G.Acyclic ∧ G.Complete) := by
  rintro ⟨hacyclic, hcomplete⟩
  cases h with
  | cycle a hcycle => exact hacyclic a hcycle
  | missing node hnode key hkey hmissing =>
    have hfound := hcomplete node hnode key hkey
    rw [hmissing] at hfound
    cases hfound

omit [DecidableEq κ] in
/-- With different keys, the node of a key is the only one that names for it. -/
theorem Search.Good.mem_before_of_edge {search : Search κ ν} (h : search.Good G) (hdistinct : G.Distinct)
    {before after : List ν} {node : ν} (hsplit : search.ordered = before ++ node :: after) {key : κ}
    (hedge : G.Edge (G.key node) key) : key ∈ before.map G.key := by
  obtain ⟨other, hother, hkey, hmem⟩ := hedge
  have hnode : node ∈ G.nodes := by
    apply h.nodes
    rw [hsplit]
    exact List.mem_append_right _ List.mem_cons_self
  have hsame : other = node := List.inj_on_of_nodup_map hdistinct hother hnode hkey
  rw [hsame] at hmem
  exact h.closed before node after hsplit key hmem

omit [DecidableEq κ] in
/-- **Everything a node leads to is before it.** By induction on the way there. -/
theorem Search.Good.mem_before_of_transGen {search : Search κ ν} (h : search.Good G) (hdistinct : G.Distinct)
    {before after : List ν} {node : ν} (hsplit : search.ordered = before ++ node :: after) {key : κ}
    (hway : Relation.TransGen G.Edge (G.key node) key) : key ∈ before.map G.key := by
  induction hway with
  | single hedge => exact h.mem_before_of_edge hdistinct hsplit hedge
  | tail _ hedge ih =>
    obtain ⟨middle, hmiddle, hkey⟩ := List.mem_map.mp ih
    obtain ⟨first, second, hbefore⟩ := List.append_of_mem hmiddle
    rw [← hkey] at hedge
    have hsplit' : search.ordered = first ++ middle :: (second ++ node :: after) := by
      rw [hsplit, hbefore]
      simp
    have hfirst := h.mem_before_of_edge hdistinct hsplit' hedge
    rw [hbefore, List.map_append]
    exact List.mem_append_left _ hfirst

section

variable {search : Search κ ν} (h : search.Good G) (hall : ∀ node ∈ G.nodes, G.key node ∈ search.visited)
include h hall

omit [DecidableEq κ] in
/-- A finished search has every node in order. -/
theorem Search.Good.exists_split {node : ν} (hnode : node ∈ G.nodes) :
    ∃ before other after, search.ordered = before ++ other :: after ∧ G.key other = G.key node := by
  have hvisited := (h.visited _).mp (hall node hnode)
  obtain ⟨other, hother, hkey⟩ := List.mem_map.mp hvisited
  obtain ⟨before, after, hsplit⟩ := List.append_of_mem hother
  exact ⟨before, other, after, hsplit, hkey⟩

omit [DecidableEq κ] in
theorem Search.Good.acyclic (hdistinct : G.Distinct) : G.Acyclic := by
  intro a hcycle
  -- the cycle starts at a node; its own key is then before it
  have hfirst : ∃ b, G.Edge a b := by
    cases hcycle using Relation.TransGen.head_induction_on with
    | single hedge => exact ⟨_, hedge⟩
    | head hedge _ _ => exact ⟨_, hedge⟩
  obtain ⟨b, node, hnode, rfl, -⟩ := hfirst
  obtain ⟨before, other, after, hsplit, hkey⟩ := h.exists_split hall hnode
  rw [← hkey] at hcycle
  have hmem := h.mem_before_of_transGen hdistinct hsplit hcycle
  have hnodup := h.nodup
  rw [hsplit, List.map_append, List.map_cons, List.nodup_append] at hnodup
  exact hnodup.2.2 _ hmem _ List.mem_cons_self rfl

theorem Search.Good.complete (hdistinct : G.Distinct) : G.Complete := by
  intro node hnode key hkey
  obtain ⟨before, other, after, hsplit, hsame⟩ := h.exists_split hall hnode
  have hmem := h.mem_before_of_edge hdistinct hsplit ⟨node, hnode, hsame.symm, hkey⟩
  obtain ⟨named, hnamed, hkey'⟩ := List.mem_map.mp hmem
  have hnode' : named ∈ G.nodes := by
    apply h.nodes
    rw [hsplit]
    exact List.mem_append_left _ hnamed
  unfold Graph.find
  rw [List.find?_isSome]
  exact ⟨named, hnode', by simp [hkey']⟩

omit [DecidableEq κ] in
theorem Search.Good.perm (hdistinct : G.Distinct) : search.ordered.Perm G.nodes := by
  rw [List.perm_ext_iff_of_nodup (List.Nodup.of_map _ h.nodup) (List.Nodup.of_map _ hdistinct)]
  intro node
  constructor
  · exact h.nodes node
  · intro hnode
    have hvisited := (h.visited _).mp (hall node hnode)
    obtain ⟨other, hother, hkey⟩ := List.mem_map.mp hvisited
    have hsame := List.inj_on_of_nodup_map hdistinct (h.nodes other hother) hnode hkey
    rwa [hsame] at hother

end

omit [DecidableEq κ] in
theorem good_empty : Search.Good G {} where
  visited := by simp
  disjoint := by simp
  nodes := by simp
  nodup := by simp
  closed := by simp

/-- **A search from all nodes ends**, and without an error exactly on a graph that has an order. -/
theorem visitAll_isOk_iff (hdistinct : G.Distinct) {fuel : Nat} (hfuel : G.nodes.length < fuel) :
    ∃ result, visitAll G fuel G.nodes {} = some result ∧ (result.isOk ↔ G.Acyclic ∧ G.Complete) := by
  have hall := visitAll_spec hfuel (fun node hnode => hnode) (good_empty (G := G)) rfl
  generalize visitAll G fuel G.nodes {} = result at hall
  cases hall with
  | @ok next hgood hextends hvisited =>
    have hacyclic := hgood.acyclic hvisited hdistinct
    have hcomplete := hgood.complete hvisited hdistinct
    exact ⟨_, rfl, iff_of_true rfl ⟨hacyclic, hcomplete⟩⟩
  | error e hblocked => exact ⟨_, rfl, iff_of_false (by simp [Except.isOk, Except.toBool]) hblocked.not_sortable⟩

/-- What a search from all nodes returns: the nodes, each after everything it leads to. -/
theorem visitAll_sorted (hdistinct : G.Distinct) {fuel : Nat} (hfuel : G.nodes.length < fuel) {search : Search κ ν}
    (hsearch : visitAll G fuel G.nodes {} = some (.ok search)) :
    search.ordered.Perm G.nodes ∧ ∀ before node after, search.ordered = before ++ node :: after →
      ∀ key, Relation.TransGen G.Edge (G.key node) key → key ∈ before.map G.key := by
  have hall := visitAll_spec hfuel (fun node hnode => hnode) (good_empty (G := G)) rfl
  rw [hsearch] at hall
  cases hall with
  | ok hgood hextends hvisited =>
    constructor
    · exact hgood.perm hvisited hdistinct
    · intro before node after hsplit key hway
      exact hgood.mem_before_of_transGen hdistinct hsplit hway

end

end DepthFirst
