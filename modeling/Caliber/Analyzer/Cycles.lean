import Caliber.Analyzer.Records
import Caliber.Py.Builtins
import Mathlib.Data.List.Chain
import Mathlib.Data.List.Rotate

/-!
# The cycle detector

`detect_cycles` builds `graph = defaultdict(list)` from the edges and runs a
depth-first search from every key in insertion order, with a `visited` set, a
`rec_stack` set and the explicit `path` of the current call chain.  A neighbour
that is on `rec_stack` and on `path` closes a cycle, which the call returns at
once, without leaving `rec_stack`.  The caller of a nested call appends what it
returns; the top-level loop drops it.

The recursion is modelled with fuel; `detectCycles` gives more fuel than the
graph has nodes.  `detectCyclesChecked` runs the same search on Python's
stack, which raises `RecursionError` once a call chain is deeper than the
frames left under the recursion limit: it returns `detectCycles edges` or
raises, and it returns whenever there are as many frames as crates.
-/

namespace Caliber.Analyzer

open Caliber.Py

/-- `graph[edge.from_crate].append(edge.to_crate)` for each edge in turn. -/
def buildGraph (edges : List DependencyEdge) : List (String × List String) :=
  edges.foldl (fun g e ↦ dictModify g e.fromCrate [] (· ++ [e.toCrate])) []

/-- `graph[node]`: the neighbours, or `[]` for a node that is not a key.  The
`defaultdict` inserts that empty entry; no later lookup sees a difference, and
the top-level loop iterates a copy of the keys taken before. -/
def succs (graph : List (String × List String)) (node : String) : List String :=
  (dictGet graph node).getD []

/-- The mutable state of one run: `visited`, `rec_stack` and `cycles`. -/
structure DfsState where
  visited : List String
  recStack : List String
  cycles : List (List String)

/-- The loop `for neighbor in list(graph[node])` of one `dfs(node, path)` call.
`dfs` is the recursive call; the second component is the return value. -/
def dfsLoop (dfs : String → List String → DfsState → DfsState × Option (List String))
    (node : String) (path : List String) :
    List String → DfsState → DfsState × Option (List String)
  | [], st => ({ st with recStack := st.recStack.filter (· ≠ node) }, none)
  | nb :: nbs, st =>
      if nb ∉ st.visited then
        let call := dfs nb (path ++ [nb]) st
        let st' := match call.2 with
          | some c => { call.1 with cycles := call.1.cycles ++ [c] }
          | none => call.1
        dfsLoop dfs node path nbs st'
      else if nb ∈ st.recStack then
        if nb ∈ path then (st, some (path.drop (path.indexOf nb) ++ [nb]))
        else dfsLoop dfs node path nbs st
      else dfsLoop dfs node path nbs st

/-- `dfs(node, path)` with `fuel` levels of recursion left. -/
def dfs (graph : List (String × List String)) : ℕ → String → List String → DfsState →
    DfsState × Option (List String)
  | 0, _, _, st => (st, none)
  | fuel + 1, node, path, st =>
      dfsLoop (dfs graph fuel) node path (succs graph node)
        { st with visited := node :: st.visited, recStack := node :: st.recStack }

/-- `detect_cycles(edges)`.  A call chain visits each node once, so the number
of edge endpoints bounds its depth. -/
def detectCycles (edges : List DependencyEdge) : List (List String) :=
  let graph := buildGraph edges
  let fuel := 2 * edges.length + 1
  ((graph.map Prod.fst).foldl
    (fun st node ↦ if node ∈ st.visited then st else (dfs graph fuel node [node] st).1)
    ⟨[], [], []⟩).cycles

/-! ## The graph -/

/-- `from_crate → to_crate` is one of the edges. -/
def Edge (edges : List DependencyEdge) (a b : String) : Prop :=
  ∃ e ∈ edges, e.fromCrate = a ∧ e.toCrate = b

instance (edges : List DependencyEdge) (a b : String) : Decidable (Edge edges a b) :=
  decidable_of_iff (edges.any fun e ↦ e.fromCrate = a ∧ e.toCrate = b) (by simp [Edge])

theorem succs_foldl (edges : List DependencyEdge) (g₀ : List (String × List String))
    (a : String) :
    succs (edges.foldl (fun g e ↦ dictModify g e.fromCrate [] (· ++ [e.toCrate])) g₀) a =
      succs g₀ a ++ (edges.filter (·.fromCrate = a)).map (·.toCrate) := by
  induction edges generalizing g₀ with
  | nil => simp
  | cons e es ih =>
      rw [List.foldl_cons, ih]
      by_cases h : e.fromCrate = a
      · simp [succs, dictModify, h, List.filter_cons]
      · simp [succs, dictModify, h, List.filter_cons]

theorem succs_buildGraph (edges : List DependencyEdge) (a : String) :
    succs (buildGraph edges) a = (edges.filter (·.fromCrate = a)).map (·.toCrate) := by
  rw [buildGraph, succs_foldl]
  rfl

theorem edge_of_mem_succs {edges : List DependencyEdge} {a b : String}
    (h : b ∈ succs (buildGraph edges) a) : Edge edges a b := by
  simp only [succs_buildGraph, List.mem_map, List.mem_filter, decide_eq_true_eq] at h
  obtain ⟨e, ⟨he, rfl⟩, rfl⟩ := h
  exact ⟨e, he, rfl, rfl⟩

/-! ## Every reported cycle is a simple cycle of the graph -/

/-- `[v0, ..., vk]` with `k ≥ 1`, `vk = v0`, `v0, ..., v(k-1)` pairwise
distinct and each `(vi, vi+1)` an edge. -/
def IsSimpleCycle (edges : List DependencyEdge) (c : List String) : Prop :=
  2 ≤ c.length ∧ c.getLast? = c.head? ∧ c.dropLast.Nodup ∧ c.Chain' (Edge edges)

/-- The call chain of a `dfs` call: a non-empty simple path of the graph. -/
structure PathOk (edges : List DependencyEdge) (path : List String) : Prop where
  ne : path ≠ []
  nodup : path.Nodup
  chain : path.Chain' (Edge edges)

theorem closed_cycle_simple {edges : List DependencyEdge} {path : List String}
    {node nb : String} (hp : PathOk edges path) (hlast : path.getLast? = some node)
    (hedge : Edge edges node nb) (hmem : nb ∈ path) :
    IsSimpleCycle edges (path.drop (path.indexOf nb) ++ [nb]) := by
  have hlt : path.indexOf nb < path.length := List.indexOf_lt_length.mpr hmem
  have hhead : (path.drop (path.indexOf nb)).head? = some nb := by
    rw [List.head?_drop, List.getElem?_indexOf hmem]
  have hslast : (path.drop (path.indexOf nb)).getLast? = some node := by
    rw [List.getLast?_drop, if_neg (by omega), hlast]
  refine ⟨by simp; omega, ?_, ?_, ?_⟩
  · rw [List.getLast?_append, List.head?_append, hhead]
    simp
  · simpa using (List.drop_sublist _ _).nodup hp.nodup
  · refine (hp.chain.drop _).append (List.chain'_singleton nb) ?_
    rw [hslast]
    simpa using hedge

/-- Every cycle a state has recorded is a simple cycle. -/
def CyclesOk (edges : List DependencyEdge) (st : DfsState) : Prop :=
  ∀ c ∈ st.cycles, IsSimpleCycle edges c

/-- What a call guarantees of its final state and return value: `visited` only
grows, recorded cycles stay simple, and a returned cycle is simple. -/
def CallOk (edges : List DependencyEdge) (st : DfsState)
    (res : DfsState × Option (List String)) : Prop :=
  st.visited ⊆ res.1.visited ∧ (CyclesOk edges st → CyclesOk edges res.1) ∧
    ∀ c ∈ res.2, IsSimpleCycle edges c

variable {edges : List DependencyEdge}

theorem PathOk.snoc {path : List String} {node nb : String} (hp : PathOk edges path)
    (hlast : path.getLast? = some node) (hedge : Edge edges node nb) (hnb : nb ∉ path) :
    PathOk edges (path ++ [nb]) where
  ne := by simp
  nodup := hp.nodup.append (List.nodup_singleton nb) (List.disjoint_singleton.mpr hnb)
  chain := hp.chain.append (List.chain'_singleton nb) (by rw [hlast]; simpa using hedge)

theorem dfsLoop_ok {rec : String → List String → DfsState → DfsState × Option (List String)}
    (hrec : ∀ nb path st, PathOk edges path → path.getLast? = some nb →
      (∀ x ∈ path, x ≠ nb → x ∈ st.visited) → CallOk edges st (rec nb path st))
    {node : String} {path : List String} (hp : PathOk edges path)
    (hlast : path.getLast? = some node) :
    ∀ nbs st, (∀ nb ∈ nbs, Edge edges node nb) → (∀ x ∈ path, x ∈ st.visited) →
      CallOk edges st (dfsLoop rec node path nbs st)
  | [], st, _, _ => ⟨fun _ hx ↦ hx, id, by simp [dfsLoop]⟩
  | nb :: nbs, st, hedges, hvis => by
      have hedge := hedges nb (List.mem_cons_self nb nbs)
      have hrest : ∀ nb ∈ nbs, Edge edges node nb := fun b hb ↦ hedges b (List.mem_cons_of_mem nb hb)
      simp only [dfsLoop]
      by_cases hnew : nb ∈ st.visited
      · simp only [hnew, not_true_eq_false, if_false]
        by_cases hstack : nb ∈ st.recStack
        · simp only [hstack, if_true]
          by_cases hmem : nb ∈ path
          · simp only [hmem, if_true]
            exact ⟨List.Subset.refl _, id, by simpa using closed_cycle_simple hp hlast hedge hmem⟩
          · simp only [hmem, if_false]
            exact dfsLoop_ok hrec hp hlast nbs st hrest hvis
        · simp only [hstack, if_false]
          exact dfsLoop_ok hrec hp hlast nbs st hrest hvis
      · simp only [hnew, not_false_eq_true, if_true]
        have hcall := hrec nb (path ++ [nb]) st
          (hp.snoc hlast hedge fun h ↦ hnew (hvis nb h)) (by simp) fun x hx hne ↦ by
            rcases List.mem_append.mp hx with hx | hx
            · exact hvis x hx
            · exact absurd (List.mem_singleton.mp hx) hne
        generalize rec nb (path ++ [nb]) st = res at hcall ⊢
        obtain ⟨st₁, r⟩ := res
        obtain ⟨hv, hc, hr⟩ := hcall
        cases r with
        | none =>
            obtain ⟨hv', hc', hr'⟩ := dfsLoop_ok hrec hp hlast nbs st₁ hrest
              fun x hx ↦ hv (hvis x hx)
            exact ⟨hv.trans hv', hc' ∘ hc, hr'⟩
        | some c =>
            have hc₂ : CyclesOk edges st₁ → CyclesOk edges { st₁ with cycles := st₁.cycles ++ [c] } :=
              fun h c' hc' ↦ (List.mem_append.mp hc').elim (h c') fun hc' ↦
                (List.mem_singleton.mp hc') ▸ hr c rfl
            obtain ⟨hv', hc', hr'⟩ := dfsLoop_ok hrec hp hlast nbs
              { st₁ with cycles := st₁.cycles ++ [c] } hrest fun x hx ↦ hv (hvis x hx)
            exact ⟨hv.trans hv', hc' ∘ hc₂ ∘ hc, hr'⟩

theorem dfs_ok : ∀ (fuel : ℕ) (node : String) (path : List String) (st : DfsState),
    PathOk edges path → path.getLast? = some node → (∀ x ∈ path, x ≠ node → x ∈ st.visited) →
      CallOk edges st (dfs (buildGraph edges) fuel node path st)
  | 0, _, _, _, _, _, _ => ⟨List.Subset.refl _, id, by simp [dfs]⟩
  | fuel + 1, node, path, st, hp, hlast, hvis => by
      obtain ⟨hv, hc, hr⟩ := dfsLoop_ok (dfs_ok fuel) hp hlast (succs (buildGraph edges) node)
        { st with visited := node :: st.visited, recStack := node :: st.recStack }
        (fun _ ↦ edge_of_mem_succs) fun x hx ↦ by
          by_cases h : x = node
          · simp [h]
          · exact List.mem_cons_of_mem node (hvis x hx h)
      exact ⟨(List.subset_cons_self node st.visited).trans hv, hc, hr⟩

/-- The top-level loop keeps every recorded cycle simple. -/
theorem foldl_roots_ok (fuel : ℕ) :
    ∀ (roots : List String) (st : DfsState), CyclesOk edges st →
      CyclesOk edges (roots.foldl (fun st node ↦
        if node ∈ st.visited then st else (dfs (buildGraph edges) fuel node [node] st).1) st)
  | [], _, h => h
  | node :: roots, st, h => by
      refine foldl_roots_ok fuel roots _ ?_
      dsimp only
      split
      · exact h
      · exact (dfs_ok fuel node [node] st ⟨by simp, List.nodup_singleton node,
          List.chain'_singleton node⟩ rfl (by simp)).2.1 h

/-- Every element of `detect_cycles(edges)` is a simple directed cycle of the
edge graph. -/
theorem detectCycles_simple (edges : List DependencyEdge) :
    ∀ c ∈ detectCycles edges, IsSimpleCycle edges c :=
  foldl_roots_ok _ _ _ fun _ h ↦ absurd h (List.not_mem_nil _)

theorem detectCycles_simple_three_cycle :
    ["A", "B", "C", "A"] ∈ detectCycles [⟨"A", "B", "normal", [], false⟩,
        ⟨"B", "C", "normal", [], false⟩, ⟨"C", "A", "normal", [], false⟩] ∧
      IsSimpleCycle [⟨"A", "B", "normal", [], false⟩, ⟨"B", "C", "normal", [], false⟩,
        ⟨"C", "A", "normal", [], false⟩] ["A", "B", "C", "A"] :=
  have h : ["A", "B", "C", "A"] ∈ detectCycles [⟨"A", "B", "normal", [], false⟩,
      ⟨"B", "C", "normal", [], false⟩, ⟨"C", "A", "normal", [], false⟩] := by decide
  ⟨h, detectCycles_simple _ _ h⟩

/-- A cycle closed at a root is returned to the top-level loop, which drops
it: the self-loop `A → A` is found first and lost, `A` stays on `rec_stack`,
and the back edge `C → A` of the cycle `A → C → A` is then ignored. -/
theorem detectCycles_drops_root_cycle :
    detectCycles [⟨"A", "A", "normal", [], false⟩, ⟨"A", "C", "normal", [], false⟩,
        ⟨"C", "A", "normal", [], false⟩] = [] ∧
      IsSimpleCycle [⟨"A", "A", "normal", [], false⟩, ⟨"A", "C", "normal", [], false⟩,
        ⟨"C", "A", "normal", [], false⟩] ["A", "C", "A"] :=
  ⟨rfl, by simp [IsSimpleCycle, Edge]⟩

/-! ## No two reported cycles have the same nodes

A call that closes a cycle returns at once, so the node it ran for is done for
good, and that node lies on the cycle.  A cycle closed later lies on the call
chain of the moment, which holds no finished node.  So every recorded cycle
keeps a node that is visited and off the current chain, and no cycle closed
later has its set of nodes. -/

/-- The recorded cycles have pairwise distinct sets of nodes. -/
def DistinctCycles (st : DfsState) : Prop :=
  (st.cycles.map List.toFinset).Nodup

/-- Every recorded cycle has a node that is visited and off the chain `path`. -/
def Settled (path : List String) (st : DfsState) : Prop :=
  ∀ c ∈ st.cycles, ∃ x ∈ c, x ∈ st.visited ∧ x ∉ path

/-- The caller's state once it has handled what a nested call returned. -/
def afterCall (call : DfsState × Option (List String)) : DfsState :=
  match call.2 with
  | some c => { call.1 with cycles := call.1.cycles ++ [c] }
  | none => call.1

theorem dfsLoop_cons (rec : String → List String → DfsState → DfsState × Option (List String))
    (node : String) (path : List String) (nb : String) (nbs : List String) (st : DfsState) :
    dfsLoop rec node path (nb :: nbs) st =
      if nb ∉ st.visited then dfsLoop rec node path nbs (afterCall (rec nb (path ++ [nb]) st))
      else if nb ∈ st.recStack ∧ nb ∈ path then (st, some (path.drop (path.indexOf nb) ++ [nb]))
      else dfsLoop rec node path nbs st := by
  by_cases h₁ : nb ∈ st.visited <;> by_cases h₂ : nb ∈ st.recStack <;> by_cases h₃ : nb ∈ path <;>
    simp [dfsLoop, afterCall, h₁, h₂, h₃]

/-- What a call `dfs(node, path)` guarantees: `visited` only grows, and from
settled cycles with distinct node sets it keeps them so and returns, if
anything, a cycle through `node`, now visited, whose node set is new. -/
def CallSep (path : List String) (node : String) (st : DfsState)
    (res : DfsState × Option (List String)) : Prop :=
  st.visited ⊆ res.1.visited ∧
    (Settled path st → DistinctCycles st →
      Settled path res.1 ∧ DistinctCycles res.1 ∧
        ∀ c ∈ res.2, node ∈ c ∧ node ∈ res.1.visited ∧ c.toFinset ∉ res.1.cycles.map List.toFinset)

theorem Settled.mono {path path' : List String} {st : DfsState} (h : Settled path' st)
    (hsub : path ⊆ path') : Settled path st := fun c hc ↦
  (h c hc).imp fun _ ⟨hx, hv, hp⟩ ↦ ⟨hx, hv, fun h ↦ hp (hsub h)⟩

theorem afterCall_sep {path : List String} {nb : String} {st : DfsState} :
    ∀ {call : DfsState × Option (List String)}, CallSep (path ++ [nb]) nb st call →
      (∀ x ∈ path, x ∈ st.visited) → nb ∉ st.visited →
      st.visited ⊆ (afterCall call).visited ∧
        (Settled path st → DistinctCycles st →
          Settled path (afterCall call) ∧ DistinctCycles (afterCall call))
  | (st₁, r), ⟨hv, hpost⟩, hvis, hnb => by
      refine ⟨by cases r <;> exact hv, fun hs hd ↦ ?_⟩
      have hs' : Settled (path ++ [nb]) st := fun c hc ↦ (hs c hc).imp fun x ⟨hx, hv, hp⟩ ↦
        ⟨hx, hv, fun h ↦ (List.mem_append.mp h).elim hp fun h ↦ hnb (List.mem_singleton.mp h ▸ hv)⟩
      obtain ⟨hs₁, hd₁, hret⟩ := hpost hs' hd
      cases r with
      | none => exact ⟨hs₁.mono (List.subset_append_left _ _), hd₁⟩
      | some c =>
          obtain ⟨hnc, hnv, hnew⟩ := hret c rfl
          refine ⟨fun c' hc' ↦ ?_, ?_⟩
          · rcases List.mem_append.mp hc' with hc' | hc'
            · exact hs₁.mono (List.subset_append_left _ _) c' hc'
            · obtain rfl := List.mem_singleton.mp hc'
              exact ⟨nb, hnc, hnv, fun h ↦ hnb (hvis nb h)⟩
          · simpa [DistinctCycles, afterCall, List.nodup_append] using
              ⟨hd₁, fun x hx h ↦ hnew (List.mem_map.mpr ⟨x, hx, h⟩)⟩

theorem closed_cycle_new {path : List String} {node nb : String} {st : DfsState}
    (hlast : path.getLast? = some node) (hmem : nb ∈ path) (hs : Settled path st) :
    node ∈ path.drop (path.indexOf nb) ++ [nb] ∧
      (path.drop (path.indexOf nb) ++ [nb]).toFinset ∉ st.cycles.map List.toFinset := by
  have hlt : path.indexOf nb < path.length := List.indexOf_lt_length.mpr hmem
  have honpath : ∀ y ∈ path.drop (path.indexOf nb) ++ [nb], y ∈ path := fun y hy ↦
    (List.mem_append.mp hy).elim (fun hy ↦ List.drop_subset _ _ hy)
      fun hy ↦ List.mem_singleton.mp hy ▸ hmem
  refine ⟨List.mem_append_left _ (List.mem_of_getLast?_eq_some ?_), fun hset ↦ ?_⟩
  · rw [List.getLast?_drop, if_neg (by omega), hlast]
  · obtain ⟨c₁, hc₁, heq⟩ := List.mem_map.mp hset
    obtain ⟨x, hx, -, hxp⟩ := hs c₁ hc₁
    exact hxp (honpath x (List.mem_toFinset.mp (heq ▸ List.mem_toFinset.mpr hx)))

theorem dfsLoop_sep {rec : String → List String → DfsState → DfsState × Option (List String)}
    (hrec : ∀ nb path st, path.getLast? = some nb → (∀ x ∈ path, x ≠ nb → x ∈ st.visited) →
      CallSep path nb st (rec nb path st))
    {node : String} {path : List String} (hlast : path.getLast? = some node) :
    ∀ nbs st, (∀ x ∈ path, x ∈ st.visited) → CallSep path node st (dfsLoop rec node path nbs st)
  | [], st, _ => ⟨fun _ hx ↦ hx, fun hs hd ↦ ⟨hs, hd, by simp [dfsLoop]⟩⟩
  | nb :: nbs, st, hvis => by
      rw [dfsLoop_cons]
      by_cases hnew : nb ∈ st.visited
      · rw [if_neg (not_not.mpr hnew)]
        by_cases hcyc : nb ∈ st.recStack ∧ nb ∈ path
        · rw [if_pos hcyc]
          refine ⟨List.Subset.refl _, fun hs hd ↦ ⟨hs, hd, ?_⟩⟩
          rintro c ⟨⟩
          obtain ⟨hnode, hfresh⟩ := closed_cycle_new hlast hcyc.2 hs
          exact ⟨hnode, hvis node (List.mem_of_getLast?_eq_some hlast), hfresh⟩
        · rw [if_neg hcyc]
          exact dfsLoop_sep hrec hlast nbs st hvis
      · rw [if_pos hnew]
        have hcall := hrec nb (path ++ [nb]) st (by simp) fun x hx hne ↦
          hvis x ((List.mem_append.mp hx).resolve_right (by simpa using hne))
        obtain ⟨hv₁, hpost₁⟩ := afterCall_sep hcall hvis hnew
        obtain ⟨hv₂, hpost₂⟩ := dfsLoop_sep hrec hlast nbs _ fun x hx ↦ hv₁ (hvis x hx)
        exact ⟨hv₁.trans hv₂, fun hs hd ↦ hpost₂ (hpost₁ hs hd).1 (hpost₁ hs hd).2⟩

theorem dfs_sep (graph : List (String × List String)) :
    ∀ (fuel : ℕ) (node : String) (path : List String) (st : DfsState),
      path.getLast? = some node → (∀ x ∈ path, x ≠ node → x ∈ st.visited) →
        CallSep path node st (dfs graph fuel node path st)
  | 0, _, _, _, _, _ => ⟨List.Subset.refl _, fun hs hd ↦ ⟨hs, hd, by simp [dfs]⟩⟩
  | fuel + 1, node, path, st, hlast, hvis => by
      obtain ⟨hv, hpost⟩ := dfsLoop_sep (dfs_sep graph fuel) hlast (succs graph node)
        { st with visited := node :: st.visited, recStack := node :: st.recStack } fun x hx ↦ by
          by_cases h : x = node
          · simp [h]
          · exact List.mem_cons_of_mem node (hvis x hx h)
      exact ⟨(List.subset_cons_self node st.visited).trans hv, fun hs hd ↦
        hpost (fun c hc ↦ (hs c hc).imp fun _ ⟨hx, hv, hp⟩ ↦ ⟨hx, List.mem_cons_of_mem _ hv, hp⟩) hd⟩

/-- The top-level loop keeps the recorded cycles settled and their node sets
distinct: a root's call starts a chain of its own. -/
theorem foldl_roots_sep (graph : List (String × List String)) (fuel : ℕ) :
    ∀ (roots : List String) (st : DfsState), Settled [] st → DistinctCycles st →
      let st' := roots.foldl (fun st node ↦
        if node ∈ st.visited then st else (dfs graph fuel node [node] st).1) st
      Settled [] st' ∧ DistinctCycles st'
  | [], _, hs, hd => ⟨hs, hd⟩
  | node :: roots, st, hs, hd => by
      rw [List.foldl_cons]
      split
      · exact foldl_roots_sep graph fuel roots st hs hd
      · next hnode =>
          have hs' : Settled [node] st := fun c hc ↦ (hs c hc).imp fun x ⟨hx, hv, _⟩ ↦
            ⟨hx, hv, fun h ↦ hnode (List.mem_singleton.mp h ▸ hv)⟩
          obtain ⟨hs₁, hd₁, -⟩ := (dfs_sep graph fuel node [node] st rfl (by simp)).2 hs' hd
          exact foldl_roots_sep graph fuel roots _ (hs₁.mono (List.nil_subset _)) hd₁

theorem toFinset_dropLast_of_closed {c : List String} (h2 : 2 ≤ c.length)
    (hc : c.getLast? = c.head?) : c.dropLast.toFinset = c.toFinset := by
  have hne : c ≠ [] := by rintro rfl; simp at h2
  have hhead : c.dropLast.head? = c.head? := by rw [List.head?_dropLast, if_pos (by omega)]
  ext x
  simp only [List.mem_toFinset]
  refine ⟨fun hx ↦ List.dropLast_subset _ hx, fun hx ↦ ?_⟩
  rw [← List.dropLast_append_getLast hne, List.mem_append, List.mem_singleton] at hx
  rcases hx with hx | rfl
  · exact hx
  · rw [List.getLast?_eq_getLast c hne] at hc
    exact List.mem_of_mem_head? (hhead.trans hc.symm)

/-- No two elements of `detect_cycles(edges)` have the same set of nodes; in
particular no reported cycle is a rotation of another. -/
theorem detectCycles_nodeSets_nodup (edges : List DependencyEdge) :
    ((detectCycles edges).map List.toFinset).Nodup ∧
      (detectCycles edges).Pairwise fun c c' ↦ ¬ c.dropLast ~r c'.dropLast := by
  have hd : ((detectCycles edges).map List.toFinset).Nodup :=
    (foldl_roots_sep (buildGraph edges) (2 * edges.length + 1) ((buildGraph edges).map Prod.fst)
      ⟨[], [], []⟩ (fun _ h ↦ absurd h (List.not_mem_nil _)) List.nodup_nil).2
  have hsimple : ∀ c ∈ detectCycles edges, IsSimpleCycle edges c :=
    foldl_roots_ok _ _ _ fun _ h ↦ absurd h (List.not_mem_nil _)
  refine ⟨hd, (List.pairwise_map.mp hd).imp_of_mem fun hc hc' hne hrot ↦ hne ?_⟩
  rw [← toFinset_dropLast_of_closed (hsimple _ hc).1 (hsimple _ hc).2.1,
    ← toFinset_dropLast_of_closed (hsimple _ hc').1 (hsimple _ hc').2.1]
  exact List.toFinset_eq_of_perm _ _ hrot.perm

/-! ## The recursion limit

A call chain of `dfs` visits each crate once, so its depth is at most the
number of crates the edges name.  Measured by the crates not yet visited, a
run with at least that many frames never exhausts them; a run that does not
exhaust its frames returns what any larger budget returns; and `detectCycles`
gives more fuel than there are crates. -/

/-- What Python raises once a call chain outgrows the recursion limit. -/
def recursionError : String := "RecursionError: maximum recursion depth exceeded"

/-- The loop of `dfs(node, path)`, in which a nested call may raise. -/
def dfsLoopChecked
    (dfs : String → List String → DfsState → Except String (DfsState × Option (List String)))
    (node : String) (path : List String) :
    List String → DfsState → Except String (DfsState × Option (List String))
  | [], st => .ok ({ st with recStack := st.recStack.filter (· ≠ node) }, none)
  | nb :: nbs, st =>
      if nb ∉ st.visited then
        (dfs nb (path ++ [nb]) st).bind fun call ↦ dfsLoopChecked dfs node path nbs (afterCall call)
      else if nb ∈ st.recStack then
        if nb ∈ path then .ok (st, some (path.drop (path.indexOf nb) ++ [nb]))
        else dfsLoopChecked dfs node path nbs st
      else dfsLoopChecked dfs node path nbs st

/-- `dfs(node, path)` with `frames` calls left under the recursion limit. -/
def dfsChecked (graph : List (String × List String)) :
    ℕ → String → List String → DfsState → Except String (DfsState × Option (List String))
  | 0, _, _, _ => .error recursionError
  | frames + 1, node, path, st =>
      dfsLoopChecked (dfsChecked graph frames) node path (succs graph node)
        { st with visited := node :: st.visited, recStack := node :: st.recStack }

/-- `detect_cycles(edges)` with `frames` calls of `dfs` allowed on the stack. -/
def detectCyclesChecked (frames : ℕ) (edges : List DependencyEdge) :
    Except String (List (List String)) :=
  let graph := buildGraph edges
  ((graph.map Prod.fst).foldlM
    (fun st node ↦ if node ∈ st.visited then .ok st
      else (dfsChecked graph frames node [node] st).map Prod.fst)
    ⟨[], [], []⟩).map DfsState.cycles

/-- The crates the edges name. -/
def graphNodes (edges : List DependencyEdge) : Finset String :=
  (edges.map (·.fromCrate) ++ edges.map (·.toCrate)).toFinset

section Checked

variable {rec : String → List String → DfsState → Except String (DfsState × Option (List String))}
  {node : String} {path : List String}

theorem dfsLoopChecked_cons (nb : String) (nbs : List String) (st : DfsState) :
    dfsLoopChecked rec node path (nb :: nbs) st =
      if nb ∉ st.visited then
        (rec nb (path ++ [nb]) st).bind fun call ↦ dfsLoopChecked rec node path nbs (afterCall call)
      else if nb ∈ st.recStack ∧ nb ∈ path then .ok (st, some (path.drop (path.indexOf nb) ++ [nb]))
      else dfsLoopChecked rec node path nbs st := by
  by_cases h₁ : nb ∈ st.visited <;> by_cases h₂ : nb ∈ st.recStack <;> by_cases h₃ : nb ∈ path <;>
    simp [dfsLoopChecked, h₁, h₂, h₃]

theorem dfsLoopChecked_pure
    (rec : String → List String → DfsState → DfsState × Option (List String)) :
    ∀ nbs st, dfsLoopChecked (fun nb p st ↦ .ok (rec nb p st)) node path nbs st =
      .ok (dfsLoop rec node path nbs st)
  | [], _ => rfl
  | nb :: nbs, st => by
      rw [dfsLoopChecked_cons, dfsLoop_cons]
      split_ifs
      · rfl
      · exact dfsLoopChecked_pure rec nbs st
      · exact dfsLoopChecked_pure rec nbs _

theorem dfsLoopChecked_mono {g : String → List String → DfsState →
      Except String (DfsState × Option (List String))}
    (h : ∀ nb p st r, rec nb p st = .ok r → g nb p st = .ok r) :
    ∀ nbs st r, dfsLoopChecked rec node path nbs st = .ok r →
      dfsLoopChecked g node path nbs st = .ok r
  | [], _, _, hr => hr
  | nb :: nbs, st, r, hr => by
      rw [dfsLoopChecked_cons] at hr ⊢
      split_ifs at hr ⊢
      · exact hr
      · exact dfsLoopChecked_mono h nbs st r hr
      · obtain ⟨call, hc, hr⟩ := bind_eq_ok.mp hr
        rw [h _ _ _ _ hc]
        exact dfsLoopChecked_mono h nbs _ r hr

theorem dfsLoopChecked_error (h : ∀ nb p st e, rec nb p st = .error e → e = recursionError) :
    ∀ nbs st e, dfsLoopChecked rec node path nbs st = .error e → e = recursionError
  | [], _, _, he => by cases he
  | nb :: nbs, st, e, he => by
      rw [dfsLoopChecked_cons] at he
      split_ifs at he
      · exact dfsLoopChecked_error h nbs st e he
      · cases hc : rec nb (path ++ [nb]) st with
        | error e' =>
            rw [hc] at he
            cases he
            exact h _ _ _ _ hc
        | ok call =>
            rw [hc] at he
            exact dfsLoopChecked_error h nbs _ e he

end Checked

variable (graph : List (String × List String))

theorem dfsChecked_error : ∀ (frames : ℕ) (node : String) (path : List String) (st : DfsState)
    (e : String), dfsChecked graph frames node path st = .error e → e = recursionError
  | 0, _, _, _, _, he => by cases he; rfl
  | frames + 1, _, _, _, e, he => dfsLoopChecked_error (dfsChecked_error frames) _ _ e he

theorem dfsChecked_succ : ∀ (frames : ℕ) (node : String) (path : List String) (st : DfsState)
    (r : DfsState × Option (List String)), dfsChecked graph frames node path st = .ok r →
      dfsChecked graph (frames + 1) node path st = .ok r
  | 0, _, _, _, _, hr => by cases hr
  | frames + 1, _, _, _, r, hr => dfsLoopChecked_mono (dfsChecked_succ frames) _ _ r hr

theorem dfsChecked_mono {frames frames' : ℕ} (hle : frames ≤ frames') {node : String}
    {path : List String} {st : DfsState} {r : DfsState × Option (List String)}
    (hr : dfsChecked graph frames node path st = .ok r) :
    dfsChecked graph frames' node path st = .ok r := by
  induction hle with
  | refl => exact hr
  | step _ ih => exact dfsChecked_succ graph _ _ _ _ _ ih

theorem dfs_of_dfsChecked : ∀ (frames : ℕ) (node : String) (path : List String) (st : DfsState)
    (r : DfsState × Option (List String)), dfsChecked graph frames node path st = .ok r →
      dfs graph frames node path st = r
  | 0, _, _, _, _, hr => by cases hr
  | frames + 1, _, _, _, r, hr => by
      have h := dfsLoopChecked_mono (g := fun nb p st ↦ .ok (dfs graph frames nb p st))
        (fun nb p st r h ↦ congrArg Except.ok (dfs_of_dfsChecked frames nb p st r h)) _ _ r hr
      rw [dfsLoopChecked_pure] at h
      exact Except.ok.inj h

variable {edges : List DependencyEdge}

theorem mem_graphNodes_of_edge {a b : String} (h : Edge edges a b) :
    a ∈ graphNodes edges ∧ b ∈ graphNodes edges := by
  obtain ⟨e, he, rfl, rfl⟩ := h
  simp only [graphNodes, List.mem_toFinset, List.mem_append, List.mem_map]
  exact ⟨.inl ⟨e, he, rfl⟩, .inr ⟨e, he, rfl⟩⟩

theorem mem_graphNodes_of_key {a : String} (h : a ∈ (buildGraph edges).map Prod.fst) :
    a ∈ graphNodes edges := by
  suffices ∀ (es : List DependencyEdge) (g₀ : List (String × List String)),
      a ∈ (es.foldl (fun g e ↦ dictModify g e.fromCrate [] (· ++ [e.toCrate])) g₀).map Prod.fst →
        a ∈ g₀.map Prod.fst ∨ a ∈ es.map (·.fromCrate) by
    simp only [graphNodes, List.mem_toFinset, List.mem_append]
    exact .inl ((this edges [] h).resolve_left (List.not_mem_nil a))
  intro es
  induction es with
  | nil => exact fun _ ↦ .inl
  | cons e es ih =>
      intro g₀ h
      rcases ih _ h with h | h
      · simp only [dictModify, map_fst_dictSet] at h
        split_ifs at h
        · exact .inl h
        · rcases List.mem_append.mp h with h | h
          · exact .inl h
          · exact .inr (List.mem_singleton.mp h ▸ List.mem_cons_self _ _)
      · exact .inr (List.mem_cons_of_mem _ h)

theorem card_graphNodes_le (edges : List DependencyEdge) :
    (graphNodes edges).card ≤ 2 * edges.length :=
  (List.toFinset_card_le _).trans (by simp; omega)

theorem card_unvisited_le {N : Finset String} {v v' : List String} (h : v ⊆ v') :
    (N \ v'.toFinset).card ≤ (N \ v.toFinset).card :=
  Finset.card_le_card (Finset.sdiff_subset_sdiff subset_rfl fun _ hx ↦
    List.mem_toFinset.mpr (h (List.mem_toFinset.mp hx)))

theorem dfsLoopChecked_ok
    {rec : String → List String → DfsState → Except String (DfsState × Option (List String))}
    {frames : ℕ} (hrec : ∀ nb p st, nb ∈ graphNodes edges → nb ∉ st.visited →
      (graphNodes edges \ st.visited.toFinset).card ≤ frames →
        ∃ r, rec nb p st = .ok r ∧ st.visited ⊆ r.1.visited)
    {node : String} {path : List String} :
    ∀ nbs st, (∀ nb ∈ nbs, nb ∈ graphNodes edges) →
      (graphNodes edges \ st.visited.toFinset).card ≤ frames →
        ∃ r, dfsLoopChecked rec node path nbs st = .ok r ∧ st.visited ⊆ r.1.visited
  | [], _, _, _ => ⟨_, rfl, List.Subset.refl _⟩
  | nb :: nbs, st, hnbs, hcard => by
      have hrest : ∀ x ∈ nbs, x ∈ graphNodes edges := fun x hx ↦ hnbs x (List.mem_cons_of_mem _ hx)
      rw [dfsLoopChecked_cons]
      split_ifs with hnew
      · exact ⟨_, rfl, List.Subset.refl _⟩
      · exact dfsLoopChecked_ok hrec nbs st hrest hcard
      · obtain ⟨call, hc, hv⟩ := hrec nb (path ++ [nb]) st (hnbs nb (List.mem_cons_self _ _)) hnew hcard
        have hv' : st.visited ⊆ (afterCall call).visited := by
          unfold afterCall
          split <;> exact hv
        obtain ⟨r, hr, hvr⟩ := dfsLoopChecked_ok hrec nbs _ hrest ((card_unvisited_le hv').trans hcard)
        exact ⟨r, by rw [hc]; exact hr, hv'.trans hvr⟩

/-- Some budget always suffices: a call on a crate not yet visited returns
when as many frames are left as crates unvisited. -/
theorem dfsChecked_ok : ∀ (frames : ℕ) (node : String) (path : List String) (st : DfsState),
    node ∈ graphNodes edges → node ∉ st.visited →
      (graphNodes edges \ st.visited.toFinset).card ≤ frames →
        ∃ r, dfsChecked (buildGraph edges) frames node path st = .ok r ∧
          st.visited ⊆ r.1.visited
  | 0, node, _, st, hN, hv, hcard => by
      have : 0 < (graphNodes edges \ st.visited.toFinset).card :=
        Finset.card_pos.mpr ⟨node, Finset.mem_sdiff.mpr ⟨hN, by simpa using hv⟩⟩
      omega
  | frames + 1, node, path, st, hN, hv, hcard => by
      have hlt : (graphNodes edges \ (node :: st.visited).toFinset).card <
          (graphNodes edges \ st.visited.toFinset).card :=
        Finset.card_lt_card ((Finset.ssubset_iff_of_subset
          (Finset.sdiff_subset_sdiff subset_rfl (by simp))).mpr
          ⟨node, Finset.mem_sdiff.mpr ⟨hN, by simpa using hv⟩, by simp⟩)
      obtain ⟨r, hr, hvr⟩ := dfsLoopChecked_ok (dfsChecked_ok frames) (succs (buildGraph edges) node)
        { st with visited := node :: st.visited, recStack := node :: st.recStack }
        (fun _ h ↦ (mem_graphNodes_of_edge (edge_of_mem_succs h)).2) (by dsimp only; omega)
      exact ⟨r, hr, (List.subset_cons_self node st.visited).trans hvr⟩

theorem dfs_eq_of_dfsChecked {frames : ℕ} {node : String} {st : DfsState}
    {r : DfsState × Option (List String)} (hN : node ∈ graphNodes edges) (hv : node ∉ st.visited)
    (hr : dfsChecked (buildGraph edges) frames node [node] st = .ok r) :
    dfs (buildGraph edges) (2 * edges.length + 1) node [node] st = r := by
  have hcard : (graphNodes edges \ st.visited.toFinset).card ≤ 2 * edges.length + 1 :=
    (Finset.card_le_card Finset.sdiff_subset).trans ((card_graphNodes_le edges).trans (by omega))
  obtain ⟨r', hr', -⟩ := dfsChecked_ok _ node [node] st hN hv hcard
  have heq : Except.ok r = (.ok r' : Except String _) :=
    (dfsChecked_mono _ (le_max_left frames _) hr).symm.trans (dfsChecked_mono _ (le_max_right _ _) hr')
  rw [dfs_of_dfsChecked _ _ _ _ _ _ hr', Except.ok.inj heq]

theorem rootStep_checked (frames : ℕ) (st : DfsState) {node : String}
    (hN : node ∈ graphNodes edges) :
    let step := if node ∈ st.visited then .ok st
      else (dfsChecked (buildGraph edges) frames node [node] st).map Prod.fst
    let pure := if node ∈ st.visited then st
      else (dfs (buildGraph edges) (2 * edges.length + 1) node [node] st).1
    (step = .ok pure ∨ step = .error recursionError) ∧
      ((graphNodes edges).card ≤ frames → step = .ok pure) := by
  intro step pure
  by_cases hv : node ∈ st.visited
  · simp [step, pure, hv]
  · simp only [step, pure, if_neg hv]
    refine ⟨?_, fun hle ↦ ?_⟩
    · cases hc : dfsChecked (buildGraph edges) frames node [node] st with
      | error e => exact .inr (by rw [dfsChecked_error _ _ _ _ _ _ hc]; rfl)
      | ok r => exact .inl (by rw [dfs_eq_of_dfsChecked hN hv hc]; rfl)
    · obtain ⟨r, hr, -⟩ := dfsChecked_ok frames node [node] st hN hv
        ((Finset.card_le_card Finset.sdiff_subset).trans hle)
      rw [hr, dfs_eq_of_dfsChecked hN hv hr]
      rfl

theorem detectCyclesChecked_ok_or_error (frames : ℕ) (edges : List DependencyEdge) :
    detectCyclesChecked frames edges = .ok (detectCycles edges) ∨
      detectCyclesChecked frames edges = .error recursionError := by
  have hroots : ∀ x ∈ (buildGraph edges).map Prod.fst, x ∈ graphNodes edges :=
    fun _ ↦ mem_graphNodes_of_key
  rcases foldlM_ok_or_error (fun st x hx ↦ (rootStep_checked frames st (hroots x hx)).1)
    ⟨[], [], []⟩ with h | h <;> simp only [detectCyclesChecked, h]
  · exact .inl rfl
  · exact .inr rfl

theorem detectCyclesChecked_of_card_le {frames : ℕ} (hle : (graphNodes edges).card ≤ frames) :
    detectCyclesChecked frames edges = .ok (detectCycles edges) := by
  have hroots : ∀ x ∈ (buildGraph edges).map Prod.fst, x ∈ graphNodes edges :=
    fun _ ↦ mem_graphNodes_of_key
  simp only [detectCyclesChecked,
    foldlM_eq_ok_foldl (fun st x hx ↦ (rootStep_checked frames st (hroots x hx)).2 hle)]
  rfl

/-- On Python's stack, `detect_cycles(edges)` returns `detectCycles edges` or
raises `RecursionError`, and it returns whenever there are as many frames left
as the edges name crates. -/
theorem detectCyclesChecked_spec (frames : ℕ) (edges : List DependencyEdge) :
    (detectCyclesChecked frames edges = .ok (detectCycles edges) ∨
        detectCyclesChecked frames edges = .error recursionError) ∧
      ((graphNodes edges).card ≤ frames →
        detectCyclesChecked frames edges = .ok (detectCycles edges)) :=
  ⟨detectCyclesChecked_ok_or_error frames edges, detectCyclesChecked_of_card_le⟩

/- The chain `a → b → c` needs three frames: with three the search returns,
with two the third call raises. -/
example :
    (graphNodes [⟨"a", "b", "normal", [], false⟩, ⟨"b", "c", "normal", [], false⟩]).card ≤ 3 ∧
      detectCyclesChecked 3 [⟨"a", "b", "normal", [], false⟩, ⟨"b", "c", "normal", [], false⟩] =
        .ok (detectCycles [⟨"a", "b", "normal", [], false⟩, ⟨"b", "c", "normal", [], false⟩]) :=
  have h : (graphNodes [⟨"a", "b", "normal", [], false⟩, ⟨"b", "c", "normal", [], false⟩]).card ≤ 3 := by
    decide
  ⟨h, (detectCyclesChecked_spec 3 _).2 h⟩

example : detectCyclesChecked 2 [⟨"a", "b", "normal", [], false⟩, ⟨"b", "c", "normal", [], false⟩] =
    .error recursionError := rfl

end Caliber.Analyzer
