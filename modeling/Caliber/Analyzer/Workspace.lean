import Caliber.Analyzer.Duplicates
import Caliber.Analyzer.Cycles

/-!
# The workspace run

`analyze_workspace` submits one `parse_file` task per Rust file and merges each
result into `result.modules` and `result.symbols_by_name` in the order
`as_completed` yields the tasks.  Every later phase that reads the modules walks
that dictionary: `build_feature_matrix`, the low-signal smell pass and
`detect_duplicates`.

The completion order is a permutation of the file list.  The model takes it as
an argument, with the two per-file smell detectors, the dependency edges of
phase 1 and Python's `hash`; phases 1 and 2, which do not depend on it, are left
out.  It also takes `--jobs`, for which `ThreadPoolExecutor` refuses a pool
with no worker, and the frames left to `detect_cycles` under the recursion
limit.
-/

namespace Caliber.Analyzer

open Caliber.Py

/-! ## Phase 3: the files, merged as their tasks complete -/

/-- `parse_file(file_path)`: nothing for a file that cannot be read or is
empty. -/
def parseFile (read : String → Option String) (crateOf : String → String) (path : String) :
    Except String (Option ModuleInfo) :=
  match read path with
  | some content =>
      if content = "" then .ok none else (extractSymbolsRegex content path (crateOf path)).map some
  | none => .ok none

/-- `result.modules` and `result.symbols_by_name` during the merge loop. -/
structure MergeState where
  modules : List (String × ModuleInfo)
  symbolsByName : List (String × List Symbol)

/-- `symbols_by_name[symbol.name].append(symbol)` for each symbol of a module. -/
def indexSymbols (symbols : List Symbol) (index : List (String × List Symbol)) :
    List (String × List Symbol) :=
  symbols.foldl (fun d s ↦ dictModify d s.name [] (· ++ [s])) index

/-- The body of the merge loop for one completed task. -/
def mergeModule (st : MergeState) : Option ModuleInfo → MergeState
  | some m => ⟨dictSet st.modules m.path m, indexSymbols m.symbols st.symbolsByName⟩
  | none => st

/-- `for future in as_completed(futures)`: the tasks in completion order;
`future.result()` re-raises the exception of a failed task. -/
def mergeCompleted (read : String → Option String) (crateOf : String → String) :
    MergeState → List String → Except String MergeState
  | st, [] => .ok st
  | st, p :: ps => (parseFile read crateOf p).bind fun m ↦ mergeCompleted read crateOf (mergeModule st m) ps

/-! ## Phase 4: `build_feature_matrix` -/

/-- An entry of `matrix[feature]['symbols']`. -/
structure FeatureSymbol where
  name : String
  kind : String
  file : String
  line : ℕ
deriving DecidableEq, Repr

/-- `matrix[feature]` while the matrix is built; the two sets are sets. -/
structure FeatureData where
  crates : Finset String
  files : Finset String
  symbols : List FeatureSymbol
  cfgCount : ℕ

/-- The `defaultdict` factory. -/
def FeatureData.empty : FeatureData := ⟨∅, ∅, [], 0⟩

/-- A row of `feature_usage`; `list(set)` has an order the model leaves out. -/
structure FeatureUsage where
  crates : Finset String
  files : Finset String
  symbols : List FeatureSymbol
  cfgCount : ℕ
  spread : ℕ

/-- The gate loop's body. -/
def addGate (crateName modPath : String) (matrix : List (String × FeatureData)) (g : FeatureGate) :
    List (String × FeatureData) :=
  dictModify matrix g.feature .empty fun d ↦
    { d with crates := insert crateName d.crates, files := insert modPath d.files,
             cfgCount := d.cfgCount + 1 }

/-- The body of the loop over a symbol's `cfg_features`. -/
def addSymbolFeature (crateName modPath : String) (s : Symbol)
    (matrix : List (String × FeatureData)) (feature : String) : List (String × FeatureData) :=
  dictModify matrix feature .empty fun d ↦
    { d with crates := insert crateName d.crates, files := insert modPath d.files,
             symbols := d.symbols ++ [⟨s.name, s.kind, modPath, s.lineStart⟩] }

/-- The body of `for mod_path, module in modules.items()`. -/
def addModule (matrix : List (String × FeatureData)) (e : String × ModuleInfo) :
    List (String × FeatureData) :=
  e.2.symbols.foldl (fun m s ↦ s.cfgFeatures.foldl (addSymbolFeature e.2.crateName e.1 s) m)
    (e.2.featureGates.foldl (addGate e.2.crateName e.1) matrix)

/-- `build_feature_matrix(modules, crates, features_by_crate)`; the last two
arguments are not read. -/
def buildFeatureMatrix (modules : List (String × ModuleInfo)) : List (String × FeatureUsage) :=
  (modules.foldl addModule []).map fun e ↦
    (e.1, ⟨e.2.crates, e.2.files, e.2.symbols, e.2.cfgCount, e.2.files.card⟩)

/-! ## Phases 5 to 7 -/

/-- The smell phase 7 adds for a dependency cycle. -/
def cycleSmell (cycle : List String) : Smell :=
  { kind := "dependency_cycle", severity := "warning", file := "", line := 0,
    message := "Dependency cycle: " ++ " -> ".intercalate cycle, context := "",
    suggestion := "Break the cycle by restructuring dependencies", confidence := 1,
    evidence := cycle }

/-- What `analyze_workspace` returns, of what the merge order can reach. -/
structure WorkspaceResult where
  modules : List (String × ModuleInfo)
  symbolsByName : List (String × List Symbol)
  featureUsage : List (String × FeatureUsage)
  smells : List Smell
  duplicates : List DuplicateCluster

/-- Phases 4 to 7 of `analyze_workspace`, once the merge loop has built `st`
and phase 7 has found `cycles`. -/
def laterPhases (read : String → Option String) (hash : String → ℤ)
    (detectSmells : String → String → List Smell) (detectLowSignal : ModuleInfo → List Smell)
    (rustFiles : List String) (cycles : List (List String)) (st : MergeState) : WorkspaceResult :=
    { modules := st.modules,
      symbolsByName := st.symbolsByName,
      featureUsage := buildFeatureMatrix st.modules,
      smells :=
        rustFiles.flatMap (fun p ↦ match read p with
          | some content => if content = "" then [] else detectSmells content p
          | none => []) ++
        st.modules.flatMap (fun e ↦ detectLowSignal e.2) ++
        cycles.map cycleSmell,
      duplicates := detectDuplicates hash read st.modules 5 (toBinary64 (4 / 5)) }

/-- What `ThreadPoolExecutor(max_workers=jobs)` raises for `jobs <= 0`. -/
def poolError : String := "ValueError: max_workers must be greater than 0"

/-- Phases 3 to 7 of `analyze_workspace` over the files `rustFiles`, whose tasks
complete in the order `completion`, on a pool of `jobs` workers, with `frames`
calls of `dfs` allowed before the recursion limit. -/
def analyzeWorkspace (read : String → Option String) (crateOf : String → String)
    (hash : String → ℤ) (detectSmells : String → String → List Smell)
    (detectLowSignal : ModuleInfo → List Smell) (edges : List DependencyEdge) (jobs : ℤ)
    (frames : ℕ) (rustFiles completion : List String) : Except String WorkspaceResult :=
  if jobs ≤ 0 then .error poolError
  else (mergeCompleted read crateOf ⟨[], []⟩ completion).bind fun st ↦
    (if edges = [] then .ok [] else detectCyclesChecked frames edges).map fun cycles ↦
      laterPhases read hash detectSmells detectLowSignal rustFiles cycles st

/-! ## The merge loop -/

theorem parseFile_error {read : String → Option String} {crateOf : String → String}
    {path e : String} (h : parseFile read crateOf path = .error e) :
    e = "IndexError: list index out of range" := by
  unfold parseFile at h
  split at h
  · split at h
    · cases h
    · cases hx : extractSymbolsRegex _ path (crateOf path) <;> rw [hx] at h <;> cases h
      exact extractSymbolsRegex_error hx
  · cases h

theorem parseFile_some {read : String → Option String} {crateOf : String → String}
    {path : String} {m : ModuleInfo} (h : parseFile read crateOf path = .ok (some m)) :
    ∃ content, read path = some content ∧ extractSymbolsRegex content path (crateOf path) = .ok m := by
  unfold parseFile at h
  split at h
  · next content hc =>
      split at h
      · cases h
      · cases hx : extractSymbolsRegex content path (crateOf path) <;> rw [hx] at h <;> cases h
        exact ⟨content, hc, hx⟩
  · cases h

theorem mergeCompleted_eq (read : String → Option String) (crateOf : String → String) :
    ∀ (o : List String) (st : MergeState),
      mergeCompleted read crateOf st o =
        (o.mapM (parseFile read crateOf)).map (·.foldl mergeModule st)
  | [], _ => rfl
  | p :: ps, st => by
      rw [mergeCompleted, List.mapM_cons]
      cases parseFile read crateOf p with
      | error e => rfl
      | ok m =>
          show mergeCompleted read crateOf (mergeModule st m) ps = _
          rw [mergeCompleted_eq read crateOf ps]
          cases ps.mapM (parseFile read crateOf) <;> rfl

theorem analyzeWorkspace_eq_ok {read : String → Option String} {crateOf : String → String}
    {hash : String → ℤ} {detectSmells : String → String → List Smell}
    {detectLowSignal : ModuleInfo → List Smell} {edges : List DependencyEdge} {jobs : ℤ}
    {frames : ℕ} {rustFiles completion : List String} {w : WorkspaceResult}
    (h : analyzeWorkspace read crateOf hash detectSmells detectLowSignal edges jobs frames rustFiles
      completion = .ok w) :
    0 < jobs ∧ ∃ st, mergeCompleted read crateOf ⟨[], []⟩ completion = .ok st ∧
      w = laterPhases read hash detectSmells detectLowSignal rustFiles
        (if edges = [] then [] else detectCycles edges) st := by
  unfold analyzeWorkspace at h
  by_cases hj : jobs ≤ 0
  · rw [if_pos hj] at h
    cases h
  rw [if_neg hj] at h
  obtain ⟨st, hst, h⟩ := bind_eq_ok.mp h
  refine ⟨by omega, st, hst, ?_⟩
  by_cases he : edges = []
  · rw [if_pos he] at h ⊢
    exact (Except.ok.inj h).symm
  · rw [if_neg he] at h ⊢
    rcases detectCyclesChecked_ok_or_error frames edges with hc | hc <;> rw [hc] at h
    · exact (Except.ok.inj h).symm
    · cases h

/-- A run raises `ValueError` when it has no worker; otherwise what its merge
loop raises, or `RecursionError` when fewer frames are left than the edges
name crates. -/
theorem analyzeWorkspace_eq_error {read : String → Option String} {crateOf : String → String}
    {hash : String → ℤ} {detectSmells : String → String → List Smell}
    {detectLowSignal : ModuleInfo → List Smell} {edges : List DependencyEdge} {jobs : ℤ}
    {frames : ℕ} {rustFiles completion : List String} {e : String}
    (h : analyzeWorkspace read crateOf hash detectSmells detectLowSignal edges jobs frames rustFiles
      completion = .error e) :
    (jobs ≤ 0 ∧ e = poolError) ∨ 0 < jobs ∧ (mergeCompleted read crateOf ⟨[], []⟩ completion = .error e ∨
      e = recursionError ∧ frames < (graphNodes edges).card) := by
  unfold analyzeWorkspace at h
  by_cases hj : jobs ≤ 0
  · rw [if_pos hj] at h
    cases h
    exact .inl ⟨hj, rfl⟩
  rw [if_neg hj] at h
  refine .inr ⟨by omega, ?_⟩
  cases hm : mergeCompleted read crateOf ⟨[], []⟩ completion with
  | error e' =>
      rw [hm] at h
      cases h
      exact .inl rfl
  | ok st =>
      rw [hm] at h
      refine .inr ?_
      by_cases he : edges = []
      · rw [if_pos he] at h
        cases h
      · rw [if_neg he] at h
        rcases detectCyclesChecked_ok_or_error frames edges with hc | hc <;> rw [hc] at h <;> cases h
        refine ⟨rfl, Nat.lt_of_not_le fun hle ↦ ?_⟩
        rw [detectCyclesChecked_of_card_le hle] at hc
        cases hc

/-- The `(path, module)` entries a list of task results adds, in order. -/
def entriesOf (ms : List (Option ModuleInfo)) : List (String × ModuleInfo) :=
  ms.filterMap (·.map fun m ↦ (m.path, m))

theorem modules_foldl_mergeModule :
    ∀ (ms : List (Option ModuleInfo)) (st : MergeState),
      ((entriesOf ms).map Prod.fst).Nodup →
      (∀ k ∈ (entriesOf ms).map Prod.fst, k ∉ st.modules.map Prod.fst) →
      (ms.foldl mergeModule st).modules = st.modules ++ entriesOf ms
  | [], st, _, _ => (List.append_nil _).symm
  | none :: ms, st, hnd, hfresh => modules_foldl_mergeModule ms st hnd hfresh
  | some m :: ms, st, hnd, hfresh => by
      have hnd' : (m.path :: (entriesOf ms).map Prod.fst).Nodup := hnd
      have hfresh' : ∀ k ∈ m.path :: (entriesOf ms).map Prod.fst, k ∉ st.modules.map Prod.fst := hfresh
      have hset := dictSet_of_not_mem (hfresh' m.path (List.mem_cons_self _ _)) m
      rw [List.foldl_cons, modules_foldl_mergeModule ms _ (List.nodup_cons.mp hnd').2]
      · show dictSet st.modules m.path m ++ entriesOf ms = st.modules ++ (m.path, m) :: entriesOf ms
        rw [hset, List.append_assoc, List.singleton_append]
      · intro k hk hk'
        change k ∈ (dictSet st.modules m.path m).map Prod.fst at hk'
        rw [hset, List.map_append, List.mem_append, List.map_singleton, List.mem_singleton] at hk'
        rcases hk' with hk' | rfl
        · exact hfresh' k (List.mem_cons_of_mem _ hk) hk'
        · exact (List.nodup_cons.mp hnd').1 hk

theorem symbolsByName_foldl_mergeModule :
    ∀ (ms : List (Option ModuleInfo)) (st : MergeState),
      (ms.foldl mergeModule st).symbolsByName =
        indexSymbols ((entriesOf ms).flatMap (·.2.symbols)) st.symbolsByName
  | [], _ => rfl
  | none :: ms, st => symbolsByName_foldl_mergeModule ms st
  | some m :: ms, st => by
      rw [List.foldl_cons, symbolsByName_foldl_mergeModule ms]
      show indexSymbols _ (indexSymbols m.symbols st.symbolsByName) =
        indexSymbols (m.symbols ++ (entriesOf ms).flatMap (·.2.symbols)) st.symbolsByName
      rw [indexSymbols, indexSymbols, indexSymbols, List.foldl_append]

/-! ## The feature matrix as one loop over events -/

/-- One step of the matrix loops: a gate of a module, or one feature of one of
its symbols. -/
structure FeatureEvent where
  feature : String
  crateName : String
  modPath : String
  symbol : Option FeatureSymbol

/-- What one event does to `matrix[feature]`. -/
def FeatureData.record (d : FeatureData) (ev : FeatureEvent) : FeatureData :=
  match ev.symbol with
  | none => { d with crates := insert ev.crateName d.crates, files := insert ev.modPath d.files,
                     cfgCount := d.cfgCount + 1 }
  | some s => { d with crates := insert ev.crateName d.crates, files := insert ev.modPath d.files,
                       symbols := d.symbols ++ [s] }

/-- A module's events, in the order of its two loops. -/
def moduleEvents (e : String × ModuleInfo) : List FeatureEvent :=
  e.2.featureGates.map (fun g ↦ ⟨g.feature, e.2.crateName, e.1, none⟩) ++
    e.2.symbols.flatMap fun s ↦
      s.cfgFeatures.map fun f ↦ ⟨f, e.2.crateName, e.1, some ⟨s.name, s.kind, e.1, s.lineStart⟩⟩

/-- One event's update of the matrix. -/
def applyEvent (matrix : List (String × FeatureData)) (ev : FeatureEvent) :
    List (String × FeatureData) :=
  dictModify matrix ev.feature .empty (·.record ev)

theorem addModule_eq (matrix : List (String × FeatureData)) (e : String × ModuleInfo) :
    addModule matrix e = (moduleEvents e).foldl applyEvent matrix := by
  simp only [addModule, moduleEvents, List.foldl_append, List.foldl_map, foldl_flatMap]
  rfl

theorem dictGet_buildFeatureMatrix (modules : List (String × ModuleInfo)) (f : String) :
    dictGet (buildFeatureMatrix modules) f =
      (if (modules.flatMap moduleEvents).any (·.feature = f) then
        some (((modules.flatMap moduleEvents).filter (·.feature = f)).foldl FeatureData.record .empty)
      else none).map fun d ↦ ⟨d.crates, d.files, d.symbols, d.cfgCount, d.files.card⟩ := by
  have hfold : modules.foldl addModule [] = (modules.flatMap moduleEvents).foldl applyEvent [] := by
    rw [foldl_flatMap]
    exact congrArg (fun g ↦ modules.foldl g []) (funext₂ addModule_eq)
  have happly : (modules.flatMap moduleEvents).foldl applyEvent [] =
      (modules.flatMap moduleEvents).foldl
        (fun d a ↦ dictModify d a.feature .empty fun v ↦ FeatureData.record v a) [] := rfl
  rw [buildFeatureMatrix, dictGet_map_snd (fun d : FeatureData ↦
    (⟨d.crates, d.files, d.symbols, d.cfgCount, d.files.card⟩ : FeatureUsage)), hfold, happly,
    dictGet_foldl_dictModify]
  rfl

theorem foldl_record (d : FeatureData) (evs : List FeatureEvent) :
    evs.foldl FeatureData.record d =
      ⟨d.crates ∪ (evs.map (·.crateName)).toFinset, d.files ∪ (evs.map (·.modPath)).toFinset,
        d.symbols ++ evs.filterMap (·.symbol), d.cfgCount + evs.countP (·.symbol.isNone)⟩ := by
  induction evs generalizing d with
  | nil => simp
  | cons ev evs ih =>
      rw [List.foldl_cons, ih]
      rcases ev with ⟨f, c, p, _ | s⟩
      · simp only [FeatureData.record, List.map_cons, List.toFinset_cons, Finset.insert_union,
          Finset.union_insert, List.filterMap_cons_none, List.countP_cons, Option.isNone_none,
          if_true, FeatureData.mk.injEq, true_and]
        omega
      · simp [FeatureData.record, Finset.insert_union, Finset.union_insert]

/-- Two rows of `feature_usage` that agree up to the order of their symbols. -/
def FeatureUsage.Equiv (u v : FeatureUsage) : Prop :=
  u.crates = v.crates ∧ u.files = v.files ∧ u.symbols.Perm v.symbols ∧ u.cfgCount = v.cfgCount ∧
    u.spread = v.spread

/-- Reordering the modules reorders, in each row, the symbols only. -/
theorem buildFeatureMatrix_perm {modules₁ modules₂ : List (String × ModuleInfo)}
    (h : modules₁.Perm modules₂) (f : String) :
    Option.Rel FeatureUsage.Equiv (dictGet (buildFeatureMatrix modules₁) f)
      (dictGet (buildFeatureMatrix modules₂) f) := by
  have hev := h.flatMap_right moduleEvents
  have hfil := hev.filter (·.feature = f)
  rw [dictGet_buildFeatureMatrix, dictGet_buildFeatureMatrix, any_eq_of_perm hev]
  split
  · simp only [Option.map_some', foldl_record]
    refine .some ⟨?_, ?_, ?_, ?_, ?_⟩ <;> dsimp only
    · rw [List.toFinset_eq_of_perm _ _ (hfil.map _)]
    · rw [List.toFinset_eq_of_perm _ _ (hfil.map _)]
    · exact (hfil.filterMap _).append_left _
    · rw [hfil.countP_eq]
    · rw [List.toFinset_eq_of_perm _ _ (hfil.map _)]
  · exact .none

/-! ## Each row of the feature matrix -/

/-- A module has a gate on `f` or a symbol annotated with `f`. -/
def touchesFeature (f : String) (e : String × ModuleInfo) : Bool :=
  e.2.featureGates.any (·.feature = f) || e.2.symbols.any (f ∈ ·.cfgFeatures)

/-- The entries `(name, kind, file, line)` a module adds to `symbols(f)`: one
per occurrence of `f` in a symbol's `cfg_features`, in symbol order. -/
def featureSymbolsOf (f : String) (e : String × ModuleInfo) : List FeatureSymbol :=
  e.2.symbols.flatMap fun s ↦
    (s.cfgFeatures.filter (· = f)).map fun _ ↦ ⟨s.name, s.kind, e.1, s.lineStart⟩

theorem moduleEvents_any (f : String) (e : String × ModuleInfo) :
    (moduleEvents e).any (·.feature = f) = touchesFeature f e := by
  rw [Bool.eq_iff_iff]
  simp [moduleEvents, touchesFeature]

theorem mem_moduleEvents_fields {e : String × ModuleInfo} {ev : FeatureEvent}
    (h : ev ∈ moduleEvents e) : ev.crateName = e.2.crateName ∧ ev.modPath = e.1 := by
  simp only [moduleEvents, List.mem_append, List.mem_map, List.mem_flatMap] at h
  rcases h with ⟨g, -, rfl⟩ | ⟨s, -, f, -, rfl⟩ <;> exact ⟨rfl, rfl⟩

theorem filterMap_const_some {α β : Type} (b : β) (l : List α) :
    l.filterMap (fun _ ↦ some b) = l.map fun _ ↦ b :=
  congrFun (List.filterMap_eq_map _) l

theorem filterMap_symbol_moduleEvents (f : String) (e : String × ModuleInfo) :
    ((moduleEvents e).filter (·.feature = f)).filterMap (·.symbol) = featureSymbolsOf f e := by
  simp [moduleEvents, featureSymbolsOf, List.filter_append, List.filter_map, List.filterMap_append,
    List.filter_flatMap, List.filterMap_flatMap, Function.comp_def,
    filterMap_const_some]

theorem countP_moduleEvents (f : String) (e : String × ModuleInfo) :
    ((moduleEvents e).filter (·.feature = f)).countP (·.symbol.isNone) =
      e.2.featureGates.countP (·.feature = f) := by
  simp [moduleEvents, List.filter_append, List.filter_map, List.filter_flatMap, List.countP_append,
    List.countP_map, Function.comp_def, List.countP_eq_length_filter]

theorem toFinset_map_events {β : Type} [DecidableEq β] {g : FeatureEvent → β}
    {g' : String × ModuleInfo → β} (hg : ∀ e, ∀ ev ∈ moduleEvents e, g ev = g' e)
    (modules : List (String × ModuleInfo)) (f : String) :
    (((modules.flatMap moduleEvents).filter (·.feature = f)).map g).toFinset =
      ((modules.filter (touchesFeature f)).map g').toFinset := by
  ext x
  simp only [List.mem_toFinset, List.mem_map, List.mem_filter, List.mem_flatMap, decide_eq_true_eq]
  constructor
  · rintro ⟨ev, ⟨⟨e, he, hev⟩, hf⟩, rfl⟩
    exact ⟨e, ⟨he, moduleEvents_any f e ▸ List.any_eq_true.mpr ⟨ev, hev, by simpa using hf⟩⟩,
      (hg e ev hev).symm⟩
  · rintro ⟨e, ⟨he, ht⟩, rfl⟩
    obtain ⟨ev, hev, hf⟩ := List.any_eq_true.mp ((moduleEvents_any f e).symm ▸ ht)
    exact ⟨ev, ⟨⟨e, he, hev⟩, by simpa using hf⟩, hg e ev hev⟩

/-- The row of `f` in `build_feature_matrix(modules, ...)`: present exactly
when some module has a gate on `f` or a symbol annotated with `f`; its files
are the keys of those modules and its crates their crate names, its spread
the number of those files, its `cfg_count` the number of gates on `f`, and its
symbols one entry per annotation, in module order, then symbol order. -/
theorem dictGet_buildFeatureMatrix_eq (modules : List (String × ModuleInfo)) (f : String) :
    dictGet (buildFeatureMatrix modules) f =
      if modules.any (touchesFeature f) then
        some ⟨((modules.filter (touchesFeature f)).map (·.2.crateName)).toFinset,
          ((modules.filter (touchesFeature f)).map Prod.fst).toFinset,
          modules.flatMap (featureSymbolsOf f),
          (modules.flatMap (·.2.featureGates)).countP (·.feature = f),
          ((modules.filter (touchesFeature f)).map Prod.fst).toFinset.card⟩
      else none := by
  have hany : (modules.flatMap moduleEvents).any (·.feature = f) = modules.any (touchesFeature f) := by
    simp only [List.any_flatMap, moduleEvents_any]
  have hcrates : (((modules.flatMap moduleEvents).filter (·.feature = f)).map (·.crateName)).toFinset =
      ((modules.filter (touchesFeature f)).map (·.2.crateName)).toFinset :=
    toFinset_map_events (fun _ _ hev ↦ (mem_moduleEvents_fields hev).1) modules f
  have hfiles : (((modules.flatMap moduleEvents).filter (·.feature = f)).map (·.modPath)).toFinset =
      ((modules.filter (touchesFeature f)).map Prod.fst).toFinset :=
    toFinset_map_events (fun _ _ hev ↦ (mem_moduleEvents_fields hev).2) modules f
  have hsyms : ((modules.flatMap moduleEvents).filter (·.feature = f)).filterMap (·.symbol) =
      modules.flatMap (featureSymbolsOf f) := by
    rw [List.filter_flatMap, List.filterMap_flatMap]
    exact List.flatMap_congr fun e _ ↦ filterMap_symbol_moduleEvents f e
  have hcount : ((modules.flatMap moduleEvents).filter (·.feature = f)).countP (·.symbol.isNone) =
      (modules.flatMap (·.2.featureGates)).countP (·.feature = f) := by
    rw [List.filter_flatMap, List.countP_flatMap, List.countP_flatMap]
    exact congrArg List.sum (List.map_congr_left fun e _ ↦ countP_moduleEvents f e)
  rw [dictGet_buildFeatureMatrix, hany]
  split
  · simp only [Option.map_some', foldl_record, FeatureData.empty, Finset.empty_union, List.nil_append,
      Nat.zero_add, hcrates, hfiles, hsyms, hcount]
  · rfl

/-- A gate `#[cfg(any(feature = "a", feature = "b"))]` gives one record, on its
last feature: `[^)]*` runs greedily to the last `feature = "..."` of the list,
so `a` is neither a gate of the module nor a row of the feature matrix. -/
theorem cfg_any_gate_records_last_feature :
    ∃ m, extractSymbolsRegex "#[cfg(any(feature = \"a\", feature = \"b\"))]\nfn f() \x7b\x7d\n"
        "src/lib.rs" "demo" = .ok m ∧
      m.featureGates.map (fun g ↦ (g.feature, g.kind)) = [("b", "cfg_any")] ∧
      dictGet (buildFeatureMatrix [("src/lib.rs", m)]) "a" = none :=
  ⟨_, rfl, rfl, rfl⟩

/-! ## Phase 6 over a reordered dictionary -/

/-- A cluster as far as the order of its two locations leaves it fixed: its
locations, as a set, and its similarity. -/
def clusterView (cl : DuplicateCluster) : Finset Location × ℚ :=
  (cl.locations.toFinset, cl.similarity)

theorem orderedPairs_filterMap_perm {α β : Type} (f : α × α → Option β)
    (hf : ∀ a b, f (a, b) = f (b, a)) {l₁ l₂ : List α} (h : l₁.Perm l₂) :
    ((orderedPairs l₁).filterMap f).Perm ((orderedPairs l₂).filterMap f) := by
  induction h with
  | nil => exact .nil
  | cons x h ih =>
      simp only [orderedPairs, List.filterMap_append]
      exact ((h.map _).filterMap f).append ih
  | swap x y l =>
      simp only [orderedPairs, List.map_cons, List.cons_append, List.filterMap_cons, hf y x,
        List.filterMap_append]
      split
      · exact List.perm_append_comm_assoc _ _ _
      · exact .cons _ (List.perm_append_comm_assoc _ _ _)
  | trans _ _ ih₁ ih₂ => exact ih₁.trans ih₂

theorem jaccardIndex_comm (s₁ s₂ : List ℤ) : jaccardIndex s₁ s₂ = jaccardIndex s₂ s₁ := by
  rw [jaccardIndex, jaccardIndex, Finset.inter_comm, Finset.union_comm]

theorem qualifies_swap (threshold : ℚ) (a b : Candidate) :
    Qualifies threshold (a, b) ↔ Qualifies threshold (b, a) := by
  simp only [Qualifies, ne_comm, eq_comm, jaccardIndex_comm a.shingles]

theorem clusterView_mkCluster_comm (c₁ c₂ : Candidate) (similarity : ℚ) :
    clusterView (mkCluster c₁ c₂ similarity) = clusterView (mkCluster c₂ c₁ similarity) := by
  simp only [clusterView, mkCluster, List.toFinset_cons, List.toFinset_nil, Finset.Insert.comm]

/-- The view of the cluster of a pair that qualifies. -/
def qualifyingView (threshold : ℚ) (p : Candidate × Candidate) : Option (Finset Location × ℚ) :=
  if Qualifies threshold p then some (clusterView (mkCluster p.1 p.2 (toBinary64 (jaccardIndex p.1.shingles p.2.shingles))))
  else none

theorem qualifyingView_swap (threshold : ℚ) (a b : Candidate) :
    qualifyingView threshold (a, b) = qualifyingView threshold (b, a) := by
  simp only [qualifyingView, qualifies_swap threshold a b, jaccardIndex_comm a.shingles,
    clusterView_mkCluster_comm a b]

theorem map_clusterView_detectDuplicates (hash : String → ℤ) {read : String → Option String}
    {modules : List (String × ModuleInfo)} (minLines : ℤ) (threshold : ℚ)
    (hmods : AsAnalyzed read modules) :
    ((detectDuplicates hash read modules minLines threshold).map clusterView).Perm
      ((orderedPairs (stageOne hash read modules minLines)).filterMap (qualifyingView threshold)) := by
  refine ((detectDuplicates_perm_qualifying hash minLines threshold hmods).map clusterView).trans ?_
  rw [List.map_map, ← List.filterMap_eq_map, List.filterMap_filter]
  exact .of_eq (List.filterMap_congr fun p _ ↦ by
    by_cases hp : Qualifies threshold p <;> simp [qualifyingView, hp])

theorem AsAnalyzed.perm {read : String → Option String} {modules₁ modules₂ : List (String × ModuleInfo)}
    (hm : AsAnalyzed read modules₁) (h : modules₁.Perm modules₂) : AsAnalyzed read modules₂ :=
  ⟨(h.map _).nodup_iff.mp hm.1, fun e he ↦ hm.2 e (h.mem_iff.mpr he)⟩

/-- Reordering the modules reorders the clusters and may swap the two locations
of each, which is all it does. -/
theorem detectDuplicates_view_perm (hash : String → ℤ) {read : String → Option String}
    {modules₁ modules₂ : List (String × ModuleInfo)} (minLines : ℤ) (threshold : ℚ)
    (h : modules₁.Perm modules₂) (hm : AsAnalyzed read modules₁) :
    ((detectDuplicates hash read modules₁ minLines threshold).map clusterView).Perm
      ((detectDuplicates hash read modules₂ minLines threshold).map clusterView) :=
  (map_clusterView_detectDuplicates hash minLines threshold hm).trans
    ((orderedPairs_filterMap_perm _ (qualifyingView_swap threshold) (h.flatMap_right _)).trans
      (map_clusterView_detectDuplicates hash minLines threshold (hm.perm h)).symm)

/-! ## What the merge loop builds -/

section Merge

variable {read : String → Option String} {crateOf : String → String}
  {g : String → Option ModuleInfo} {o : List String}

theorem entriesOf_map (hg : ∀ p ∈ o, parseFile read crateOf p = .ok (g p)) :
    entriesOf (o.map g) = o.filterMap fun p ↦ (g p).map ((p, ·)) := by
  rw [entriesOf, List.filterMap_map]
  refine List.filterMap_congr fun p hp ↦ ?_
  show (g p).map (fun m ↦ (m.path, m)) = (g p).map ((p, ·))
  cases hgp : g p with
  | none => rfl
  | some m =>
      obtain ⟨_, _, hx⟩ := parseFile_some (hgp ▸ hg p hp)
      show some (m.path, m) = some (p, m)
      rw [extractSymbolsRegex_path hx]

theorem keys_filterMap_sublist (o : List String) (g : String → Option ModuleInfo) :
    ((o.filterMap fun p ↦ (g p).map ((p, ·))).map Prod.fst).Sublist o := by
  have hsub := @filterMap_sublist_map _ _ (fun p ↦ ((g p).map ((p, ·))).map Prod.fst) id
    (fun p b hb ↦ by cases hgp : g p <;> simp_all) o
  rwa [List.map_id, ← List.map_filterMap] at hsub

theorem mem_merged (hg : ∀ p ∈ o, parseFile read crateOf p = .ok (g p)) {e : String × ModuleInfo}
    (he : e ∈ o.filterMap fun p ↦ (g p).map ((p, ·))) :
    ∃ content, read e.1 = some content ∧ extractSymbolsRegex content e.1 (crateOf e.1) = .ok e.2 ∧
      e.2.path = e.1 := by
  obtain ⟨p, hp, hgp⟩ := List.mem_filterMap.mp he
  obtain ⟨m, hm, rfl⟩ := Option.map_eq_some'.mp hgp
  obtain ⟨content, hc, hx⟩ := parseFile_some (hm ▸ hg p hp)
  exact ⟨content, hc, hx, extractSymbolsRegex_path hx⟩

theorem modules_merged (hnd : o.Nodup) (hg : ∀ p ∈ o, parseFile read crateOf p = .ok (g p)) :
    ((o.map g).foldl mergeModule ⟨[], []⟩).modules = o.filterMap fun p ↦ (g p).map ((p, ·)) := by
  rw [modules_foldl_mergeModule _ _ (entriesOf_map hg ▸ (keys_filterMap_sublist o g).nodup hnd)
    (fun _ _ ↦ List.not_mem_nil _), entriesOf_map hg]
  rfl

theorem symbolsByName_merged (hg : ∀ p ∈ o, parseFile read crateOf p = .ok (g p)) :
    ((o.map g).foldl mergeModule ⟨[], []⟩).symbolsByName =
      indexSymbols ((o.filterMap fun p ↦ (g p).map ((p, ·))).flatMap (·.2.symbols)) [] := by
  rw [symbolsByName_foldl_mergeModule, entriesOf_map hg]

theorem asAnalyzed_merged (hnd : o.Nodup) (hg : ∀ p ∈ o, parseFile read crateOf p = .ok (g p)) :
    AsAnalyzed read (o.filterMap fun p ↦ (g p).map ((p, ·))) := by
  refine asAnalyzed_of_extracted ?_ fun e he ↦ ?_
  · have hpaths : ((o.filterMap fun p ↦ (g p).map ((p, ·))).map fun e ↦ e.2.path) =
        (o.filterMap fun p ↦ (g p).map ((p, ·))).map Prod.fst :=
      List.map_congr_left fun e he ↦ (mem_merged hg he).elim fun _ h ↦ h.2.2
    exact hpaths ▸ (keys_filterMap_sublist o g).nodup hnd
  · obtain ⟨content, hc, hx, hpath⟩ := mem_merged hg he
    exact ⟨content, crateOf e.1, hpath ▸ hc, hpath ▸ hx⟩

end Merge

/-! ## Any completion order -/

/-- Two results of `analyze_workspace` that differ only in order: the same
modules dictionary, each name's and each feature's symbols reordered, the
smells reordered, and the same clusters up to their order and to which of
their two locations comes first. -/
structure SameUpToOrder (r₁ r₂ : WorkspaceResult) : Prop where
  modules_perm : r₁.modules.Perm r₂.modules
  modules_eq : ∀ path, dictGet r₁.modules path = dictGet r₂.modules path
  symbolsByName : ∀ name, Option.Rel List.Perm (dictGet r₁.symbolsByName name)
    (dictGet r₂.symbolsByName name)
  featureUsage : ∀ feature, Option.Rel FeatureUsage.Equiv (dictGet r₁.featureUsage feature)
    (dictGet r₂.featureUsage feature)
  smells : r₁.smells.Perm r₂.smells
  duplicates : (r₁.duplicates.map clusterView).Perm (r₂.duplicates.map clusterView)

theorem laterPhases_same_up_to_order {read : String → Option String} (hash : String → ℤ)
    (detectSmells : String → String → List Smell) (detectLowSignal : ModuleInfo → List Smell)
    (rustFiles : List String) (cycles : List (List String)) {st₁ st₂ : MergeState}
    (h : st₁.modules.Perm st₂.modules) (hkeys : (st₁.modules.map Prod.fst).Nodup)
    (hm : AsAnalyzed read st₁.modules)
    (hsym : ∀ name, Option.Rel List.Perm (dictGet st₁.symbolsByName name)
      (dictGet st₂.symbolsByName name)) :
    SameUpToOrder (laterPhases read hash detectSmells detectLowSignal rustFiles cycles st₁)
      (laterPhases read hash detectSmells detectLowSignal rustFiles cycles st₂) where
  modules_perm := h
  modules_eq := dictGet_eq_of_perm h hkeys
  symbolsByName := hsym
  featureUsage := buildFeatureMatrix_perm h
  smells := ((h.flatMap_right _).append_left _).append_right _
  duplicates := detectDuplicates_view_perm hash 5 (toBinary64 (4 / 5)) h hm

/-- However the tasks of distinct files complete, `analyze_workspace` raises
the same error in both orders, or returns results the same up to order. -/
theorem analyzeWorkspace_same_up_to_order (read : String → Option String)
    (crateOf : String → String) (hash : String → ℤ) (detectSmells : String → String → List Smell)
    (detectLowSignal : ModuleInfo → List Smell) (edges : List DependencyEdge) (jobs : ℤ)
    (frames : ℕ) {rustFiles o₁ o₂ : List String} (hfiles : rustFiles.Nodup)
    (h₁ : o₁.Perm rustFiles) (h₂ : o₂.Perm rustFiles) :
    (∃ e, analyzeWorkspace read crateOf hash detectSmells detectLowSignal edges jobs frames
          rustFiles o₁ = .error e ∧
        analyzeWorkspace read crateOf hash detectSmells detectLowSignal edges jobs frames
          rustFiles o₂ = .error e) ∨
      ∃ r₁ r₂, analyzeWorkspace read crateOf hash detectSmells detectLowSignal edges jobs frames
          rustFiles o₁ = .ok r₁ ∧
        analyzeWorkspace read crateOf hash detectSmells detectLowSignal edges jobs frames
          rustFiles o₂ = .ok r₂ ∧ SameUpToOrder r₁ r₂ := by
  have h := h₁.trans h₂.symm
  have hnd := h₁.nodup_iff.mpr hfiles
  unfold analyzeWorkspace
  by_cases hj : jobs ≤ 0
  · simp only [if_pos hj]
    exact .inl ⟨_, rfl, rfl⟩
  simp only [if_neg hj, mergeCompleted_eq]
  rcases mapM_perm_cases (parseFile read crateOf) _ (fun _ _ ↦ parseFile_error) h with
    ⟨he₁, he₂⟩ | ⟨g, hg, hok₁, hok₂⟩
  · exact .inl ⟨_, by rw [he₁]; rfl, by rw [he₂]; rfl⟩
  rw [hok₁, hok₂]
  cases hc : (if edges = [] then .ok [] else detectCyclesChecked frames edges :
      Except String (List (List String))) with
  | error e => exact .inl ⟨e, rfl, rfl⟩
  | ok cycles =>
      refine .inr ⟨_, _, rfl, rfl, ?_⟩
      have hg₂ : ∀ p ∈ o₂, parseFile read crateOf p = .ok (g p) :=
        fun p hp ↦ hg p (h.mem_iff.mpr hp)
      have hE := h.filterMap fun p ↦ (g p).map ((p, ·))
      refine laterPhases_same_up_to_order hash detectSmells detectLowSignal rustFiles cycles ?_ ?_ ?_
        fun name ↦ ?_
      · rw [modules_merged hnd hg, modules_merged (h.nodup_iff.mp hnd) hg₂]
        exact hE
      · rw [modules_merged hnd hg]
        exact (keys_filterMap_sublist o₁ g).nodup hnd
      · rw [modules_merged hnd hg]
        exact asAnalyzed_merged hnd hg
      · rw [symbolsByName_merged hg, symbolsByName_merged hg₂]
        exact dictGet_groupBy_perm _ (hE.flatMap_right _) name

theorem analyzeWorkspace_same_up_to_order_two_files :
    ["x.rs", "y.rs"].Nodup ∧ ["x.rs", "y.rs"].Perm ["x.rs", "y.rs"] ∧
      ["y.rs", "x.rs"].Perm ["x.rs", "y.rs"] ∧
      ((∃ e, analyzeWorkspace (fun _ ↦ some "fn a() \x7b\x7d\n") (fun _ ↦ "c") codePointHash
            (fun _ _ ↦ []) (fun _ ↦ []) [] 4 996 ["x.rs", "y.rs"] ["x.rs", "y.rs"] = .error e ∧
          analyzeWorkspace (fun _ ↦ some "fn a() \x7b\x7d\n") (fun _ ↦ "c") codePointHash
            (fun _ _ ↦ []) (fun _ ↦ []) [] 4 996 ["x.rs", "y.rs"] ["y.rs", "x.rs"] = .error e) ∨
        ∃ r₁ r₂, analyzeWorkspace (fun _ ↦ some "fn a() \x7b\x7d\n") (fun _ ↦ "c") codePointHash
            (fun _ _ ↦ []) (fun _ ↦ []) [] 4 996 ["x.rs", "y.rs"] ["x.rs", "y.rs"] = .ok r₁ ∧
          analyzeWorkspace (fun _ ↦ some "fn a() \x7b\x7d\n") (fun _ ↦ "c") codePointHash
            (fun _ _ ↦ []) (fun _ ↦ []) [] 4 996 ["x.rs", "y.rs"] ["y.rs", "x.rs"] = .ok r₂ ∧
          SameUpToOrder r₁ r₂) :=
  have hfiles : ["x.rs", "y.rs"].Nodup := by decide
  have h₁ : ["x.rs", "y.rs"].Perm ["x.rs", "y.rs"] := .refl _
  have h₂ : ["y.rs", "x.rs"].Perm ["x.rs", "y.rs"] := .swap _ _ _
  ⟨hfiles, h₁, h₂, analyzeWorkspace_same_up_to_order _ _ _ _ _ _ _ _ hfiles h₁ h₂⟩

/-- The symbols of a feature are listed in the order the files' tasks complete:
two files that gate the same function on feature `f` list it in opposite
orders under the two completion orders. -/
theorem feature_symbols_follow_completion_order :
    (analyzeWorkspace (fun _ ↦ some "#[cfg(feature = \"f\")]\nfn a() \x7b\x7d\n") (fun _ ↦ "c")
        codePointHash (fun _ _ ↦ []) (fun _ ↦ []) [] 4 996 ["x.rs", "y.rs"] ["x.rs", "y.rs"]).map
        (fun r ↦ (dictGet r.featureUsage "f").map (·.symbols)) =
      .ok (some [⟨"a", "fn", "x.rs", 2⟩, ⟨"a", "fn", "y.rs", 2⟩]) ∧
    (analyzeWorkspace (fun _ ↦ some "#[cfg(feature = \"f\")]\nfn a() \x7b\x7d\n") (fun _ ↦ "c")
        codePointHash (fun _ _ ↦ []) (fun _ ↦ []) [] 4 996 ["x.rs", "y.rs"] ["y.rs", "x.rs"]).map
        (fun r ↦ (dictGet r.featureUsage "f").map (·.symbols)) =
      .ok (some [⟨"a", "fn", "y.rs", 2⟩, ⟨"a", "fn", "x.rs", 2⟩]) :=
  ⟨rfl, rfl⟩

/-! ## The run as a whole -/

/-- Phases 3 to 7 raise `ValueError` exactly on a pool with no worker, and
otherwise only the `IndexError` of `extract_symbols_regex` or the
`RecursionError` of `detect_cycles`, the latter only when fewer frames are left
than the dependency edges name crates. -/
theorem analyzeWorkspace_error (read : String → Option String) (crateOf : String → String)
    (hash : String → ℤ) (detectSmells : String → String → List Smell)
    (detectLowSignal : ModuleInfo → List Smell) (edges : List DependencyEdge) (jobs : ℤ)
    (frames : ℕ) (rustFiles completion : List String) {e : String}
    (h : analyzeWorkspace read crateOf hash detectSmells detectLowSignal edges jobs frames rustFiles
      completion = .error e) :
    if jobs ≤ 0 then e = poolError
    else e = "IndexError: list index out of range" ∨
      e = recursionError ∧ frames < (graphNodes edges).card := by
  rcases analyzeWorkspace_eq_error h with ⟨hj, rfl⟩ | ⟨hj, hm | hrec⟩
  · exact if_pos hj ▸ rfl
  · rw [if_neg (by omega), mergeCompleted_eq] at *
    cases hmap : completion.mapM (parseFile read crateOf) <;> rw [hmap] at hm <;> cases hm
    exact .inl (mapM_error_of (fun _ _ ↦ parseFile_error) hmap)
  · rw [if_neg (by omega)]
    exact .inr hrec

theorem analyzeWorkspace_error_on_crate_chain :
    ∃ e, analyzeWorkspace (fun _ ↦ some "") (fun _ ↦ "a") codePointHash (fun _ _ ↦ []) (fun _ ↦ [])
        [⟨"a", "b", "normal", [], false⟩, ⟨"b", "c", "normal", [], false⟩] 4 2 [] [] = .error e ∧
      (e = "IndexError: list index out of range" ∨
        e = recursionError ∧
          2 < (graphNodes [⟨"a", "b", "normal", [], false⟩, ⟨"b", "c", "normal", [], false⟩]).card) :=
  have h : analyzeWorkspace (fun _ ↦ some "") (fun _ ↦ "a") codePointHash (fun _ _ ↦ [])
      (fun _ ↦ []) [⟨"a", "b", "normal", [], false⟩, ⟨"b", "c", "normal", [], false⟩] 4 2 [] [] =
      .error recursionError := rfl
  ⟨_, h, (if_neg (by decide : ¬ (4 : ℤ) ≤ 0)).mp (analyzeWorkspace_error _ _ _ _ _ _ _ _ _ _ h)⟩

example : analyzeWorkspace (fun _ ↦ some "") (fun _ ↦ "a") codePointHash (fun _ _ ↦ [])
    (fun _ ↦ []) [] 0 996 ["a.rs"] ["a.rs"] = .error poolError := rfl

/-- On a run that returns, `symbols_by_name[name]` lists the symbols called
`name` of the modules in `result.modules`, in their order, and there is no
entry for a name no symbol has. -/
theorem analyzeWorkspace_symbolsByName (read : String → Option String) (crateOf : String → String)
    (hash : String → ℤ) (detectSmells : String → String → List Smell)
    (detectLowSignal : ModuleInfo → List Smell) (edges : List DependencyEdge) (jobs : ℤ)
    (frames : ℕ) (rustFiles : List String) {completion : List String} (hnd : completion.Nodup)
    {r : WorkspaceResult}
    (h : analyzeWorkspace read crateOf hash detectSmells detectLowSignal edges jobs frames rustFiles
      completion = .ok r) (name : String) :
    dictGet r.symbolsByName name =
      if (r.modules.flatMap (·.2.symbols)).any (·.name = name) then
        some ((r.modules.flatMap (·.2.symbols)).filter (·.name = name))
      else none := by
  obtain ⟨-, st, hst, rfl⟩ := analyzeWorkspace_eq_ok h
  rw [mergeCompleted_eq] at hst
  rcases mapM_perm_cases (parseFile read crateOf) _ (fun _ _ ↦ parseFile_error) (.refl completion) with
    ⟨he, -⟩ | ⟨g, hg, hok, -⟩
  · rw [he] at hst
    cases hst
  rw [hok] at hst
  cases hst
  dsimp only [laterPhases]
  rw [symbolsByName_merged hg, modules_merged hnd hg]
  exact dictGet_groupBy _ _ name

theorem analyzeWorkspace_symbolsByName_two_files :
    ∃ r, ["y.rs", "x.rs"].Nodup ∧
      analyzeWorkspace (fun _ ↦ some "fn a() \x7b\x7d\n") (fun _ ↦ "c") codePointHash
        (fun _ _ ↦ []) (fun _ ↦ []) [] 4 996 ["x.rs", "y.rs"] ["y.rs", "x.rs"] = .ok r ∧
      dictGet r.symbolsByName "a" =
        if (r.modules.flatMap (·.2.symbols)).any (·.name = "a") then
          some ((r.modules.flatMap (·.2.symbols)).filter (·.name = "a"))
        else none := by
  obtain ⟨r, h⟩ : ∃ r, analyzeWorkspace (fun _ ↦ some "fn a() \x7b\x7d\n") (fun _ ↦ "c")
      codePointHash (fun _ _ ↦ []) (fun _ ↦ []) [] 4 996 ["x.rs", "y.rs"] ["y.rs", "x.rs"] =
        .ok r := ⟨_, rfl⟩
  have hnd : ["y.rs", "x.rs"].Nodup := by decide
  exact ⟨r, hnd, h, analyzeWorkspace_symbolsByName _ _ _ _ _ _ _ _ _ hnd h "a"⟩

end Caliber.Analyzer
