import Caliber.Analyzer.Report
import Caliber.Analyzer.Metadata
import Caliber.Analyzer.CargoFeatures

/-!
# `analyze_workspace` as a whole

Phase 1 builds the crate graph from `cargo metadata`, phase 2 maps the features
of each manifest to the crate `get_crate_name` finds for it, and phases 3 to 7
scan the Rust files (`analyzeWorkspace`).  The metrics count what the phases
found.

Over every run that returns: each smell lies on a line of a scanned file or is
the smell of a simple cycle of the run's own dependency edges; each has a
severity the report counts, so the report's summary accounts for all of them;
the module count is the number of scanned files that read to a non-empty text
and the symbol count the number of their symbols; and phase 2 keeps, for each
crate name, only the features of the last manifest that resolves to it.  The
crate of a file is that of the nearest named manifest between it and the root.
-/

namespace Caliber.Analyzer

open Caliber.Py Caliber.Pattern

/-! ## `get_crate_name` -/

/-- `name\s*=\s*"([^"]+)"`. -/
def Patterns.crateName : Re :=
  .seqs [.str "name".toList, Patterns.spaces, .chr '=', Patterns.spaces, .chr '"',
    .group 1 (.plus (.cls (· != '"'))), .chr '"']

/-- `re.search(r'name\s*=\s*"([^"]+)"', content).group(1)`. -/
def manifestCrateName (content : String) : Option String :=
  (finditer Patterns.crateName content.data).head?.map fun m ↦ ⟨groupText m content.data 1⟩

/-- The crate `parent / 'Cargo.toml'` names, when it can be read to a non-empty
text; `safe_read` gives nothing for a missing file. -/
def manifestName (read : String → Option String) (parent : List String) : Option String :=
  match read ("/".intercalate (parent ++ ["Cargo.toml"])) with
  | some content => if content = "" then none else manifestCrateName content
  | none => none

/-- `path.parents` of a path given by its parts, nearest first: down to `/` for
an absolute path, to `.` for a relative one. -/
def pathParents (parts : List String) : List (List String) :=
  parts.dropLast.inits.reverse.take (parts.length - if parts.head? = some "" then 1 else 0)

/-- The loop of `get_crate_name`: the first parent with a named manifest, up
to the root. -/
def crateNameGo (read : String → Option String) (root : List String) :
    List (List String) → String
  | [] => "unknown"
  | parent :: parents =>
      match manifestName read parent with
      | some name => name
      | none => if parent = root then "unknown" else crateNameGo read root parents

/-- `get_crate_name(file_path, root)`, the paths given by their parts. -/
def getCrateName (read : String → Option String) (filePath root : List String) : String :=
  crateNameGo read root (pathParents filePath)

theorem prefix_of_mem_pathParents {filePath d : List String} (h : d ∈ pathParents filePath) :
    d <+: filePath.dropLast :=
  (List.mem_inits _ _).mp (List.mem_reverse.mp (List.mem_of_mem_take h))

theorem pathParents_pairwise (filePath : List String) :
    (pathParents filePath).Pairwise fun a b ↦ b.length < a.length := by
  have hinits : ∀ l : List String, l.inits.Pairwise fun a b ↦ a.length < b.length := by
    intro l
    induction l with
    | nil => simp
    | cons a l ih => simpa [List.inits_cons, List.pairwise_map] using ih
  exact (List.pairwise_reverse.mpr (hinits _)).sublist (List.take_sublist _ _)

theorem mem_pathParents {filePath d : List String} (hne : filePath ≠ []) (hd : d <+: filePath.dropLast)
    (ht : (if filePath.head? = some "" then 1 else 0) ≤ d.length) : d ∈ pathParents filePath := by
  have hlen : filePath.length = filePath.dropLast.length + 1 := by
    rw [List.length_dropLast]; have := List.length_pos.mpr hne; omega
  have hle := hd.length_le
  rw [pathParents, List.mem_iff_getElem]
  refine ⟨filePath.dropLast.length - d.length, by simp; omega, ?_⟩
  simp only [List.getElem_take, List.getElem_reverse, List.getElem_inits, List.length_inits]
  rw [show filePath.dropLast.length + 1 - 1 - (filePath.dropLast.length - d.length) = d.length by omega]
  exact (List.prefix_iff_eq_take.mp hd).symm

/-- The loop, over any list of ancestors nearest first that reaches the root or
stays above it, is the first named manifest of those within the root. -/
theorem crateNameGo_eq_findSome (read : String → Option String) {root p : List String}
    (hroot : root <+: p) :
    ∀ L : List (List String), (∀ d ∈ L, d <+: p) → L.Pairwise (fun a b ↦ b.length < a.length) →
      (root ∈ L ∨ ∀ d ∈ L, root <+: d) →
      crateNameGo read root L = ((L.filter (root <+: ·)).findSome? (manifestName read)).getD "unknown"
  | [], _, _, _ => rfl
  | d :: L, hp, hs, hr => by
      rw [List.pairwise_cons] at hs
      have hd : root <+: d := by
        rcases hr with hr | hr
        · rcases List.mem_cons.mp hr with rfl | hr
          · exact List.prefix_refl _
          · exact List.prefix_of_prefix_length_le hroot (hp d (List.mem_cons_self _ _)) (hs.1 _ hr).le
        · exact hr _ (List.mem_cons_self _ _)
      rw [List.filter_cons_of_pos (by simpa using hd), List.findSome?_cons]
      cases hm : manifestName read d with
      | some name => simp [crateNameGo, hm]
      | none =>
          by_cases hdr : d = root
          · subst hdr
            have hnil : L.filter (d <+: ·) = [] := List.filter_eq_nil_iff.mpr fun e he h ↦
              absurd (hs.1 e he) (not_lt.mpr (of_decide_eq_true h).length_le)
            simp [crateNameGo, hm, hnil]
          · have hr' : root ∈ L ∨ ∀ e ∈ L, root <+: e := by
              rcases hr with hr | hr
              · exact Or.inl ((List.mem_cons.mp hr).resolve_left (Ne.symm hdr))
              · exact Or.inr fun e he ↦ hr e (List.mem_cons_of_mem _ he)
            simp only [crateNameGo, hm, hdr, if_false]
            exact crateNameGo_eq_findSome read hroot L (fun e he ↦ hp e (List.mem_cons_of_mem _ he)) hs.2 hr'

theorem crateNameGo_of_not_mem (read : String → Option String) {root : List String} :
    ∀ L : List (List String), root ∉ L →
      crateNameGo read root L = (L.findSome? (manifestName read)).getD "unknown"
  | [], _ => rfl
  | d :: L, hr => by
      have hdr : d ≠ root := fun h ↦ hr (h ▸ List.mem_cons_self _ _)
      cases hm : manifestName read d with
      | some name => simp [crateNameGo, hm]
      | none =>
          simp only [crateNameGo, hm, hdr, if_false, List.findSome?_cons]
          exact crateNameGo_of_not_mem read L fun h ↦ hr (List.mem_cons_of_mem _ h)

/-- `get_crate_name` gives the name of the nearest named manifest in a
directory from the file's own up to the root, nearest first, and `unknown`
when there is none.  For a file outside the root the loop never meets the root
and searches every ancestor, up to `/`. -/
theorem getCrateName_nearest (read : String → Option String) (filePath root : List String) :
    (root <+: filePath.dropLast →
      getCrateName read filePath root =
        (((pathParents filePath).filter (root <+: ·)).findSome? (manifestName read)).getD "unknown") ∧
    (¬ root <+: filePath.dropLast →
      getCrateName read filePath root = ((pathParents filePath).findSome? (manifestName read)).getD "unknown") := by
  refine ⟨fun hroot ↦ ?_, fun hout ↦
    crateNameGo_of_not_mem read _ fun h ↦ hout (prefix_of_mem_pathParents h)⟩
  refine crateNameGo_eq_findSome read hroot _ (fun _ ↦ prefix_of_mem_pathParents) (pathParents_pairwise _) ?_
  by_cases hne : filePath = []
  · subst hne
    exact Or.inr fun d hd ↦ absurd hd (by simp [pathParents])
  by_cases ht : (if filePath.head? = some "" then 1 else 0) ≤ root.length
  · exact Or.inl (mem_pathParents hne hroot ht)
  · have hnil : root = [] := List.length_eq_zero.mp (by split_ifs at ht <;> omega)
    exact Or.inr fun d _ ↦ hnil ▸ List.nil_prefix

theorem getCrateName_nearest_in_workspace :
    pathParts "/w" <+: (pathParts "/w/a/src/lib.rs").dropLast ∧
      getCrateName (fun p ↦ if p = "/w/a/Cargo.toml" then some "[package]\nname = \"a\"\n" else none)
          (pathParts "/w/a/src/lib.rs") (pathParts "/w") =
        ((((pathParents (pathParts "/w/a/src/lib.rs")).filter (pathParts "/w" <+: ·)).findSome?
          (manifestName fun p ↦ if p = "/w/a/Cargo.toml" then some "[package]\nname = \"a\"\n" else none)).getD
            "unknown") :=
  have h : pathParts "/w" <+: (pathParts "/w/a/src/lib.rs").dropLast := by decide
  ⟨h, (getCrateName_nearest _ _ _).1 h⟩

example : getCrateName (fun p ↦ if p = "/w/a/Cargo.toml" then some "[package]\nname = \"a\"\n" else none)
    (pathParts "/w/a/src/lib.rs") (pathParts "/w") = "a" := by decide

/-! ## Phases 1 and 2 -/

/-- Phase 1: the crate graph of `parse_dependency_graph`, empty when
`run_cargo_metadata` fails. -/
def crateGraph (metadata fullMetadata : Option Metadata) :
    List (String × CrateNode) × List DependencyEdge :=
  match metadata with
  | some md => parseDependencyGraph md fullMetadata
  | none => ([], [])

/-- The crate phase 2 files a manifest under: the one `get_crate_name` finds
for `src/lib.rs` beside it. -/
def manifestCrate (read : String → Option String) (root : List String) (cargoPath : String) :
    String :=
  getCrateName read ((pathParts cargoPath).dropLast ++ ["src", "lib.rs"]) root

/-- Phase 2: `features_by_crate[crate_name] = features` for every manifest of
the walk, in order, whose features are not empty. -/
def featuresByCrate (read : String → Option String)
    (tomllib : String → Option (List (String × List String))) (root : List String)
    (cargoFiles : List String) : List (String × List (String × List String)) :=
  cargoFiles.foldl (fun d cargoPath ↦
    let features := parseCargoTomlFeatures read tomllib cargoPath
    if features ≠ [] then dictSet d (manifestCrate read root cargoPath) features else d) []

/-! ## The run -/

/-- The files phase 3 scans: without tests, those whose path has no `test`
once lowered, then `rust_files[:max_files]`, which for a negative `max_files`
drops that many from the end.  No character outside ASCII lowers to `t`, `e`
or `s`, so `Char.toLower` stands for `str.lower` here. -/
def scannedFiles (includeTests : Bool) (maxFiles : ℤ) (rustFiles : List String) : List String :=
  slice (if includeTests then rustFiles
    else rustFiles.filter fun f ↦ !contains (f.data.map Char.toLower) "test".toList) 0 maxFiles

/-- `result.metrics`. -/
structure Metrics where
  crates : ℕ
  modules : ℕ
  symbols : ℕ
  features : ℕ
  smells : ℕ
  duplicates : ℕ
  totalLines : ℕ
  docLines : ℕ

/-- What `analyze_workspace` returns. -/
structure AnalysisResult where
  crateNodes : List (String × CrateNode)
  dependencyEdges : List DependencyEdge
  featuresByCrate : List (String × List (String × List String))
  modules : List (String × ModuleInfo)
  symbolsByName : List (String × List Symbol)
  featureUsage : List (String × FeatureUsage)
  smells : List Smell
  duplicates : List DuplicateCluster
  metrics : Metrics

/-- The metrics of the crate nodes and of phases 3 to 7. -/
def metricsOf (crateNodes : List (String × CrateNode)) (w : WorkspaceResult) : Metrics :=
  { crates := crateNodes.length, modules := w.modules.length,
    symbols := (w.symbolsByName.map (·.2.length)).sum, features := w.featureUsage.length,
    smells := w.smells.length, duplicates := w.duplicates.length,
    totalLines := (w.modules.map (·.2.lines)).sum, docLines := (w.modules.map (·.2.docLines)).sum }

/-- The result of a run: the crate graph, the features of phase 2, and what
phases 3 to 7 found, with the metrics. -/
def assembleResult (graph : List (String × CrateNode) × List DependencyEdge)
    (features : List (String × List (String × List String))) (w : WorkspaceResult) : AnalysisResult :=
  { crateNodes := graph.1, dependencyEdges := graph.2, featuresByCrate := features,
    modules := w.modules, symbolsByName := w.symbolsByName, featureUsage := w.featureUsage,
    smells := w.smells, duplicates := w.duplicates, metrics := metricsOf graph.1 w }

section AssembleResult

variable (graph : List (String × CrateNode) × List DependencyEdge)
  (features : List (String × List (String × List String))) (w : WorkspaceResult)

@[simp] theorem assembleResult_dependencyEdges :
    (assembleResult graph features w).dependencyEdges = graph.2 := rfl

@[simp] theorem assembleResult_modules : (assembleResult graph features w).modules = w.modules := rfl

@[simp] theorem assembleResult_smells : (assembleResult graph features w).smells = w.smells := rfl

@[simp] theorem assembleResult_metrics :
    (assembleResult graph features w).metrics = metricsOf graph.1 w := rfl

end AssembleResult

/-- `analyze_workspace(repo, out, include_tests, max_files, jobs)`.  `metadata`
and `fullMetadata` are what the two `cargo metadata` runs return, `cargoFiles`
and `rustFiles` the two walks of the repository, the tasks of the scanned files
complete in the order `completion`, and `frames` calls of `dfs` fit under the
recursion limit. -/
def analyzeWorkspaceFull (read : String → Option String) (hash : String → ℤ)
    (tomllib : String → Option (List (String × List String))) (metadata fullMetadata : Option Metadata)
    (repo : String) (cargoFiles rustFiles : List String) (includeTests : Bool) (maxFiles jobs : ℤ)
    (frames : ℕ) (completion : List String) : Except String AnalysisResult :=
  let graph := crateGraph metadata fullMetadata
  let root := pathParts repo
  (analyzeWorkspace read (fun p ↦ getCrateName read (pathParts p) root) hash detectSmells
      detectImportedButLowSignal graph.2 jobs frames (scannedFiles includeTests maxFiles rustFiles)
      completion).map
    (assembleResult graph (featuresByCrate read tomllib root cargoFiles))

/-! ## Phase 2 -/

/-- Phase 2 keeps, for each crate name, the features of the last manifest of
the walk that has features and resolves to that name; an earlier manifest that
resolves to the same name is lost. -/
theorem dictGet_featuresByCrate (read : String → Option String)
    (tomllib : String → Option (List (String × List String))) (root : List String)
    (cargoFiles : List String) (name : String) :
    dictGet (featuresByCrate read tomllib root cargoFiles) name =
      ((cargoFiles.filter fun c ↦
          manifestCrate read root c = name ∧ parseCargoTomlFeatures read tomllib c ≠ []).getLast?).map
        (parseCargoTomlFeatures read tomllib) := by
  dsimp only [featuresByCrate]
  rw [← foldl_filter (fun c ↦ parseCargoTomlFeatures read tomllib c ≠ []),
    dictGet_foldl_dictSet, List.filter_filter]
  simp

/-! ## What a run returns -/

section Run

variable {read : String → Option String} {hash : String → ℤ}
  {tomllib : String → Option (List (String × List String))} {metadata fullMetadata : Option Metadata}
  {repo : String} {cargoFiles rustFiles : List String} {includeTests : Bool} {maxFiles jobs : ℤ}
  {frames : ℕ} {completion : List String} {r : AnalysisResult}

theorem analyzeWorkspaceFull_eq_ok
    (h : analyzeWorkspaceFull read hash tomllib metadata fullMetadata repo cargoFiles rustFiles
      includeTests maxFiles jobs frames completion = .ok r) :
    ∃ st, mergeCompleted read (fun p ↦ getCrateName read (pathParts p) (pathParts repo)) ⟨[], []⟩
        completion = .ok st ∧
      r = assembleResult (crateGraph metadata fullMetadata)
        (featuresByCrate read tomllib (pathParts repo) cargoFiles)
        (laterPhases read hash detectSmells detectImportedButLowSignal
          (scannedFiles includeTests maxFiles rustFiles)
          (if (crateGraph metadata fullMetadata).2 = [] then []
            else detectCycles (crateGraph metadata fullMetadata).2) st) := by
  rw [analyzeWorkspaceFull] at h
  cases hw : analyzeWorkspace read (fun p ↦ getCrateName read (pathParts p) (pathParts repo)) hash
      detectSmells detectImportedButLowSignal (crateGraph metadata fullMetadata).2 jobs frames
      (scannedFiles includeTests maxFiles rustFiles) completion <;> rw [hw] at h <;> cases h
  obtain ⟨-, st, hst, rfl⟩ := analyzeWorkspace_eq_ok hw
  exact ⟨st, hst, rfl⟩

/-- Every smell of a run that returns either lies on a line of a scanned file
that reads to a text, or is the smell of a simple cycle of the run's own
dependency edges. -/
theorem smells_of_analyzeWorkspaceFull
    (hsub : completion ⊆ scannedFiles includeTests maxFiles rustFiles)
    (h : analyzeWorkspaceFull read hash tomllib metadata fullMetadata repo cargoFiles rustFiles
      includeTests maxFiles jobs frames completion = .ok r) :
    ∀ s ∈ r.smells,
      (s.kind ≠ "dependency_cycle" ∧ ∃ p ∈ scannedFiles includeTests maxFiles rustFiles,
        ∃ content, read p = some content ∧ s.OnLineOf p content) ∨
      ∃ c, IsSimpleCycle r.dependencyEdges c ∧ s = cycleSmell c := by
  obtain ⟨st, hst, rfl⟩ := analyzeWorkspaceFull_eq_ok h
  intro s hs
  rw [assembleResult_smells] at hs
  rcases mem_laterPhases_smells hs with ⟨p, hp, content, hc, hs⟩ | ⟨e, he, hs⟩ | ⟨c, hc, rfl⟩
  · obtain ⟨hk, -, hon⟩ := smell_of_mem_detectSmells hs
    exact .inl ⟨hk, p, hp, content, hc, hon⟩
  · obtain ⟨hp, content, hc, hx, -⟩ := mem_modules_mergeCompleted hst he
    obtain ⟨hk, -, hon⟩ := smell_of_mem_detectImportedButLowSignal hx hs
    exact .inl ⟨hk, e.1, hsub hp, content, hc, hon⟩
  · -- the loop invariant of `detect_cycles`
    have hcycles : ∀ c ∈ detectCycles (crateGraph metadata fullMetadata).2,
        IsSimpleCycle (crateGraph metadata fullMetadata).2 c :=
      foldl_roots_ok _ _ _ fun _ h ↦ absurd h (List.not_mem_nil _)
    split_ifs at hc
    · exact absurd hc (List.not_mem_nil c)
    · exact .inr ⟨c, hcycles c hc, rfl⟩

theorem smells_of_analyzeWorkspaceFull_todo_and_cycle :
    ∃ r, ["a/src/lib.rs"] ⊆ scannedFiles true 10000 ["a/src/lib.rs"] ∧
      analyzeWorkspaceFull (fun p ↦ if p = "a/src/lib.rs" then some "fn f() \x7b todo!() \x7d\n" else none)
        codePointHash (fun _ ↦ none)
        (some ⟨some [], some [⟨"a 0.1.0", "a", "0.1.0", some none, none, none, some [⟨"b", none, none, none⟩]⟩,
          ⟨"b 0.1.0", "b", "0.1.0", some none, none, none, some [⟨"a", none, none, none⟩]⟩], none⟩)
        none "." [] ["a/src/lib.rs"] true 10000 4 996 ["a/src/lib.rs"] = .ok r ∧
      ∀ s ∈ r.smells,
        (s.kind ≠ "dependency_cycle" ∧ ∃ p ∈ scannedFiles true 10000 ["a/src/lib.rs"],
          ∃ content, (if p = "a/src/lib.rs" then some "fn f() \x7b todo!() \x7d\n" else none) =
            some content ∧ s.OnLineOf p content) ∨
        ∃ c, IsSimpleCycle r.dependencyEdges c ∧ s = cycleSmell c := by
  obtain ⟨r, h⟩ : ∃ r, analyzeWorkspaceFull
      (fun p ↦ if p = "a/src/lib.rs" then some "fn f() \x7b todo!() \x7d\n" else none)
      codePointHash (fun _ ↦ none)
      (some ⟨some [], some [⟨"a 0.1.0", "a", "0.1.0", some none, none, none, some [⟨"b", none, none, none⟩]⟩,
        ⟨"b 0.1.0", "b", "0.1.0", some none, none, none, some [⟨"a", none, none, none⟩]⟩], none⟩)
      none "." [] ["a/src/lib.rs"] true 10000 4 996 ["a/src/lib.rs"] = .ok r := ⟨_, rfl⟩
  have hsub : ["a/src/lib.rs"] ⊆ scannedFiles true 10000 ["a/src/lib.rs"] := by decide
  exact ⟨r, hsub, h, smells_of_analyzeWorkspaceFull hsub h⟩

/-- Every smell of a run that returns has a severity the report counts and a
confidence in `[0, 1]`, so the summary of `smells_report.md` counts every
smell: its three numbers add up to the run's smell metric. -/
theorem report_counts_of_analyzeWorkspaceFull
    (h : analyzeWorkspaceFull read hash tomllib metadata fullMetadata repo cargoFiles rustFiles
      includeTests maxFiles jobs frames completion = .ok r) :
    (∀ s ∈ r.smells, s.Reportable) ∧
      (severityGroup r.smells "error").length + (severityGroup r.smells "warning").length +
        (severityGroup r.smells "info").length = r.metrics.smells := by
  obtain ⟨st, hst, rfl⟩ := analyzeWorkspaceFull_eq_ok h
  rw [assembleResult_smells, assembleResult_metrics]
  have hrep : ∀ s ∈ (laterPhases read hash detectSmells detectImportedButLowSignal
      (scannedFiles includeTests maxFiles rustFiles)
      (if (crateGraph metadata fullMetadata).2 = [] then []
        else detectCycles (crateGraph metadata fullMetadata).2) st).smells,
      s.Reportable := by
    intro s hs
    rcases mem_laterPhases_smells hs with ⟨p, -, content, -, hs⟩ | ⟨e, he, hs⟩ | ⟨c, -, rfl⟩
    · exact (smell_of_mem_detectSmells hs).2.1
    · obtain ⟨-, content, -, hx, -⟩ := mem_modules_mergeCompleted hst he
      exact (smell_of_mem_detectImportedButLowSignal hx hs).2.1
    · exact cycleSmell_reportable c
  exact ⟨hrep, length_severityGroups fun s hs ↦ (hrep s hs).severity_mem⟩

theorem report_counts_of_analyzeWorkspaceFull_todo_and_cycle :
    ∃ r, analyzeWorkspaceFull (fun p ↦ if p = "a/src/lib.rs" then some "fn f() \x7b todo!() \x7d\n" else none)
        codePointHash (fun _ ↦ none)
        (some ⟨some [], some [⟨"a 0.1.0", "a", "0.1.0", some none, none, none, some [⟨"b", none, none, none⟩]⟩,
          ⟨"b 0.1.0", "b", "0.1.0", some none, none, none, some [⟨"a", none, none, none⟩]⟩], none⟩)
        none "." [] ["a/src/lib.rs"] true 10000 4 996 ["a/src/lib.rs"] = .ok r ∧
      (∀ s ∈ r.smells, s.Reportable) ∧
      (severityGroup r.smells "error").length + (severityGroup r.smells "warning").length +
        (severityGroup r.smells "info").length = r.metrics.smells := by
  obtain ⟨r, h⟩ : ∃ r, analyzeWorkspaceFull
      (fun p ↦ if p = "a/src/lib.rs" then some "fn f() \x7b todo!() \x7d\n" else none)
      codePointHash (fun _ ↦ none)
      (some ⟨some [], some [⟨"a 0.1.0", "a", "0.1.0", some none, none, none, some [⟨"b", none, none, none⟩]⟩,
        ⟨"b 0.1.0", "b", "0.1.0", some none, none, none, some [⟨"a", none, none, none⟩]⟩], none⟩)
      none "." [] ["a/src/lib.rs"] true 10000 4 996 ["a/src/lib.rs"] = .ok r := ⟨_, rfl⟩
  exact ⟨r, h, report_counts_of_analyzeWorkspaceFull h⟩

/-- On a run over the distinct files of a walk, in any completion order, the
module metric counts the scanned files that read to a non-empty text, and the
symbol metric counts the symbols of the modules: the index by name loses and
repeats none. -/
theorem metrics_of_analyzeWorkspaceFull (hnd : rustFiles.Nodup)
    (hperm : completion.Perm (scannedFiles includeTests maxFiles rustFiles))
    (h : analyzeWorkspaceFull read hash tomllib metadata fullMetadata repo cargoFiles rustFiles
      includeTests maxFiles jobs frames completion = .ok r) :
    r.metrics.modules =
        ((scannedFiles includeTests maxFiles rustFiles).filter fun p ↦ (read p).any (· != "")).length ∧
      r.metrics.symbols = (r.modules.flatMap (·.2.symbols)).length := by
  obtain ⟨st, hst, rfl⟩ := analyzeWorkspaceFull_eq_ok h
  have hscan : (scannedFiles includeTests maxFiles rustFiles).Nodup := by
    unfold scannedFiles Py.slice
    split
    · exact ((List.drop_sublist _ _).trans (List.take_sublist _ _)).nodup hnd
    · exact (((List.drop_sublist _ _).trans (List.take_sublist _ _)).trans
        (List.filter_sublist _)).nodup hnd
  rw [mergeCompleted_eq] at hst
  rcases mapM_perm_cases (parseFile read _) _ (fun _ _ ↦ parseFile_error) (.refl completion) with
    ⟨hm, -⟩ | ⟨g, hg, hm, -⟩ <;> rw [hm] at hst <;> cases hst
  simp only [assembleResult_metrics, assembleResult_modules, metricsOf, laterPhases]
  rw [symbolsByName_merged hg, modules_merged (hperm.nodup_iff.mpr hscan) hg, indexSymbols,
    sum_length_groupBy, length_filterMap_pair,
    List.filter_congr fun p hp ↦ parseFile_isSome (hg p hp)]
  exact ⟨(hperm.filter _).length_eq, Nat.zero_add _⟩

theorem metrics_of_analyzeWorkspaceFull_two_files :
    ∃ r, ["b.rs", "a.rs"].Nodup ∧ ["a.rs", "b.rs"].Perm (scannedFiles true 10000 ["b.rs", "a.rs"]) ∧
      analyzeWorkspaceFull (fun p ↦ if p = "a.rs" then some "fn f() \x7b\x7d\n" else some "")
        codePointHash (fun _ ↦ none) none none "." [] ["b.rs", "a.rs"] true 10000 4 996 ["a.rs", "b.rs"] =
        .ok r ∧
      r.metrics.modules = ((scannedFiles true 10000 ["b.rs", "a.rs"]).filter fun p ↦
          (if p = "a.rs" then some "fn f() \x7b\x7d\n" else some "").any (· != "")).length ∧
      r.metrics.symbols = (r.modules.flatMap (·.2.symbols)).length := by
  obtain ⟨r, h⟩ : ∃ r, analyzeWorkspaceFull
      (fun p ↦ if p = "a.rs" then some "fn f() \x7b\x7d\n" else some "")
      codePointHash (fun _ ↦ none) none none "." [] ["b.rs", "a.rs"] true 10000 4 996 ["a.rs", "b.rs"] =
        .ok r := ⟨_, rfl⟩
  have hnd : ["b.rs", "a.rs"].Nodup := by decide
  have hperm : ["a.rs", "b.rs"].Perm (scannedFiles true 10000 ["b.rs", "a.rs"]) := by decide
  exact ⟨r, hnd, hperm, h, metrics_of_analyzeWorkspaceFull hnd hperm h⟩

end Run

end Caliber.Analyzer
