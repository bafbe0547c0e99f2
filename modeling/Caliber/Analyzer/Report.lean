import Caliber.Analyzer.Workspace
import Caliber.Analyzer.Smells

/-!
# The smells of a run and the smells report

Phases 5 to 7 of `analyze_workspace` take their smells from three producers:
`detect_smells` on every scanned file, `detect_imported_but_low_signal` on
every merged module, and the cycle smells of phase 7.  `generate_smells_report`
groups them by severity, counts the errors, warnings and infos in its summary,
and lists every error and the first 50 warnings.

A smell of a file is `Reportable` (a severity the summary counts, a confidence
in `[0, 1]`) and lies `OnLineOf` its file.  Each producer keeps both, and every
module the merge loop holds was extracted from a scanned file's own text, so a
whole run keeps them; the summary's three counts then account for every smell.
-/

namespace Caliber.Analyzer

open Caliber.Py Caliber.Pattern

/-- What the report expects of a smell: one of the three severities its
summary counts, and a confidence between 0 and 1. -/
structure Smell.Reportable (s : Smell) : Prop where
  severity_mem : s.severity ∈ ["error", "warning", "info"]
  confidence_nonneg : 0 ≤ s.confidence
  confidence_le_one : s.confidence ≤ 1

/-- A smell of the file `filePath` whose text is `content`: it names the file
and one of the lines `content.split('\n')` gives, counted from 1. -/
structure Smell.OnLineOf (filePath content : String) (s : Smell) : Prop where
  file_eq : s.file = filePath
  line_pos : 1 ≤ s.line
  line_le : s.line ≤ (content.data.splitOn '\n').length

/-! ## Each producer -/

section Producers

variable {lines : List (List Char)} {filePath content : String} {s : Smell}

theorem smellPatterns_fields :
    ∀ e ∈ smellPatterns, e.2.2.1 ∈ ["error", "warning", "info"] ∧ e.1 ≠ "dependency_cycle" := by
  decide

theorem mem_longFunctionSmells (h : s ∈ longFunctionSmells lines filePath) :
    ∃ i < lines.length, s.kind = "long_function" ∧ s.severity = "warning" ∧ s.file = filePath ∧
      s.line = i + 1 ∧ s.confidence = 1 := by
  obtain ⟨⟨j, start⟩, hj, hs⟩ := List.mem_filterMap.mp h
  dsimp only at hs
  split_ifs at hs
  cases hs
  exact ⟨start, lt_length_of_mem_fnStarts (List.snd_mem_of_mem_enum hj), rfl, rfl, rfl, rfl, rfl⟩

theorem mem_deepNestingSmells (h : s ∈ deepNestingSmells lines filePath) :
    ∃ i < lines.length, s.kind = "deep_nesting" ∧ s.severity = "info" ∧ s.file = filePath ∧
      s.line = i + 1 ∧ s.confidence = 4 / 5 := by
  obtain ⟨⟨i, line⟩, hi, hs⟩ := List.mem_filterMap.mp h
  dsimp only at hs
  split_ifs at hs
  cases hs
  exact ⟨i, List.fst_lt_of_mem_enum hi, rfl, rfl, rfl, rfl, rfl⟩

theorem smell_of_line {kind sev : String} {q : ℚ} {i : ℕ}
    (hkind : kind ≠ "dependency_cycle") (hsev : sev ∈ ["error", "warning", "info"]) (hq₀ : 0 ≤ q)
    (hq₁ : q ≤ 1) (hi : i < (content.data.splitOn '\n').length) (hk : s.kind = kind)
    (hs : s.severity = sev) (hf : s.file = filePath) (hl : s.line = i + 1) (hc : s.confidence = q) :
    s.kind ≠ "dependency_cycle" ∧ s.Reportable ∧ s.OnLineOf filePath content :=
  ⟨hk ▸ hkind, ⟨hs ▸ hsev, hc ▸ hq₀, hc ▸ hq₁⟩, ⟨hf, by omega, by omega⟩⟩

/-- Every smell `detect_smells` reports is reportable, lies on a line of the
file it was given, and is not a cycle smell. -/
theorem smell_of_mem_detectSmells (h : s ∈ detectSmells content filePath) :
    s.kind ≠ "dependency_cycle" ∧ s.Reportable ∧ s.OnLineOf filePath content := by
  rcases List.mem_append.mp h with h | h
  · rcases List.mem_append.mp h with h | h
    · obtain ⟨e, he, i, hi, h₁, h₂, h₃, h₄, h₅⟩ := mem_patternSmells h
      exact smell_of_line (smellPatterns_fields e he).2 (smellPatterns_fields e he).1 (by norm_num)
        (by norm_num) hi h₁ h₂ h₃ h₄ h₅
    · obtain ⟨i, hi, h₁, h₂, h₃, h₄, h₅⟩ := mem_longFunctionSmells h
      exact smell_of_line (by decide) (by decide) (by norm_num) (by norm_num) hi h₁ h₂ h₃ h₄ h₅
  · obtain ⟨i, hi, h₁, h₂, h₃, h₄, h₅⟩ := mem_deepNestingSmells h
    exact smell_of_line (by decide) (by decide) (by norm_num) (by norm_num) hi h₁ h₂ h₃ h₄ h₅

theorem mem_detectImportedButLowSignal_symbol {m : ModuleInfo}
    (h : s ∈ detectImportedButLowSignal m) :
    ∃ impPath fnName, ∃ sym ∈ m.symbols, s = lowSignalSmell m.path impPath fnName sym := by
  obtain ⟨⟨impPath, users⟩, -, hs⟩ := List.mem_flatMap.mp h
  match users, hs with
  | [fnName], hs =>
      obtain ⟨sym, hsym, hs⟩ := List.mem_filterMap.mp hs
      split_ifs at hs
      exact ⟨impPath, fnName, sym, hsym, (Option.some_injective _ hs).symm⟩

theorem smell_of_mem_detectImportedButLowSignal {crateName : String} {m : ModuleInfo}
    (hm : extractSymbolsRegex content filePath crateName = .ok m)
    (h : s ∈ detectImportedButLowSignal m) :
    s.kind ≠ "dependency_cycle" ∧ s.Reportable ∧ s.OnLineOf filePath content := by
  obtain ⟨impPath, fnName, sym, hsym, rfl⟩ := mem_detectImportedButLowSignal_symbol h
  rw [extractSymbolsRegex_symbols hm] at hsym
  obtain ⟨mt, hstart, -⟩ := mem_symbolsOf hsym
  have hle := lineNo_le_length_splitOn content.data mt.start
  have hpos := lineNo_pos content.data mt.start
  refine ⟨by simp [lowSignalSmell], ⟨by simp [lowSignalSmell], by norm_num [lowSignalSmell],
    by norm_num [lowSignalSmell]⟩, ⟨extractSymbolsRegex_path hm, ?_, ?_⟩⟩ <;>
    simp only [lowSignalSmell] <;> omega

theorem cycleSmell_reportable (cycle : List String) : (cycleSmell cycle).Reportable :=
  ⟨by simp [cycleSmell], by norm_num [cycleSmell], by norm_num [cycleSmell]⟩

end Producers

/-! ## What phases 3 to 7 hold -/

theorem parseFile_isSome {read : String → Option String} {crateOf : String → String} {p : String}
    {o : Option ModuleInfo} (h : parseFile read crateOf p = .ok o) :
    o.isSome = (read p).any (· != "") := by
  unfold parseFile at h
  split at h
  · next content hc =>
      rw [hc]
      split_ifs at h with he
      · cases h
        simp [he]
      · cases hx : extractSymbolsRegex content p (crateOf p) <;> rw [hx] at h <;> cases h
        simpa using he
  · next hc =>
      cases h
      rw [hc]
      rfl

theorem length_filterMap_pair (o : List String) (g : String → Option ModuleInfo) :
    (o.filterMap fun p ↦ (g p).map ((p, ·))).length = (o.filter fun p ↦ (g p).isSome).length := by
  induction o with
  | nil => rfl
  | cons p o ih => cases hp : g p <;> simp [List.filterMap_cons, List.filter_cons, hp, ih]


theorem mem_modules_foldl_mergeModule {e : String × ModuleInfo} :
    ∀ (ms : List (Option ModuleInfo)) (st : MergeState), e ∈ (ms.foldl mergeModule st).modules →
      e ∈ st.modules ∨ e ∈ entriesOf ms
  | [], _, h => .inl h
  | none :: ms, st, h => mem_modules_foldl_mergeModule ms st h
  | some m :: ms, st, h => by
      rcases mem_modules_foldl_mergeModule ms _ h with h | h
      · rcases mem_dictSet h with rfl | h
        · exact .inr (List.mem_cons_self _ _)
        · exact .inl h
      · exact .inr (List.mem_cons_of_mem _ h)

theorem mem_modules_mergeCompleted {read : String → Option String} {crateOf : String → String}
    {o : List String} {st : MergeState} (h : mergeCompleted read crateOf ⟨[], []⟩ o = .ok st)
    {e : String × ModuleInfo} (he : e ∈ st.modules) :
    e.1 ∈ o ∧ ∃ content, read e.1 = some content ∧
      extractSymbolsRegex content e.1 (crateOf e.1) = .ok e.2 ∧ e.2.path = e.1 := by
  rw [mergeCompleted_eq] at h
  rcases mapM_perm_cases (parseFile read crateOf) _ (fun _ _ ↦ parseFile_error) (.refl o) with
    ⟨hm, -⟩ | ⟨g, hg, hm, -⟩ <;> rw [hm] at h <;> cases h
  rcases mem_modules_foldl_mergeModule _ _ he with he | he
  · exact absurd he (List.not_mem_nil _)
  · rw [entriesOf_map hg] at he
    obtain ⟨p, hp, hgp⟩ := List.mem_filterMap.mp he
    obtain ⟨m, -, rfl⟩ := Option.map_eq_some'.mp hgp
    exact ⟨hp, mem_merged hg he⟩

theorem mem_laterPhases_smells {read : String → Option String} {hash : String → ℤ}
    {detectSmells : String → String → List Smell} {detectLowSignal : ModuleInfo → List Smell}
    {rustFiles : List String} {cycles : List (List String)} {st : MergeState} {s : Smell}
    (h : s ∈ (laterPhases read hash detectSmells detectLowSignal rustFiles cycles st).smells) :
    (∃ p ∈ rustFiles, ∃ content, read p = some content ∧ s ∈ detectSmells content p) ∨
      (∃ e ∈ st.modules, s ∈ detectLowSignal e.2) ∨ ∃ c ∈ cycles, s = cycleSmell c := by
  simp only [laterPhases, List.mem_append, List.mem_flatMap] at h
  rcases h with (⟨p, hp, hs⟩ | h) | h
  · refine .inl ⟨p, hp, ?_⟩
    split at hs
    · split_ifs at hs
      · exact absurd hs (List.not_mem_nil _)
      · exact ⟨_, ‹_›, hs⟩
    · exact absurd hs (List.not_mem_nil _)
  · exact .inr (.inl h)
  · obtain ⟨c, hc, rfl⟩ := List.mem_map.mp h
    exact .inr (.inr ⟨c, hc, rfl⟩)

/-! ## `generate_smells_report` -/

/-- `by_severity`: the smells grouped by severity, in run order. -/
def bySeverity (smells : List Smell) : List (String × List Smell) :=
  smells.foldl (fun d s ↦ dictModify d s.severity [] (· ++ [s])) []

/-- `by_severity[severity]` of the `defaultdict(list)`. -/
def severityGroup (smells : List Smell) (severity : String) : List Smell :=
  (dictGet (bySeverity smells) severity).getD []

/-- The lines of an error. -/
def errorLines (s : Smell) : List String :=
  ["### " ++ s.kind, "- **File**: `" ++ s.file ++ ":" ++ toString s.line ++ "`",
    "- **Message**: " ++ s.message, "- **Context**: `" ++ s.context ++ "`",
    "- **Fix**: " ++ s.suggestion, ""]

/-- The line of a warning. -/
def warningLine (s : Smell) : String :=
  "- `" ++ pathName s.file ++ ":" ++ toString s.line ++ "` - " ++ s.message

/-- The lines of a duplicate cluster; `showFloat` is `format` on the rounded
similarity, a float. -/
def clusterLines (showFloat : ℚ → String) (dup : DuplicateCluster) : List String :=
  ["### " ++ dup.signature ++ " (similarity: " ++ showFloat dup.similarity ++ ")"] ++
    dup.locations.map (fun loc ↦
      "- `" ++ loc.file ++ ":" ++ toString loc.lineStart ++ "-" ++ toString loc.lineEnd ++ "`") ++
    [""]

/-- `generate_smells_report(result, out)`: the text written to
`smells_report.md`. -/
def generateSmellsReport (showFloat : ℚ → String) (smells : List Smell)
    (duplicates : List DuplicateCluster) : String :=
  let errors := severityGroup smells "error"
  let warnings := severityGroup smells "warning"
  "\n".intercalate <|
    ["# Code Smells Report", "", "## Summary", "",
      "- **Errors**: " ++ toString errors.length,
      "- **Warnings**: " ++ toString warnings.length,
      "- **Info**: " ++ toString (severityGroup smells "info").length, ""] ++
    (if errors = [] then [] else ["## Errors (Critical)", ""] ++ errors.flatMap errorLines) ++
    (if warnings = [] then [] else ["## Warnings", ""] ++ (warnings.take 50).map warningLine) ++
    (if duplicates = [] then []
     else ["", "## Duplicate Code Clusters", ""] ++ (duplicates.take 20).flatMap (clusterLines showFloat))

theorem severityGroup_eq (smells : List Smell) (severity : String) :
    severityGroup smells severity = smells.filter (·.severity = severity) := by
  rw [severityGroup, bySeverity, dictGet_groupBy]
  split
  · rfl
  · next h => simpa using h

/-- When every smell has one of the three severities, the summary's counts
add up to the number of smells. -/
theorem length_severityGroups {smells : List Smell}
    (h : ∀ s ∈ smells, s.severity ∈ ["error", "warning", "info"]) :
    (severityGroup smells "error").length + (severityGroup smells "warning").length +
      (severityGroup smells "info").length = smells.length := by
  simp only [severityGroup_eq]
  induction smells with
  | nil => rfl
  | cons s l ih =>
      have hl := ih fun t ht ↦ h t (List.mem_cons_of_mem _ ht)
      rcases List.mem_cons.mp (h s (List.mem_cons_self _ _)) with hs | hs
      · simp [List.filter_cons, hs]
        omega
      rcases List.mem_cons.mp hs with hs | hs
      · simp [List.filter_cons, hs]
        omega
      · simp only [List.mem_singleton] at hs
        simp [List.filter_cons, hs]
        omega

end Caliber.Analyzer
