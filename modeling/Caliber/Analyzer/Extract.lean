import Caliber.Analyzer.Records
import Caliber.Analyzer.Patterns

/-!
# The structural extractor

`extract_symbols_regex` turns one file into a `ModuleInfo`: imports, the three
kinds of feature gate, seven kinds of item, impl blocks, and a complexity
estimate.  Every line number is `content[:m.start()].count('\n') + 1`.

The one thing the function can raise is the `IndexError` of the gate scope
lookup `lines[line_num]`, whose guard `line_num <= len(lines)` lets through a
gate on the last line.
-/

namespace Caliber.Analyzer

open Caliber.Py Caliber.Pattern

/-! ## `estimate_symbol_end` -/

/-- A scanned line with string literals and line comments removed, so that
the braces inside them are not counted. -/
def stripForBraces (line : List Char) : List Char :=
  sub Patterns.lineComment [] (sub Patterns.stringLiteral [] line)

/-- The loop of `estimate_symbol_end` over the window `lines[i:]`, with the
brace depth and whether an opening brace has been seen. -/
def estimateSymbolEndGo (startIdx : ℕ) : List (List Char) → ℕ → ℤ → Bool → ℕ
  | [], _, _, _ => startIdx + 1
  | line :: rest, i, braceCount, started =>
      let line := stripForBraces line
      let braceCount := braceCount + (line.count '{' : ℤ) - line.count '}'
      let started := started || line.contains '{'
      if started && braceCount == 0 then i + 1
      else if !started && line.contains ';' then i + 1
      else estimateSymbolEndGo startIdx rest (i + 1) braceCount started

/-- `estimate_symbol_end(lines, start_idx)`: the loop runs over
`range(start_idx, min(start_idx + 500, len(lines)))`. -/
def estimateSymbolEnd (lines : List (List Char)) (startIdx : ℕ) : ℕ :=
  estimateSymbolEndGo startIdx ((lines.drop startIdx).take 500) startIdx 0 false

theorem estimateSymbolEndGo_cases (startIdx : ℕ) :
    ∀ (w : List (List Char)) (i : ℕ) (depth : ℤ) (started : Bool),
      estimateSymbolEndGo startIdx w i depth started = startIdx + 1 ∨
        (i + 1 ≤ estimateSymbolEndGo startIdx w i depth started ∧
          estimateSymbolEndGo startIdx w i depth started ≤ i + w.length)
  | [], _, _, _ => .inl rfl
  | line :: rest, i, depth, started => by
      simp only [estimateSymbolEndGo]
      split
      · exact .inr ⟨le_rfl, by simp⟩
      · split
        · exact .inr ⟨le_rfl, by simp⟩
        · rcases estimateSymbolEndGo_cases startIdx rest (i + 1) _ _ with h | ⟨h₁, h₂⟩
          · exact .inl h
          · exact .inr ⟨by omega, by simp only [List.length_cons]; omega⟩

theorem estimateSymbolEnd_mem {lines : List (List Char)} {startIdx : ℕ}
    (h : startIdx < lines.length) :
    startIdx + 1 ≤ estimateSymbolEnd lines startIdx ∧
      estimateSymbolEnd lines startIdx ≤ min (startIdx + 500) lines.length := by
  have hw : ((lines.drop startIdx).take 500).length ≤ min 500 (lines.length - startIdx) := by
    simp
  unfold estimateSymbolEnd
  rcases estimateSymbolEndGo_cases startIdx ((lines.drop startIdx).take 500) startIdx 0 false
    with h' | ⟨h₁, h₂⟩
  · rw [h']
    omega
  · exact ⟨h₁, by omega⟩

/-! ## `calculate_complexity` -/

/-- The decision-point tokens. -/
def decisionKeywords : List String := ["if", "else", "match", "while", "for", "loop", "?", "&&", "||"]

/-- `calculate_complexity(content, lines)`: decision points per hundred lines,
in double arithmetic. -/
def calculateComplexity (content : List Char) (lines : List (List Char)) : ℚ :=
  let score := decisionKeywords.foldl (fun score kw ↦ toBinary64 (score +
    (countSub content (' ' :: kw.data ++ [' ']) + countSub content (' ' :: kw.data ++ ['(']) +
      countSub content ('\t' :: kw.data ++ [' ']) : ℕ))) 0
  round2 (if 0 < lines.length then toBinary64 (toBinary64 (score / lines.length) * 100) else score)

/-! ## `extract_symbols_regex` -/

/-- The text of group `i`, empty when it did not take part. -/
def groupText (m : Match) (text : List Char) (i : ℕ) : List Char := (m.group text i).getD []

/-- A `///` or `//!` line. -/
def isDocLine (l : List Char) : Bool :=
  startsWith (strip l) "///".toList || startsWith (strip l) "//!".toList

/-- The import scan. -/
def importsOf (text : List Char) (filePath : String) : List Import :=
  (finditer Patterns.useStmt text).map fun m ↦
    let pathStr := strip (groupText m text 1)
    { path := ⟨pathStr⟩, file := filePath, line := lineNo text m.start,
      isGlob := contains pathStr "::*".toList }

/-- One gate record; its scope is the line after the gate, looked up with the
guard `line_num <= len(lines)`. -/
def gateOf (text : List Char) (lines : List (List Char)) (filePath kind : String) (m : Match) :
    Except String FeatureGate :=
  let lineNum := lineNo text m.start
  (if lineNum ≤ lines.length then getItem lines lineNum else pure []).map fun scope ↦
    { feature := ⟨groupText m text 1⟩, file := filePath, line := lineNum, kind := kind,
      scope := ⟨scope⟩ }

/-- The gate scans, in the source's order, with the kinds
`pattern_name.replace('_feature', '')`. -/
def featureGatesOf (text : List Char) (lines : List (List Char)) (filePath : String) :
    Except String (List FeatureGate) := do
  let cfg ← (finditer Patterns.cfgFeature text).mapM (gateOf text lines filePath "cfg")
  let cfgAny ← (finditer Patterns.cfgAnyFeature text).mapM (gateOf text lines filePath "cfg_any")
  let cfgAttr ← (finditer Patterns.cfgAttrFeature text).mapM (gateOf text lines filePath "cfg_attr")
  pure (cfg ++ cfgAny ++ cfgAttr)

/-- `cfg(feature = ...)` names found in the two lines before a definition. -/
def cfgFeaturesBefore (lines : List (List Char)) (lineNum : ℕ) : List String :=
  if 1 < lineNum then
    let prevLines := join "\n".toList ((lines.take (lineNum - 1)).drop (lineNum - 3))
    (finditer Patterns.cfgFeature prevLines).map fun m ↦ ⟨groupText m prevLines 1⟩
  else []

/-- One item record. -/
def symbolOf (text : List Char) (lines : List (List Char)) (filePath kind : String) (m : Match) :
    Symbol :=
  let lineNum := lineNo text m.start
  { name := ⟨groupText m text 2⟩, kind := kind, file := filePath, lineStart := lineNum,
    lineEnd := estimateSymbolEnd lines (lineNum - 1),
    visibility := if (m.group text 1).any (contains · "pub".toList) then "pub" else "private",
    cfgFeatures := cfgFeaturesBefore lines lineNum }

/-- The item scans `(kind, pattern_name)`, in the source's order. -/
def symbolKinds : List (String × Re) :=
  [("struct", Patterns.struct), ("enum", Patterns.enum), ("trait", Patterns.trait),
    ("fn", Patterns.fnSig), ("const", Patterns.constDef), ("type", Patterns.typeAlias),
    ("macro", Patterns.rulesDef)]

/-- One impl-block record. -/
def implOf (text : List Char) (lines : List (List Char)) (filePath : String) (m : Match) :
    Symbol :=
  let lineNum := lineNo text m.start
  let traitName := groupText m text 1
  let typeName := groupText m text 2
  { name := ⟨"impl ".toList ++ (if traitName ≠ [] then traitName ++ " for ".toList else []) ++
      typeName⟩,
    kind := "impl", file := filePath, lineStart := lineNum,
    lineEnd := estimateSymbolEnd lines (lineNum - 1), visibility := "pub",
    parent := some ⟨typeName⟩ }

/-- All symbols: the seven item scans, then the impl blocks. -/
def symbolsOf (text : List Char) (lines : List (List Char)) (filePath : String) : List Symbol :=
  symbolKinds.flatMap (fun kp ↦ (finditer kp.2 text).map (symbolOf text lines filePath kp.1)) ++
    (finditer Patterns.implBlock text).map (implOf text lines filePath)

/-- `extract_symbols_regex(content, file_path, crate_name)`. -/
def extractSymbolsRegex (content filePath crateName : String) : Except String ModuleInfo :=
  let text := content.data
  let lines := text.splitOn '\n'
  (featureGatesOf text lines filePath).map fun gates ↦
    { path := filePath, crateName := crateName, lines := lines.length,
      docLines := (lines.filter isDocLine).length, imports := importsOf text filePath,
      featureGates := gates, symbols := symbolsOf text lines filePath,
      complexityScore := calculateComplexity text lines }

/-! ## Where extraction raises -/

theorem map_ok_iff {ε α β : Type} (f : α → β) (e : Except ε α) :
    (∃ b, e.map f = .ok b) ↔ ∃ a, e = .ok a := by
  cases e <;> simp [Except.map]

/-- The gate matches of a text, in the order of the three scans. -/
def gateMatches (text : List Char) : List Match :=
  finditer Patterns.cfgFeature text ++ finditer Patterns.cfgAnyFeature text ++
    finditer Patterns.cfgAttrFeature text

theorem gateOf_ok_iff (text : List Char) (filePath kind : String) (m : Match) :
    (∃ g, gateOf text (text.splitOn '\n') filePath kind m = .ok g) ↔
      lineNo text m.start ≠ (text.splitOn '\n').length := by
  have hle := lineNo_le_length_splitOn text m.start
  rw [gateOf, map_ok_iff, if_pos hle, getItem_ok_iff]
  omega

theorem gateScan_ok_iff (text : List Char) (filePath kind : String) (r : Re) :
    (∃ gs, (finditer r text).mapM (gateOf text (text.splitOn '\n') filePath kind) = .ok gs) ↔
      ∀ m ∈ finditer r text, lineNo text m.start ≠ (text.splitOn '\n').length := by
  rw [mapM_ok_iff]
  exact forall₂_congr fun m _ ↦ gateOf_ok_iff text filePath kind m

theorem featureGatesOf_ok_iff (text : List Char) (filePath : String) :
    (∃ gs, featureGatesOf text (text.splitOn '\n') filePath = .ok gs) ↔
      ∀ m ∈ gateMatches text, lineNo text m.start ≠ (text.splitOn '\n').length := by
  have h₁ := gateScan_ok_iff text filePath "cfg" Patterns.cfgFeature
  have h₂ := gateScan_ok_iff text filePath "cfg_any" Patterns.cfgAnyFeature
  have h₃ := gateScan_ok_iff text filePath "cfg_attr" Patterns.cfgAttrFeature
  simp only [gateMatches, List.mem_append, or_imp, forall_and, ← h₁, ← h₂, ← h₃]
  unfold featureGatesOf
  cases (finditer Patterns.cfgFeature text).mapM (gateOf text (text.splitOn '\n') filePath "cfg") <;>
    cases (finditer Patterns.cfgAnyFeature text).mapM
      (gateOf text (text.splitOn '\n') filePath "cfg_any") <;>
      cases (finditer Patterns.cfgAttrFeature text).mapM
        (gateOf text (text.splitOn '\n') filePath "cfg_attr") <;>
        simp [bind, Except.bind, pure, Except.pure]

/-- `extract_symbols_regex` returns exactly when no feature gate starts on the
last element of `content.split('\n')`; otherwise it raises `IndexError`. -/
theorem extractSymbolsRegex_ok_iff (content filePath crateName : String) :
    (∃ module, extractSymbolsRegex content filePath crateName = .ok module) ↔
      ∀ m ∈ gateMatches content.data,
        lineNo content.data m.start ≠ (content.data.splitOn '\n').length := by
  rw [extractSymbolsRegex, map_ok_iff, featureGatesOf_ok_iff]

theorem gateOf_error {text : List Char} {lines : List (List Char)} {filePath kind e : String}
    {m : Match} (h : gateOf text lines filePath kind m = .error e) :
    e = "IndexError: list index out of range" := by
  dsimp only [gateOf] at h
  split at h
  · cases hg : getItem lines (lineNo text m.start) with
    | ok x => simp [hg, Except.map] at h
    | error e' =>
        rw [hg] at h
        cases h
        exact getItem_error hg
  · cases h

/-- The one exception extraction raises is the `IndexError` of `lines[line_num]`. -/
theorem extractSymbolsRegex_error {content filePath crateName e : String}
    (h : extractSymbolsRegex content filePath crateName = .error e) :
    e = "IndexError: list index out of range" := by
  have hgate : ∀ kind m e', gateOf content.data (content.data.splitOn '\n') filePath kind m = .error e' →
      e' = "IndexError: list index out of range" := fun _ _ _ ↦ gateOf_error
  cases hf : featureGatesOf content.data (content.data.splitOn '\n') filePath with
  | ok gs => simp [extractSymbolsRegex, hf, Except.map] at h
  | error e' =>
      obtain rfl : e' = e := by simpa [extractSymbolsRegex, hf, Except.map] using h
      unfold featureGatesOf at hf
      cases hA : (finditer Patterns.cfgFeature content.data).mapM
          (gateOf content.data (content.data.splitOn '\n') filePath "cfg") with
      | error eA =>
          simp only [hA, bind, Except.bind, Except.error.injEq] at hf
          exact hf ▸ mapM_error_of (hgate "cfg") hA
      | ok gA =>
          cases hB : (finditer Patterns.cfgAnyFeature content.data).mapM
              (gateOf content.data (content.data.splitOn '\n') filePath "cfg_any") with
          | error eB =>
              simp only [hA, hB, bind, Except.bind, Except.error.injEq] at hf
              exact hf ▸ mapM_error_of (hgate "cfg_any") hB
          | ok gB =>
              cases hC : (finditer Patterns.cfgAttrFeature content.data).mapM
                  (gateOf content.data (content.data.splitOn '\n') filePath "cfg_attr") with
              | error eC =>
                  simp only [hA, hB, hC, bind, Except.bind, Except.error.injEq] at hf
                  exact hf ▸ mapM_error_of (hgate "cfg_attr") hC
              | ok gC =>
                  rw [hA, hB, hC] at hf
                  cases hf

theorem extractSymbolsRegex_path {content filePath crateName : String} {module : ModuleInfo}
    (h : extractSymbolsRegex content filePath crateName = .ok module) : module.path = filePath := by
  unfold extractSymbolsRegex at h
  cases hg : featureGatesOf content.data (content.data.splitOn '\n') filePath with
  | error e => simp [hg, Except.map] at h
  | ok gates =>
      simp only [hg, Except.map, Except.ok.injEq] at h
      rw [← h]

theorem extractSymbolsRegex_symbols {content filePath crateName : String} {module : ModuleInfo}
    (h : extractSymbolsRegex content filePath crateName = .ok module) :
    module.symbols = symbolsOf content.data (content.data.splitOn '\n') filePath := by
  unfold extractSymbolsRegex at h
  cases hg : featureGatesOf content.data (content.data.splitOn '\n') filePath with
  | error e => simp [hg, Except.map] at h
  | ok gates =>
      simp only [hg, Except.map, Except.ok.injEq] at h
      rw [← h]

theorem gateMatches_start_lt {text : List Char} {m : Match} (h : m ∈ gateMatches text) :
    m.start < text.length := by
  simp only [gateMatches, List.mem_append] at h
  have hne : ∀ r : Re, m ∈ finditer r text →
      (∀ p prev, r.matchAt ⟨p, prev, []⟩ = none) → m.start < text.length := by
    intro r hm hr
    obtain ⟨hle, hmatch⟩ := mem_finditer hm
    rcases Nat.lt_or_ge m.start text.length with hlt | hge
    · exact hlt
    · have : cursorAt text m.start = ⟨m.start, (text.take m.start).getLast?, []⟩ := by
        simp [cursorAt, List.drop_eq_nil_of_le hge]
      rw [this, hr] at hmatch
      cases hmatch
  rcases h with (h | h) | h
  · exact hne _ h fun _ _ ↦ rfl
  · exact hne _ h fun _ _ ↦ rfl
  · exact hne _ h fun _ _ ↦ rfl

/-- A file that ends with a newline is always extracted. -/
theorem extractSymbolsRegex_ok_of_newline {content : String} (h : content.data.getLast? = some '\n')
    (filePath crateName : String) :
    ∃ module, extractSymbolsRegex content filePath crateName = .ok module :=
  (extractSymbolsRegex_ok_iff content filePath crateName).mpr fun _ hm ↦
    (lineNo_lt_of_getLast h (gateMatches_start_lt hm)).ne

theorem extractSymbolsRegex_ok_of_newline_gated_file :
    "#[cfg(feature = \"x\")]\n".data.getLast? = some '\n' ∧
      ∃ module, extractSymbolsRegex "#[cfg(feature = \"x\")]\n" "src/lib.rs" "demo" = .ok module :=
  have h : "#[cfg(feature = \"x\")]\n".data.getLast? = some '\n' := rfl
  ⟨h, extractSymbolsRegex_ok_of_newline h _ _⟩

/-- A feature gate on the last line of a file without a trailing newline
raises `IndexError` out of `lines[line_num]`. -/
theorem extractSymbolsRegex_raises_on_last_line_gate :
    extractSymbolsRegex "#[cfg(feature = \"x\")]" "src/lib.rs" "demo" =
      .error "IndexError: list index out of range" := by
  rfl

/-! ## Symbol lines -/

@[simp] theorem lineNo_pos (text : List Char) (p : ℕ) : 0 < lineNo text p := by
  simp [lineNo]

theorem mem_symbolsOf {text : List Char} {lines : List (List Char)} {filePath : String}
    {s : Symbol} (h : s ∈ symbolsOf text lines filePath) :
    ∃ m : Match, s.lineStart = lineNo text m.start ∧
      s.lineEnd = estimateSymbolEnd lines (lineNo text m.start - 1) := by
  simp only [symbolsOf, List.mem_append, List.mem_flatMap, List.mem_map] at h
  rcases h with ⟨_, _, m, _, rfl⟩ | ⟨m, _, rfl⟩ <;> exact ⟨m, rfl, rfl⟩

/-- Whenever extraction returns, every symbol, impl blocks included, starts on
a line of the file and ends between its start and the end of the 500-line scan
window, clipped to the file. -/
theorem symbols_within_scan_window {content filePath crateName : String} {module : ModuleInfo}
    (h : extractSymbolsRegex content filePath crateName = .ok module) :
    ∀ s ∈ module.symbols, 1 ≤ s.lineStart ∧ s.lineStart ≤ s.lineEnd ∧
      s.lineEnd ≤ module.lines ∧ s.lineEnd - s.lineStart ≤ 499 := by
  unfold extractSymbolsRegex at h
  cases hg : featureGatesOf content.data (content.data.splitOn '\n') filePath with
  | error e => simp [hg, Except.map] at h
  | ok gates =>
      simp only [hg, Except.map, Except.ok.injEq] at h
      subst h
      intro s hs
      obtain ⟨m, hstart, hend⟩ := mem_symbolsOf hs
      have hle := lineNo_le_length_splitOn content.data m.start
      have hpos := lineNo_pos content.data m.start
      have := estimateSymbolEnd_mem
        (show lineNo content.data m.start - 1 < (content.data.splitOn '\n').length by omega)
      simp only
      omega

theorem symbols_within_scan_window_example :
    ∃ module, extractSymbolsRegex "fn f() \x7b\n\x7d\n" "src/lib.rs" "demo" = .ok module ∧
      ∀ s ∈ module.symbols, 1 ≤ s.lineStart ∧ s.lineStart ≤ s.lineEnd ∧
        s.lineEnd ≤ module.lines ∧ s.lineEnd - s.lineStart ≤ 499 :=
  ⟨_, rfl, @symbols_within_scan_window "fn f() \x7b\n\x7d\n" "src/lib.rs" "demo" _ rfl⟩

/-- `^\s*` also consumes newlines, so a definition after a blank line is
recorded on the blank line: here `struct A` sits on line 2 and is reported on
line 1, which is empty. -/
theorem struct_after_blank_line_reported_on_blank_line :
    ∃ module, extractSymbolsRegex "\nstruct A" "src/lib.rs" "demo" = .ok module ∧
      module.symbols.map (·.lineStart) = [1] ∧ ("\nstruct A".data.splitOn '\n').head? = some [] :=
  ⟨_, rfl, rfl, rfl⟩

/-! ## Distinct lines of `fn` definitions -/

theorem lineNo_lt_of_lineStart {text : List Char} {p q : ℕ} (hpq : p < q) (hq : q ≤ text.length)
    (hnl : (text.take q).getLast? = some '\n') : lineNo text p < lineNo text q := by
  obtain ⟨l, hl⟩ := List.getLast?_eq_some_iff.mp hnl
  have hlen : l.length + 1 = q := by
    have := congrArg List.length hl
    simp only [List.length_take, List.length_append, List.length_singleton] at this
    omega
  have hp : text.take p = l.take p :=
    calc text.take p = (text.take q).take p := by rw [List.take_take, Nat.min_eq_left hpq.le]
      _ = l.take p := by rw [hl, List.take_append_of_le_length (by omega)]
  have := (List.take_sublist p l).count_le '\n'
  simp only [lineNo, hp, hl, List.count_append, List.count_singleton_self]
  omega

theorem finditer_bol_lineNo_lt (r : Re) (text : List Char) :
    ((finditer (.seq .bol r) text).map fun m ↦ lineNo text m.start).Pairwise (· < ·) := by
  refine List.pairwise_map.mpr ((finditer_start_lt _ text).imp_of_mem fun {a b} _ hb hab ↦ ?_)
  obtain ⟨hle, hmatch⟩ := mem_finditer hb
  have hbol := Re.atLineStart_of_matchAt_bol hmatch
  have hne : text.take b.start ≠ [] := fun h ↦ by
    rcases List.take_eq_nil_iff.mp h with h | rfl
    · omega
    · simp only [List.length_nil] at hle
      omega
  obtain ⟨x, hx⟩ := Option.ne_none_iff_exists'.mp (mt List.getLast?_eq_none_iff.mp hne)
  simp only [Cursor.atLineStart, cursorAt, hx, beq_iff_eq] at hbol
  exact lineNo_lt_of_lineStart hab hle (hbol ▸ hx)

theorem symbolsOf_filter_fn (text : List Char) (lines : List (List Char)) (filePath : String) :
    (symbolsOf text lines filePath).filter (·.kind = "fn") =
      (finditer Patterns.fnSig text).map (symbolOf text lines filePath "fn") := by
  simp [symbolsOf, symbolKinds, List.filter_append, List.filter_map, Function.comp_def, symbolOf,
    implOf]

/-- No two `fn` symbols of one extracted file start on the same line. -/
theorem fn_lineStarts_nodup {content filePath crateName : String} {module : ModuleInfo}
    (h : extractSymbolsRegex content filePath crateName = .ok module) :
    ((module.symbols.filter (·.kind = "fn")).map (·.lineStart)).Nodup := by
  unfold extractSymbolsRegex at h
  cases hg : featureGatesOf content.data (content.data.splitOn '\n') filePath with
  | error e => simp [hg, Except.map] at h
  | ok gates =>
      simp only [hg, Except.map, Except.ok.injEq] at h
      subst h
      rw [symbolsOf_filter_fn, List.map_map]
      exact (finditer_bol_lineNo_lt _ content.data).imp (ne_of_lt)

end Caliber.Analyzer
