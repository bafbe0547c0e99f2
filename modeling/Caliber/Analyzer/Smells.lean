import Caliber.Analyzer.Extract

/-!
# Per-file and per-module smells

`detect_smells` searches every line of a file for the eleven `SMELL_PATTERNS`,
marks the lines that open a function, reports a function of more than 100
lines up to the next marked line, and reports lines indented by 24 spaces or
more.  The `stripped` text it computes first is never read.

`detect_imported_but_low_signal` looks for the last items of each import in
the text of every `fn` symbol, collects the names of the functions that match,
and reports an import whose set of names has one element, once for every short
`fn` symbol of that name.  By the time it runs, the module has been through
`asdict` and `ModuleInfo(**v)`: its symbols are dictionaries, and the text of a
symbol is the dictionary's `repr`.

The long functions are the gaps between consecutive markers, the last one
closed by the end of the file: they are reported in line order, each has no
marker in the 100 lines after its own, and they do not overlap, so a file of
`n` lines has at most `n / 101` of them.  The low-signal smells are
characterised in full, through the list of additions the usage loop makes
(`usageEvents`).
-/

namespace Caliber.Analyzer

open Caliber.Py Caliber.Pattern

namespace Patterns

/-- `console\.log|\.forEach\s*\(|\.map\s*\(\s*\w+\s*=>`. -/
def wrongLangJs : Re :=
  .alt (.str "console.log".toList)
    (.alt (.seqs [.str ".forEach".toList, spaces, .chr '('])
      (.seqs [.str ".map".toList, spaces, .chr '(', spaces, ident, spaces, .str "=>".toList]))

/-- `\bdef\s+\w+\s*\(|^\s*pass\s*$`. -/
def wrongLangPy : Re :=
  .alt (.seqs [.wordBoundary, .str "def".toList, spaces1, ident, spaces, .chr '('])
    (.seqs [.bol, spaces, .str "pass".toList, spaces, .eol])

/-- `\bNAME!\s*\(`, the shape of the three macro patterns. -/
def macroCall (name : String) : Re :=
  .seqs [.wordBoundary, .str name.toList, .chr '!', spaces, .chr '(']

/-- `fn\s+\w+[^{]+\{\s*\}`. -/
def emptyFn : Re :=
  .seqs [.str "fn".toList, spaces1, ident, .plus (.cls (· != '\x7b')), .chr '\x7b', spaces, .chr '\x7d']

/-- `\bunsafe\s*\{`. -/
def unsafeBlock : Re := .seqs [.wordBoundary, .str "unsafe".toList, spaces, .chr '\x7b']

/-- `\btransmute\b`. -/
def transmute : Re := .seqs [.wordBoundary, .str "transmute".toList, .wordBoundary]

/-- `\.unwrap\(\)\.unwrap\(\)`. -/
def unwrapChain : Re := .str ".unwrap().unwrap()".toList

/-- `use\s+\w+(?:::\w+)*::\*;`. -/
def wildcardImport : Re :=
  .seqs [.str "use".toList, spaces1, ident, .star (.seq (.str "::".toList) ident), .str "::*;".toList]

/-- `(?<![.\w])\d{5,}(?![.\w])`. -/
def magicNumber : Re :=
  .seqs [.notBehind (fun c ↦ c == '.' || isWord c), .cls isDigit, .cls isDigit, .cls isDigit,
    .cls isDigit, .plus (.cls isDigit), .notAhead (fun c ↦ c == '.' || isWord c)]

/-- `^\s*(?:pub(?:\([^)]*\))?\s+)?(?:async\s+)?fn\s+\w+`, the function-start marker
of `detect_smells`. -/
def fnStart : Re :=
  .seqs [.bol, spaces, .opt pubQualifier, .opt (.seq (.str "async".toList) spaces1), .str "fn".toList,
    spaces1, ident]

end Patterns

/-! ## `detect_smells` -/

/-- `SMELL_PATTERNS`: kind, pattern, severity and message, in the source's order. -/
def smellPatterns : List (String × Re × String × String) :=
  [("wrong_lang_js", Patterns.wrongLangJs, "error", "JavaScript code in Rust file"),
    ("wrong_lang_py", Patterns.wrongLangPy, "error", "Python code in Rust file"),
    ("todo_macro", Patterns.macroCall "todo", "warning", "todo!() placeholder"),
    ("unimplemented", Patterns.macroCall "unimplemented", "warning", "unimplemented!() stub"),
    ("empty_fn", Patterns.emptyFn, "warning", "Empty function body"),
    ("unsafe_block", Patterns.unsafeBlock, "info", "unsafe block (audit required)"),
    ("transmute", Patterns.transmute, "warning", "transmute (extremely unsafe)"),
    ("unwrap_chain", Patterns.unwrapChain, "warning", "Double unwrap chain"),
    ("dbg_macro", Patterns.macroCall "dbg", "info", "dbg!() macro (debug leftover)"),
    ("wildcard_import", Patterns.wildcardImport, "info", "Wildcard import"),
    ("magic_number", Patterns.magicNumber, "info", "Magic number")]

/-- `SMELL_SUGGESTIONS`. -/
def smellSuggestions : List (String × String) :=
  [("wrong_lang_js", "REMOVE - wrong language"), ("wrong_lang_py", "REMOVE - wrong language"),
    ("todo_macro", "Implement or track in issue"), ("unimplemented", "Implement the function"),
    ("empty_fn", "Implement function body"), ("unsafe_block", "Document safety invariants"),
    ("transmute", "Use safe alternatives"), ("unwrap_chain", "Use ? or and_then"),
    ("dbg_macro", "Remove before release"), ("wildcard_import", "Use explicit imports"),
    ("magic_number", "Extract to named constant")]

/-- The pattern loop: for each pattern, every line it is found in. -/
def patternSmells (lines : List (List Char)) (filePath : String) : List Smell :=
  smellPatterns.flatMap fun (kind, r, severity, msg) ↦
    lines.enum.filterMap fun (i, line) ↦
      if search r line then
        some
          { kind := kind, severity := severity, file := filePath, line := i + 1, message := msg,
            context := ⟨(strip line).take 80⟩,
            suggestion := (dictGet smellSuggestions kind).getD "Review and fix", confidence := 9 / 10 }
      else none

/-- `fn_starts`: the 0-based indices of the lines `re.match` finds a function
start at. -/
def fnStarts (lines : List (List Char)) : List ℕ :=
  lines.enum.filterMap fun (i, line) ↦
    if (Patterns.fnStart.matchAt ⟨0, none, line⟩).isSome then some i else none

/-- The smell of a function of `fnLen` lines from line `start`. -/
def longFunctionSmell (lines : List (List Char)) (filePath : String) (start fnLen : ℕ) : Smell :=
  { kind := "long_function", severity := "warning", file := filePath, line := start + 1,
    message := toString fnLen ++ " line function", context := ⟨(strip (lines.getD start [])).take 60⟩,
    suggestion := "Split into smaller functions", confidence := 1 }

/-- A function runs from its marker to the next one, the last to the end of
the file; one of more than 100 lines is reported. -/
def longFunctionSmells (lines : List (List Char)) (filePath : String) : List Smell :=
  let starts := fnStarts lines
  starts.enum.filterMap fun (j, start) ↦
    let fnLen := starts.getD (j + 1) lines.length - start
    if 100 < fnLen then some (longFunctionSmell lines filePath start fnLen) else none

/-- Lines indented by 24 or more whitespace characters. -/
def deepNestingSmells (lines : List (List Char)) (filePath : String) : List Smell :=
  lines.enum.filterMap fun (i, line) ↦
    if 24 ≤ line.length - (line.dropWhile isSpace).length then
      some
        { kind := "deep_nesting", severity := "info", file := filePath, line := i + 1,
          message := "Deep nesting (6+ levels)", context := ⟨(strip line).take 60⟩,
          suggestion := "Extract helper function", confidence := 4 / 5 }
    else none

/-- `detect_smells(content, file_path)`. -/
def detectSmells (content filePath : String) : List Smell :=
  let lines := content.data.splitOn '\n'
  patternSmells lines filePath ++ longFunctionSmells lines filePath ++ deepNestingSmells lines filePath

theorem kind_of_mem_longFunctionSmells {lines : List (List Char)} {filePath : String} {s : Smell}
    (h : s ∈ longFunctionSmells lines filePath) : s.kind = "long_function" := by
  obtain ⟨⟨_, _⟩, -, hs⟩ := List.mem_filterMap.mp h
  dsimp only at hs
  split_ifs at hs
  exact Option.some_injective _ hs ▸ rfl

theorem kind_of_mem_deepNestingSmells {lines : List (List Char)} {filePath : String} {s : Smell}
    (h : s ∈ deepNestingSmells lines filePath) : s.kind = "deep_nesting" := by
  obtain ⟨⟨_, _⟩, -, hs⟩ := List.mem_filterMap.mp h
  dsimp only at hs
  split_ifs at hs
  exact Option.some_injective _ hs ▸ rfl

/-! ## Long functions -/

theorem mem_patternSmells {lines : List (List Char)} {filePath : String} {s : Smell}
    (h : s ∈ patternSmells lines filePath) :
    ∃ e ∈ smellPatterns, ∃ i < lines.length, s.kind = e.1 ∧ s.severity = e.2.2.1 ∧
      s.file = filePath ∧ s.line = i + 1 ∧ s.confidence = 9 / 10 := by
  obtain ⟨e, he, hs⟩ := List.mem_flatMap.mp h
  obtain ⟨⟨i, line⟩, hi, hs⟩ := List.mem_filterMap.mp hs
  dsimp only at hs
  split_ifs at hs
  cases hs
  exact ⟨e, he, i, List.fst_lt_of_mem_enum hi, rfl, rfl, rfl, rfl, rfl⟩

theorem lt_length_of_mem_fnStarts {lines : List (List Char)} {i : ℕ} (h : i ∈ fnStarts lines) :
    i < lines.length := by
  obtain ⟨⟨j, line⟩, hj, hi⟩ := List.mem_filterMap.mp h
  dsimp only at hi
  split_ifs at hi
  cases hi
  exact List.fst_lt_of_mem_enum hj

theorem fnStarts_sorted (lines : List (List Char)) : (fnStarts lines).Pairwise (· < ·) := by
  have h : (lines.enum.map Prod.fst).Pairwise (· < ·) := by
    rw [List.enum_map_fst]
    exact List.pairwise_lt_range _
  refine List.pairwise_filterMap.mpr ((List.pairwise_map.mp h).imp ?_)
  rintro ⟨i, l⟩ ⟨j, m⟩ hij x hx y hy
  simp only [Option.mem_def, Option.ite_none_right_eq_some, Option.some.injEq] at hx hy
  exact hx.2 ▸ hy.2 ▸ hij

theorem enum_map_getD_succ {α : Type} (l : List α) (d : α) :
    l.enum.map (fun p ↦ (p.2, l.getD (p.1 + 1) d)) = l.zip (l.tail ++ [d]) := by
  refine List.ext_getElem (by simp; omega) fun i h₁ h₂ ↦ ?_
  simp only [List.getElem_map, List.getElem_enum, List.getElem_zip, List.getD_eq_getElem?_getD]
  congr 1
  by_cases hi : i + 1 < l.length
  · rw [List.getElem_append_left (by simp; omega)]
    simp [hi]
  · rw [List.getElem_append_right (by simp; omega)]
    simp [List.getElem?_eq_none (Nat.not_lt.mp hi)]

theorem zip_tail_cons (a n : ℕ) (t : List ℕ) :
    (a :: t).zip ((a :: t).tail ++ [n]) = (a, t.headD n) :: t.zip (t.tail ++ [n]) := by
  cases t <;> rfl

section Gaps

/-! A strictly increasing list of markers below `n`, paired each with the next
and the last with `n`, cuts `[head, n)` into consecutive gaps. -/

variable {n : ℕ}

theorem mem_zip_tail : ∀ {s : List ℕ}, s.Pairwise (· < ·) → (∀ k ∈ s, k < n) →
    ∀ p ∈ s.zip (s.tail ++ [n]), p.1 ∈ s ∧ p.2 ≤ n ∧ ∀ k ∈ s, p.1 < k → p.2 ≤ k
  | [], _, _, p, hp => by simp at hp
  | a :: t, hs, hn, p, hp => by
      obtain ⟨ha, ht⟩ := List.pairwise_cons.mp hs
      rw [zip_tail_cons] at hp
      rcases List.mem_cons.mp hp with rfl | hp
      · -- the gap after `a` ends at the least later marker
        refine ⟨List.mem_cons_self _ _, ?_, fun k hk hak ↦ ?_⟩
        · cases t with
          | nil => exact le_rfl
          | cons b t => exact (hn b (by simp)).le
        · obtain rfl | hk := List.mem_cons.mp hk
          · exact absurd hak (lt_irrefl _)
          cases t with
          | nil => simp at hk
          | cons b t =>
              obtain rfl | hk := List.mem_cons.mp hk
              exacts [le_rfl, ((List.pairwise_cons.mp ht).1 k hk).le]
      · obtain ⟨h₁, h₂, h₃⟩ := mem_zip_tail ht (fun k hk ↦ hn k (List.mem_cons_of_mem a hk)) p hp
        refine ⟨List.mem_cons_of_mem a h₁, h₂, fun k hk hpk ↦ ?_⟩
        obtain rfl | hk := List.mem_cons.mp hk
        exacts [absurd (ha _ h₁) (lt_asymm hpk), h₃ k hk hpk]

/-- The gaps longer than `m` take `m + 1` lines each, all of them after the
first marker. -/
theorem length_filter_zip_tail (m : ℕ) : ∀ {s : List ℕ}, s.Pairwise (· < ·) → (∀ k ∈ s, k < n) →
    (m + 1) * ((s.zip (s.tail ++ [n])).filter fun p ↦ m < p.2 - p.1).length + s.headD n ≤ n
  | [], _, _ => by simp
  | a :: t, hs, hn => by
      obtain ⟨ha, ht⟩ := List.pairwise_cons.mp hs
      have ih := length_filter_zip_tail m ht fun k hk ↦ hn k (List.mem_cons_of_mem a hk)
      have hnext : a < t.headD n := by
        cases t with
        | nil => exact hn a (List.mem_singleton_self a)
        | cons b t => exact ha b (List.mem_cons_self b t)
      rw [zip_tail_cons, List.filter_cons]
      split_ifs with h
      · rw [List.length_cons, Nat.mul_succ]
        simp only [decide_eq_true_eq] at h
        simp only [List.headD_cons]
        omega
      · simp only [List.headD_cons]
        omega

end Gaps

theorem longFunctionSmells_eq (lines : List (List Char)) (filePath : String) :
    longFunctionSmells lines filePath =
      ((fnStarts lines).zip ((fnStarts lines).tail ++ [lines.length])).filterMap fun p ↦
        if 100 < p.2 - p.1 then some (longFunctionSmell lines filePath p.1 (p.2 - p.1)) else none := by
  rw [longFunctionSmells, ← enum_map_getD_succ, List.filterMap_map]
  rfl

/-- The long functions of a file are reported in line order, each at a marker
followed by at least 100 more lines of the file with no marker among them;
they do not overlap, so a file of `n` lines has at most `n / 101` of them. -/
theorem detectSmells_long_functions (content filePath : String) :
    let lines := content.data.splitOn '\n'
    let long := (detectSmells content filePath).filter (·.kind = "long_function")
    (long.map (·.line)).Pairwise (· < ·) ∧
      (∀ s ∈ long, s.line - 1 ∈ fnStarts lines ∧ s.line + 99 < lines.length ∧
        ∀ k ∈ fnStarts lines, s.line ≤ k → s.line + 100 ≤ k) ∧
      101 * long.length ≤ lines.length := by
  intro lines long
  have hsorted := fnStarts_sorted lines
  have hlt : ∀ k ∈ fnStarts lines, k < lines.length := fun k hk ↦ lt_length_of_mem_fnStarts hk
  have hlong : long = longFunctionSmells lines filePath := by
    have hpat : (patternSmells lines filePath).filter (·.kind = "long_function") = [] :=
      List.filter_eq_nil_iff.mpr fun s hs ↦ by
        obtain ⟨e, he, -, -, hk, -⟩ := mem_patternSmells hs
        have hne : ∀ e ∈ smellPatterns, e.1 ≠ "long_function" := by decide
        simpa [hk] using hne e he
    have hdeep : (deepNestingSmells lines filePath).filter (·.kind = "long_function") = [] :=
      List.filter_eq_nil_iff.mpr fun s hs ↦ by simp [kind_of_mem_deepNestingSmells hs]
    have hself : (longFunctionSmells lines filePath).filter (·.kind = "long_function") =
        longFunctionSmells lines filePath :=
      List.filter_eq_self.mpr fun s hs ↦ by simp [kind_of_mem_longFunctionSmells hs]
    simp only [long, detectSmells, List.filter_append, hpat, hdeep, hself, List.nil_append, List.append_nil]
  have hline : ∀ p : ℕ × ℕ, ∀ s ∈ (if 100 < p.2 - p.1 then
      some (longFunctionSmell lines filePath p.1 (p.2 - p.1)) else none), 100 < p.2 - p.1 ∧ s.line = p.1 + 1 := by
    intro p s hs
    split_ifs at hs with h
    · exact ⟨h, (Option.some_injective _ hs) ▸ rfl⟩
    · cases hs
  rw [hlong, longFunctionSmells_eq]
  refine ⟨?_, fun s hs ↦ ?_, ?_⟩
  · -- the reported lines follow the markers' order
    have hlen : (fnStarts lines).length ≤ ((fnStarts lines).tail ++ [lines.length]).length := by
      simp only [List.length_append, List.length_tail, List.length_singleton]
      omega
    have hfst := List.pairwise_map.mp ((List.map_fst_zip _ _ hlen).symm ▸ hsorted :
      (((fnStarts lines).zip ((fnStarts lines).tail ++ [lines.length])).map Prod.fst).Pairwise (· < ·))
    refine List.pairwise_map.mpr (List.pairwise_filterMap.mpr (hfst.imp fun {p q} hpq a ha b hb ↦ ?_))
    rw [(hline p a ha).2, (hline q b hb).2]
    omega
  · -- each reported function is a gap of more than 100 lines
    obtain ⟨p, hp, hs⟩ := List.mem_filterMap.mp hs
    obtain ⟨hgap, hl⟩ := hline p s (Option.mem_def.mpr hs)
    obtain ⟨hmem, hend, hnext⟩ := mem_zip_tail hsorted hlt p hp
    rw [hl]
    refine ⟨by simpa using hmem, by omega, fun k hk hpk ↦ ?_⟩
    have := hnext k hk (by omega)
    omega
  · -- the gaps do not overlap
    rw [length_filterMap_eq_length_filter (p := fun q ↦ decide (100 < q.2 - q.1))
      fun q _ ↦ by split_ifs with h <;> simp [h]]
    have := length_filter_zip_tail 100 hsorted hlt
    omega

/-- The function-start markers are not the `fn` symbols: the marker pattern
has no `const` or `unsafe` qualifier, so `pub const fn f` opens no function,
and `fn_sig`'s `^\s*` runs over blank lines, so the symbol after one starts a
line early. -/
theorem fnStarts_differ_from_fn_symbols :
    fnStarts ("pub const fn f() -> u8 \x7b 1 \x7d\n".data.splitOn '\n') = [] ∧
      (extractSymbolsRegex "pub const fn f() -> u8 \x7b 1 \x7d\n" "src/lib.rs" "demo").map
        (fun m ↦ (m.symbols.filter (·.kind = "fn")).map (·.lineStart - 1)) = .ok [0] ∧
      fnStarts ("\nfn g() \x7b\x7d\n".data.splitOn '\n') = [1] ∧
      (extractSymbolsRegex "\nfn g() \x7b\x7d\n" "src/lib.rs" "demo").map
        (fun m ↦ (m.symbols.filter (·.kind = "fn")).map (·.lineStart - 1)) = .ok [0] :=
  ⟨rfl, rfl, rfl, rfl⟩

/-! ## `detect_imported_but_low_signal` -/

/-- `str(symbol)` for the dictionary `asdict` makes of a symbol. -/
def symbolRepr (s : Symbol) : List Char :=
  "\x7b'name': ".toList ++ (pyRepr s.name).data ++ ", 'kind': ".toList ++ (pyRepr s.kind).data ++
    ", 'file': ".toList ++ (pyRepr s.file).data ++ ", 'line_start': ".toList ++
    (toString s.lineStart).data ++ ", 'line_end': ".toList ++ (toString s.lineEnd).data ++
    ", 'visibility': ".toList ++ (pyRepr s.visibility).data ++ ", 'parent': ".toList ++
    (match s.parent with
      | some p => (pyRepr p).data
      | none => "None".toList) ++
    ", 'cfg_features': [".toList ++ join ", ".toList (s.cfgFeatures.map fun f ↦ (pyRepr f).data) ++
    "], 'doc_lines': ".toList ++ (toString s.docLines).data ++ "\x7d".toList

/-- `imported_items`: the last `::` part of the import path with its braces
deleted, split at commas, stripped, the empty ones dropped. -/
def importedItems (impPath : String) : List (List Char) :=
  let parts := splitOnStr "::".toList (impPath.data.filter fun c ↦ c ≠ '\x7b' ∧ c ≠ '\x7d')
  ((((parts.getLastD []).splitOn ',').map strip).filter (· ≠ []))

/-- `import_usages[imp_path].add(sym_name)` on a `defaultdict(set)`, each set
in the order its names were added. -/
def addUser (usages : List (String × List String)) (impPath name : String) :
    List (String × List String) :=
  dictModify usages impPath [] fun users ↦ if name ∈ users then users else users ++ [name]

/-- The usage loop: for every import, every `fn` symbol, every imported item
found in the symbol's text. -/
def importUsages (imports : List Import) (symbols : List Symbol) : List (String × List String) :=
  imports.foldl (fun usages imp ↦
    symbols.foldl (fun usages s ↦
      if s.kind = "fn" then
        (importedItems imp.path).foldl (fun usages item ↦
          if item ≠ [] ∧ contains (symbolRepr s) item then addUser usages imp.path s.name else usages)
          usages
      else usages) usages) []

/-- The smell of an import used by one short function. -/
def lowSignalSmell (modPath impPath fnName : String) (s : Symbol) : Smell :=
  let fnLength : ℤ := s.lineEnd - s.lineStart
  { kind := "imported_but_low_signal", severity := "info", file := modPath, line := s.lineStart,
    message := "Import \"" ++ impPath ++ "\" only used in short function \"" ++ fnName ++ "\"",
    context := toString fnLength ++ " line function",
    suggestion := "Consider inlining or reviewing abstraction", confidence := 3 / 5,
    evidence := ["Import: " ++ impPath, "Function: " ++ fnName, "Length: " ++ toString fnLength ++ " lines"] }

/-- `detect_imported_but_low_signal(module)`: for an import with one user name,
every short `fn` symbol of that name. -/
def detectImportedButLowSignal (m : ModuleInfo) : List Smell :=
  (importUsages m.imports m.symbols).flatMap fun (impPath, users) ↦
    match users with
    | [fnName] =>
        m.symbols.filterMap fun s ↦
          if s.name = fnName ∧ s.kind = "fn" ∧ (s.lineEnd : ℤ) - s.lineStart < 10 then
            some (lowSignalSmell m.path impPath fnName s)
          else none
    | _ => []

/-- Whether `s` is a `fn` symbol whose text has an item of the import `impPath`. -/
def usesImport (impPath : String) (s : Symbol) : Bool :=
  s.kind = "fn" ∧ (importedItems impPath).any fun item ↦ item ≠ [] ∧ contains (symbolRepr s) item

/-- The additions of the usage loop, one for each import, `fn` symbol and item
found in the symbol's text. -/
def usageEvents (imports : List Import) (symbols : List Symbol) : List (String × String) :=
  imports.flatMap fun imp ↦ symbols.flatMap fun s ↦ (importedItems imp.path).filterMap fun item ↦
    if s.kind = "fn" ∧ item ≠ [] ∧ contains (symbolRepr s) item then some (imp.path, s.name) else none

theorem importUsages_eq (imports : List Import) (symbols : List Symbol) :
    importUsages imports symbols = (usageEvents imports symbols).foldl (fun u e ↦ addUser u e.1 e.2) [] := by
  rw [importUsages, usageEvents, foldl_flatMap]
  congr; funext u imp
  rw [foldl_flatMap]
  congr; funext u s
  rw [foldl_filterMap]
  split_ifs with hs
  · congr; funext u item; split_ifs <;> simp_all
  · simp [hs]

theorem mem_usageEvents {imports : List Import} {symbols : List Symbol} {p n : String} :
    (p, n) ∈ usageEvents imports symbols ↔
      (∃ imp ∈ imports, imp.path = p) ∧ ∃ s ∈ symbols, usesImport p s ∧ s.name = n := by
  simp only [usageEvents, usesImport, List.mem_flatMap, List.mem_filterMap, Option.ite_none_right_eq_some,
    Option.some.injEq, Prod.mk.injEq, List.any_eq_true, decide_eq_true_eq]
  constructor
  · rintro ⟨imp, himp, s, hs, item, hitem, ⟨hfn, hne, hc⟩, rfl, rfl⟩
    exact ⟨⟨imp, himp, rfl⟩, s, hs, ⟨hfn, item, hitem, hne, hc⟩, rfl⟩
  · rintro ⟨⟨imp, himp, rfl⟩, s, hs, ⟨hfn, item, hitem, hne, hc⟩, rfl⟩
    exact ⟨imp, himp, s, hs, item, hitem, ⟨hfn, hne, hc⟩, rfl, rfl⟩

theorem dictGet_importUsages (imports : List Import) (symbols : List Symbol) (p : String) :
    dictGet (importUsages imports symbols) p =
      if (usageEvents imports symbols).any (·.1 = p) then
        some (((usageEvents imports symbols).filter (·.1 = p)).foldl
          (fun v e ↦ if e.2 ∈ v then v else v ++ [e.2]) [])
      else none :=
  (importUsages_eq imports symbols).symm ▸
    dictGet_foldl_dictModify Prod.fst [] (fun v e ↦ if e.2 ∈ v then v else v ++ [e.2]) p _ []

/-- The users of an import are the distinct names of the `fn` symbols that
have one of its items in their text. -/
theorem users_of_dictGet_importUsages {imports : List Import} {symbols : List Symbol} {p : String}
    {users : List String} (h : dictGet (importUsages imports symbols) p = some users) :
    (∃ imp ∈ imports, imp.path = p) ∧ users.Nodup ∧
      ∀ n, n ∈ users ↔ ∃ s ∈ symbols, usesImport p s ∧ s.name = n := by
  rw [dictGet_importUsages] at h
  split_ifs at h with hp
  obtain ⟨e, he, hep⟩ := List.any_eq_true.mp hp
  obtain rfl := of_decide_eq_true hep
  obtain rfl := Option.some_injective _ h
  rw [← List.foldl_map Prod.snd (fun v x ↦ if x ∈ v then v else v ++ [x])]
  obtain ⟨hnd, hmem⟩ := foldl_setAdd (((usageEvents imports symbols).filter (·.1 = e.1)).map Prod.snd) []
    List.nodup_nil
  refine ⟨(mem_usageEvents.mp he).1, hnd, fun n ↦ ?_⟩
  rw [hmem]
  simp only [List.not_mem_nil, false_or, List.mem_map, List.mem_filter, decide_eq_true_eq]
  constructor
  · rintro ⟨⟨q, m⟩, ⟨hq, rfl⟩, rfl⟩
    exact (mem_usageEvents.mp hq).2
  · exact fun hs ↦ ⟨(e.1, n), ⟨mem_usageEvents.mpr ⟨(mem_usageEvents.mp he).1, hs⟩, rfl⟩, rfl⟩

theorem keys_nodup_importUsages (imports : List Import) (symbols : List Symbol) :
    ((importUsages imports symbols).map Prod.fst).Nodup := by
  rw [importUsages_eq]
  exact keys_nodup_foldl_dictModify Prod.fst [] _ _ List.nodup_nil

theorem eq_singleton_of_nodup {users : List String} {n : String} (hnd : users.Nodup) (hn : n ∈ users)
    (hall : ∀ x ∈ users, x = n) : users = [n] := by
  have hrep := List.eq_replicate_of_mem hall
  have hlen : users.length = 1 :=
    le_antisymm (List.nodup_replicate.mp (hrep ▸ hnd)) (List.length_pos_of_mem hn)
  rw [hrep, hlen, List.replicate_one]

/-- A low-signal smell is reported for an import and a short `fn` symbol
exactly when some `fn` symbol has an item of the import in its text and all
that do have that symbol's name: users are counted by name, so every short
`fn` of the name is reported, whether or not its own text has the item. -/
theorem mem_detectImportedButLowSignal (m : ModuleInfo) (smell : Smell) :
    smell ∈ detectImportedButLowSignal m ↔
      ∃ imp ∈ m.imports, ∃ s ∈ m.symbols, s.kind = "fn" ∧ (s.lineEnd : ℤ) - s.lineStart < 10 ∧
        (∃ t ∈ m.symbols, usesImport imp.path t) ∧
        (∀ t ∈ m.symbols, usesImport imp.path t → t.name = s.name) ∧
        smell = lowSignalSmell m.path imp.path s.name s := by
  have hkeys := keys_nodup_importUsages m.imports m.symbols
  rw [detectImportedButLowSignal, List.mem_flatMap]
  constructor
  · rintro ⟨⟨p, users⟩, hentry, hs⟩
    obtain ⟨⟨imp, himp, rfl⟩, -, hmem⟩ := users_of_dictGet_importUsages ((dictGet_eq_some_iff hkeys).mpr hentry)
    rcases users with _ | ⟨fnName, _ | ⟨_, _⟩⟩ <;> try exact absurd hs (List.not_mem_nil _)
    obtain ⟨s, hsm, hsmell⟩ := List.mem_filterMap.mp hs
    split_ifs at hsmell with hc
    obtain ⟨rfl, hfn, hshort⟩ := hc
    obtain ⟨t, ht, hut, -⟩ := (hmem s.name).mp (List.mem_singleton_self _)
    refine ⟨imp, himp, s, hsm, hfn, hshort, ⟨t, ht, hut⟩, fun t' ht' hu ↦ ?_, (Option.some_injective _ hsmell).symm⟩
    exact List.mem_singleton.mp ((hmem t'.name).mpr ⟨t', ht', hu, rfl⟩)
  · rintro ⟨imp, himp, s, hs, hfn, hshort, ⟨t, ht, hut⟩, hall, rfl⟩
    have hany : (usageEvents m.imports m.symbols).any (·.1 = imp.path) :=
      List.any_eq_true.mpr ⟨_, mem_usageEvents.mpr ⟨⟨imp, himp, rfl⟩, t, ht, hut, rfl⟩, by simp⟩
    obtain ⟨users, hget⟩ : ∃ users, dictGet (importUsages m.imports m.symbols) imp.path = some users := by
      rw [dictGet_importUsages, if_pos hany]; exact ⟨_, rfl⟩
    obtain ⟨-, hnd, hmem⟩ := users_of_dictGet_importUsages hget
    have hone : users = [s.name] := eq_singleton_of_nodup hnd
      ((hmem s.name).mpr ⟨t, ht, hut, hall t ht hut⟩)
      fun x hx ↦ by obtain ⟨t', ht', hu, rfl⟩ := (hmem x).mp hx; exact hall t' ht' hu
    subst hone
    exact ⟨_, (dictGet_eq_some_iff hkeys).mp hget, List.mem_filterMap.mpr ⟨s, hs, by simp [hfn, hshort]⟩⟩

set_option maxRecDepth 8000 in
/-- The users of an import are a set of names: two `fmt` methods of two
`Display` impls both have `fmt` in their text, the import `std::fmt` has the one
user name `fmt`, and it is reported once for each of them. -/
theorem same_named_fns_share_one_import :
    ∃ m, extractSymbolsRegex ("use std::fmt;\nimpl fmt::Display for A \x7b\n" ++
        "    fn fmt(&self, f: &mut fmt::Formatter) -> fmt::Result \x7b Ok(()) \x7d\n\x7d\n" ++
        "impl fmt::Display for B \x7b\n" ++
        "    fn fmt(&self, f: &mut fmt::Formatter) -> fmt::Result \x7b Ok(()) \x7d\n\x7d\n")
        "src/lib.rs" "demo" = .ok m ∧
      ((m.symbols.filter (·.kind = "fn")).filter fun s ↦ contains (symbolRepr s) "fmt".toList).length = 2 ∧
      (detectImportedButLowSignal m).map (fun s ↦ (s.message, s.line)) =
        [("Import \"std::fmt\" only used in short function \"fmt\"", 3),
          ("Import \"std::fmt\" only used in short function \"fmt\"", 6)] :=
  ⟨_, rfl, rfl, rfl⟩

end Caliber.Analyzer
