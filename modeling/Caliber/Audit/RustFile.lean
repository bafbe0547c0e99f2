import Caliber.Analyzer.Extract

/-!
# The audit's Rust file parser

`parse_rust_file` of `repo_audit.py` scans a file's lines for `TODO`-like
markers and stubs, then runs one multi-line pattern per kind of definition over
the whole text.  Each record carries the 1-based line of its match and an
`is_pub` flag read from the ten characters before the match (twenty, with
`is_async`, for functions).  `parse_use_statement` splits an import at its
first `{` and at the commas after it.

`re.IGNORECASE` folds a letter of a pattern to its other case and to the
characters outside ASCII that Python folds to it.
-/

namespace Caliber.Audit

open Caliber.Py Caliber.Pattern

namespace Patterns

open Caliber.Analyzer.Patterns (spaces spaces1 ident noneOf pubQualifier)

/-- `^\s*(?:pub(?:\([^)]*\))?\s+)?KEYWORD\s+(\w+)`: the shape of the
definition patterns, the name in group 1. -/
def definition (keyword : String) : Re :=
  .seqs [.bol, spaces, .opt pubQualifier, .str keyword.toList, spaces1, .group 1 ident]

/-- `^\s*(?:pub\s+)?mod\s+(\w+)\s*[;{]`. -/
def modDecl : Re :=
  .seqs [.bol, spaces, .opt (.seq (.str "pub".toList) spaces1), .str "mod".toList, spaces1,
    .group 1 ident, spaces, .cls fun c ↦ c == ';' || c == '{']

/-- `^\s*(?:pub\s+)?use\s+([^;]+);`. -/
def useStmt : Re :=
  .seqs [.bol, spaces, .opt (.seq (.str "pub".toList) spaces1), .str "use".toList, spaces1,
    .group 1 (.plus (.cls (· != ';'))), .chr ';']

def structDef : Re := definition "struct"

def enumDef : Re := definition "enum"

def traitDef : Re := definition "trait"

def typeAlias : Re := definition "type"

def constDef : Re := definition "const"

/-- `^\s*impl(?:<[^>]*>)?\s+(?:(\w+)\s+for\s+)?(\w+)`. -/
def implBlock : Re :=
  .seqs [.bol, spaces, .str "impl".toList, .opt (.seqs [.chr '<', noneOf '>', .chr '>']), spaces1,
    .opt (.seqs [.group 1 ident, spaces1, .str "for".toList, spaces1]), .group 2 ident]

/-- `^\s*(?:pub(?:\([^)]*\))?\s+)?(?:async\s+)?fn\s+(\w+)`. -/
def fnDef : Re :=
  .seqs [.bol, spaces, .opt pubQualifier, .opt (.seq (.str "async".toList) spaces1),
    .str "fn".toList, spaces1, .group 1 ident]

/-- Whether `d` matches the ASCII character `c` under `re.IGNORECASE`: its
other case, and for `i`, `k` and `s` the characters outside ASCII that Python
folds to them, `İ` and `ı`, the Kelvin sign, and the long `ſ`. -/
def foldsTo (c d : Char) : Bool :=
  d.toLower == c.toLower || (c.toLower == 'i' && (d.toNat == 0x130 || d.toNat == 0x131)) ||
    (c.toLower == 'k' && d.toNat == 0x212A) || (c.toLower == 's' && d.toNat == 0x17F)

/-- An ASCII literal under `re.IGNORECASE`. -/
def caseless (s : String) : Re :=
  .seqs (s.toList.map fun c ↦ .cls (foldsTo c))

/-- `(?:TODO|FIXME|XXX|HACK|WARN)` under `re.IGNORECASE`. -/
def todo : Re :=
  .alt (caseless "TODO") (.alt (caseless "FIXME") (.alt (caseless "XXX")
    (.alt (caseless "HACK") (caseless "WARN"))))

/-- `(?:unimplemented!|todo!|panic!\s*\(\s*"(?:not implemented|TODO)")` under
`re.IGNORECASE`. -/
def unimplemented : Re :=
  .alt (caseless "unimplemented!") (.alt (caseless "todo!")
    (.seqs [caseless "panic!", spaces, .chr '(', spaces, .chr '"',
      .alt (caseless "not implemented") (caseless "TODO"), .chr '"']))

end Patterns

/-! ## The records of one file -/

/-- An entry of `result['types']`. -/
structure TypeRecord where
  name : String
  kind : String
  line : ℕ
  isPub : Bool
deriving DecidableEq, Repr

/-- An entry of `result['functions']`. -/
structure FunctionRecord where
  name : String
  line : ℕ
  isPub : Bool
  isAsync : Bool
deriving DecidableEq, Repr

/-- What `parse_use_statement` returns. -/
structure UseParts where
  path : String
  items : List String
deriving DecidableEq, Repr

/-- An entry of `result['uses']`. -/
structure UseRecord where
  raw : String
  path : String
  items : List String
  line : ℕ
  isPub : Bool
deriving DecidableEq, Repr

/-- An entry of `result['impls']`. -/
structure ImplRecord where
  trait : Option String
  target : String
  line : ℕ
deriving DecidableEq, Repr

/-- An entry of `result['mods']`. -/
structure ModRecord where
  name : String
  line : ℕ
  isPub : Bool
deriving DecidableEq, Repr

/-- An entry of `result['todos']` or `result['stubs']`. -/
structure LineNote where
  line : ℕ
  text : String
deriving DecidableEq, Repr

/-- The dictionary `parse_rust_file` returns for a file it could read. -/
structure ParsedFile where
  types : List TypeRecord
  functions : List FunctionRecord
  uses : List UseRecord
  impls : List ImplRecord
  mods : List ModRecord
  todos : List LineNote
  stubs : List LineNote
deriving DecidableEq, Repr

/-! ## `parse_use_statement` -/

/-- `s.split(' as ')[0]`. -/
def beforeAs (s : List Char) : List Char := (splitOnStr " as ".toList s).headD []

/-- `parse_use_statement(raw)`: a braced import is cut at its first `{`, and
the rest split at every comma; any other import is cut at its last `::`. -/
def parseUseStatement (raw : List Char) : UseParts :=
  if '{' ∈ raw then
    let path := rstripChars [':'] (strip (partition '{' raw).1)
    let itemsStr := strip (rstripChars ['}'] (partition '{' raw).2)
    ⟨⟨path⟩, ((itemsStr.splitOn ',').filter (strip · ≠ [])).map fun item ↦
      ⟨strip (beforeAs (strip item))⟩⟩
  else
    let parts := splitOnStr "::".toList raw
    let item := strip (beforeAs (parts.getLastD []))
    ⟨⟨if 1 < parts.length then join "::".toList parts.dropLast else []⟩, [⟨item⟩]⟩

/-! ## Use trees -/

/-- A Rust use tree: a path segment before a subtree, a name with an optional
alias (`self` among them), a glob, or a brace group. -/
inductive UseTree where
  | path (segment : String) (tree : UseTree)
  | name (ident : String) (rename : Option String)
  | glob
  | group (trees : List UseTree)

mutual

/-- The source text of a use tree, with `, ` between the members of a group. -/
def UseTree.render : UseTree → List Char
  | .path seg t => seg.toList ++ "::".toList ++ t.render
  | .name n none => n.toList
  | .name n (some a) => n.toList ++ " as ".toList ++ a.toList
  | .glob => ['*']
  | .group ts => '\x7b' :: UseTree.renderAll ts ++ ['\x7d']

/-- The members of a group, separated by `, `. -/
def UseTree.renderAll : List UseTree → List Char
  | [] => []
  | [t] => t.render
  | t :: ts => t.render ++ ", ".toList ++ UseTree.renderAll ts

end

mutual

/-- The final identifiers of the leaves of a use tree, in source order: the
name without its alias, `*` for a glob. -/
def UseTree.leaves : UseTree → List String
  | .path _ t => t.leaves
  | .name n _ => [n]
  | .glob => ["*"]
  | .group ts => UseTree.leavesAll ts

/-- The leaves of the members of a group, in order. -/
def UseTree.leavesAll : List UseTree → List String
  | [] => []
  | t :: ts => t.leaves ++ UseTree.leavesAll ts

end

/-- A nested group is cut at its commas, not at its leaves: the items of
`a::{b::{C, D}, E}` are `b::{C`, `D}` and `E`. -/
theorem nested_use_group_items_not_leaves :
    (UseTree.path "a" (.group [.path "b" (.group [.name "C" none, .name "D" none]),
        .name "E" none])).render = "a::\x7bb::\x7bC, D\x7d, E\x7d".toList ∧
      (UseTree.path "a" (.group [.path "b" (.group [.name "C" none, .name "D" none]),
        .name "E" none])).leaves = ["C", "D", "E"] ∧
      (parseUseStatement "a::\x7bb::\x7bC, D\x7d, E\x7d".toList).items =
        ["b::\x7bC", "D\x7d", "E"] :=
  ⟨rfl, rfl, rfl⟩

/-! ## `parse_rust_file` -/

/-- `'pub' in content[max(0, match.start() - n):match.start()]`, and the same
for any other word. -/
def wordBefore (text : List Char) (n start : ℕ) (word : String) : Bool :=
  contains ((text.take start).drop (start - n)) word.toList

/-- The records of one definition pattern, kind `kind`. -/
def typesOf (text : List Char) (kind : String) (r : Re) : List TypeRecord :=
  (finditer r text).map fun m ↦
    ⟨⟨Caliber.Analyzer.groupText m text 1⟩, kind, lineNo text m.start, wordBefore text 10 m.start "pub"⟩

/-- The lines a pattern finds somewhere in, numbered from 1, with their text
stripped. -/
def notesOf (r : Re) (lines : List (List Char)) : List LineNote :=
  ((List.range lines.length).zip lines).filterMap fun (i, l) ↦
    if search r l then some ⟨i + 1, ⟨strip l⟩⟩ else none

theorem mem_notesOf {r : Re} {lines : List (List Char)} {n : LineNote} :
    n ∈ notesOf r lines ↔ ∃ i l, lines[i]? = some l ∧ search r l ∧ n = ⟨i + 1, ⟨strip l⟩⟩ := by
  simp only [notesOf, List.mem_filterMap, ← List.enum_eq_zip_range, Prod.exists,
    List.mem_enum_iff_getElem?]
  refine exists_congr fun i ↦ exists_congr fun l ↦ and_congr_right fun _ ↦ ?_
  split_ifs with h <;> simp [h, eq_comm]

/-- `parse_rust_file(path)` on the file's text. -/
def parseRustFile (content : String) : ParsedFile :=
  let text := content.data
  let lines := splitlines text
  { types := typesOf text "struct" Patterns.structDef ++ typesOf text "enum" Patterns.enumDef ++
      typesOf text "trait" Patterns.traitDef ++ typesOf text "type_alias" Patterns.typeAlias ++
      typesOf text "const" Patterns.constDef,
    functions := (finditer Patterns.fnDef text).map fun m ↦
      ⟨⟨Caliber.Analyzer.groupText m text 1⟩, lineNo text m.start, wordBefore text 20 m.start "pub",
        wordBefore text 20 m.start "async"⟩,
    uses := (finditer Patterns.useStmt text).map fun m ↦
      let raw := strip (Caliber.Analyzer.groupText m text 1)
      let parts := parseUseStatement raw
      ⟨⟨raw⟩, parts.path, parts.items, lineNo text m.start, wordBefore text 10 m.start "pub"⟩,
    impls := (finditer Patterns.implBlock text).map fun m ↦
      ⟨(m.group text 1).map (⟨·⟩), ⟨Caliber.Analyzer.groupText m text 2⟩, lineNo text m.start⟩,
    mods := (finditer Patterns.modDecl text).map fun m ↦
      ⟨⟨Caliber.Analyzer.groupText m text 1⟩, lineNo text m.start, wordBefore text 10 m.start "pub"⟩,
    todos := notesOf Patterns.todo lines,
    stubs := notesOf Patterns.unimplemented lines }

/-- The recorded visibility does not follow the qualifier written on the
definition: `extract_symbols_regex` records `pub(crate)` as `pub`, and
`parse_rust_file` reads `is_pub` and `is_async` from the text before the
match, which starts at the beginning of the definition's line. -/
theorem visibility_read_beside_the_qualifier :
    (Caliber.Analyzer.extractSymbolsRegex "pub(crate) struct A;\n" "src/lib.rs" "demo").map
        (fun m ↦ m.symbols.map fun s ↦ (s.name, s.visibility)) = .ok [("A", "pub")] ∧
      (parseRustFile "pub struct Shown;\n// not pub\nstruct Hidden;\n").types.map
        (fun t ↦ (t.name, t.isPub)) = [("Shown", false), ("Hidden", true)] ∧
      (parseRustFile "pub async fn run() \x7b\x7d\n").functions.map
        (fun f ↦ (f.name, f.isPub, f.isAsync)) = [("run", false, false)] :=
  ⟨rfl, rfl, rfl⟩

/-! ## Line numbers of the notes -/

/-- Every note of `notes` is numbered by the count of newlines before the
offset its line begins at, and holds the stripped text of that line, in which
`r` is found. -/
def NumberedByNewlines (r : Re) (text : List Char) (notes : List LineNote) : Prop :=
  ∀ n ∈ notes, ∃ o, (o = 0 ∨ text[o - 1]? = some '\n') ∧ lineNo text o = n.line ∧
    search r (lineAt text o) ∧ n.text = ⟨strip (lineAt text o)⟩

theorem notesOf_numberedByNewlines (r : Re) {text : List Char}
    (h : ∀ c ∈ text, isLineBreak c → c = '\n') : NumberedByNewlines r text (notesOf r (splitlines text)) := by
  intro n hn
  obtain ⟨i, l, hl, hs, rfl⟩ := mem_notesOf.mp hn
  obtain ⟨o, ho, hno, rfl⟩ := exists_lineStart_of_splitOn (getElem?_splitOn_of_splitlines h hl)
  exact ⟨o, ho, hno, hs, rfl⟩

/-- Where `\n` is the only line break of the text, the enumerated lines of
`parse_rust_file` agree with the count of newlines: each `TODO` and stub is
reported at the line number of the offset its line begins at. -/
theorem parseRustFile_notes_numbered_by_newlines (content : String)
    (h : ∀ c ∈ content.data, isLineBreak c → c = '\n') :
    NumberedByNewlines Patterns.todo content.data (parseRustFile content).todos ∧
      NumberedByNewlines Patterns.unimplemented content.data (parseRustFile content).stubs :=
  ⟨notesOf_numberedByNewlines _ h, notesOf_numberedByNewlines _ h⟩

theorem parseRustFile_notes_numbered_by_newlines_todo_file :
    (∀ c ∈ "fn f() \x7b\n    // TODO x\n    todo!()\n\x7d\n".data, isLineBreak c → c = '\n') ∧
      NumberedByNewlines Patterns.todo "fn f() \x7b\n    // TODO x\n    todo!()\n\x7d\n".data
        (parseRustFile "fn f() \x7b\n    // TODO x\n    todo!()\n\x7d\n").todos ∧
      NumberedByNewlines Patterns.unimplemented "fn f() \x7b\n    // TODO x\n    todo!()\n\x7d\n".data
        (parseRustFile "fn f() \x7b\n    // TODO x\n    todo!()\n\x7d\n").stubs :=
  have h : ∀ c ∈ "fn f() \x7b\n    // TODO x\n    todo!()\n\x7d\n".data, isLineBreak c → c = '\n' := by
    decide
  ⟨h, parseRustFile_notes_numbered_by_newlines _ h⟩

end Caliber.Audit
