import Caliber.Pattern.Engine

/-!
# The analyzer's patterns

`PATTERNS` of `rust_workspace_analyzer.py`, one syntax tree per entry, and the
two patterns `estimate_symbol_end` and `normalize_code` strip literals and
comments with.  Group numbers are the source's.
-/

namespace Caliber.Analyzer

open Caliber.Py Caliber.Pattern

namespace Patterns

/-- `\s*`. -/
def spaces : Re := .star (.cls isSpace)

/-- `\s+`. -/
def spaces1 : Re := .plus (.cls isSpace)

/-- `\w+`. -/
def ident : Re := .plus (.cls isWord)

/-- `[^c]*`. -/
def noneOf (c : Char) : Re := .star (.cls (· != c))

/-- `pub(?:\([^)]*\))?\s+`. -/
def pubQualifier : Re :=
  .seqs [.str "pub".toList, .opt (.seqs [.chr '(', noneOf ')', .chr ')']), spaces1]

/-- `^\s*(pub(?:\([^)]*\))?\s+)?KEYWORD\s+(\w+)`, the shape of every item pattern. -/
def item (keyword : String) : Re :=
  .seqs [.bol, spaces, .opt (.group 1 pubQualifier), .str keyword.toList, spaces1, .group 2 ident]

def modDecl : Re :=
  .seqs [.bol, spaces, .opt (.group 1 pubQualifier), .str "mod".toList, spaces1, .group 2 ident,
    spaces, .cls fun c ↦ c == ';' || c == '{']

def useStmt : Re :=
  .seqs [.bol, spaces, .opt pubQualifier, .str "use".toList, spaces1,
    .group 1 (.plus (.cls (· != ';'))), .chr ';']

def struct : Re := item "struct"

def enum : Re := item "enum"

def trait : Re := item "trait"

def implBlock : Re :=
  .seqs [.bol, spaces, .str "impl".toList, .opt (.seqs [.chr '<', .plus (.cls (· != '>')), .chr '>']),
    spaces1, .opt (.seqs [.group 1 ident, spaces1, .str "for".toList, spaces1]), .group 2 ident]

def fnSig : Re :=
  .seqs [.bol, spaces, .opt (.group 1 pubQualifier), .opt (.seq (.str "async".toList) spaces1),
    .opt (.seq (.str "const".toList) spaces1), .opt (.seq (.str "unsafe".toList) spaces1),
    .str "fn".toList, spaces1, .group 2 ident]

def constDef : Re := item "const"

def typeAlias : Re := item "type"

def rulesDef : Re := item "macro_rules!"

/-- `#[cfg\s*\(\s*feature\s*=\s*"([^"]+)"\s*\)\]`. -/
def cfgFeature : Re :=
  .seqs [.str "#[cfg".toList, spaces, .chr '(', spaces, .str "feature".toList, spaces, .chr '=',
    spaces, .chr '"', .group 1 (.plus (.cls (· != '"'))), .chr '"', spaces, .chr ')', .chr ']']

/-- `#[cfg\s*\(\s*any\s*\([^)]*feature\s*=\s*"([^"]+)"`. -/
def cfgAnyFeature : Re :=
  .seqs [.str "#[cfg".toList, spaces, .chr '(', spaces, .str "any".toList, spaces, .chr '(',
    noneOf ')', .str "feature".toList, spaces, .chr '=', spaces, .chr '"',
    .group 1 (.plus (.cls (· != '"'))), .chr '"']

/-- `#[cfg_attr\s*\(\s*feature\s*=\s*"([^"]+)"`. -/
def cfgAttrFeature : Re :=
  .seqs [.str "#[cfg_attr".toList, spaces, .chr '(', spaces, .str "feature".toList, spaces,
    .chr '=', spaces, .chr '"', .group 1 (.plus (.cls (· != '"'))), .chr '"']

/-- `"(?:[^"\\]|\\.)*"`: a string literal with backslash escapes. -/
def stringLiteral : Re :=
  .seqs [.chr '"', .star (.alt (.cls fun c ↦ c != '"' && c != '\\') (.seq (.chr '\\')
    (.cls (· != '\n')))), .chr '"']

/-- `'(?:[^'\\]|\\.)'`: a character literal. -/
def charLiteral : Re :=
  .seqs [.chr '\'', .alt (.cls fun c ↦ c != '\'' && c != '\\') (.seq (.chr '\\')
    (.cls (· != '\n'))), .chr '\'']

/-- `//.*$` without `re.M`. -/
def lineComment : Re := .seqs [.str "//".toList, noneOf '\n', .eos]

/-- `//.*$` under `re.M`. -/
def lineCommentM : Re := .seqs [.str "//".toList, noneOf '\n', .eol]

/-- `/\*.*?\*/` under `re.DOTALL`. -/
def blockComment : Re := .seqs [.str "/*".toList, .lazyStar (.cls fun _ ↦ true), .str "*/".toList]

/-- `\s+`. -/
def whitespaceRun : Re := spaces1

end Patterns

end Caliber.Analyzer
