import Caliber.Analyzer.Duplicates

/-!
# `normalize_code` against one lexical scan

`normalize_code` runs four substitutions one after another: block comments,
line comments, string literals, character literals.  Each pass sees the text
the previous ones left, so a comment marker inside a string literal, or a quote
inside a comment, changes what a later pass removes.

The reference here reads the text once, left to right, as a lexer does:
string literals with backslash escapes, character literals, `//` line comments
and non-nested `/* */` block comments are recognised only where they begin
outside every literal and comment.  It deletes the comments, writes `""` for a
string and `''` for a character literal, and then collapses whitespace runs and
trims as `normalize_code` does.
-/

namespace Caliber.Analyzer

open Caliber.Py Caliber.Pattern

/-- Where the scan is: in code, in a string literal, in a line comment or in a
block comment. -/
inductive LexState where
  | code
  | str
  | lineComment
  | blockComment
deriving DecidableEq, Repr

/-- One left-to-right scan: comments go, each string literal becomes `""` and
each character literal `''`.  An unclosed string or block comment runs to the
end of the text; a quote that opens no character literal, as in a lifetime,
stays. -/
def lexScan : LexState → List Char → List Char
  | _, [] => []
  | .code, '/' :: '/' :: rest => lexScan .lineComment rest
  | .code, '/' :: '*' :: rest => lexScan .blockComment rest
  | .code, '"' :: rest => '"' :: '"' :: lexScan .str rest
  | .code, '\'' :: '\\' :: _ :: '\'' :: rest => '\'' :: '\'' :: lexScan .code rest
  | .code, '\'' :: c :: '\'' :: rest =>
      if c = '\'' ∨ c = '\\' then '\'' :: lexScan .code (c :: '\'' :: rest)
      else '\'' :: '\'' :: lexScan .code rest
  | .code, c :: rest => c :: lexScan .code rest
  | .str, '\\' :: _ :: rest => lexScan .str rest
  | .str, '"' :: rest => lexScan .code rest
  | .str, _ :: rest => lexScan .str rest
  | .lineComment, '\n' :: rest => '\n' :: lexScan .code rest
  | .lineComment, _ :: rest => lexScan .lineComment rest
  | .blockComment, '*' :: '/' :: rest => lexScan .code rest
  | .blockComment, _ :: rest => lexScan .blockComment rest

/-- The reference normalization: the scan, then whitespace runs to one space,
then `strip()`. -/
def normalizeByScan (code : List Char) : List Char :=
  strip (sub Patterns.whitespaceRun [' '] (lexScan .code code))

/-- A `//` inside a string literal starts a line comment for the second pass,
which deletes the rest of the line, closing quote and `;` included; the string
pass then finds no literal.  The scan keeps the statement. -/
theorem normalizeCode_cuts_string_at_slashes :
    normalizeCode "let s = \"a//b\";".toList = "let s = \"a".toList ∧
      normalizeByScan "let s = \"a//b\";".toList = "let s = \"\";".toList :=
  ⟨rfl, rfl⟩

end Caliber.Analyzer
