import Caliber.Analyzer.Extract

/-!
# `parse_cargo_toml_features`

The analyzer reads a manifest's `[features]` table with `tomllib` when it can,
and otherwise with a line scan: after a line that is exactly `[features]`,
every line `name = [...]` whose name matches `\w+` gives an entry, until the
next line that starts with `[`.

`tomllib` is a parameter: the table it returns, or nothing when the module is
missing or the text is not TOML.
-/

namespace Caliber.Analyzer

open Caliber.Py Caliber.Pattern

/-- `^(\w+)\s*=\s*\[(.*?)\]`, anchored by `re.match`. -/
def Patterns.featureEntry : Re :=
  .seqs [.bol, .group 1 Patterns.ident, Patterns.spaces, .chr '=', Patterns.spaces, .chr '[',
    .group 2 (.lazyStar (.cls (· != '\n'))), .chr ']']

/-- `[d.strip().strip('"\'') for d in deps.split(',') if d.strip()]`. -/
def featureDeps (deps : List Char) : List String :=
  ((deps.splitOn ',').filter (strip · ≠ [])).map fun d ↦ ⟨stripChars ['"', '\''] (strip d)⟩

/-- The fallback loop over `content.split('\n')`, inside the `[features]`
table or not; a header after it ends the loop. -/
def featuresFallback : Bool → List (String × List String) → List (List Char) →
    List (String × List String)
  | _, features, [] => features
  | inFeatures, features, raw :: rest =>
      let line := strip raw
      if line = "[features]".toList then featuresFallback true features rest
      else if startsWith line "[".toList ∧ inFeatures then features
      else if inFeatures ∧ '=' ∈ line then
        match Patterns.featureEntry.matchAt ⟨0, none, line⟩ with
        | some m => featuresFallback inFeatures
            (dictSet features ⟨groupText m line 1⟩ (featureDeps (groupText m line 2))) rest
        | none => featuresFallback inFeatures features rest
      else featuresFallback inFeatures features rest

/-- `parse_cargo_toml_features(path)`: an unreadable or empty file has no
features; the regex scan runs when `tomllib` gives no non-empty table. -/
def parseCargoTomlFeatures (read : String → Option String)
    (tomllib : String → Option (List (String × List String))) (path : String) :
    List (String × List String) :=
  match read path with
  | none => []
  | some content =>
      if content = "" then []
      else
        let features := (tomllib content).getD []
        if features = [] then featuresFallback false features (content.data.splitOn '\n')
        else features

/-- The scan drops entries that TOML and Cargo accept: a feature name with a
`-` fails `^(\w+)\s*=`, and a `[features]` header followed by a comment never
opens the table.  Plain identifier names are read. -/
theorem featuresFallback_drops_valid_entries :
    parseCargoTomlFeatures (fun _ ↦ some "[features]\nserde-support = [\"serde\"]\n") (fun _ ↦ none)
        "Cargo.toml" = [] ∧
      parseCargoTomlFeatures (fun _ ↦ some "[features] # optional\nextra = [\"serde\"]\n")
        (fun _ ↦ none) "Cargo.toml" = [] ∧
      parseCargoTomlFeatures (fun _ ↦ some "[features]\nextra = [\"serde\"]\n") (fun _ ↦ none)
        "Cargo.toml" = [("extra", ["serde"])] :=
  ⟨rfl, rfl, rfl⟩

end Caliber.Analyzer
