import Mathlib.Data.Rat.Defs

/-!
# The analyzer's records

The dataclasses of `rust_workspace_analyzer.py`, field for field, with the
defaults the source gives them.  Python floats are exact rationals here.
`ModuleInfo.name` and `Import.alias` are left out: no analysis reads them.
-/

namespace Caliber.Analyzer

/-- A crate in the dependency graph; `source` is `none` where the source is
Python's `None`. -/
structure CrateNode where
  name : String
  version : String
  source : Option String
  path : Option String := none
  featuresAvailable : List String := []
  featuresEnabled : List String := []
  isWorkspace : Bool := false
deriving DecidableEq, Repr

/-- An edge in the dependency graph. -/
structure DependencyEdge where
  fromCrate : String
  toCrate : String
  kind : String
  features : List String := []
  optional : Bool := false
deriving DecidableEq, Repr

/-- A symbol in the codebase. -/
structure Symbol where
  name : String
  kind : String
  file : String
  lineStart : ℕ
  lineEnd : ℕ
  visibility : String := "private"
  parent : Option String := none
  cfgFeatures : List String := []
  docLines : ℕ := 0
deriving DecidableEq, Repr

/-- A use statement. -/
structure Import where
  path : String
  file : String
  line : ℕ
  isGlob : Bool := false
deriving DecidableEq, Repr

/-- A feature gate in code. -/
structure FeatureGate where
  feature : String
  file : String
  line : ℕ
  kind : String
  scope : String
deriving DecidableEq, Repr

/-- Information about a Rust module. -/
structure ModuleInfo where
  path : String
  crateName : String
  symbols : List Symbol := []
  imports : List Import := []
  featureGates : List FeatureGate := []
  lines : ℕ := 0
  docLines : ℕ := 0
  complexityScore : ℚ := 0
deriving DecidableEq, Repr

/-- A detected code smell. -/
structure Smell where
  kind : String
  severity : String
  file : String
  line : ℕ
  message : String
  context : String
  suggestion : String
  confidence : ℚ := 1
  evidence : List String := []
deriving DecidableEq, Repr

/-- One location of a duplicate cluster: `{"file", "line_start", "line_end"}`. -/
structure Location where
  file : String
  lineStart : ℕ
  lineEnd : ℕ
deriving DecidableEq, Repr

/-- A cluster of duplicate or similar code. -/
structure DuplicateCluster where
  signature : String
  locations : List Location := []
  excerpt : String := ""
  similarity : ℚ := 1
deriving DecidableEq, Repr

end Caliber.Analyzer
