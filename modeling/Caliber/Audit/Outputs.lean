import Caliber.Audit.Crates

/-!
# The type index and the JSON output of the audit

`build_type_index` files every type of every module of every crate under its
full path, `crate::module::Name` or `crate::Name` at the crate root, a later
type of a path overwriting an earlier one, and sorts the index by path.
`generate_json` writes the crates, the smells, that index and the statistics,
among them the number of smells of each kind in a table sorted by kind.

The index is sorted strictly by path and holds, for each path, the last type
filed under it, so it has one entry per type exactly when no two types share a
path.  A crate's name is written as Python formats it, a table as a `dict`.
-/

namespace Caliber.Audit

open Caliber.Py

/-! ## `build_type_index` -/

/-- An entry of the type index; `crate` is the crate's name as it is, a table
when the manifest made it one. -/
structure TypeIndexEntry where
  name : String
  kind : String
  crateName : Entry
  module : String
  file : String
  line : ℕ
  isPub : Bool
deriving DecidableEq, Repr

/-- `f"{crate.name}::{mod_path}::{type_def.name}"`, without the module path for
the crate root. -/
def typeFullPath (crateName modPath typeName : String) : String :=
  if modPath ≠ "" then crateName ++ "::" ++ modPath ++ "::" ++ typeName
  else crateName ++ "::" ++ typeName

/-- `index[full_path] = {...}` of one type; the full path formats the crate's
name with `str`. -/
def typeIndexItem (crateName : Entry) (modPath : String) (t : TypeDef) : String × TypeIndexEntry :=
  (typeFullPath crateName.toStr modPath t.name, ⟨t.name, t.kind, crateName, modPath, t.file, t.line, t.isPub⟩)

/-- `build_type_index(crates)`. -/
def buildTypeIndex (crates : List CrateInfo) : List (String × TypeIndexEntry) :=
  sortItems <| crates.foldl (fun index crate ↦ crate.modules.foldl (fun index e ↦
    e.2.types.foldl (fun index t ↦
      dictSet index (typeIndexItem crate.name e.1 t).1 (typeIndexItem crate.name e.1 t).2) index)
    index) []

/-- The items of the index, in the order the three loops file them. -/
def typeIndexItems (crates : List CrateInfo) : List (String × TypeIndexEntry) :=
  crates.flatMap fun c ↦ c.modules.flatMap fun e ↦ e.2.types.map (typeIndexItem c.name e.1)

theorem buildTypeIndex_eq (crates : List CrateInfo) :
    buildTypeIndex crates = sortItems ((typeIndexItems crates).foldl (fun d p ↦ dictSet d p.1 p.2) []) := by
  simp only [buildTypeIndex, typeIndexItems, foldl_flatMap, List.foldl_map]

/-! ## `generate_json` -/

/-- `stats` of `generate_json`. -/
structure AuditStats where
  totalCrates : ℕ
  totalModules : ℕ
  totalTypes : ℕ
  totalFunctions : ℕ
  totalSmells : ℕ
  smellsByKind : List (String × ℕ)

/-- `smells_by_kind`: the count of each kind of `set(s.kind for s in smells)`,
sorted by kind; the set is enumerated in order of first occurrence, and the
sort makes that order irrelevant. -/
def smellsByKind (smells : List AISmell) : List (String × ℕ) :=
  if smells ≠ [] then
    sortItems (((smells.map (·.kind)).dedup).map fun k ↦ (k, (smells.filter (·.kind = k)).length))
  else []

/-- The statistics of `generate_json`. -/
def auditStats (crates : List CrateInfo) (smells : List AISmell) : AuditStats :=
  { totalCrates := crates.length, totalModules := (crates.map (·.modules.length)).sum,
    totalTypes := (crates.map fun c ↦ (c.modules.map (·.2.types.length)).sum).sum,
    totalFunctions := (crates.map fun c ↦ (c.modules.map (·.2.functions.length)).sum).sum,
    totalSmells := smells.length, smellsByKind := smellsByKind smells }

/-- A crate of the JSON output. -/
structure CrateJson where
  name : Entry
  path : String
  dependencies : List String
  devDependencies : List String
  modules : List (String × ModuleInfo)

/-- What `generate_json` returns; `generatedAt` is the time stamp. -/
structure AuditJson where
  generatedAt : String
  crates : List CrateJson
  aiSmells : List AISmell
  typeIndex : List (String × TypeIndexEntry)
  stats : AuditStats

/-- `generate_json(crates, smells, type_index)`, with the crates' paths under
the resolved root `root`. -/
def generateJson (generatedAt : String) (root : List String) (crates : List CrateInfo)
    (smells : List AISmell) (typeIndex : List (String × TypeIndexEntry)) : AuditJson :=
  { generatedAt := generatedAt,
    crates := crates.map fun c ↦ ⟨c.name, pathText (root ++ c.path), c.dependencies, c.devDependencies,
      c.modules⟩,
    aiSmells := smells, typeIndex := typeIndex, stats := auditStats crates smells }

/-! ## What the index holds -/

theorem length_typeIndexItems (crates : List CrateInfo) :
    (typeIndexItems crates).length = (auditStats crates []).totalTypes := by
  simp [typeIndexItems, auditStats, List.length_flatMap, Function.comp_def]

/-- The type index is sorted strictly by path, in Python's order on strings;
`index[path]` is the entry of the last type filed under `path`, in crate,
module and definition order; and the index has `total_types` entries exactly
when no two types share a path. -/
theorem buildTypeIndex_spec (crates : List CrateInfo) :
    ((buildTypeIndex crates).map Prod.fst).Pairwise (fun a b ↦ ltChars a.data b.data) ∧
      (∀ path, dictGet (buildTypeIndex crates) path =
        (((typeIndexItems crates).filter (·.1 = path)).getLast?).map Prod.snd) ∧
      ((buildTypeIndex crates).length = (auditStats crates []).totalTypes ↔
        ((typeIndexItems crates).map Prod.fst).Nodup) := by
  have hnd := keys_nodup_foldl_dictSet Prod.fst Prod.snd (typeIndexItems crates)
    (d := []) List.nodup_nil
  obtain ⟨hsorted, hget⟩ := sortItems_spec hnd
  rw [buildTypeIndex_eq, ← length_typeIndexItems]
  refine ⟨hsorted, fun path ↦ ?_, ?_⟩
  · rw [hget, dictGet_foldl_dictSet]
    exact Option.or_none
  · rw [(sortItems_perm _).length_eq]
    simpa using length_foldl_dictSet_eq_iff Prod.fst Prod.snd (typeIndexItems crates) (d := [])
      List.nodup_nil

example : (buildTypeIndex [⟨.str "k", [], [], [], [], [("", ⟨"crate", "", "src/lib.rs",
      [⟨"Foo", "struct", "src/lib.rs", 1, true⟩, ⟨"Foo", "enum", "src/lib.rs", 5, true⟩], [], [], []⟩)]⟩]).map
      (fun e ↦ (e.1, e.2.kind)) = [("k::Foo", "enum")] := by decide

/-! ## The table of kinds -/

/-- The table of kinds is sorted strictly by kind, holds for each kind that
occurs the number of smells of that kind, and its counts add up to the number
of smells. -/
theorem smellsByKind_spec (smells : List AISmell) :
    ((smellsByKind smells).map Prod.fst).Pairwise (fun a b ↦ ltChars a.data b.data) ∧
      (∀ kind, dictGet (smellsByKind smells) kind =
        if smells.any (·.kind = kind) then some (smells.filter (·.kind = kind)).length else none) ∧
      ((smellsByKind smells).map Prod.snd).sum = smells.length := by
  rw [smellsByKind]
  split_ifs with hne
  · have hkeys : (((smells.map (·.kind)).dedup.map fun k ↦
        (k, (smells.filter (·.kind = k)).length)).map Prod.fst) = (smells.map (·.kind)).dedup := by
      simp [Function.comp_def]
    obtain ⟨hsorted, hget⟩ := sortItems_spec (hkeys ▸ List.nodup_dedup _)
    refine ⟨hsorted, fun kind ↦ ?_, ?_⟩
    · rw [hget, dictGet_map_pair (fun k ↦ (smells.filter (·.kind = k)).length)]
      simp
    · rw [((sortItems_perm _).map Prod.snd).sum_eq, List.map_map]
      simpa [Function.comp_def, List.count, List.countP_eq_length_filter, Bool.beq_eq_decide_eq,
        List.filter_map] using List.sum_map_count_dedup_eq_length (smells.map (·.kind))
  · simp at hne
    subst hne
    exact ⟨List.Pairwise.nil, fun _ ↦ rfl, rfl⟩

theorem mem_keys_smellsByKind {smells : List AISmell} {kind : String} :
    kind ∈ (smellsByKind smells).map Prod.fst ↔ ∃ s ∈ smells, s.kind = kind := by
  unfold smellsByKind
  split_ifs with h
  · rw [((sortItems_perm _).map Prod.fst).mem_iff]
    simp
  · simp only [ne_eq, not_not] at h
    simp [h]

end Caliber.Audit
