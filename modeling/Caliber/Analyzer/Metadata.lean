import Caliber.Analyzer.Extract

/-!
# `parse_dependency_graph`

`cargo metadata` lists every package of the build, with its id, name, version,
source, manifest path, features and dependencies, and under `resolve` the
features the resolver enabled for each package id.  `parse_dependency_graph`
makes one node per package, keyed by the package's name, one edge per declared
dependency, and copies the features of each resolve node to the node named by
its id up to the first space.  Its second document, the metadata with all
features, is not read.

A document is the part of the JSON the function reads: a key read with
`.get` is optional, `none` where it is absent, and a key read with `[...]` is
required.

Every node of the result is shown to be the node of the last package of its
name, with the features of the last resolve node naming it.
-/

namespace Caliber.Analyzer

open Caliber.Py Caliber.Pattern

/-- A dependency of a package. -/
structure MetaDependency where
  name : String
  kind : Option String
  features : Option (List String)
  optional : Option Bool
deriving DecidableEq, Repr

/-- A package; `source` is absent, `null`, or a string. -/
structure MetaPackage where
  id : String
  name : String
  version : String
  source : Option (Option String)
  manifestPath : Option String
  features : Option (List (String × List String))
  dependencies : Option (List MetaDependency)
deriving DecidableEq, Repr

/-- A node of the resolve graph. -/
structure ResolveNode where
  id : String
  features : Option (List String)
deriving DecidableEq, Repr

/-- A metadata document; `resolve` holds the nodes of the resolve graph, and is
`none` where `resolve` or its `nodes` is absent or `null`. -/
structure Metadata where
  workspaceMembers : Option (List String)
  packages : Option (List MetaPackage)
  resolve : Option (List ResolveNode)
deriving DecidableEq, Repr

/-- `^([^ ]+)`. -/
def Patterns.idName : Re := .seqs [.bol, .group 1 (.plus (.cls (· != ' ')))]

/-- The node of one package. -/
def packageNode (workspaceMembers : List String) (pkg : MetaPackage) : CrateNode :=
  let isWorkspace := pkg.id ∈ workspaceMembers
  { name := pkg.name, version := pkg.version,
    source := if isWorkspace then some "workspace" else pkg.source.getD (some "unknown"),
    path := some ⟨replaceStr "/Cargo.toml".toList [] (pkg.manifestPath.getD "").data⟩,
    featuresAvailable := (pkg.features.getD []).map Prod.fst, isWorkspace := isWorkspace }

/-- The edge of one declared dependency. -/
def dependencyEdge (pkg : MetaPackage) (dep : MetaDependency) : DependencyEdge :=
  { fromCrate := pkg.name, toCrate := dep.name,
    kind := match dep.kind with
      | some k => if k = "" then "normal" else k
      | none => "normal",
    features := dep.features.getD [], optional := dep.optional.getD false }

/-- `{p['id']: p for p in packages}`. -/
def packagesById (packages : List MetaPackage) : List (String × MetaPackage) :=
  packages.foldl (fun d p ↦ dictSet d p.id p) []

/-- One resolve node: the features go to the node named by the id's first
word, if there is one. -/
def enableFeatures (nodes : List (String × CrateNode)) (info : ResolveNode) :
    List (String × CrateNode) :=
  match Patterns.idName.matchAt ⟨0, none, info.id.data⟩ with
  | some m =>
      match dictGet nodes ⟨groupText m info.id.data 1⟩ with
      | some node =>
          dictSet nodes ⟨groupText m info.id.data 1⟩ { node with featuresEnabled := info.features.getD [] }
      | none => nodes
  | none => nodes

/-- `parse_dependency_graph(metadata, full_metadata)`: the nodes by name and the
edges. -/
def parseDependencyGraph (metadata : Metadata) (_fullMetadata : Option Metadata) :
    List (String × CrateNode) × List DependencyEdge :=
  let members := metadata.workspaceMembers.getD []
  let packages := packagesById (metadata.packages.getD [])
  let nodes := packages.foldl (fun nodes e ↦ dictSet nodes e.2.name (packageNode members e.2)) []
  let edges := packages.flatMap fun e ↦ (e.2.dependencies.getD []).map (dependencyEdge e.2)
  ((metadata.resolve.getD []).foldl enableFeatures nodes, edges)

/-- The enabled features of a listed package can be lost three ways: the
resolve graph of the all-features metadata is never read, an id in the
`path+file:///...#name@version` form has no space and names no node, and two
versions of one crate share the node of their name, which takes the features
of the resolve node read last. -/
theorem featuresEnabled_misses_resolved_features :
    (dictGet (parseDependencyGraph
        ⟨some ["demo 0.1.0 (path+file:///w)"],
          some [⟨"demo 0.1.0 (path+file:///w)", "demo", "0.1.0", some none, some "/w/Cargo.toml",
            some [("x", [])], some []⟩], none⟩
        (some ⟨none, none, some [⟨"demo 0.1.0 (path+file:///w)", some ["x"]⟩]⟩)).1 "demo").map
        (·.featuresEnabled) = some [] ∧
      (dictGet (parseDependencyGraph
        ⟨some ["path+file:///w#demo@0.1.0"],
          some [⟨"path+file:///w#demo@0.1.0", "demo", "0.1.0", some none, some "/w/Cargo.toml",
            some [("x", [])], some []⟩],
          some [⟨"path+file:///w#demo@0.1.0", some ["x"]⟩]⟩ none).1 "demo").map
        (·.featuresEnabled) = some [] ∧
      (dictGet (parseDependencyGraph
        ⟨some [],
          some [⟨"log 0.3.9 (registry+x)", "log", "0.3.9", some (some "registry+x"), none, none, none⟩,
            ⟨"log 0.4.20 (registry+x)", "log", "0.4.20", some (some "registry+x"), none, none, none⟩],
          some [⟨"log 0.4.20 (registry+x)", some ["std"]⟩, ⟨"log 0.3.9 (registry+x)", some []⟩]⟩
        none).1 "log").map (fun n ↦ (n.version, n.featuresEnabled)) = some ("0.4.20", []) :=
  ⟨rfl, rfl, rfl⟩

/-! ## The nodes of the graph -/

/-- The crate name `re.match(r'^([^ ]+)', id)` reads off a package id. -/
def idNameOf (id : String) : Option String :=
  (Patterns.idName.matchAt ⟨0, none, id.data⟩).map fun m ↦ ⟨groupText m id.data 1⟩

/-- The features of the last resolve node whose id names `n`, if any does. -/
def resolvedFeatures (resolve : List ResolveNode) (n : String) : Option (List String) :=
  ((resolve.filter (idNameOf ·.id = some n)).getLast?).map (·.features.getD [])

theorem dictGet_enableFeatures (nodes : List (String × CrateNode)) (info : ResolveNode) (n : String) :
    dictGet (enableFeatures nodes info) n =
      (dictGet nodes n).map fun node ↦
        if idNameOf info.id = some n then { node with featuresEnabled := info.features.getD [] } else node := by
  unfold enableFeatures
  cases hm : Patterns.idName.matchAt ⟨0, none, info.id.data⟩ with
  | none => simp [idNameOf, hm]
  | some m =>
      simp only [idNameOf, hm, Option.map_some', Option.some.injEq]
      cases hk : dictGet nodes ⟨groupText m info.id.data 1⟩ with
      | none =>
          by_cases h : (⟨groupText m info.id.data 1⟩ : String) = n
          · subst h; simp [hk]
          · simp [h]
      | some node =>
          rw [dictGet_dictSet]
          by_cases h : (⟨groupText m info.id.data 1⟩ : String) = n
          · subst h; simp [hk]
          · simp [h]

theorem resolvedFeatures_cons (info : ResolveNode) (resolve : List ResolveNode) (n : String) :
    resolvedFeatures (info :: resolve) n =
      (resolvedFeatures resolve n).or (if idNameOf info.id = some n then some (info.features.getD []) else none) := by
  unfold resolvedFeatures
  by_cases h : idNameOf info.id = some n
  · cases hl : (resolve.filter (idNameOf ·.id = some n)).getLast? <;>
      simp [List.filter_cons, h, List.getLast?_cons, hl]
  · simp [List.filter_cons, h]

theorem dictGet_foldl_enableFeatures (n : String) :
    ∀ (resolve : List ResolveNode) (nodes : List (String × CrateNode)),
      dictGet (resolve.foldl enableFeatures nodes) n =
        (dictGet nodes n).map fun node ↦
          { node with featuresEnabled := (resolvedFeatures resolve n).getD node.featuresEnabled }
  | [], nodes => by simp [resolvedFeatures]
  | info :: resolve, nodes => by
      rw [List.foldl_cons, dictGet_foldl_enableFeatures n resolve, dictGet_enableFeatures,
        Option.map_map, resolvedFeatures_cons]
      congr 1
      funext node
      by_cases h : idNameOf info.id = some n <;> cases resolvedFeatures resolve n <;> simp [h]

/-- Each node of `parse_dependency_graph` is the node of the last package (of
those left after keying by id) with its name, with the features of the last
node of `metadata`'s resolve graph whose id's first word is that name; the
second document is not read. -/
theorem dictGet_parseDependencyGraph (metadata : Metadata) (fullMetadata : Option Metadata) (n : String) :
    dictGet (parseDependencyGraph metadata fullMetadata).1 n =
      (((packagesById (metadata.packages.getD [])).filter (·.2.name = n)).getLast?).map fun e ↦
        { packageNode (metadata.workspaceMembers.getD []) e.2 with
          featuresEnabled := (resolvedFeatures (metadata.resolve.getD []) n).getD [] } := by
  rw [parseDependencyGraph, dictGet_foldl_enableFeatures,
    dictGet_foldl_dictSet (fun e : String × MetaPackage ↦ e.2.name)
      (fun e ↦ packageNode (metadata.workspaceMembers.getD []) e.2),
    dictGet_nil, Option.or_none, Option.map_map]
  rfl

/-- Every edge starts at a node of the graph. -/
theorem fromCrate_isSome_parseDependencyGraph (metadata : Metadata) (fullMetadata : Option Metadata) :
    ∀ e ∈ (parseDependencyGraph metadata fullMetadata).2,
      (dictGet (parseDependencyGraph metadata fullMetadata).1 e.fromCrate).isSome := by
  intro e he
  simp only [parseDependencyGraph, List.mem_flatMap, List.mem_map] at he
  obtain ⟨p, hp, d, -, rfl⟩ := he
  rw [dictGet_parseDependencyGraph, Option.isSome_map', Option.isSome_iff_ne_none, Ne,
    List.getLast?_eq_none_iff]
  exact List.ne_nil_of_mem (List.mem_filter.mpr ⟨hp, by simp [dependencyEdge]⟩)

theorem fromCrate_isSome_parseDependencyGraph_one_dependency :
    (⟨"demo", "log", "normal", [], false⟩ : DependencyEdge) ∈
        (parseDependencyGraph ⟨some [], some [⟨"demo 0.1.0 (path+file:///w)", "demo", "0.1.0", some none,
          none, none, some [⟨"log", none, none, none⟩]⟩], none⟩ none).2 ∧
      (dictGet (parseDependencyGraph ⟨some [], some [⟨"demo 0.1.0 (path+file:///w)", "demo", "0.1.0",
        some none, none, none, some [⟨"log", none, none, none⟩]⟩], none⟩ none).1 "demo").isSome :=
  have h : (⟨"demo", "log", "normal", [], false⟩ : DependencyEdge) ∈
      (parseDependencyGraph ⟨some [], some [⟨"demo 0.1.0 (path+file:///w)", "demo", "0.1.0", some none,
        none, none, some [⟨"log", none, none, none⟩]⟩], none⟩ none).2 := by decide
  ⟨h, fromCrate_isSome_parseDependencyGraph _ _ _ h⟩

end Caliber.Analyzer
