import Caliber.Audit.CargoToml
import Caliber.Audit.RustFile

/-!
# Crates and the audit's smells

`scan_crate` parses a crate's manifest and every Rust file under its `src/`,
and files each file's definitions under the module path `get_module_path`
gives it.  `detect_ai_smells` indexes the type definitions of all crates by
name, walks the files again, and reports phantom imports, `TODO` density,
stubs, same-crate duplicate definitions and two suspicious paths, sorted by
file and line.

A crate directory is its path from the repository root, its directory name,
the text of its `Cargo.toml` if there is one, and the files `iter_files` lists
under `src/` in walk order, if that directory exists; a file whose text cannot
be read has none.
-/

namespace Caliber.Audit

open Caliber.Py Caliber.Pattern

/-- A Rust file under a crate's `src/`: its path from the crate directory, as
`Path.parts`, and what `read_text` returns. -/
structure SourceFile where
  parts : List String
  content : Option String

/-- What `scan_crate` and `detect_ai_smells` read of a crate directory. -/
structure CrateDir where
  path : List String
  dirName : String
  cargoToml : Option String
  src : Option (List SourceFile)

/-! ## `scan_crate` -/

/-- `TypeDef`. -/
structure TypeDef where
  name : String
  kind : String
  file : String
  line : ℕ
  isPub : Bool
deriving DecidableEq, Repr

/-- `FunctionDef`. -/
structure FunctionDef where
  name : String
  file : String
  line : ℕ
  isPub : Bool
  isAsync : Bool
deriving DecidableEq, Repr

/-- `UseStatement`. -/
structure UseStatement where
  raw : String
  path : String
  importedItems : List String
  file : String
  line : ℕ
  isPub : Bool
deriving DecidableEq, Repr

/-- `ImplBlock`. -/
structure ImplBlock where
  traitName : Option String
  targetType : String
  file : String
  line : ℕ
deriving DecidableEq, Repr

/-- The audit's `ModuleInfo`; `is_pub` and `submodules` keep their defaults. -/
structure ModuleInfo where
  name : String
  path : String
  file : String
  types : List TypeDef
  functions : List FunctionDef
  uses : List UseStatement
  impls : List ImplBlock
deriving DecidableEq, Repr

/-- `isinstance(value, dict)` for a manifest value. -/
def Entry.isTable : Entry → Bool
  | .str _ => false
  | .table _ => true

/-- `str(value)`: a string is itself, a table is written as Python writes a
`dict`, with the `repr` of each key and value. -/
def Entry.toStr : Entry → String
  | .str s => s
  | .table t => "\x7b" ++ ", ".intercalate (t.map fun kv ↦ pyRepr kv.1 ++ ": " ++ pyRepr kv.2) ++ "\x7d"

/-- `CrateInfo`; `path` is the crate directory's path from the root, and
`name` is `package.name`, a table when a `[package.name]` header opened one. -/
structure CrateInfo where
  name : Entry
  path : List String
  cargoToml : Manifest
  dependencies : List String
  devDependencies : List String
  modules : List (String × ModuleInfo)

/-- `str(path)` for a relative path. -/
def pathText (parts : List String) : String := "/".intercalate parts

/-- `get_module_path(rel_path)`. -/
def getModulePath (parts : List String) : String :=
  let parts := if parts.head? = some "src" then parts.tail else parts
  if parts = ["lib.rs"] then ""
  else if parts = ["main.rs"] then ""
  else
    let parts :=
      match parts.getLast? with
      | some "mod.rs" => parts.dropLast
      | some last =>
          if ".rs".toList.isSuffixOf last.data then parts.dropLast ++ [⟨last.data.take (last.length - 3)⟩]
          else parts
      | none => parts
    "::".intercalate parts

/-- The `ModuleInfo` of one parsed file. -/
def moduleOf (modulePath : String) (parts : List String) (parsed : ParsedFile) : ModuleInfo :=
  let file := pathText parts
  { name := if modulePath = "" then "crate" else ⟨(splitOnStr "::".toList modulePath.data).getLastD []⟩,
    path := modulePath, file := file,
    types := parsed.types.map fun t ↦ ⟨t.name, t.kind, file, t.line, t.isPub⟩,
    functions := parsed.functions.map fun f ↦ ⟨f.name, file, f.line, f.isPub, f.isAsync⟩,
    uses := parsed.uses.map fun u ↦ ⟨u.raw, u.path, u.items, file, u.line, u.isPub⟩,
    impls := parsed.impls.map fun i ↦ ⟨i.trait, i.target, file, i.line⟩ }

/-- The `ModuleInfo` of a file that `parse_rust_file` could read. -/
def readModule (f : SourceFile) : Option ModuleInfo :=
  f.content.map fun content ↦ moduleOf (getModulePath f.parts) f.parts (parseRustFile content)

/-- One iteration of the loop over the files: `crate.modules[module_path] =
mod_info` when the file could be read. -/
def addSourceFile (modules : List (String × ModuleInfo)) (f : SourceFile) :
    List (String × ModuleInfo) :=
  match readModule f with
  | some m => dictSet modules (getModulePath f.parts) m
  | none => modules

/-- The loop over the files. -/
def scanModules (files : List SourceFile) : List (String × ModuleInfo) :=
  files.foldl addSourceFile []

/-- `scan_crate(crate_path, ...)`; it raises what `parse_cargo_toml` raises. -/
def scanCrate (dir : CrateDir) : Except String CrateInfo := do
  let cargo ← match dir.cargoToml with
    | some text => parseCargoToml text
    | none => pure []
  let name := ((dictGet cargo "package").bind (dictGet · "name")).getD (.str dir.dirName)
  pure
    { name := name, path := dir.path, cargoToml := cargo,
      dependencies := ((dictGet cargo "dependencies").getD []).map Prod.fst,
      devDependencies := ((dictGet cargo "dev-dependencies").getD []).map Prod.fst,
      modules := scanModules (dir.src.getD []) }

theorem isSome_readModule (f : SourceFile) : (readModule f).isSome = f.content.isSome := by
  cases h : f.content <;> simp [readModule, h]

/-! ### The modules of a crate -/

theorem dictGet_addSourceFile (modules : List (String × ModuleInfo)) (f : SourceFile) (p : String) :
    dictGet (addSourceFile modules f) p =
      if getModulePath f.parts = p then (readModule f).or (dictGet modules p) else dictGet modules p := by
  unfold addSourceFile
  cases readModule f <;> split_ifs <;> simp_all

/-- A module path holds the module of the last readable file with that path;
the files scanned before it under the same path leave nothing. -/
theorem dictGet_scanModules (files : List SourceFile) (p : String) :
    dictGet (scanModules files) p =
      ((files.filter (getModulePath ·.parts = p)).filterMap readModule).getLast? := by
  unfold scanModules
  induction files using List.reverseRecOn with
  | nil => rfl
  | append_singleton files f ih =>
      rw [List.foldl_append, List.foldl_cons, List.foldl_nil, dictGet_addSourceFile, ih,
        List.filter_append]
      by_cases hp : getModulePath f.parts = p
      · cases h : readModule f <;> simp [hp, h, List.filterMap_append, List.getLast?_append]
      · simp [hp]

/-- The module paths of the readable files, in scan order. -/
def readablePaths (files : List SourceFile) : List String :=
  (files.filter (·.content.isSome)).map (getModulePath ·.parts)

theorem keys_addSourceFile {modules : List (String × ModuleInfo)} (h : (modules.map Prod.fst).Nodup)
    (f : SourceFile) :
    ((addSourceFile modules f).map Prod.fst).Nodup ∧
      ((addSourceFile modules f).map Prod.fst).toFinset =
        (modules.map Prod.fst).toFinset ∪ (readablePaths [f]).toFinset := by
  have hread := isSome_readModule f
  unfold addSourceFile readablePaths
  cases hm : readModule f with
  | none =>
      have hc : f.content.isSome = false := by rw [← hread, hm]; rfl
      simp [h, hc]
  | some m =>
      have hc : f.content.isSome = true := by rw [← hread, hm]; rfl
      rw [map_fst_dictSet]
      split <;> simp_all [List.nodup_append]

theorem keys_foldl_addSourceFile (files : List SourceFile) :
    ∀ {modules : List (String × ModuleInfo)}, (modules.map Prod.fst).Nodup →
      ((files.foldl addSourceFile modules).map Prod.fst).Nodup ∧
        ((files.foldl addSourceFile modules).map Prod.fst).toFinset =
          (modules.map Prod.fst).toFinset ∪ (readablePaths files).toFinset := by
  induction files with
  | nil => simp [readablePaths]
  | cons f files ih =>
      intro modules h
      obtain ⟨hnd, hkeys⟩ := keys_addSourceFile h f
      obtain ⟨hnd', hkeys'⟩ := ih hnd
      have hsplit : readablePaths (f :: files) = readablePaths [f] ++ readablePaths files := by
        simp only [readablePaths, ← List.map_append, ← List.filter_append, List.singleton_append]
      refine ⟨hnd', ?_⟩
      rw [List.foldl_cons, hkeys', hkeys, hsplit, List.toFinset_append, Finset.union_assoc]

/-- `scan_crate` keeps one module per readable file exactly when no two
readable files have the same module path. -/
theorem length_scanModules_eq_iff (files : List SourceFile) :
    (scanModules files).length = (files.filter (·.content.isSome)).length ↔
      (readablePaths files).Nodup := by
  obtain ⟨hnd, hkeys⟩ := @keys_foldl_addSourceFile files [] List.nodup_nil
  have hcard : (scanModules files).length = (readablePaths files).toFinset.card := by
    rw [← List.length_map _ Prod.fst, scanModules, ← List.toFinset_card_of_nodup hnd, hkeys]
    simp
  have hlen : (files.filter (·.content.isSome)).length = (readablePaths files).length :=
    (List.length_map _ _).symm
  rw [hcard, hlen, List.card_toFinset]
  exact ⟨fun h ↦ List.dedup_eq_self.mp ((List.dedup_sublist _).eq_of_length h),
    fun h ↦ by rw [List.dedup_eq_self.mpr h]⟩

/-- `src/lib.rs` and `src/main.rs` are both the crate root `""`, so the
module of the file scanned later replaces the other: the struct `A` of
`lib.rs` is in no module of the crate. -/
theorem lib_and_main_share_module_path :
    getModulePath ["src", "lib.rs"] = getModulePath ["src", "main.rs"] ∧
      (scanCrate ⟨["demo"], "demo", none, some [⟨["src", "lib.rs"], some "pub struct A;\n"⟩,
          ⟨["src", "main.rs"], some "fn main() \x7b\x7d\n"⟩]⟩).map
        (fun c ↦ c.modules.map fun e ↦ (e.1, e.2.file, e.2.types.map (·.name))) =
        .ok [("", "src/main.rs", [])] :=
  ⟨rfl, rfl⟩

/-! ## `detect_ai_smells` -/

/-- `AISmell`. -/
structure AISmell where
  kind : String
  severity : String
  file : String
  line : ℕ
  message : String
  context : Option String
  suggestion : Option String
deriving DecidableEq, Repr

/-- What `str.startswith` raises for a `dict` prefix. -/
def startswithError : String :=
  "TypeError: startswith first arg must be str or a tuple of str, not dict"

/-- What a `dict` raises as a dictionary key. -/
def unhashableError : String := "TypeError: unhashable type: 'dict'"

/-- `all_types`: each type name with its `(crate, file, line)` locations, in
crate, module and definition order. -/
def allTypes (crates : List CrateInfo) : List (String × List (Entry × String × ℕ)) :=
  crates.foldl (fun index crate ↦ crate.modules.foldl (fun index e ↦
    e.2.types.foldl (fun index t ↦ dictModify index t.name [] (· ++ [(crate.name, t.file, t.line)]))
      index) index) []

/-- The smell reported for an imported item that is not found. -/
def phantomSmell (file : String) (u : UseRecord) (item : String) : AISmell :=
  { kind := "phantom_import", severity := "error", file := file, line := u.line,
    message := "Phantom import: `" ++ item ++ "` from `" ++ u.path ++ "` - type does not exist",
    context := some u.raw, suggestion := some ("Create `" ++ item ++ "` or fix the import path") }

/-- `any(path.startswith(c.name) for c in crates)`: a crate whose name is a
table raises, unless the name of an earlier crate starts the path. -/
def crateNamePrefix (path : String) : List CrateInfo → Except String Bool
  | [] => .ok false
  | c :: cs =>
      match c.name with
      | .str name => if startsWith path.data name.data then .ok true else crateNamePrefix path cs
      | .table _ => .error startswithError

/-- The phantom-import loop over the items of one use statement: an item that
is neither `*` nor `self` and that no indexed type is named is reported when
the path starts with some crate's name. -/
def phantomImports (crates : List CrateInfo) (index : List (String × List (Entry × String × ℕ)))
    (file : String) (u : UseRecord) : Except String (List AISmell) :=
  u.items.foldlM (fun smells item ↦
    if item = "*" ∨ item = "self" ∨ (dictGet index item).isSome then .ok smells
    else (crateNamePrefix u.path crates).map fun found ↦
      if found then smells ++ [phantomSmell file u item] else smells) []

/-- Each type record of the crates' modules as `(name, (crate, file, line))`,
in the order the loops of `all_types` meet them. -/
def typeEntries (crates : List CrateInfo) : List (String × Entry × String × ℕ) :=
  crates.flatMap fun c ↦ c.modules.flatMap fun e ↦ e.2.types.map fun t ↦ (t.name, c.name, t.file, t.line)

theorem allTypes_eq (crates : List CrateInfo) :
    allTypes crates = (typeEntries crates).foldl (fun d p ↦ dictModify d p.1 [] (· ++ [p.2])) [] := by
  simp only [allTypes, typeEntries, foldl_flatMap, List.foldl_map]

theorem dictGet_allTypes (crates : List CrateInfo) (x : String) :
    dictGet (allTypes crates) x =
      if (typeEntries crates).any (·.1 = x) then
        some (((typeEntries crates).filter (·.1 = x)).map Prod.snd)
      else none := by
  rw [allTypes_eq, dictGet_groupPairs]

theorem isSome_dictGet_allTypes (crates : List CrateInfo) (x : String) :
    (dictGet (allTypes crates) x).isSome ↔ ∃ c ∈ crates, ∃ e ∈ c.modules, ∃ t ∈ e.2.types, t.name = x := by
  rw [dictGet_allTypes]
  split <;> next h => simpa [typeEntries] using h

theorem keys_nodup_allTypes (crates : List CrateInfo) : ((allTypes crates).map Prod.fst).Nodup := by
  rw [allTypes_eq]
  exact @keys_nodup_foldl_dictModify _ _ _ _ Prod.fst [] (fun v p ↦ v ++ [p.2]) _ [] List.nodup_nil

theorem mem_allTypes {crates : List CrateInfo} {typeName : String}
    {locations : List (Entry × String × ℕ)} :
    (typeName, locations) ∈ allTypes crates ↔ (typeEntries crates).any (·.1 = typeName) ∧
      locations = ((typeEntries crates).filter (·.1 = typeName)).map Prod.snd := by
  rw [← dictGet_eq_some_iff (keys_nodup_allTypes crates), dictGet_allTypes]
  split
  · next h => simp only [h, true_and, Option.some.injEq]; exact eq_comm
  · next h => simp [h]

theorem name_of_mem_typeEntries {crates : List CrateInfo} {p : String × Entry × String × ℕ}
    (h : p ∈ typeEntries crates) : ∃ c ∈ crates, p.2.1 = c.name := by
  simp only [typeEntries, List.mem_flatMap, List.mem_map] at h
  obtain ⟨c, hc, _, _, _, _, rfl⟩ := h
  exact ⟨c, hc, rfl⟩

theorem crateNamePrefix_of_str (path : String) :
    ∀ {crates : List CrateInfo}, (∀ c ∈ crates, c.name.isTable = false) →
      crateNamePrefix path crates = .ok (crates.any fun c ↦ startsWith path.data c.name.toStr.data)
  | [], _ => rfl
  | c :: cs, h => by
      have hc := h c (List.mem_cons_self c cs)
      have ih := crateNamePrefix_of_str path fun c' hc' ↦ h c' (List.mem_cons_of_mem c hc')
      unfold crateNamePrefix
      cases hn : c.name with
      | str name =>
          by_cases hs : startsWith path.data name.data <;> simp [hs, ih, hn, Entry.toStr]
      | table _ => simp [hn, Entry.isTable] at hc

theorem phantomImports_eq (crates : List CrateInfo) (index : List (String × List (Entry × String × ℕ)))
    (file : String) (u : UseRecord) :
    phantomImports crates index file u =
      let reported := u.items.filter fun item ↦ item ≠ "*" ∧ item ≠ "self" ∧ (dictGet index item).isNone
      if reported = [] then .ok []
      else (crateNamePrefix u.path crates).map fun found ↦
        if found then reported.map (phantomSmell file u) else [] := by
  have hkeep : ∀ item, ¬ (item = "*" ∨ item = "self" ∨ (dictGet index item).isSome) ↔
      (item ≠ "*" ∧ item ≠ "self" ∧ (dictGet index item).isNone) := fun item ↦ by
    simp [Option.isNone_iff_eq_none, Option.isSome_iff_ne_none]
  unfold phantomImports
  cases hc : crateNamePrefix u.path crates with
  | error e =>
      have key : ∀ (items : List String) (acc : List AISmell),
          items.foldlM (fun smells item ↦
            if item = "*" ∨ item = "self" ∨ (dictGet index item).isSome then .ok smells
            else (Except.error e : Except String Bool).map fun found ↦
              if found then smells ++ [phantomSmell file u item] else smells) acc =
          if items.filter (fun item ↦ item ≠ "*" ∧ item ≠ "self" ∧ (dictGet index item).isNone) = []
          then .ok acc else .error e := by
        intro items
        induction items with
        | nil => intro acc; rfl
        | cons item items ih =>
            intro acc
            rw [List.foldlM_cons]
            split
            · next hs =>
                rw [List.filter_cons_of_neg (by simpa using (hkeep item).not.mp (not_not.mpr hs))]
                exact ih acc
            · next hs =>
                rw [List.filter_cons_of_pos (by simpa using (hkeep item).mp hs), if_neg (List.cons_ne_nil _ _)]
                rfl
      simp only [key]
      split_ifs <;> rfl
  | ok found =>
      have key : ∀ (items : List String) (acc : List AISmell),
          items.foldlM (fun smells item ↦
            if item = "*" ∨ item = "self" ∨ (dictGet index item).isSome then .ok smells
            else (Except.ok found : Except String Bool).map fun found ↦
              if found then smells ++ [phantomSmell file u item] else smells) acc =
          .ok (if found then acc ++ (items.filter (fun item ↦ item ≠ "*" ∧ item ≠ "self" ∧
            (dictGet index item).isNone)).map (phantomSmell file u) else acc) := by
        intro items
        induction items with
        | nil => intro acc; show Except.ok acc = _; cases found <;> simp
        | cons item items ih =>
            intro acc
            rw [List.foldlM_cons]
            split
            · next hs =>
                rw [List.filter_cons_of_neg (by simpa using (hkeep item).not.mp (not_not.mpr hs))]
                exact ih acc
            · next hs =>
                rw [List.filter_cons_of_pos (by simpa using (hkeep item).mp hs)]
                show List.foldlM _ _ items = _
                rw [ih]
                cases found <;> simp
      simp only [key]
      by_cases hr : u.items.filter (fun item ↦ item ≠ "*" ∧ item ≠ "self" ∧
          (dictGet index item).isNone) = []
      · rw [if_pos hr, hr]
        cases found <;> rfl
      · rw [if_neg hr]
        cases found <;> rfl

/-- The phantom-import check over the index of the scanned crates: the items
reported are those that are neither `*` nor `self` and that no module of any
crate defines a type of, when the crate test finds a crate whose name starts
the path; with crates named by strings, as the check over their names. -/
theorem phantomImports_allTypes (crates : List CrateInfo) (file : String) (u : UseRecord) :
    let reported := u.items.filter fun item ↦ item ≠ "*" ∧ item ≠ "self" ∧
      ∀ c ∈ crates, ∀ e ∈ c.modules, ∀ t ∈ e.2.types, t.name ≠ item
    phantomImports crates (allTypes crates) file u =
        (if reported = [] then .ok []
        else (crateNamePrefix u.path crates).map fun found ↦
          if found then reported.map (phantomSmell file u) else []) ∧
      ((∀ c ∈ crates, c.name.isTable = false) →
        phantomImports crates (allTypes crates) file u =
          .ok ((u.items.filter fun item ↦ item ≠ "*" ∧ item ≠ "self" ∧
            (∀ c ∈ crates, ∀ e ∈ c.modules, ∀ t ∈ e.2.types, t.name ≠ item) ∧
            crates.any fun c ↦ startsWith u.path.data c.name.toStr.data).map (phantomSmell file u))) := by
  intro reported
  have hnone : ∀ item, (dictGet (allTypes crates) item).isNone ↔
      ∀ c ∈ crates, ∀ e ∈ c.modules, ∀ t ∈ e.2.types, t.name ≠ item := fun item ↦ by
    rw [Option.isNone_iff_eq_none, ← Option.not_isSome_iff_eq_none, isSome_dictGet_allTypes]
    simp
  have heq : phantomImports crates (allTypes crates) file u =
      if reported = [] then .ok []
      else (crateNamePrefix u.path crates).map fun found ↦
        if found then reported.map (phantomSmell file u) else [] := by
    rw [phantomImports_eq]
    simp only [reported, hnone]
  refine ⟨heq, fun hstr ↦ ?_⟩
  rw [heq, crateNamePrefix_of_str _ hstr]
  by_cases hany : crates.any fun c ↦ startsWith u.path.data c.name.toStr.data
  · have hf : u.items.filter (fun item ↦ item ≠ "*" ∧ item ≠ "self" ∧
        (∀ c ∈ crates, ∀ e ∈ c.modules, ∀ t ∈ e.2.types, t.name ≠ item) ∧
        crates.any fun c ↦ startsWith u.path.data c.name.toStr.data) = reported :=
      List.filter_congr fun item _ ↦ by simp [hany]
    rw [hf]
    split_ifs with hr
    · rw [hr]
      rfl
    · simp [hany, Except.map]
  · have hf : u.items.filter (fun item ↦ item ≠ "*" ∧ item ≠ "self" ∧
        (∀ c ∈ crates, ∀ e ∈ c.modules, ∀ t ∈ e.2.types, t.name ≠ item) ∧
        crates.any fun c ↦ startsWith u.path.data c.name.toStr.data) = [] :=
      List.filter_eq_nil_iff.mpr fun item _ ↦ by simp_all
    rw [hf]
    split_ifs <;> simp [hany, Except.map]

/-- The smells of one parsed file: its phantom imports, a `TODO` density
warning past five markers, and one smell per stub. -/
def fileSmells (crates : List CrateInfo) (index : List (String × List (Entry × String × ℕ)))
    (file : String) (parsed : ParsedFile) : Except String (List AISmell) :=
  (parsed.uses.mapM (phantomImports crates index file)).map fun phantoms ↦
    phantoms.flatten ++
      (match parsed.todos with
        | first :: _ =>
            if 5 < parsed.todos.length then
              [{ kind := "todo_density", severity := "warning", file := file, line := first.line,
                 message := "High TODO/FIXME density: " ++ toString parsed.todos.length ++ " items",
                 context := some ("First: " ++ ⟨first.text.data.take 50⟩ ++ "..."),
                 suggestion := some "Review and address TODOs or remove if resolved" }]
            else []
        | [] => []) ++
      parsed.stubs.map fun stub ↦
        { kind := "stub_logic", severity := "warning", file := file, line := stub.line,
          message := "Stub logic detected (unimplemented!/todo!)",
          context := some ⟨stub.text.data.take 80⟩,
          suggestion := some "Implement or mark as intentionally unimplemented" }

/-- The smell for a type defined more than once in one crate: at its first
location, naming the others. -/
def duplicateSmell (typeName : String) (crateName : Entry) (first : String × ℕ)
    (rest : List (String × ℕ)) : AISmell :=
  { kind := "duplicate_def", severity := "error", file := first.1, line := first.2,
    message := "Duplicate definition of `" ++ typeName ++ "` in " ++ crateName.toStr,
    context := some ("Also at: " ++ ", ".intercalate (rest.map fun l ↦ l.1 ++ ":" ++ toString l.2)),
    suggestion := some "Consolidate to single definition" }

/-- `by_crate[crate_name].append((file, line))` over the locations of a type
name; a crate name that is a table cannot be a key. -/
def groupByCrate (locations : List (Entry × String × ℕ)) :
    Except String (List (Entry × List (String × ℕ))) :=
  locations.foldlM (fun byCrate l ↦
    match l.1 with
    | .str _ => .ok (dictModify byCrate l.1 [] (· ++ [l.2]))
    | .table _ => .error unhashableError) []

/-- The duplicate-definition smells of one type name: its locations grouped by
crate, one smell per crate that has more than one. -/
def duplicateSmells (typeName : String) (locations : List (Entry × String × ℕ)) :
    Except String (List AISmell) :=
  if 1 < locations.length then
    (groupByCrate locations).map fun byCrate ↦ byCrate.filterMap fun (crateName, locs) ↦
      match locs with
      | first :: rest =>
          if 1 < locs.length then some (duplicateSmell typeName crateName first rest) else none
      | [] => none
  else .ok []

/-- The grouping raises exactly when some location's crate is named by a table. -/
theorem groupByCrate_eq (locations : List (Entry × String × ℕ)) :
    groupByCrate locations =
      if locations.any (·.1.isTable) then .error unhashableError
      else .ok (locations.foldl (fun byCrate l ↦ dictModify byCrate l.1 [] (· ++ [l.2])) []) := by
  suffices ∀ acc : List (Entry × List (String × ℕ)),
      locations.foldlM (m := Except String) (fun byCrate l ↦
        match l.1 with
        | .str _ => .ok (dictModify byCrate l.1 [] (· ++ [l.2]))
        | .table _ => .error unhashableError) acc =
      if locations.any (·.1.isTable) then .error unhashableError
      else .ok (locations.foldl (fun byCrate l ↦ dictModify byCrate l.1 [] (· ++ [l.2])) acc) from
    this []
  induction locations with
  | nil => intro acc; rfl
  | cons l ls ih =>
      intro acc
      obtain ⟨c, loc⟩ := l
      cases c with
      | str name => simpa [Entry.isTable] using ih _
      | table t => simp [Entry.isTable]; rfl

theorem mem_duplicateSmells {typeName : String} {locations : List (Entry × String × ℕ)}
    {d : List AISmell} (h : duplicateSmells typeName locations = .ok d) {s : AISmell} :
    s ∈ d ↔
      ∃ crateName first rest, (locations.filter (·.1 = crateName)).map Prod.snd = first :: rest ∧
        rest ≠ [] ∧ s = duplicateSmell typeName crateName first rest := by
  have hgroup : ∀ k v, (k, v) ∈ locations.foldl (fun byCrate l ↦ dictModify byCrate l.1 [] (· ++ [l.2])) [] ↔
      locations.any (·.1 = k) ∧ (locations.filter (·.1 = k)).map Prod.snd = v := fun k v ↦ by
    rw [← dictGet_eq_some_iff (@keys_nodup_foldl_dictModify _ _ _ _ Prod.fst [] (fun v l ↦ v ++ [l.2])
      locations [] List.nodup_nil), dictGet_groupPairs]
    split <;> simp_all
  unfold duplicateSmells at h
  split at h
  · rw [groupByCrate_eq] at h
    split_ifs at h <;> cases h
    simp only [List.mem_filterMap]
    constructor
    · rintro ⟨⟨k, v⟩, hkv, hs⟩
      obtain ⟨-, hv⟩ := (hgroup k v).mp hkv
      cases v with
      | nil => cases hs
      | cons first rest =>
          have hdup : 1 < (first :: rest).length ∧ duplicateSmell typeName k first rest = s := by
            dsimp only at hs
            split at hs
            · exact ⟨‹_›, Option.some.inj hs⟩
            · cases hs
          exact ⟨k, first, rest, hv, List.ne_nil_of_length_pos (by simpa using hdup.1), hdup.2.symm⟩
    · rintro ⟨k, first, rest, heq, hrest, rfl⟩
      have hne : locations.filter (·.1 = k) ≠ [] := fun h ↦ by simp [h] at heq
      obtain ⟨l, hl⟩ := List.exists_mem_of_ne_nil _ hne
      have hany : locations.any (·.1 = k) :=
        List.any_eq_true.mpr ⟨l, (List.mem_filter.mp hl).1, (List.mem_filter.mp hl).2⟩
      have hlen : 1 < (first :: rest).length := by simpa using List.length_pos.mpr hrest
      exact ⟨(k, first :: rest), (hgroup k _).mpr ⟨hany, heq⟩, by simp [hlen, hrest]⟩
  · next hlen =>
      cases h
      simp only [List.not_mem_nil, false_iff, not_exists, not_and]
      intro k first rest heq hrest _
      have h₁ := List.length_filter_le (·.1 = k) locations
      have h₂ : ((locations.filter (·.1 = k)).map Prod.snd).length = rest.length + 1 := by rw [heq]; rfl
      have h₃ := List.length_pos.mpr hrest
      rw [List.length_map] at h₂
      omega

/-- The two path patterns and their messages. -/
def wrongPathPatterns : List (String × String) :=
  [("super::jam::", "Using super::jam:: - likely should be crate::events::"),
    ("crate::context::", "Using crate::context:: - check if should be crate::session::context::")]

/-- The wrong-path smells of one file's text. -/
def wrongPathSmells (file : String) (content : String) : List AISmell :=
  let text := content.data
  let lines := splitlines text
  wrongPathPatterns.flatMap fun (pattern, message) ↦
    (finditer (Re.str pattern.toList) text).map fun m ↦
      let lineNum := lineNo text m.start
      { kind := "wrong_path", severity := "warning", file := file, line := lineNum,
        message := message,
        context := some (if lineNum ≤ lines.length then
          ⟨(strip (lines.getD (lineNum - 1) [])).take 80⟩ else ""),
        suggestion := some "Verify module path is correct" }

/-- `splitlines` also ends a line at a form feed, which the count of newlines
does not: after one, the enumerated lines run ahead.  The `TODO` that begins
at offset 4, on line 2 by the count, is reported on line 3, and the
`wrong_path` smell of line 2 shows the text `b` that follows the form feed on
line 1. -/
theorem splitlines_numbering_runs_ahead :
    (parseRustFile "a\x0cb\n// TODO x\n").todos.map (·.line) = [3] ∧
      lineNo "a\x0cb\n// TODO x\n".toList 4 = 2 ∧
      (wrongPathSmells "src/lib.rs" "a\x0cb\nuse super::jam::E;\n").map (fun s ↦ (s.line, s.context)) =
        [(2, some "b")] :=
  ⟨rfl, rfl, rfl⟩

/-- Where `\n` is the only line break of the text, the context of a
`wrong_path` smell is the text of the line its match is on by the count of
newlines, `content.split('\n')[line - 1]`. -/
theorem wrongPathSmells_context_of_newline_breaks (file content : String)
    (h : ∀ c ∈ content.data, isLineBreak c → c = '\n') :
    ∀ s ∈ wrongPathSmells file content,
      s.context = some ⟨(strip ((content.data.splitOn '\n').getD (s.line - 1) [])).take 80⟩ := by
  simp only [wrongPathSmells, List.mem_flatMap, List.mem_map]
  rintro s ⟨_, _, m, _, rfl⟩
  dsimp only
  rw [← getD_splitlines h]
  split_ifs with hl
  · rfl
  · rw [List.getD_eq_default _ _ (by omega)]
    rfl

theorem wrongPathSmells_context_of_newline_breaks_use_line :
    (∀ c ∈ "a\nuse super::jam::E;\n".data, isLineBreak c → c = '\n') ∧
      ∀ s ∈ wrongPathSmells "src/lib.rs" "a\nuse super::jam::E;\n",
        s.context = some ⟨(strip (("a\nuse super::jam::E;\n".data.splitOn '\n').getD (s.line - 1) [])).take 80⟩ :=
  have h : ∀ c ∈ "a\nuse super::jam::E;\n".data, isLineBreak c → c = '\n' := by decide
  ⟨h, wrongPathSmells_context_of_newline_breaks _ _ h⟩

/-- `(a.file, a.line) <= (b.file, b.line)` on Python tuples. -/
def smellBefore (a b : AISmell) : Bool :=
  ltChars a.file.data b.file.data || (a.file = b.file && a.line ≤ b.line)

/-- `sorted(smells, key=lambda s: (s.file, s.line))`, stable. -/
def sortSmells (smells : List AISmell) : List AISmell :=
  smells.insertionSort fun a b ↦ smellBefore a b = true

/-- The first loop of `detect_ai_smells`: the phantom imports, `TODO` density
and stubs of every file of every crate. -/
def perFileSmells (crates : List (CrateInfo × CrateDir)) : Except String (List AISmell) :=
  let infos := crates.map Prod.fst
  (crates.mapM (m := Except String) fun (crate, dir) ↦ (dir.src.getD []).mapM fun f ↦
    match f.content with
    | some content => fileSmells infos (allTypes infos) (pathText (crate.path ++ f.parts)) (parseRustFile content)
    | none => .ok []).map fun perFile ↦ (perFile.map List.flatten).flatten

/-- The loop over `all_types`: the duplicate definitions of each type name. -/
def duplicateDefs (crates : List CrateInfo) : Except String (List AISmell) :=
  ((allTypes crates).mapM (m := Except String) fun (typeName, locations) ↦
    duplicateSmells typeName locations).map List.flatten

/-- The last loop of `detect_ai_smells`: the two path patterns in every file. -/
def wrongPathsOf (crates : List (CrateInfo × CrateDir)) : List AISmell :=
  crates.flatMap fun (crate, dir) ↦ (dir.src.getD []).flatMap fun f ↦
    match f.content with
    | some content => wrongPathSmells (pathText (crate.path ++ f.parts)) content
    | none => []

/-- `detect_ai_smells(crates, root, ...)`, each crate with its directory. -/
def detectAiSmells (crates : List (CrateInfo × CrateDir)) : Except String (List AISmell) :=
  (perFileSmells crates).bind fun perFile ↦
    (duplicateDefs (crates.map Prod.fst)).map fun duplicates ↦
      sortSmells (perFile ++ duplicates ++ wrongPathsOf crates)

/-! ### What `detect_ai_smells` raises -/

theorem crateNamePrefix_error {path : String} :
    ∀ {crates : List CrateInfo} {e : String}, crateNamePrefix path crates = .error e → e = startswithError
  | [], _, h => by cases h
  | c :: cs, e, h => by
      unfold crateNamePrefix at h
      split at h
      · split at h
        · cases h
        · exact crateNamePrefix_error h
      · cases h
        rfl

theorem phantomImports_error {crates : List CrateInfo}
    {index : List (String × List (Entry × String × ℕ))} {file : String} {u : UseRecord} {e : String}
    (h : phantomImports crates index file u = .error e) : e = startswithError := by
  rw [phantomImports_eq] at h
  dsimp only at h
  split_ifs at h
  exact crateNamePrefix_error (map_eq_error.mp h)

theorem fileSmells_error {crates : List CrateInfo} {index : List (String × List (Entry × String × ℕ))}
    {file : String} {parsed : ParsedFile} {e : String} (h : fileSmells crates index file parsed = .error e) :
    e = startswithError :=
  mapM_error_of (fun _ _ ↦ phantomImports_error) (map_eq_error.mp h)

theorem perFileSmells_error {crates : List (CrateInfo × CrateDir)} {e : String}
    (h : perFileSmells crates = .error e) : e = startswithError := by
  refine mapM_error_of (P := (· = startswithError)) (fun ⟨crate, dir⟩ e h ↦ ?_) (map_eq_error.mp h)
  refine mapM_error_of (P := (· = startswithError)) (fun f e hf ↦ ?_) h
  split at hf
  · exact fileSmells_error hf
  · cases hf

theorem perFileSmells_ok {crates : List (CrateInfo × CrateDir)}
    (hstr : ∀ c ∈ crates, c.1.name.isTable = false) : ∃ perFile, perFileSmells crates = .ok perFile := by
  have hnames : ∀ c ∈ crates.map Prod.fst, c.name.isTable = false := by simpa using hstr
  unfold perFileSmells
  refine exists_map_eq_ok _ ((mapM_ok_iff _ _).mpr ?_)
  rintro ⟨crate, dir⟩ -
  refine (mapM_ok_iff _ _).mpr fun f _ ↦ ?_
  split
  · refine exists_map_eq_ok _ ((mapM_ok_iff _ _).mpr fun u _ ↦ ?_)
    rw [phantomImports_eq, crateNamePrefix_of_str _ hnames]
    dsimp only
    split_ifs <;> exact ⟨_, rfl⟩
  · exact ⟨_, rfl⟩

theorem duplicateSmells_error {typeName : String} {locations : List (Entry × String × ℕ)} {e : String}
    (h : duplicateSmells typeName locations = .error e) : e = unhashableError := by
  unfold duplicateSmells at h
  split_ifs at h
  rw [groupByCrate_eq] at h
  split_ifs at h <;> cases h
  rfl

theorem duplicateSmells_error_of_table {typeName : String} {locations : List (Entry × String × ℕ)}
    (hlen : 2 ≤ locations.length) (htable : ∃ l ∈ locations, l.1.isTable) :
    duplicateSmells typeName locations = .error unhashableError := by
  have hany : locations.any (·.1.isTable) := List.any_eq_true.mpr htable
  rw [duplicateSmells, if_pos (by omega), groupByCrate_eq, if_pos hany]
  rfl

theorem duplicateSmells_ok_of_str (typeName : String) {locations : List (Entry × String × ℕ)}
    (h : ∀ l ∈ locations, l.1.isTable = false) : ∃ d, duplicateSmells typeName locations = .ok d := by
  have hany : locations.any (·.1.isTable) = false := by simpa using h
  unfold duplicateSmells
  split_ifs
  · rw [groupByCrate_eq, if_neg (by simp [hany])]
    exact ⟨_, rfl⟩
  · exact ⟨_, rfl⟩

theorem duplicateDefs_error {crates : List CrateInfo} {e : String}
    (h : duplicateDefs crates = .error e) : e = unhashableError :=
  mapM_error_of (fun _ _ h ↦ duplicateSmells_error h) (map_eq_error.mp h)

theorem duplicateDefs_ok {crates : List CrateInfo} (hstr : ∀ c ∈ crates, c.name.isTable = false) :
    ∃ duplicates, duplicateDefs crates = .ok duplicates := by
  unfold duplicateDefs
  refine exists_map_eq_ok _ ((mapM_ok_iff _ _).mpr ?_)
  rintro ⟨typeName, locations⟩ hmem
  refine duplicateSmells_ok_of_str _ fun l hl ↦ ?_
  rw [(mem_allTypes.mp hmem).2] at hl
  obtain ⟨p, hp, rfl⟩ := List.mem_map.mp hl
  obtain ⟨c, hc, hname⟩ := name_of_mem_typeEntries (List.mem_filter.mp hp).1
  rw [hname]
  exact hstr c hc

theorem duplicateDefs_error_of_table {crates : List CrateInfo} {typeName : String}
    (hlen : 2 ≤ ((typeEntries crates).filter (·.1 = typeName)).length)
    (htable : ∃ p ∈ typeEntries crates, p.1 = typeName ∧ p.2.1.isTable) :
    duplicateDefs crates = .error unhashableError := by
  obtain ⟨p, hp, hname, ht⟩ := htable
  have hmem : (typeName, ((typeEntries crates).filter (·.1 = typeName)).map Prod.snd) ∈ allTypes crates :=
    mem_allTypes.mpr ⟨List.any_eq_true.mpr ⟨p, hp, by simpa using hname⟩, rfl⟩
  unfold duplicateDefs
  refine map_eq_error.mpr (mapM_eq_error (fun _ _ h ↦ duplicateSmells_error h) ⟨_, hmem, unhashableError, ?_⟩)
  exact duplicateSmells_error_of_table (by simpa using hlen)
    ⟨p.2, List.mem_map.mpr ⟨p, List.mem_filter.mpr ⟨hp, by simpa using hname⟩, rfl⟩, ht⟩

/-- `detect_ai_smells` raises only the two `TypeError`s of a crate named by a
table: it returns when every crate is named by a string, and raises when a
crate named by a table shares a type name with another definition. -/
theorem detectAiSmells_typeError (crates : List (CrateInfo × CrateDir)) :
    (∀ e, detectAiSmells crates = .error e → e = startswithError ∨ e = unhashableError) ∧
      ((∀ c ∈ crates, c.1.name.isTable = false) → ∃ smells, detectAiSmells crates = .ok smells) ∧
      ((∃ typeName, 2 ≤ ((typeEntries (crates.map Prod.fst)).filter (·.1 = typeName)).length ∧
          ∃ p ∈ typeEntries (crates.map Prod.fst), p.1 = typeName ∧ p.2.1.isTable) →
        ∃ e, detectAiSmells crates = .error e) := by
  refine ⟨fun e h ↦ ?_, fun hstr ↦ ?_, fun ⟨typeName, hlen, htable⟩ ↦ ?_⟩
  · rcases bind_eq_error.mp h with h | ⟨_, -, h⟩
    · exact .inl (perFileSmells_error h)
    · exact .inr (duplicateDefs_error (map_eq_error.mp h))
  · obtain ⟨perFile, hp⟩ := perFileSmells_ok hstr
    obtain ⟨duplicates, hd⟩ := @duplicateDefs_ok (crates.map Prod.fst) (by simpa using hstr)
    exact ⟨_, by rw [detectAiSmells, hp]; exact map_eq_ok.mpr ⟨duplicates, hd, rfl⟩⟩
  · cases hp : perFileSmells crates with
    | error e => exact ⟨e, by rw [detectAiSmells, hp]; rfl⟩
    | ok perFile =>
        exact ⟨unhashableError, by
          rw [detectAiSmells, hp, duplicateDefs_error_of_table hlen htable]; rfl⟩

theorem detectAiSmells_typeError_table_name :
    (2 ≤ ((typeEntries [⟨.table [("workspace", "true")], ["k"], [], [], [],
          [("", ⟨"crate", "", "src/lib.rs", [⟨"A", "struct", "src/lib.rs", 1, true⟩,
            ⟨"A", "enum", "src/lib.rs", 2, true⟩], [], [], []⟩)]⟩]).filter (·.1 = "A")).length ∧
        ∃ p ∈ typeEntries [⟨.table [("workspace", "true")], ["k"], [], [], [],
          [("", ⟨"crate", "", "src/lib.rs", [⟨"A", "struct", "src/lib.rs", 1, true⟩,
            ⟨"A", "enum", "src/lib.rs", 2, true⟩], [], [], []⟩)]⟩], p.1 = "A" ∧ p.2.1.isTable) ∧
      ∃ e, detectAiSmells [(⟨.table [("workspace", "true")], ["k"], [], [], [],
          [("", ⟨"crate", "", "src/lib.rs", [⟨"A", "struct", "src/lib.rs", 1, true⟩,
            ⟨"A", "enum", "src/lib.rs", 2, true⟩], [], [], []⟩)]⟩, ⟨["k"], "k", none, none⟩)] = .error e :=
  have h : 2 ≤ ((typeEntries [⟨.table [("workspace", "true")], ["k"], [], [], [],
          [("", ⟨"crate", "", "src/lib.rs", [⟨"A", "struct", "src/lib.rs", 1, true⟩,
            ⟨"A", "enum", "src/lib.rs", 2, true⟩], [], [], []⟩)]⟩]).filter (·.1 = "A")).length ∧
      ∃ p ∈ typeEntries [⟨.table [("workspace", "true")], ["k"], [], [], [],
          [("", ⟨"crate", "", "src/lib.rs", [⟨"A", "struct", "src/lib.rs", 1, true⟩,
            ⟨"A", "enum", "src/lib.rs", 2, true⟩], [], [], []⟩)]⟩], p.1 = "A" ∧ p.2.1.isTable := ⟨by decide, _, List.mem_cons_self _ _, rfl, rfl⟩
  ⟨h, (detectAiSmells_typeError _).2.2 ⟨"A", h⟩⟩

example : (scanCrate ⟨["k"], "k", some "[package.name]\nworkspace = true\n", none⟩).map (·.name) =
    .ok (.table [("workspace", "true")]) := rfl

example : detectAiSmells [(⟨.table [("workspace", "true")], ["k"], [], [], [],
          [("", ⟨"crate", "", "src/lib.rs", [⟨"A", "struct", "src/lib.rs", 1, true⟩,
            ⟨"A", "enum", "src/lib.rs", 2, true⟩], [], [], []⟩)]⟩, ⟨["k"], "k", none, none⟩)] = .error unhashableError := rfl

/-! ### What `detect_ai_smells` reports -/

theorem kind_of_mem_phantomImports {crates : List CrateInfo}
    {index : List (String × List (Entry × String × ℕ))} {file : String} {u : UseRecord}
    {l : List AISmell} (h : phantomImports crates index file u = .ok l) {s : AISmell} (hs : s ∈ l) :
    s.kind = "phantom_import" := by
  rw [phantomImports_eq] at h
  dsimp only at h
  split_ifs at h
  · cases h
    cases hs
  · obtain ⟨found, -, rfl⟩ := map_eq_ok.mp h
    split_ifs at hs
    · obtain ⟨_, -, rfl⟩ := List.mem_map.mp hs
      rfl
    · cases hs

theorem kind_of_mem_fileSmells {crates : List CrateInfo}
    {index : List (String × List (Entry × String × ℕ))} {file : String} {parsed : ParsedFile}
    {l : List AISmell} (h : fileSmells crates index file parsed = .ok l) {s : AISmell} (hs : s ∈ l) :
    s.kind = "phantom_import" ∨ s.kind = "todo_density" ∨ s.kind = "stub_logic" := by
  obtain ⟨phantoms, hph, rfl⟩ := map_eq_ok.mp h
  obtain ⟨g, hg, rfl⟩ := mapM_eq_ok_elim hph
  simp only [List.mem_append, List.mem_flatten, List.mem_map] at hs
  rcases hs with (⟨_, ⟨u, hu, rfl⟩, hs⟩ | hs) | ⟨_, _, rfl⟩
  · exact .inl (kind_of_mem_phantomImports (hg u hu) hs)
  · split at hs
    · split at hs
      · obtain rfl := List.mem_singleton.mp hs
        exact .inr (.inl rfl)
      · cases hs
    · cases hs
  · exact .inr (.inr rfl)

theorem kind_of_mem_perFileSmells {crates : List (CrateInfo × CrateDir)} {l : List AISmell}
    (h : perFileSmells crates = .ok l) {s : AISmell} (hs : s ∈ l) :
    s.kind = "phantom_import" ∨ s.kind = "todo_density" ∨ s.kind = "stub_logic" := by
  obtain ⟨perFile, hp, rfl⟩ := map_eq_ok.mp h
  obtain ⟨g, hg, rfl⟩ := mapM_eq_ok_elim hp
  obtain ⟨_, hl₁, hs⟩ := List.mem_flatten.mp hs
  obtain ⟨_, hl₂, rfl⟩ := List.mem_map.mp hl₁
  obtain ⟨⟨crate, dir⟩, hc, rfl⟩ := List.mem_map.mp hl₂
  obtain ⟨_, hf, hs⟩ := List.mem_flatten.mp hs
  obtain ⟨g', hg', hgc⟩ := mapM_eq_ok_elim (hg _ hc)
  rw [hgc] at hf
  obtain ⟨f, hfm, rfl⟩ := List.mem_map.mp hf
  have hff := hg' f hfm
  split at hff
  · exact kind_of_mem_fileSmells hff hs
  · rw [← Except.ok.inj hff] at hs
    cases hs

theorem kind_of_mem_wrongPathSmells {file content : String} {s : AISmell}
    (h : s ∈ wrongPathSmells file content) : s.kind = "wrong_path" := by
  simp only [wrongPathSmells, List.mem_flatMap, List.mem_map] at h
  obtain ⟨_, _, _, _, rfl⟩ := h
  rfl

theorem kind_of_mem_wrongPathsOf {crates : List (CrateInfo × CrateDir)} {s : AISmell}
    (h : s ∈ wrongPathsOf crates) : s.kind = "wrong_path" := by
  simp only [wrongPathsOf, List.mem_flatMap] at h
  obtain ⟨_, -, f, -, hf⟩ := h
  split at hf
  · exact kind_of_mem_wrongPathSmells hf
  · cases hf

/-- The `(file, line)` of each type named `typeName` in the crate named
`crateName`, in the order of `all_types`. -/
def typeLocations (crates : List CrateInfo) (typeName : String) (crateName : Entry) :
    List (String × ℕ) :=
  ((typeEntries crates).filter fun p ↦ p.1 = typeName ∧ p.2.1 = crateName).map fun p ↦ p.2.2

/-- The crate of each definition of a type named `typeName`, in the order of
`all_types`. -/
def typeCrates (crates : List CrateInfo) (typeName : String) : List Entry :=
  ((typeEntries crates).filter (·.1 = typeName)).map (·.2.1)

theorem typeLocations_eq (crates : List CrateInfo) (typeName : String) (crateName : Entry) :
    ((((typeEntries crates).filter (·.1 = typeName)).map Prod.snd).filter (·.1 = crateName)).map
      Prod.snd = typeLocations crates typeName crateName := by
  simp only [typeLocations, List.filter_map, List.map_map, List.filter_filter]
  congr 1
  exact List.filter_congr fun p _ ↦ by simp [Function.comp_def, Bool.and_comm]

/-- The duplicate smells of the loop over `all_types`: one for each type name
and crate with two or more definitions of it. -/
theorem mem_duplicateDefs {crates : List CrateInfo} {ds : List AISmell}
    (h : duplicateDefs crates = .ok ds) {s : AISmell} :
    s ∈ ds ↔ ∃ typeName crateName first rest,
      typeLocations crates typeName crateName = first :: rest ∧ rest ≠ [] ∧
        s = duplicateSmell typeName crateName first rest := by
  obtain ⟨dss, hdss, rfl⟩ := map_eq_ok.mp h
  obtain ⟨g, hg, rfl⟩ := mapM_eq_ok_elim hdss
  simp only [List.mem_flatten, List.mem_map]
  constructor
  · rintro ⟨_, ⟨⟨typeName, locations⟩, hx, rfl⟩, hs⟩
    obtain ⟨crateName, first, rest, heq, hrest, rfl⟩ := (mem_duplicateSmells (hg _ hx)).mp hs
    refine ⟨typeName, crateName, first, rest, ?_, hrest, rfl⟩
    rw [← typeLocations_eq, ← (mem_allTypes.mp hx).2]
    exact heq
  · rintro ⟨typeName, crateName, first, rest, heq, hrest, rfl⟩
    have hp : (typeLocations crates typeName crateName).head? = some first := by rw [heq]; rfl
    obtain ⟨p, hp, -⟩ := List.mem_map.mp (List.mem_of_mem_head? hp)
    have hpt : p.1 = typeName ∧ p.2.1 = crateName := by simpa using (List.mem_filter.mp hp).2
    have hany : (typeEntries crates).any (·.1 = typeName) :=
      List.any_eq_true.mpr ⟨p, (List.mem_filter.mp hp).1, by simpa using hpt.1⟩
    have hx := mem_allTypes.mpr ⟨hany, rfl⟩
    exact ⟨_, ⟨_, hx, rfl⟩, (mem_duplicateSmells (hg _ hx)).mpr
      ⟨crateName, first, rest, (typeLocations_eq _ _ _).trans heq, hrest, rfl⟩⟩

theorem kind_of_mem_detectAiSmells {crates : List (CrateInfo × CrateDir)} {smells : List AISmell}
    (h : detectAiSmells crates = .ok smells) {s : AISmell} (hs : s ∈ smells) :
    s.kind ∈ ["phantom_import", "todo_density", "stub_logic", "duplicate_def", "wrong_path"] := by
  obtain ⟨perFile, hp, h⟩ := bind_eq_ok.mp h
  obtain ⟨ds, hd, rfl⟩ := map_eq_ok.mp h
  rw [sortSmells, (List.perm_insertionSort _ _).mem_iff] at hs
  rcases List.mem_append.mp hs with hs | hs
  · rcases List.mem_append.mp hs with hs | hs
    · rcases kind_of_mem_perFileSmells hp hs with h | h | h <;> simp [h]
    · obtain ⟨_, _, _, _, -, -, rfl⟩ := (mem_duplicateDefs hd).mp hs
      simp [duplicateSmell]
  · simp [kind_of_mem_wrongPathsOf hs]

theorem length_duplicateSmells {typeName : String} {locations : List (Entry × String × ℕ)}
    {d : List AISmell} (h : duplicateSmells typeName locations = .ok d) :
    d.length = ((locations.map Prod.fst).dedup.filter fun c ↦
      2 ≤ (locations.map Prod.fst).count c).length := by
  have hcount : ∀ c, (locations.map Prod.fst).count c = (locations.filter (·.1 = c)).length := fun c ↦ by
    simp [List.count, List.countP_eq_length_filter, List.filter_map, Function.comp_def]
    rfl
  unfold duplicateSmells at h
  split at h
  · rw [groupByCrate_eq] at h
    split_ifs at h <;> cases h
    set g := locations.foldl (fun byCrate l ↦ dictModify byCrate l.1 [] (· ++ [l.2])) [] with hg
    have hval : ∀ e ∈ g, e.2 = (locations.filter (·.1 = e.1)).map Prod.snd :=
      fun e he ↦ ((mem_groupPairs locations e.1 e.2).mp he).2.symm
    have hkeys : (g.map Prod.fst).Perm (locations.map Prod.fst).dedup := keys_groupPairs_perm locations
    calc _ = (g.filter fun e ↦ 2 ≤ (locations.map Prod.fst).count e.1).length := by
          refine length_filterMap_eq_length_filter fun ⟨c, locs⟩ he ↦ ?_
          have hlocs := hval _ he
          dsimp only at hlocs ⊢
          have hl : (locations.filter (·.1 = c)).length = locs.length := by rw [hlocs, List.length_map]
          rw [hcount, hl]
          cases locs with
          | nil => rfl
          | cons first rest =>
              by_cases h1 : rest = [] <;> simp [h1, List.length_pos]
              exact List.length_pos.mpr h1
      _ = ((g.map Prod.fst).filter fun c ↦ 2 ≤ (locations.map Prod.fst).count c).length := by
          rw [List.filter_map, List.length_map]
          rfl
      _ = _ := (hkeys.filter _).length_eq
  · next hlen =>
      cases h
      refine (List.length_eq_zero.mpr (List.filter_eq_nil_iff.mpr fun c _ ↦ ?_)).symm
      have := List.count_le_length c (locations.map Prod.fst)
      simp only [List.length_map] at this
      simp only [decide_eq_true_eq, not_le]
      omega

/-- The loop over `all_types` reports, for each type name, as many smells as
crates define it twice or more. -/
theorem length_duplicateDefs {crates : List CrateInfo} {ds : List AISmell}
    (h : duplicateDefs crates = .ok ds) :
    ds.length = (((typeEntries crates).map Prod.fst).dedup.map fun typeName ↦
      ((typeCrates crates typeName).dedup.filter fun c ↦
        2 ≤ (typeCrates crates typeName).count c).length).sum := by
  obtain ⟨dss, hdss, rfl⟩ := map_eq_ok.mp h
  obtain ⟨g, hg, rfl⟩ := mapM_eq_ok_elim hdss
  have hkeys : ((allTypes crates).map Prod.fst).Perm ((typeEntries crates).map Prod.fst).dedup := by
    rw [allTypes_eq]
    exact keys_groupPairs_perm _
  rw [List.length_flatten, List.map_map, ← (hkeys.map _).sum_eq, List.map_map]
  congr 1
  refine List.map_congr_left fun ⟨typeName, locations⟩ hx ↦ ?_
  rw [Function.comp_apply, length_duplicateSmells (hg _ hx), (mem_allTypes.mp hx).2]
  simp only [typeCrates, List.map_map, Function.comp_def]

/-- On a run that returns, `detect_ai_smells` reports a duplicate definition of
a type name in a crate exactly when that crate defines it more than once: at
the first definition, listing the others; and it reports one for each such type
name and crate, as many in all as the crates that define a type name twice or
more, summed over the type names. -/
theorem detectAiSmells_duplicate_def_iff (crates : List (CrateInfo × CrateDir)) {smells : List AISmell}
    (h : detectAiSmells crates = .ok smells) :
    (∀ s, s ∈ smells ∧ s.kind = "duplicate_def" ↔
      ∃ typeName crateName first rest,
        typeLocations (crates.map Prod.fst) typeName crateName = first :: rest ∧ rest ≠ [] ∧
          s = duplicateSmell typeName crateName first rest) ∧
      (smells.filter (·.kind = "duplicate_def")).length =
        (((typeEntries (crates.map Prod.fst)).map Prod.fst).dedup.map fun typeName ↦
          ((typeCrates (crates.map Prod.fst) typeName).dedup.filter fun c ↦
            2 ≤ (typeCrates (crates.map Prod.fst) typeName).count c).length).sum := by
  obtain ⟨perFile, hp, h⟩ := bind_eq_ok.mp h
  obtain ⟨ds, hd, rfl⟩ := map_eq_ok.mp h
  have hdup : ∀ s ∈ ds, s.kind = "duplicate_def" := fun s hs ↦ by
    obtain ⟨_, _, _, _, -, -, rfl⟩ := (mem_duplicateDefs hd).mp hs
    rfl
  have hper : ∀ s ∈ perFile, s.kind ≠ "duplicate_def" := fun s hs ↦ by
    rcases kind_of_mem_perFileSmells hp hs with h | h | h <;> rw [h] <;> decide
  have hpath : ∀ s ∈ wrongPathsOf crates, s.kind ≠ "duplicate_def" := fun s hs ↦ by
    rw [kind_of_mem_wrongPathsOf hs]
    decide
  have hperm := List.perm_insertionSort (fun a b ↦ smellBefore a b = true) (perFile ++ ds ++ wrongPathsOf crates)
  refine ⟨fun s ↦ ?_, ?_⟩
  · rw [sortSmells, hperm.mem_iff, ← mem_duplicateDefs hd]
    constructor
    · rintro ⟨hs, hk⟩
      rcases List.mem_append.mp hs with hs | hs
      · rcases List.mem_append.mp hs with hs | hs
        · exact absurd hk (hper s hs)
        · exact hs
      · exact absurd hk (hpath s hs)
    · intro hs
      exact ⟨List.mem_append_left _ (List.mem_append_right _ hs), hdup s hs⟩
  · have hp' : perFile.filter (·.kind = "duplicate_def") = [] :=
      List.filter_eq_nil_iff.mpr fun s hs ↦ by simpa using hper s hs
    have hw' : (wrongPathsOf crates).filter (·.kind = "duplicate_def") = [] :=
      List.filter_eq_nil_iff.mpr fun s hs ↦ by simpa using hpath s hs
    have hd' : ds.filter (·.kind = "duplicate_def") = ds :=
      List.filter_eq_self.mpr fun s hs ↦ by simpa using hdup s hs
    rw [sortSmells, (hperm.filter _).length_eq, List.filter_append, List.filter_append, hp', hw', hd',
      List.nil_append, List.append_nil, length_duplicateDefs hd]

theorem detectAiSmells_duplicate_def_twice :
    (∀ s, s ∈ [duplicateSmell "A" (.str "k") ("src/lib.rs", 1) [("src/lib.rs", 2)]] ∧
        s.kind = "duplicate_def" ↔
      ∃ typeName crateName first rest,
        typeLocations [⟨.str "k", ["k"], [], [], [], [("", ⟨"crate", "", "src/lib.rs",
          [⟨"A", "struct", "src/lib.rs", 1, true⟩, ⟨"A", "enum", "src/lib.rs", 2, true⟩],
          [], [], []⟩)]⟩] typeName crateName = first :: rest ∧ rest ≠ [] ∧
          s = duplicateSmell typeName crateName first rest) ∧
      ([duplicateSmell "A" (.str "k") ("src/lib.rs", 1) [("src/lib.rs", 2)]].filter
          (·.kind = "duplicate_def")).length =
        (((typeEntries [⟨.str "k", ["k"], [], [], [], [("", ⟨"crate", "", "src/lib.rs",
            [⟨"A", "struct", "src/lib.rs", 1, true⟩, ⟨"A", "enum", "src/lib.rs", 2, true⟩],
            [], [], []⟩)]⟩]).map Prod.fst).dedup.map fun typeName ↦
          ((typeCrates [⟨.str "k", ["k"], [], [], [], [("", ⟨"crate", "", "src/lib.rs",
              [⟨"A", "struct", "src/lib.rs", 1, true⟩, ⟨"A", "enum", "src/lib.rs", 2, true⟩],
              [], [], []⟩)]⟩] typeName).dedup.filter fun c ↦
            2 ≤ (typeCrates [⟨.str "k", ["k"], [], [], [], [("", ⟨"crate", "", "src/lib.rs",
              [⟨"A", "struct", "src/lib.rs", 1, true⟩, ⟨"A", "enum", "src/lib.rs", 2, true⟩],
              [], [], []⟩)]⟩] typeName).count c).length).sum :=
  detectAiSmells_duplicate_def_iff [(⟨.str "k", ["k"], [], [], [], [("", ⟨"crate", "", "src/lib.rs",
    [⟨"A", "struct", "src/lib.rs", 1, true⟩, ⟨"A", "enum", "src/lib.rs", 2, true⟩],
    [], [], []⟩)]⟩, ⟨["k"], "k", none, none⟩)] rfl

/-- Only type names are indexed, and the crate test asks whether the path of
the import starts with a crate's name as a string: a function the crate
defines, and a path under another crate whose name merely starts with the
crate's, are both reported as phantom imports. -/
theorem phantom_import_of_defined_fn_and_prefixed_root :
    let dir : CrateDir := ⟨["demo"], "demo", none, some
      [⟨["src", "lib.rs"], some "pub mod util;\nuse demo::util::helper;\nuse demo_extra::Thing;\n"⟩,
        ⟨["src", "util.rs"], some "pub fn helper() \x7b\x7d\n"⟩]⟩
    ∃ crate, scanCrate dir = .ok crate ∧
      crate.modules.map (fun e ↦ (e.1, e.2.functions.map (·.name))) =
        [("", []), ("util", ["helper"])] ∧
      (detectAiSmells [(crate, dir)]).map (List.map fun s ↦ (s.kind, s.file, s.line, s.message)) =
        .ok [("phantom_import", "demo/src/lib.rs", 2,
            "Phantom import: `helper` from `demo::util` - type does not exist"),
          ("phantom_import", "demo/src/lib.rs", 3,
            "Phantom import: `Thing` from `demo_extra` - type does not exist")] :=
  ⟨_, rfl, rfl, rfl⟩

end Caliber.Audit
