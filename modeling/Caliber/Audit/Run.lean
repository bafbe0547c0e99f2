import Caliber.Audit.Outputs

/-!
# `repo_audit`: the walk and the run

`main` merges the ignored directories, parses the two extension lists, finds
the crates (the directory of every `Cargo.toml` under the root, sorted), scans
each, detects the smells, with `--generic-smells` also the TODO-like lines of
the other files, and writes the JSON of `generate_json`.

The tree under the resolved root is the list of entries `root.rglob('*')`
yields, each with its path from the root, whether it is a file, and what
`read_text` gives for it: the text, or the exception it raises.  A directory
below the root is walked as the entries below it, in the same order.

`is_ignored` looks at every part of the absolute path, the root's own parts
among them.  A root that lies inside a directory named like an ignored one
(`target`, `dist`, `.git`, ...) is therefore audited as an empty tree.
-/

namespace Caliber.Audit

open Caliber.Py Caliber.Pattern

/-! ## Arguments -/

/-- `DEFAULT_RUST_EXTENSIONS`. -/
def defaultRustExtensions : List String := [".rs"]

/-- `DEFAULT_GENERIC_EXTENSIONS`. -/
def defaultGenericExtensions : List String :=
  [".md", ".txt", ".py", ".js", ".ts", ".tsx", ".jsx", ".toml", ".yaml", ".yml", ".json", ".sql", ".sh",
    ".ps1", ".rb", ".go", ".java", ".cs", ".c", ".cpp", ".h", ".hpp"]

/-- `DEFAULT_IGNORE_DIRS`. -/
def defaultIgnoreDirs : List String := ["target", "node_modules", ".git", "dist", ".next", "_depg"]

/-- `parse_extension_list(value, default)`: the non-blank items of the list,
stripped, each with a leading dot. -/
def parseExtensionList (value : Option String) (default : List String) : List String :=
  match value with
  | some v =>
      if v = "" then default
      else (((v.data.splitOn ',').map strip).filter (· ≠ [])).map fun item ↦
        if startsWith item ['.'] then ⟨item⟩ else ⟨'.' :: item⟩
  | none => default

/-- `parse_ignore_dirs(value)`; an empty value splits into one blank item. -/
def parseIgnoreDirs : Option String → List String
  | some v => (((v.data.splitOn ',').map strip).filter (· ≠ [])).map String.mk
  | none => []

/-! ## The walk -/

/-- An entry of the walk: its path from the walked directory as `Path.parts`,
whether it is a file, and the text `read_text` returns or the exception it
raises. -/
structure WalkEntry where
  parts : List String
  isFile : Bool
  content : Except String String

/-- `path.parts` of an absolute path given by its parts, `""` for the root
being the part `/`. -/
def pyPathParts : List String → List String
  | p :: rest => (if p = "" then "/" else p) :: rest
  | [] => []

/-- `is_ignored(path, ignore_dirs)` of an absolute path. -/
def isIgnored (path ignoreDirs : List String) : Bool :=
  (pyPathParts path).any (· ∈ ignoreDirs)

/-- `PurePath.suffix` of a name: from its last dot on, unless that dot begins
or ends the name. -/
def pathSuffix (name : String) : String :=
  let k := (name.data.reverse.takeWhile (· ≠ '.')).length
  if 0 < k ∧ k + 1 < name.length then ⟨name.data.drop (name.length - k - 1)⟩ else ""

/-- `iter_files(root, extensions, ignore_dirs)` over the walk of `root`. -/
def iterFiles (root extensions ignoreDirs : List String) (walk : List WalkEntry) : List WalkEntry :=
  walk.filter fun e ↦ e.isFile && (extensions.isEmpty || pathSuffix (e.parts.getLast?.getD "") ∈ extensions) &&
    !isIgnored (root ++ e.parts) ignoreDirs

/-- `a < b` of two paths under one root: their parts compared as Python lists
of strings. -/
def ltParts : List String → List String → Bool
  | [], [] => false
  | [], _ :: _ => true
  | _ :: _, [] => false
  | a :: as, b :: bs => ltChars a.data b.data || (a = b && ltParts as bs)

@[simp] theorem ltParts_self : ∀ l, ltParts l l = false
  | [] => rfl
  | a :: l => by simp [ltParts, ltParts_self l]

theorem ltParts_trans : ∀ {a b c : List String}, ltParts a b → ltParts b c → ltParts a c
  | [], [], _, h, _ => by simp [ltParts] at h
  | _ :: _, [], _, h, _ => by simp [ltParts] at h
  | _, _ :: _, [], _, h => by simp [ltParts] at h
  | [], _ :: _, _ :: _, _, _ => rfl
  | x :: a, y :: b, z :: c, h₁, h₂ => by
      simp only [ltParts, Bool.or_eq_true, Bool.and_eq_true, decide_eq_true_eq] at *
      rcases h₁ with h₁ | ⟨rfl, h₁⟩ <;> rcases h₂ with h₂ | ⟨rfl, h₂⟩
      · exact .inl (ltChars_trans h₁ h₂)
      · exact .inl h₁
      · exact .inl h₂
      · exact .inr ⟨rfl, ltParts_trans h₁ h₂⟩

theorem ltParts_total : ∀ {a b : List String}, a ≠ b → ltParts a b ∨ ltParts b a
  | [], [], h => absurd rfl h
  | [], _ :: _, _ => .inl rfl
  | _ :: _, [], _ => .inr rfl
  | x :: a, y :: b, h => by
      simp only [ltParts, Bool.or_eq_true, Bool.and_eq_true, decide_eq_true_eq]
      by_cases hxy : x = y
      · subst hxy
        exact (ltParts_total fun hab ↦ h (by rw [hab])).imp (.inr ⟨rfl, ·⟩) (.inr ⟨rfl, ·⟩)
      · exact (ltChars_total fun hd ↦ hxy (String.ext hd)).imp .inl .inl

theorem ltParts_or_eq_total (a b : List String) : (ltParts a b || a = b) ∨ (ltParts b a || b = a) := by
  by_cases h : a = b
  · simp [h]
  · rcases ltParts_total h with h' | h' <;> simp [h']

theorem ltParts_or_eq_trans {a b c : List String} (hab : ltParts a b || a = b) (hbc : ltParts b c || b = c) :
    ltParts a c || a = c := by
  simp only [Bool.or_eq_true, decide_eq_true_eq] at hab hbc ⊢
  rcases hab with hab | rfl <;> rcases hbc with hbc | rfl
  exacts [.inl (ltParts_trans hab hbc), .inl hab, .inl hbc, .inr rfl]

/-- `find_crates(root, ignore_dirs)`: the directories, from the root, of the
`Cargo.toml` entries of the walk that no ignored directory holds, sorted. -/
def findCrates (root ignoreDirs : List String) (walk : List WalkEntry) : List (List String) :=
  ((walk.filter fun e ↦ e.parts.getLast? = some "Cargo.toml" && !isIgnored (root ++ e.parts) ignoreDirs).map
    (·.parts.dropLast)).insertionSort fun a b ↦ ltParts a b || a = b

theorem mem_findCrates {root ignoreDirs : List String} {walk : List WalkEntry} {d : List String} :
    d ∈ findCrates root ignoreDirs walk ↔
      ∃ e ∈ walk, e.parts = d ++ ["Cargo.toml"] ∧ isIgnored (root ++ e.parts) ignoreDirs = false := by
  rw [findCrates, (List.perm_insertionSort _ _).mem_iff]
  simp only [List.mem_map, List.mem_filter, Bool.and_eq_true, decide_eq_true_eq, Bool.not_eq_true']
  constructor
  · rintro ⟨e, ⟨he, hlast, hign⟩, rfl⟩
    exact ⟨e, he, (List.dropLast_append_getLast? _ hlast).symm, hign⟩
  · rintro ⟨e, he, hparts, hign⟩
    exact ⟨e, ⟨he, by simp [hparts], hign⟩, by simp [hparts]⟩

theorem findCrates_sorted (root ignoreDirs : List String) (walk : List WalkEntry) :
    (findCrates root ignoreDirs walk).Pairwise fun a b ↦ ltParts a b || a = b := by
  haveI : IsTotal (List String) fun a b ↦ ltParts a b || a = b := ⟨ltParts_or_eq_total⟩
  haveI : IsTrans (List String) fun a b ↦ ltParts a b || a = b := ⟨fun _ _ _ ↦ ltParts_or_eq_trans⟩
  exact List.sorted_insertionSort _ _

theorem ltParts_of_prefix_of_ne : ∀ {d c : List String}, d <+: c → d ≠ c → ltParts d c
  | [], [], _, h => absurd rfl h
  | [], _ :: _, _, _ => rfl
  | x :: d, c, ⟨t, hc⟩, h => by
      subst hc
      have ih := ltParts_of_prefix_of_ne (List.prefix_append d t) fun hd ↦ h (by rw [List.cons_append, ← hd])
      simp [ltParts, ih]

/-- Paths are compared part by part, so a path between two paths under `d` is
under `d`. -/
theorem prefix_of_ltParts_between : ∀ {d a b c : List String},
    d <+: a → ltParts a b → ltParts b c → d <+: c → d <+: b
  | [], _, _, _, _, _, _, _ => List.nil_prefix
  | x :: d, _, b, _, ha, hab, hbc, hc => by
      obtain ⟨a, rfl⟩ := ha
      obtain ⟨c, rfl⟩ := hc
      cases b with
      | nil => simp [ltParts] at hab
      | cons y b =>
          simp only [List.cons_append, ltParts, Bool.or_eq_true, Bool.and_eq_true, decide_eq_true_eq] at hab hbc
          rcases hab with hab | ⟨rfl, hab⟩ <;> rcases hbc with hbc | ⟨hyx, hbc⟩
          · simpa using ltChars_trans hab hbc
          · simp [hyx] at hab
          · simp at hbc
          · exact List.cons_prefix_cons.mpr ⟨rfl, prefix_of_ltParts_between (List.prefix_append d a) hab hbc
              (List.prefix_append d c)⟩

theorem prefix_of_between {d a b c : List String} (ha : d <+: a) (hab : ltParts a b || a = b)
    (hbc : ltParts b c || b = c) (hc : d <+: c) : d <+: b := by
  simp only [Bool.or_eq_true, decide_eq_true_eq] at hab hbc
  rcases hab with hab | rfl
  · rcases hbc with hbc | rfl
    exacts [prefix_of_ltParts_between ha hab hbc hc, hc]
  · exact ha

/-- In a list ordered by `r`, the elements of a set that holds everything `r`
puts between two of its elements come one after the other. -/
theorem exists_split_filter {α : Type} {r : α → α → Prop} {p : α → Bool}
    (hconv : ∀ a b c, p a → r a b → r b c → p c → p b) :
    ∀ {l : List α}, l.Pairwise r → ∃ s t, s ++ l.filter p ++ t = l ∧ ∀ a ∈ s, p a = false
  | [], _ => ⟨[], [], rfl, by simp⟩
  | x :: xs, h => by
      obtain ⟨hx, hxs⟩ := List.pairwise_cons.mp h
      obtain ⟨s, t, hst, hs⟩ := exists_split_filter hconv hxs
      by_cases hpx : p x
      · rw [List.filter_cons_of_pos hpx]
        cases s with
        | nil => exact ⟨[], t, congrArg (x :: ·) hst, by simp⟩
        | cons a s =>
            -- an element before the block would lie between `x` and the block
            cases hF : xs.filter p with
            | nil => exact ⟨[], xs, by simp, by simp⟩
            | cons b F =>
                rw [hF] at hst
                have hb : p b := (List.mem_filter.mp (hF ▸ List.mem_cons_self b F : b ∈ xs.filter p)).2
                have hab : r a b := by
                  rw [← hst, List.cons_append, List.cons_append] at hxs
                  exact (List.pairwise_cons.mp hxs).1 b (by simp)
                have hxa : r x a := hx a (by rw [← hst]; exact List.mem_cons_self _ _)
                exact absurd (hconv x a b hpx hxa hab hb) (by simp [hs a (List.mem_cons_self a s)])
      · rw [List.filter_cons_of_neg hpx]
        refine ⟨x :: s, t, congrArg (x :: ·) hst, fun a ha ↦ ?_⟩
        obtain rfl | ha := List.mem_cons.mp ha
        exacts [by simpa using hpx, hs a ha]

/-- The crates `find_crates` returns under a directory `d` come one after the
other, `d` first when it is a crate itself: Python orders paths part by part,
so a directory's crates sort together, even where the text of a path under it
would sort after that of another directory (`a/b` after `a-b`). -/
theorem findCrates_under_dir (root ignoreDirs : List String) (walk : List WalkEntry) (d : List String) :
    (findCrates root ignoreDirs walk).filter (d <+: ·) <:+: findCrates root ignoreDirs walk ∧
      (d ∈ findCrates root ignoreDirs walk →
        ((findCrates root ignoreDirs walk).filter (d <+: ·)).head? = some d) := by
  have hsorted := findCrates_sorted root ignoreDirs walk
  refine ⟨?_, fun hd ↦ ?_⟩
  · obtain ⟨s, t, hst, -⟩ := exists_split_filter (p := fun c ↦ decide (d <+: c))
      (fun _ _ _ ha hab hbc hc ↦ by simpa using prefix_of_between (by simpa using ha) hab hbc (by simpa using hc))
      hsorted
    exact ⟨s, t, hst⟩
  · -- the block starts at its least element, `d`
    have hmem : d ∈ (findCrates root ignoreDirs walk).filter (d <+: ·) :=
      List.mem_filter.mpr ⟨hd, by simp⟩
    have hblock := hsorted.sublist (List.filter_sublist (p := fun c ↦ decide (d <+: c)) _)
    cases hF : (findCrates root ignoreDirs walk).filter (d <+: ·) with
    | nil => simp [hF] at hmem
    | cons h rest =>
        rw [hF] at hmem hblock
        have hdh : d <+: h := by
          simpa using (List.mem_filter.mp (hF ▸ List.mem_cons_self h rest :
            h ∈ (findCrates root ignoreDirs walk).filter (d <+: ·))).2
        rcases List.mem_cons.mp hmem with rfl | hrest
        · rfl
        · by_cases hdh' : d = h
          · rw [hdh']
            rfl
          · have hhd : ltParts h d || h = d := (List.pairwise_cons.mp hblock).1 d hrest
            simp only [Bool.or_eq_true, decide_eq_true_eq, Ne.symm hdh', or_false] at hhd
            simpa using ltParts_trans hhd (ltParts_of_prefix_of_ne hdh hdh')

theorem findCrates_under_dir_a :
    ["a"] ∈ findCrates [""] defaultIgnoreDirs [⟨["ab", "Cargo.toml"], true, .ok ""⟩,
        ⟨["a", "b", "Cargo.toml"], true, .ok ""⟩, ⟨["a-b", "Cargo.toml"], true, .ok ""⟩,
        ⟨["a", "Cargo.toml"], true, .ok ""⟩] ∧
      (findCrates [""] defaultIgnoreDirs [⟨["ab", "Cargo.toml"], true, .ok ""⟩,
          ⟨["a", "b", "Cargo.toml"], true, .ok ""⟩, ⟨["a-b", "Cargo.toml"], true, .ok ""⟩,
          ⟨["a", "Cargo.toml"], true, .ok ""⟩]).filter (["a"] <+: ·) <:+:
        findCrates [""] defaultIgnoreDirs [⟨["ab", "Cargo.toml"], true, .ok ""⟩,
          ⟨["a", "b", "Cargo.toml"], true, .ok ""⟩, ⟨["a-b", "Cargo.toml"], true, .ok ""⟩,
          ⟨["a", "Cargo.toml"], true, .ok ""⟩] ∧
      ((findCrates [""] defaultIgnoreDirs [⟨["ab", "Cargo.toml"], true, .ok ""⟩,
          ⟨["a", "b", "Cargo.toml"], true, .ok ""⟩, ⟨["a-b", "Cargo.toml"], true, .ok ""⟩,
          ⟨["a", "Cargo.toml"], true, .ok ""⟩]).filter (["a"] <+: ·)).head? = some ["a"] :=
  have h : ["a"] ∈ findCrates [""] defaultIgnoreDirs [⟨["ab", "Cargo.toml"], true, .ok ""⟩,
      ⟨["a", "b", "Cargo.toml"], true, .ok ""⟩, ⟨["a-b", "Cargo.toml"], true, .ok ""⟩,
      ⟨["a", "Cargo.toml"], true, .ok ""⟩] := by decide
  ⟨h, (findCrates_under_dir _ _ _ _).1, (findCrates_under_dir _ _ _ _).2 h⟩

example : findCrates [""] defaultIgnoreDirs [⟨["ab", "Cargo.toml"], true, .ok ""⟩,
    ⟨["a", "b", "Cargo.toml"], true, .ok ""⟩, ⟨["a-b", "Cargo.toml"], true, .ok ""⟩,
    ⟨["a", "Cargo.toml"], true, .ok ""⟩] = [["a"], ["a", "b"], ["a-b"], ["ab"]] := by
  decide

example : findCrates [""] defaultIgnoreDirs [⟨["b", "Cargo.toml"], true, .ok ""⟩,
    ⟨["a", "Cargo.toml"], true, .ok ""⟩, ⟨["target", "Cargo.toml"], true, .ok ""⟩] = [["a"], ["b"]] := by
  decide

/-- The walk of the directory `dir` of the tree: the entries below it, with
their paths from it. -/
def walkUnder (dir : List String) (walk : List WalkEntry) : List WalkEntry :=
  walk.filterMap fun e ↦
    if dir <+: e.parts ∧ dir.length < e.parts.length then some { e with parts := e.parts.drop dir.length }
    else none

/-- What `scan_crate` and `detect_ai_smells` read of the crate at `crate`: its
manifest when it exists, whose failed read raises, and the files `iter_files`
yields under its `src/` when that exists. -/
def crateDirOf (root ignoreDirs rustExtensions : List String) (walk : List WalkEntry)
    (crate : List String) : Except String CrateDir := do
  let cargo ← match walk.find? (·.parts = crate ++ ["Cargo.toml"]) with
    | some e => e.content.map some
    | none => pure none
  pure
    { path := crate, dirName := (root ++ crate).getLast?.getD "", cargoToml := cargo,
      src := if walk.any (·.parts = crate ++ ["src"]) then
          some ((iterFiles (root ++ crate ++ ["src"]) rustExtensions ignoreDirs
            (walkUnder (crate ++ ["src"]) walk)).map fun e ↦ ⟨"src" :: e.parts, e.content.toOption⟩)
        else none }

/-! ## `detect_generic_smells` -/

/-- `GENERIC_TODO_PATTERN`: `(?:TODO|FIXME|XXX|HACK)` under `re.IGNORECASE`. -/
def Patterns.genericTodo : Re :=
  .alt (caseless "TODO") (.alt (caseless "FIXME") (.alt (caseless "XXX") (caseless "HACK")))

/-- The smell of a TODO-like line of a file. -/
def genericSmell (file : String) (n : LineNote) : AISmell :=
  { kind := "todo", severity := "info", file := file, line := n.line, message := "TODO/FIXME marker",
    context := some ⟨n.text.data.take 120⟩, suggestion := some "Address or remove TODO/FIXME" }

/-- `detect_generic_smells(root, ignore_dirs, extensions)`; a file whose read
fails is skipped. -/
def detectGenericSmells (root ignoreDirs extensions : List String) (walk : List WalkEntry) :
    List AISmell :=
  (iterFiles root extensions ignoreDirs walk).flatMap fun e ↦
    match e.content with
    | .ok content => (notesOf Patterns.genericTodo (splitlines content.data)).map (genericSmell (pathText e.parts))
    | .error _ => []

/-! ## `main` -/

/-- The arguments of `main` that the audit reads, and the time stamp of
`generate_json`. -/
structure AuditArgs where
  extensions : Option String
  genericSmells : Bool
  genericExtensions : Option String
  ignoreDirs : Option String
  generatedAt : String

/-- `main` up to the JSON of `generate_json`, over the walk of the resolved
root `root`; the crates are scanned in order, and the first that raises stops
the run. -/
def repoAudit (args : AuditArgs) (root : List String) (walk : List WalkEntry) : Except String AuditJson := do
  let ignoreDirs := defaultIgnoreDirs ++ parseIgnoreDirs args.ignoreDirs
  let rustExtensions := parseExtensionList args.extensions defaultRustExtensions
  let genericExtensions := parseExtensionList args.genericExtensions defaultGenericExtensions
  let scanned ← (findCrates root ignoreDirs walk).mapM fun crate ↦ do
    let dir ← crateDirOf root ignoreDirs rustExtensions walk crate
    let info ← scanCrate dir
    pure (info, dir)
  let aiSmells ← detectAiSmells scanned
  let smells := aiSmells ++
    if args.genericSmells then detectGenericSmells root ignoreDirs genericExtensions walk else []
  let crates := scanned.map Prod.fst
  pure (generateJson args.generatedAt root crates smells (buildTypeIndex crates))

example : ((repoAudit ⟨none, true, none, none, ""⟩ (pathParts "/w")
    [⟨["Cargo.toml"], true, .ok "[package]\nname = \"k\"\n"⟩, ⟨["src"], false, .error "IsADirectoryError"⟩,
      ⟨["src", "lib.rs"], true, .ok "pub struct A;\n"⟩, ⟨["notes.md"], true, .ok "todo: x\n"⟩]).map
    fun j ↦ (j.crates.map (·.name), j.typeIndex.map (·.1), j.aiSmells.map fun s ↦ (s.file, s.line))) =
      .ok ([.str "k"], ["k::A"], [("notes.md", 1)]) := by
  rfl

theorem kind_of_mem_detectGenericSmells {root ignoreDirs extensions : List String} {walk : List WalkEntry}
    {s : AISmell} (h : s ∈ detectGenericSmells root ignoreDirs extensions walk) : s.kind = "todo" := by
  obtain ⟨e, -, hs⟩ := List.mem_flatMap.mp h
  split at hs
  · obtain ⟨_, -, rfl⟩ := List.mem_map.mp hs
    rfl
  · cases hs

/-- The table of kinds of an audit that returns holds only the kinds the two
scans report, and its count of `todo` is that of the generic scan: the Rust
scan reports `TODO` markers only as one `todo_density` warning per file. -/
theorem repoAudit_smellsByKind (args : AuditArgs) (root : List String) (walk : List WalkEntry)
    {j : AuditJson} (h : repoAudit args root walk = .ok j) :
    let generic := detectGenericSmells root (defaultIgnoreDirs ++ parseIgnoreDirs args.ignoreDirs)
      (parseExtensionList args.genericExtensions defaultGenericExtensions) walk
    (∀ kind ∈ j.stats.smellsByKind.map Prod.fst,
      kind ∈ ["phantom_import", "todo_density", "stub_logic", "duplicate_def", "wrong_path", "todo"]) ∧
      dictGet j.stats.smellsByKind "todo" =
        if args.genericSmells ∧ generic ≠ [] then some generic.length else none := by
  intro generic
  obtain ⟨scanned, -, h⟩ := bind_eq_ok.mp h
  obtain ⟨ai, hai, h⟩ := bind_eq_ok.mp h
  cases h
  have hai_todo : ∀ s ∈ ai, s.kind ≠ "todo" := fun s hs hk ↦ by
    simpa [hk] using kind_of_mem_detectAiSmells hai hs
  have hgen : ∀ s ∈ (if args.genericSmells then generic else []), s.kind = "todo" := fun s hs ↦ by
    split_ifs at hs
    exacts [kind_of_mem_detectGenericSmells hs, absurd hs (List.not_mem_nil s)]
  obtain ⟨-, hget, -⟩ := smellsByKind_spec (ai ++ if args.genericSmells then generic else [])
  refine ⟨fun kind hk ↦ ?_, ?_⟩
  · obtain ⟨s, hs, rfl⟩ := mem_keys_smellsByKind.mp hk
    rcases List.mem_append.mp hs with hs | hs
    · have hk := kind_of_mem_detectAiSmells hai hs
      simp only [List.mem_cons, List.not_mem_nil, or_false] at hk ⊢
      tauto
    · simp [hgen s hs]
  · -- the `todo` smells are the generic ones
    have hfilter : (ai ++ if args.genericSmells then generic else []).filter (·.kind = "todo") =
        if args.genericSmells then generic else [] := by
      rw [List.filter_append, List.filter_eq_nil_iff.mpr fun s hs ↦ by simpa using hai_todo s hs,
        List.filter_eq_self.mpr fun s hs ↦ by simpa using hgen s hs, List.nil_append]
    have hai_any : ai.any (·.kind = "todo") = false :=
      List.any_eq_false.mpr fun s hs ↦ by simpa using hai_todo s hs
    have hall_any (l : List AISmell) (hl : ∀ s ∈ l, s.kind = "todo") :
        l.any (·.kind = "todo") = decide (l ≠ []) := by
      cases l with
      | nil => rfl
      | cons a l => simp [hl a (List.mem_cons_self a l)]
    show dictGet (smellsByKind _) "todo" = _
    rw [hget, hfilter, List.any_append, hai_any, Bool.false_or, hall_any _ hgen]
    cases args.genericSmells <;> simp

theorem repoAudit_smellsByKind_notes :
    ∃ j, repoAudit ⟨none, true, none, none, ""⟩ (pathParts "/w")
        [⟨["Cargo.toml"], true, .ok "[package]\nname = \"k\"\n"⟩, ⟨["src", "lib.rs"], true, .ok "// TODO\n"⟩,
          ⟨["notes.md"], true, .ok "todo: x\nFIXME\n"⟩] = .ok j ∧
      (∀ kind ∈ j.stats.smellsByKind.map Prod.fst,
        kind ∈ ["phantom_import", "todo_density", "stub_logic", "duplicate_def", "wrong_path", "todo"]) ∧
      dictGet j.stats.smellsByKind "todo" =
        if true ∧ detectGenericSmells (pathParts "/w") (defaultIgnoreDirs ++ parseIgnoreDirs none)
            (parseExtensionList none defaultGenericExtensions)
            [⟨["Cargo.toml"], true, .ok "[package]\nname = \"k\"\n"⟩, ⟨["src", "lib.rs"], true, .ok "// TODO\n"⟩,
              ⟨["notes.md"], true, .ok "todo: x\nFIXME\n"⟩] ≠ [] then
          some (detectGenericSmells (pathParts "/w") (defaultIgnoreDirs ++ parseIgnoreDirs none)
            (parseExtensionList none defaultGenericExtensions)
            [⟨["Cargo.toml"], true, .ok "[package]\nname = \"k\"\n"⟩, ⟨["src", "lib.rs"], true, .ok "// TODO\n"⟩,
              ⟨["notes.md"], true, .ok "todo: x\nFIXME\n"⟩]).length
        else none :=
  ⟨_, rfl, repoAudit_smellsByKind ⟨none, true, none, none, ""⟩ (pathParts "/w")
    [⟨["Cargo.toml"], true, .ok "[package]\nname = \"k\"\n"⟩, ⟨["src", "lib.rs"], true, .ok "// TODO\n"⟩,
      ⟨["notes.md"], true, .ok "todo: x\nFIXME\n"⟩] rfl⟩

/-! ## A root inside an ignored directory -/

theorem pyPathParts_append {root : List String} (h : root ≠ []) (parts : List String) :
    pyPathParts (root ++ parts) = pyPathParts root ++ parts := by
  cases root with
  | nil => exact absurd rfl h
  | cons p rest => rfl

theorem isIgnored_append {root ignoreDirs : List String} (h : isIgnored root ignoreDirs)
    (parts : List String) : isIgnored (root ++ parts) ignoreDirs := by
  have hne : root ≠ [] := by rintro rfl; simp [isIgnored, pyPathParts] at h
  simp only [isIgnored, pyPathParts_append hne, List.any_append] at h ⊢
  simp [h]

theorem iterFiles_of_ignored {root ignoreDirs : List String} (h : isIgnored root ignoreDirs)
    (extensions : List String) (walk : List WalkEntry) : iterFiles root extensions ignoreDirs walk = [] :=
  List.filter_eq_nil_iff.mpr fun e _ ↦ by simp [isIgnored_append h]

theorem findCrates_of_ignored {root ignoreDirs : List String} (h : isIgnored root ignoreDirs)
    (walk : List WalkEntry) : findCrates root ignoreDirs walk = [] := by
  have hnil : (walk.filter fun e ↦ e.parts.getLast? = some "Cargo.toml" && !isIgnored (root ++ e.parts) ignoreDirs) = [] :=
    List.filter_eq_nil_iff.mpr fun e _ ↦ by simp [isIgnored_append h]
  simp only [findCrates, hnil, List.map_nil, List.insertionSort]

/-- The audit of a root that lies inside a directory named like an ignored one
finds no crate, no module, no type and no smell, whatever the tree under it
holds: every path it would look at has that directory among its parts. -/
theorem repoAudit_of_ignored_root (args : AuditArgs) (root : List String) (walk : List WalkEntry)
    (h : isIgnored root (defaultIgnoreDirs ++ parseIgnoreDirs args.ignoreDirs)) :
    repoAudit args root walk = .ok (generateJson args.generatedAt root [] [] []) := by
  have hgeneric : detectGenericSmells root (defaultIgnoreDirs ++ parseIgnoreDirs args.ignoreDirs)
      (parseExtensionList args.genericExtensions defaultGenericExtensions) walk = [] := by
    rw [detectGenericSmells, iterFiles_of_ignored h]
    rfl
  simp only [repoAudit, findCrates_of_ignored h, hgeneric, ite_self, List.mapM_nil]
  rfl

theorem repoAudit_of_ignored_root_dist :
    isIgnored (pathParts "/srv/dist/caliber") (defaultIgnoreDirs ++ parseIgnoreDirs none) ∧
      repoAudit ⟨none, true, none, none, ""⟩ (pathParts "/srv/dist/caliber")
          [⟨["Cargo.toml"], true, .ok "[package]\nname = \"k\"\n"⟩, ⟨["notes.md"], true, .ok "TODO\n"⟩] =
        .ok (generateJson "" (pathParts "/srv/dist/caliber") [] [] []) :=
  have h : isIgnored (pathParts "/srv/dist/caliber") (defaultIgnoreDirs ++ parseIgnoreDirs none) := by decide
  ⟨h, repoAudit_of_ignored_root _ _ _ h⟩

end Caliber.Audit
