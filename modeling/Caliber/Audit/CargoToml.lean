import Caliber.Py.Builtins

/-!
# The fallback manifest parser

`parse_cargo_toml` of `repo_audit.py` reads `[section]` and `[section.sub]`
headers and `key = value` lines into a nested dictionary.  A key line under
`[a.b]` assigns into `result[a][b]`, which is a table when the header created
it but a string when an earlier line under `[a]` gave `b` a value; the
assignment then raises `TypeError`.
-/

namespace Caliber.Audit

open Caliber.Py

/-- A value one level below a section: a string, or the table a `[section.sub]`
header opens. -/
inductive Entry where
  | str (s : String)
  | table (t : List (String × String))
deriving DecidableEq, Repr

/-- The parsed manifest: each section's entries. -/
abbrev Manifest := List (String × List (String × Entry))

/-- The loop state: `result` and `current_section`. -/
structure TomlState where
  result : Manifest
  currentSection : Option String

/-- The message of the failing item assignment. -/
def typeError : String := "TypeError: 'str' object does not support item assignment"

/-- `result = {'package': {}, 'dependencies': {}, 'dev-dependencies': {}, 'features': {}}`. -/
def initialManifest : Manifest :=
  [("package", []), ("dependencies", []), ("dev-dependencies", []), ("features", [])]

/-- `result[section][key] = value` under a plain section. -/
def assignPlain (result : Manifest) (sec key value : String) : Manifest :=
  dictModify result sec [] fun t ↦ dictSet t key (.str value)

/-- `result[parts[0]][parts[1]][key] = value` under `[parts[0].parts[1]]`, after
the two `if ... not in ...: ... = {}` lines. -/
def assignDotted (result : Manifest) (top sub key value : String) : Except String Manifest :=
  let t := (dictGet result top).getD []
  match (dictGet t sub).getD (.table []) with
  | .table inner => .ok (dictSet result top (dictSet t sub (.table (dictSet inner key value))))
  | .str _ => .error typeError

/-- A `key = value` line under `current_section`: the key before the first `=`,
the value after it with quotes stripped. -/
def parseKeyLine (result : Manifest) (sec : String) (line : List Char) : Except String Manifest :=
  let key : String := ⟨strip (partition '=' line).1⟩
  let value : String := ⟨stripChars ['\''] (stripChars ['"'] (strip (partition '=' line).2))⟩
  if '.' ∈ sec.data then
    assignDotted result ⟨(partition '.' sec.data).1⟩ ⟨(partition '.' sec.data).2⟩ key value
  else .ok (assignPlain result sec key value)

/-- A `[section]` header: `result[section] = {}` unless present. -/
def openSection (result : Manifest) (sec : String) : Manifest :=
  if (dictGet result sec).isSome then result else dictSet result sec []

/-- One line of the loop `for line in content.splitlines()`. -/
def parseLine (st : TomlState) (raw : List Char) : Except String TomlState :=
  let line := strip raw
  if line = [] ∨ startsWith line "#".toList then .ok st
  else if startsWith line "[".toList then
    let sec : String := ⟨strip (stripChars "[]".toList line)⟩
    .ok ⟨openSection st.result sec, some sec⟩
  else
    match st.currentSection with
    | some sec =>
        if '=' ∈ line ∧ sec ≠ "" then
          (parseKeyLine st.result sec line).map fun r ↦ ⟨r, st.currentSection⟩
        else .ok st
    | none => .ok st

/-- The loop over the lines. -/
def parseLines : TomlState → List (List Char) → Except String TomlState
  | st, [] => .ok st
  | st, l :: ls => (parseLine st l).bind fun st' ↦ parseLines st' ls

/-- `parse_cargo_toml(path)` on the file's text. -/
def parseCargoToml (content : String) : Except String Manifest :=
  (parseLines ⟨initialManifest, none⟩ (splitlines content.data)).map (·.result)

/-! ## Where the parser raises -/

/-- `result[a][b]` holds a string, so a key line under `[a.b]` cannot assign
into it. -/
def SubKeyIsString (result : Manifest) (sec : String) : Prop :=
  ∃ s, (dictGet ((dictGet result ⟨(partition '.' sec.data).1⟩).getD [])
    ⟨(partition '.' sec.data).2⟩).getD (.table []) = .str s

/-- The only error a line can raise is the `TypeError` of a key line under
`[a.b]` while `result[a][b]` is a string. -/
theorem parseLine_error {st : TomlState} {raw : List Char} {e : String}
    (h : parseLine st raw = .error e) :
    e = typeError ∧ ∃ sec, st.currentSection = some sec ∧ '.' ∈ sec.data ∧
      SubKeyIsString st.result sec := by
  simp only [parseLine] at h
  split at h
  · cases h
  split at h
  · cases h
  split at h
  · rename_i sec hsec
    split at h
    · cases hk : parseKeyLine st.result sec (strip raw) with
      | ok r => simp [hk, Except.map] at h
      | error e' =>
          simp only [hk, Except.map, Except.error.injEq] at h
          subst h
          simp only [parseKeyLine] at hk
          split at hk
          · rename_i hdot
            simp only [assignDotted] at hk
            split at hk
            · cases hk
            · rename_i s hs
              exact ⟨(Except.error.inj hk).symm, sec, hsec, hdot, s, hs⟩
          · cases hk
    · cases h
  · cases h

/-- The section a header line opens. -/
def headerSection (raw : List Char) : Option String :=
  if strip raw = [] ∨ startsWith (strip raw) "#".toList then none
  else if startsWith (strip raw) "[".toList then some ⟨strip (stripChars "[]".toList (strip raw))⟩
  else none

theorem parseLine_currentSection {st st' : TomlState} {raw : List Char}
    (h : parseLine st raw = .ok st') :
    st'.currentSection = st.currentSection ∨ st'.currentSection = headerSection raw := by
  simp only [parseLine] at h
  unfold headerSection
  split at h
  · cases h
    exact .inl rfl
  split at h
  · cases h
    exact .inr (by simp_all)
  split at h
  · rename_i sec _
    split at h
    · cases hk : parseKeyLine st.result sec (strip raw) <;> simp [hk, Except.map] at h
      exact .inl (h ▸ rfl)
    · cases h
      exact .inl rfl
  · cases h
    exact .inl rfl

/-- A manifest whose headers are all plain `[section]` headers never raises. -/
theorem parseLines_ok_of_plain_headers :
    ∀ (lines : List (List Char)) (st : TomlState),
      (∀ sec, st.currentSection = some sec → '.' ∉ sec.data) →
      (∀ l ∈ lines, ∀ sec, headerSection l = some sec → '.' ∉ sec.data) →
      ∃ st', parseLines st lines = .ok st'
  | [], st, _, _ => ⟨st, rfl⟩
  | l :: ls, st, hst, hlines => by
      cases hl : parseLine st l with
      | error e =>
          obtain ⟨-, sec, hsec, hdot, -⟩ := parseLine_error hl
          exact absurd hdot (hst sec hsec)
      | ok st' =>
          simp only [parseLines, hl, Except.bind]
          refine parseLines_ok_of_plain_headers ls st' (fun sec hsec ↦ ?_)
            fun l' hl' ↦ hlines l' (List.mem_cons_of_mem l hl')
          rcases parseLine_currentSection hl with h | h
          · exact hst sec (h ▸ hsec)
          · exact hlines l (List.mem_cons_self l ls) sec (h ▸ hsec)

theorem parseLines_error {lines : List (List Char)} :
    ∀ {st : TomlState} {e : String}, parseLines st lines = .error e → e = typeError := by
  induction lines with
  | nil => intro st e h; cases h
  | cons l ls ih =>
      intro st e h
      cases hl : parseLine st l with
      | error e' =>
          simp only [parseLines, hl, Except.bind] at h
          cases h
          exact (parseLine_error hl).1
      | ok st' =>
          simp only [parseLines, hl, Except.bind] at h
          exact ih h

/-- `parse_cargo_toml` raises nothing but the `TypeError` of a `[a.b]` table
whose key `b` already holds a string. -/
theorem parseCargoToml_error {content : String} {e : String}
    (h : parseCargoToml content = .error e) : e = typeError := by
  unfold parseCargoToml at h
  cases hl : parseLines ⟨initialManifest, none⟩ (splitlines content.data) <;>
    simp [hl, Except.map] at h
  exact parseLines_error (h ▸ hl)

theorem parseCargoToml_error_on_scalar_then_table :
    ∃ e, parseCargoToml "[dependencies]\nserde = \"1\"\n[dependencies.serde]\nversion = \"1\"\n" =
      .error e ∧ e = typeError :=
  have h : parseCargoToml "[dependencies]\nserde = \"1\"\n[dependencies.serde]\nversion = \"1\"\n" =
      .error typeError := rfl
  ⟨_, h, parseCargoToml_error h⟩

/-- A manifest with only plain `[section]` headers is always parsed. -/
theorem parseCargoToml_ok_of_plain_headers {content : String}
    (h : ∀ l ∈ splitlines content.data, ∀ sec, headerSection l = some sec → '.' ∉ sec.data) :
    ∃ m, parseCargoToml content = .ok m := by
  obtain ⟨st, hst⟩ := parseLines_ok_of_plain_headers _ ⟨initialManifest, none⟩ (by simp) h
  exact ⟨st.result, by simp [parseCargoToml, hst, Except.map]⟩

theorem parseCargoToml_ok_of_plain_headers_package :
    (∀ l ∈ splitlines "[package]\nname = \"x\"\n".data, ∀ sec, headerSection l = some sec →
      '.' ∉ sec.data) ∧ ∃ m, parseCargoToml "[package]\nname = \"x\"\n" = .ok m := by
  have h : ∀ l ∈ splitlines "[package]\nname = \"x\"\n".data, ∀ sec, headerSection l = some sec →
      '.' ∉ sec.data := by
    intro l hl sec hsec
    rw [show splitlines "[package]\nname = \"x\"\n".data = ["[package]".data, "name = \"x\"".data]
      from rfl, List.mem_pair] at hl
    rcases hl with rfl | rfl
    · rw [show headerSection "[package]".data = some "package" from rfl] at hsec
      cases hsec
      decide
    · rw [show headerSection "name = \"x\"".data = none from rfl] at hsec
      cases hsec
  exact ⟨h, parseCargoToml_ok_of_plain_headers h⟩

/-- A half-edited manifest: `serde` is given a version under `[dependencies]`
and then opened as the table `[dependencies.serde]`. -/
theorem parseCargoToml_raises_on_scalar_then_table :
    parseCargoToml "[dependencies]\nserde = \"1\"\n[dependencies.serde]\nversion = \"1\"\n" =
      .error typeError := by
  rfl

/-! ## Valid TOML read otherwise -/

end Caliber.Audit
