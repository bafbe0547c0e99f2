import Caliber.Py.Builtins

/-!
# `caliber_doctor`: the diagnosis

`diagnose` reads its settings from the environment, runs `psql` once as the
application user, and then four read-only checks through `run_check`.  A check
prefers the bootstrap user when one is set explicitly, and falls back to the
application user when the bootstrap run fails and the application user's run
succeeds; a note says so, once however many checks fall back.
`build_recommendations` turns the checks into commands, and `format_summary`
prints each check with the user it ran as.

`psql` is a function `runCmd` of its command line and environment, and
`shutil.which` a function of the program's name.

Over every environment and every behaviour of `psql`: the fallback note is in
the notes at most once, and exactly when some check fell back; and each check's
recorded result is the run of its query as the user recorded for it.  The
connection is recommended for repair exactly when the application user's first
run failed.
-/

namespace Caliber.Doctor

open Caliber.Py

/-- `CmdResult`. -/
structure CmdResult where
  code : ℤ
  out : String
  err : String
deriving DecidableEq, Repr

/-- `Recommendation`. -/
structure Recommendation where
  title : String
  commands : List String
  reason : String
deriving DecidableEq, Repr

/-- `env_default(key, default)`. -/
def envDefault (environ : List (String × String)) (key default : String) : String :=
  match dictGet environ key with
  | some v => if v = "" then default else v
  | none => default

/-- `is_local_db(host)`. -/
def isLocalDb (host : String) : Bool := host ∈ ["", "localhost", "127.0.0.1", "::1"]

/-- `psql_cmd(user, password, host, port, db, sql)`: the command line, and the
environment with `PGPASSWORD` set when the password is not empty. -/
def psqlCmd (environ : List (String × String)) (user password host port db sql : String) :
    List String × List (String × String) :=
  (["psql", "-v", "ON_ERROR_STOP=1", "-h", host, "-p", port, "-U", user, "-d", db, "-c", sql],
    if password ≠ "" then dictSet environ "PGPASSWORD" password else environ)

/-- The settings `diagnose` reads from the environment. -/
structure Settings where
  host : String
  port : String
  name : String
  user : String
  password : String
  bootstrapUser : String
  bootstrapPassword : String
  bootstrapExplicit : Bool

/-- The first lines of `diagnose`. -/
def settingsOf (environ : List (String × String)) : Settings :=
  let user := envDefault environ "CALIBER_DB_USER" "caliber"
  let password := envDefault environ "CALIBER_DB_PASSWORD" ""
  { host := envDefault environ "CALIBER_DB_HOST" "localhost",
    port := envDefault environ "CALIBER_DB_PORT" "5432",
    name := envDefault environ "CALIBER_DB_NAME" "caliber", user := user, password := password,
    bootstrapUser := envDefault environ "CALIBER_DB_BOOTSTRAP_USER" user,
    bootstrapPassword := envDefault environ "CALIBER_DB_BOOTSTRAP_PASSWORD" password,
    bootstrapExplicit := (dictGet environ "CALIBER_DB_BOOTSTRAP_USER").isSome ||
      (dictGet environ "CALIBER_DB_BOOTSTRAP_PASSWORD").isSome }

/-! ## `run_check` -/

/-- `results["checks"]`, `results["check_users"]`, the notes and the flag
`bootstrap_note_added` while the checks run. -/
structure CheckState where
  checks : List (String × CmdResult)
  checkUsers : List (String × String)
  notes : List String
  noteAdded : Bool

/-- The note of a fallback to the application user. -/
def bootstrapNote : String := "Bootstrap auth failed; used app user for read-only checks."

section RunCheck

variable (runCmd : List String × List (String × String) → CmdResult)
  (environ : List (String × String)) (s : Settings)

/-- The user a check runs as first. -/
def preferredUser : String := if s.bootstrapExplicit then s.bootstrapUser else s.user

/-- The password a check runs with first. -/
def preferredPass : String := if s.bootstrapExplicit then s.bootstrapPassword else s.password

/-- `run_check(key, sql)`. -/
def runCheck (st : CheckState) (key sql : String) : CheckState :=
  let res := runCmd (psqlCmd environ (preferredUser s) (preferredPass s) s.host s.port s.name sql)
  if res.code ≠ 0 ∧ s.bootstrapExplicit ∧ preferredUser s ≠ s.user then
    let resFallback := runCmd (psqlCmd environ s.user s.password s.host s.port s.name sql)
    if resFallback.code = 0 then
      { checks := dictSet st.checks key resFallback, checkUsers := dictSet st.checkUsers key s.user,
        notes := if st.noteAdded then st.notes else st.notes ++ [bootstrapNote], noteAdded := true }
    else
      { st with checks := dictSet st.checks key res,
                checkUsers := dictSet st.checkUsers key (preferredUser s) }
  else
    { st with checks := dictSet st.checks key res,
              checkUsers := dictSet st.checkUsers key (preferredUser s) }

/-- Whether the check of `sql` falls back to the application user. -/
def fallsBack (sql : String) : Prop :=
  (runCmd (psqlCmd environ (preferredUser s) (preferredPass s) s.host s.port s.name sql)).code ≠ 0 ∧
    s.bootstrapExplicit ∧ preferredUser s ≠ s.user ∧
    (runCmd (psqlCmd environ s.user s.password s.host s.port s.name sql)).code = 0

instance (sql : String) : Decidable (fallsBack runCmd environ s sql) := by
  unfold fallsBack; infer_instance

/-- The user a check is recorded as, and the password it ran with. -/
def checkCredentials (sql : String) : String × String :=
  if fallsBack runCmd environ s sql then (s.user, s.password) else (preferredUser s, preferredPass s)

theorem runCheck_eq (st : CheckState) (key sql : String) :
    runCheck runCmd environ s st key sql =
      { checks := dictSet st.checks key (runCmd (psqlCmd environ (checkCredentials runCmd environ s sql).1
            (checkCredentials runCmd environ s sql).2 s.host s.port s.name sql)),
        checkUsers := dictSet st.checkUsers key (checkCredentials runCmd environ s sql).1,
        notes := if fallsBack runCmd environ s sql ∧ st.noteAdded = false then st.notes ++ [bootstrapNote]
          else st.notes,
        noteAdded := st.noteAdded || decide (fallsBack runCmd environ s sql) } := by
  dsimp only [runCheck]
  by_cases h₁ : (runCmd (psqlCmd environ (preferredUser s) (preferredPass s) s.host s.port s.name
      sql)).code ≠ 0 ∧ s.bootstrapExplicit ∧ preferredUser s ≠ s.user
  · rw [if_pos h₁]
    by_cases h₂ : (runCmd (psqlCmd environ s.user s.password s.host s.port s.name sql)).code = 0
    · have hf : fallsBack runCmd environ s sql := ⟨h₁.1, h₁.2.1, h₁.2.2, h₂⟩
      rw [if_pos h₂]
      cases hn : st.noteAdded <;> simp [checkCredentials, hf, hn]
    · have hf : ¬fallsBack runCmd environ s sql := fun h ↦ h₂ h.2.2.2
      rw [if_neg h₂]
      simp [checkCredentials, hf]
  · have hf : ¬fallsBack runCmd environ s sql := fun h ↦ h₁ ⟨h.1, h.2.1, h.2.2.1⟩
    rw [if_neg h₁]
    simp [checkCredentials, hf]

end RunCheck

/-! ## `diagnose` -/

/-- The four checks of `diagnose`, in order: each key with its query. -/
def checkQueries : List (String × String) :=
  [("ext_version", "select extname, extversion from pg_extension where extname = 'caliber_pg';"),
    ("fn_agent_register",
      "select 1 from pg_proc p join pg_namespace n on n.oid=p.pronamespace " ++
        "where n.nspname='public' and p.proname='caliber_agent_register';"),
    ("table_owner",
      "select c.relname, e.extname from pg_class c " ++
        "left join pg_depend d on d.objid=c.oid and d.deptype='e' " ++
        "left join pg_extension e on e.oid=d.refobjid " ++ "where c.relname='caliber_agent';"),
    ("pgvector_available", "select 1 from pg_available_extensions where name = 'vector';")]

/-- What `diagnose` returns: the settings it read (`results["db"]`), the two
paths, the checks with their users, and the notes. -/
structure Diagnosis where
  settings : Settings
  cargo : String
  psql : String
  checks : List (String × CmdResult)
  checkUsers : List (String × String)
  notes : List String

/-- `diagnose()`. -/
def diagnose (environ : List (String × String)) (which : String → Option String)
    (runCmd : List String × List (String × String) → CmdResult) : Diagnosis :=
  let s := settingsOf environ
  let cargo := (which "cargo").getD ""
  let psql := (which "psql").getD ""
  if psql = "" then ⟨s, cargo, psql, [], [], ["psql not found on PATH."]⟩
  else
    let res := runCmd (psqlCmd environ s.user s.password s.host s.port s.name "select 1;")
    let st : CheckState :=
      ⟨[("db_user_connect", res)], [], if res.code ≠ 0 then ["DB user connection failed."] else [], false⟩
    let st := checkQueries.foldl (fun st q ↦ runCheck runCmd environ s st q.1 q.2) st
    ⟨s, cargo, psql, st.checks, st.checkUsers, st.notes⟩

/-! ## The checks of a run -/

section Checks

variable (runCmd : List String × List (String × String) → CmdResult)
  (environ : List (String × String)) (s : Settings)

/-- The checks of `qs`, one after the other. -/
def runChecks (qs : List (String × String)) (st : CheckState) : CheckState :=
  qs.foldl (fun st q ↦ runCheck runCmd environ s st q.1 q.2) st

theorem runChecks_cons (q : String × String) (qs : List (String × String)) (st : CheckState) :
    runChecks runCmd environ s (q :: qs) st = runChecks runCmd environ s qs (runCheck runCmd environ s st q.1 q.2) :=
  rfl

/-- The flag says whether the note is in the notes, and the note is there at most once. -/
structure NoteOk (st : CheckState) : Prop where
  added_iff : st.noteAdded = true ↔ bootstrapNote ∈ st.notes
  count_le : st.notes.count bootstrapNote ≤ 1

theorem noteOk_runCheck {st : CheckState} (h : NoteOk st) (key sql : String) :
    NoteOk (runCheck runCmd environ s st key sql) := by
  rw [runCheck_eq]
  by_cases hf : fallsBack runCmd environ s sql
  · cases hn : st.noteAdded
    · have hnot : bootstrapNote ∉ st.notes := fun hm ↦ by simp [h.added_iff.mpr hm] at hn
      exact ⟨by simp [hf, hn], by simp [hf, hn, List.count_eq_zero_of_not_mem hnot]⟩
    · exact ⟨by simp [hf, hn, h.added_iff.mp hn], by simpa [hf, hn] using h.count_le⟩
  · exact ⟨by simpa [hf] using h.added_iff, by simpa [hf] using h.count_le⟩

theorem runChecks_noteOk : ∀ (qs : List (String × String)) {st : CheckState}, NoteOk st →
    NoteOk (runChecks runCmd environ s qs st) ∧
      ((runChecks runCmd environ s qs st).noteAdded =
        (st.noteAdded || qs.any fun q ↦ decide (fallsBack runCmd environ s q.2)))
  | [], _, h => ⟨h, by simp [runChecks]⟩
  | q :: qs, st, h => by
      obtain ⟨h', hadded⟩ := runChecks_noteOk qs (noteOk_runCheck runCmd environ s h q.1 q.2)
      refine ⟨h', ?_⟩
      rw [runChecks_cons, hadded, runCheck_eq]
      simp [Bool.or_assoc]

theorem runChecks_of_not_mem {k : String} : ∀ (qs : List (String × String)), k ∉ qs.map Prod.fst →
    ∀ st, dictGet (runChecks runCmd environ s qs st).checks k = dictGet st.checks k ∧
      dictGet (runChecks runCmd environ s qs st).checkUsers k = dictGet st.checkUsers k
  | [], _, _ => ⟨rfl, rfl⟩
  | q :: qs, hk, st => by
      have hq : q.1 ≠ k := fun h ↦ hk (h ▸ List.mem_cons_self _ _)
      obtain ⟨h₁, h₂⟩ := runChecks_of_not_mem qs (fun h ↦ hk (List.mem_cons_of_mem _ h))
        (runCheck runCmd environ s st q.1 q.2)
      rw [runChecks_cons, h₁, h₂, runCheck_eq]
      simp [hq]

end Checks

/-- From a state without the note, the loop adds the note at most once, and
exactly when some check falls back. -/
theorem runChecks_bootstrapNote (runCmd : List String × List (String × String) → CmdResult)
    (environ : List (String × String)) (s : Settings) (qs : List (String × String)) {st : CheckState}
    (hn : st.noteAdded = false) (hm : bootstrapNote ∉ st.notes) :
    (runChecks runCmd environ s qs st).notes.count bootstrapNote ≤ 1 ∧
      (bootstrapNote ∈ (runChecks runCmd environ s qs st).notes ↔
        ∃ q ∈ qs, fallsBack runCmd environ s q.2) := by
  have h0 : NoteOk st := ⟨by simp [hn, hm], by simp [List.count_eq_zero_of_not_mem hm]⟩
  obtain ⟨hok, hadded⟩ := runChecks_noteOk runCmd environ s qs h0
  refine ⟨hok.count_le, ?_⟩
  rw [← hok.added_iff, hadded, hn]
  simp

/-- However many checks fall back to the application user, the note saying so
is in the notes of `diagnose` at most once, and it is there exactly when `psql`
was found and some check fell back. -/
theorem diagnose_bootstrapNote (environ : List (String × String)) (which : String → Option String)
    (runCmd : List String × List (String × String) → CmdResult) :
    (diagnose environ which runCmd).notes.count bootstrapNote ≤ 1 ∧
      (bootstrapNote ∈ (diagnose environ which runCmd).notes ↔
        (which "psql").getD "" ≠ "" ∧ ∃ q ∈ checkQueries, fallsBack runCmd environ (settingsOf environ) q.2) := by
  by_cases hpsql : (which "psql").getD "" = ""
  · simp [diagnose, hpsql, bootstrapNote]
  · simp only [diagnose, hpsql, if_false, ne_eq, not_false_eq_true, true_and]
    refine runChecks_bootstrapNote runCmd environ _ checkQueries rfl ?_
    split_ifs <;> simp [bootstrapNote]

/-- The `pgrx install` command of the recommendations. -/
def pgrxInstall : String :=
  "sudo -E env \"PATH=$PATH\" \"RUSTUP_TOOLCHAIN=stable\" \"$(command -v cargo)\" " ++
    "pgrx install --package caliber-pg --pg-config \"/usr/lib/postgresql/18/bin/pg_config\""

/-- `build_recommendations(state, notes)`. -/
def buildRecommendations (d : Diagnosis) : List Recommendation :=
  let db := d.settings
  let failed (key : String) : Bool := match dictGet d.checks key with
    | some res => res.code ≠ 0
    | none => false
  let outHas (key sub : String) : Bool := match dictGet d.checks key with
    | some res => contains res.out.data sub.data
    | none => false
  let fnOk := outHas "fn_agent_register" "1"
  let extOk := outHas "ext_version" "caliber_pg"
  (if d.cargo = "" then
    [⟨"Cargo not on PATH for sudo", [pgrxInstall], "sudo env needs PATH to find cargo."⟩] else []) ++
  (if failed "db_user_connect" then
    [⟨"Fix DB user connectivity",
      ["export CALIBER_DB_USER=caliber", "export CALIBER_DB_PASSWORD=your_password",
        "psql -h " ++ db.host ++ " -p " ++ db.port ++ " -U " ++ db.user ++ " -d " ++ db.name ++
          " -c \"select 1;\""],
      "App user could not connect."⟩] else []) ++
  (if failed "pgvector_available" ∧ isLocalDb db.host then
    [⟨"Enable pgvector (local Postgres)",
      ["sudo -u postgres psql -d " ++ db.name ++ " -c \"CREATE EXTENSION IF NOT EXISTS vector;\""],
      "pgvector missing or not available."⟩] else []) ++
  (if extOk ∧ !fnOk then
    [⟨"Reinstall extension (functions missing)",
      ["sudo -u postgres psql -d " ++ db.name ++ " -c \"DROP EXTENSION IF EXISTS caliber_pg CASCADE;\"",
        pgrxInstall, "sudo -u postgres psql -d " ++ db.name ++ " -c \"CREATE EXTENSION caliber_pg;\""],
      "Extension installed without generated SQL (functions missing)."⟩] else []) ++
  (if !extOk ∧ isLocalDb db.host then
    [⟨"Install extension fresh",
      [pgrxInstall, "sudo -u postgres psql -d " ++ db.name ++ " -c \"CREATE EXTENSION caliber_pg;\""],
      "caliber_pg extension not installed."⟩] else [])

/-- `str(b)` of a Python bool. -/
def pyBool (b : Bool) : String := if b then "True" else "False"

/-- `format_summary(state, notes)`. -/
def formatSummary (d : Diagnosis) : String :=
  let db := d.settings
  let asUser (key : String) : String := " (as " ++ (dictGet d.checkUsers key).getD "unknown" ++ ")"
  let line (key : String) (text : CmdResult → String) : List String :=
    match dictGet d.checks key with
    | some res => [text res ++ asUser key]
    | none => []
  "\n".intercalate <|
    ["DB: " ++ db.user ++ "@" ++ db.host ++ ":" ++ db.port ++ "/" ++ db.name ++
      " (local=" ++ pyBool (isLocalDb db.host) ++ ")"] ++
    line "ext_version" (fun res ↦
      "extension: " ++ (if res.out ≠ "" then res.out else if res.err ≠ "" then res.err else "no result")) ++
    line "fn_agent_register" (fun res ↦
      "caliber_agent_register: " ++ (if contains res.out.data "1".data then "present" else "missing")) ++
    line "table_owner" (fun res ↦ "caliber_agent owner: " ++ (if res.out ≠ "" then res.out else "n/a")) ++
    line "pgvector_available" (fun res ↦
      "pgvector available: " ++ (if contains res.out.data "1".data then "yes" else "no")) ++
    (if d.notes ≠ [] then ["notes: " ++ "; ".intercalate d.notes] else [])

/-! ## What the doctor recommends -/

theorem dictGet_diagnose_connect (environ : List (String × String)) (which : String → Option String)
    (runCmd : List String × List (String × String) → CmdResult) (hpsql : (which "psql").getD "" ≠ "") :
    dictGet (diagnose environ which runCmd).checks "db_user_connect" =
      some (runCmd (psqlCmd environ (settingsOf environ).user (settingsOf environ).password
        (settingsOf environ).host (settingsOf environ).port (settingsOf environ).name "select 1;")) := by
  unfold diagnose
  rw [if_neg hpsql]
  exact (runChecks_of_not_mem runCmd environ _ checkQueries (by decide) _).1.trans (by simp [dictGet])

theorem connectivity_mem_buildRecommendations (d : Diagnosis) :
    "Fix DB user connectivity" ∈ (buildRecommendations d).map (·.title) ↔
      ∃ res, dictGet d.checks "db_user_connect" = some res ∧ res.code ≠ 0 := by
  simp only [buildRecommendations, List.map_append, apply_ite (List.map _), List.map_cons, List.map_nil,
    List.mem_append, List.mem_ite_nil_right, List.mem_singleton]
  split <;> simp_all

/-- The doctor recommends fixing the connection exactly when `psql` was found
and the application user's `select 1;` failed.  Without `psql` no check
runs, and the only recommendations left are putting cargo on the path and, for
a local database, installing the extension. -/
theorem buildRecommendations_diagnose (environ : List (String × String)) (which : String → Option String)
    (runCmd : List String × List (String × String) → CmdResult) :
    let s := settingsOf environ
    let titles := (buildRecommendations (diagnose environ which runCmd)).map (·.title)
    ("Fix DB user connectivity" ∈ titles ↔ (which "psql").getD "" ≠ "" ∧
        (runCmd (psqlCmd environ s.user s.password s.host s.port s.name "select 1;")).code ≠ 0) ∧
      ((which "psql").getD "" = "" → titles =
        (if (which "cargo").getD "" = "" then ["Cargo not on PATH for sudo"] else []) ++
          if isLocalDb s.host then ["Install extension fresh"] else []) := by
  intro s titles
  simp only [titles]
  by_cases hpsql : (which "psql").getD "" = ""
  · have hd : diagnose environ which runCmd =
        ⟨s, (which "cargo").getD "", "", [], [], ["psql not found on PATH."]⟩ := by
      simp [diagnose, hpsql, s]
    simp only [hd, buildRecommendations, dictGet]
    split_ifs <;> simp_all
  · refine ⟨?_, fun h ↦ absurd h hpsql⟩
    rw [connectivity_mem_buildRecommendations, dictGet_diagnose_connect environ which runCmd hpsql]
    simp [hpsql, s]

theorem buildRecommendations_diagnose_without_psql :
    ((fun _ ↦ none : String → Option String) "psql").getD "" = "" ∧
      (buildRecommendations (diagnose [] (fun _ ↦ none) fun _ ↦ ⟨0, "", ""⟩)).map (·.title) =
        ["Cargo not on PATH for sudo", "Install extension fresh"] :=
  have h : ((fun _ ↦ none : String → Option String) "psql").getD "" = "" := rfl
  ⟨h, (buildRecommendations_diagnose [] (fun _ ↦ none) fun _ ↦ ⟨0, "", ""⟩).2 h⟩

end Caliber.Doctor
