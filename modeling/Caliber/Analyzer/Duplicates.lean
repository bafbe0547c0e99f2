import Caliber.Analyzer.Extract
import Mathlib.Data.List.Sort
import Mathlib.Data.Finset.Card
import Mathlib.Data.String.Basic

/-!
# The duplicate detector

`detect_duplicates` works in two stages.  Stage 1 reads every module's file,
cuts out each function body of at least `min_lines` lines, normalizes it,
hashes its 3-token shingles, and buckets it under the ten smallest hashes.
Stage 2 compares the pairs of each bucket: a pair from different files whose
Jaccard similarity reaches the threshold becomes a cluster, unless its sorted
pair of `file:line` keys is already in `seen`.

Python's `hash` is a parameter; a Python set of hashes is a list without
repeats.
-/

namespace Caliber.Analyzer

open Caliber.Py Caliber.Pattern

/-! ## Normalization, shingles and similarity -/

/-- `normalize_code(code)`: block comments, line comments, string and character
literals, then whitespace runs, then `strip()`. -/
def normalizeCode (code : List Char) : List Char :=
  strip (sub Patterns.whitespaceRun [' '] (sub Patterns.charLiteral "''".toList
    (sub Patterns.stringLiteral "\"\"".toList (sub Patterns.lineCommentM []
      (sub Patterns.blockComment [] code)))))

/-- The shingle texts `' '.join(words[i:i+k])`, or the whole text when it has
fewer than `k` words. -/
def shingleTexts (text : List Char) (k : ℕ) : List String :=
  let words := split text
  if words.length < k then [⟨text⟩]
  else (List.range (words.length - k + 1)).map fun i ↦ ⟨join [' '] ((words.drop i).take k)⟩

/-- `compute_shingle_hash(text, k)`. -/
def computeShingleHash (hash : String → ℤ) (text : List Char) (k : ℕ) : List ℤ :=
  ((shingleTexts text k).map hash).dedup

/-- `jaccard_similarity(set1, set2)`; `intersection / union` of two ints is
the double nearest to the quotient. -/
def jaccardSimilarity (s₁ s₂ : List ℤ) : ℚ :=
  if s₁ = [] ∨ s₂ = [] then 0
  else if 0 < (s₁.toFinset ∪ s₂.toFinset).card then
    toBinary64 (((s₁.toFinset ∩ s₂.toFinset).card : ℚ) / (s₁.toFinset ∪ s₂.toFinset).card)
  else 0

/-! ## Stage 1 -/

/-- A function body of stage 1: the record appended to `fn_signatures[sig]`. -/
structure Candidate where
  file : String
  lineStart : ℕ
  lineEnd : ℕ
  content : List Char
  shingles : List ℤ
  name : String

/-- The body `lines[line_start-1 : min(line_end, len(lines))]` of a function,
kept when `end - start >= min_lines`. -/
def candidateOf (hash : String → ℤ) (file : String) (lines : List (List Char)) (minLines : ℤ)
    (s : Symbol) : Option Candidate :=
  let start : ℤ := s.lineStart - 1
  let stop : ℤ := min (s.lineEnd : ℤ) lines.length
  if stop - start < minLines then none
  else
    let body := join ['\n'] (slice lines start stop)
    some ⟨file, s.lineStart, s.lineEnd, body, computeShingleHash hash (normalizeCode body) 3, s.name⟩

/-- The candidates of one module, in symbol order; a file that cannot be read
or is empty contributes none. -/
def moduleCandidates (hash : String → ℤ) (read : String → Option String) (minLines : ℤ)
    (module : ModuleInfo) : List Candidate :=
  match read module.path with
  | some content =>
      if content = "" then []
      else (module.symbols.filter (·.kind = "fn")).filterMap
        (candidateOf hash module.path (content.data.splitOn '\n') minLines)
  | none => []

/-- Stage 1's candidates over all modules, in the dictionary's order. -/
def stageOne (hash : String → ℤ) (read : String → Option String)
    (modules : List (String × ModuleInfo)) (minLines : ℤ) : List Candidate :=
  modules.flatMap fun e ↦ moduleCandidates hash read minLines e.2

/-- `tuple(sorted(shingles)[:10])`. -/
def signature (c : Candidate) : List ℤ := (c.shingles.insertionSort (· ≤ ·)).take 10

/-- `fn_signatures`: the candidates bucketed by signature, in order of first
appearance. -/
def bucketBySignature (cands : List Candidate) : List (List ℤ × List Candidate) :=
  cands.foldl (fun b c ↦ dictModify b (signature c) [] (· ++ [c])) []

/-! ## Stage 2 -/

/-- `f"{file}:{line_start}"`. -/
def locKey (c : Candidate) : String := c.file ++ ":" ++ toString c.lineStart

/-- `tuple(sorted([a, b]))`. -/
def sortedPair (a b : String) : String × String := if b < a then (b, a) else (a, b)

/-- The cluster key of a compared pair. -/
def pairKey (p : Candidate × Candidate) : String × String := sortedPair (locKey p.1) (locKey p.2)

/-- The `DuplicateCluster` built for a pair `c1, c2`. -/
def mkCluster (c₁ c₂ : Candidate) (similarity : ℚ) : DuplicateCluster :=
  { signature := c₁.name ++ " ~ " ++ c₂.name,
    locations := [⟨c₁.file, c₁.lineStart, c₁.lineEnd⟩, ⟨c₂.file, c₂.lineStart, c₂.lineEnd⟩],
    excerpt := if 200 < c₁.content.length then ⟨c₁.content.take 200 ++ "...".toList⟩
      else ⟨c₁.content⟩,
    similarity := round2 similarity }

/-- `for i, c1 in enumerate(xs): for c2 in xs[i+1:]`. -/
def orderedPairs {α : Type} : List α → List (α × α)
  | [] => []
  | a :: l => l.map (a, ·) ++ orderedPairs l

/-- One pass of the inner loop, over `seen` and the clusters so far. -/
def comparePair (threshold : ℚ) (acc : List (String × String) × List DuplicateCluster)
    (p : Candidate × Candidate) : List (String × String) × List DuplicateCluster :=
  if p.1.file = p.2.file then acc
  else
    let similarity := jaccardSimilarity p.1.shingles p.2.shingles
    if threshold ≤ similarity then
      if pairKey p ∈ acc.1 then acc
      else (acc.1 ++ [pairKey p], acc.2 ++ [mkCluster p.1 p.2 similarity])
    else acc

/-- The loop over one bucket; a bucket of fewer than two candidates is skipped. -/
def compareBucket (threshold : ℚ) (acc : List (String × String) × List DuplicateCluster)
    (bucket : List ℤ × List Candidate) : List (String × String) × List DuplicateCluster :=
  if bucket.2.length < 2 then acc else (orderedPairs bucket.2).foldl (comparePair threshold) acc

/-- `detect_duplicates(modules, min_lines, similarity_threshold)`, with the file
reader `safe_read` and Python's `hash` as parameters. -/
def detectDuplicates (hash : String → ℤ) (read : String → Option String)
    (modules : List (String × ModuleInfo)) (minLines : ℤ) (threshold : ℚ) :
    List DuplicateCluster :=
  ((bucketBySignature (stageOne hash read modules minLines)).foldl (compareBucket threshold)
    ([], [])).2

/-! ## Stage 2 as a loop over all compared pairs -/

/-- Whether a compared pair becomes a cluster, `seen` aside. -/
def Reported (threshold : ℚ) (p : Candidate × Candidate) : Prop :=
  p.1.file ≠ p.2.file ∧ threshold ≤ jaccardSimilarity p.1.shingles p.2.shingles

instance (threshold : ℚ) : DecidablePred (Reported threshold) := fun _ ↦ by
  unfold Reported
  infer_instance

/-- The cluster a reported pair gives. -/
def clusterOf (p : Candidate × Candidate) : DuplicateCluster :=
  mkCluster p.1 p.2 (jaccardSimilarity p.1.shingles p.2.shingles)

theorem comparePair_eq (threshold : ℚ) (acc : List (String × String) × List DuplicateCluster)
    (p : Candidate × Candidate) :
    comparePair threshold acc p = if Reported threshold p ∧ pairKey p ∉ acc.1 then
      (acc.1 ++ [pairKey p], acc.2 ++ [clusterOf p]) else acc := by
  unfold comparePair Reported clusterOf
  by_cases h₁ : p.1.file = p.2.file <;> by_cases h₂ : threshold ≤ jaccardSimilarity p.1.shingles p.2.shingles <;>
    by_cases h₃ : pairKey p ∈ acc.1 <;> simp [h₁, h₂, h₃]

theorem compareBucket_eq (threshold : ℚ) (acc : List (String × String) × List DuplicateCluster)
    (bucket : List ℤ × List Candidate) :
    compareBucket threshold acc bucket = (orderedPairs bucket.2).foldl (comparePair threshold) acc := by
  unfold compareBucket
  split
  · match bucket.2, ‹bucket.2.length < 2› with
    | [], _ => rfl
    | [_], _ => rfl
  · rfl

/-- The pairs stage 2 compares, bucket after bucket. -/
def bucketPairs (buckets : List (List ℤ × List Candidate)) : List (Candidate × Candidate) :=
  buckets.flatMap fun b ↦ orderedPairs b.2

theorem foldl_compareBucket (threshold : ℚ) (buckets : List (List ℤ × List Candidate))
    (acc : List (String × String) × List DuplicateCluster) :
    buckets.foldl (compareBucket threshold) acc =
      (bucketPairs buckets).foldl (comparePair threshold) acc := by
  induction buckets generalizing acc with
  | nil => rfl
  | cons b bs ih => simp [bucketPairs, compareBucket_eq, ih]

theorem foldl_comparePair_of_fresh (threshold : ℚ) :
    ∀ (ps : List (Candidate × Candidate)) (acc : List (String × String) × List DuplicateCluster),
      ((ps.filter (Reported threshold)).map pairKey).Nodup →
      (∀ p ∈ ps, Reported threshold p → pairKey p ∉ acc.1) →
      ps.foldl (comparePair threshold) acc =
        (acc.1 ++ (ps.filter (Reported threshold)).map pairKey,
          acc.2 ++ (ps.filter (Reported threshold)).map clusterOf)
  | [], acc, _, _ => by simp
  | p :: ps, acc, hnd, hfresh => by
      rw [List.foldl_cons, comparePair_eq]
      by_cases hp : Reported threshold p
      · have hnd' : (pairKey p :: (ps.filter (Reported threshold)).map pairKey).Nodup := by
          simpa [List.filter_cons, hp] using hnd
        rw [if_pos ⟨hp, hfresh p (List.mem_cons_self p ps) hp⟩,
          foldl_comparePair_of_fresh threshold ps _ (List.nodup_cons.mp hnd').2]
        · simp [List.filter_cons, hp]
        · intro q hq hrep hmem
          rcases List.mem_append.mp hmem with h | h
          · exact hfresh q (List.mem_cons_of_mem p hq) hrep h
          · exact (List.nodup_cons.mp hnd').1 (List.mem_singleton.mp h ▸
              List.mem_map_of_mem _ (List.mem_filter.mpr ⟨hq, by simpa using hrep⟩))
      · rw [if_neg fun h ↦ hp h.1, foldl_comparePair_of_fresh threshold ps acc
          (by simpa [List.filter_cons, hp] using hnd) fun q hq ↦ hfresh q (List.mem_cons_of_mem p hq)]
        simp [List.filter_cons, hp]

/-! ## `seen` keeps one cluster per pair of locations -/

/-- The `(file, line_start)` locations of a cluster, as a set. -/
def locationSet (cl : DuplicateCluster) : Finset (String × ℕ) :=
  (cl.locations.map fun l ↦ (l.file, l.lineStart)).toFinset

/-- The two locations of a compared pair. -/
def pairLocations (p : Candidate × Candidate) : Finset (String × ℕ) :=
  {(p.1.file, p.1.lineStart), (p.2.file, p.2.lineStart)}

@[simp] theorem locationSet_clusterOf (p : Candidate × Candidate) :
    locationSet (clusterOf p) = pairLocations p := by
  simp [locationSet, clusterOf, mkCluster, pairLocations]

theorem sortedPair_comm (a b : String) : sortedPair a b = sortedPair b a := by
  unfold sortedPair
  rcases lt_trichotomy a b with h | rfl | h
  · simp [h, not_lt_of_lt h]
  · rfl
  · simp [h, not_lt_of_lt h]

theorem pairKey_eq_of_pairLocations_eq {p q : Candidate × Candidate}
    (h : pairLocations p = pairLocations q) : pairKey p = pairKey q := by
  have hs := congrArg (fun s : Finset (String × ℕ) ↦ (s : Set (String × ℕ))) h
  simp only [pairLocations, Finset.coe_insert, Finset.coe_singleton, Set.pair_eq_pair_iff,
    Prod.mk.injEq] at hs
  unfold pairKey locKey
  rcases hs with ⟨⟨h₁, h₂⟩, h₃, h₄⟩ | ⟨⟨h₁, h₂⟩, h₃, h₄⟩
  · rw [h₁, h₂, h₃, h₄]
  · rw [h₁, h₂, h₃, h₄, sortedPair_comm]

/-- Stage 2's invariant: `seen` has no repeats, and it holds the keys of the
pairs whose clusters were appended, in order. -/
def SeenOk (acc : List (String × String) × List DuplicateCluster) : Prop :=
  acc.1.Nodup ∧ ∃ ps : List (Candidate × Candidate),
    acc.1 = ps.map pairKey ∧ acc.2.map locationSet = ps.map pairLocations

theorem seenOk_comparePair {threshold : ℚ} {acc : List (String × String) × List DuplicateCluster}
    (h : SeenOk acc) (p : Candidate × Candidate) : SeenOk (comparePair threshold acc p) := by
  rw [comparePair_eq]
  split
  · next hp =>
      obtain ⟨hnd, ps, h₁, h₂⟩ := h
      exact ⟨hnd.append (List.nodup_singleton _) (List.disjoint_singleton.mpr hp.2),
        ps ++ [p], by simp [h₁], by simp [h₂]⟩
  · exact h

theorem seenOk_foldl (threshold : ℚ) (ps : List (Candidate × Candidate)) :
    ∀ {acc}, SeenOk acc → SeenOk (ps.foldl (comparePair threshold) acc) := by
  induction ps with
  | nil => exact id
  | cons p ps ih => exact fun h ↦ ih (seenOk_comparePair h p)

theorem SeenOk.locationSet_nodup {acc : List (String × String) × List DuplicateCluster}
    (h : SeenOk acc) : (acc.2.map locationSet).Nodup := by
  obtain ⟨hnd, ps, h₁, h₂⟩ := h
  rw [h₂]
  rw [h₁] at hnd
  exact List.pairwise_map.mpr ((List.pairwise_map.mp hnd).imp fun hne heq ↦
    hne (pairKey_eq_of_pairLocations_eq heq))

/-- Whatever the modules and file contents, no two clusters of one run report
the same two locations. -/
theorem detectDuplicates_locationSets_nodup (hash : String → ℤ) (read : String → Option String)
    (modules : List (String × ModuleInfo)) (minLines : ℤ) (threshold : ℚ) :
    ((detectDuplicates hash read modules minLines threshold).map locationSet).Nodup := by
  unfold detectDuplicates
  rw [foldl_compareBucket]
  exact (seenOk_foldl threshold _
    (show SeenOk ([], []) from ⟨List.nodup_nil, [], rfl, rfl⟩)).locationSet_nodup

/-! ## Buckets -/

theorem bucketBySignature_lookup (cands : List Candidate) (k : List ℤ) :
    (dictGet (bucketBySignature cands) k).getD [] = cands.filter (signature · = k) := by
  rw [bucketBySignature, dictGet_groupBy]
  split <;> rename_i h
  · rfl
  · rw [Option.getD_none, eq_comm, List.filter_eq_nil_iff]
    simpa using h

theorem bucketBySignature_append (cands : List Candidate) (c : Candidate) :
    bucketBySignature (cands ++ [c]) =
      dictModify (bucketBySignature cands) (signature c) [] (· ++ [c]) := by
  simp [bucketBySignature, List.foldl_append]

theorem orderedPairs_append_singleton {α : Type} (l : List α) (c : α) :
    (orderedPairs (l ++ [c])).Perm (orderedPairs l ++ l.map (·, c)) := by
  induction l with
  | nil => rfl
  | cons a l ih =>
      show ((l ++ [c]).map (a, ·) ++ orderedPairs (l ++ [c])).Perm
        ((l.map (a, ·) ++ orderedPairs l) ++ (a, c) :: l.map (·, c))
      rw [List.map_append, List.map_singleton, List.append_assoc, List.append_assoc,
        List.singleton_append]
      exact ((ih.cons _).trans List.perm_middle.symm).append_left _

theorem mem_orderedPairs {α : Type} {a b : α} : ∀ {l : List α}, (a, b) ∈ orderedPairs l → a ∈ l ∧ b ∈ l
  | x :: l, h => by
      rcases List.mem_append.mp h with h | h
      · obtain ⟨y, hy, hxy⟩ := List.mem_map.mp h
        obtain ⟨rfl, rfl⟩ := Prod.mk.inj hxy
        exact ⟨List.mem_cons_self _ _, List.mem_cons_of_mem _ hy⟩
      · exact (mem_orderedPairs h).imp (List.mem_cons_of_mem _) (List.mem_cons_of_mem _)

theorem mem_orderedPairs_of_sublist {α : Type} {a b : α} :
    ∀ {l : List α}, List.Sublist [a, b] l → (a, b) ∈ orderedPairs l
  | _ :: _, .cons _ h => List.mem_append_right _ (mem_orderedPairs_of_sublist h)
  | _ :: _, .cons₂ _ h => List.mem_append_left _ (List.mem_map_of_mem _ (List.singleton_sublist.mp h))

theorem bucketPairs_perm (cands : List Candidate) :
    (bucketPairs (bucketBySignature cands)).Perm
      ((orderedPairs cands).filter fun p ↦ signature p.1 = signature p.2) := by
  induction cands using List.reverseRecOn with
  | nil => rfl
  | append_singleton l c ih =>
      have hold : ((dictGet (bucketBySignature l) (signature c)).map orderedPairs).getD [] =
          orderedPairs (l.filter (signature · = signature c)) := by
        rw [← bucketBySignature_lookup]
        cases dictGet (bucketBySignature l) (signature c) <;> rfl
      have hstep := flatMap_dictSet_perm (fun b ↦ orderedPairs b) (signature c)
        ((l.filter (signature · = signature c)) ++ [c]) (bucketBySignature l)
      rw [hold] at hstep
      have hnew : (bucketPairs (bucketBySignature (l ++ [c]))).Perm
          (bucketPairs (bucketBySignature l) ++ (l.filter (signature · = signature c)).map (·, c)) := by
        rw [bucketBySignature_append, dictModify, bucketBySignature_lookup]
        refine List.perm_append_right_iff (orderedPairs (l.filter (signature · = signature c))) |>.mp
          (hstep.trans ?_)
        rw [List.append_assoc]
        exact (((orderedPairs_append_singleton _ c).append_left _).trans
          (List.perm_append_comm.append_left _)).trans (List.Perm.refl _)
      have hM : (l.map (·, c)).filter (fun p ↦ signature p.1 = signature p.2) =
          (l.filter (signature · = signature c)).map (·, c) := by
        rw [List.filter_map]
        rfl
      refine hnew.trans ((ih.append_right _).trans ?_)
      exact (((orderedPairs_append_singleton l c).filter _).trans
        (by rw [List.filter_append, hM])).symm

/-! ## The Jaccard index and non-empty shingle sets -/

/-- The Jaccard index `|S₁ ∩ S₂| / |S₁ ∪ S₂|` of two shingle sets. -/
def jaccardIndex (s₁ s₂ : List ℤ) : ℚ :=
  ((s₁.toFinset ∩ s₂.toFinset).card : ℚ) / (s₁.toFinset ∪ s₂.toFinset).card

theorem jaccardSimilarity_eq_jaccardIndex {s₁ s₂ : List ℤ} (h₁ : s₁ ≠ []) (h₂ : s₂ ≠ []) :
    jaccardSimilarity s₁ s₂ = toBinary64 (jaccardIndex s₁ s₂) := by
  obtain ⟨x, hx⟩ := List.exists_mem_of_ne_nil s₁ h₁
  have : 0 < (s₁.toFinset ∪ s₂.toFinset).card :=
    Finset.card_pos.mpr ⟨x, Finset.mem_union_left _ (List.mem_toFinset.mpr hx)⟩
  simp [jaccardSimilarity, jaccardIndex, h₁, h₂, this]

theorem jaccardIndex_self {s : List ℤ} (h : s ≠ []) : jaccardIndex s s = 1 := by
  obtain ⟨x, hx⟩ := List.exists_mem_of_ne_nil s h
  have : (s.toFinset.card : ℚ) ≠ 0 := by
    exact_mod_cast (Finset.card_pos.mpr ⟨x, List.mem_toFinset.mpr hx⟩).ne'
  simp [jaccardIndex, this]

theorem shingleTexts_ne_nil (text : List Char) (k : ℕ) : shingleTexts text k ≠ [] := by
  dsimp only [shingleTexts]
  split
  · exact List.cons_ne_nil _ _
  · simp

/-- `compute_shingle_hash` never returns the empty set, so `jaccard_similarity`
never takes its `0.0` branch on two candidates. -/
theorem computeShingleHash_ne_nil (hash : String → ℤ) (text : List Char) (k : ℕ) :
    computeShingleHash hash text k ≠ [] := by
  simp [computeShingleHash, shingleTexts_ne_nil]

/-! ## Stage 1's location keys -/

theorem candidateOf_eq_some {hash : String → ℤ} {file : String} {lines : List (List Char)}
    {minLines : ℤ} {s : Symbol} {c : Candidate} (h : candidateOf hash file lines minLines s = some c) :
    c.file = file ∧ c.lineStart = s.lineStart ∧
      c.shingles = computeShingleHash hash (normalizeCode c.content) 3 := by
  dsimp only [candidateOf] at h
  split at h
  · cases h
  · rw [← Option.some.inj h]
    dsimp only
    exact ⟨rfl, rfl, rfl⟩

theorem mem_moduleCandidates {hash : String → ℤ} {read : String → Option String} {minLines : ℤ}
    {module : ModuleInfo} {c : Candidate} (h : c ∈ moduleCandidates hash read minLines module) :
    c.file = module.path ∧ c.shingles = computeShingleHash hash (normalizeCode c.content) 3 := by
  unfold moduleCandidates at h
  split at h
  · split at h
    · exact absurd h (List.not_mem_nil c)
    · obtain ⟨s, -, hs⟩ := List.mem_filterMap.mp h
      exact ⟨(candidateOf_eq_some hs).1, (candidateOf_eq_some hs).2.2⟩
  · exact absurd h (List.not_mem_nil c)

theorem mem_stageOne {hash : String → ℤ} {read : String → Option String}
    {modules : List (String × ModuleInfo)} {minLines : ℤ} {c : Candidate}
    (h : c ∈ stageOne hash read modules minLines) :
    ∃ e ∈ modules, c.file = e.2.path ∧ c.shingles = computeShingleHash hash (normalizeCode c.content) 3 := by
  obtain ⟨e, he, hc⟩ := List.mem_flatMap.mp h
  exact ⟨e, he, mem_moduleCandidates hc⟩

theorem filterMap_sublist_map {α β : Type} {f : α → Option β} {g : α → β}
    (h : ∀ a b, f a = some b → b = g a) : ∀ l : List α, List.Sublist (l.filterMap f) (l.map g)
  | [] => .slnil
  | a :: l => by
      cases hf : f a with
      | none =>
          rw [List.filterMap_cons_none hf]
          exact (filterMap_sublist_map h l).cons _
      | some b =>
          rw [List.filterMap_cons_some hf, List.map_cons, h a b hf]
          exact (filterMap_sublist_map h l).cons₂ _

theorem moduleCandidates_locations_nodup {hash : String → ℤ} {read : String → Option String}
    {minLines : ℤ} {module : ModuleInfo}
    (h : ∀ content, read module.path = some content →
      ((module.symbols.filter (·.kind = "fn")).map (·.lineStart)).Nodup) :
    ((moduleCandidates hash read minLines module).map fun c ↦ (c.file, c.lineStart)).Nodup := by
  unfold moduleCandidates
  split
  · next content hc =>
      split
      · exact List.nodup_nil
      · rw [List.map_filterMap]
        refine (@filterMap_sublist_map _ _ _ (fun s ↦ (module.path, s.lineStart)) (fun s b hb ↦ ?_) _).nodup
          (by simpa [List.map_map, Function.comp_def] using (h content hc).map (Prod.mk.inj_left _))
        obtain ⟨c, hc, rfl⟩ := Option.map_eq_some'.mp hb
        rw [(candidateOf_eq_some hc).1, (candidateOf_eq_some hc).2.1]
  · exact List.nodup_nil

theorem stageOne_locations_nodup {hash : String → ℤ} {read : String → Option String}
    {modules : List (String × ModuleInfo)} {minLines : ℤ}
    (hpaths : (modules.map fun e ↦ e.2.path).Nodup)
    (hfn : ∀ e ∈ modules, ∀ content, read e.2.path = some content →
      ((e.2.symbols.filter (·.kind = "fn")).map (·.lineStart)).Nodup) :
    ((stageOne hash read modules minLines).map fun c ↦ (c.file, c.lineStart)).Nodup := by
  rw [stageOne, List.map_flatMap]
  refine List.nodup_flatMap.mpr ⟨fun e he ↦ moduleCandidates_locations_nodup (hfn e he), ?_⟩
  refine (List.pairwise_map.mp hpaths).imp fun {a b} hab x hxa hxb ↦ hab ?_
  obtain ⟨c, hc, rfl⟩ := List.mem_map.mp hxa
  obtain ⟨c', hc', hcc'⟩ := List.mem_map.mp hxb
  rw [← (mem_moduleCandidates hc).1, ← (mem_moduleCandidates hc').1]
  exact (congrArg Prod.fst hcc').symm

/-! ## `seen` never suppresses a pair of distinct locations -/

theorem locKey_inj {c c' : Candidate} (h : locKey c = locKey c') :
    (c.file, c.lineStart) = (c'.file, c'.lineStart) := by
  obtain ⟨h₁, h₂⟩ := colonKey_inj h
  rw [h₁, h₂]

theorem sortedPair_mem {a b u v : String} (h : sortedPair a b = sortedPair u v) : a = u ∨ a = v := by
  unfold sortedPair at h
  split_ifs at h <;> simp only [Prod.mk.injEq] at h <;> tauto

theorem sortedPair_right_injective (a : String) : Function.Injective (sortedPair a) := by
  intro b b' h
  unfold sortedPair at h
  split_ifs at h <;> simp only [Prod.mk.injEq] at h <;> obtain ⟨h₁, h₂⟩ := h <;> subst_vars <;> rfl

theorem orderedPairs_pairKey_nodup :
    ∀ {l : List Candidate}, (l.map locKey).Nodup → ((orderedPairs l).map pairKey).Nodup
  | [], _ => List.nodup_nil
  | a :: l, h => by
      obtain ⟨ha, hl⟩ := List.nodup_cons.mp h
      rw [orderedPairs, List.map_append, List.map_map]
      refine List.Nodup.append ?_ (orderedPairs_pairKey_nodup hl) ?_
      · simpa [List.map_map, Function.comp_def, pairKey] using
          hl.map (sortedPair_right_injective (locKey a))
      · intro x hx hx'
        obtain ⟨b, -, rfl⟩ := List.mem_map.mp hx
        obtain ⟨⟨c, d⟩, hcd, hk⟩ := List.mem_map.mp hx'
        obtain ⟨hc, hd⟩ := mem_orderedPairs hcd
        rcases sortedPair_mem hk.symm with h' | h'
        · exact ha (h' ▸ List.mem_map_of_mem _ hc)
        · exact ha (h' ▸ List.mem_map_of_mem _ hd)

/-- With candidates at distinct `(file, line_start)` locations, stage 2 reports
every pair of a bucket that passes the file and threshold tests. -/
theorem detectDuplicates_perm_of_locations_nodup {hash : String → ℤ}
    {read : String → Option String} {modules : List (String × ModuleInfo)} {minLines : ℤ}
    (threshold : ℚ)
    (hnd : ((stageOne hash read modules minLines).map fun c ↦ (c.file, c.lineStart)).Nodup) :
    (detectDuplicates hash read modules minLines threshold).Perm
      ((((orderedPairs (stageOne hash read modules minLines)).filter
        fun p ↦ signature p.1 = signature p.2).filter (Reported threshold)).map clusterOf) := by
  have hkeys : ((stageOne hash read modules minLines).map locKey).Nodup :=
    List.pairwise_map.mpr ((List.pairwise_map.mp hnd).imp fun hne heq ↦ hne (locKey_inj heq))
  have hperm := bucketPairs_perm (stageOne hash read modules minLines)
  have hfresh : (((bucketPairs (bucketBySignature (stageOne hash read modules minLines))).filter
      (Reported threshold)).map pairKey).Nodup :=
    ((hperm.filter _).map _).nodup_iff.mpr ((((List.filter_sublist _).trans
      (List.filter_sublist _)).map _).nodup (orderedPairs_pairKey_nodup hkeys))
  unfold detectDuplicates
  rw [foldl_compareBucket, foldl_comparePair_of_fresh _ _ _ hfresh fun _ _ _ h ↦ List.not_mem_nil _ h]
  exact (hperm.filter _).map _

/-! ## What `detect_duplicates` reports -/

/-- A pair of candidates that deserves a cluster: different files, the same
signature, and a Jaccard index whose double is at least the threshold. -/
def Qualifies (threshold : ℚ) (p : Candidate × Candidate) : Prop :=
  p.1.file ≠ p.2.file ∧ signature p.1 = signature p.2 ∧
    threshold ≤ toBinary64 (jaccardIndex p.1.shingles p.2.shingles)

instance (threshold : ℚ) : DecidablePred (Qualifies threshold) := fun _ ↦ by
  unfold Qualifies
  infer_instance

theorem shingles_ne_nil_of_mem_stageOne {hash : String → ℤ} {read : String → Option String}
    {modules : List (String × ModuleInfo)} {minLines : ℤ} {c : Candidate}
    (h : c ∈ stageOne hash read modules minLines) : c.shingles ≠ [] := by
  obtain ⟨_, _, _, hs⟩ := mem_stageOne h
  rw [hs]
  exact computeShingleHash_ne_nil _ _ _

theorem filter_reported_eq {hash : String → ℤ} {read : String → Option String}
    {modules : List (String × ModuleInfo)} {minLines : ℤ} (threshold : ℚ) :
    (((orderedPairs (stageOne hash read modules minLines)).filter
        fun p ↦ signature p.1 = signature p.2).filter (Reported threshold)).map clusterOf =
      ((orderedPairs (stageOne hash read modules minLines)).filter (Qualifies threshold)).map
        fun p ↦ mkCluster p.1 p.2 (toBinary64 (jaccardIndex p.1.shingles p.2.shingles)) := by
  have hjac : ∀ p ∈ orderedPairs (stageOne hash read modules minLines),
      jaccardSimilarity p.1.shingles p.2.shingles = toBinary64 (jaccardIndex p.1.shingles p.2.shingles) :=
    fun p hp ↦ jaccardSimilarity_eq_jaccardIndex (shingles_ne_nil_of_mem_stageOne (mem_orderedPairs hp).1)
      (shingles_ne_nil_of_mem_stageOne (mem_orderedPairs hp).2)
  have hq : ∀ p ∈ orderedPairs (stageOne hash read modules minLines),
      (decide (Reported threshold p) && decide (signature p.1 = signature p.2)) =
        decide (Qualifies threshold p) := fun p hp ↦ by
    rw [← Bool.decide_and]
    exact decide_eq_decide.mpr (by rw [Reported, Qualifies, hjac p hp]; tauto)
  rw [List.filter_filter, List.filter_congr hq]
  exact List.map_congr_left fun p hp ↦ by rw [clusterOf, hjac p (List.mem_of_mem_filter hp)]

/-- The modules `analyze_workspace` builds: distinct paths, and each module
extracted from the text `safe_read` returns for its path. -/
def AsAnalyzed (read : String → Option String) (modules : List (String × ModuleInfo)) : Prop :=
  (modules.map fun e ↦ e.2.path).Nodup ∧
    ∀ e ∈ modules, ∀ content, read e.2.path = some content →
      ∃ crateName, extractSymbolsRegex content e.2.path crateName = .ok e.2

theorem asAnalyzed_of_extracted {read : String → Option String}
    {modules : List (String × ModuleInfo)} (hpaths : (modules.map fun e ↦ e.2.path).Nodup)
    (h : ∀ e ∈ modules, ∃ content crateName, read e.2.path = some content ∧
      extractSymbolsRegex content e.2.path crateName = .ok e.2) :
    AsAnalyzed read modules := by
  refine ⟨hpaths, fun e he content hc ↦ ?_⟩
  obtain ⟨content', crateName, hc', hx⟩ := h e he
  rw [hc'] at hc
  exact ⟨crateName, Option.some.inj hc ▸ hx⟩

theorem detectDuplicates_perm_qualifying (hash : String → ℤ) {read : String → Option String}
    {modules : List (String × ModuleInfo)} (minLines : ℤ) (threshold : ℚ)
    (hmods : AsAnalyzed read modules) :
    (detectDuplicates hash read modules minLines threshold).Perm
      (((orderedPairs (stageOne hash read modules minLines)).filter (Qualifies threshold)).map
        fun p ↦ mkCluster p.1 p.2 (toBinary64 (jaccardIndex p.1.shingles p.2.shingles))) :=
  filter_reported_eq threshold ▸
    @detectDuplicates_perm_of_locations_nodup hash read modules minLines threshold
    (stageOne_locations_nodup hmods.1 fun e he content hc ↦
      (hmods.2 e he content hc).elim fun _ hx ↦ fn_lineStarts_nodup hx)

/-- On the modules `analyze_workspace` builds, `detect_duplicates` returns one
cluster for each pair of candidates in different files with the same signature
whose Jaccard index, computed as a double, is at least the threshold, carrying
`round` of that double to two digits, and nothing else.  Two candidates in
different files with equal normalized bodies are then reported with similarity
`1.0` whenever the threshold is at most `1`. -/
theorem detectDuplicates_reports_qualifying_pairs (hash : String → ℤ)
    (read : String → Option String) (modules : List (String × ModuleInfo)) (minLines : ℤ)
    (threshold : ℚ) (hmods : AsAnalyzed read modules) :
    (detectDuplicates hash read modules minLines threshold).Perm
        (((orderedPairs (stageOne hash read modules minLines)).filter (Qualifies threshold)).map
          fun p ↦ mkCluster p.1 p.2 (toBinary64 (jaccardIndex p.1.shingles p.2.shingles))) ∧
      ∀ c₁ c₂, List.Sublist [c₁, c₂] (stageOne hash read modules minLines) → c₁.file ≠ c₂.file →
        normalizeCode c₁.content = normalizeCode c₂.content → threshold ≤ 1 →
        mkCluster c₁ c₂ 1 ∈ detectDuplicates hash read modules minLines threshold := by
  have hperm := detectDuplicates_perm_qualifying hash minLines threshold hmods
  refine ⟨hperm, fun c₁ c₂ hsub hfile hnorm hle ↦ ?_⟩
  have hp := mem_orderedPairs_of_sublist hsub
  obtain ⟨_, _, _, hs₁⟩ := mem_stageOne (mem_orderedPairs hp).1
  obtain ⟨_, _, _, hs₂⟩ := mem_stageOne (mem_orderedPairs hp).2
  have hs : c₁.shingles = c₂.shingles := by rw [hs₁, hs₂, hnorm]
  have hone : toBinary64 (jaccardIndex c₁.shingles c₂.shingles) = 1 := by
    rw [hs, jaccardIndex_self (shingles_ne_nil_of_mem_stageOne (mem_orderedPairs hp).2), toBinary64_one]
  refine hperm.mem_iff.mpr (List.mem_map.mpr ⟨(c₁, c₂), List.mem_filter.mpr ⟨hp, ?_⟩, by rw [hone]⟩)
  exact decide_eq_true ⟨hfile, by simp only [signature, hs], hone ▸ hle⟩

/-! ## An injective string hash -/

/-- The code points of a text as the digits of a number in base `2^21`, each
shifted by one so that no text is numbered like a shorter one. -/
def codePoints (l : List Char) : ℕ := l.foldr (fun c n ↦ c.toNat + 1 + 2097152 * n) 0

/-- An injective string hash. -/
def codePointHash (s : String) : ℤ := codePoints s.data

theorem toNat_lt_of_char (c : Char) : c.toNat < 1114112 := by
  have := c.valid
  simp only [UInt32.isValidChar, Nat.isValidChar] at this
  simp only [Char.toNat]
  omega

theorem codePoints_injective : Function.Injective codePoints
  | [], [], _ => rfl
  | [], c :: l, h => by
      have h' : 0 = c.toNat + 1 + 2097152 * codePoints l := h
      omega
  | c :: l, [], h => by
      have h' : c.toNat + 1 + 2097152 * codePoints l = 0 := h
      omega
  | c :: l, c' :: l', h => by
      have hc := toNat_lt_of_char c
      have hc' := toNat_lt_of_char c'
      have h' : c.toNat + 1 + 2097152 * codePoints l = c'.toNat + 1 + 2097152 * codePoints l' := h
      have hl : l = l' := codePoints_injective (show codePoints l = codePoints l' by omega)
      have hcc : c.toNat = c'.toNat := by omega
      rw [hl, ← Char.ofNat_toNat c, hcc, Char.ofNat_toNat]

theorem codePointHash_injective : Function.Injective codePointHash := fun _ _ h ↦
  String.ext (codePoints_injective (Int.ofNat.inj h))

theorem detectDuplicates_reports_qualifying_pairs_two_files :
    ∃ ma mb,
      extractSymbolsRegex "fn f() \x7b\n    let a = 1;\n    let b = 2;\n    a + b\n\x7d\n" "a.rs" "demo" = .ok ma ∧
      extractSymbolsRegex "fn f() \x7b\n    let a = 1;\n    let b = 2;\n    a + b\n\x7d\n" "b.rs" "demo" = .ok mb ∧
      ((detectDuplicates codePointHash
          (fun _ ↦ some "fn f() \x7b\n    let a = 1;\n    let b = 2;\n    a + b\n\x7d\n")
          [("a.rs", ma), ("b.rs", mb)] 5 (4 / 5)).Perm
        (((orderedPairs (stageOne codePointHash
          (fun _ ↦ some "fn f() \x7b\n    let a = 1;\n    let b = 2;\n    a + b\n\x7d\n")
          [("a.rs", ma), ("b.rs", mb)] 5)).filter (Qualifies (4 / 5))).map
          fun p ↦ mkCluster p.1 p.2 (toBinary64 (jaccardIndex p.1.shingles p.2.shingles))) ∧
      ∀ c₁ c₂, List.Sublist [c₁, c₂] (stageOne codePointHash
          (fun _ ↦ some "fn f() \x7b\n    let a = 1;\n    let b = 2;\n    a + b\n\x7d\n")
          [("a.rs", ma), ("b.rs", mb)] 5) → c₁.file ≠ c₂.file →
        normalizeCode c₁.content = normalizeCode c₂.content → (4 / 5 : ℚ) ≤ 1 →
        mkCluster c₁ c₂ 1 ∈ detectDuplicates codePointHash
          (fun _ ↦ some "fn f() \x7b\n    let a = 1;\n    let b = 2;\n    a + b\n\x7d\n")
          [("a.rs", ma), ("b.rs", mb)] 5 (4 / 5)) := by
  refine ⟨_, _, rfl, rfl, ?_⟩
  exact detectDuplicates_reports_qualifying_pairs codePointHash _ _ 5 (4 / 5)
    (asAnalyzed_of_extracted (by with_unfolding_all decide)
      (List.forall_mem_cons.mpr ⟨⟨_, "demo", rfl, rfl⟩, List.forall_mem_cons.mpr ⟨⟨_, "demo", rfl, rfl⟩,
        fun _ h ↦ absurd h (List.not_mem_nil _)⟩⟩))

/-! ## Identical bodies above the threshold `1` -/

/-- A threshold above `1` is never reached: two byte-identical functions in
different files, both candidates, give no cluster. -/
theorem identical_bodies_unreported_above_one :
    ∃ ma mb,
      extractSymbolsRegex "fn f() \x7b\n    let a = 1;\n    let b = 2;\n    a + b\n\x7d\n" "a.rs" "demo" = .ok ma ∧
      extractSymbolsRegex "fn f() \x7b\n    let a = 1;\n    let b = 2;\n    a + b\n\x7d\n" "b.rs" "demo" = .ok mb ∧
      (stageOne codePointHash (fun _ ↦ some "fn f() \x7b\n    let a = 1;\n    let b = 2;\n    a + b\n\x7d\n")
        [("a.rs", ma), ("b.rs", mb)] 5).map (fun c ↦ (c.file, normalizeCode c.content)) =
        [("a.rs", "fn f() \x7b let a = 1; let b = 2; a + b \x7d".toList),
          ("b.rs", "fn f() \x7b let a = 1; let b = 2; a + b \x7d".toList)] ∧
      detectDuplicates codePointHash
        (fun _ ↦ some "fn f() \x7b\n    let a = 1;\n    let b = 2;\n    a + b\n\x7d\n")
        [("a.rs", ma), ("b.rs", mb)] 5 2 = [] :=
  ⟨_, _, rfl, rfl, by with_unfolding_all rfl, by
    apply List.eq_nil_of_length_eq_zero
    with_unfolding_all rfl⟩

/-! ## Three copies put one location in two clusters -/

/-- The `seen` key is the pair of locations, so three copies of a function in
`a.rs`, `b.rs` and `c.rs` give three clusters, and `a.rs:1` is in two. -/
theorem location_in_two_clusters :
    ∃ ma mb mc,
      extractSymbolsRegex "fn f() \x7b\n    let a = 1;\n    let b = 2;\n    a + b\n\x7d\n" "a.rs" "demo" = .ok ma ∧
      extractSymbolsRegex "fn f() \x7b\n    let a = 1;\n    let b = 2;\n    a + b\n\x7d\n" "b.rs" "demo" = .ok mb ∧
      extractSymbolsRegex "fn f() \x7b\n    let a = 1;\n    let b = 2;\n    a + b\n\x7d\n" "c.rs" "demo" = .ok mc ∧
      (detectDuplicates codePointHash
          (fun _ ↦ some "fn f() \x7b\n    let a = 1;\n    let b = 2;\n    a + b\n\x7d\n")
          [("a.rs", ma), ("b.rs", mb), ("c.rs", mc)] 5 (4 / 5)).map
        (fun cl ↦ cl.locations.map fun l ↦ (l.file, l.lineStart)) =
        [[("a.rs", 1), ("b.rs", 1)], [("a.rs", 1), ("c.rs", 1)], [("b.rs", 1), ("c.rs", 1)]] :=
  ⟨_, _, _, rfl, rfl, rfl, by with_unfolding_all rfl⟩

/-! ## The hash enters only through the signatures -/

/-- A candidate with its shingles hashed by `hash`. -/
def rehash (hash : String → ℤ) (c : Candidate) : Candidate :=
  { c with shingles := computeShingleHash hash (normalizeCode c.content) 3 }

/-! Rehashing changes the shingles only.  The field lemmas are proved on the
constructor: a plain `rfl` would first try to unify the two candidates, which
runs the normalizer on an unknown body. -/

@[simp] theorem file_rehash (hash : String → ℤ) (c : Candidate) : (rehash hash c).file = c.file := by
  cases c; rfl

@[simp] theorem lineStart_rehash (hash : String → ℤ) (c : Candidate) :
    (rehash hash c).lineStart = c.lineStart := by
  cases c; rfl

@[simp] theorem lineEnd_rehash (hash : String → ℤ) (c : Candidate) :
    (rehash hash c).lineEnd = c.lineEnd := by
  cases c; rfl

@[simp] theorem content_rehash (hash : String → ℤ) (c : Candidate) :
    (rehash hash c).content = c.content := by
  cases c; rfl

@[simp] theorem name_rehash (hash : String → ℤ) (c : Candidate) : (rehash hash c).name = c.name := by
  cases c; rfl

@[simp] theorem mkCluster_rehash (hash : String → ℤ) (c₁ c₂ : Candidate) (similarity : ℚ) :
    mkCluster (rehash hash c₁) (rehash hash c₂) similarity = mkCluster c₁ c₂ similarity := by
  simp only [mkCluster, file_rehash, lineStart_rehash, lineEnd_rehash, content_rehash, name_rehash]

theorem candidateOf_rehash (hash₁ hash₂ : String → ℤ) (file : String) (lines : List (List Char))
    (minLines : ℤ) (s : Symbol) :
    candidateOf hash₂ file lines minLines s = (candidateOf hash₁ file lines minLines s).map (rehash hash₂) := by
  dsimp only [candidateOf]
  split <;> rfl

theorem stageOne_rehash (hash₁ hash₂ : String → ℤ) (read : String → Option String)
    (modules : List (String × ModuleInfo)) (minLines : ℤ) :
    stageOne hash₂ read modules minLines = (stageOne hash₁ read modules minLines).map (rehash hash₂) := by
  simp only [stageOne, List.map_flatMap]
  refine List.flatMap_congr fun e _ ↦ ?_
  unfold moduleCandidates
  split
  · split
    · rfl
    · rw [List.map_filterMap]
      exact List.filterMap_congr fun s _ ↦ candidateOf_rehash hash₁ hash₂ _ _ _ s
  · rfl

theorem orderedPairs_map {α β : Type} (f : α → β) :
    ∀ l : List α, orderedPairs (l.map f) = (orderedPairs l).map (Prod.map f f)
  | [] => rfl
  | a :: l => by simp [orderedPairs, orderedPairs_map f l, Function.comp_def]

/-- The Jaccard index of two shingle-text sets, before hashing. -/
def textJaccard (t₁ t₂ : List String) : ℚ :=
  ((t₁.toFinset ∩ t₂.toFinset).card : ℚ) / (t₁.toFinset ∪ t₂.toFinset).card

theorem jaccardIndex_computeShingleHash {hash : String → ℤ} (hinj : Function.Injective hash)
    (a b : List Char) (k : ℕ) :
    jaccardIndex (computeShingleHash hash a k) (computeShingleHash hash b k) =
      textJaccard (shingleTexts a k) (shingleTexts b k) := by
  have himage : ∀ t : List Char, (computeShingleHash hash t k).toFinset = (shingleTexts t k).toFinset.image hash :=
    fun t ↦ Finset.ext fun x ↦ by simp [computeShingleHash]
  rw [jaccardIndex, textJaccard, himage, himage, ← Finset.image_inter _ _ hinj, ← Finset.image_union,
    Finset.card_image_of_injective _ hinj, Finset.card_image_of_injective _ hinj]

set_option maxRecDepth 8000 in
/-- Two injective hashes can bucket the same pair of functions apart: their ten
smallest shingle hashes agree under one and differ under its negation, so the
pair (Jaccard index `0.86`) is reported in one run only. -/
theorem bucketing_depends_on_hash :
    Function.Injective codePointHash ∧ Function.Injective (fun s ↦ -codePointHash s) ∧
    ∃ ma mb, extractSymbolsRegex "fn f() \x7b\n    let a = 1;\n    let b = 2;\n    let c = a + b;\n    let d = c + a + b;\n    d + total\n\x7d\n" "a.rs" "demo" = .ok ma ∧
      extractSymbolsRegex "fn f() \x7b\n    let a = 1;\n    let b = 2;\n    let c = a + b;\n    let d = c + a + b;\n    d + total + adjustment\n\x7d\n" "b.rs" "demo" = .ok mb ∧
      (detectDuplicates codePointHash (fun p ↦ if p = "a.rs" then some "fn f() \x7b\n    let a = 1;\n    let b = 2;\n    let c = a + b;\n    let d = c + a + b;\n    d + total\n\x7d\n" else some "fn f() \x7b\n    let a = 1;\n    let b = 2;\n    let c = a + b;\n    let d = c + a + b;\n    d + total + adjustment\n\x7d\n") [("a.rs", ma), ("b.rs", mb)] 5 (4 / 5)).map
          (fun cl ↦ (cl.locations.map fun l ↦ (l.file, l.lineStart), cl.similarity)) =
        [([("a.rs", 1), ("b.rs", 1)], toBinary64 (43 / 50))] ∧
      detectDuplicates (fun s ↦ -codePointHash s) (fun p ↦ if p = "a.rs" then some "fn f() \x7b\n    let a = 1;\n    let b = 2;\n    let c = a + b;\n    let d = c + a + b;\n    d + total\n\x7d\n" else some "fn f() \x7b\n    let a = 1;\n    let b = 2;\n    let c = a + b;\n    let d = c + a + b;\n    d + total + adjustment\n\x7d\n") [("a.rs", ma), ("b.rs", mb)] 5 (4 / 5) = [] :=
  ⟨codePointHash_injective, fun a b h ↦ codePointHash_injective
    (neg_inj.mp (h : -codePointHash a = -codePointHash b)), _, _, rfl, rfl,
    by with_unfolding_all rfl, by
      apply List.eq_nil_of_length_eq_zero
      with_unfolding_all rfl⟩

/-- For injective hashes, `detect_duplicates` depends on the hash only through
the signature bucketing: two hashes that put the same candidates together give
the same clusters, with the same similarities, up to order. -/
theorem detectDuplicates_perm_of_same_buckets (hash₁ hash₂ : String → ℤ)
    (hinj₁ : Function.Injective hash₁) (hinj₂ : Function.Injective hash₂)
    (read : String → Option String) (modules : List (String × ModuleInfo)) (minLines : ℤ)
    (threshold : ℚ) (hmods : AsAnalyzed read modules)
    (hsame : ∀ c ∈ stageOne hash₁ read modules minLines, ∀ c' ∈ stageOne hash₁ read modules minLines,
      signature c = signature c' ↔ signature (rehash hash₂ c) = signature (rehash hash₂ c')) :
    (detectDuplicates hash₁ read modules minLines threshold).Perm
      (detectDuplicates hash₂ read modules minLines threshold) := by
  have hjac : ∀ c ∈ stageOne hash₁ read modules minLines, ∀ c' ∈ stageOne hash₁ read modules minLines,
      jaccardIndex (rehash hash₂ c).shingles (rehash hash₂ c').shingles =
        jaccardIndex c.shingles c'.shingles := by
    intro c hc c' hc'
    obtain ⟨_, _, _, hs⟩ := mem_stageOne hc
    obtain ⟨_, _, _, hs'⟩ := mem_stageOne hc'
    rw [hs, hs', rehash, rehash, jaccardIndex_computeShingleHash hinj₂,
      jaccardIndex_computeShingleHash hinj₁]
  have hq : ∀ p ∈ orderedPairs (stageOne hash₁ read modules minLines),
      decide (Qualifies threshold (Prod.map (rehash hash₂) (rehash hash₂) p)) =
        decide (Qualifies threshold p) := fun p hp ↦ by
    obtain ⟨h₁, h₂⟩ := mem_orderedPairs hp
    refine decide_eq_decide.mpr ?_
    simp only [Qualifies, Prod.map_fst, Prod.map_snd, file_rehash, hjac _ h₁ _ h₂, ← hsame _ h₁ _ h₂]
  have hlists : ((orderedPairs (stageOne hash₂ read modules minLines)).filter (Qualifies threshold)).map
        (fun p ↦ mkCluster p.1 p.2 (toBinary64 (jaccardIndex p.1.shingles p.2.shingles))) =
      ((orderedPairs (stageOne hash₁ read modules minLines)).filter (Qualifies threshold)).map
        (fun p ↦ mkCluster p.1 p.2 (toBinary64 (jaccardIndex p.1.shingles p.2.shingles))) := by
    rw [stageOne_rehash hash₁ hash₂, orderedPairs_map, List.filter_map, List.map_map]
    refine (List.map_congr_left fun p hp ↦ ?_).trans
      (congrArg _ (List.filter_congr fun p hp ↦ hq p hp))
    obtain ⟨h₁, h₂⟩ := mem_orderedPairs (List.mem_of_mem_filter hp)
    simp only [Function.comp_apply, Prod.map_fst, Prod.map_snd, hjac _ h₁ _ h₂, mkCluster_rehash]
  exact (detectDuplicates_perm_qualifying hash₁ minLines threshold hmods).trans
    (hlists ▸ (detectDuplicates_perm_qualifying hash₂ minLines threshold hmods).symm)

theorem detectDuplicates_perm_of_shifted_hash :
    ∃ ma mb,
      extractSymbolsRegex "fn f() \x7b\n    let a = 1;\n    let b = 2;\n    a + b\n\x7d\n" "a.rs" "demo" = .ok ma ∧
      extractSymbolsRegex "fn f() \x7b\n    let a = 1;\n    let b = 2;\n    a + b\n\x7d\n" "b.rs" "demo" = .ok mb ∧
      (detectDuplicates codePointHash (fun _ ↦ some "fn f() \x7b\n    let a = 1;\n    let b = 2;\n    a + b\n\x7d\n")
        [("a.rs", ma), ("b.rs", mb)] 5 (4 / 5)).Perm
      (detectDuplicates (fun s ↦ codePointHash s + 1)
        (fun _ ↦ some "fn f() \x7b\n    let a = 1;\n    let b = 2;\n    a + b\n\x7d\n")
        [("a.rs", ma), ("b.rs", mb)] 5 (4 / 5)) := by
  refine ⟨_, _, rfl, rfl, ?_⟩
  exact detectDuplicates_perm_of_same_buckets _ _ codePointHash_injective
    (fun a b h ↦ codePointHash_injective (add_right_cancel (h : codePointHash a + 1 = codePointHash b + 1)))
    _ _ _ _ (asAnalyzed_of_extracted (by with_unfolding_all decide)
      (List.forall_mem_cons.mpr ⟨⟨_, "demo", rfl, rfl⟩, List.forall_mem_cons.mpr ⟨⟨_, "demo", rfl, rfl⟩,
        fun _ h ↦ absurd h (List.not_mem_nil _)⟩⟩))
    (by with_unfolding_all decide)

end Caliber.Analyzer
