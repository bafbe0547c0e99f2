import Caliber.Py.Builtins

/-!
# Backtracking regular expressions

The analyzer's scanners are Python `re` patterns.  This module interprets a
pattern syntax tree with the priorities of a backtracking matcher: greedy
repetition tries the longest iteration first, lazy repetition the shortest,
alternation its left branch first, and the first success wins.  Matching is in
continuation-passing style, so a failure after a choice point resumes at the
next choice, exactly as `sre` does.

`finditer` tries every position from the left and resumes after the end of the
previous match; `sub` splices a fixed replacement over the same matches.
-/

namespace Caliber.Pattern

open Caliber.Py

/-- A position in the subject: the number of characters before it, the last
of them (read by `^`, `\b` and lookbehind) and the unread suffix. -/
structure Cursor where
  pos : ℕ
  prev : Option Char
  rest : List Char

/-- Capture spans `(group, start, stop)`, the newest first: a later capture of
one group shadows an earlier one, as in `Match.group`. -/
abbrev Groups := List (ℕ × ℕ × ℕ)

/-- Pattern syntax.  `cls p` is one character satisfying `p`; `opt`, `star`
and `lazyStar` are `(?:a)?`, `(?:a)*` and `(?:a)*?`. -/
inductive Re where
  | bol
  | eol
  | eos
  | cls (p : Char → Bool)
  | seq (a b : Re)
  | alt (a b : Re)
  | opt (a : Re)
  | star (a : Re)
  | lazyStar (a : Re)
  | group (i : ℕ) (a : Re)
  | wordBoundary
  | notBehind (p : Char → Bool)
  | notAhead (p : Char → Bool)

/-- A continuation: what the rest of the pattern does from a cursor. -/
abbrev Cont (α : Type) := Cursor → Groups → Option α

/-- `^` under `re.M`: at the start of the subject or just after a newline. -/
def Cursor.atLineStart (c : Cursor) : Bool :=
  match c.prev with
  | none => true
  | some x => x == '\n'

/-- `$` under `re.M`: at the end or just before a newline. -/
def Cursor.atLineEnd (c : Cursor) : Bool :=
  match c.rest with
  | [] => true
  | x :: _ => x == '\n'

/-- `$` without `re.M`: at the end, or before a newline that ends the subject. -/
def Cursor.atEnd (c : Cursor) : Bool :=
  match c.rest with
  | [] => true
  | [x] => x == '\n'
  | _ => false

def Cursor.atWordBoundary (c : Cursor) : Bool :=
  ((c.prev.map isWord).getD false) != ((c.rest.head?.map isWord).getD false)

/-- Greedy repetition: one more iteration first, then stop.  An iteration has
to consume input, so `n = rest.length` rounds bound the loop exactly. -/
def starGreedy {α : Type} (step : Cursor → Groups → Cont α → Option α) :
    ℕ → Cursor → Groups → Cont α → Option α
  | 0, c, g, k => k c g
  | n + 1, c, g, k =>
      (step c g fun c' g' => if c.pos < c'.pos then starGreedy step n c' g' k else none).orElse
        fun _ => k c g

/-- Lazy repetition: stop first, then one more iteration. -/
def starLazy {α : Type} (step : Cursor → Groups → Cont α → Option α) :
    ℕ → Cursor → Groups → Cont α → Option α
  | 0, c, g, k => k c g
  | n + 1, c, g, k =>
      (k c g).orElse fun _ =>
        step c g fun c' g' => if c.pos < c'.pos then starLazy step n c' g' k else none

/-- Run a pattern from a cursor and pass every way it can end, in priority
order, to the continuation until one succeeds. -/
def Re.run {α : Type} : Re → Cursor → Groups → Cont α → Option α
  | .bol, c, g, k => if c.atLineStart then k c g else none
  | .eol, c, g, k => if c.atLineEnd then k c g else none
  | .eos, c, g, k => if c.atEnd then k c g else none
  | .cls p, c, g, k =>
      match c.rest with
      | x :: xs => if p x then k ⟨c.pos + 1, some x, xs⟩ g else none
      | [] => none
  | .seq a b, c, g, k => a.run c g fun c' g' => b.run c' g' k
  | .alt a b, c, g, k => (a.run c g k).orElse fun _ => b.run c g k
  | .opt a, c, g, k => (a.run c g k).orElse fun _ => k c g
  | .star a, c, g, k => starGreedy a.run c.rest.length c g k
  | .lazyStar a, c, g, k => starLazy a.run c.rest.length c g k
  | .group i a, c, g, k => a.run c g fun c' g' => k c' ((i, c.pos, c'.pos) :: g')
  | .wordBoundary, c, g, k => if c.atWordBoundary then k c g else none
  | .notBehind p, c, g, k => if (c.prev.map p).getD false then none else k c g
  | .notAhead p, c, g, k => if (c.rest.head?.map p).getD false then none else k c g

/-- One successful match: its span and its captures. -/
structure Match where
  start : ℕ
  stop : ℕ
  groups : Groups

/-- `pattern.match` anchored at a cursor. -/
def Re.matchAt (r : Re) (c : Cursor) : Option Match :=
  r.run c [] fun c' g => some ⟨c.pos, c'.pos, g⟩

/-- Where the scan resumes after a match: its end, or one further on after an
empty match. -/
def Match.resume (m : Match) : ℕ := if m.start < m.stop then m.stop else m.stop + 1

/-- The scan behind `finditer`: positions before `resume` lie inside the
previous match and are skipped. -/
def scanFrom (r : Re) : ℕ → ℕ → Option Char → List Char → List Match
  | resume, pos, prev, [] =>
      if resume ≤ pos then (r.matchAt ⟨pos, prev, []⟩).toList else []
  | resume, pos, prev, x :: xs =>
      match (if resume ≤ pos then r.matchAt ⟨pos, prev, x :: xs⟩ else none) with
      | some m => m :: scanFrom r m.resume (pos + 1) (some x) xs
      | none => scanFrom r resume (pos + 1) (some x) xs

/-- `pattern.finditer(text)`. -/
def finditer (r : Re) (text : List Char) : List Match := scanFrom r 0 0 none text

/-- The splice behind `re.sub` with a constant replacement. -/
def subFrom (r : Re) (repl : List Char) : ℕ → ℕ → Option Char → List Char → List Char
  | resume, pos, prev, [] =>
      if resume ≤ pos then
        match r.matchAt ⟨pos, prev, []⟩ with
        | some _ => repl
        | none => []
      else []
  | resume, pos, prev, x :: xs =>
      if resume ≤ pos then
        match r.matchAt ⟨pos, prev, x :: xs⟩ with
        | some m =>
            if m.start < m.stop then repl ++ subFrom r repl m.stop (pos + 1) (some x) xs
            else repl ++ x :: subFrom r repl (m.stop + 1) (pos + 1) (some x) xs
        | none => x :: subFrom r repl resume (pos + 1) (some x) xs
      else subFrom r repl resume (pos + 1) (some x) xs

/-- `re.sub(pattern, repl, text)`. -/
def sub (r : Re) (repl text : List Char) : List Char := subFrom r repl 0 0 none text

/-- `pattern.search(text) is not None`. -/
def search (r : Re) (text : List Char) : Bool := !(finditer r text).isEmpty

/-- `m.group(i)`: the text of the newest capture of group `i`. -/
def Match.group (m : Match) (text : List Char) (i : ℕ) : Option (List Char) :=
  (m.groups.find? fun e ↦ e.1 == i).map fun e ↦ (text.drop e.2.1).take (e.2.2 - e.2.1)

/-! ## Building patterns -/

def Re.chr (x : Char) : Re := .cls (· == x)

def Re.empty : Re := .opt (.cls fun _ ↦ false)

def Re.str : List Char → Re
  | [] => .empty
  | [x] => .chr x
  | x :: xs => .seq (.chr x) (Re.str xs)

def Re.plus (a : Re) : Re := .seq a (.star a)

def Re.seqs : List Re → Re
  | [] => .empty
  | [a] => a
  | a :: as => .seq a (Re.seqs as)

/-! ## What a run can return -/

/-- `c'` lies `j` characters on from `c` in the same subject. -/
def Cursor.Follows (c c' : Cursor) : Prop :=
  ∃ j ≤ c.rest.length, c'.pos = c.pos + j ∧ c'.rest = c.rest.drop j

theorem Cursor.Follows.refl (c : Cursor) : c.Follows c := ⟨0, by simp, by simp, by simp⟩

theorem Cursor.Follows.trans {c₁ c₂ c₃ : Cursor} (h₁ : c₁.Follows c₂) (h₂ : c₂.Follows c₃) :
    c₁.Follows c₃ := by
  obtain ⟨i, hi, hp, hr⟩ := h₁
  obtain ⟨j, hj, hp', hr'⟩ := h₂
  rw [hr, List.length_drop] at hj
  exact ⟨i + j, by omega, by omega, by rw [hr', hr, List.drop_drop, Nat.add_comm]⟩

theorem orElse_eq_some {α : Type} {a : Option α} {f : Unit → Option α} {x : α}
    (h : a.orElse f = some x) : a = some x ∨ f () = some x := by
  cases a <;> simp_all [Option.orElse]

/-- A step "only ends where its continuation is called": every result of
`step c g k` is a result of `k` at a later cursor. -/
def Returns {α : Type} (step : Cursor → Groups → Cont α → Option α) : Prop :=
  ∀ c g k x, step c g k = some x → ∃ c' g', c.Follows c' ∧ k c' g' = some x

theorem starGreedy_returns {α : Type} {step : Cursor → Groups → Cont α → Option α}
    (h : Returns step) (n : ℕ) : Returns (starGreedy step n) := by
  induction n with
  | zero => exact fun c g k x hx ↦ ⟨c, g, .refl c, hx⟩
  | succ n ih =>
      intro c g k x hx
      rcases orElse_eq_some hx with hx | hx
      · obtain ⟨c', g', hf, hk⟩ := h c g _ x hx
        split at hk
        · obtain ⟨c'', g'', hf', hk'⟩ := ih c' g' k x hk
          exact ⟨c'', g'', hf.trans hf', hk'⟩
        · cases hk
      · exact ⟨c, g, .refl c, hx⟩

theorem starLazy_returns {α : Type} {step : Cursor → Groups → Cont α → Option α}
    (h : Returns step) (n : ℕ) : Returns (starLazy step n) := by
  induction n with
  | zero => exact fun c g k x hx ↦ ⟨c, g, .refl c, hx⟩
  | succ n ih =>
      intro c g k x hx
      rcases orElse_eq_some hx with hx | hx
      · exact ⟨c, g, .refl c, hx⟩
      · obtain ⟨c', g', hf, hk⟩ := h c g _ x hx
        split at hk
        · obtain ⟨c'', g'', hf', hk'⟩ := ih c' g' k x hk
          exact ⟨c'', g'', hf.trans hf', hk'⟩
        · cases hk

/-- Every pattern returns only through its continuation, at a later cursor. -/
theorem Re.run_returns {α : Type} (r : Re) : Returns (α := α) r.run := by
  induction r with
  | bol | eol | eos | wordBoundary | notBehind | notAhead =>
      intro c g k x hx
      simp only [Re.run] at hx
      split at hx
      all_goals first | cases hx | exact ⟨c, g, .refl c, hx⟩
  | cls p =>
      intro c g k x hx
      simp only [Re.run] at hx
      split at hx
      · rename_i y ys hrest
        split at hx
        · exact ⟨_, g, ⟨1, by simp [hrest], rfl, by simp [hrest]⟩, hx⟩
        · cases hx
      · cases hx
  | seq a b iha ihb =>
      intro c g k x hx
      obtain ⟨c', g', hf, hk⟩ := iha c g _ x hx
      obtain ⟨c'', g'', hf', hk'⟩ := ihb c' g' k x hk
      exact ⟨c'', g'', hf.trans hf', hk'⟩
  | alt a b iha ihb =>
      intro c g k x hx
      rcases orElse_eq_some hx with hx | hx
      · exact iha c g k x hx
      · exact ihb c g k x hx
  | opt a iha =>
      intro c g k x hx
      rcases orElse_eq_some hx with hx | hx
      · exact iha c g k x hx
      · exact ⟨c, g, .refl c, hx⟩
  | star a iha => exact fun c g k x hx ↦ starGreedy_returns iha _ c g k x hx
  | lazyStar a iha => exact fun c g k x hx ↦ starLazy_returns iha _ c g k x hx
  | group i a iha =>
      intro c g k x hx
      obtain ⟨c', g', hf, hk⟩ := iha c g _ x hx
      exact ⟨c', _, hf, hk⟩

theorem Re.matchAt_span {r : Re} {c : Cursor} {m : Match} (h : r.matchAt c = some m) :
    m.start = c.pos ∧ c.pos ≤ m.stop ∧ m.stop ≤ c.pos + c.rest.length := by
  obtain ⟨c', g', ⟨j, hj, hp, -⟩, hk⟩ := r.run_returns c [] _ m h
  cases hk
  exact ⟨rfl, show c.pos ≤ c'.pos by omega, show c'.pos ≤ _ by omega⟩

theorem Match.start_lt_resume {m : Match} (h : m.start ≤ m.stop) : m.start < m.resume := by
  unfold Match.resume
  split <;> omega

theorem Re.atLineStart_of_matchAt_bol {r : Re} {c : Cursor} {m : Match}
    (h : (Re.seq .bol r).matchAt c = some m) : c.atLineStart = true := by
  by_contra hc
  simp [Re.matchAt, Re.run, hc] at h

/-! ## The scan -/

/-- The cursor at offset `p` of a subject. -/
def cursorAt (text : List Char) (p : ℕ) : Cursor := ⟨p, (text.take p).getLast?, text.drop p⟩

theorem cursorAt_append (pre rest : List Char) :
    cursorAt (pre ++ rest) pre.length = ⟨pre.length, pre.getLast?, rest⟩ := by
  simp [cursorAt]

/-- Every match the scan reports is the anchored match at its own start, lies
after the resume point, and starts inside the subject. -/
theorem mem_scanFrom {r : Re} {m : Match} :
    ∀ {rest pre : List Char} {resume : ℕ},
      m ∈ scanFrom r resume pre.length pre.getLast? rest →
      resume ≤ m.start ∧ pre.length ≤ m.start ∧ m.start ≤ (pre ++ rest).length ∧
        r.matchAt (cursorAt (pre ++ rest) m.start) = some m
  | [], pre, resume, h => by
      simp only [scanFrom] at h
      split at h
      · cases hm : r.matchAt ⟨pre.length, pre.getLast?, []⟩ with
        | none => simp [hm] at h
        | some m₀ =>
            simp only [hm, Option.toList, List.mem_singleton] at h
            subst h
            have hs := (Re.matchAt_span hm).1
            simp only at hs
            refine ⟨by omega, by omega, by simp [hs], ?_⟩
            rw [hs, ← List.append_nil pre, cursorAt_append]
            simpa using hm
      · cases h
  | x :: xs, pre, resume, h => by
      simp only [scanFrom] at h
      split at h
      · rename_i m₀ hm₀
        rcases List.mem_cons.mp h with rfl | h
        · split at hm₀
          · have hs := (Re.matchAt_span hm₀).1
            simp only at hs
            refine ⟨by omega, by omega, by simp [hs], ?_⟩
            rw [hs, cursorAt_append]
            exact hm₀
          · cases hm₀
        · have := @mem_scanFrom r m xs (pre ++ [x]) m₀.resume (by simpa using h)
          split at hm₀
          · have hspan := Re.matchAt_span hm₀
            have := Match.start_lt_resume (show m₀.start ≤ m₀.stop by omega)
            simp only [List.length_append, List.length_singleton, List.append_assoc,
              List.singleton_append] at *
            exact ⟨by omega, by omega, this.2.2.1, this.2.2.2⟩
          · cases hm₀
      · have := @mem_scanFrom r m xs (pre ++ [x]) resume (by simpa using h)
        simp only [List.length_append, List.length_singleton, List.append_assoc,
          List.singleton_append] at *
        exact ⟨this.1, by omega, this.2.2.1, this.2.2.2⟩

theorem mem_finditer {r : Re} {text : List Char} {m : Match} (h : m ∈ finditer r text) :
    m.start ≤ text.length ∧ r.matchAt (cursorAt text m.start) = some m := by
  have := @mem_scanFrom r m text [] 0 h
  simpa using this.2.2

/-- Reported matches do not overlap and come in order of their starts. -/
theorem scanFrom_pairwise {r : Re} :
    ∀ {rest pre : List Char} {resume : ℕ},
      (scanFrom r resume pre.length pre.getLast? rest).Pairwise fun a b ↦ a.resume ≤ b.start
  | [], pre, resume => by
      simp only [scanFrom]
      split <;> simp [Option.toList]
      split <;> simp
  | x :: xs, pre, resume => by
      simp only [scanFrom]
      split
      · rename_i m₀ hm₀
        refine List.Pairwise.cons (fun b hb ↦ ?_) ?_
        · exact (@mem_scanFrom r b xs (pre ++ [x]) m₀.resume (by simpa using hb)).1
        · simpa using @scanFrom_pairwise r xs (pre ++ [x]) m₀.resume
      · simpa using @scanFrom_pairwise r xs (pre ++ [x]) resume

theorem finditer_pairwise (r : Re) (text : List Char) :
    (finditer r text).Pairwise fun a b ↦ a.resume ≤ b.start :=
  @scanFrom_pairwise r text [] 0

theorem finditer_start_lt (r : Re) (text : List Char) :
    (finditer r text).Pairwise fun a b ↦ a.start < b.start := by
  refine (finditer_pairwise r text).imp_of_mem fun {a b} ha _ hab ↦ ?_
  have hspan := Re.matchAt_span (mem_finditer ha).2
  have := Match.start_lt_resume (show a.start ≤ a.stop by simp [cursorAt] at hspan; omega)
  omega

end Caliber.Pattern
