import Caliber.Doctor.Diagnose

/-!
# `caliber_doctor`: the menus

`arrow_menu` shows a list of items.  In a terminal it keeps a highlighted index
that the arrow keys, `k` and `j`, move round the list; Enter returns it, and `q`
or Ctrl-C return the last item.  Without a terminal it reads lines until one is
a number of an item.  `main` offers four actions and, for the third, a second
menu of the recommended commands and `Cancel`, and runs the command chosen.

The highlighted index stays in range after every key, so on a non-empty list the
menu never raises and returns an index of the list.  `main` then raises nothing
in a terminal but what reading its input raises without one, and runs only a
recommended command, found by its own index.

The keys `read_key` returns, or the lines `input` reads, are a list; a terminal
menu that runs out of keys is still waiting, and `input` raises at the end of
its input.  `int` is a parameter `pyInt`.
-/

namespace Caliber.Doctor

open Caliber.Py

/-! ## `arrow_menu` -/

/-- What one key does in a terminal: move the highlight, or return an index. -/
inductive MenuStep where
  | move (idx : ℤ)
  | select (idx : ℤ)
deriving DecidableEq, Repr

/-- The index a step moves to or returns. -/
def MenuStep.index : MenuStep → ℤ
  | .move idx => idx
  | .select idx => idx

/-- `a % n` of Python integers, for a length `n`. -/
def pyMod (a : ℤ) (n : ℕ) : Except String ℤ :=
  if n = 0 then .error "ZeroDivisionError: integer modulo by zero" else .ok (a % n)

/-- The body of the terminal loop of `arrow_menu`, over `n` items, for the key
`read_key` returned. -/
def menuKey (n : ℕ) (idx : ℤ) (key : String) : Except String MenuStep :=
  if key = "\x1b[A" ∨ key = "k" then (pyMod (idx - 1) n).map .move
  else if key = "\x1b[B" ∨ key = "j" then (pyMod (idx + 1) n).map .move
  else if key = "\r" ∨ key = "\n" then .ok (.select idx)
  else if key = "q" ∨ key = "\x03" then .ok (.select (n - 1))
  else .ok (.move idx)

/-- The terminal loop of `arrow_menu` from the highlighted index `idx`: the
index it returns with the keys left, or `none` while it waits for a key. -/
def menuLoop (n : ℕ) : ℤ → List String → Except String (Option (ℤ × List String))
  | _, [] => .ok none
  | idx, key :: keys => (menuKey n idx key).bind fun
      | .move idx' => menuLoop n idx' keys
      | .select i => .ok (some (i, keys))

/-- What `input` raises at the end of its input. -/
def eofError : String := "EOFError: EOF when reading a line"

/-- The loop of `arrow_menu` without a terminal, over the lines `input` reads:
`int(line.strip())` when it is the number of an item. -/
def promptLoop (n : ℕ) (pyInt : String → Option ℤ) : List String → Except String (ℤ × List String)
  | [] => .error eofError
  | line :: lines =>
      match pyInt ⟨strip line.data⟩ with
      | some choice => if 1 ≤ choice ∧ choice ≤ n then .ok (choice - 1, lines) else promptLoop n pyInt lines
      | none => promptLoop n pyInt lines

/-- `arrow_menu(title, items)` for `n` items. -/
def arrowMenu (tty : Bool) (n : ℕ) (pyInt : String → Option ℤ) (input : List String) :
    Except String (Option (ℤ × List String)) :=
  if tty then menuLoop n 0 input else (promptLoop n pyInt input).map some

/-- An index of a list of `n` items. -/
def InRange (n : ℕ) (i : ℤ) : Prop := 0 ≤ i ∧ i < n

theorem pyMod_inRange {n : ℕ} (hn : 0 < n) (a : ℤ) : ∃ i, pyMod a n = .ok i ∧ InRange n i :=
  ⟨a % n, if_neg (Nat.pos_iff_ne_zero.mp hn),
    Int.emod_nonneg _ (by omega), Int.emod_lt_of_pos _ (by omega)⟩

theorem menuKey_inRange {n : ℕ} (hn : 0 < n) {idx : ℤ} (hidx : InRange n idx) (key : String) :
    ∃ st, menuKey n idx key = .ok st ∧ InRange n st.index := by
  unfold menuKey
  split_ifs
  · obtain ⟨i, hi, hr⟩ := pyMod_inRange hn (idx - 1)
    exact ⟨.move i, by rw [hi]; rfl, hr⟩
  · obtain ⟨i, hi, hr⟩ := pyMod_inRange hn (idx + 1)
    exact ⟨.move i, by rw [hi]; rfl, hr⟩
  · exact ⟨.select idx, rfl, hidx⟩
  · exact ⟨.select (n - 1), rfl, by simp only [MenuStep.index, InRange]; omega⟩
  · exact ⟨.move idx, rfl, hidx⟩

/-- Over every sequence of keys, the terminal loop on a non-empty list never
raises, and what it returns is an index of the list. -/
theorem menuLoop_inRange {n : ℕ} (hn : 0 < n) :
    ∀ (keys : List String) {idx : ℤ}, InRange n idx →
      ∃ o, menuLoop n idx keys = .ok o ∧ ∀ i rest, o = some (i, rest) → InRange n i
  | [], _, _ => ⟨none, rfl, fun _ _ h ↦ (nomatch h)⟩
  | key :: keys, idx, hidx => by
      obtain ⟨st, hst, hr⟩ := menuKey_inRange hn hidx key
      rw [menuLoop, hst]
      cases st with
      | move idx' => exact menuLoop_inRange hn keys hr
      | select i => exact ⟨some (i, keys), rfl, fun _ _ h ↦ by cases h; exact hr⟩

theorem promptLoop_inRange {n : ℕ} (pyInt : String → Option ℤ) :
    ∀ (lines : List String),
      (∀ e, promptLoop n pyInt lines = .error e → e = eofError) ∧
        ∀ i rest, promptLoop n pyInt lines = .ok (i, rest) → InRange n i
  | [] => ⟨fun _ h ↦ by cases h; rfl, fun _ _ h ↦ (nomatch h)⟩
  | line :: lines => by
      unfold promptLoop
      split
      · split_ifs with hc
        · exact ⟨fun _ h ↦ (nomatch h), fun _ _ h ↦ by cases h; unfold InRange; omega⟩
        · exact promptLoop_inRange pyInt lines
      · exact promptLoop_inRange pyInt lines

/-- On a non-empty list, `arrow_menu` raises nothing but the error of reading
past the end of its input without a terminal, and what it returns is an index
of the list. -/
theorem arrowMenu_inRange {n : ℕ} (hn : 0 < n) (tty : Bool) (pyInt : String → Option ℤ)
    (input : List String) :
    (∀ e, arrowMenu tty n pyInt input = .error e → tty = false ∧ e = eofError) ∧
      ∀ i rest, arrowMenu tty n pyInt input = .ok (some (i, rest)) → InRange n i := by
  unfold arrowMenu
  cases tty
  · obtain ⟨herr, hok⟩ := promptLoop_inRange (n := n) pyInt input
    refine ⟨fun e h ↦ ⟨rfl, herr e ?_⟩, fun i rest h ↦ hok i rest ?_⟩ <;>
      cases hp : promptLoop n pyInt input <;> rw [hp] at h <;> cases h <;> rfl
  · obtain ⟨o, ho, hr⟩ := menuLoop_inRange hn input (show InRange n 0 from ⟨le_refl _, by omega⟩)
    simp only [if_true, ho]
    exact ⟨fun _ h ↦ (nomatch h), fun i rest h ↦ hr i rest (Except.ok.inj h)⟩

theorem arrowMenu_inRange_up_then_enter :
    0 < 4 ∧
      (∀ e, arrowMenu true 4 (fun _ ↦ none) ["\x1b[A", "\r"] = .error e → true = false ∧ e = eofError) ∧
      ∀ i rest, arrowMenu true 4 (fun _ ↦ none) ["\x1b[A", "\r"] = .ok (some (i, rest)) → InRange 4 i :=
  ⟨by norm_num, arrowMenu_inRange (by norm_num) _ _ _⟩

/- The up arrow on the first item wraps to the last. -/
example : arrowMenu true 4 (fun _ ↦ none) ["\x1b[A", "\r"] = .ok (some (3, [])) := rfl

/- On an empty list an arrow key divides by zero. -/
example : arrowMenu true 0 (fun _ ↦ none) ["j"] = .error "ZeroDivisionError: integer modulo by zero" :=
  rfl

/-! ## `main` after the summary -/

/-- What `main` does once it has printed the summary. -/
inductive MainAction where
  | printCommands
  | printLlmPaste
  | noCommands
  | cancel
  | run (cmd : String)
  | exit
deriving DecidableEq, Repr

/-- The menus of `main(recs)`: `none` while a menu waits for a key. -/
def mainMenu (tty : Bool) (pyInt : String → Option ℤ) (input : List String)
    (recs : List Recommendation) : Except String (Option MainAction) :=
  (arrowMenu tty 4 pyInt input).bind fun
    | none => .ok none
    | some (choice, rest) =>
        if choice = 0 then .ok (some .printCommands)
        else if choice = 1 then .ok (some .printLlmPaste)
        else if choice = 2 then
          if recs = [] then .ok (some .noCommands)
          else
            let allCmds := recs.flatMap (·.commands)
            (arrowMenu tty (allCmds.length + 1) pyInt rest).bind fun
              | none => .ok none
              | some (cmdIdx, _) =>
                  if allCmds.length ≤ cmdIdx then .ok (some .cancel)
                  else (getItemInt allCmds cmdIdx).map fun cmd ↦ some (.run cmd)
        else .ok (some .exit)

theorem getItemInt_of_inRange {α : Type} {xs : List α} {i : ℤ} (hi : InRange xs.length i) :
    ∃ x ∈ xs, getItemInt xs i = .ok x := by
  obtain ⟨h₀, h₁⟩ := hi
  refine ⟨xs.get ⟨i.toNat, by omega⟩, List.get_mem _ _ _, ?_⟩
  simp [getItemInt, h₀, getItem, List.getElem?_eq_getElem (show i.toNat < xs.length by omega)]

/-- The menus of `main` raise nothing in a terminal, and without one only the
error of reading past the end of the input; a command they run is one of the
recommended commands, taken at the index chosen, never counted from the end. -/
theorem mainMenu_safe (tty : Bool) (pyInt : String → Option ℤ) (input : List String)
    (recs : List Recommendation) :
    (∀ e, mainMenu tty pyInt input recs = .error e → tty = false ∧ e = eofError) ∧
      ∀ cmd, mainMenu tty pyInt input recs = .ok (some (.run cmd)) →
        ∃ i, InRange (recs.flatMap (·.commands)).length i ∧
          getItemInt (recs.flatMap (·.commands)) i = .ok cmd ∧ cmd ∈ recs.flatMap (·.commands) := by
  obtain ⟨herr₁, hok₁⟩ := arrowMenu_inRange (by norm_num : 0 < 4) tty pyInt input
  unfold mainMenu
  cases h₁ : arrowMenu tty 4 pyInt input with
  | error e => exact ⟨fun e' h ↦ (Except.error.inj h) ▸ herr₁ e h₁, fun _ h ↦ (nomatch h)⟩
  | ok o =>
      rcases o with _ | ⟨choice, rest⟩
      · exact ⟨fun _ h ↦ (nomatch h), fun _ h ↦ (nomatch h)⟩
      dsimp only [Except.bind]
      split_ifs with hc₀ hc₁ hc₂ hrecs
      all_goals try exact ⟨fun _ h ↦ h.elim, fun _ h ↦ (by cases h)⟩
      obtain ⟨herr₂, hok₂⟩ := arrowMenu_inRange (Nat.succ_pos _) tty pyInt rest
      cases h₂ : arrowMenu tty ((recs.flatMap (·.commands)).length + 1) pyInt rest with
      | error e => exact ⟨fun e' h ↦ (Except.error.inj h) ▸ herr₂ e h₂, fun _ h ↦ (nomatch h)⟩
      | ok o₂ =>
          rcases o₂ with _ | ⟨cmdIdx, rest₂⟩
          · exact ⟨fun _ h ↦ (nomatch h), fun _ h ↦ (nomatch h)⟩
          have hr := hok₂ cmdIdx rest₂ h₂
          dsimp only
          split_ifs with hcancel
          · exact ⟨fun _ h ↦ h.elim, fun _ h ↦ (by cases h)⟩
          · have hin : InRange (recs.flatMap (·.commands)).length cmdIdx := ⟨hr.1, by omega⟩
            obtain ⟨x, hx, hget⟩ := getItemInt_of_inRange hin
            rw [hget]
            exact ⟨fun _ h ↦ (nomatch h), fun cmd h ↦ by
              cases h
              exact ⟨cmdIdx, hin, hget, hx⟩⟩

end Caliber.Doctor
