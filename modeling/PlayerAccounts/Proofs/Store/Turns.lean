import PlayerAccounts.Proofs.Store.Runs
/-!
# Taking turns

What a turn changes, for callers who share the tables: the program of the caller whose turn it is, and the
tables if that program makes a call. What every turn keeps holds after all turns, and a caller who has come
to an end has had a turn for each call on the way.
-/
namespace PlayerAccounts.Service.Program
set_option autoImplicit false

open PlayerAccounts.Store

/-- The program comes to an end after at most this many calls and events, whatever the answers are. -/
def Within {α : Type} : Nat → Program α → Prop
  | _, .done _ => True
  | 0, _ => False
  | n + 1, .ask _ next => ∀ answer, Within n (next answer)
  | n + 1, .note _ next => Within n next

theorem done_of_within_zero {α : Type} {p : Program α} (h : p.Within 0) : ∃ value, p = .done value := by
  cases p with
  | done value => exact ⟨value, rfl⟩
  | ask call next => exact h.elim
  | note event next => exact h.elim

theorem within_succ {α : Type} {p : Program α} {n : Nat} (h : p.Within n) : p.Within (n + 1) := by
  induction p generalizing n with
  | done value => exact True.intro
  | ask call next ih =>
    cases n with
    | zero => exact h.elim
    | succ n => exact fun answer => ih answer (h answer)
  | note event next ih =>
    cases n with
    | zero => exact h.elim
    | succ n => exact ih h

end PlayerAccounts.Service.Program

namespace PlayerAccounts.Store.Shared
set_option autoImplicit false

open PlayerAccounts.Service (Program)

variable {ι : Type} [DecidableEq ι] {α : ι → Type} {s : Shared α} {i j : ι}

/-! ## One turn -/

theorem turn_of_done {value : α i} (h : s.callers i = .done value) : s.turn i = s := by
  rw [turn, h]

theorem turn_of_ask {call : Call} {next : Except StoreError call.Answer → Program (α i)}
    (h : s.callers i = .ask call next) :
    s.turn i = ⟨Function.update s.callers i (next (s.tables.answer call).1), (s.tables.answer call).2⟩ := by
  rw [turn, h]

theorem turn_of_note {event : Service.Event} {next : Program (α i)} (h : s.callers i = .note event next) :
    s.turn i = ⟨Function.update s.callers i next, s.tables⟩ := by
  rw [turn, h]

theorem callers_turn_of_ask {call : Call} {next : Except StoreError call.Answer → Program (α i)}
    (h : s.callers i = .ask call next) : (s.turn i).callers i = next (s.tables.answer call).1 := by
  rw [turn_of_ask h]
  exact Function.update_self ..

theorem callers_turn_of_note {event : Service.Event} {next : Program (α i)}
    (h : s.callers i = .note event next) : (s.turn i).callers i = next := by
  rw [turn_of_note h]
  exact Function.update_self ..

theorem callers_turn_of_ne (h : j ≠ i) : (s.turn i).callers j = s.callers j := by
  rw [turn]
  split
  · rfl
  · exact Function.update_of_ne h ..
  · exact Function.update_of_ne h ..

/-! ## Many turns -/

theorem afterTurns_cons (s : Shared α) (i : ι) (turns : List ι) :
    s.afterTurns (i :: turns) = (s.turn i).afterTurns turns := rfl

theorem afterTurns_append (s : Shared α) (first second : List ι) :
    s.afterTurns (first ++ second) = (s.afterTurns first).afterTurns second := List.foldl_append

theorem callers_afterTurns_of_ask {call : Call} {next : Except StoreError call.Answer → Program (α i)}
    {turns : List ι} (h : (s.afterTurns turns).callers i = .ask call next) :
    (s.afterTurns (turns ++ [i])).callers i = next ((s.afterTurns turns).tables.answer call).1 := by
  rw [afterTurns_append]
  exact callers_turn_of_ask h

theorem afterTurns_keeps {I : Shared α → Prop} (hturn : ∀ s i, I s → I (s.turn i)) (turns : List ι)
    (h : I s) : I (s.afterTurns turns) := by
  induction turns generalizing s with
  | nil => exact h
  | cons i turns ih => exact ih (hturn s i h)

theorem afterTurns_of_done {value : α i} (h : s.callers i = .done value) (turns : List ι) :
    (s.afterTurns turns).callers i = .done value := by
  refine afterTurns_keeps (I := fun s => s.callers i = .done value) (fun s j hs => ?_) turns h
  by_cases hij : i = j
  · subst hij
    rwa [turn_of_done hs]
  · rwa [callers_turn_of_ne hij]

theorem value_of_done {value last : α i} {turns : List ι} (h : s.callers i = .done value)
    (hlast : (s.afterTurns turns).callers i = .done last) : value = last := by
  rw [afterTurns_of_done h turns] at hlast
  exact Program.done.inj hlast

theorem callers_afterTurns_of_not_mem {turns : List ι} (h : i ∉ turns) :
    (s.afterTurns turns).callers i = s.callers i := by
  induction turns generalizing s with
  | nil => rfl
  | cons j turns ih =>
    rw [List.mem_cons, not_or] at h
    exact (ih h.2).trans (callers_turn_of_ne h.1)

/-- A caller who was about to make a call and has come to an end has had the turn to make it. -/
theorem exists_turn_of_done {call : Call} {next : Except StoreError call.Answer → Program (α i)} {value : α i}
    {turns : List ι} (hask : s.callers i = .ask call next)
    (hdone : (s.afterTurns turns).callers i = .done value) :
    ∃ before after, turns = before ++ i :: after ∧ i ∉ before ∧
      (s.afterTurns before).callers i = .ask call next := by
  by_cases hi : i ∈ turns
  · obtain ⟨before, after, hturns, hbefore⟩ := List.eq_append_cons_of_mem hi
    exact ⟨before, after, hturns, hbefore, (callers_afterTurns_of_not_mem hbefore).trans hask⟩
  · rw [callers_afterTurns_of_not_mem hi, hask] at hdone
    cases hdone

theorem within_turn {n : Nat} (h : (s.callers i).Within n) : ((s.turn i).callers i).Within (n - 1) := by
  cases hp : s.callers i with
  | done value =>
    rw [turn_of_done hp, hp]
    cases n - 1 <;> exact True.intro
  | ask call next =>
    rw [hp] at h
    rw [callers_turn_of_ask hp]
    cases n with
    | zero => exact h.elim
    | succ n => exact h _
  | note event next =>
    rw [hp] at h
    rw [callers_turn_of_note hp]
    cases n with
    | zero => exact h.elim
    | succ n => exact h

/-- However the turns are dealt out, a caller comes to an end who gets as many as the program can take. -/
theorem done_of_count {n : Nat} {turns : List ι} (h : (s.callers i).Within n) (hn : n ≤ turns.count i) :
    ∃ value, (s.afterTurns turns).callers i = .done value := by
  induction turns generalizing s n with
  | nil =>
    rw [Nat.le_zero.mp hn] at h
    exact Program.done_of_within_zero h
  | cons j turns ih =>
    rw [afterTurns_cons]
    by_cases hij : i = j
    · subst hij
      rw [List.count_cons_self] at hn
      exact ih (within_turn h) (by omega)
    · rw [List.count_cons_of_ne (Ne.symm hij)] at hn
      exact ih (by rwa [callers_turn_of_ne hij]) hn

end PlayerAccounts.Store.Shared
