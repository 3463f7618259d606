/-!
# Machines whose steps can fault

A machine takes actions one after another; a step gives the next state or a fault. The
rules below carry a property through whole runs: an invariant that permitted actions
preserve, and, where every other action breaks the property at once, the exact
condition under which a run keeps it. Nothing here names a particular machine.
-/
namespace Mhost.Library

structure Machine (σ α ε : Type) where
  step : σ → α → Except ε σ

namespace Machine
variable {σ α ε : Type} (m : Machine σ α ε)

def run (s : σ) : List α → Except ε σ
  | [] => .ok s
  | a :: rest =>
      match m.step s a with
      | .ok next => run next rest
      | .error fault => .error fault

/-- The run faults nowhere, and `good` holds in every state it goes through. -/
def Always (good : σ → Prop) (s : σ) : List α → Prop
  | [] => good s
  | a :: rest => good s ∧ ∃ next, m.step s a = .ok next ∧ Always good next rest

/-- Every action is permitted in the state in which it is taken. -/
def Allowed (permitted : σ → α → Prop) (s : σ) : List α → Prop
  | [] => True
  | a :: rest => permitted s a ∧ ∀ next, m.step s a = .ok next → Allowed permitted next rest

variable {m} {good inv : σ → Prop} {permitted : σ → α → Prop}

theorem Always.ends {s : σ} {actions : List α} (always : m.Always good s actions) :
    ∃ final, m.run s actions = .ok final ∧ good final := by
  induction actions generalizing s with
  | nil => exact ⟨s, rfl, always⟩
  | cons a rest ih =>
    obtain ⟨_, next, taken, later⟩ := always
    obtain ⟨final, ran, holds⟩ := ih later
    exact ⟨final, by simp [run, taken, ran], holds⟩

theorem not_always_of_fault {s : σ} {actions : List α} {fault : ε}
    (faults : m.run s actions = .error fault) : ¬ m.Always good s actions := by
  intro always
  obtain ⟨final, ran, _⟩ := always.ends
  simp [faults] at ran

/-- A run that does not fault, one action at a time. -/
theorem run_cons {s final : σ} {a : α} {rest : List α} :
    m.run s (a :: rest) = .ok final ↔ ∃ next, m.step s a = .ok next ∧ m.run next rest = .ok final := by
  rw [run]
  cases m.step s a with
  | error fault => simp
  | ok next => simp

/-- What every step keeps holds at the end of a run. -/
theorem run_keeps (keeps : ∀ s a next, inv s → m.step s a = .ok next → inv next) {s final : σ}
    (before : inv s) {actions : List α} (ran : m.run s actions = .ok final) : inv final := by
  induction actions generalizing s with
  | nil =>
    cases ran
    exact before
  | cons a rest ih =>
    obtain ⟨next, taken, ran⟩ := run_cons.mp ran
    exact ih (keeps s a next before taken) ran

/-- A run goes on where its first part ended. -/
theorem run_append {s mid : σ} {first : List α} (ran : m.run s first = .ok mid)
    (rest : List α) : m.run s (first ++ rest) = m.run mid rest := by
  induction first generalizing s with
  | nil =>
    cases ran
    rfl
  | cons a more ih =>
    obtain ⟨next, taken, ran⟩ := run_cons.mp ran
    simp only [List.cons_append, run, taken]
    exact ih ran

theorem Allowed.cons {s next : σ} {a : α} {rest : List α} (now : permitted s a)
    (taken : m.step s a = .ok next) (later : m.Allowed permitted next rest) :
    m.Allowed permitted s (a :: rest) := by
  refine ⟨now, fun next' taken' => ?_⟩
  cases taken.symm.trans taken'
  exact later

theorem run_split {s final : σ} {first rest : List α}
    (ran : m.run s (first ++ rest) = .ok final) :
    ∃ mid, m.run s first = .ok mid ∧ m.run mid rest = .ok final := by
  induction first generalizing s with
  | nil => exact ⟨s, rfl, ran⟩
  | cons a more ih =>
    obtain ⟨next, taken, ran⟩ := run_cons.mp ran
    obtain ⟨mid, reached, ends⟩ := ih ran
    exact ⟨mid, run_cons.mpr ⟨next, taken, reached⟩, ends⟩

theorem allowed_append {s mid : σ} {first : List α} (ran : m.run s first = .ok mid)
    (rest : List α) :
    m.Allowed permitted s (first ++ rest) ↔
      m.Allowed permitted s first ∧ m.Allowed permitted mid rest := by
  induction first generalizing s with
  | nil =>
    cases ran
    exact ⟨fun later => ⟨trivial, later⟩, And.right⟩
  | cons a more ih =>
    obtain ⟨next, taken, ran⟩ := run_cons.mp ran
    simp only [List.cons_append, Allowed, taken, Except.ok.injEq, forall_eq', ih ran, and_assoc]

/-- The invariant rule. -/
theorem always_of_allowed (implies : ∀ s, inv s → good s)
    (preserved : ∀ s a, inv s → permitted s a → ∃ next, m.step s a = .ok next ∧ inv next)
    {s : σ} (start : inv s) (actions : List α) (allowed : m.Allowed permitted s actions) :
    m.Always good s actions := by
  induction actions generalizing s with
  | nil => exact implies s start
  | cons a rest ih =>
    obtain ⟨next, taken, kept⟩ := preserved s a start allowed.1
    exact ⟨implies s start, next, taken, ih kept (allowed.2 next taken)⟩

/-- The invariant rule where every action is permitted. -/
theorem always_of_kept (implies : ∀ s, inv s → good s)
    (preserved : ∀ s a, inv s → ∃ next, m.step s a = .ok next ∧ inv next) {s : σ} (start : inv s)
    (actions : List α) : m.Always good s actions := by
  induction actions generalizing s with
  | nil => exact implies s start
  | cons a rest ih =>
    obtain ⟨next, taken, kept⟩ := preserved s a start
    exact ⟨implies s start, next, taken, ih kept⟩

theorem Always.holds {s : σ} {actions : List α} (always : m.Always good s actions) : good s := by
  cases actions with
  | nil => exact always
  | cons => exact always.1

/-- The exact rule: when an action that is not permitted never leads to a good state,
the runs that stay good are the runs of permitted actions. -/
theorem always_iff_allowed (implies : ∀ s, inv s → good s)
    (preserved : ∀ s a, inv s → permitted s a → ∃ next, m.step s a = .ok next ∧ inv next)
    (broken : ∀ s a next, inv s → ¬ permitted s a → m.step s a = .ok next → ¬ good next)
    {s : σ} (start : inv s) (actions : List α) :
    m.Always good s actions ↔ m.Allowed permitted s actions := by
  constructor
  · intro always
    induction actions generalizing s with
    | nil => trivial
    | cons a rest ih =>
      obtain ⟨_, next, taken, later⟩ := always
      have allowed : permitted s a :=
        Classical.byContradiction fun forbidden => broken s a next start forbidden taken later.holds
      refine ⟨allowed, fun next' taken' => ?_⟩
      cases taken.symm.trans taken'
      obtain ⟨kept, step, invariant⟩ := preserved s a start allowed
      cases taken.symm.trans step
      exact ih invariant later
  · exact always_of_allowed implies preserved start actions

end Machine
end Mhost.Library
