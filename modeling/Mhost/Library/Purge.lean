/-!
# Actions that an observer does not see

An observer sees a view of the state. If the view after an action depends only on the view
before it, and the hidden actions leave the view as it is, the observer cannot tell a run
from the same run without its hidden actions: neither by what it sees in the end nor by what
it sees one after another. Nothing here names a particular system.
-/
namespace Mhost.Library
variable {σ α ν ο : Type}

/-- The two conditions, each about one step. -/
structure Unwinds (step : σ → α → σ) (view : σ → ν) (hidden : α → Bool) : Prop where
  respects : ∀ s t a, view s = view t → view (step s a) = view (step t a)
  silent : ∀ s a, hidden a = true → view (step s a) = view s

/-- The run without its hidden actions. -/
def purge (hidden : α → Bool) (actions : List α) : List α := actions.filter fun a => !hidden a

/-- What is observed one after another, from `s` on. -/
def changes [DecidableEq ο] (step : σ → α → σ) (observe : σ → ο) (s : σ) : List α → List ο
  | [] => []
  | a :: rest =>
      (if observe (step s a) = observe s then [] else [observe (step s a)]) ++
        changes step observe (step s a) rest

variable {step : σ → α → σ} {view : σ → ν} {hidden : α → Bool} {observe : σ → ο}

theorem Unwinds.view_purge (unwinds : Unwinds step view hidden) {s t : σ} (same : view s = view t)
    (actions : List α) :
    view (actions.foldl step s) = view ((purge hidden actions).foldl step t) := by
  induction actions generalizing s t with
  | nil => exact same
  | cons a rest ih =>
    cases kind : hidden a with
    | true =>
      have still : view (step s a) = view t := (unwinds.silent s a kind).trans same
      simpa [purge, kind] using ih still
    | false => simpa [purge, kind] using ih (unwinds.respects s t a same)

theorem Unwinds.changes_purge [DecidableEq ο] (unwinds : Unwinds step view hidden)
    (seen : ∀ s t, view s = view t → observe s = observe t) {s t : σ} (same : view s = view t)
    (actions : List α) :
    changes step observe s actions = changes step observe t (purge hidden actions) := by
  induction actions generalizing s t with
  | nil => rfl
  | cons a rest ih =>
    cases kind : hidden a with
    | true =>
      have still := unwinds.silent s a kind
      have unchanged : observe (step s a) = observe s := seen _ _ still
      simpa [changes, purge, kind, unchanged] using ih (still.trans same)
    | false =>
      have next := unwinds.respects s t a same
      have later : changes step observe (step s a) rest =
        changes step observe (step t a) (purge hidden rest) := ih next
      have first : purge hidden (a :: rest) = a :: purge hidden rest := by simp [purge, kind]
      rw [first, changes, changes, seen _ _ same, seen _ _ next, later]

/-- Two runs that differ in hidden actions only. -/
theorem Unwinds.view_eq (unwinds : Unwinds step view hidden) {s t : σ} (same : view s = view t)
    {left right : List α} (equal : purge hidden left = purge hidden right) :
    view (left.foldl step s) = view (right.foldl step t) := by
  rw [unwinds.view_purge rfl left, equal, ← unwinds.view_purge same.symm right]

theorem Unwinds.changes_eq [DecidableEq ο] (unwinds : Unwinds step view hidden)
    (seen : ∀ s t, view s = view t → observe s = observe t) {s t : σ} (same : view s = view t)
    {left right : List α} (equal : purge hidden left = purge hidden right) :
    changes step observe s left = changes step observe t right := by
  rw [unwinds.changes_purge seen rfl left, equal, ← unwinds.changes_purge seen same.symm right]

end Mhost.Library
