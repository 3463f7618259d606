/-!
# Callbacks that call back

An object calls its owner, and before that call returns the owner may call the object. A
reaction is what the owner does meanwhile. A watch is kept beside the owner: it notes when
the object is destroyed while one of its callbacks is running. Nothing here names a
particular object.
-/
namespace Mhost.Library
variable {σ τ κ : Type}

/-- What a callback does before it returns, to the owner `τ` and by calls `κ` of the object
`σ`; each call is chosen after the one before it has returned. -/
inductive Reaction (σ τ κ : Type) where
  | returns
  | own (change : τ → τ) (next : Reaction σ τ κ)
  | call (c : κ) (next : σ → τ → Reaction σ τ κ)

namespace Reaction

def run (make : κ → σ × τ → σ × τ) : Reaction σ τ κ → σ × τ → σ × τ
  | .returns, s => s
  | .own change next, s => next.run make (s.1, change s.2)
  | .call c next, s => (next (make c s).1 (make c s).2).run make (make c s)

/-- Every call is permitted in the state in which it is made. -/
def Within (make : κ → σ × τ → σ × τ) (permitted : κ → σ × τ → Prop) :
    Reaction σ τ κ → σ × τ → Prop
  | .returns, _ => True
  | .own change next, s => next.Within make permitted (s.1, change s.2)
  | .call c next, s =>
      permitted c s ∧ (next (make c s).1 (make c s).2).Within make permitted (make c s)

theorem run_keeps {make : κ → σ × τ → σ × τ} {inv : σ × τ → Prop}
    (owned : ∀ p t t', inv (p, t) → inv (p, t')) (called : ∀ c s, inv s → inv (make c s))
    (r : Reaction σ τ κ) {s : σ × τ} (before : inv s) : inv (r.run make s) := by
  induction r generalizing s with
  | returns => exact before
  | own change next ih => exact ih (owned s.1 s.2 _ before)
  | call c next ih => exact ih _ _ (called c s before)

end Reaction

/-! ### The watch -/

/-- `handling`: a callback of the object that is there now is running. `torn`: some object
was destroyed under its own callback. -/
structure Watched (τ : Type) where
  owner : τ
  handling : Bool := false
  torn : Bool := false
  deriving DecidableEq, Repr

/-- The object is destroyed. -/
def Watched.reset (w : Watched τ) : Watched τ :=
  { w with handling := false, torn := w.torn || w.handling }

/-- The state without the watch. -/
def unwatched (s : σ × Watched τ) : σ × τ := (s.1, s.2.owner)

/-- One callback of the object, if it is there to be called. -/
def during (there : σ → Bool) (callback : σ × Watched τ → σ × Watched τ) (s : σ × Watched τ) :
    σ × Watched τ :=
  let s := callback (s.1, { s.2 with handling := there s.1 })
  (s.1, { s.2 with handling := false })

/-- The same reaction; the owner does not see the watch. -/
def Reaction.watched : Reaction σ τ κ → Reaction σ (Watched τ) κ
  | .returns => .returns
  | .own change next => .own (fun w => { w with owner := change w.owner }) next.watched
  | .call c next => .call c fun p w => (next p w.owner).watched

/-- An object was destroyed under its own callback. -/
def Torn (s : σ × Watched τ) : Prop := s.2.torn = true

/-- What was permitted has left the invariant; what was not has destroyed the object. -/
structure Guarded (inv : σ × Watched τ → Prop) (permitted : Prop) (s : σ × Watched τ) : Prop where
  intact : permitted → inv s
  torn : ¬ permitted → Torn s

section
variable {inv : σ × Watched τ → Prop} {make : κ → σ × Watched τ → σ × Watched τ}

theorem Guarded.andThen {p q : Prop} {s : σ × Watched τ} {next : σ × Watched τ → σ × Watched τ}
    (first : Guarded inv p s) (stays : Torn s → Torn (next s))
    (later : inv s → Guarded inv q (next s)) : Guarded inv (p ∧ q) (next s) where
  intact both := (later (first.intact both.1)).intact both.2
  torn not := by
    by_cases permitted : p
    · exact (later (first.intact permitted)).torn fun rest => not ⟨permitted, rest⟩
    · exact stays (first.torn permitted)

theorem Guarded.of_kept {s : σ × Watched τ} {p : Prop} (permitted : p) (kept : inv s) :
    Guarded inv p s := ⟨fun _ => kept, fun not => absurd permitted not⟩

theorem Guarded.of_torn {s : σ × Watched τ} {p : Prop} (forbidden : ¬ p)
    (torn : Torn s) : Guarded inv p s := ⟨fun permitted => absurd permitted forbidden, fun _ => torn⟩

namespace Reaction

theorem watched_keeps (owned : ∀ p w owner, inv (p, w) → inv (p, { w with owner }))
    (called : ∀ c s, inv s → inv (make c s)) (r : Reaction σ τ κ) {s : σ × Watched τ}
    (before : inv s) : inv (r.watched.run make s) := by
  induction r generalizing s with
  | returns => exact before
  | own change next ih => exact ih (owned s.1 s.2 _ before)
  | call c next ih => exact ih _ _ (called c s before)

variable {real : κ → σ × τ → σ × τ} (same : ∀ c s, unwatched (make c s) = real c (unwatched s))
include same

theorem watched_run (r : Reaction σ τ κ) (s : σ × Watched τ) :
    unwatched (r.watched.run make s) = r.run real (unwatched s) := by
  induction r generalizing s with
  | returns => rfl
  | own change next ih => exact ih _
  | call c next ih =>
    rw [run, ← same]
    exact ih _ _ _

/-- The calls of a reaction leave the invariant exactly when each of them is permitted. -/
theorem watched_guarded {permitted : κ → σ × τ → Prop}
    (owned : ∀ p w owner, inv (p, w) → inv (p, { w with owner }))
    (called : ∀ c s, inv s → Guarded inv (permitted c (unwatched s)) (make c s))
    (stays : ∀ c s, Torn s → Torn (make c s))
    (r : Reaction σ τ κ) {s : σ × Watched τ} (before : inv s) :
    Guarded inv (r.Within real permitted (unwatched s)) (r.watched.run make s) := by
  induction r generalizing s with
  | returns => exact .of_kept trivial before
  | own change next ih => exact ih (owned s.1 s.2 _ before)
  | call c next ih =>
    rw [Within, ← same]
    refine (called c s before).andThen (fun torn => ?_) fun kept => ih _ _ kept
    exact watched_keeps (fun _ _ _ torn => torn) stays (next _ _) torn

end Reaction
end
end Mhost.Library
