/-!
# Consumers that can be stopped and resumed

A consumer takes a stream in pieces, keeps a state between pieces and emits
outputs. It is resumable when one piece cut in two gives the outputs and the
state of the uncut piece; then no way of cutting a stream can be observed.
Nothing here names a particular consumer.
-/
namespace Mhost.Library

/-- One call consumes one piece and returns the next state and its outputs. -/
structure Consumer (σ α ω : Type) where
  feed : σ → List α → σ × List ω

namespace Consumer
variable {σ α ω : Type}

/-- Feed the pieces one after another; outputs are concatenated in order. -/
def feedAll (c : Consumer σ α ω) : σ → List (List α) → σ × List ω
  | s, [] => (s, [])
  | s, piece :: rest =>
      let (s', out) := c.feed s piece
      let (s'', more) := c.feedAll s' rest
      (s'', out ++ more)

/-- `settled` holds between calls; there the empty piece changes nothing, and a
piece may be cut anywhere. -/
structure Resumable (c : Consumer σ α ω) (settled : σ → Prop) : Prop where
  feed_settles : ∀ s piece, settled (c.feed s piece).1
  feed_nil : ∀ s, settled s → c.feed s [] = (s, [])
  feed_append : ∀ s a b, c.feed s (a ++ b) =
    ((c.feed (c.feed s a).1 b).1, (c.feed s a).2 ++ (c.feed (c.feed s a).1 b).2)

theorem feedAll_cons (c : Consumer σ α ω) (s : σ) (piece : List α) (rest : List (List α)) :
    c.feedAll s (piece :: rest) =
      ((c.feedAll (c.feed s piece).1 rest).1,
        (c.feed s piece).2 ++ (c.feedAll (c.feed s piece).1 rest).2) := rfl

theorem feedAll_snoc (c : Consumer σ α ω) (s : σ) (pieces : List (List α)) (piece : List α) :
    c.feedAll s (pieces ++ [piece]) =
      ((c.feed (c.feedAll s pieces).1 piece).1,
        (c.feedAll s pieces).2 ++ (c.feed (c.feedAll s pieces).1 piece).2) := by
  induction pieces generalizing s with
  | nil => simp [feedAll]
  | cons first rest ih => simp only [List.cons_append, feedAll_cons, ih, List.append_assoc]

theorem Resumable.feedAll_settles {c : Consumer σ α ω} {settled : σ → Prop}
    (resumable : c.Resumable settled) (s : σ) (start : settled s) (pieces : List (List α)) :
    settled (c.feedAll s pieces).1 := by
  induction pieces generalizing s with
  | nil => exact start
  | cons piece rest ih =>
    rw [feedAll_cons]
    exact ih _ (resumable.feed_settles s piece)

/-- No cut of a stream can be told from the uncut stream. -/
theorem Resumable.feedAll_flatten {c : Consumer σ α ω} {settled : σ → Prop}
    (resumable : c.Resumable settled) (s : σ) (start : settled s) (pieces : List (List α)) :
    c.feedAll s pieces = c.feed s pieces.flatten := by
  induction pieces generalizing s with
  | nil => exact (resumable.feed_nil s start).symm
  | cons piece rest ih =>
    rw [feedAll_cons, ih _ (resumable.feed_settles s piece), List.flatten_cons,
      resumable.feed_append]

/-- A first part of a piece emits a first part of the outputs. -/
theorem Resumable.feed_isPrefix {c : Consumer σ α ω} {settled : σ → Prop}
    (resumable : c.Resumable settled) (s : σ) {first whole : List α} (part : first <+: whole) :
    (c.feed s first).2 <+: (c.feed s whole).2 := by
  obtain ⟨rest, rfl⟩ := part
  rw [resumable.feed_append]
  exact List.prefix_append _ _

end Consumer
end Mhost.Library
