import Mathlib.Data.List.Basic

/-!
# Runs between separators, collected in a bounded buffer

A stream falls into runs between separators. A collector puts a run together element by element,
delivers it at its end, and starts afresh whenever its buffer outgrows a limit; so of a long run
the end is delivered, and how much of it depends on the length alone. Nothing here names a
particular stream.
-/
namespace Mhost.Library
variable {α : Type}

/-- What is left of a run in a buffer that is emptied at `limit + 1`. -/
def kept (limit : Nat) (run : List α) : List α :=
  run.drop (run.length - run.length % (limit + 1))

/-- For each run what is left of it, unless that is nothing. -/
def cut (limit : Nat) (sep : α → Bool) (stream : List α) : List (List α) :=
  ((stream.splitOnP sep).map (kept limit)).filter fun run => !run.isEmpty

structure Collector (α : Type) where
  buffer : List α := []
  lines : List (List α) := []

namespace Collector

def flush (c : Collector α) : Collector α :=
  if c.buffer.isEmpty then c else ⟨[], c.lines ++ [c.buffer]⟩

def take (limit : Nat) (sep : α → Bool) (c : Collector α) (a : α) : Collector α :=
  if sep a then c.flush
  else { c with buffer := if (c.buffer ++ [a]).length > limit then [] else c.buffer ++ [a] }

end Collector

variable {limit : Nat} {sep : α → Bool}

/-! ### What is kept of a run -/

theorem kept_length (run : List α) : (kept limit run).length = run.length % (limit + 1) := by
  have shorter := Nat.mod_le run.length (limit + 1)
  rw [kept, List.length_drop]
  omega

theorem kept_length_le (run : List α) : (kept limit run).length ≤ limit := by
  rw [kept_length]
  exact Nat.le_of_lt_succ (Nat.mod_lt _ (Nat.succ_pos limit))

/-- A run that fits is kept whole. -/
theorem kept_whole {run : List α} (fits : run.length ≤ limit) : kept limit run = run := by
  rw [kept, Nat.mod_eq_of_lt (Nat.lt_succ_of_le fits), Nat.sub_self, List.drop_zero]

/-- One more element fits, or empties the buffer. -/
theorem kept_snoc (run : List α) (a : α) :
    kept limit (run ++ [a]) =
      if (kept limit run ++ [a]).length > limit then [] else kept limit run ++ [a] := by
  have below : run.length % (limit + 1) < limit + 1 := Nat.mod_lt _ (Nat.succ_pos limit)
  have shorter := Nat.mod_le run.length (limit + 1)
  rw [List.length_append, kept_length, List.length_singleton]
  split
  next full =>
    have next : (run.length + 1) % (limit + 1) = 0 := by
      rw [Nat.add_mod, show run.length % (limit + 1) = limit by omega]
      rcases Nat.eq_zero_or_pos limit with rfl | some
      · rfl
      · rw [Nat.mod_eq_of_lt (show 1 < limit + 1 by omega), Nat.mod_self]
    rw [kept, List.length_append, List.length_singleton, next]
    exact List.drop_of_length_le (by simp)
  next room =>
    have next : (run.length + 1) % (limit + 1) = run.length % (limit + 1) + 1 := by
      rw [Nat.add_mod, Nat.mod_eq_of_lt (show 1 < limit + 1 by omega)]
      exact Nat.mod_eq_of_lt (by omega)
    rw [kept, kept, List.length_append, List.length_singleton, next,
      show run.length + 1 - (run.length % (limit + 1) + 1) = run.length - run.length % (limit + 1) by
        omega,
      List.drop_append_of_le_length (Nat.sub_le _ _)]

/-! ### The runs of a stream -/

/-- No run has a separator in it. -/
theorem run_plain {stream run : List α} (member : run ∈ stream.splitOnP sep) :
    ∀ a ∈ run, sep a = false := by
  induction stream generalizing run with
  | nil =>
    rw [List.splitOnP_nil, List.mem_singleton] at member
    simp [member]
  | cons b rest ih =>
    rw [List.splitOnP_cons_eq_if_modifyHead] at member
    split at member
    · rcases List.mem_cons.mp member with rfl | later
      · simp
      · exact ih later
    next plain =>
      cases runs : rest.splitOnP sep with
      | nil => simp [runs] at member
      | cons first others =>
        rw [runs, List.modifyHead_cons] at member
        rcases List.mem_cons.mp member with rfl | later
        · intro a inside
          rcases List.mem_cons.mp inside with rfl | inside
          · simpa using plain
          · exact ih (runs ▸ List.mem_cons_self) a inside
        · exact ih (runs ▸ List.mem_cons_of_mem _ later)

/-- Whatever is delivered is a line: not empty, not too long, without separators. -/
theorem cut_line {stream line : List α} (member : line ∈ cut limit sep stream) :
    line ≠ [] ∧ line.length ≤ limit ∧ ∀ a ∈ line, sep a = false := by
  obtain ⟨isKept, filled⟩ := List.mem_filter.mp member
  obtain ⟨run, isRun, rfl⟩ := List.mem_map.mp isKept
  exact ⟨by simpa using filled, kept_length_le run,
    fun a inside => run_plain isRun a (List.mem_of_mem_drop inside)⟩

theorem cut_run {run : List α} (plain : ∀ a ∈ run, sep a = false) :
    cut limit sep run = [kept limit run].filter fun run => !run.isEmpty := by
  rw [cut, List.splitOnP_eq_singleton plain, List.map_singleton]

theorem cut_first {run : List α} (plain : ∀ a ∈ run, sep a = false) {a : α} (ends : sep a = true)
    (rest : List α) :
    cut limit sep (run ++ a :: rest) =
      ([kept limit run].filter fun run => !run.isEmpty) ++ cut limit sep rest := by
  rw [cut, List.splitOnP_append_cons_of_forall_mem plain a ends, List.map_cons,
    ← List.singleton_append, List.filter_append]
  rfl

/-! ### The collector -/

namespace Collector

theorem flush_lines (c : Collector α) :
    c.flush.lines = c.lines ++ [c.buffer].filter fun run => !run.isEmpty := by
  unfold flush
  cases c.buffer <;> simp

theorem flush_buffer (c : Collector α) : c.flush.buffer = [] := by
  unfold flush
  split
  next empty => exact List.isEmpty_iff.mp empty
  next => rfl

variable (limit sep)

/-- The buffer holds what is kept of the run so far; at the end of the stream everything has been
delivered run by run. -/
theorem collected (stream run : List α) (plain : ∀ a ∈ run, sep a = false)
    (lines : List (List α)) :
    (stream.foldl (take limit sep) ⟨kept limit run, lines⟩).flush.lines =
      lines ++ cut limit sep (run ++ stream) := by
  induction stream generalizing run lines with
  | nil => rw [List.foldl_nil, flush_lines, List.append_nil, cut_run plain]
  | cons a rest ih =>
    rw [List.foldl_cons]
    by_cases ends : sep a = true
    · have flushed : take limit sep ⟨kept limit run, lines⟩ a =
          ⟨kept limit [], lines ++ [kept limit run].filter fun run => !run.isEmpty⟩ := by
        simp only [take, ends, if_true, flush]
        cases kept limit run <;> simp [kept]
      rw [flushed, ih [] (by simp), cut_first plain ends, List.append_assoc, List.nil_append]
    · have grown : take limit sep ⟨kept limit run, lines⟩ a = ⟨kept limit (run ++ [a]), lines⟩ := by
        simp only [take, ends, kept_snoc]
        rfl
      have still : ∀ b ∈ run ++ [a], sep b = false := by
        intro b member
        rcases List.mem_append.mp member with before | now
        · exact plain b before
        · rw [List.mem_singleton.mp now]
          exact Bool.eq_false_iff.mpr ends
      rw [grown, ih _ still, List.append_assoc]
      rfl

/-- Between two elements the buffer is within the limit. -/
theorem buffer_le (stream : List α) {c : Collector α} (within : c.buffer.length ≤ limit) :
    (stream.foldl (take limit sep) c).buffer.length ≤ limit := by
  apply List.foldlRecOn (motive := fun c : Collector α => c.buffer.length ≤ limit) stream _ within
  intro c before a _
  unfold take
  split
  · simp [flush_buffer]
  · dsimp only
    split
    · simp
    next room => omega

end Collector
end Mhost.Library
