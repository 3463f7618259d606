import Mathlib.Algebra.Ring.Nat
import Mhost.Log.AsyncRotation
import Mhost.Log.AsyncShutdown

/-!
# What survives a log storm

AsyncLogging.cc:31-46 and 83-109. `append` and the swap both push at the back, so the blocks of an
iteration stand in the order in which they were filled. Of more than 25 the comment keeps the
newest two; `erase(begin() + 2, end())` keeps the oldest two.
-/
namespace Mhost.Log.AsyncLogging
open Library (Text utf8 decimal)

/-- What one iteration hands to `LogFile::append`, call by call. -/
def handed (stamp : Text) (v : List (Option Buffer)) : Except Fault (List (List UInt8)) := do
  let (notice, kept) := dropStorm stamp v
  return notice ++ (← writeAll kept)

/-- Of more than 25 blocks a notice and the newest two, of fewer all. -/
def HandsNewest (stamp : Text) (v : List (Option Buffer)) (pieces : List (List UInt8)) : Prop :=
  pieces.flatten =
    if v.length > 25 then dropNotice stamp (v.length - 2) ++ held (v.drop (v.length - 2))
    else held v

def standsAt (s : AsyncLogging) (place : Place) : Bool := s.thread.any (·.place = place)

/-- The block that a step takes from the front end, filled up or swapped out. -/
def filledBy (s : AsyncLogging) : Step → List (Option Buffer)
  | .append logline =>
      match s.currentBuffer with
      | some current => if current.avail > logline.length then [] else [some current]
      | none => []
  | .lock => if s.standsAt .locking ∧ s.buffers ≠ [] then [s.currentBuffer] else []
  | .wake => if s.standsAt .sleeping then [s.currentBuffer] else []
  | _ => []

/-- The blocks of a run, in the order in which they were filled. -/
def filled (build : Build) (s : AsyncLogging) : List Step → List (Option Buffer)
  | [] => []
  | a :: rest =>
      filledBy s a ++
        match step build s a with
        | .ok next => filled build next rest
        | .error _ => []

/-- The blocks that the background thread has in hand. -/
def taken (s : AsyncLogging) : List (Option Buffer) := (s.thread.map (·.buffersToWrite)).getD []

/-- Earlier iterations took the oldest blocks, then come those in hand, then those at the front. -/
structure InOrder (all : List (Option Buffer)) (s : AsyncLogging) : Prop where
  order : ∃ earlier, all = earlier ++ taken s ++ s.buffers
  idle : ∀ t, s.thread = some t → t.place ≠ .writing → t.buffersToWrite = []

theorem InOrder.fresh : InOrder [] {} where
  order := ⟨[], rfl⟩
  idle t runs := by cases runs

/-! ### One iteration -/

theorem recycle_idle (t t' : Thread) (recycled : recycle t = .ok t') : t'.buffersToWrite = [] := by
  rw [recycle_eq] at recycled
  obtain ⟨_, _, recycled⟩ := bind_ok recycled
  obtain ⟨_, _, recycled⟩ := bind_ok recycled
  cases recycled
  rfl

/-- An iteration appends what it hands over to the output, and leaves no block in hand. -/
theorem finish_handed (build : Build) (stamp : Text) (s next : AsyncLogging) (t : Thread)
    (ran : s.finishIteration build stamp t = .ok next) :
    ∃ pieces t', handed stamp t.buffersToWrite = .ok pieces ∧ t'.buffersToWrite = [] ∧
      next = { s with thread := some t', output := s.output ++ pieces } := by
  obtain ⟨notice, kept, written, t', storm, wrote, recycled, rfl⟩ := finish_ok build stamp s next t ran
  refine ⟨notice ++ written, { t' with place := if s.running then .locking else .exited }, ?_,
    recycle_idle _ t' recycled, rfl⟩
  simp only [handed, storm, wrote, bind, Except.bind, pure, Except.pure]

theorem handed_flatten (stamp : Text) (v : List (Option Buffer)) (pieces : List (List UInt8))
    (hands : handed stamp v = .ok pieces) :
    pieces.flatten =
      if v.length > 25 then dropNotice stamp (v.length - 2) ++ held (v.take 2) else held v := by
  unfold handed at hands
  split
  next many =>
    rw [dropStorm_many stamp v many] at hands
    obtain ⟨written, wrote, hands⟩ := bind_ok hands
    cases hands
    rw [List.flatten_append, writeAll_held _ written wrote]
    simp
  next few =>
    rw [dropStorm_few stamp v (Nat.le_of_not_lt few)] at hands
    obtain ⟨written, wrote, hands⟩ := bind_ok hands
    cases hands
    exact writeAll_held v written wrote

theorem handsNewest_iff (stamp : Text) (v : List (Option Buffer)) (pieces : List (List UInt8))
    (hands : handed stamp v = .ok pieces) :
    HandsNewest stamp v pieces ↔
      v.length ≤ 25 ∨ held (v.take 2) = held (v.drop (v.length - 2)) := by
  rw [HandsNewest, handed_flatten stamp v pieces hands]
  by_cases storm : v.length > 25
  · rw [if_pos storm, if_pos storm, List.append_cancel_left_eq]
    exact ⟨.inr, fun either => either.resolve_left (Nat.not_le.mpr storm)⟩
  · rw [if_neg storm, if_neg storm]
    exact ⟨fun _ => .inl (Nat.le_of_not_lt storm), fun _ => rfl⟩

/-- A time stamp of 24 bytes leaves room for more than any count that fits in a `size_t`. -/
theorem dropNotice_whole (stamp : Text) (dropped : Nat) (short : stamp.length ≤ 33)
    (counted : dropped < 10 ^ 20) :
    dropNotice stamp dropped = utf8 "Dropped log messages at " ++ stamp ++ utf8 ": " ++
      decimal dropped ++ utf8 " larger buffers\n" := by
  have digits : (decimal dropped).length ≤ 20 := by
    rw [Library.decimal_length, Nat.length_toDigits_le_iff (by decide) (by decide)]
    exact counted
  have head : (utf8 "Dropped log messages at ").length = 24 := rfl
  have colon : (utf8 ": ").length = 2 := rfl
  have tail : (utf8 " larger buffers\n").length = 16 := rfl
  rw [dropNotice, List.take_of_length_le]
  simp only [List.length_append, head, colon, tail]
  omega

/-! ### The order of the blocks -/

theorem swap_inOrder {all : List (Option Buffer)} {s : AsyncLogging} {t : Thread}
    (inOrder : InOrder all s) (runs : s.thread = some t) (waiting : t.place ≠ .writing) :
    InOrder (all ++ [s.currentBuffer]) (s.swapBuffers t) := by
  obtain ⟨earlier, order⟩ := inOrder.order
  have idle := inOrder.idle t runs waiting
  have none : taken s = [] := by simp [taken, runs, idle]
  rw [none, List.append_nil] at order
  unfold swapBuffers
  simp only [idle]
  split
  · refine ⟨⟨earlier, ?_⟩, ?_⟩
    · simp [taken, order]
    · rintro t' ⟨⟩ away
      exact absurd rfl away
  · refine ⟨⟨earlier, ?_⟩, ?_⟩
    · simp [taken, order]
    · rintro t' ⟨⟩ away
      exact absurd rfl away

/-- A thread that goes on with no block in hand keeps the order. -/
theorem InOrder.goesOn {all : List (Option Buffer)} {s next : AsyncLogging}
    (inOrder : InOrder all s) (buffers : next.buffers = s.buffers)
    (idle : ∀ t, next.thread = some t → t.buffersToWrite = []) : InOrder all next := by
  obtain ⟨earlier, order⟩ := inOrder.order
  have none : taken next = [] := by
    unfold taken
    cases runs : next.thread with
    | none => rfl
    | some t => exact idle t runs
  exact ⟨⟨earlier ++ taken s, by rw [none, buffers, order, List.append_nil]⟩,
    fun t runs _ => idle t runs⟩

theorem append_inOrder {all : List (Option Buffer)} {s next : AsyncLogging}
    (inOrder : InOrder all s) (logline : List UInt8) (ran : s.append logline = .ok next) :
    InOrder (all ++ filledBy s (.append logline)) next := by
  obtain ⟨earlier, order⟩ := inOrder.order
  unfold append at ran
  cases here : s.currentBuffer with
  | none => simp [here, deref, bind, Except.bind] at ran
  | some current =>
    simp only [here, deref, bind, Except.bind, pure, Except.pure] at ran
    simp only [filledBy, here]
    split at ran
    next room =>
      cases ran
      rw [if_pos room, List.append_nil]
      exact ⟨⟨earlier, order⟩, inOrder.idle⟩
    next tight =>
      rw [if_neg tight]
      split at ran <;> cases ran <;>
        exact ⟨⟨earlier, by simp [taken, order]⟩, inOrder.idle⟩

/-- A step that finds its thread elsewhere takes no block. -/
theorem filledBy_away {s : AsyncLogging} {a : Step} (other : ∀ logline, a ≠ .append logline)
    (away : ∀ place, a.place? = some place → ∀ t, s.thread = some t → t.place ≠ place) :
    filledBy s a = [] := by
  have nobody {place : Place} (own : a.place? = some place) : s.standsAt place = false := by
    cases runs : s.thread with
    | none => simp [standsAt, runs]
    | some t => simp [standsAt, runs, away place own t runs]
  cases a with
  | append logline => exact absurd rfl (other logline)
  | lock => simp [filledBy, nobody rfl]
  | wake => simp [filledBy, nobody rfl]
  | start | stopFlag | join | enter | write => rfl

theorem step_inOrder (build : Build) {all : List (Option Buffer)} {s next : AsyncLogging} {a : Step}
    (inOrder : InOrder all s) (ran : step build s a = .ok next) :
    InOrder (all ++ filledBy s a) next := by
  cases step_cases build ran with
  | idle other away =>
    rw [filledBy_away other away, List.append_nil]
    exact inOrder
  | appended put => exact append_inOrder inOrder _ put
  | started =>
    simp only [filledBy, List.append_nil]
    exact inOrder.goesOn rfl (fun t here => by cases here; rfl)
  | told =>
    simp only [filledBy, List.append_nil]
    exact ⟨inOrder.order, inOrder.idle⟩
  | joined =>
    simp only [filledBy, List.append_nil]
    exact inOrder.goesOn rfl (fun t here => by cases here)
  | @entered t runs place =>
    simp only [filledBy, List.append_nil]
    refine inOrder.goesOn rfl (fun t' here => ?_)
    cases here
    exact inOrder.idle t runs (by simp [place])
  | @slept t runs place empty =>
    have silent : filledBy s .lock = [] := by simp [filledBy, empty]
    rw [silent, List.append_nil]
    refine inOrder.goesOn rfl (fun t' here => ?_)
    cases here
    exact inOrder.idle t runs (by simp [place])
  | swapped runs place pending =>
    have swapped : filledBy s .lock = [s.currentBuffer] := by
      simp [filledBy, standsAt, runs, place, pending]
    rw [swapped]
    exact swap_inOrder inOrder runs (by simp [place])
  | woken runs place =>
    have swapped : filledBy s .wake = [s.currentBuffer] := by
      simp [filledBy, standsAt, runs, place]
    rw [swapped]
    exact swap_inOrder inOrder runs (by simp [place])
  | @wrote stamp t _ runs place finish =>
    obtain ⟨pieces, t', _, empty, rfl⟩ := finish_handed build stamp s next t finish
    simp only [filledBy, List.append_nil]
    exact inOrder.goesOn rfl (fun t'' here => by cases here; exact empty)

theorem run_inOrder (build : Build) {all : List (Option Buffer)} {s final : AsyncLogging}
    (inOrder : InOrder all s) (steps : List Step) (ran : (machine build).run s steps = .ok final) :
    InOrder (all ++ filled build s steps) final := by
  induction steps generalizing s all with
  | nil =>
    cases ran
    rw [filled, List.append_nil]
    exact inOrder
  | cons a rest ih =>
    obtain ⟨next, moved, ran⟩ := Library.Machine.run_cons.mp ran
    have moved : step build s a = .ok next := moved
    have later := ih (step_inOrder build inOrder moved) ran
    rw [List.append_assoc] at later
    simpa only [filled, moved] using later

/-! ### A storm of 26 blocks -/

/-- Asleep while 24976 records of 4000 bytes fill 25 blocks and begin another one, and woken. -/
def storm : List Step :=
  [.start, .enter, .lock] ++ List.replicate 1000 (.append burstLine) ++
    (List.replicate 24 (List.replicate 999 (Step.append burstLine))).flatten ++ [.wake]

/-- The same, but 998 more records fill up the begun block before the thread is woken. -/
def evenStorm : List Step :=
  [.start, .enter, .lock] ++ List.replicate 1000 (.append burstLine) ++
    (List.replicate 24 (List.replicate 999 (Step.append burstLine))).flatten ++
    List.replicate 998 (.append burstLine) ++ [.wake]

theorem blocks_filled (build : Build) (k : Nat) (s : AsyncLogging) (b : Buffer)
    (here : s.currentBuffer = some b) (begun : b.data = records 1) (spare : s.nextBuffer = none) :
    ∃ (full : List Buffer) (current : Buffer), full.length = k ∧
      (∀ block ∈ full, block.data = records 999) ∧ current.data = records 1 ∧
      (machine build).run s (List.replicate k (List.replicate 999 (.append burstLine))).flatten =
        .ok { s with buffers := s.buffers ++ full.map some, currentBuffer := some current } := by
  induction k generalizing s b with
  | zero => exact ⟨[], b, rfl, by simp, begun, by simp [Library.Machine.run, ← here]⟩
  | succ k ih =>
    obtain ⟨first, next, whole, start, ran⟩ := block_filled build 1 (by decide) s b here begun
      (fun buffer some_ => by simp [spare] at some_)
    obtain ⟨full, current, count, wholes, last, more⟩ := ih
      { s with buffers := s.buffers ++ [some first], currentBuffer := some next, nextBuffer := none }
      next rfl start rfl
    refine ⟨first :: full, current, by simp [count], List.forall_mem_cons.mpr ⟨whole, wholes⟩, last,
      ?_⟩
    rw [List.replicate_succ, List.flatten_cons, Library.Machine.run_append ran, more]
    simp [spare]

/-- 26 blocks are in hand: 25 with 999 records, and the begun one with `k` more than its first. -/
theorem storm_taken (build : Build) (k : Nat) (room : 1 + k ≤ 999) :
    ∃ (s : AsyncLogging) (t : Thread) (full : List Buffer) (current : Buffer),
      (machine build).run {} ([.start, .enter, .lock] ++
        List.replicate 1000 (.append burstLine) ++
        (List.replicate 24 (List.replicate 999 (Step.append burstLine))).flatten ++
        List.replicate k (.append burstLine) ++ [.wake]) = .ok s ∧ s.thread = some t ∧
      t.place = .writing ∧ t.buffersToWrite = full.map some ++ [some current] ∧ full.length = 25 ∧
      (∀ block ∈ full, block.data = records 999) ∧ current.data = records (1 + k) := by
  let asleep : AsyncLogging := { running := true, thread := some { place := .sleeping } }
  have awake : (machine build).run {} [.start, .enter, .lock] = .ok asleep := by
    cases build <;> rfl
  obtain ⟨b1, c, whole, start, first⟩ := block_filled build 0 (by decide) asleep {} rfl rfl
    (fun spare here => by cases here; rfl)
  obtain ⟨full, begun, count, wholes, one, more⟩ := blocks_filled build 24
    { asleep with
      buffers := asleep.buffers ++ [some b1], currentBuffer := some c, nextBuffer := none } c rfl
    start rfl
  obtain ⟨current, last, filled⟩ := appends_within build k 1 room
    { asleep with
      buffers := asleep.buffers ++ [some b1] ++ full.map some, currentBuffer := some begun
      nextBuffer := none } begun rfl one
  let t : Thread :=
    { place := .writing, newBuffer1 := none, newBuffer2 := none
      buffersToWrite := (b1 :: full).map some ++ [some current] }
  refine ⟨{ running := true, thread := some t }, t, b1 :: full, current, ?_, rfl, rfl, rfl,
    by simp [count], List.forall_mem_cons.mpr ⟨whole, wholes⟩, last⟩
  rw [List.append_assoc, List.append_assoc, List.append_assoc, Library.Machine.run_append awake,
    Library.Machine.run_append first, Library.Machine.run_append more,
    Library.Machine.run_append filled]
  rfl

theorem held_records (k : Nat) (blocks : List Buffer)
    (whole : ∀ block ∈ blocks, block.data = records k) :
    held (blocks.map some) = records (blocks.length * k) := by
  induction blocks with
  | nil => simp [held, records]
  | cons block rest ih =>
    obtain ⟨first, later⟩ := List.forall_mem_cons.mp whole
    rw [List.map_cons, ← List.singleton_append, held_append, held_some, first, ih later,
      records_append, List.length_cons, Nat.succ_mul, Nat.add_comm]

/-- Of 26 blocks the notice counts 24, and two are written. -/
theorem handed_storm (stamp : Text) (full : List Buffer) (current : Buffer)
    (count : full.length = 25) :
    ∃ pieces, handed stamp (full.map some ++ [some current]) = .ok pieces := by
  have many : (full.map some ++ [some current]).length > 25 := by simp [count]
  obtain ⟨written, wrote⟩ := writeAll_some ((full.map some ++ [some current]).take 2)
    fun ptr member => by
      rcases List.mem_append.mp (List.mem_of_mem_take member) with earlier | last
      · obtain ⟨block, _, rfl⟩ := List.mem_map.mp earlier
        rfl
      · rw [List.mem_singleton.mp last]
        rfl
  refine ⟨[dropNotice stamp ((full.map some ++ [some current]).length - 2)] ++ written, ?_⟩
  unfold handed
  rw [dropStorm_many stamp _ many]
  simp only [wrote, bind, Except.bind, pure, Except.pure]

/-! ### Runs -/

/-- In every run, the blocks of an iteration are consecutive in the order of filling, and what it
hands over goes to the log file. That is the newest data if and only if the iteration took at most
25 blocks, or its oldest two blocks and its newest two hold the same bytes. -/
theorem storm_keeps_newest_iff (build : Build) (steps : List Step) (s : AsyncLogging) (t : Thread)
    (stamp : Text) (pieces : List (List UInt8)) (ran : (machine build).run {} steps = .ok s)
    (runs : s.thread = some t) (place : t.place = .writing)
    (hands : handed stamp t.buffersToWrite = .ok pieces) :
    (∃ earlier, filled build {} steps = earlier ++ t.buffersToWrite ++ s.buffers) ∧
      (∀ next, (machine build).step s (.write stamp) = .ok next →
        next.output = s.output ++ pieces) ∧
      (HandsNewest stamp t.buffersToWrite pieces ↔ t.buffersToWrite.length ≤ 25 ∨
        held (t.buffersToWrite.take 2) =
          held (t.buffersToWrite.drop (t.buffersToWrite.length - 2))) ∧
      (stamp.length ≤ 33 → t.buffersToWrite.length < 10 ^ 20 →
        dropNotice stamp (t.buffersToWrite.length - 2) =
          utf8 "Dropped log messages at " ++ stamp ++ utf8 ": " ++
            decimal (t.buffersToWrite.length - 2) ++ utf8 " larger buffers\n") := by
  refine ⟨?_, fun next moved => ?_, handsNewest_iff stamp _ pieces hands,
    fun short few => dropNotice_whole stamp _ short (by omega)⟩
  · obtain ⟨earlier, order⟩ := (run_inOrder build .fresh steps ran).order
    have inHand : taken s = t.buffersToWrite := by simp [taken, runs]
    rw [inHand, List.nil_append] at order
    exact ⟨earlier, order⟩
  · have moved : step build s (.write stamp) = .ok next := moved
    simp only [step, runs, place, if_true] at moved
    obtain ⟨pieces', t', hands', _, rfl⟩ := finish_handed build stamp s next t moved
    cases hands.symm.trans hands'
    rfl

/-- The even storm meets the condition: any two of its blocks hold 1998 equal records. -/
theorem storm_keeps_newest_even :
    ∃ s t pieces, (machine .release).run {} evenStorm = .ok s ∧ s.thread = some t ∧
      t.place = .writing ∧ t.buffersToWrite.length = 26 ∧
      handed (utf8 "20250101 00:00:00.000000") t.buffersToWrite = .ok pieces ∧
      HandsNewest (utf8 "20250101 00:00:00.000000") t.buffersToWrite pieces := by
  obtain ⟨s, t, full, current, ran, runs, place, blocks, count, wholes, last⟩ :=
    storm_taken .release 998 (by decide)
  have length : t.buffersToWrite.length = 26 := by simp [blocks, count]
  obtain ⟨pieces, hands⟩ := handed_storm (utf8 "20250101 00:00:00.000000") full current count
  rw [← blocks] at hands
  refine ⟨s, t, pieces, ran, runs, place, length, hands,
    (storm_keeps_newest_iff .release evenStorm s t _ pieces ran runs place hands).2.2.1.mpr
      (.inr ?_)⟩
  have all : ∀ block ∈ full ++ [current], block.data = records 999 := by
    intro block member
    rcases List.mem_append.mp member with earlier | newest
    · exact wholes block earlier
    · rw [List.mem_singleton.mp newest, last]
  have blocks : t.buffersToWrite = (full ++ [current]).map some := by simp [blocks]
  rw [length, blocks, ← List.map_take, ← List.map_drop,
    held_records 999 _ (fun block member => all block (List.mem_of_mem_take member)),
    held_records 999 _ (fun block member => all block (List.mem_of_mem_drop member))]
  simp [count]

/-- The storm in which the newest data is lost: what is written are the first two blocks. -/
theorem storm_keeps_oldest :
    ∃ s t pieces, (machine .release).run {} storm = .ok s ∧ s.thread = some t ∧
      t.place = .writing ∧ t.buffersToWrite.length = 26 ∧
      handed (utf8 "20250101 00:00:00.000000") t.buffersToWrite = .ok pieces ∧
      ¬ HandsNewest (utf8 "20250101 00:00:00.000000") t.buffersToWrite pieces := by
  obtain ⟨s, t, full, current, ran, runs, place, blocks, count, wholes, last⟩ :=
    storm_taken .release 0 (by decide)
  rw [List.replicate_zero, List.append_nil] at ran
  have length : t.buffersToWrite.length = 26 := by simp [blocks, count]
  obtain ⟨pieces, hands⟩ := handed_storm (utf8 "20250101 00:00:00.000000") full current count
  rw [← blocks] at hands
  have oldest : t.buffersToWrite.take 2 = (full.take 2).map some := by
    rw [blocks, List.take_append_of_le_length (by simp [count]), List.map_take]
  have newest : t.buffersToWrite.drop 24 = (full.drop 24).map some ++ [some current] := by
    rw [blocks, List.drop_append_of_le_length (by simp [count]), List.map_drop]
  refine ⟨s, t, pieces, ran, runs, place, length, hands, fun kept => ?_⟩
  have same := ((handsNewest_iff _ _ _ hands).mp kept).resolve_left (by omega)
  have lengths := congrArg List.length same
  rw [length, oldest, newest, held_append, held_some, List.length_append, last,
    held_records 999 _ (fun block member => wholes block (List.mem_of_mem_take member)),
    held_records 999 _ (fun block member => wholes block (List.mem_of_mem_drop member)),
    records_length, records_length, records_length] at lengths
  simp [count] at lengths

end Mhost.Log.AsyncLogging
