import Mhost.Log.AsyncLogging

/-!
# Buffer rotation

AsyncLogging.cc:31-46 and 64-127. After a swap `newBuffer1` is always null. The recycling
gives it back when the swap took one or two blocks, or so many that the storm protection
left two. When it took 3 to 25, `resize(2)` is done in place of giving it back, and the
next iteration starts without a buffer for the front end.
-/
namespace Mhost.Log.AsyncLogging
open Library (Text utf8)

/-- The front end has a buffer, and at the top of an iteration the asserted conditions hold. -/
structure Rotating (s : AsyncLogging) : Prop where
  current : s.currentBuffer.isSome
  iteration : ∀ t, s.thread = some t → t.place = .locking ∨ t.place = .sleeping →
    t.newBuffer1.isSome ∧ t.newBuffer2.isSome ∧ t.buffersToWrite = []

/-- At each place of the background thread, the buffers it owns. -/
def Thread.Stocked (t : Thread) : Prop :=
  match t.place with
  | .starting | .locking | .sleeping =>
      t.newBuffer1.isSome ∧ t.newBuffer2.isSome ∧ t.buffersToWrite = []
  | .writing =>
      t.newBuffer1 = none ∧ t.buffersToWrite ≠ [] ∧ (∀ ptr ∈ t.buffersToWrite, ptr.isSome) ∧
        (t.newBuffer2 = none → 2 ≤ t.buffersToWrite.length)
  | .exited => True

/-- The spare is only missing when a block was filled since the last swap. -/
structure Owned (s : AsyncLogging) : Prop where
  current : s.currentBuffer.isSome
  queued : ∀ ptr ∈ s.buffers, ptr.isSome
  spare : s.nextBuffer = none → s.buffers ≠ []
  stocked : ∀ t, s.thread = some t → Thread.Stocked t

theorem Owned.fresh : Owned {} := by
  constructor <;> simp

theorem Owned.rotating {s : AsyncLogging} (owned : Owned s) : Rotating s := by
  refine ⟨owned.current, fun t runs place => ?_⟩
  have stocked := owned.stocked t runs
  rcases place with place | place <;> simpa [Thread.Stocked, place] using stocked

/-- The swap took at most two blocks or more than 25, or the thread is told to end. -/
def Spares (s : AsyncLogging) : Step → Prop
  | .write _ => ∀ t, s.thread = some t → t.place = .writing → s.running = true →
      t.buffersToWrite.length ≤ 2 ∨ 25 < t.buffersToWrite.length
  | _ => True

/-! ### The front end -/

theorem append_owned (s : AsyncLogging) (logline : List UInt8) (owned : Owned s) :
    ∃ next, s.append logline = .ok next ∧ Owned next := by
  obtain ⟨current, here⟩ := Option.isSome_iff_exists.mp owned.current
  unfold append
  simp only [here, deref, bind, Except.bind]
  split
  · exact ⟨_, rfl, by simp, owned.queued, owned.spare, owned.stocked⟩
  · have queued : ∀ ptr ∈ s.buffers ++ [some current], ptr.isSome := by
      intro ptr member
      rcases List.mem_append.mp member with old | new
      · exact owned.queued ptr old
      · rw [List.mem_singleton.mp new]
        rfl
    split
    · exact ⟨_, rfl, by simp, queued, by simp, owned.stocked⟩
    · exact ⟨_, rfl, by simp, queued, by simp, owned.stocked⟩

/-! ### The background thread -/

theorem swap_owned (s : AsyncLogging) (t : Thread) (owned : Owned s)
    (stock : t.newBuffer1.isSome ∧ t.newBuffer2.isSome ∧ t.buffersToWrite = []) :
    Owned (s.swapBuffers t) := by
  obtain ⟨first, second, empty⟩ := stock
  have all : ∀ ptr ∈ s.buffers ++ [s.currentBuffer], ptr.isSome := by
    intro ptr member
    rcases List.mem_append.mp member with old | new
    · exact owned.queued ptr old
    · rw [List.mem_singleton.mp new]
      exact owned.current
  unfold swapBuffers
  simp only [empty]
  split
  next used =>
    have filled : s.buffers ≠ [] := owned.spare (Option.isNone_iff_eq_none.mp used)
    refine ⟨first, by simp, fun missing => ?_, ?_⟩
    · simp only at missing
      simp [missing] at second
    · rintro t' ⟨⟩
      refine ⟨rfl, by simp, all, fun _ => ?_⟩
      have := List.length_pos_iff.mpr filled
      simp only [List.length_append, List.length_singleton]
      omega
  next spare =>
    refine ⟨first, by simp, fun missing => ?_, ?_⟩
    · simp only at missing
      simp [missing] at spare
    · rintro t' ⟨⟩
      refine ⟨rfl, by simp, all, fun missing => ?_⟩
      simp only at missing
      simp [missing] at second

theorem writeAll_some (v : List (Option Buffer)) (all : ∀ ptr ∈ v, ptr.isSome) :
    ∃ written, writeAll v = .ok written := by
  induction v with
  | nil => exact ⟨[], rfl⟩
  | cons ptr rest ih =>
    obtain ⟨buffer, rfl⟩ := Option.isSome_iff_exists.mp (all ptr (by simp))
    obtain ⟨written, done⟩ := ih (fun ptr member => all ptr (by simp [member]))
    exact ⟨buffer.data :: written, by simp [writeAll, deref, done, bind, Except.bind, pure,
      Except.pure]⟩

theorem takeBack_some (v : List (Option Buffer)) (nonempty : v ≠ [])
    (all : ∀ ptr ∈ v, ptr.isSome) :
    ∃ buffer : Buffer, takeBack v = .ok (some buffer, v.dropLast) := by
  have last := List.getLast?_eq_some_getLast nonempty
  obtain ⟨buffer, here⟩ := Option.isSome_iff_exists.mp (all _ (List.getLast_mem nonempty))
  exact ⟨buffer.reset, by simp [takeBack, last, here, deref, bind, Except.bind, pure, Except.pure]⟩

/-- With at most two blocks the recycling refills both slots. -/
theorem recycle_few (t : Thread) (missing : t.newBuffer1 = none) (nonempty : t.buffersToWrite ≠ [])
    (all : ∀ ptr ∈ t.buffersToWrite, ptr.isSome) (few : t.buffersToWrite.length ≤ 2)
    (second : t.newBuffer2 = none → 2 ≤ t.buffersToWrite.length) :
    ∃ t', recycle t = .ok t' ∧ t'.newBuffer1.isSome ∧ t'.newBuffer2.isSome ∧
      t'.buffersToWrite = [] := by
  obtain ⟨buffer1, first⟩ := takeBack_some t.buffersToWrite nonempty all
  unfold recycle
  simp only [Nat.not_lt.mpr few, if_false, missing, Option.isNone_none, if_true, first, bind,
    Except.bind, pure, Except.pure]
  cases slot : t.newBuffer2 with
  | some buffer => exact ⟨_, rfl, rfl, by simp, rfl⟩
  | none =>
    have left : t.buffersToWrite.dropLast ≠ [] := by
      intro gone
      have size := congrArg List.length gone
      simp only [List.length_dropLast, List.length_nil] at size
      have := second slot
      omega
    obtain ⟨buffer2, next⟩ := takeBack_some _ left
      (fun ptr member => all ptr ((List.dropLast_sublist _).subset member))
    simp only [Option.isNone_none, if_true, next]
    exact ⟨_, rfl, rfl, rfl, rfl⟩

/-- With more than two it refills the second slot only. -/
theorem recycle_many (t : Thread) (all : ∀ ptr ∈ t.buffersToWrite, ptr.isSome)
    (many : 2 < t.buffersToWrite.length) :
    ∃ t', recycle t = .ok t' ∧ t'.newBuffer1 = t.newBuffer1 ∧ t'.newBuffer2.isSome ∧
      t'.buffersToWrite = [] := by
  unfold recycle
  simp only [many, if_true, bind, Except.bind, pure, Except.pure]
  cases slot : t.newBuffer2 with
  | some buffer => exact ⟨_, rfl, rfl, by simp, rfl⟩
  | none =>
    have left : t.buffersToWrite.take 2 ≠ [] := by
      intro gone
      have size := congrArg List.length gone
      simp only [List.length_take, List.length_nil] at size
      omega
    obtain ⟨buffer2, next⟩ := takeBack_some _ left
      (fun ptr member => all ptr (List.mem_of_mem_take member))
    simp only [Option.isNone_none, if_true, next]
    exact ⟨_, rfl, rfl, rfl, rfl⟩

theorem loopTop_stocked (build : Build) (running : Bool) (t : Thread)
    (stock : running = true →
      t.newBuffer1.isSome ∧ t.newBuffer2.isSome ∧ t.buffersToWrite = []) :
    ∃ t', loopTop build running t = .ok t' ∧ Thread.Stocked t' := by
  unfold loopTop
  cases running with
  | false => exact ⟨_, rfl, trivial⟩
  | true =>
    obtain ⟨first, second, empty⟩ := stock rfl
    refine ⟨{ t with place := .locking }, ?_, first, second, empty⟩
    simp [first, second, empty]

theorem dropStorm_few (stamp : Text) (v : List (Option Buffer)) (few : v.length ≤ 25) :
    dropStorm stamp v = ([], v) := by
  simp [dropStorm, Nat.not_lt.mpr few]

theorem dropStorm_many (stamp : Text) (v : List (Option Buffer)) (many : 25 < v.length) :
    dropStorm stamp v = ([dropNotice stamp (v.length - 2)], v.take 2) := by
  simp [dropStorm, many]

/-- What an iteration leaves, once its blocks are written and recycled. -/
theorem finish_of_recycle (build : Build) (stamp : Text) (s : AsyncLogging) (t t' : Thread)
    (notice : List (List UInt8)) (kept : List (Option Buffer)) (taken : t.buffersToWrite ≠ [])
    (storm : dropStorm stamp t.buffersToWrite = (notice, kept)) (all : ∀ ptr ∈ kept, ptr.isSome)
    (recycled : recycle { t with buffersToWrite := kept } = .ok t') :
    ∃ output, finishIteration build stamp s t = (do
      let t ← loopTop build s.running t'
      return { s with thread := some t, output }) := by
  obtain ⟨written, done⟩ := writeAll_some kept all
  have ready : ¬ (build = .debug ∧ t.buffersToWrite.isEmpty = true) := by
    simp [taken]
  refine ⟨s.output ++ notice ++ written, ?_⟩
  unfold finishIteration
  rw [if_neg ready, storm]
  simp only [done, recycled, bind, Except.bind, pure, Except.pure]

theorem finish_owned (build : Build) (stamp : Text) (s : AsyncLogging) (t : Thread)
    (owned : Owned s) (runs : s.thread = some t) (place : t.place = .writing)
    (spares : Spares s (.write stamp)) :
    ∃ next, s.finishIteration build stamp t = .ok next ∧ Owned next := by
  have stocked := owned.stocked t runs
  simp only [Thread.Stocked, place] at stocked
  obtain ⟨missing, taken, all, second⟩ := stocked
  -- after the recycling a thread that goes on has both of its buffers
  have refilled : ∃ notice kept t', dropStorm stamp t.buffersToWrite = (notice, kept) ∧
      (∀ ptr ∈ kept, ptr.isSome) ∧ recycle { t with buffersToWrite := kept } = .ok t' ∧
      (s.running = true → t'.newBuffer1.isSome ∧ t'.newBuffer2.isSome ∧ t'.buffersToWrite = []) := by
    by_cases storm : 25 < t.buffersToWrite.length
    · have all' : ∀ ptr ∈ t.buffersToWrite.take 2, ptr.isSome :=
        fun ptr member => all ptr (List.mem_of_mem_take member)
      have two : (t.buffersToWrite.take 2).length = 2 := by
        rw [List.length_take]
        omega
      have nonempty : t.buffersToWrite.take 2 ≠ [] := List.length_pos_iff.mp (by omega)
      obtain ⟨t', recycled, stock⟩ := recycle_few { t with buffersToWrite := t.buffersToWrite.take 2 }
        missing nonempty all' (Nat.le_of_eq two) (fun _ => Nat.le_of_eq two.symm)
      exact ⟨_, _, t', dropStorm_many stamp _ storm, all', recycled, fun _ => stock⟩
    · have kept := dropStorm_few stamp t.buffersToWrite (Nat.le_of_not_lt storm)
      by_cases few : t.buffersToWrite.length ≤ 2
      · obtain ⟨t', recycled, stock⟩ := recycle_few t missing taken all few second
        exact ⟨_, _, t', kept, all, recycled, fun _ => stock⟩
      · obtain ⟨t', recycled, _⟩ := recycle_many t all (Nat.lt_of_not_le few)
        refine ⟨_, _, t', kept, all, recycled, fun running => ?_⟩
        rcases spares t runs place running with atMost | atLeast
        · exact absurd atMost few
        · exact absurd atLeast storm
  obtain ⟨notice, kept, t', storm, all', recycled, stock⟩ := refilled
  obtain ⟨output, finish⟩ :=
    finish_of_recycle build stamp s t t' notice kept taken storm all' recycled
  obtain ⟨t'', top, stocked⟩ := loopTop_stocked build s.running t' stock
  rw [finish]
  simp only [top, bind, Except.bind, pure, Except.pure]
  refine ⟨_, rfl, owned.current, owned.queued, owned.spare, ?_⟩
  rintro u ⟨⟩
  exact stocked

/-- The middle range: the next iteration, if there is one, starts without `newBuffer1`. -/
theorem finish_starved (build : Build) (stamp : Text) (s next : AsyncLogging) (t : Thread)
    (owned : Owned s) (runs : s.thread = some t) (place : t.place = .writing)
    (running : s.running = true) (many : 2 < t.buffersToWrite.length)
    (few : t.buffersToWrite.length ≤ 25) (finish : s.finishIteration build stamp t = .ok next) :
    ¬ Rotating next := by
  have stocked := owned.stocked t runs
  simp only [Thread.Stocked, place] at stocked
  obtain ⟨missing, taken, all, _⟩ := stocked
  obtain ⟨t', recycled, same, _, _⟩ := recycle_many t all many
  obtain ⟨output, left⟩ := finish_of_recycle build stamp s t t' _ _ taken
    (dropStorm_few stamp _ few) all recycled
  have lost : t'.newBuffer1 = none := same.trans missing
  rw [left] at finish
  simp only [loopTop, running, lost, if_true, bind, Except.bind, pure, Except.pure] at finish
  cases build with
  | debug => simp at finish
  | release =>
    simp only [reduceCtorEq, false_and, if_false, Except.ok.injEq] at finish
    subst finish
    intro rotating
    have stock := (rotating.iteration _ rfl (.inl rfl)).1
    simp at stock

/-! ### Runs -/

theorem step_owned (build : Build) (s : AsyncLogging) (a : Step) (owned : Owned s)
    (spares : Spares s a) : ∃ next, (machine build).step s a = .ok next ∧ Owned next := by
  have stays : ∀ t' : Thread, Thread.Stocked t' → Owned { s with thread := some t' } := by
    intro t' stocked
    refine ⟨owned.current, owned.queued, owned.spare, ?_⟩
    rintro u ⟨⟩
    exact stocked
  show ∃ next, step build s a = .ok next ∧ Owned next
  cases a with
  | start =>
    cases runs : s.thread with
    | none =>
      refine ⟨{ s with running := true, thread := some {} }, by simp [step, runs], owned.current,
        owned.queued, owned.spare, ?_⟩
      rintro u ⟨⟩
      exact ⟨rfl, rfl, rfl⟩
    | some t => exact ⟨s, by simp [step, runs], owned⟩
  | append logline => exact append_owned s logline owned
  | stopFlag => exact ⟨_, rfl, owned.current, owned.queued, owned.spare, owned.stocked⟩
  | join =>
    cases runs : s.thread with
    | none => exact ⟨s, by simp [step, runs], owned⟩
    | some t =>
      by_cases place : t.place = .exited
      · exact ⟨{ s with thread := none }, by simp [step, runs, place], owned.current, owned.queued,
          owned.spare, by simp⟩
      · exact ⟨s, by simp [step, runs, place], owned⟩
  | enter =>
    cases runs : s.thread with
    | none => exact ⟨s, by simp [step, runs], owned⟩
    | some t =>
      by_cases place : t.place = .starting
      · have stocked := owned.stocked t runs
        simp only [Thread.Stocked, place] at stocked
        obtain ⟨t', top, stocked'⟩ := loopTop_stocked build s.running t (fun _ => stocked)
        exact ⟨_, by simp [step, runs, place, top, bind, Except.bind, pure, Except.pure],
          stays t' stocked'⟩
      · exact ⟨s, by simp [step, runs, place], owned⟩
  | lock =>
    cases runs : s.thread with
    | none => exact ⟨s, by simp [step, runs], owned⟩
    | some t =>
      by_cases place : t.place = .locking
      · have stocked := owned.stocked t runs
        simp only [Thread.Stocked, place] at stocked
        by_cases empty : s.buffers = []
        · exact ⟨_, by simp only [step, runs, place, empty]; rfl,
            stays { t with place := .sleeping } stocked⟩
        · exact ⟨_, by simp [step, runs, place, empty], swap_owned s t owned stocked⟩
      · exact ⟨s, by simp [step, runs, place], owned⟩
  | wake =>
    cases runs : s.thread with
    | none => exact ⟨s, by simp [step, runs], owned⟩
    | some t =>
      by_cases place : t.place = .sleeping
      · have stocked := owned.stocked t runs
        simp only [Thread.Stocked, place] at stocked
        exact ⟨_, by simp [step, runs, place], swap_owned s t owned stocked⟩
      · exact ⟨s, by simp [step, runs, place], owned⟩
  | write stamp =>
    cases runs : s.thread with
    | none => exact ⟨s, by simp [step, runs], owned⟩
    | some t =>
      by_cases place : t.place = .writing
      · obtain ⟨next, finish, owned'⟩ := finish_owned build stamp s t owned runs place spares
        exact ⟨next, by simp [step, runs, place, finish], owned'⟩
      · exact ⟨s, by simp [step, runs, place], owned⟩

theorem step_starved (build : Build) (s : AsyncLogging) (a : Step) (next : AsyncLogging)
    (owned : Owned s) (starves : ¬ Spares s a) (taken : (machine build).step s a = .ok next) :
    ¬ Rotating next := by
  have taken : step build s a = .ok next := taken
  cases a with
  | write stamp =>
    simp only [Spares] at starves
    obtain ⟨t, runs, place, running, middle⟩ : ∃ t, s.thread = some t ∧ t.place = .writing ∧
        s.running = true ∧ ¬ (t.buffersToWrite.length ≤ 2 ∨ 25 < t.buffersToWrite.length) := by
      apply Classical.byContradiction
      intro nowhere
      apply starves
      intro t runs place running
      exact Classical.byContradiction fun middle => nowhere ⟨t, runs, place, running, middle⟩
    rw [step, runs] at taken
    simp only [place, if_true] at taken
    exact finish_starved build stamp s next t owned runs place running (by omega) (by omega) taken
  | start | append | stopFlag | join | enter | lock | wake => exact absurd trivial starves

/-- For every interleaving, in both builds: no fault occurs and every state rotates its
buffers, if and only if no iteration that another one follows took 3 to 25 blocks. -/
theorem rotation_iff (build : Build) (steps : List Step) :
    (machine build).Always Rotating {} steps ↔ (machine build).Allowed Spares {} steps :=
  Library.Machine.always_iff_allowed (fun _ => Owned.rotating) (step_owned build)
    (step_starved build) .fresh steps

/-! ### A burst of two blocks -/

/-- A log record of 4000 bytes. -/
def burstLine : List UInt8 := List.replicate 3999 46 ++ [10]

/-- Started, asleep for want of blocks, and woken after 1999 records, which fill two
blocks; then the iteration is finished. -/
def burst : List Step :=
  [.start, .enter, .lock] ++ List.replicate 1999 (.append burstLine) ++
    [.wake, .write (utf8 "20250101 00:00:00.000000")]

theorem burstLine_length : burstLine.length = 4000 := by
  rw [burstLine, List.length_append, List.length_replicate]
  rfl

def records (k : Nat) : List UInt8 := (List.replicate k burstLine).flatten

theorem records_length (k : Nat) : (records k).length = k * 4000 := by
  rw [records, List.length_flatten, List.map_replicate, List.sum_replicate_nat, burstLine_length]

theorem records_append (k m : Nat) : records k ++ records m = records (k + m) := by
  rw [records, records, records, ← List.flatten_append, List.replicate_append_replicate]

theorem records_one : records 1 = burstLine := List.append_nil burstLine

/-- A block with fewer than 999 records takes one more. -/
theorem append_fits (build : Build) (m : Nat) (room : m < 999) (s : AsyncLogging) (b : Buffer)
    (here : s.currentBuffer = some b) (holds : b.data = records m) :
    (b.append burstLine).data = records (m + 1) ∧
      step build s (.append burstLine) =
        .ok { s with currentBuffer := some (b.append burstLine) } := by
  have fits : b.avail > burstLine.length := by
    simp only [FixedBuffer.avail, burstLine_length, holds, records_length, kLargeBuffer]
    omega
  constructor
  · rw [FixedBuffer.append_data b burstLine fits, holds, ← records_one, records_append]
  · simp only [step, append, here, deref, bind, Except.bind, fits, if_true, pure, Except.pure]

theorem appends_within (build : Build) (k m : Nat) (room : m + k ≤ 999) (s : AsyncLogging)
    (b : Buffer) (here : s.currentBuffer = some b) (holds : b.data = records m) :
    ∃ b' : Buffer, b'.data = records (m + k) ∧
      (machine build).run s (List.replicate k (.append burstLine)) =
        .ok { s with currentBuffer := some b' } := by
  induction k generalizing m s b with
  | zero => exact ⟨b, holds, by rw [← here]; rfl⟩
  | succ k ih =>
    obtain ⟨grown, taken⟩ := append_fits build m (by omega) s b here holds
    obtain ⟨b', more, ran⟩ := ih (m + 1) (by omega)
      { s with currentBuffer := some (b.append burstLine) } (b.append burstLine) rfl grown
    refine ⟨b', by rw [more, Nat.add_right_comm, Nat.add_assoc], ?_⟩
    rw [List.replicate_succ, Library.Machine.run]
    simp only [machine, taken]
    exact ran

/-- A block with 999 records takes no more: the next record goes into the next block. -/
theorem append_rotates (build : Build) (s : AsyncLogging) (b : Buffer)
    (here : s.currentBuffer = some b) (full : b.data = records 999)
    (empty : ∀ spare, s.nextBuffer = some spare → spare.data = []) :
    ∃ b' : Buffer, b'.data = records 1 ∧ step build s (.append burstLine) =
      .ok { s with
        buffers := s.buffers ++ [some b], currentBuffer := some b', nextBuffer := none } := by
  have tight : ¬ b.avail > burstLine.length := by
    simp only [FixedBuffer.avail, burstLine_length, full, records_length, kLargeBuffer]
    omega
  have written : ∀ spare : Buffer, spare.data = [] →
      (spare.append burstLine).data = records 1 := by
    intro spare empty
    have fits : spare.avail > burstLine.length := by
      simp [FixedBuffer.avail, burstLine_length, empty, kLargeBuffer]
    rw [FixedBuffer.append_data spare burstLine fits, empty, List.nil_append, records_one]
  simp only [step, append, here, deref, bind, Except.bind, tight, if_false, pure, Except.pure]
  cases spare : s.nextBuffer with
  | some buffer => exact ⟨_, written buffer (empty buffer spare), rfl⟩
  | none => exact ⟨_, written {} rfl, rfl⟩

/-- A block that holds `m` records is handed over with the record after its last. -/
theorem block_filled (build : Build) (m : Nat) (few : m ≤ 999) (s : AsyncLogging) (b : Buffer)
    (here : s.currentBuffer = some b) (holds : b.data = records m)
    (empty : ∀ spare, s.nextBuffer = some spare → spare.data = []) :
    ∃ full current : Buffer, full.data = records 999 ∧ current.data = records 1 ∧
      (machine build).run s (List.replicate (999 - m + 1) (.append burstLine)) =
        .ok { s with
          buffers := s.buffers ++ [some full], currentBuffer := some current
          nextBuffer := none } := by
  obtain ⟨full, filled, ran⟩ := appends_within build (999 - m) m (by omega) s b here holds
  rw [Nat.add_sub_cancel' few] at filled
  obtain ⟨current, start, turned⟩ :=
    append_rotates build { s with currentBuffer := some full } full rfl filled empty
  refine ⟨full, current, filled, start, ?_⟩
  rw [List.replicate_succ', Library.Machine.run_append ran, Library.Machine.run]
  simp only [machine, turned]
  rfl

/-- The burst fills two blocks; the iteration then has three to write. -/
theorem burst_written (build : Build) : ∃ b1 b2 b3 : Buffer, ∀ rest,
    (machine build).run {} (burst ++ rest) =
      (machine build).run
        { running := true
          thread := some { place := .writing, newBuffer1 := none, newBuffer2 := none
                           buffersToWrite := [some b1, some b2, some b3] } }
        (.write (utf8 "20250101 00:00:00.000000") :: rest) := by
  let asleep : AsyncLogging := { running := true, thread := some { place := .sleeping } }
  have awake : (machine build).run {} [.start, .enter, .lock] = .ok asleep := by
    cases build <;> rfl
  obtain ⟨b1, c, _, start, first⟩ := block_filled build 0 (by decide) asleep {} rfl rfl
    (fun spare here => by cases here; rfl)
  obtain ⟨b2, b3, _, _, second⟩ := block_filled build 1 (by decide)
    { asleep with
      buffers := asleep.buffers ++ [some b1], currentBuffer := some c, nextBuffer := none } c rfl
    start (fun spare here => by cases here)
  refine ⟨b1, b2, b3, fun rest => ?_⟩
  have count : List.replicate 1999 (Step.append burstLine) =
      List.replicate (999 - 0 + 1) (.append burstLine) ++
        List.replicate (999 - 1 + 1) (.append burstLine) := by
    rw [List.replicate_append_replicate]
  rw [burst, List.append_assoc, List.append_assoc, Library.Machine.run_append awake, count,
    List.append_assoc, Library.Machine.run_append first, Library.Machine.run_append second]
  rfl

/-- The failing run, in either build: the burst ends in the assertion of the next
iteration; without assertions the next swap leaves the front end without a buffer, and
the next record is appended through a null pointer. -/
theorem burst_starves :
    ¬ (machine .debug).Always Rotating {} burst ∧
      (machine .debug).run {} burst = .error .assertFailed ∧
      ¬ (machine .release).Always Rotating {} (burst ++ [.lock, .wake, .append burstLine]) ∧
      (machine .release).run {} (burst ++ [.lock, .wake, .append burstLine]) =
        .error .nullDeref := by
  have debug : (machine .debug).run {} burst = .error .assertFailed := by
    obtain ⟨b1, b2, b3, written⟩ := burst_written .debug
    have whole := written []
    rw [List.append_nil] at whole
    rw [whole]
    rfl
  have release : (machine .release).run {} (burst ++ [.lock, .wake, .append burstLine]) =
      .error .nullDeref := by
    obtain ⟨b1, b2, b3, written⟩ := burst_written .release
    rw [written]
    rfl
  exact ⟨Library.Machine.not_always_of_fault debug, debug,
    Library.Machine.not_always_of_fault release, release⟩

end Mhost.Log.AsyncLogging
