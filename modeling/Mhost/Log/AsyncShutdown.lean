import Mhost.Log.AsyncLogging

/-!
# What is on disk when `stop` returns

AsyncLogging.cc:53-62 and 64-127. Every byte that was appended is with the log file, in the
hands of the background thread or still at the front. A thread that has its critical section
before it when `running_` is cleared takes the front along; one that is past it leaves the
loop without looking at the front again.
-/
namespace Mhost.Log.AsyncLogging
open Library (Text utf8)

/-- The bytes of some blocks; a null pointer owns none. -/
def held (v : List (Option Buffer)) : List UInt8 := v.flatMap fun ptr => (ptr.map (·.data)).getD []

/-- What the background thread has not been given yet. -/
def front (s : AsyncLogging) : List UInt8 := held s.buffers ++ held [s.currentBuffer]

/-- What it was given and has not written yet. -/
def inHand (s : AsyncLogging) : List UInt8 := (s.thread.map fun t => held t.buffersToWrite).getD []

/-- It is in the loop, and has yet to take the front. -/
def waits (s : AsyncLogging) : Bool :=
  s.thread.any fun t => t.place = .locking || t.place = .sleeping

def Step.bytes : Step → List UInt8
  | .append logline => logline
  | _ => []

/-- Every line is shorter than a block, and a swap takes at most 25 blocks. -/
def Calm (s : AsyncLogging) : Step → Prop
  | .append logline => logline.length < kLargeBuffer
  | .lock => ∀ t, s.thread = some t → t.place = .locking → s.buffers.length < 25
  | .wake => ∀ t, s.thread = some t → t.place = .sleeping → s.buffers.length < 25
  | _ => True

/-- Spare buffers are empty, and only a thread that writes has blocks in hand. -/
structure Thread.Clean (t : Thread) : Prop where
  first : held [t.newBuffer1] = []
  second : held [t.newBuffer2] = []
  few : t.buffersToWrite.length ≤ 25
  idle : t.place ≠ .writing → t.buffersToWrite = []

/-- Nothing of what was appended is lost, doubled or out of order. -/
structure Accounted (all : List UInt8) (s : AsyncLogging) : Prop where
  balance : s.output.flatten ++ inHand s ++ front s = all
  spare : held [s.nextBuffer] = []
  clean : ∀ t, s.thread = some t → Thread.Clean t

@[simp] theorem held_nil : held [] = [] := rfl

@[simp] theorem held_append (v v' : List (Option Buffer)) : held (v ++ v') = held v ++ held v' :=
  List.flatMap_append

@[simp] theorem held_some (buffer : Buffer) : held [some buffer] = buffer.data := by
  simp [held]

@[simp] theorem held_none : held [none] = [] := rfl

theorem Accounted.fresh : Accounted [] {} where
  balance := rfl
  spare := rfl
  clean t runs := by cases runs

/-! ### The front end -/

/-- What does not fit the current buffer goes into an empty one, where every short line fits. -/
theorem append_front (s next : AsyncLogging) (logline : List UInt8)
    (short : logline.length < kLargeBuffer) (spare : held [s.nextBuffer] = [])
    (ran : s.append logline = .ok next) :
    front next = front s ++ logline ∧ held [next.nextBuffer] = [] ∧
      next.running = s.running ∧ next.thread = s.thread ∧ next.output = s.output := by
  unfold append at ran
  cases here : s.currentBuffer with
  | none => simp [here, deref, bind, Except.bind] at ran
  | some current =>
    have empty (b : Buffer) (none : b.data = []) : (b.append logline).data = logline := by
      rw [FixedBuffer.append_data b logline (by simpa [FixedBuffer.avail, none] using short), none,
        List.nil_append]
    simp only [here, deref, bind, Except.bind, pure, Except.pure] at ran
    split at ran
    next room =>
      cases ran
      refine ⟨?_, spare, rfl, rfl, rfl⟩
      simp [front, here, FixedBuffer.append_data current logline room]
    next =>
      cases next' : s.nextBuffer with
      | some buffer =>
        simp only [next', Except.ok.injEq] at ran
        subst ran
        have unused : buffer.data = [] := by simpa [next'] using spare
        exact ⟨by simp [front, here, empty buffer unused], rfl, rfl, rfl, rfl⟩
      | none =>
        simp only [next', Except.ok.injEq] at ran
        subst ran
        exact ⟨by simp [front, here, empty {} rfl], by simp, rfl, rfl, rfl⟩

/-! ### The background thread -/

theorem loopTop_ok (build : Build) (running : Bool) (t t' : Thread)
    (top : loopTop build running t = .ok t') :
    t' = { t with place := if running then .locking else .exited } := by
  unfold loopTop at top
  cases running with
  | false => cases top; rfl
  | true =>
    simp only [if_true] at top
    split at top
    · cases top
    · cases top; rfl

theorem writeAll_held (v : List (Option Buffer)) (written : List (List UInt8))
    (done : writeAll v = .ok written) : written.flatten = held v := by
  induction v generalizing written with
  | nil => cases done; rfl
  | cons ptr rest ih =>
    cases ptr with
    | none => simp [writeAll, deref, bind, Except.bind] at done
    | some buffer =>
      cases later : writeAll rest with
      | error fault => simp [writeAll, deref, later, bind, Except.bind] at done
      | ok more =>
        simp only [writeAll, deref, later, bind, Except.bind, pure, Except.pure,
          Except.ok.injEq] at done
        rw [← done, List.flatten_cons, ih more later]
        simp [held]

theorem takeBack_empty (v left : List (Option Buffer)) (slot : Option Buffer)
    (taken : takeBack v = .ok (slot, left)) : held [slot] = [] := by
  unfold takeBack at taken
  cases last : v.getLast? with
  | none => simp [last] at taken
  | some ptr =>
    cases ptr with
    | none => simp [last, deref, bind, Except.bind] at taken
    | some buffer =>
      simp only [last, deref, bind, Except.bind, pure, Except.pure, Except.ok.injEq,
        Prod.mk.injEq] at taken
      rw [← taken.1]
      rfl

theorem bind_ok {α β : Type} {x : Except Fault α} {f : α → Except Fault β} {result : β}
    (ran : (x >>= f) = .ok result) : ∃ value, x = .ok value ∧ f value = .ok result := by
  cases x with
  | error fault => cases ran
  | ok value => exact ⟨value, rfl, ran⟩

/-- What the recycling does for one slot. -/
def refill (slot : Option Buffer) (v : List (Option Buffer)) :
    Except Fault (Option Buffer × List (Option Buffer)) :=
  if slot.isNone then takeBack v else pure (slot, v)

theorem refill_empty (slot slot' : Option Buffer) (v left : List (Option Buffer))
    (empty : held [slot] = []) (filled : refill slot v = .ok (slot', left)) :
    held [slot'] = [] := by
  unfold refill at filled
  split at filled
  · exact takeBack_empty v left slot' filled
  · cases filled
    exact empty

theorem recycle_eq (t : Thread) : recycle t =
    (if t.buffersToWrite.length > 2 then pure (t.newBuffer1, t.buffersToWrite.take 2)
      else refill t.newBuffer1 t.buffersToWrite) >>= fun first =>
    refill t.newBuffer2 first.2 >>= fun second =>
    pure { t with newBuffer1 := first.1, newBuffer2 := second.1, buffersToWrite := [] } := by
  unfold recycle refill
  by_cases many : t.buffersToWrite.length > 2 <;> by_cases first : t.newBuffer1.isNone = true <;>
    by_cases second : t.newBuffer2.isNone = true <;> simp only [many, first, second] <;> rfl

/-- A recycled block is empty again, and the thread has no block in hand. -/
theorem recycle_clean (t t' : Thread) (first : held [t.newBuffer1] = [])
    (second : held [t.newBuffer2] = []) (recycled : recycle t = .ok t') :
    held [t'.newBuffer1] = [] ∧ held [t'.newBuffer2] = [] ∧ t'.buffersToWrite = [] := by
  rw [recycle_eq] at recycled
  obtain ⟨⟨slot1, left⟩, filled1, recycled⟩ := bind_ok recycled
  obtain ⟨⟨slot2, _⟩, filled2, recycled⟩ := bind_ok recycled
  cases recycled
  refine ⟨?_, refill_empty _ _ _ _ second filled2, rfl⟩
  split at filled1
  · cases filled1
    exact first
  · exact refill_empty _ _ _ _ first filled1

/-- What an iteration without a fault does. -/
theorem finish_ok (build : Build) (stamp : Text) (s next : AsyncLogging) (t : Thread)
    (ran : s.finishIteration build stamp t = .ok next) :
    ∃ notice kept written t', dropStorm stamp t.buffersToWrite = (notice, kept) ∧
      writeAll kept = .ok written ∧ recycle { t with buffersToWrite := kept } = .ok t' ∧
      next = { s with
        thread := some { t' with place := if s.running then .locking else .exited }
        output := s.output ++ (notice ++ written) } := by
  unfold finishIteration at ran
  by_cases broken : build = .debug ∧ t.buffersToWrite.isEmpty = true
  · rw [if_pos broken] at ran
    cases ran
  · rw [if_neg broken] at ran
    obtain ⟨⟨notice, kept⟩, storm⟩ : ∃ parts, dropStorm stamp t.buffersToWrite = parts := ⟨_, rfl⟩
    rw [storm] at ran
    obtain ⟨written, wrote, ran⟩ := bind_ok ran
    obtain ⟨t', recycled, ran⟩ := bind_ok ran
    obtain ⟨t'', top, ran⟩ := bind_ok ran
    cases loopTop_ok build s.running t' t'' top
    cases ran
    exact ⟨notice, kept, written, t', storm, wrote, recycled, by simp⟩

/-- An iteration that takes at most 25 blocks writes them all. -/
theorem finish_few (build : Build) (stamp : Text) (s next : AsyncLogging) (t : Thread)
    (few : t.buffersToWrite.length ≤ 25) (ran : s.finishIteration build stamp t = .ok next) :
    ∃ written t', next = { s with
        thread := some { t' with place := if s.running then .locking else .exited }
        output := s.output ++ written } ∧
      written.flatten = held t.buffersToWrite ∧ recycle t = .ok t' := by
  obtain ⟨notice, kept, written, t', storm, wrote, recycled, rfl⟩ := finish_ok build stamp s next t ran
  have all : dropStorm stamp t.buffersToWrite = ([], t.buffersToWrite) := by
    simp [dropStorm, Nat.not_lt.mpr few]
  cases all.symm.trans storm
  exact ⟨written, t', rfl, writeAll_held _ _ wrote, recycled⟩

/-- The swap hands over everything that is at the front. -/
theorem swap_hands_over (s : AsyncLogging) (t : Thread)
    (second : held [t.newBuffer2] = []) (spare : held [s.nextBuffer] = [])
    (idle : t.buffersToWrite = []) (few : s.buffers.length < 25) :
    ∃ taken, s.swapBuffers t = { s with
        currentBuffer := t.newBuffer1, nextBuffer := (s.swapBuffers t).nextBuffer, buffers := []
        thread := some taken } ∧
      taken.place = .writing ∧ held taken.buffersToWrite = front s ∧ Thread.Clean taken ∧
      held [(s.swapBuffers t).nextBuffer] = [] := by
  unfold swapBuffers
  simp only [idle]
  split
  · exact ⟨_, rfl, rfl, by simp [front], ⟨rfl, rfl, by simp; omega, by simp⟩, second⟩
  · exact ⟨_, rfl, rfl, by simp [front], ⟨rfl, second, by simp; omega, by simp⟩, spare⟩

/-! ### One step -/

/-- Where the background thread stands when it takes a step of its own, or is joined. -/
def Step.place? : Step → Option Place
  | .join => some .exited
  | .enter => some .starting
  | .lock => some .locking
  | .wake => some .sleeping
  | .write _ => some .writing
  | .start | .append _ | .stopFlag => none

theorem bytes_other {a : Step} (other : ∀ logline, a ≠ .append logline) : a.bytes = [] := by
  cases a with
  | append logline => exact absurd rfl (other logline)
  | start | stopFlag | join | enter | lock | wake | write => rfl

/-- What a step without a fault does. -/
inductive Stepped (build : Build) (s : AsyncLogging) : Step → AsyncLogging → Prop where
  | idle {a : Step} (other : ∀ logline, a ≠ .append logline)
      (away : ∀ place, a.place? = some place → ∀ t, s.thread = some t → t.place ≠ place) :
      Stepped build s a s
  | started (free : s.thread = none) :
      Stepped build s .start { s with running := true, thread := some {} }
  | appended {logline : List UInt8} {next : AsyncLogging} (put : s.append logline = .ok next) :
      Stepped build s (.append logline) next
  | told : Stepped build s .stopFlag { s with running := false }
  | joined {t : Thread} (runs : s.thread = some t) (place : t.place = .exited) :
      Stepped build s .join { s with thread := none }
  | entered {t : Thread} (runs : s.thread = some t) (place : t.place = .starting) :
      Stepped build s .enter
        { s with thread := some { t with place := if s.running then .locking else .exited } }
  | slept {t : Thread} (runs : s.thread = some t) (place : t.place = .locking)
      (empty : s.buffers = []) :
      Stepped build s .lock { s with thread := some { t with place := .sleeping } }
  | swapped {t : Thread} (runs : s.thread = some t) (place : t.place = .locking)
      (pending : s.buffers ≠ []) : Stepped build s .lock (s.swapBuffers t)
  | woken {t : Thread} (runs : s.thread = some t) (place : t.place = .sleeping) :
      Stepped build s .wake (s.swapBuffers t)
  | wrote {stamp : Text} {t : Thread} {next : AsyncLogging} (runs : s.thread = some t)
      (place : t.place = .writing) (finish : s.finishIteration build stamp t = .ok next) :
      Stepped build s (.write stamp) next

theorem step_cases (build : Build) {s next : AsyncLogging} {a : Step}
    (ran : step build s a = .ok next) : Stepped build s a next := by
  cases runs : s.thread with
  | none =>
    have absent (place : Place) (t : Thread) (here : s.thread = some t) : t.place ≠ place := by
      simp [runs] at here
    cases a with
    | start =>
      simp only [step, runs, Except.ok.injEq] at ran
      exact ran ▸ .started runs
    | append logline => exact .appended ran
    | stopFlag => cases ran; exact .told
    | join | enter | lock | wake | write =>
      simp only [step, runs, Except.ok.injEq] at ran
      exact ran ▸ .idle (by simp) fun place _ => absent place
  | some t =>
    have elsewhere {place : Place} (other : t.place ≠ place) (place' : Place)
        (own : some place = some place') (t' : Thread) (here : s.thread = some t') :
        t'.place ≠ place' := by
      cases own
      cases runs.symm.trans here
      exact other
    cases a with
    | start =>
      simp only [step, runs, Except.ok.injEq] at ran
      exact ran ▸ .idle (by simp) (fun place own => by simp [Step.place?] at own)
    | append logline => exact .appended ran
    | stopFlag => cases ran; exact .told
    | join =>
      simp only [step, runs] at ran
      split at ran
      next place => cases ran; exact .joined runs place
      next other => cases ran; exact .idle (by simp) (elsewhere other)
    | enter =>
      simp only [step, runs] at ran
      split at ran
      next place =>
        obtain ⟨t', top, ran⟩ := bind_ok ran
        cases loopTop_ok build s.running t t' top
        cases ran
        exact .entered runs place
      next other => cases ran; exact .idle (by simp) (elsewhere other)
    | lock =>
      simp only [step, runs] at ran
      split at ran
      next place =>
        split at ran
        next empty => cases ran; exact .slept runs place (List.isEmpty_iff.mp empty)
        next pending =>
          cases ran
          exact .swapped runs place fun empty => pending (List.isEmpty_iff.mpr empty)
      next other => cases ran; exact .idle (by simp) (elsewhere other)
    | wake =>
      simp only [step, runs] at ran
      split at ran
      next place => cases ran; exact .woken runs place
      next other => cases ran; exact .idle (by simp) (elsewhere other)
    | write stamp =>
      simp only [step, runs] at ran
      split at ran
      next place => exact .wrote runs place ran
      next other => cases ran; exact .idle (by simp) (elsewhere other)

/-- What a calm step does. -/
inductive Took (s : AsyncLogging) : Step → AsyncLogging → Prop where
  | nothing {a : Step} (silent : a.bytes = []) : Took s a s
  | started (free : s.thread = none) : Took s .start { s with running := true, thread := some {} }
  | appended {logline : List UInt8} {next : AsyncLogging} (grown : front next = front s ++ logline)
      (spare : held [next.nextBuffer] = []) (running : next.running = s.running)
      (thread : next.thread = s.thread) (output : next.output = s.output) :
      Took s (.append logline) next
  | told : Took s .stopFlag { s with running := false }
  | joined {t : Thread} (runs : s.thread = some t) (place : t.place = .exited) :
      Took s .join { s with thread := none }
  | entered {t : Thread} (runs : s.thread = some t) (place : t.place = .starting) :
      Took s .enter
        { s with thread := some { t with place := if s.running then .locking else .exited } }
  | slept {t : Thread} (runs : s.thread = some t) (place : t.place = .locking) :
      Took s .lock { s with thread := some { t with place := .sleeping } }
  | swapped {a : Step} {t taken : Thread} {nextBuffer : Option Buffer} (silent : a.bytes = [])
      (runs : s.thread = some t) (place : t.place = .locking ∨ t.place = .sleeping)
      (writes : taken.place = .writing) (whole : held taken.buffersToWrite = front s)
      (clean : Thread.Clean taken) (spare : held [nextBuffer] = []) :
      Took s a { s with
        currentBuffer := t.newBuffer1, nextBuffer, buffers := [], thread := some taken }
  | wrote {stamp : Text} {t t' : Thread} {written : List (List UInt8)} (runs : s.thread = some t)
      (place : t.place = .writing) (whole : written.flatten = held t.buffersToWrite)
      (recycled : recycle t = .ok t') :
      Took s (.write stamp) { s with
        thread := some { t' with place := if s.running then .locking else .exited }
        output := s.output ++ written }

theorem step_took (build : Build) {all : List UInt8} {s next : AsyncLogging} {a : Step}
    (accounted : Accounted all s) (calm : Calm s a) (ran : step build s a = .ok next) :
    Took s a next := by
  have swap (t : Thread) (runs : s.thread = some t) (waiting : t.place ≠ .writing)
      (few : s.buffers.length < 25) {a : Step} (silent : a.bytes = [])
      (place : t.place = .locking ∨ t.place = .sleeping) : Took s a (s.swapBuffers t) := by
    have clean := accounted.clean t runs
    obtain ⟨taken, swapped, writes, whole, clean', spare⟩ :=
      swap_hands_over s t clean.second accounted.spare (clean.idle waiting) few
    rw [swapped]
    exact .swapped silent runs place writes whole clean' spare
  cases step_cases build ran with
  | idle other => exact .nothing (bytes_other other)
  | started free => exact .started free
  | appended put =>
    obtain ⟨grown, spare, running, thread, output⟩ :=
      append_front s next _ calm accounted.spare put
    exact .appended grown spare running thread output
  | told => exact .told
  | joined runs place => exact .joined runs place
  | entered runs place => exact .entered runs place
  | slept runs place => exact .slept runs place
  | swapped runs place => exact swap _ runs (by simp [place]) (calm _ runs place) rfl (.inl place)
  | woken runs place => exact swap _ runs (by simp [place]) (calm _ runs place) rfl (.inr place)
  | @wrote stamp t _ runs place finish =>
    obtain ⟨written, t', rfl, whole, recycled⟩ :=
      finish_few build stamp s next t (accounted.clean t runs).few finish
    exact .wrote runs place whole recycled

theorem Took.accounted {all : List UInt8} {s next : AsyncLogging} {a : Step}
    (took : Took s a next) (before : Accounted all s) : Accounted (all ++ a.bytes) next := by
  have balance := before.balance
  cases took with
  | nothing silent => simpa [silent] using before
  | started free =>
    refine ⟨?_, before.spare, ?_⟩
    · simpa [inHand, free, front, Step.bytes] using balance
    · rintro t ⟨⟩
      exact ⟨rfl, rfl, by simp, fun _ => rfl⟩
  | appended grown spare running thread output =>
    refine ⟨?_, spare, fun t runs => before.clean t (thread ▸ runs)⟩
    rw [← balance, output, grown]
    simp [inHand, thread, Step.bytes]
  | told => exact ⟨by simpa [Step.bytes, inHand, front] using balance, before.spare, before.clean⟩
  | joined runs place =>
    refine ⟨?_, before.spare, fun t runs => by cases runs⟩
    have empty := (before.clean _ runs).idle (by simp [place])
    simpa [Step.bytes, inHand, front, runs, empty] using balance
  | entered runs place =>
    have clean := before.clean _ runs
    have empty := clean.idle (by simp [place])
    refine ⟨by simpa [Step.bytes, inHand, front, runs, empty] using balance, before.spare, ?_⟩
    rintro t ⟨⟩
    exact ⟨clean.first, clean.second, clean.few, fun _ => empty⟩
  | slept runs place =>
    have clean := before.clean _ runs
    have empty := clean.idle (by simp [place])
    refine ⟨by simpa [Step.bytes, inHand, front, runs, empty] using balance, before.spare, ?_⟩
    rintro t ⟨⟩
    exact ⟨clean.first, clean.second, clean.few, fun _ => empty⟩
  | swapped silent runs place writes whole clean spare =>
    have clean' := before.clean _ runs
    have empty := clean'.idle (by rcases place with h | h <;> simp [h])
    refine ⟨?_, spare, ?_⟩
    · rw [silent, List.append_nil, ← balance]
      simp [inHand, runs, empty, whole, front, clean'.first]
    · rintro t ⟨⟩
      exact clean
  | wrote runs place whole recycled =>
    have clean := before.clean _ runs
    obtain ⟨first, second, empty⟩ := recycle_clean _ _ clean.first clean.second recycled
    refine ⟨?_, before.spare, ?_⟩
    · rw [← balance]
      simp [inHand, runs, whole, front, empty, Step.bytes]
    · rintro t ⟨⟩
      exact ⟨first, second, by simp [empty], fun _ => empty⟩

/-! ### Runs -/

/-- When `running_` is cleared, the front is empty or the thread still takes it; what is
appended later comes too late for the thread. -/
def Covered (s : AsyncLogging) : Step → Prop
  | .stopFlag => front s = [] ∨ waits s = true
  | .append logline => s.running = false → logline = [] ∨ waits s = false
  | _ => True

/-- What will have been written once a thread that was told to end has ended. -/
def destined (s : AsyncLogging) : List UInt8 :=
  s.output.flatten ++ inHand s ++ if waits s then front s else []

/-- Past its last swap the thread writes nothing that comes in. -/
theorem Took.destined {all : List UInt8} {s next : AsyncLogging} {a : Step}
    (took : Took s a next) (before : Accounted all s) (told : s.running = false)
    (running : a ≠ .start) :
    next.running = false ∧ (waits next = true → waits s = true) ∧
      destined next = destined s ++ if waits s then a.bytes else [] := by
  cases took with
  | nothing silent => exact ⟨told, id, by simp [silent]⟩
  | started => exact absurd rfl running
  | appended grown spare same thread output =>
    refine ⟨same.trans told, by simp [waits, thread], ?_⟩
    have place : waits next = waits s := by simp [waits, thread]
    simp only [AsyncLogging.destined, inHand, thread, output, place, grown, Step.bytes]
    split <;> simp
  | told =>
    have silent : (if waits s then Step.stopFlag.bytes else []) = [] := by split <;> rfl
    rw [silent, List.append_nil]
    exact ⟨rfl, id, rfl⟩
  | joined runs place =>
    have empty := (before.clean _ runs).idle (by simp [place])
    exact ⟨told, by simp [waits],
      by simp [AsyncLogging.destined, inHand, waits, runs, place, empty]⟩
  | entered runs place =>
    have empty := (before.clean _ runs).idle (by simp [place])
    exact ⟨told, by simp [waits, told],
      by simp [AsyncLogging.destined, inHand, waits, runs, place, empty, told]⟩
  | slept runs place =>
    exact ⟨told, by simp [waits, runs, place],
      by simp [AsyncLogging.destined, inHand, waits, front, runs, place, Step.bytes]⟩
  | swapped silent runs place writes whole clean spare =>
    have empty := (before.clean _ runs).idle (by rcases place with h | h <;> simp [h])
    have waiting : waits s = true := by rcases place with h | h <;> simp [waits, runs, h]
    refine ⟨told, fun _ => waiting, ?_⟩
    simp [AsyncLogging.destined, inHand, waiting, runs, empty, whole, silent]
    simp [waits, writes]
  | wrote runs place whole recycled =>
    have clean := before.clean _ runs
    obtain ⟨_, _, empty⟩ := recycle_clean _ _ clean.first clean.second recycled
    exact ⟨told, by simp [waits, told],
      by simp [AsyncLogging.destined, inHand, waits, runs, place, empty, told, whole]⟩

/-- After the flag is cleared exactly what waits for the thread is written, with what comes
in before its swap. -/
theorem run_destined (build : Build) (after : List Step) {all : List UInt8}
    {s final : AsyncLogging} (told : s.running = false) (before : Accounted all s)
    (once : ∀ a ∈ after, a ≠ .start ∧ a ≠ .stopFlag)
    (calm : (machine build).Allowed Calm s after) (ran : (machine build).run s after = .ok final) :
    ∃ late, destined final = destined s ++ late ∧ (waits s = false → late = []) ∧
      (late = [] ↔ (machine build).Allowed Covered s after) := by
  induction after generalizing s all with
  | nil =>
    cases ran
    exact ⟨[], by simp, fun _ => rfl, by simp [Library.Machine.Allowed]⟩
  | cons a rest ih =>
    obtain ⟨next, taken, ran⟩ := Library.Machine.run_cons.mp ran
    have took := step_took build before calm.1 taken
    obtain ⟨told', fewer, grown⟩ := took.destined before told (once a (by simp)).1
    obtain ⟨late, later, settled, exact'⟩ :=
      ih told' (took.accounted before) (fun a member => once a (by simp [member]))
        (calm.2 next taken) ran
    have covered : (if waits s then a.bytes else []) = [] ↔ Covered s a := by
      cases a with
      | stopFlag => exact absurd rfl (once _ (by simp)).2
      | append logline => cases place : waits s <;> simp [Covered, Step.bytes, told, place]
      | start | join | enter | lock | wake | write => simp [Covered, Step.bytes]
    refine ⟨(if waits s then a.bytes else []) ++ late, ?_, fun past => ?_, ?_⟩
    · rw [later, grown, List.append_assoc]
    · have past' : waits next = false := by
        rw [← Bool.not_eq_true]
        exact fun waiting => absurd (fewer waiting) (by simp [past])
      simp [past, settled past']
    · rw [List.append_eq_nil_iff, covered, exact', Library.Machine.Allowed]
      simp [taken]

/-- While the logger runs nothing is lost. -/
theorem run_accounted (build : Build) (before : List Step) {all : List UInt8}
    {s mid : AsyncLogging} (running : s.running = true) (accounted : Accounted all s)
    (once : ∀ a ∈ before, a ≠ .start ∧ a ≠ .stopFlag)
    (calm : (machine build).Allowed Calm s before)
    (ran : (machine build).run s before = .ok mid) :
    Accounted (all ++ before.flatMap Step.bytes) mid ∧ mid.running = true ∧
      (machine build).Allowed Covered s before := by
  induction before generalizing s all with
  | nil =>
    cases ran
    exact ⟨by simpa using accounted, running, trivial⟩
  | cons a rest ih =>
    obtain ⟨next, taken, ran⟩ := Library.Machine.run_cons.mp ran
    have took := step_took build accounted calm.1 taken
    have running' : next.running = true := by
      cases took with
      | told => exact absurd rfl (once _ (by simp)).2
      | appended _ _ same => exact same.trans running
      | started => rfl
      | nothing | joined | entered | slept | swapped | wrote => exact running
    have covered : Covered s a := by
      cases a with
      | stopFlag => exact absurd rfl (once _ (by simp)).2
      | append => simp [Covered, running]
      | start | join | enter | lock | wake | write => trivial
    obtain ⟨accounted', last, allowed⟩ :=
      ih running' (took.accounted accounted) (fun a member => once a (by simp [member]))
        (calm.2 next taken) ran
    refine ⟨by simpa using accounted', last, covered, fun next' taken' => ?_⟩
    cases taken.symm.trans taken'
    exact allowed

/-- The log file gets exactly what was appended before `stop`, if and only if the front was
empty or yet to be taken when `running_` was cleared, and nothing came in between that and
the last swap. -/
theorem shutdown_iff (build : Build) (before after : List Step) (s : AsyncLogging)
    (once : ∀ a ∈ before ++ after, a ≠ .start ∧ a ≠ .stopFlag)
    (calm : (machine build).Allowed Calm {} (.start :: before ++ .stopFlag :: after))
    (ran : (machine build).run {} (.start :: before ++ .stopFlag :: after) = .ok s)
    (returned : s.thread = none) :
    s.output.flatten = before.flatMap Step.bytes ↔
      (machine build).Allowed Covered {} (.start :: before ++ .stopFlag :: after) := by
  have first : ∀ a ∈ before, a ≠ .start ∧ a ≠ .stopFlag :=
    fun a member => once a (List.mem_append_left _ member)
  have second : ∀ a ∈ after, a ≠ .start ∧ a ≠ .stopFlag :=
    fun a member => once a (List.mem_append_right _ member)
  have started : (machine build).step {} .start = .ok { running := true, thread := some {} } := rfl
  have fresh : Accounted [] { running := true, thread := some {} } :=
    (Took.started rfl).accounted .fresh
  obtain ⟨_, calm⟩ := calm
  have calm := calm _ started
  rw [List.cons_append, Library.Machine.run, started] at ran
  obtain ⟨mid, ran1, ran2⟩ := Library.Machine.run_split ran
  obtain ⟨calm1, calm2⟩ := (Library.Machine.allowed_append ran1 _).mp calm
  obtain ⟨accounted, _, covered1⟩ := run_accounted build before rfl fresh first calm1 ran1
  have cleared : (machine build).step mid .stopFlag = .ok { mid with running := false } := rfl
  rw [Library.Machine.run, cleared] at ran2
  obtain ⟨late, written, settled, exact'⟩ :=
    run_destined build after rfl (Took.told.accounted accounted) second (calm2.2 _ cleared) ran2
  have output : s.output.flatten = destined { mid with running := false } ++ late := by
    rw [← written]
    simp [destined, inHand, waits, returned]
  have balance : mid.output.flatten ++ inHand mid ++ front mid = before.flatMap Step.bytes := by
    simpa using accounted.balance
  have split : (machine build).Allowed Covered {} (.start :: before ++ .stopFlag :: after) ↔
      Covered mid .stopFlag ∧ (machine build).Allowed Covered { mid with running := false } after := by
    rw [List.cons_append, Library.Machine.Allowed, started]
    simp only [Except.ok.injEq, forall_eq', Library.Machine.allowed_append ran1, covered1,
      Library.Machine.Allowed, cleared]
    simp [Covered]
  rw [split, output, ← balance, ← exact']
  by_cases taken : Covered mid .stopFlag
  · -- the thread will have written the whole front
    have whole : destined { mid with running := false } =
        mid.output.flatten ++ inHand mid ++ front mid := by
      simp only [destined]
      rcases taken with empty | waiting
      · have empty' : front { mid with running := false } = [] := empty
        simp [empty, empty', inHand]
      · have waiting' : waits { mid with running := false } = true := waiting
        simp [waiting', inHand, front]
    rw [whole]
    simp [taken]
  · obtain ⟨full, past⟩ := not_or.mp taken
    have past' : waits { mid with running := false } = false := by simpa [waits] using past
    have short : destined { mid with running := false } = mid.output.flatten ++ inHand mid := by
      simp [destined, past', inHand]
    rw [short, settled past']
    simp [taken, full]

/-- The flag is cleared while the thread writes; a line came in after its swap. -/
def lastWords : List Step := [.enter, .lock, .append (utf8 "a\n"), .wake, .append (utf8 "b\n")]

def ending : List Step := [.write (utf8 "20250101 00:00:00.000000"), .join]

theorem lastWords_calm :
    (machine .release).Allowed Calm {} (.start :: lastWords ++ .stopFlag :: ending) := by
  have few : ([] : List (Option Buffer)).length < 25 := by decide
  refine .cons trivial rfl (.cons trivial rfl (.cons (fun _ _ _ => few) rfl ?_))
  have first : (utf8 "a\n").length < kLargeBuffer := by decide
  have second : (utf8 "b\n").length < kLargeBuffer := by decide
  refine .cons first rfl (.cons (fun _ _ _ => few) rfl (.cons second rfl ?_))
  exact .cons trivial rfl (.cons trivial rfl (.cons trivial rfl trivial))

/-- `stop` returns, and the second line is still at the front. -/
theorem last_line_lost :
    ∃ s, (machine .release).Allowed Calm {} (.start :: lastWords ++ .stopFlag :: ending) ∧
      (machine .release).run {} (.start :: lastWords ++ .stopFlag :: ending) = .ok s ∧
      s.thread = none ∧ s.output.flatten ≠ lastWords.flatMap Step.bytes ∧
      front s = utf8 "b\n" :=
  ⟨_, lastWords_calm, rfl, rfl, by decide, rfl⟩

theorem last_line_uncovered :
    ¬ (machine .release).Allowed Covered {} (.start :: lastWords ++ .stopFlag :: ending) := by
  have exact' := shutdown_iff .release lastWords ending _ (by decide) lastWords_calm rfl rfl
  exact fun covered => absurd (exact'.mpr covered) (by decide)

end Mhost.Log.AsyncLogging
