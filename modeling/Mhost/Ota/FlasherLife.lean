import Mhost.Ota.OtaFlasher

/-!
# The life of a flashing child

What the flasher still waits for: end of file on the pipe, the queued `detachPipe`, or the
next `pollReap` (OtaFlasher.cc:140-239). The phase says which, and whose callbacks are
installed; the rules carry a property of the owner through every continuation, the exit
callback included, which may start the next child.
-/
namespace Mhost.Ota.OtaFlasher
open Library (Text)

variable {κ τ : Type}

/-- A child runs and has not been reported. -/
structure Alive (f : OtaFlasher κ) (callbacks : κ) : Prop where
  pid : 0 < f.pid
  exited : f.exited = false
  lineCb : f.lineCb = some callbacks
  exitCb : f.exitCb = some callbacks

/-- The pipe is gone and the loop holds nothing of the flasher. -/
structure Detached (f : OtaFlasher κ) : Prop where
  pipe : f.pipe = none
  queue : f.detachQueued = 0
  timers : f.reapTimers = []

inductive Phase (f : OtaFlasher κ) : Option κ → Prop where
  | idle (stopped : f.pid = 0) (detached : Detached f) : Phase f none
  | reading {callbacks : κ} (alive : Alive f callbacks) (pipe : f.pipe = some { reading := true })
      (fresh : f.detachScheduled = false) (queue : f.detachQueued = 0)
      (timers : f.reapTimers = []) : Phase f (some callbacks)
  | detaching {callbacks : κ} (alive : Alive f callbacks)
      (pipe : f.pipe = some { reading := false }) (scheduled : f.detachScheduled = true)
      (queue : f.detachQueued = 1) (timers : f.reapTimers = []) : Phase f (some callbacks)
  | reaping {callbacks : κ} (alive : Alive f callbacks) (pipe : f.pipe = none)
      (queue : f.detachQueued = 0) (tries : Nat) (timer : f.reapTimers = [tries]) :
      Phase f (some callbacks)

/-- The property of the owner goes with the child that runs and its process, if any. -/
def Good (holds : Option κ → Nat → τ → Prop) (s : OtaFlasher κ × τ) : Prop :=
  ∃ child, Phase s.1 child ∧ holds child s.1.pid s.2

/-- What the continuations ask of the environment while the child of `callbacks` runs. The
exit callback finds the flasher idle, and is free to start another child. -/
structure Guards (env : Env κ τ) (holds : Option κ → Nat → τ → Prop) : Prop where
  waitpid : ∀ callbacks pid t, holds (some callbacks) pid t →
    holds (some callbacks) pid (env.waitpid pid t).2
  lastResort : ∀ callbacks pid t, holds (some callbacks) pid t →
    holds (some callbacks) pid (env.waitpidBlocking pid (env.signalGroup .kill pid t).2).2
  onLine : ∀ callbacks pid line t, holds (some callbacks) pid t →
    holds (some callbacks) pid (env.onLine callbacks line t)
  onExit : ∀ callbacks pid ok exitStatus f t, Phase f none → holds (some callbacks) pid t →
    Good holds (env.onExit callbacks ok exitStatus (f, t))

variable {env : Env κ τ} {holds : Option κ → Nat → τ → Prop} {f : OtaFlasher κ} {t : τ}
  {child : Option κ} {callbacks : κ}

theorem Phase.fresh : Phase ({} : OtaFlasher κ) none :=
  .idle rfl ⟨rfl, rfl, rfl⟩

theorem Phase.alive (phase : Phase f (some callbacks)) : Alive f callbacks := by
  cases phase with
  | reading alive | detaching alive | reaping alive => exact alive

theorem Phase.running_iff (phase : Phase f child) : f.running = true ↔ child.isSome = true := by
  cases phase with
  | idle stopped => simp [running, stopped]
  | reading alive | detaching alive | reaping alive => simp [running, alive.pid]

theorem Phase.stopped (phase : Phase f none) : f.pid = 0 ∧ Detached f := by
  cases phase with
  | idle stopped detached => exact ⟨stopped, detached⟩

/-- The line that is being collected is of no account. -/
theorem Phase.text (phase : Phase f child) (lineBuf : Text) :
    Phase { f with lineBuf } child := by
  cases phase with
  | idle stopped detached => exact .idle stopped ⟨detached.1, detached.2, detached.3⟩
  | reading alive pipe fresh queue timers =>
    exact .reading ⟨alive.1, alive.2, alive.3, alive.4⟩ pipe fresh queue timers
  | detaching alive pipe scheduled queue timers =>
    exact .detaching ⟨alive.1, alive.2, alive.3, alive.4⟩ pipe scheduled queue timers
  | reaping alive pipe queue tries timer =>
    exact .reaping ⟨alive.1, alive.2, alive.3, alive.4⟩ pipe queue tries timer

theorem Phase.killTimers (phase : Phase f child) (killTimers : Nat) :
    Phase { f with killTimers } child := by
  cases phase with
  | idle stopped detached => exact .idle stopped ⟨detached.1, detached.2, detached.3⟩
  | reading alive pipe fresh queue timers =>
    exact .reading ⟨alive.1, alive.2, alive.3, alive.4⟩ pipe fresh queue timers
  | detaching alive pipe scheduled queue timers =>
    exact .detaching ⟨alive.1, alive.2, alive.3, alive.4⟩ pipe scheduled queue timers
  | reaping alive pipe queue tries timer =>
    exact .reaping ⟨alive.1, alive.2, alive.3, alive.4⟩ pipe queue tries timer

/-! ### Reading -/

section
variable (told : ∀ callbacks pid line t, holds (some callbacks) pid t →
  holds (some callbacks) pid (env.onLine callbacks line t))

/-- Reading moves the line buffer and tells the owner lines, and does nothing else. -/
def Heard (holds : Option κ → Nat → τ → Prop) (callbacks : κ) (f : OtaFlasher κ)
    (s : OtaFlasher κ × τ) : Prop :=
  ∃ lineBuf, s.1 = { f with lineBuf } ∧ holds (some callbacks) f.pid s.2

include told in
theorem emitLine_heard (alive : Alive f callbacks)
    (before : holds (some callbacks) f.pid t) : Heard holds callbacks f (emitLine env (f, t)) := by
  unfold emitLine
  dsimp only
  split
  · exact ⟨f.lineBuf, rfl, before⟩
  · refine ⟨[], rfl, ?_⟩
    simp only [alive.lineCb]
    exact told _ _ _ _ before

theorem Heard.again {s s' : OtaFlasher κ × τ} (first : Heard holds callbacks f s)
    (later : Heard holds callbacks s.1 s') : Heard holds callbacks f s' := by
  obtain ⟨_, same, _⟩ := first
  obtain ⟨lineBuf, same', after⟩ := later
  rw [same] at same' after
  exact ⟨lineBuf, same', after⟩

theorem Heard.alive {s : OtaFlasher κ × τ} (heard : Heard holds callbacks f s)
    (alive : Alive f callbacks) : Alive s.1 callbacks := by
  obtain ⟨_, same, _⟩ := heard
  rw [same]
  exact ⟨alive.1, alive.2, alive.3, alive.4⟩

theorem Heard.still {s : OtaFlasher κ × τ} (heard : Heard holds callbacks f s) :
    holds (some callbacks) s.1.pid s.2 := by
  obtain ⟨_, same, after⟩ := heard
  rw [same]
  exact after

include told in
theorem takeByte_heard (c : UInt8) (alive : Alive f callbacks)
    (before : holds (some callbacks) f.pid t) : Heard holds callbacks f (takeByte env (f, t) c) := by
  unfold takeByte
  split
  · exact emitLine_heard told alive before
  · exact ⟨_, rfl, before⟩

include told in
theorem takeBytes_heard (bytes : List UInt8)
    (alive : Alive f callbacks) (before : holds (some callbacks) f.pid t) :
    Heard holds callbacks f (bytes.foldl (takeByte env) (f, t)) := by
  induction bytes generalizing f t with
  | nil => exact ⟨f.lineBuf, rfl, before⟩
  | cons c rest ih =>
    have first := takeByte_heard told c alive before
    exact first.again (ih (first.alive alive) first.still)

theorem Heard.good {s : OtaFlasher κ × τ} (heard : Heard holds callbacks f s)
    (phase : Phase f (some callbacks)) : Good holds s := by
  have after := heard.still
  obtain ⟨lineBuf, same, _⟩ := heard
  exact ⟨some callbacks, same ▸ phase.text lineBuf, after⟩

include told in
theorem scheduleDetachPipe_good (phase : Phase f child)
    (before : holds child f.pid t) : Good holds (scheduleDetachPipe env (f, t)) := by
  unfold scheduleDetachPipe
  dsimp only
  split
  · exact ⟨child, phase, before⟩
  next open' =>
    cases phase with
    | idle _ detached => simp [detached.pipe] at open'
    | reaping _ pipe => simp [pipe] at open'
    | detaching _ _ scheduled => simp [scheduled] at open'
    | @reading callbacks alive pipe fresh queue timers =>
      have alive' : Alive { f with detachScheduled := true } callbacks :=
        ⟨alive.1, alive.2, alive.3, alive.4⟩
      have heard := emitLine_heard told alive' before
      generalize emitLine env ({ f with detachScheduled := true }, t) = s at heard ⊢
      obtain ⟨f', t'⟩ := s
      obtain ⟨lineBuf, rfl, after⟩ := heard
      refine ⟨some callbacks, .detaching ⟨alive.1, alive.2, alive.3, alive.4⟩ ?_ rfl ?_ timers, after⟩
      · simp [pipe]
      · simp [queue]

include told in
theorem onReadable_good (reads : List ReadResult)
    (phase : Phase f child) (before : holds child f.pid t) :
    Good holds (onReadable env reads (f, t)) := by
  induction reads generalizing f t child with
  | nil => exact ⟨child, phase, before⟩
  | cons result rest ih =>
    unfold onReadable
    split
    · exact ⟨child, phase, before⟩
    next open' =>
      cases result with
      | data bytes =>
        cases child with
        | none => simp [phase.stopped.2.pipe] at open'
        | some callbacks =>
          obtain ⟨child', phase', after⟩ :=
            (takeBytes_heard told bytes phase.alive before).good phase
          exact ih phase' after
      | eof | failed => exact scheduleDetachPipe_good told phase before
      | again => exact ⟨child, phase, before⟩
      | interrupted => exact ih phase before

end

/-! ### Reaping -/

theorem finish_good (guards : Guards env holds) (exitStatus : Int32) (alive : Alive f callbacks)
    (detached : Detached f) (before : holds (some callbacks) f.pid t) :
    Good holds (finish env exitStatus (f, t)) := by
  unfold finish
  simp only [alive.exitCb]
  exact guards.onExit _ f.pid _ _ _ _ (.idle rfl ⟨detached.1, detached.2, detached.3⟩) before

/-- What a look at a child comes to: its status, once it is waited for. -/
def looked (env : Env κ τ) (tries pid : Nat) (t : τ) : Option Int32 × τ :=
  match env.waitpid pid t with
  | (.reaped status, t) => (some status, t)
  | (.running, t) | (.interrupted, t) =>
      if tries < 200 then (none, t)
      else
        let (status, t) := env.waitpidBlocking pid (env.signalGroup .kill pid t).2
        (some (status.getD (-1)), t)
  | (.failed, t) => (some (-1), t)

/-- A child is reported as soon as it is waited for, or looked at again later. -/
theorem pollReap_looked (alive : Alive f callbacks) (tries : Nat) :
    pollReap env tries (f, t) =
      match looked env tries f.pid t with
      | (none, t) => ({ f with reapTimers := f.reapTimers ++ [tries + 1] }, t)
      | (some status, t) => finish env status (f, t) := by
  have live : ¬ (!f.running || f.exited) = true := by
    simp [running, alive.pid, alive.exited]
  unfold pollReap looked
  dsimp only
  rw [if_neg live]
  generalize env.waitpid f.pid t = answer
  obtain ⟨result, t'⟩ := answer
  cases result with
  | reaped | failed => rfl
  | running | interrupted =>
    dsimp only
    split
    · rfl
    · rcases last : env.waitpidBlocking f.pid (env.signalGroup .kill f.pid t').2 with ⟨status, t''⟩
      cases status <;> simp only [last, Option.getD]

theorem looked_guarded (guards : Guards env holds) (tries : Nat)
    (before : holds (some callbacks) f.pid t) :
    holds (some callbacks) f.pid (looked env tries f.pid t).2 := by
  have waited := guards.waitpid callbacks f.pid t before
  unfold looked
  generalize env.waitpid f.pid t = answer at waited ⊢
  obtain ⟨result, t'⟩ := answer
  cases result with
  | reaped | failed => exact waited
  | running | interrupted =>
    dsimp only
    split
    · exact waited
    · exact guards.lastResort callbacks f.pid t' waited

theorem pollReap_good (guards : Guards env holds) (tries : Nat) (alive : Alive f callbacks)
    (detached : Detached f) (before : holds (some callbacks) f.pid t) :
    Good holds (pollReap env tries (f, t)) := by
  have after := looked_guarded guards tries before
  rw [pollReap_looked alive]
  generalize looked env tries f.pid t = answer at after ⊢
  obtain ⟨status, t'⟩ := answer
  cases status with
  | some status => exact finish_good guards status alive detached after
  | none =>
    refine ⟨some callbacks, .reaping ?_ detached.pipe detached.queue (tries + 1) ?_, after⟩
    · exact ⟨alive.1, alive.2, alive.3, alive.4⟩
    · simp [detached.timers]

theorem detachPipe_good (guards : Guards env holds) (phase : Phase f child)
    (before : holds child f.pid t) (queued : f.detachQueued > 0) :
    Good holds (detachPipe env (f, t)) := by
  cases phase with
  | idle _ detached => simp [detached.queue] at queued
  | reading _ _ _ queue => simp [queue] at queued
  | reaping _ _ queue => simp [queue] at queued
  | detaching alive pipe scheduled queue timers =>
    have piped : ¬ (f.pipe.isNone = true) := by simp [pipe]
    unfold detachPipe
    dsimp only
    rw [if_neg piped]
    exact pollReap_good guards 0 ⟨alive.1, alive.2, alive.3, alive.4⟩
      ⟨rfl, by simp [queue], timers⟩ before

theorem reapTimer_good (guards : Guards env holds) (i : Nat) (phase : Phase f child)
    (before : holds child f.pid t) : Good holds (reapTimer env i (f, t)) := by
  unfold reapTimer
  cases armed : f.reapTimers[i]? with
  | none => exact ⟨child, phase, before⟩
  | some tries =>
    cases phase with
    | idle _ detached => simp [detached.timers] at armed
    | reading _ _ _ _ timers => simp [timers] at armed
    | detaching _ _ _ _ timers => simp [timers] at armed
    | reaping alive pipe queue tries' timer =>
      have only : i = 0 := by
        rw [timer] at armed
        have inside := (List.getElem?_eq_some_iff.mp armed).1
        simpa using inside
      exact pollReap_good guards tries ⟨alive.1, alive.2, alive.3, alive.4⟩
        ⟨pipe, queue, by simp [timer, only]⟩ before

/-! ### Starting and stopping -/

/-- With a child running `start` is refused; otherwise it answers what `spawn` does, and
what it leaves behind waits for the pipe. -/
inductive Started (env : Env κ τ) (argv : List Text) (callbacks : κ) (f : OtaFlasher κ) (t : τ) :
    Bool × (OtaFlasher κ × τ) → Prop where
  | refused (no : f.running = true ∨ argv = []) : Started env argv callbacks f t (false, (f, t))
  | failed (result : SpawnResult) (asked : (env.spawn argv t).1 = result)
      (bad : ∀ pid positive, result ≠ .started pid positive) (given : argv ≠ [])
      (free : f.running = false) :
      Started env argv callbacks f t (false, (f, (env.spawn argv t).2))
  | started (pid : Nat) (positive : 0 < pid)
      (asked : (env.spawn argv t).1 = .started pid positive) (given : argv ≠ [])
      (free : f.running = false) (f' : OtaFlasher κ) (same : f'.pid = pid)
      (phase : f.detachQueued = 0 → f.reapTimers = [] → Phase f' (some callbacks)) :
      Started env argv callbacks f t (true, (f', (env.spawn argv t).2))

theorem start_cases (env : Env κ τ) (argv : List Text) (callbacks : κ) (f : OtaFlasher κ) (t : τ) :
    Started env argv callbacks f t (start env argv callbacks (f, t)) := by
  unfold start
  dsimp only
  split
  next busy => exact .refused (.inl busy)
  next free =>
    have free : f.running = false := by simpa using free
    split
    next empty => exact .refused (.inr (List.isEmpty_iff.mp empty))
    next given =>
      have given : argv ≠ [] := by simpa using given
      rcases asked : env.spawn argv t with ⟨result, t'⟩
      have second : (env.spawn argv t).2 = t' := by rw [asked]
      have first : (env.spawn argv t).1 = result := by rw [asked]
      cases result with
      | pipeFailed | spawnFailed =>
        exact second ▸ .failed _ first (by simp) given free
      | started pid positive =>
        refine second ▸ .started pid positive first given free _ rfl fun queue timers => ?_
        exact .reading ⟨positive, rfl, rfl, rfl⟩ rfl rfl queue timers

/-- `killGroup` asks for a signal to the group of the child that runs, if there is one. -/
theorem killGroup_good
    (signalled : ∀ callbacks, child = some callbacks →
      holds (some callbacks) f.pid (env.signalGroup .term f.pid t).2)
    (phase : Phase f child) (before : holds child f.pid t) : Good holds (killGroup env (f, t)) := by
  unfold killGroup
  dsimp only
  cases child with
  | none =>
    rw [if_pos (by simp [running, phase.stopped.1])]
    exact ⟨none, phase, before⟩
  | some callbacks =>
    have alive := phase.alive
    have after := signalled callbacks rfl
    rw [if_neg (by simp [running, alive.pid, alive.exited])]
    split
    · exact ⟨some callbacks, phase, after⟩
    · exact ⟨some callbacks, phase.killTimers _, after⟩

/-- The escalation looks at the child that runs when it fires. -/
theorem escalate_good
    (looked : ∀ callbacks, child = some callbacks →
      holds (some callbacks) f.pid (env.groupAlive f.pid t).2)
    (signalled : ∀ callbacks, child = some callbacks → (env.groupAlive f.pid t).1 = true →
      holds (some callbacks) f.pid (env.signalGroup .kill f.pid (env.groupAlive f.pid t).2).2)
    (phase : Phase f child) (before : holds child f.pid t) : Good holds (escalate env (f, t)) := by
  unfold escalate
  dsimp only
  cases child with
  | none =>
    rw [if_neg (by simp [running, phase.stopped.1])]
    exact ⟨none, phase.killTimers _, before⟩
  | some callbacks =>
    have alive := phase.alive
    have after := looked callbacks rfl
    rw [if_pos (by simp [running, alive.pid, alive.exited])]
    split
    next up => exact ⟨some callbacks, phase.killTimers _, signalled callbacks rfl up⟩
    next => exact ⟨some callbacks, phase.killTimers _, after⟩

end Mhost.Ota.OtaFlasher
