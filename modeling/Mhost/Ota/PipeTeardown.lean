import Mhost.Library.Machine
import Mhost.Library.Reentrant
import Mhost.Ota.FlasherReports
import Mhost.Serial.ChannelTeardown

/-!
# When the flasher destroys its channel

OtaFlasher.cc:58-199. The channel calls `onReadable` and `scheduleDetachPipe` synchronously,
and the line callback may call the flasher before it returns. The channel is destroyed by the
queued `detachPipe`, and by a `start` that finds one. The port of the board is beside it, for
the rule is the same (OtaFlasher.cc:183-184).
-/
namespace Mhost.Ota
open Library (Text utf8 Reaction Watched Torn unwatched during)

namespace OtaFlasher
variable {κ τ : Type}

/-- The public calls of the flasher. -/
inductive Call (κ : Type) where
  | start (argv : List Text) (callbacks : κ)
  | killGroup
  deriving DecidableEq, Repr

def Call.make (env : Env κ τ) : Call κ → OtaFlasher κ × τ → OtaFlasher κ × τ
  | .start argv callbacks, s => (OtaFlasher.start env argv callbacks s).2
  | .killGroup, s => OtaFlasher.killGroup env s

/-- What the two callbacks do before they return. -/
structure Callbacks (κ τ : Type) where
  onLine : κ → Text → OtaFlasher κ × τ → Reaction (OtaFlasher κ) τ (Call κ)
  onExit : κ → Bool → Int32 → OtaFlasher κ × τ → Reaction (OtaFlasher κ) τ (Call κ)

/-- The system calls alone. -/
def systemEnv (calls : Calls τ) : Env κ τ where
  spawn := calls.spawn
  signalGroup := calls.signalGroup
  groupAlive := calls.groupAlive
  waitpid := calls.waitpid
  waitpidBlocking := calls.waitpidBlocking
  onLine _ _ t := t
  onExit _ _ _ s := s

def exitingEnv (calls : Calls τ) (cb : Callbacks κ τ) : Env κ τ :=
  { systemEnv calls with
    onExit := fun callbacks ok exitStatus s =>
      (cb.onExit callbacks ok exitStatus s).run (Call.make (systemEnv calls)) s }

/-! ### Reading, when the line callback may call the flasher -/

section
variable (lineCb : κ → Text → OtaFlasher κ × τ → OtaFlasher κ × τ)

def emitLineTo (s : OtaFlasher κ × τ) : OtaFlasher κ × τ :=
  if s.1.lineBuf.isEmpty then s
  else
    let s := match s.1.lineCb with
      | some callbacks => lineCb callbacks s.1.lineBuf s
      | none => s
    ({ s.1 with lineBuf := [] }, s.2)

def scheduleDetachPipeTo (s : OtaFlasher κ × τ) : OtaFlasher κ × τ :=
  if s.1.pipe.isNone || s.1.detachScheduled then s
  else
    let s := emitLineTo lineCb ({ s.1 with detachScheduled := true }, s.2)
    ({ s.1 with pipe := s.1.pipe.map fun _ => { reading := false }
                detachQueued := s.1.detachQueued + 1 }, s.2)

def takeByteTo (s : OtaFlasher κ × τ) (c : UInt8) : OtaFlasher κ × τ :=
  if c = 10 ∨ c = 13 then emitLineTo lineCb s
  else
    let lineBuf := s.1.lineBuf ++ [c]
    ({ s.1 with lineBuf := if lineBuf.length > 8192 then [] else lineBuf }, s.2)

def onReadableTo : List ReadResult → OtaFlasher κ × τ → OtaFlasher κ × τ
  | [], s => s
  | result :: rest, s =>
      if s.1.pipe.isNone then s
      else
        match result with
        | .data bytes => onReadableTo rest (bytes.foldl (takeByteTo lineCb) s)
        | .eof => scheduleDetachPipeTo lineCb s
        | .again => s
        | .interrupted => onReadableTo rest s
        | .failed => scheduleDetachPipeTo lineCb s

end

/-! ### The watch -/

/-- One of the calls of the source, which destroys a channel or not. -/
def watching (destroys : Bool) (act : OtaFlasher κ × τ → OtaFlasher κ × τ)
    (s : OtaFlasher κ × Watched τ) : OtaFlasher κ × Watched τ :=
  ((act (unwatched s)).1,
    { (if destroys then s.2.reset else s.2) with owner := (act (unwatched s)).2 })

/-- A start that succeeds assigns `channel_`; the channel that was there is destroyed. -/
def Call.destroys (env : Env κ τ) : Call κ → OtaFlasher κ × τ → Bool
  | .start argv callbacks, s => (OtaFlasher.start env argv callbacks s).1 && s.1.pipe.isSome
  | .killGroup, _ => false

def Call.watched (calls : Calls τ) (c : Call κ) (s : OtaFlasher κ × Watched τ) :
    OtaFlasher κ × Watched τ :=
  watching (c.destroys (systemEnv calls) (unwatched s)) (c.make (systemEnv calls)) s

/-- The line callback on a watched flasher. -/
def telling (calls : Calls τ) (cb : Callbacks κ τ) (callbacks : κ) (line : Text)
    (s : OtaFlasher κ × Watched τ) : OtaFlasher κ × Watched τ :=
  (cb.onLine callbacks line (unwatched s)).watched.run (Call.watched calls) s

/-- What the channel calls. -/
inductive Event where
  | readable (reads : List ReadResult)
  | hup
  | error
  deriving DecidableEq, Repr

def Event.handle (lineCb : κ → Text → OtaFlasher κ × τ → OtaFlasher κ × τ) :
    Event → OtaFlasher κ × τ → OtaFlasher κ × τ
  | .readable reads => onReadableTo lineCb reads
  | .hup | .error => scheduleDetachPipeTo lineCb

/-- A channel that is gone when its callback returns was destroyed in it. -/
def Event.watched (calls : Calls τ) (cb : Callbacks κ τ) (e : Event)
    (s : OtaFlasher κ × Watched τ) : OtaFlasher κ × Watched τ :=
  let after := e.handle (telling calls cb) s
  if s.1.pipe.isSome && after.1.pipe.isNone then (after.1, after.2.reset) else after

inductive Step (κ : Type) where
  | call (c : Call κ)
  | event (e : Event)
  | functor
  | reapTimer (i : Nat)
  | killTimer
  deriving DecidableEq, Repr

/-- Calls from the loop, functors and timers run when no callback of the channel does;
functors and timers when they are queued. -/
def step (calls : Calls τ) (cb : Callbacks κ τ) (s : OtaFlasher κ × Watched τ) :
    Step κ → OtaFlasher κ × Watched τ
  | .call c => c.watched calls s
  | .event e => during (fun f => f.pipe.isSome) (e.watched calls cb) s
  | .functor =>
      if s.1.detachQueued > 0 then watching s.1.pipe.isSome (detachPipe (exitingEnv calls cb)) s
      else s
  | .reapTimer i => watching false (reapTimer (exitingEnv calls cb) i) s
  | .killTimer =>
      if s.1.killTimers > 0 then watching false (escalate (exitingEnv calls cb)) s else s

def pipeMachine (calls : Calls τ) (cb : Callbacks κ τ) :
    Library.Machine (OtaFlasher κ × Watched τ) (Step κ) Empty :=
  ⟨fun s a => .ok (step calls cb s a)⟩

/-! ### In a callback -/

variable (calls : Calls τ) (cb : Callbacks κ τ) {f : OtaFlasher κ} {s : OtaFlasher κ × Watched τ}

/-- A callback of the channel is running that has done nothing to the flasher but to its line
and its kill timers. -/
structure Serving (f : OtaFlasher κ) (s : OtaFlasher κ × Watched τ) : Prop where
  same : ∃ lineBuf killTimers, s.1 = { f with lineBuf, killTimers }
  handling : s.2.handling = true
  torn : s.2.torn = false

theorem Serving.text (serving : Serving f s) (lineBuf : Text) :
    Serving f ({ s.1 with lineBuf }, s.2) := by
  obtain ⟨_, killTimers, same⟩ := serving.same
  exact ⟨⟨lineBuf, killTimers, by rw [same]⟩, serving.handling, serving.torn⟩

theorem killGroup_timers (env : Env κ τ) (s : OtaFlasher κ × τ) :
    ∃ killTimers, (OtaFlasher.killGroup env s).1 = { s.1 with killTimers } := by
  unfold OtaFlasher.killGroup
  dsimp only
  split
  · exact ⟨s.1.killTimers, rfl⟩
  · split
    · exact ⟨s.1.killTimers, rfl⟩
    · exact ⟨s.1.killTimers + 1, rfl⟩

/-- While a child runs a start is refused, and a kill arms a timer. -/
theorem call_serving (running : f.running = true) (c : Call κ) (serving : Serving f s) :
    Serving f (c.watched calls s) := by
  obtain ⟨f', w⟩ := s
  obtain ⟨lineBuf, killTimers, same⟩ := serving.same
  have same : f' = { f with lineBuf, killTimers } := same
  cases c with
  | start argv callbacks =>
    have busy : f'.running = true := by
      rw [same]
      exact running
    have refused : OtaFlasher.start (systemEnv calls) argv callbacks (f', w.owner) =
        (false, (f', w.owner)) := by
      simp only [OtaFlasher.start, if_pos busy]
    simp only [Call.watched, watching, Call.destroys, Call.make, unwatched, refused]
    exact serving
  | killGroup =>
    obtain ⟨killTimers', armed⟩ := killGroup_timers (systemEnv calls) (f', w.owner)
    refine ⟨⟨lineBuf, killTimers', ?_⟩, serving.handling, serving.torn⟩
    exact armed.trans (by rw [same])

theorem emitLineTo_serving (running : f.running = true) (serving : Serving f s) :
    Serving f (emitLineTo (telling calls cb) s) := by
  unfold emitLineTo
  split
  · exact serving
  · dsimp only
    refine Serving.text ?_ []
    cases s.1.lineCb with
    | none => exact serving
    | some callbacks =>
      exact Reaction.watched_keeps (fun _ _ _ serving => ⟨serving.same, serving.handling, serving.torn⟩)
        (fun c _ => call_serving calls running c) _ serving

theorem takeByteTo_serving (running : f.running = true) (c : UInt8) (serving : Serving f s) :
    Serving f (takeByteTo (telling calls cb) s c) := by
  unfold takeByteTo
  split
  · exact emitLineTo_serving calls cb running serving
  · exact serving.text _

theorem takeBytesTo_serving (running : f.running = true) (bytes : List UInt8)
    (serving : Serving f s) : Serving f (bytes.foldl (takeByteTo (telling calls cb)) s) := by
  induction bytes generalizing s with
  | nil => exact serving
  | cons c rest ih => exact ih (takeByteTo_serving calls cb running c serving)

/-- A callback of the channel is running, and the channel is still there. -/
structure Handling (s : OtaFlasher κ × Watched τ) : Prop where
  phase : ∃ child, Phase s.1 child
  pipe : s.1.pipe.isSome = true
  handling : s.2.handling = true
  torn : s.2.torn = false

theorem Phase.piped {child : Option κ} (phase : Phase f child) (pipe : f.pipe.isSome = true) :
    f.running = true := by
  cases phase with
  | idle _ detached => simp [detached.pipe] at pipe
  | reading alive | detaching alive => simp [running, alive.pid]
  | reaping _ gone => simp [gone] at pipe

theorem Handling.after {s' : OtaFlasher κ × Watched τ} (before : Handling s)
    (serving : Serving s.1 s') : Handling s' := by
  obtain ⟨child, phase⟩ := before.phase
  obtain ⟨lineBuf, killTimers, same⟩ := serving.same
  refine ⟨⟨child, ?_⟩, ?_, serving.handling, serving.torn⟩
  · rw [same]
    exact (phase.text lineBuf).killTimers killTimers
  · rw [same]
    exact before.pipe

/-- The teardown is queued; the channel stays. -/
theorem scheduleDetachPipeTo_handling (before : Handling s) :
    Handling (scheduleDetachPipeTo (telling calls cb) s) := by
  unfold scheduleDetachPipeTo
  split
  · exact before
  next open' =>
    obtain ⟨child, phase⟩ := before.phase
    have runs : s.1.running = true := phase.piped before.pipe
    cases phase with
    | idle _ detached => simp [detached.pipe] at open'
    | reaping _ pipe => simp [pipe] at open'
    | detaching _ _ scheduled => simp [scheduled] at open'
    | @reading callbacks alive pipe fresh queue timers =>
      have entered : Serving { s.1 with detachScheduled := true }
          (({ s.1 with detachScheduled := true }, s.2) : OtaFlasher κ × Watched τ) :=
        ⟨⟨s.1.lineBuf, s.1.killTimers, rfl⟩, before.handling, before.torn⟩
      have told := emitLineTo_serving calls cb
        (show ({ s.1 with detachScheduled := true } : OtaFlasher κ).running = true from runs) entered
      generalize emitLineTo (telling calls cb) ({ s.1 with detachScheduled := true }, s.2) = s' at told ⊢
      obtain ⟨f', w⟩ := s'
      obtain ⟨⟨lineBuf, killTimers, same⟩, handling, torn⟩ := told
      obtain rfl : f' = { s.1 with detachScheduled := true, lineBuf, killTimers } := same
      refine ⟨⟨some callbacks, ?_⟩, by simp [pipe], handling, torn⟩
      exact .detaching ⟨alive.1, alive.2, alive.3, alive.4⟩ (by simp [pipe]) rfl (by simp [queue]) timers

theorem onReadableTo_handling (reads : List ReadResult) (before : Handling s) :
    Handling (onReadableTo (telling calls cb) reads s) := by
  induction reads generalizing s with
  | nil => exact before
  | cons result rest ih =>
    unfold onReadableTo
    split
    · exact before
    · cases result with
      | data bytes =>
        obtain ⟨child, phase⟩ := before.phase
        have entered : Serving s.1 s :=
          ⟨⟨s.1.lineBuf, s.1.killTimers, rfl⟩, before.handling, before.torn⟩
        exact ih (before.after (takeBytesTo_serving calls cb (phase.piped before.pipe) bytes entered))
      | eof | failed => exact scheduleDetachPipeTo_handling calls cb before
      | again => exact before
      | interrupted => exact ih before

theorem event_handling (e : Event) (before : Handling s) : Handling (e.watched calls cb s) := by
  have after : Handling (e.handle (telling calls cb) s) := by
    cases e with
    | readable reads => exact onReadableTo_handling calls cb reads before
    | hup | error => exact scheduleDetachPipeTo_handling calls cb before
  have stays : (e.handle (telling calls cb) s).1.pipe.isNone = false := by
    simpa using after.pipe
  unfold Event.watched
  dsimp only
  rw [if_neg (by simp [stays])]
  exact after

/-- There is no channel to call a flasher that has no pipe. -/
theorem event_detached (e : Event) (gone : s.1.pipe = none) : e.watched calls cb s = s := by
  have same : e.handle (telling calls cb) s = s := by
    cases e with
    | readable reads => cases reads <;> simp [Event.handle, onReadableTo, gone]
    | hup | error => simp [Event.handle, scheduleDetachPipeTo, gone]
  simp [Event.watched, same, gone]
/-! ### Whole runs -/

/-- Nothing is asked of the owner but that the flasher is in a phase. -/
abbrev Phased (s : OtaFlasher κ × τ) : Prop := Good (fun _ _ _ => True) s

theorem call_phased (env : Env κ τ) (c : Call κ) {s : OtaFlasher κ × τ} (phased : Phased s) :
    Phased (c.make env s) := by
  obtain ⟨f, t⟩ := s
  obtain ⟨child, phase, _⟩ := phased
  cases c with
  | start argv callbacks =>
    have cases' := start_cases env argv callbacks f t
    simp only [Call.make]
    generalize OtaFlasher.start env argv callbacks (f, t) = outcome at cases' ⊢
    cases cases' with
    | refused | failed => exact ⟨child, phase, trivial⟩
    | started pid positive asked given free f' same phase' =>
      cases child with
      | some _ => simp [phase.running_iff.mpr rfl] at free
      | none =>
        have detached := phase.stopped.2
        exact ⟨some callbacks, phase' detached.queue detached.timers, trivial⟩
  | killGroup => exact killGroup_good (fun _ _ => trivial) phase trivial

/-- The exit callback finds the flasher idle, and makes calls. -/
theorem exitingEnv_guards :
    Guards (exitingEnv calls cb) (fun _ _ _ => True) where
  waitpid _ _ _ _ := trivial
  lastResort _ _ _ _ := trivial
  onLine _ _ _ _ _ := trivial
  onExit _ _ _ _ _ _ phase _ :=
    Reaction.run_keeps (fun _ _ _ phased => phased) (call_phased (systemEnv calls)) _
      ⟨none, phase, trivial⟩

/-- No callback is running, and none ever destroyed its channel. -/
structure Waiting (s : OtaFlasher κ × Watched τ) : Prop where
  phased : Phased (unwatched s)
  handling : s.2.handling = false
  torn : s.2.torn = false

theorem watching_waiting (destroys : Bool) {act : OtaFlasher κ × τ → OtaFlasher κ × τ}
    (waiting : Waiting s) (after : Phased (act (unwatched s))) :
    Waiting (watching destroys act s) := by
  cases destroys with
  | false => exact ⟨after, waiting.handling, waiting.torn⟩
  | true => exact ⟨after, rfl, by simp [watching, Watched.reset, waiting.handling, waiting.torn]⟩

theorem event_waiting (e : Event) (waiting : Waiting s) :
    Waiting (step calls cb s (.event e)) := by
  obtain ⟨child, phase, _⟩ := waiting.phased
  cases pipe : s.1.pipe with
  | none =>
    have still := event_detached calls cb e
      (s := (s.1, { s.2 with handling := s.1.pipe.isSome })) pipe
    simp only [step, during, still]
    exact ⟨⟨child, phase, trivial⟩, rfl, waiting.torn⟩
  | some p =>
    have there : s.1.pipe.isSome = true := by simp [pipe]
    have entered : Handling (s.1, { s.2 with handling := s.1.pipe.isSome }) :=
      ⟨⟨child, phase⟩, there, there, waiting.torn⟩
    have left := event_handling calls cb e entered
    obtain ⟨child', phase'⟩ := left.phase
    exact ⟨⟨child', phase', trivial⟩, rfl, left.torn⟩

theorem step_waiting (a : Step κ) (waiting : Waiting s) : Waiting (step calls cb s a) := by
  have guards := exitingEnv_guards calls cb
  obtain ⟨child, phase, _⟩ := waiting.phased
  cases a with
  | call c => exact watching_waiting _ waiting (call_phased _ c waiting.phased)
  | event e => exact event_waiting calls cb e waiting
  | functor =>
    simp only [step]
    split
    next queued => exact watching_waiting _ waiting (detachPipe_good guards phase trivial queued)
    next => exact waiting
  | reapTimer i => exact watching_waiting _ waiting (reapTimer_good guards i phase trivial)
  | killTimer =>
    simp only [step]
    split
    next armed =>
      exact watching_waiting _ waiting
        (escalate_good (fun _ _ => trivial) (fun _ _ _ => trivial) phase trivial)
    next => exact waiting

/-- No callback of a channel has destroyed it, and of a channel that an event gave up the
teardown is queued. -/
def Deferred (s : OtaFlasher κ × Watched τ) : Prop :=
  s.2.torn = false ∧ (s.1.pipe = some { reading := false } → 0 < s.1.detachQueued)

theorem Waiting.deferred (waiting : Waiting s) : Deferred s := by
  obtain ⟨child, phase, _⟩ := waiting.phased
  have phase : Phase s.1 child := phase
  refine ⟨waiting.torn, fun disabled => ?_⟩
  cases phase with
  | idle _ detached => simp [detached.pipe] at disabled
  | reading _ pipe => simp [pipe] at disabled
  | detaching _ _ _ queue => simp [queue]
  | reaping _ pipe => simp [pipe] at disabled

/-- In every run, whatever is read, whichever events come and whatever the callbacks call. -/
theorem teardown_deferred (t : τ) (steps : List (Step κ)) :
    (pipeMachine calls cb).Always Deferred ({}, { owner := t }) steps := by
  have start : Waiting (({}, { owner := t }) : OtaFlasher κ × Watched τ) :=
    ⟨⟨none, .fresh, trivial⟩, rfl, rfl⟩
  exact Library.Machine.always_of_kept (fun _ waiting => waiting.deferred)
    (fun s a waiting => ⟨step calls cb s a, rfl, step_waiting calls cb a waiting⟩) start steps

/-! ### Both channels -/

open Serial (SerialPort)

/-- In every run of a port and of a flasher, whatever the system calls answer and whatever
their callbacks call before they return: no channel is destroyed while one of its callbacks
is running, and the flasher queues the teardown instead, if and only if every event of the
port spares its channel. -/
theorem channels_outlive_callbacks_iff {υ : Type} (env : Serial.Env υ)
    (dataCb : SerialPort.DataCallback υ) (u : υ) (events : List SerialPort.Step)
    (t : τ) (steps : List (Step κ)) :
    ((SerialPort.machine env dataCb).Always (fun s => s.2.torn = false) ({}, { owner := u }) events ∧
        (pipeMachine calls cb).Always Deferred ({}, { owner := t }) steps) ↔
      (SerialPort.machine env dataCb).Allowed (SerialPort.Spares env dataCb) ({}, { owner := u })
        events := by
  rw [and_iff_left (teardown_deferred calls cb t steps)]
  exact SerialPort.outlives_iff env dataCb u events

/-- A terminal that opens, takes what is written and tells nobody. -/
def plainTty : Serial.Env Unit where
  openTty t := (true, t)
  write data t := (.wrote data.length, t)
  stateCb _ _ t := t

/-- The port is opened, and the first read finds the end of the file. -/
def unplugged : List SerialPort.Step :=
  [.call (.openDevice 115200), .event (.readable [.eof])]

/-- `handleRead` destroys the channel that calls it. -/
theorem channel_destroyed_reading :
    ¬ (SerialPort.machine plainTty fun _ _ => .returns).Always (fun s => s.2.torn = false)
      ({}, { owner := () }) unplugged := by
  intro always
  obtain ⟨final, ran, spared⟩ := always.ends
  obtain rfl : unplugged.foldl (SerialPort.step plainTty fun _ _ => .returns)
      ({}, { owner := () }) = final := Except.ok.inj ran
  exact absurd spared (by decide)

end OtaFlasher
end Mhost.Ota
