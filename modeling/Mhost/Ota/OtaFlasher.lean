import Mhost.Library.Text

/-!
# The flashing child process

OtaFlasher.h:24-59 and OtaFlasher.cc:58-242, without the destructor. `pipeFd_` and
`channel_` are set and cleared together, so one option stands for both. The functors and
timers the loop holds for the object are counted in its state. System calls and the two
callbacks act on an environment of any type; `κ` says whose callbacks are installed.
-/
namespace Mhost.Ota
open Library (Text)

inductive SpawnResult where
  | pipeFailed
  | spawnFailed
  | started (pid : Nat) (positive : 0 < pid)
  deriving DecidableEq, Repr

inductive Signal where
  | term | kill
  deriving DecidableEq, Repr

inductive WaitResult where
  | reaped (status : Int32)
  | running
  | interrupted
  | failed
  deriving DecidableEq, Repr

inductive ReadResult where
  | data (bytes : List UInt8)
  | eof
  | again
  | interrupted
  | failed
  deriving DecidableEq, Repr

/-- The read end of the pipe; `reading` until `disableAll`. -/
structure Pipe where
  reading : Bool := true
  deriving DecidableEq, Repr

/-- `pid = 0` is no child. `detachQueued`, `reapTimers` and `killTimers` are what the loop
will still call: `detachPipe`, `pollReap` with these tries, the escalation to `SIGKILL`. -/
structure OtaFlasher (κ : Type) where
  pid : Nat := 0
  pipe : Option Pipe := none
  lineBuf : Text := []
  detachScheduled : Bool := false
  lineCb : Option κ := none
  exitCb : Option κ := none
  exited : Bool := false
  detachQueued : Nat := 0
  reapTimers : List Nat := []
  killTimers : Nat := 0
  deriving DecidableEq, Repr

structure Env (κ τ : Type) where
  spawn : List Text → τ → SpawnResult × τ
  /-- `::kill(-pid, signal)`; false is `ESRCH` -/
  signalGroup : Signal → Nat → τ → Bool × τ
  /-- `::kill(-pid, 0) == 0` -/
  groupAlive : Nat → τ → Bool × τ
  /-- `::waitpid` with `WNOHANG` -/
  waitpid : Nat → τ → WaitResult × τ
  /-- the blocking `::waitpid`; `none` is a failure -/
  waitpidBlocking : Nat → τ → Option Int32 × τ
  onLine : κ → Text → τ → τ
  onExit : κ → Bool → Int32 → OtaFlasher κ × τ → OtaFlasher κ × τ

/-! ### `wait` status macros -/

def wtermsig (status : Int32) : UInt32 := status.toUInt32 &&& 0x7F

def wifexited (status : Int32) : Bool := wtermsig status = 0

def wexitstatus (status : Int32) : Nat := ((status.toUInt32 >>> 8) &&& 0xFF).toNat

/-- Neither a normal exit nor the stopped pattern `0x7F`. -/
def wifsignaled (status : Int32) : Bool := wtermsig status ≠ 0 ∧ wtermsig status ≠ 0x7F

namespace OtaFlasher
variable {κ τ : Type}

def running (f : OtaFlasher κ) : Bool := f.pid > 0

def start (env : Env κ τ) (argv : List Text) (callbacks : κ) (s : OtaFlasher κ × τ) :
    Bool × (OtaFlasher κ × τ) :=
  let (f, t) := s
  if f.running then (false, s)
  else if argv.isEmpty then (false, s)
  else
    match env.spawn argv t with
    | (.pipeFailed, t) => (false, (f, t))
    | (.spawnFailed, t) => (false, (f, t))
    | (.started pid _, t) =>
        (true, ({ f with
          pid, pipe := some {}, lineBuf := [], lineCb := some callbacks, exitCb := some callbacks
          exited := false, detachScheduled := false }, t))

def killGroup (env : Env κ τ) (s : OtaFlasher κ × τ) : OtaFlasher κ × τ :=
  let (f, t) := s
  if !f.running || f.exited then s
  else
    let (found, t) := env.signalGroup .term f.pid t
    if !found then (f, t) else ({ f with killTimers := f.killTimers + 1 }, t)

/-- The escalation timer of `killGroup`; it looks at whatever child runs now. -/
def escalate (env : Env κ τ) (s : OtaFlasher κ × τ) : OtaFlasher κ × τ :=
  let (f, t) := s
  let f := { f with killTimers := f.killTimers - 1 }
  if f.running && !f.exited then
    let (alive, t) := env.groupAlive f.pid t
    if alive then (f, (env.signalGroup .kill f.pid t).2) else (f, t)
  else (f, t)

/-- `lineCb_(lineBuf_)` and `clear`, for a buffer that is not empty. -/
def emitLine (env : Env κ τ) (s : OtaFlasher κ × τ) : OtaFlasher κ × τ :=
  let (f, t) := s
  if f.lineBuf.isEmpty then s
  else
    let t := match f.lineCb with
      | some callbacks => env.onLine callbacks f.lineBuf t
      | none => t
    ({ f with lineBuf := [] }, t)

def scheduleDetachPipe (env : Env κ τ) (s : OtaFlasher κ × τ) : OtaFlasher κ × τ :=
  let (f, t) := s
  if f.pipe.isNone || f.detachScheduled then s
  else
    let (f, t) := emitLine env ({ f with detachScheduled := true }, t)
    ({ f with pipe := f.pipe.map fun _ => { reading := false }
              detachQueued := f.detachQueued + 1 }, t)

/-- One byte of a read. -/
def takeByte (env : Env κ τ) (s : OtaFlasher κ × τ) (c : UInt8) : OtaFlasher κ × τ :=
  if c = 10 ∨ c = 13 then emitLine env s
  else
    let lineBuf := s.1.lineBuf ++ [c]
    ({ s.1 with lineBuf := if lineBuf.length > 8192 then [] else lineBuf }, s.2)

/-- `onReadable` on the results of its successive reads, `EAGAIN` when there are no more. -/
def onReadable (env : Env κ τ) : List ReadResult → OtaFlasher κ × τ → OtaFlasher κ × τ
  | [], s => s
  | result :: rest, s =>
      if s.1.pipe.isNone then s
      else
        match result with
        | .data bytes => onReadable env rest (bytes.foldl (takeByte env) s)
        | .eof => scheduleDetachPipe env s
        | .again => s
        | .interrupted => onReadable env rest s
        | .failed => scheduleDetachPipe env s

def finish (env : Env κ τ) (exitStatus : Int32) (s : OtaFlasher κ × τ) : OtaFlasher κ × τ :=
  let (f, t) := s
  let ok := wifexited exitStatus && wexitstatus exitStatus == 0
  match f.exitCb with
  | some callbacks =>
      env.onExit callbacks ok exitStatus ({ f with exited := true, pid := 0, exitCb := none }, t)
  | none => ({ f with exited := true, pid := 0 }, t)

def pollReap (env : Env κ τ) (tries : Nat) (s : OtaFlasher κ × τ) : OtaFlasher κ × τ :=
  let (f, t) := s
  if !f.running || f.exited then s
  else
    match env.waitpid f.pid t with
    | (.reaped status, t) => finish env status (f, t)
    | (.running, t) | (.interrupted, t) =>
        if tries < 200 then ({ f with reapTimers := f.reapTimers ++ [tries + 1] }, t)
        else
          match env.waitpidBlocking f.pid (env.signalGroup .kill f.pid t).2 with
          | (some status, t) => finish env status (f, t)
          | (none, t) => finish env (-1) (f, t)
    | (.failed, t) => finish env (-1) (f, t)

/-- The queued functor. -/
def detachPipe (env : Env κ τ) (s : OtaFlasher κ × τ) : OtaFlasher κ × τ :=
  let f := { s.1 with detachQueued := s.1.detachQueued - 1 }
  if f.pipe.isNone then (f, s.2)
  else pollReap env 0 ({ f with pipe := none, detachScheduled := false }, s.2)

/-- The `i`-th armed reap timer fires. -/
def reapTimer (env : Env κ τ) (i : Nat) (s : OtaFlasher κ × τ) : OtaFlasher κ × τ :=
  match s.1.reapTimers[i]? with
  | none => s
  | some tries => pollReap env tries ({ s.1 with reapTimers := s.1.reapTimers.eraseIdx i }, s.2)

end OtaFlasher

/-! ### What the calls leave alone -/

/-- A property of the environment that the system calls and both callbacks preserve. -/
structure Env.Keeps {κ τ : Type} (env : Env κ τ) (holds : τ → Prop) : Prop where
  spawn : ∀ argv t, holds t → holds (env.spawn argv t).2
  signalGroup : ∀ sig pid t, holds t → holds (env.signalGroup sig pid t).2
  groupAlive : ∀ pid t, holds t → holds (env.groupAlive pid t).2
  waitpid : ∀ pid t, holds t → holds (env.waitpid pid t).2
  waitpidBlocking : ∀ pid t, holds t → holds (env.waitpidBlocking pid t).2
  onLine : ∀ callbacks line t, holds t → holds (env.onLine callbacks line t)
  onExit : ∀ callbacks ok exitStatus s, holds s.2 → holds (env.onExit callbacks ok exitStatus s).2

namespace OtaFlasher
variable {κ τ : Type} {env : Env κ τ} {holds : τ → Prop} {s : OtaFlasher κ × τ}

theorem start_keeps (keeps : env.Keeps holds) (argv : List Text) (callbacks : κ)
    (before : holds s.2) : holds (start env argv callbacks s).2.2 := by
  have spawned := keeps.spawn argv s.2 before
  unfold start
  dsimp only
  split
  · exact before
  · split
    · exact before
    · generalize env.spawn argv s.2 = answer at spawned ⊢
      obtain ⟨result, t⟩ := answer
      cases result <;> exact spawned

theorem killGroup_keeps (keeps : env.Keeps holds) (before : holds s.2) :
    holds (killGroup env s).2 := by
  have signalled := keeps.signalGroup .term s.1.pid s.2 before
  unfold killGroup
  dsimp only
  split
  · exact before
  · split <;> exact signalled

theorem escalate_keeps (keeps : env.Keeps holds) (before : holds s.2) :
    holds (escalate env s).2 := by
  have looked := keeps.groupAlive s.1.pid s.2 before
  unfold escalate
  dsimp only
  split
  · split
    · exact keeps.signalGroup _ _ _ looked
    · exact looked
  · exact before

theorem emitLine_keeps (keeps : env.Keeps holds) (before : holds s.2) :
    holds (emitLine env s).2 := by
  unfold emitLine
  dsimp only
  split
  · exact before
  · cases s.1.lineCb with
    | none => exact before
    | some callbacks => exact keeps.onLine _ _ _ before

theorem scheduleDetachPipe_keeps (keeps : env.Keeps holds) (before : holds s.2) :
    holds (scheduleDetachPipe env s).2 := by
  unfold scheduleDetachPipe
  dsimp only
  split
  · exact before
  · exact emitLine_keeps keeps before

theorem takeByte_keeps (keeps : env.Keeps holds) (c : UInt8) (before : holds s.2) :
    holds (takeByte env s c).2 := by
  unfold takeByte
  split
  · exact emitLine_keeps keeps before
  · exact before

theorem takeBytes_keeps (keeps : env.Keeps holds) (bytes : List UInt8) (before : holds s.2) :
    holds (bytes.foldl (takeByte env) s).2 :=
  List.foldlRecOn (motive := fun s : OtaFlasher κ × τ => holds s.2) bytes _ before
    fun _ before c _ => takeByte_keeps keeps c before

theorem onReadable_keeps (keeps : env.Keeps holds) (reads : List ReadResult)
    (before : holds s.2) : holds (onReadable env reads s).2 := by
  induction reads generalizing s with
  | nil => exact before
  | cons result rest ih =>
    unfold onReadable
    split
    · exact before
    · cases result with
      | data bytes => exact ih (takeBytes_keeps keeps bytes before)
      | eof | failed => exact scheduleDetachPipe_keeps keeps before
      | again => exact before
      | interrupted => exact ih before

theorem finish_keeps (keeps : env.Keeps holds) (exitStatus : Int32) (before : holds s.2) :
    holds (finish env exitStatus s).2 := by
  unfold finish
  dsimp only
  cases s.1.exitCb with
  | none => exact before
  | some callbacks => exact keeps.onExit _ _ _ _ before

theorem pollReap_keeps (keeps : env.Keeps holds) (tries : Nat) (before : holds s.2) :
    holds (pollReap env tries s).2 := by
  have waited := keeps.waitpid s.1.pid s.2 before
  unfold pollReap
  dsimp only
  split
  · exact before
  · generalize env.waitpid s.1.pid s.2 = answer at waited ⊢
    obtain ⟨result, t⟩ := answer
    cases result with
    | reaped | failed => exact finish_keeps keeps _ waited
    | running | interrupted =>
      dsimp only
      split
      · exact waited
      · -- the last try kills the group and waits without a limit
        have killed := keeps.waitpidBlocking s.1.pid _ (keeps.signalGroup .kill s.1.pid t waited)
        generalize env.waitpidBlocking s.1.pid _ = last at killed ⊢
        obtain ⟨status, t'⟩ := last
        cases status <;> exact finish_keeps keeps _ killed

theorem detachPipe_keeps (keeps : env.Keeps holds) (before : holds s.2) :
    holds (detachPipe env s).2 := by
  unfold detachPipe
  dsimp only
  split
  · exact before
  · exact pollReap_keeps keeps 0 before

theorem reapTimer_keeps (keeps : env.Keeps holds) (i : Nat) (before : holds s.2) :
    holds (reapTimer env i s).2 := by
  unfold reapTimer
  split
  · exact before
  · exact pollReap_keeps keeps _ before

end OtaFlasher
end Mhost.Ota
