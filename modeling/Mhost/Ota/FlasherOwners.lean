import Mhost.Ota.OtaFlasher

/-!
# Two owners of a flasher that cannot be told apart

The flasher reaches the operating system and its owner through its environment alone
(OtaFlasher.h:24-59). When one environment is a view of another, so is every call.
-/
namespace Mhost.Ota
open Library (Text)

variable {κ τ υ : Type}

/-- The same flasher, over the environment that is seen. -/
def OtaFlasher.seen (view : τ → υ) (s : OtaFlasher κ × τ) : OtaFlasher κ × υ := (s.1, view s.2)

/-- `view` maps what one owner keeps to what the other does, and the flasher hears the same
answers from both. -/
structure Env.Views (env : Env κ τ) (env' : Env κ υ) (view : τ → υ) : Prop where
  spawn : ∀ argv t, env'.spawn argv (view t) = ((env.spawn argv t).1, view (env.spawn argv t).2)
  signalGroup : ∀ sig pid t, env'.signalGroup sig pid (view t) =
    ((env.signalGroup sig pid t).1, view (env.signalGroup sig pid t).2)
  groupAlive : ∀ pid t,
    env'.groupAlive pid (view t) = ((env.groupAlive pid t).1, view (env.groupAlive pid t).2)
  waitpid : ∀ pid t, env'.waitpid pid (view t) = ((env.waitpid pid t).1, view (env.waitpid pid t).2)
  waitpidBlocking : ∀ pid t, env'.waitpidBlocking pid (view t) =
    ((env.waitpidBlocking pid t).1, view (env.waitpidBlocking pid t).2)
  onLine : ∀ callbacks line t,
    env'.onLine callbacks line (view t) = view (env.onLine callbacks line t)
  onExit : ∀ callbacks ok exitStatus s, env'.onExit callbacks ok exitStatus (OtaFlasher.seen view s) =
    OtaFlasher.seen view (env.onExit callbacks ok exitStatus s)

namespace OtaFlasher
variable {env : Env κ τ} {env' : Env κ υ} {view : τ → υ} (views : env.Views env' view)
  (f : OtaFlasher κ) (t : τ)
include views

theorem start_seen (argv : List Text) (callbacks : κ) :
    start env' argv callbacks (f, view t) =
      ((start env argv callbacks (f, t)).1, seen view (start env argv callbacks (f, t)).2) := by
  simp only [start, views.spawn]
  split
  · rfl
  · split
    · rfl
    · rcases env.spawn argv t with ⟨result, t'⟩
      cases result <;> rfl

theorem killGroup_seen : killGroup env' (f, view t) = seen view (killGroup env (f, t)) := by
  simp only [killGroup, views.signalGroup]
  split
  · rfl
  · split <;> rfl

theorem escalate_seen : escalate env' (f, view t) = seen view (escalate env (f, t)) := by
  simp only [escalate, views.groupAlive]
  split
  · split
    · simp only [views.signalGroup, seen]
    · rfl
  · rfl

/-! ### Reading -/

theorem emitLine_seen : emitLine env' (f, view t) = seen view (emitLine env (f, t)) := by
  simp only [emitLine]
  split
  · rfl
  · cases f.lineCb with
    | none => rfl
    | some callbacks => simp only [views.onLine, seen]

theorem scheduleDetachPipe_seen :
    scheduleDetachPipe env' (f, view t) = seen view (scheduleDetachPipe env (f, t)) := by
  simp only [scheduleDetachPipe]
  split
  · rfl
  · simp only [emitLine_seen views, seen]

theorem takeByte_seen (c : UInt8) :
    takeByte env' (f, view t) c = seen view (takeByte env (f, t) c) := by
  unfold takeByte
  split
  · exact emitLine_seen views f t
  · rfl

theorem takeBytes_seen (bytes : List UInt8) (s : OtaFlasher κ × τ) :
    bytes.foldl (takeByte env') (seen view s) = seen view (bytes.foldl (takeByte env) s) := by
  induction bytes generalizing s with
  | nil => rfl
  | cons c rest ih =>
    have first : takeByte env' (seen view s) c = seen view (takeByte env s c) :=
      takeByte_seen views s.1 s.2 c
    simp only [List.foldl_cons, first, ih]

theorem onReadable_seen (reads : List ReadResult) (s : OtaFlasher κ × τ) :
    onReadable env' reads (seen view s) = seen view (onReadable env reads s) := by
  induction reads generalizing s with
  | nil => rfl
  | cons result rest ih =>
    simp only [onReadable, show (seen view s).1 = s.1 from rfl]
    split
    · rfl
    · cases result with
      | data bytes =>
        simp only [takeBytes_seen views]
        exact ih _
      | eof | failed => exact scheduleDetachPipe_seen views s.1 s.2
      | again => rfl
      | interrupted => exact ih s

/-! ### Reaping -/

theorem finish_seen (exitStatus : Int32) :
    finish env' exitStatus (f, view t) = seen view (finish env exitStatus (f, t)) := by
  simp only [finish]
  cases f.exitCb with
  | none => rfl
  | some callbacks => exact views.onExit _ _ _ (_, t)

theorem pollReap_seen (tries : Nat) :
    pollReap env' tries (f, view t) = seen view (pollReap env tries (f, t)) := by
  simp only [pollReap, views.waitpid]
  split
  · rfl
  · rcases env.waitpid f.pid t with ⟨result, t'⟩
    cases result with
    | reaped | failed => exact finish_seen views f t' _
    | running | interrupted =>
      simp only [views.signalGroup, views.waitpidBlocking]
      split
      · rfl
      · rcases env.waitpidBlocking f.pid _ with ⟨status, t''⟩
        cases status <;> exact finish_seen views f t'' _

theorem detachPipe_seen : detachPipe env' (f, view t) = seen view (detachPipe env (f, t)) := by
  simp only [detachPipe]
  split
  · rfl
  · exact pollReap_seen views _ t 0

theorem reapTimer_seen (i : Nat) :
    reapTimer env' i (f, view t) = seen view (reapTimer env i (f, t)) := by
  simp only [reapTimer]
  split
  · rfl
  · exact pollReap_seen views _ t _

end OtaFlasher
end Mhost.Ota
