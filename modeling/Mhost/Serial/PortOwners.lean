import Mhost.Serial.SerialPort

/-!
# Two owners of a port that cannot be told apart

The port reaches its owner and the operating system through its environment alone
(SerialPort.h:28-68). When one environment is a view of another, so is every call.
-/
namespace Mhost.Serial
open Library (Text)

variable {τ υ : Type}

/-- `view` maps what one owner keeps to what the other does, and the port hears the same
answers from both. -/
structure Env.Views (env : Env τ) (env' : Env υ) (view : τ → υ) : Prop where
  openTty : ∀ t, env'.openTty (view t) = ((env.openTty t).1, view (env.openTty t).2)
  write : ∀ data t, env'.write data (view t) = ((env.write data t).1, view (env.write data t).2)
  stateCb : ∀ up reason t, env'.stateCb up reason (view t) = view (env.stateCb up reason t)

namespace SerialPort

/-- The same port, over the environment that is seen. -/
def seen (view : τ → υ) (s : SerialPort × τ) : SerialPort × υ := (s.1, view s.2)

variable {env : Env τ} {env' : Env υ} {view : τ → υ} (views : env.Views env' view)
  (p : SerialPort) (t : τ)
include views

theorem closeInLoop_seen (reason : Text) :
    closeInLoop env' reason (p, view t) = seen view (closeInLoop env reason (p, t)) := by
  simp only [closeInLoop, views.stateCb]
  cases p.channel <;> rfl

theorem openDevice_seen (baud : Nat) :
    openDevice env' baud (p, view t) =
      ((openDevice env baud (p, t)).1, seen view (openDevice env baud (p, t)).2) := by
  simp only [openDevice, views.openTty, views.stateCb]
  split
  · rfl
  · split <;> rfl

theorem directWrite_seen (data : List UInt8) :
    directWrite env' data (view t) =
      ((directWrite env data t).1, view (directWrite env data t).2) := by
  simp only [directWrite, views.write]
  rcases env.write data t with ⟨result, t'⟩
  cases result <;> rfl

/-- What is left goes to the buffer, or the port is given up; both look the same. -/
theorem sendInLoop_seen (data : List UInt8) :
    sendInLoop env' data (p, view t) = seen view (sendInLoop env data (p, t)) := by
  unfold sendInLoop
  dsimp only
  cases p.channel with
  | none => rfl
  | some channel =>
    have written : (if !channel.writing && p.outputBuffer.isEmpty then directWrite env' data (view t)
        else (some data, view t)) =
          (fun answer : Option (List UInt8) × τ => (answer.1, view answer.2))
            (if !channel.writing && p.outputBuffer.isEmpty then directWrite env data t
              else (some data, t)) := by
      split
      · exact directWrite_seen views t data
      · rfl
    dsimp only
    rw [written]
    generalize (if !channel.writing && p.outputBuffer.isEmpty then directWrite env data t
      else (some data, t)) = answer
    obtain ⟨left, t'⟩ := answer
    match left with
    | none => exact closeInLoop_seen views _ t' _
    | some [] => rfl
    | some (_ :: _) =>
      dsimp only
      split
      · exact closeInLoop_seen views _ t' _
      · rfl

theorem send_seen (data : List UInt8) :
    send env' data (p, view t) = seen view (send env data (p, t)) := by
  simp only [send]
  split
  · exact sendInLoop_seen views p t data
  · rfl

theorem handleWrite_seen : handleWrite env' (p, view t) = seen view (handleWrite env (p, t)) := by
  simp only [handleWrite, views.write]
  cases p.channel with
  | none => rfl
  | some channel =>
    dsimp only
    split
    · rfl
    · rcases env.write p.outputBuffer t with ⟨result, t'⟩
      cases result with
      | wrote | again => rfl
      | gone | otherError => exact closeInLoop_seen views _ t' _

end SerialPort
end Mhost.Serial
