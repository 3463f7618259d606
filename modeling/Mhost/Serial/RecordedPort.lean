import Mhost.Serial.TransmitStream

/-!
# The record changes nothing

SerialPort.cc:80-229. A port whose openings are recorded does to its owner what it does without
the record. Between two openings the record of what the kernel took only grows.
-/
namespace Mhost.Serial
open Library (Text utf8)

variable {τ : Type}

namespace SerialPort

/-- The port and its owner, without the record. -/
def forget (s : SerialPort × Recorded τ) : SerialPort × τ := (s.1, s.2.owner)

variable (env : Env τ)

theorem closeInLoop_forget (reason : Text) (s : SerialPort × Recorded τ) :
    forget (closeInLoop env.recording reason s) = closeInLoop env reason (forget s) := by
  unfold closeInLoop forget
  cases s.1.channel <;> rfl

theorem directWrite_forget (data : List UInt8) (r : Recorded τ) :
    directWrite env data r.owner =
      ((directWrite env.recording data r).1, (directWrite env.recording data r).2.owner) := by
  unfold directWrite
  rcases result : env.write data r.owner with ⟨_ | _ | _ | _, owner⟩ <;>
    simp [Env.recording, Recorded.accept, result]

theorem sendInLoop_forget (data : List UInt8) (s : SerialPort × Recorded τ) :
    forget (sendInLoop env.recording data s) = sendInLoop env data (forget s) := by
  obtain ⟨p, r⟩ := s
  change _ = sendInLoop env data (p, r.owner)
  unfold sendInLoop
  cases channel : p.channel with
  | none => rfl
  | some c =>
    have tried : (if !c.writing && p.outputBuffer.isEmpty then directWrite env data r.owner
        else (some data, r.owner)) =
        ((if !c.writing && p.outputBuffer.isEmpty then directWrite env.recording data r
          else (some data, r)).1,
        (if !c.writing && p.outputBuffer.isEmpty then directWrite env.recording data r
          else (some data, r)).2.owner) := by
      split
      · exact directWrite_forget env data r
      · rfl
    simp only [tried]
    generalize (if !c.writing && p.outputBuffer.isEmpty then directWrite env.recording data r
      else (some data, r)) = outcome
    obtain ⟨left, r'⟩ := outcome
    match left with
    | none => exact closeInLoop_forget env _ (p, r')
    | some [] => rfl
    | some (byte :: more) =>
      dsimp only
      split
      · exact closeInLoop_forget env _ (_, r')
      · rfl

theorem send_forget (data : List UInt8) (s : SerialPort × Recorded τ) :
    forget (send env.recording data s) = send env data (forget s) := by
  unfold send
  split
  next opened => exact (sendInLoop_forget env data s).trans (if_pos opened).symm
  next closed => exact (if_neg closed).symm

theorem pass_forget (data : List UInt8) (s : SerialPort × Recorded τ) :
    forget (pass env s data) = send env data (forget s) := by
  have same : forget (s.1, if s.1.isOpen then s.2.pass data else s.2) = forget s := by
    unfold forget
    split <;> rfl
  rw [pass, send_forget, same]

theorem handleWrite_forget (s : SerialPort × Recorded τ) :
    forget (handleWrite env.recording s) = handleWrite env (forget s) := by
  obtain ⟨p, r⟩ := s
  unfold handleWrite
  cases channel : p.channel with
  | none => simp only [forget, channel]
  | some c =>
    simp only [forget, channel]
    split
    · rfl
    · rcases result : env.write p.outputBuffer r.owner with ⟨_ | _ | _ | _, owner⟩ <;>
        simp [Env.recording, Recorded.accept, result, closeInLoop, channel]

theorem openDevice_forget (baud : Nat) (s : SerialPort × Recorded τ) :
    forget (openDevice env.recording baud s).2 = (openDevice env baud (forget s)).2 := by
  by_cases opened : s.1.isOpen = true
  · have same : openDevice env baud (forget s) = (true, forget s) := if_pos opened
    have recorded : openDevice env.recording baud s = (true, s) := if_pos opened
    rw [same, recorded]
  · unfold openDevice
    rw [if_neg opened, if_neg (show ¬ (forget s).1.isOpen = true from opened)]
    dsimp only [Env.recording, forget]
    split <;> rfl

/-! ### Between two openings -/

/-- The environment as it is to a port that is not opened. -/
def lasting : Env τ where
  openTty t := (false, t)
  write := env.write
  stateCb up reason t :=
    match up with
    | true => t
    | false => env.stateCb false reason t

variable {env} {holds : τ → Prop} {s : SerialPort × τ}
  (write : ∀ data t, holds t → holds (env.write data t).2)
  (lost : ∀ reason t, holds t → holds (env.stateCb false reason t))
include write lost

theorem lasting_keeps : (lasting env).Keeps holds where
  openTty _ before := before
  write := write
  stateCb up reason t before := by
    cases up with
    | true => exact before
    | false => exact lost reason t before

/-- What writing and losing the device preserve is preserved by all but opening. -/
theorem send_lasting (data : List UInt8) (before : holds s.2) : holds (send env data s).2 :=
  (send_kept (lasting_keeps write lost) data before).env

theorem handleWrite_lasting (before : holds s.2) : holds (handleWrite env s).2 :=
  (handleWrite_kept (lasting_keeps write lost) before).env

theorem closeInLoop_lasting (reason : Text) (before : holds s.2) :
    holds (closeInLoop env reason s).2 :=
  (closeInLoop_kept (lasting_keeps write lost) reason before).env

end SerialPort
end Mhost.Serial
