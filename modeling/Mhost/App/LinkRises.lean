import Mhost.App.Upgrade
import Mhost.App.TelemetrySnapshots
import Mhost.App.QuietHost

/-!
# How the link comes up

ConSm.cc:23-115 and ChassisHost.cc:722-731. Whatever else the host does, `comm_` becomes `READY` only
while it handles a CON frame of the board that grants the link or asks for it.
-/
namespace Mhost.Link
open Proto

/-- The events on which `CONNECTED` is entered. -/
def Event.raises : Event → Bool
  | .accept | .enableRequest => true
  | _ => false

namespace ConSm

variable {σ : Type} {cb : Callbacks σ} {now : Nat} {m : ConSm} {env : σ} {s : ConSm × σ}

/-- `comm_` is not raised. -/
def Sinks (m m' : ConSm) : Prop := m'.comm = .ready → m.comm = .ready

theorem Processed.sinks {ev : Event} (table : Processed cb now m env ev s)
    (low : ev.raises = false) : Sinks m s.1 := by
  cases table with
  | answered | answerFailed | answerLost | accepted => cases low
  | ignored | requested | requestFailed | releasing | refused => exact id
  | releaseFailed | released | lost | confirmed => exact fun wrong => by cases wrong

theorem TickedRsp.sinks (table : TickedRsp cb now m env s) : Sinks m s.1 := by
  cases table with
  | idle | resent => exact id
  | resendFailed _ _ _ _ closed | exhausted _ _ closed => exact closed.sinks rfl

theorem TickedPing.sinks (table : TickedPing cb now m env s) : Sinks m s.1 := by
  cases table with
  | idle | pinged | muted => exact id
  | pingFailed _ _ _ _ closed | silent _ _ closed => exact closed.sinks rfl

/-- The messages that let the link come up. -/
def grants : ConMsgType → Bool
  | .enableRequest | .enableResponse => true
  | _ => false

/-- The calls that hand one over. -/
def Call.grants : Call → Bool
  | .onFrame msgType _ => ConSm.grants msgType
  | _ => false

theorem call_sinks (cb : Callbacks σ) (s : ConSm × σ) {c : Call} (other : c.grants = false) :
    Sinks s.1 (call cb s c).1 := by
  obtain ⟨m, env⟩ := s
  cases c with
  | connect now =>
    simp only [call, connect]
    split
    · exact id
    · split
      · exact id
      · exact (process_table cb .enable now m env).sinks rfl
  | disconnect now =>
    simp only [call, disconnect]
    split
    · exact (process_table cb .disable now { m with pingRep := 0 } env).sinks rfl
    · split <;> exact id
  | reset =>
    rw [call, reset_eq]
    exact fun wrong => by cases wrong
  | onFrame msgType now =>
    simp only [call, onFrame]
    cases msgType with
    | enableRequest | enableResponse => cases other
    | disableRequest | disableResponse => exact (process_table cb _ now m env).sinks rfl
    | pingRequest | pingResponse => exact id
  | tick now =>
    have first := (tickRsp_table cb now m env).sinks
    have second := (tickPing_table cb now (tickRsp cb now (m, env)).1 (tickRsp cb now (m, env)).2).sinks
    exact fun up => first (second up)

end ConSm
end Mhost.Link

namespace Mhost.App.ChassisHost
open Library (Text utf8)
open Proto Link Serial Ota

/-- The link does not come up. -/
abbrev Sinks (h h' : ChassisHost) : Prop := ConSm.Sinks h.conSm h'.conSm

namespace Sinks
variable {w : World} {h h' h'' : ChassisHost}

theorem either {p : Prop} [Decidable p] {yes no : ChassisHost} (left : p → Sinks h yes)
    (right : ¬ p → Sinks h no) : Sinks h (if p then yes else no) :=
  iteInduction (motive := Sinks h) left right

/-- The link is left alone. -/
theorem alone (same : h'.conSm = h.conSm) : Sinks h h' := fun up => same ▸ up

theorem call (w : World) {c : ConSm.Call} (other : c.grants = false) (sinks : Sinks h h') :
    Sinks h (h'.onLink fun s => ConSm.call (conCallbacks w) s c) :=
  fun up => sinks (ConSm.call_sinks (conCallbacks w) (h'.conSm, h'.serial, h'.base) other up)

end Sinks

variable {w : World} {h : ChassisHost}

/-! ### Commands -/

/-- A CON frame of the board that grants the link or asks for it. -/
def grants (f : Frame) : Bool :=
  f.type = ptCon && (unpackCon f).any fun heard =>
    heard.1 ≠ kConSenderHost && (ConMsgType.ofByte heard.2).any ConSm.grants

/-- How often the link comes up in the course of some acts. -/
def risen (w : World) : ChassisHost → List Act → Nat
  | _, [] => 0
  | h, a :: rest =>
      (if h.conSm.comm ≠ .ready ∧ (act w h a).conSm.comm = .ready then 1 else 0) +
        risen w (act w h a) rest

end Mhost.App.ChassisHost
