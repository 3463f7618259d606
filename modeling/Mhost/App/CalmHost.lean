import Mhost.App.Calm
import Mhost.App.ChassisHost

/-!
# Handlers that only talk

Most of what the host does bears on neither moving, enabling nor upgrading: the queries, the
board parameters, the telemetry timers. They leave the link and the flasher alone too.
-/
namespace Mhost.App.ChassisHost
open Library (Text utf8)
open Proto Link Serial Ota

structure Calmly (h h' : ChassisHost) : Prop where
  conSm : h'.conSm = h.conSm
  flasher : h'.flasher = h.flasher
  core : Core.Calm (h.serial, h.base) (h'.serial, h'.base)

variable {w : World} {h h' : ChassisHost}

namespace Calmly

theorem refl (h : ChassisHost) : Calmly h h := ⟨rfl, rfl, id, .refl _⟩

theorem either {p : Prop} [Decidable p] {yes no : ChassisHost} (left : p → Calmly h yes)
    (right : ¬ p → Calmly h no) : Calmly h (if p then yes else no) :=
  iteInduction (motive := Calmly h) left right

variable (before : Calmly h h')
include before

/-! ### Parts of a handler -/

theorem onBase {f : Base → Base} (calm : Base.Calm h'.base (f h'.base)) :
    Calmly h (h'.onBase f) :=
  ⟨before.conSm, before.flasher, before.core.isOpen, before.core.env.trans calm⟩

theorem reply (c : Conn) (text : Text) : Calmly h (h'.reply c text) :=
  before.onBase (sendTo_calm (.refl _) c text)

theorem clock (w : World) : Calmly h (h'.clock w).2 :=
  before.onBase (f := Base.answered) (Base.Calm.refl _).answered

/-- A frame that neither moves nor enables. -/
theorem sendFrame {type : UInt8} (payload : List UInt8)
    (harmless : (Entry.frame type payload).calm = true) :
    Calmly h (h'.sendFrame w type payload).2 := by
  have sent := sendFrameToBoard_calm w type payload (h'.serial, h'.base)
  have entry : (sentEntry (h'.serial, h'.base) type payload).calm = true := by
    unfold sentEntry
    split
    · exact harmless
    · rfl
  exact ⟨before.conSm, before.flasher, fun opened => before.core.isOpen (sent.isOpen opened),
    before.core.env.trans (((Base.Calm.refl _).note entry).trans sent.env)⟩

/-! ### Commands -/

theorem cmdPid (c : Conn) (tok : List Text) : Calmly h (cmdPid w c tok h') := by
  unfold ChassisHost.cmdPid
  dsimp only
  split
  · exact before.reply c _
  · split
    · exact before.reply c _
    · exact (before.sendFrame _ rfl).reply c _

theorem cmdSign (c : Conn) (tok : List Text) : Calmly h (cmdSign w c tok h') := by
  unfold ChassisHost.cmdSign
  split
  · exact before.reply c _
  · split
    · exact before.reply c _
    · exact (before.sendFrame _ rfl).reply c _

theorem cmdPing (c : Conn) : Calmly h (cmdPing w c h') := by
  unfold ChassisHost.cmdPing
  refine .either (fun _ => before.reply c _) (fun _ => ?_)
  refine Calmly.sendFrame ?_ _ rfl
  exact (before.clock w).onBase (.same rfl rfl rfl rfl rfl rfl)

theorem cmdWatch (c : Conn) (arg : Text) : Calmly h (cmdWatch c arg h') := by
  unfold ChassisHost.cmdWatch
  apply Calmly.reply
  exact before.onBase (.same rfl rfl rfl rfl rfl rfl)

theorem cmdStat (c : Conn) : Calmly h (cmdStat w c h') :=
  (before.onBase (Base.Calm.refl _).answered).reply c _

theorem cmdCon (c : Conn) : Calmly h (cmdCon w c h') := by
  unfold ChassisHost.cmdCon
  exact .either (fun _ => before.reply c _) (fun _ => (before.clock w).reply c _)

theorem cmdFlashStatus (c : Conn) : Calmly h (cmdFlashStatus c h') := before.reply c _

theorem shutdown (c : Conn) : Calmly h (h'.shutdown c) :=
  before.onBase (.same rfl rfl rfl rfl rfl rfl)

/-! ### Events -/

theorem onConnectionUp (c : Conn) : Calmly h (onConnectionUp c h') := by
  unfold ChassisHost.onConnectionUp
  refine Calmly.reply (Calmly.reply ?_ c _) c _
  have joined : Base.Calm h'.base { h'.base with conns := h'.base.conns ++ [c] } :=
    .same rfl rfl rfl rfl rfl rfl
  exact before.onBase (joined.note rfl)

theorem resetConn (c : Conn) : Calmly h (h'.onBase (resetConn c)) := by
  apply before.onBase
  unfold ChassisHost.resetConn
  dsimp only
  split <;> split <;> exact .same rfl rfl rfl rfl rfl rfl

theorem onPing (f : Frame) : Calmly h (onPing w f h') := by
  unfold ChassisHost.onPing
  split
  · exact .either (fun _ => ((before.clock w).reply _ _).onBase (.same rfl rfl rfl rfl rfl rfl))
      (fun _ => before)
  · exact before

theorem onOdomTimer : Calmly h (onOdomTimer w h') := by
  unfold ChassisHost.onOdomTimer
  exact .either (fun _ => before) (fun _ => before.onBase (sendToWatchers_calm (.refl _) _))

theorem onSlowTimer : Calmly h (onSlowTimer w h') := by
  unfold ChassisHost.onSlowTimer
  refine .either (fun _ => before) (fun _ => before.onBase ?_)
  have first := sendToWatchers_if_calm (.refl h'.base) h'.base.telemetry.haveEnc
  have second line := sendToWatchers_if_calm (first line) h'.base.telemetry.haveImu
  have third line line' := sendToWatchers_if_calm (second line line') h'.base.telemetry.haveTelem
  exact sendToWatchers_calm (third _ _ _) _

theorem silenceCheck (now : Nat) : Calmly h (silenceCheck w now h') := by
  unfold ChassisHost.silenceCheck
  refine .either (fun _ => before.onBase ?_) (fun _ => before)
  apply broadcastAll_calm
  exact .same rfl rfl rfl rfl rfl rfl

end Calmly
end Mhost.App.ChassisHost
