import Mhost.App.HostLink
import Mhost.App.Relabel

/-!
# What the host does for one client

ChassisHost.h:128-150. Whoever a handler works for, it leaves the connections alone, and the
clients it remembers afterwards are those remembered before and that one. The readings of the
board stay as they are; only a frame brings new ones.
-/
namespace Mhost.App
open Library (Text utf8)
open Proto Link Serial Ota

/-- `b'` is what is left of `b` when `who` was attended to, or nobody; it shows the readings
`shown`. -/
structure Base.Attends (who : Option Conn) (shown : Telemetry) (b b' : Base) : Prop where
  conns : b'.conns = b.conns
  telemetry : b'.telemetry = shown
  watchers : ∀ c ∈ b'.watchers, c ∈ b.watchers ∨ who = some c
  speedConn : ∀ c, b'.speed.speedConn = some c → b.speed.speedConn = some c ∨ who = some c
  pingConn : ∀ c, b'.ping.pingConn = some c → b.ping.pingConn = some c ∨ who = some c
  otaConn : ∀ c, b'.ota.otaConn = some c → b.ota.otaConn = some c ∨ who = some c
  driven : (b.speed.cmdMode ≠ .none → b.speed.speedConn ≠ none) →
    b'.speed.cmdMode ≠ .none → b'.speed.speedConn ≠ none

namespace Base.Attends
variable {who : Option Conn} {shown : Telemetry} {b b' b'' : Base}

theorem refl (b : Base) : Base.Attends who b.telemetry b b :=
  ⟨rfl, rfl, fun _ => .inl, fun _ => .inl, fun _ => .inl, fun _ => .inl, id⟩

variable (before : Base.Attends who shown b b')
include before

theorem trans {later : Telemetry} (second : Base.Attends who later b' b'') :
    Base.Attends who later b b'' where
  conns := second.conns.trans before.conns
  telemetry := second.telemetry
  watchers c member := (second.watchers c member).elim (before.watchers c) .inr
  speedConn c same := (second.speedConn c same).elim (before.speedConn c) .inr
  pingConn c same := (second.pingConn c same).elim (before.pingConn c) .inr
  otaConn c same := (second.otaConn c same).elim (before.otaConn c) .inr
  driven first := second.driven (before.driven first)

/-- What goes on without a client goes on with one. -/
theorem alone {later : Telemetry} (second : Base.Attends none later b' b'') :
    Base.Attends who later b b'' :=
  before.trans ⟨second.conns, second.telemetry, fun c member => .inl ((second.watchers c member).resolve_right
    (by simp)), fun c same => .inl ((second.speedConn c same).resolve_right (by simp)),
    fun c same => .inl ((second.pingConn c same).resolve_right (by simp)),
    fun c same => .inl ((second.otaConn c same).resolve_right (by simp)), second.driven⟩

/-- Members that this file is not about may change at will. -/
theorem same (conns : b''.conns = b'.conns) (telemetry : b''.telemetry = b'.telemetry)
    (watchers : b''.watchers = b'.watchers) (speed : b''.speed = b'.speed)
    (pingConn : b''.ping.pingConn = b'.ping.pingConn) (otaConn : b''.ota.otaConn = b'.ota.otaConn) :
    Base.Attends who shown b b'' where
  conns := conns.trans before.conns
  telemetry := telemetry.trans before.telemetry
  watchers := watchers ▸ before.watchers
  speedConn := speed ▸ before.speedConn
  pingConn := pingConn ▸ before.pingConn
  otaConn := otaConn ▸ before.otaConn
  driven := speed ▸ before.driven

theorem note (e : Entry) : Base.Attends who shown b (b'.note e) := before.same rfl rfl rfl rfl rfl rfl

theorem answered : Base.Attends who shown b b'.answered := before.same rfl rfl rfl rfl rfl rfl

end Base.Attends

variable (w : World) {who : Option Conn} {shown : Telemetry} {b b' : Base}

section
variable (before : Base.Attends who shown b b')
include before

/-! ### Text and the upgrade -/

theorem sendTo_attends (c : Conn) (text : Text) : Base.Attends who shown b (b'.sendTo c text) := by
  unfold Base.sendTo
  split
  · exact before
  · exact before.note _

theorem sendAll_attends (conns : List Conn) (line : Text) :
    Base.Attends who shown b (b'.sendAll conns line) := by
  unfold Base.sendAll
  exact List.foldlRecOn (motive := Base.Attends who shown b) conns _ before
    fun _ sent c _ => sendTo_attends sent c _

theorem broadcastAll_attends (line : Text) : Base.Attends who shown b (b'.broadcastAll line) :=
  sendAll_attends before _ line

theorem sendToWatchers_if_attends (fresh : Bool) (line : Text) :
    Base.Attends who shown b (if fresh then b'.sendToWatchers line else b') := by
  split
  · exact sendAll_attends before _ line
  · exact before

theorem otaSendProgress_attends (line : Text) :
    Base.Attends who shown b (otaSendProgress line b') := by
  unfold otaSendProgress
  split
  · exact sendTo_attends before _ _
  · exact before

/-- The upgrade forgets its client when it ends. -/
theorem otaFinish_attends (line : Text) : Base.Attends who shown b (otaFinish line b') := by
  have told := broadcastAll_attends (otaSendProgress_attends before line)
    (utf8 "\x7b\"t\":\"ota\",\"state\":\"done\"\x7d")
  exact ⟨told.conns, told.telemetry, told.watchers, told.speedConn, told.pingConn,
    fun _ some => (Option.some_ne_none _ some.symm).elim, told.driven⟩

theorem onSerialState_attends (up : Bool) (reason : Text) :
    Base.Attends who shown b (onSerialState up reason b') := by
  have told (line : Text) : Base.Attends who shown b ((b'.note (.port up)).broadcastAll line) :=
    broadcastAll_attends (before.note _) line
  unfold onSerialState
  dsimp only
  split
  · exact (told _).same rfl rfl rfl rfl rfl rfl
  · exact told _

/-- A line of the child changes what is shown of the upgrade. -/
theorem otaOnChildLine_attends (line : Text) :
    Base.Attends who shown b (otaOnChildLine line b') := by
  have seen (otaStage : Text) (otaCliLineCount : Nat) : Base.Attends who shown b
      { b' with ota := { b'.ota with otaLastLine := line, otaStage, otaCliLineCount } } :=
    before.same rfl rfl rfl rfl rfl rfl
  have told (otaStage : Text) (otaCliLineCount : Nat) (text : Text) :=
    otaSendProgress_attends (seen otaStage otaCliLineCount) text
  unfold otaOnChildLine
  dsimp only
  split
  · exact told _ _ _
  · split
    · exact told _ _ _
    · split
      · exact told _ _ _
      · split
        · split
          · exact seen _ _
          · exact told _ _ _
        · exact told _ _ _

theorem otaOnChildExit_attends (ok : Bool) (exitStatus : Int32) :
    Base.Attends who shown b (otaOnChildExit w ok exitStatus b') := by
  unfold otaOnChildExit
  split
  · exact before
  · split
    · apply broadcastAll_attends
      exact (otaSendProgress_attends before _).same rfl rfl rfl rfl rfl rfl
    · dsimp only
      split
      · exact otaFinish_attends before _
      · split <;> exact otaFinish_attends before _

end

/-! ### The port, the link, the child -/

theorem serialEnv_attends (b : Base) :
    (serialEnv w).Keeps (Base.Attends who shown b) where
  openTty _ before := before.answered
  write _ _ before := before.answered
  stateCb up reason _ before := onSerialState_attends before up reason

theorem flasherEnv_attends (b : Base) :
    (flasherEnv w).Keeps (Base.Attends who shown b) where
  spawn argv b' before := by
    simp only [flasherEnv]
    cases w.os.spawn b'.asked with
    | pipeFailed | spawnFailed => exact before.answered
    | started pid positive => exact before.answered.note _
  signalGroup _ _ _ before := before.answered.note _
  groupAlive _ _ before := before.answered
  waitpid _ _ before := before.answered
  waitpidBlocking _ _ before := before.answered
  onLine _ line _ before := otaOnChildLine_attends before line
  onExit _ ok exitStatus _ before := otaOnChildExit_attends w before ok exitStatus

theorem sendFrameToBoard_attends {s : Core} (before : Base.Attends who shown b s.2) (type : UInt8)
    (payload : List UInt8) :
    Base.Attends who shown b (sendFrameToBoard w type payload s).2.2 := by
  unfold sendFrameToBoard
  split
  · have packed : Base.Attends who shown b
        ({ s.2 with txSeq := (packFrame type payload (some s.2.txSeq)).2.getD s.2.txSeq }.note
          (.frame type payload)) := before.same rfl rfl rfl rfl rfl rfl
    have sent := SerialPort.send_kept (s := (s.1, _)) (serialEnv_attends w b)
      (packFrame type payload (some s.2.txSeq)).1 packed
    exact sent.env.same rfl rfl rfl rfl rfl rfl
  · exact before.note _

theorem completed_attends {s : Core} (before : Base.Attends who shown b s.2) :
    Base.Attends who shown b (completed s).2 := by
  unfold completed
  split
  · exact otaFinish_attends before _
  · exact before

theorem onCommState_attends {s : Core} (before : Base.Attends who shown b s.2) (comm : CommState) :
    Base.Attends who shown b (onCommState w comm s).2 := by
  have told : Base.Attends who shown b (announced comm s.2) :=
    broadcastAll_attends (before.note _) _
  cases comm with
  | notReady => exact told
  | ready =>
    rw [onCommState_ready]
    apply completed_attends
    apply sendFrameToBoard_attends
    exact told.same rfl rfl rfl rfl rfl rfl

theorem conCallbacks_attends (b : Base) :
    (conCallbacks w).Keeps fun _ s => Base.Attends who shown b s.2 where
  send _ _ _ before := sendFrameToBoard_attends w before _ _
  report _ comm _ before := onCommState_attends w before comm

end Mhost.App
