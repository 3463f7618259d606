import Mhost.App.Authority
import Mhost.App.HostLink

/-!
# What is only talk

Text to clients, upgrade progress and the serial port leave the speed command, the enable flag
and the upgrade alone, and add entries of no account. So does a frame to the board, apart from
the entry of the frame itself.
-/
namespace Mhost.App
open Library (Text utf8)
open Proto Link Serial Ota

/-- The entries that take an order: an accepted upgrade, its child, the request to stop it. -/
def Entry.ofUpgrade : Entry → Bool
  | .flash _ _ | .child _ | .signal .term _ => true
  | _ => false

/-- An entry that bears on neither moving, enabling nor upgrading. -/
def Entry.calm (e : Entry) : Bool := e.quiet && !e.ofUpgrade

structure Base.Calm (b b' : Base) : Prop where
  speed : b'.speed = b.speed
  userDisabled : b'.userDisabled = b.userDisabled
  phase : b'.ota.otaState = b.ota.otaState
  otaFile : b'.ota.otaFile = b.ota.otaFile
  phaseStart : b'.ota.otaPhaseStartMs = b.ota.otaPhaseStartMs
  journal : ∃ rest, b'.journal = b.journal ++ rest ∧ ∀ e ∈ rest, e.calm = true

namespace Base.Calm
variable {b b' b'' : Base}

/-- Members that this file is not about may change at will. -/
theorem same (speed : b'.speed = b.speed) (userDisabled : b'.userDisabled = b.userDisabled)
    (phase : b'.ota.otaState = b.ota.otaState) (otaFile : b'.ota.otaFile = b.ota.otaFile)
    (phaseStart : b'.ota.otaPhaseStartMs = b.ota.otaPhaseStartMs)
    (journal : b'.journal = b.journal) : Base.Calm b b' :=
  ⟨speed, userDisabled, phase, otaFile, phaseStart, [], by simp [journal], by simp⟩

theorem refl (b : Base) : Base.Calm b b := same rfl rfl rfl rfl rfl rfl

theorem trans (first : Base.Calm b b') (second : Base.Calm b' b'') : Base.Calm b b'' :=
  ⟨second.speed.trans first.speed, second.userDisabled.trans first.userDisabled,
    second.phase.trans first.phase, second.otaFile.trans first.otaFile,
    second.phaseStart.trans first.phaseStart, Library.grown_trans first.journal second.journal⟩

theorem note {e : Entry} (calm : e.calm = true) (before : Base.Calm b b') :
    Base.Calm b (b'.note e) :=
  before.trans ⟨rfl, rfl, rfl, rfl, rfl, [e], rfl, by simpa using calm⟩

theorem answered (before : Base.Calm b b') : Base.Calm b b'.answered :=
  before.trans (.same rfl rfl rfl rfl rfl rfl)

end Base.Calm

variable (w : World) {b b' : Base} (before : Base.Calm b b')

/-! ### Text -/

section
include before

theorem sendTo_calm (c : Conn) (text : Text) : Base.Calm b (b'.sendTo c text) := by
  unfold Base.sendTo
  split
  · exact before
  · exact before.note rfl

theorem sendAll_calm (conns : List Conn) (line : Text) : Base.Calm b (b'.sendAll conns line) := by
  unfold Base.sendAll
  exact List.foldlRecOn (motive := Base.Calm b) conns _ before
    fun _ sent c _ => sendTo_calm sent c _

theorem broadcastAll_calm (line : Text) : Base.Calm b (b'.broadcastAll line) :=
  sendAll_calm before _ line

theorem sendToWatchers_calm (line : Text) : Base.Calm b (b'.sendToWatchers line) :=
  sendAll_calm before _ line

theorem sendToWatchers_if_calm (fresh : Bool) (line : Text) :
    Base.Calm b (if fresh then b'.sendToWatchers line else b') := by
  split
  · exact sendToWatchers_calm before line
  · exact before

theorem otaSendProgress_calm (line : Text) : Base.Calm b (otaSendProgress line b') := by
  unfold otaSendProgress
  split
  · exact sendTo_calm before _ _
  · exact before

theorem onSerialState_calm (up : Bool) (reason : Text) :
    Base.Calm b (onSerialState up reason b') := by
  have told (line : Text) : Base.Calm b ((b'.note (.port up)).broadcastAll line) :=
    broadcastAll_calm (before.note rfl) line
  unfold onSerialState
  dsimp only
  split
  · exact (told _).trans (.same rfl rfl rfl rfl rfl rfl)
  · exact told _

/-- A line of the child changes what is shown of the upgrade. -/
theorem otaOnChildLine_calm (line : Text) : Base.Calm b (otaOnChildLine line b') := by
  have seen (otaStage : Text) (otaCliLineCount : Nat) : Base.Calm b
      { b' with ota := { b'.ota with otaLastLine := line, otaStage, otaCliLineCount } } :=
    before.trans (.same rfl rfl rfl rfl rfl rfl)
  have told (otaStage : Text) (otaCliLineCount : Nat) (text : Text) :=
    otaSendProgress_calm (seen otaStage otaCliLineCount) text
  unfold otaOnChildLine
  dsimp only
  split
  · exact told _ _ _
  · split
    · exact told _ _ _
    · split
      · exact told _ _ _
      · split
        · split
          · exact seen _ _
          · exact told _ _ _
        · exact told _ _ _

end

/-! ### Frames to the board -/

theorem serialEnv_calm (b : Base) : (serialEnv w).Keeps (Base.Calm b) where
  openTty _ before := before.answered
  write _ _ before := before.answered
  stateCb up reason _ before := onSerialState_calm before up reason

/-- The port may close but not open. -/
abbrev Core.Calm (s s' : Core) : Prop := SerialPort.Kept (Base.Calm s.2) s s'

/-- Sent on an open port, dropped on a closed one. -/
def sentEntry (s : Core) (type : UInt8) (payload : List UInt8) : Entry :=
  if s.1.isOpen then .frame type payload else .dropped type payload

/-- A frame is calm past its own entry, also when the write closes the port. -/
theorem sendFrameToBoard_calm (type : UInt8) (payload : List UInt8) (s : Core) :
    Core.Calm (s.1, s.2.note (sentEntry s type payload)) (sendFrameToBoard w type payload s).2 := by
  unfold sendFrameToBoard sentEntry
  split
  next opened =>
    have packed : Base.Calm (s.2.note (.frame type payload))
        ({ s.2 with txSeq := (packFrame type payload (some s.2.txSeq)).2.getD s.2.txSeq }.note
          (.frame type payload)) := .same rfl rfl rfl rfl rfl rfl
    have sent := SerialPort.send_kept (s := (s.1, _)) (serialEnv_calm w _)
      (packFrame type payload (some s.2.txSeq)).1 packed
    exact ⟨fun _ => opened, sent.env.trans (.same rfl rfl rfl rfl rfl rfl)⟩
  next => exact ⟨id, .refl _⟩

end Mhost.App
