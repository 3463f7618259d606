import Mhost.App.HostLink
import Mhost.Library.History
import Mhost.Link.ConSmCallbacks

/-!
# The host's port, and everything beside it

ChassisHost.cc:679-685, 748-762, 832-838: the host opens its device, hands it frames,
lets it write and loses it. Whatever else it does but feed its parser leaves the parser, the
sequence number and the count of frames alone and enters neither a frame nor a change of the port. What these preserve, the
link and the flashing child preserve with all they call back into.
-/
namespace Mhost.App
open Library (Text utf8)
open Proto Link Serial Ota

/-- A frame handed to the port, or a change of the port. -/
def Entry.ofPort : Entry → Bool
  | .frame _ _ | .port _ => true
  | _ => false

structure Base.Beside (b b' : Base) : Prop where
  txSeq : b'.txSeq = b.txSeq
  txFrames : b'.txFrames = b.txFrames
  parser : b'.parser = b.parser
  journal : ∃ rest, b'.journal = b.journal ++ rest ∧ ∀ e ∈ rest, e.ofPort = false

namespace Base.Beside
variable {b b' b'' : Base}

/-- Members that this file is not about may change at will. -/
theorem same (txSeq : b'.txSeq = b.txSeq) (txFrames : b'.txFrames = b.txFrames)
    (parser : b'.parser = b.parser) (journal : b'.journal = b.journal) : Base.Beside b b' :=
  ⟨txSeq, txFrames, parser, [], by simp [journal], by simp⟩

theorem refl (b : Base) : Base.Beside b b := same rfl rfl rfl rfl

theorem trans (first : Base.Beside b b') (second : Base.Beside b' b'') : Base.Beside b b'' :=
  ⟨second.txSeq.trans first.txSeq, second.txFrames.trans first.txFrames,
    second.parser.trans first.parser, Library.grown_trans first.journal second.journal⟩

/-- So may they when an entry is added. -/
theorem adding {e : Entry} (other : e.ofPort = false) (txSeq : b'.txSeq = b.txSeq)
    (txFrames : b'.txFrames = b.txFrames) (parser : b'.parser = b.parser)
    (journal : b'.journal = b.journal ++ [e]) : Base.Beside b b' :=
  ⟨txSeq, txFrames, parser, [e], journal, by simpa using other⟩

theorem note {e : Entry} (other : e.ofPort = false) (before : Base.Beside b b') :
    Base.Beside b (b'.note e) :=
  before.trans (.adding other rfl rfl rfl rfl)

theorem answered (before : Base.Beside b b') : Base.Beside b b'.answered :=
  before.trans (.same rfl rfl rfl rfl)

end Base.Beside

variable (w : World) {b b' : Base} (before : Base.Beside b b')

/-! ### Text -/

section
include before

theorem sendTo_beside (c : Conn) (text : Text) : Base.Beside b (b'.sendTo c text) := by
  unfold Base.sendTo
  split
  · exact before
  · exact before.note rfl

theorem sendAll_beside (conns : List Conn) (line : Text) :
    Base.Beside b (b'.sendAll conns line) := by
  unfold Base.sendAll
  exact List.foldlRecOn (motive := Base.Beside b) conns _ before
    fun _ sent c _ => sendTo_beside sent c _

theorem broadcastAll_beside (line : Text) : Base.Beside b (b'.broadcastAll line) :=
  sendAll_beside before _ line

theorem sendToWatchers_beside (line : Text) : Base.Beside b (b'.sendToWatchers line) :=
  sendAll_beside before _ line

theorem sendToWatchers_if_beside (fresh : Bool) (line : Text) :
    Base.Beside b (if fresh then b'.sendToWatchers line else b') := by
  split
  · exact sendToWatchers_beside before line
  · exact before

/-! ### The upgrade -/

theorem otaSendProgress_beside (line : Text) : Base.Beside b (otaSendProgress line b') := by
  unfold otaSendProgress
  split
  · exact sendTo_beside before _ _
  · exact before

theorem otaFinish_beside (line : Text) : Base.Beside b (otaFinish line b') :=
  (broadcastAll_beside (otaSendProgress_beside before line) _).trans (.same rfl rfl rfl rfl)

theorem otaOnChildLine_beside (line : Text) : Base.Beside b (otaOnChildLine line b') := by
  have seen (otaStage : Text) (otaCliLineCount : Nat) : Base.Beside b
      { b' with ota := { b'.ota with otaLastLine := line, otaStage, otaCliLineCount } } :=
    before.trans (.same rfl rfl rfl rfl)
  have told (otaStage : Text) (otaCliLineCount : Nat) (text : Text) :=
    otaSendProgress_beside (seen otaStage otaCliLineCount) text
  unfold otaOnChildLine
  dsimp only
  split
  · exact told _ _ _
  · split
    · exact told _ _ _
    · split
      · exact told _ _ _
      · split
        · split
          · exact seen _ _
          · exact told _ _ _
        · exact told _ _ _

theorem otaOnChildExit_beside (ok : Bool) (exitStatus : Int32) :
    Base.Beside b (otaOnChildExit w ok exitStatus b') := by
  unfold otaOnChildExit
  split
  · exact before
  · split
    · dsimp only [steadyMs]
      have told (line : Text) : Base.Beside b (otaSendProgress line b').answered :=
        (otaSendProgress_beside before line).answered
      refine Base.Beside.trans ?_ (broadcastAll_beside (.refl _) _)
      exact (told _).trans (.same rfl rfl rfl rfl)
    · dsimp only
      split
      · exact otaFinish_beside before _
      · split <;> exact otaFinish_beside before _

end

theorem flasherEnv_beside (b : Base) : (flasherEnv w).Keeps (Base.Beside b) where
  spawn argv b' before := by
    simp only [flasherEnv]
    cases w.os.spawn b'.asked with
    | pipeFailed | spawnFailed => exact before.answered
    | started => exact before.answered.note rfl
  signalGroup _ _ _ before := before.answered.note rfl
  groupAlive _ _ before := before.answered
  waitpid _ _ before := before.answered
  waitpidBlocking _ _ before := before.answered
  onLine _ line _ before := otaOnChildLine_beside before line
  onExit _ ok exitStatus _ before := otaOnChildExit_beside w before ok exitStatus

/-- Past its own entry, a change of the port is talk. -/
theorem onSerialState_beside (up : Bool) (reason : Text) (b : Base) :
    Base.Beside (b.note (.port up)) (onSerialState up reason b) := by
  have told (line : Text) : Base.Beside (b.note (.port up)) ((b.note (.port up)).broadcastAll line) :=
    broadcastAll_beside (.refl _) line
  unfold onSerialState
  dsimp only
  split
  · exact (told _).trans (.same rfl rfl rfl rfl)
  · exact told _

/-! ### What is preserved -/

/-- The five things the host does about its port preserve `holds`. -/
structure Core.Preserves (holds : Core → Prop) : Prop where
  beside : ∀ {p : SerialPort} {b b' : Base}, Base.Beside b b' → holds (p, b) → holds (p, b')
  frame : ∀ (type : UInt8) (payload : List UInt8), payload.length ≤ kMaxPayload → ∀ {s : Core},
    holds s → holds (sendFrameToBoard w type payload s).2
  opening : ∀ {s : Core}, holds s →
    holds (SerialPort.openDevice (serialEnv w) w.opts.serialBaud s).2
  closing : ∀ (reason : Text) {s : Core}, holds s →
    holds (SerialPort.closeInLoop (serialEnv w) reason s)
  writable : ∀ {s : Core}, holds s → holds (SerialPort.handleWrite (serialEnv w) s)

/-- So does feeding the parser. -/
def Core.Parses (holds : Core → Prop) : Prop :=
  ∀ (bytes : List UInt8) {p : SerialPort} {b : Base}, holds (p, b) →
    holds (p, { b with parser := (b.parser.feed bytes).1 })

namespace Core.Preserves
variable {w} {holds : Core → Prop} (preserves : Core.Preserves w holds)
include preserves

theorem con (msgType : ConMsgType) {s : Core} (before : holds s) :
    holds (sendConFrame w msgType s).2 :=
  preserves.frame ptCon _ (by simp [packCon, kMaxPayload]) before

theorem onCommState (comm : CommState) {s : Core} (before : holds s) :
    holds (onCommState w comm s) := by
  have told (line : Text) : Base.Beside s.2 ((s.2.note (.comm comm)).broadcastAll line) :=
    broadcastAll_beside ((Base.Beside.refl s.2).note rfl) line
  unfold App.onCommState
  dsimp only [steadyMs]
  split
  · have asked (line : Text) (now : Nat) : Base.Beside s.2
        { ((s.2.note (.comm comm)).broadcastAll line).answered with lastEnSentMs := now } :=
      (told line).trans (.same rfl rfl rfl rfl)
    have sent (line : Text) (now : Nat) (en : Bool) :=
      preserves.frame ptCmdEn (packCmdEn en) (by simp [packCmdEn, kMaxPayload])
        (preserves.beside (asked line now) before)
    split
    · exact preserves.beside (otaFinish_beside (.refl _) _) (sent _ _ _)
    · exact sent _ _ _
  · exact preserves.beside (told _) before

/-- So do the callbacks of the link. -/
theorem callbacks : (conCallbacks w).Keeps fun _ s => holds s where
  send _ msgType _ before := preserves.con msgType before
  report _ comm _ before := preserves.onCommState comm before

end Core.Preserves
end Mhost.App
