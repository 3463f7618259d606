import Mhost.App.HostLink
import Mhost.Link.ConSmCallbacks
import Mhost.Ota.FlasherOwners
import Mhost.Serial.PortOwners

/-!
# The past is never read

The journal is written and never read, and the input buffers belong to `onMessage`: with
another past and other buffers the host does the same (ChassisHost.cc:451-462, 580-622,
690-783). Here for what the link, the port and the flasher call back into.
-/
namespace Mhost.App
open Library (Text utf8)
open Proto Link Serial Ota

/-- The same members after another past, and with other input buffers. -/
@[simps]
def Base.relabel (past : List Entry) (inputs : List (Conn × Text)) (b : Base) : Base :=
  { b with journal := past ++ b.journal, inputs }

variable (past : List Entry) (inputs : List (Conn × Text)) (w : World) (b : Base)

/-- What reads neither the journal nor the buffers, and only adds to the journal. Where a
function changes other members only, this holds by computation. -/
def Commutes (f : Base → Base) : Prop :=
  ∀ past inputs b, f (b.relabel past inputs) = (f b).relabel past inputs

theorem relabel_note (e : Entry) :
    (b.relabel past inputs).note e = (b.note e).relabel past inputs := by
  simp only [Base.note, Base.relabel, List.append_assoc]

theorem Commutes.noted {f : Base → Base} (e : Entry) (commutes : Commutes f) :
    Commutes fun b => (f b).note e :=
  fun past inputs b => (congrArg (·.note e) (commutes past inputs b)).trans (relabel_note past inputs _ e)

/-! ### Text -/

theorem relabel_answered :
    (b.relabel past inputs).answered = b.answered.relabel past inputs := rfl

theorem relabel_sendTo (c : Conn) (text : Text) :
    (b.relabel past inputs).sendTo c text = (b.sendTo c text).relabel past inputs := by
  simp only [Base.sendTo, Base.relabel_halfClosed]
  split
  · rfl
  · exact relabel_note past inputs b _

theorem relabel_sendAll (conns : List Conn) (line : Text) :
    (b.relabel past inputs).sendAll conns line = (b.sendAll conns line).relabel past inputs := by
  unfold Base.sendAll
  induction conns generalizing b with
  | nil => rfl
  | cons c rest ih => simp only [List.foldl_cons, relabel_sendTo, ih]

theorem relabel_broadcastAll (line : Text) :
    (b.relabel past inputs).broadcastAll line = (b.broadcastAll line).relabel past inputs :=
  relabel_sendAll past inputs b b.conns line

theorem relabel_sendToWatchers (line : Text) :
    (b.relabel past inputs).sendToWatchers line = (b.sendToWatchers line).relabel past inputs :=
  relabel_sendAll past inputs b b.watchers line

theorem relabel_otaSendProgress (line : Text) :
    otaSendProgress line (b.relabel past inputs) = (otaSendProgress line b).relabel past inputs := by
  simp only [otaSendProgress, Base.relabel_ota]
  cases b.ota.otaConn with
  | none => rfl
  | some c => exact relabel_sendTo past inputs b c _

theorem relabel_otaFinish (line : Text) :
    otaFinish line (b.relabel past inputs) = (otaFinish line b).relabel past inputs := by
  simp only [otaFinish, relabel_otaSendProgress, relabel_broadcastAll]
  rfl

theorem relabel_onSerialState (up : Bool) (reason : Text) :
    onSerialState up reason (b.relabel past inputs) =
      (onSerialState up reason b).relabel past inputs := by
  simp only [onSerialState, relabel_note, relabel_broadcastAll]
  split <;> rfl

/-! ### The link -/

theorem serialEnv_views :
    (serialEnv w).Views (serialEnv w) (Base.relabel past inputs) where
  openTty _ := rfl
  write _ _ := rfl
  stateCb up reason b := relabel_onSerialState past inputs b up reason

/-- A core over a base that is seen. -/
abbrev relabelCore (past : List Entry) (inputs : List (Conn × Text)) (s : Core) : Core :=
  SerialPort.seen (Base.relabel past inputs) s

theorem relabel_sendFrameToBoard (type : UInt8) (payload : List UInt8) (p : SerialPort) :
    sendFrameToBoard w type payload (p, b.relabel past inputs) =
      ((sendFrameToBoard w type payload (p, b)).1,
        relabelCore past inputs (sendFrameToBoard w type payload (p, b)).2) := by
  have noted := relabel_note past inputs
    { b with txSeq := (packFrame type payload (some b.txSeq)).2.getD b.txSeq } (.frame type payload)
  have sent := SerialPort.send_seen (serialEnv_views past inputs w) p
    ({ b with txSeq := (packFrame type payload (some b.txSeq)).2.getD b.txSeq }.note
      (.frame type payload)) (packFrame type payload (some b.txSeq)).1
  cases opened : p.isOpen with
  | true =>
    simp only [sendFrameToBoard, opened, if_true, Base.relabel_txSeq]
    exact congrArg (fun s : Core => (true, s.1, { s.2 with txFrames := s.2.txFrames + 1 }))
      ((congrArg (fun b => SerialPort.send (serialEnv w) _ (p, b)) noted).trans sent)
  | false => simp only [sendFrameToBoard, opened, relabel_note]; rfl

/-- `onCommState` up to its test for `READY`. -/
def announced (comm : CommState) (b : Base) : Base :=
  (b.note (.comm comm)).broadcastAll
    (utf8 "\x7b\"t\":\"con\",\"state\":\"" ++ utf8 comm.name ++ utf8 "\"\x7d")

/-- `lastEnSentMs_ = steadyMs()` -/
def stamped (b : Base) : Base := { b.answered with lastEnSentMs := w.os.steadyMs b.asked }

/-- The last part of `onCommState`: a recovering upgrade is complete. -/
def completed (s : Core) : Core :=
  if s.2.ota.otaState = .recovering then
    (s.1, otaFinish (utf8 "ok flash complete: CON 已重建，电机保持失能（en 1 人工恢复）") s.2)
  else s

theorem onCommState_notReady (s : Core) :
    onCommState w .notReady s = (s.1, announced .notReady s.2) := rfl

theorem onCommState_ready (s : Core) :
    onCommState w .ready s =
      completed (sendFrameToBoard w ptCmdEn (packCmdEn (!(announced .ready s.2).userDisabled))
        (s.1, stamped w (announced .ready s.2))).2 := rfl

theorem relabel_announced (comm : CommState) :
    announced comm (b.relabel past inputs) = (announced comm b).relabel past inputs := by
  simp only [announced, relabel_note, relabel_broadcastAll]

theorem relabel_completed (s : Core) :
    completed (relabelCore past inputs s) = relabelCore past inputs (completed s) := by
  simp only [completed, SerialPort.seen, Base.relabel_ota, relabel_otaFinish]
  split <;> rfl

theorem relabel_onCommState (comm : CommState) (p : SerialPort) :
    onCommState w comm (p, b.relabel past inputs) =
      relabelCore past inputs (onCommState w comm (p, b)) := by
  cases comm with
  | notReady => rw [onCommState_notReady, onCommState_notReady, relabel_announced]; rfl
  | ready =>
    have sent := relabel_sendFrameToBoard past inputs w (stamped w (announced .ready b)) ptCmdEn
      (packCmdEn (!(announced .ready b).userDisabled)) p
    rw [onCommState_ready, onCommState_ready, relabel_announced, ← relabel_completed]
    exact congrArg (fun r => completed r.2) sent

theorem conCallbacks_views :
    (conCallbacks w).Views (conCallbacks w) (relabelCore past inputs) where
  send msgType s := relabel_sendFrameToBoard past inputs w s.2 ptCon (packCon msgType kConSenderHost) s.1
  report comm s := relabel_onCommState past inputs w s.2 comm s.1

/-! ### The child -/

theorem relabel_otaOnChildLine (line : Text) :
    otaOnChildLine line (b.relabel past inputs) = (otaOnChildLine line b).relabel past inputs := by
  have told (otaStage : Text) (otaCliLineCount : Nat) (text : Text) := relabel_otaSendProgress past inputs
    { b with ota := { b.ota with otaLastLine := line, otaStage, otaCliLineCount } } text
  simp only [otaOnChildLine, Base.relabel_ota]
  split
  · exact told _ _ _
  · split
    · exact told _ _ _
    · split
      · exact told _ _ _
      · split
        · split
          · rfl
          · exact told _ _ _
        · exact told _ _ _

theorem relabel_otaOnChildExit (ok : Bool) (exitStatus : Int32) :
    otaOnChildExit w ok exitStatus (b.relabel past inputs) =
      (otaOnChildExit w ok exitStatus b).relabel past inputs := by
  simp only [otaOnChildExit, Base.relabel_ota, relabel_otaSendProgress, relabel_otaFinish]
  split
  · rfl
  · split
    · generalize otaSendProgress _ b = b
      exact relabel_broadcastAll past inputs { b.answered with
        ota := { b.ota with otaState := .recovering, otaPhaseStartMs := w.os.steadyMs b.asked }
        lastRetryMs := 0 } _
    · split
      · rfl
      · split <;> rfl

theorem flasherEnv_views :
    (flasherEnv w).Views (flasherEnv w) (Base.relabel past inputs) where
  spawn argv b := by
    simp only [flasherEnv, Base.relabel_asked]
    cases w.os.spawn b.asked with
    | pipeFailed | spawnFailed => rfl
    | started pid positive => simp only [relabel_answered, relabel_note]
  signalGroup _ _ b := by simp only [flasherEnv, relabel_answered, relabel_note]; rfl
  groupAlive _ _ := rfl
  waitpid _ _ := rfl
  waitpidBlocking _ _ := rfl
  onLine _ line b := relabel_otaOnChildLine past inputs b line
  onExit _ ok exitStatus s := congrArg (Prod.mk s.1) (relabel_otaOnChildExit past inputs w s.2 ok exitStatus)

end Mhost.App
