import Mhost.App.HostState

/-!
# Frames to the board, the communication state, upgrade progress

ChassisHost.cc:451-462, 607-622, 690-697, 748-783: everything the link and the serial port
call back into, and what these in turn call.
-/
namespace Mhost.App
open Library (Text utf8 decimal)
open Proto Link Serial Ota

/-- The serial port and the host's own members: what `sendFn_` and `commCb_` reach. -/
abbrev Core := SerialPort × Base

variable (w : World)

/-! ### Upgrade progress -/

def otaSendProgress (line : Text) (b : Base) : Base :=
  match b.ota.otaConn with
  | some c => b.sendTo c (line ++ utf8 "\n")
  | none => b

/-- The flag `userDisabled_` stays as it is. -/
def otaFinish (resultLine : Text) (b : Base) : Base :=
  let b := otaSendProgress resultLine b
  let b := b.broadcastAll (utf8 "\x7b\"t\":\"ota\",\"state\":\"done\"\x7d")
  { b with
    ota := { b.ota with
      otaState := .none, otaConn := none, otaStage := utf8 "-", otaLastLine := [] } }

/-! ### The serial port -/

def onSerialState (up : Bool) (reason : Text) (b : Base) : Base :=
  let b := b.note (.port up)
  let b := b.broadcastAll
    (utf8 "\x7b\"t\":\"serial\",\"up\":" ++ utf8 (if up then "true" else "false") ++
      utf8 ",\"reason\":\"" ++ reason ++ utf8 "\"\x7d")
  if up then { b with lastRetryMs := 0 } else b

def serialEnv : Serial.Env Base where
  openTty b := (w.os.openTty b.asked, b.answered)
  write _ b := (w.os.write b.asked, b.answered)
  stateCb := onSerialState

/-- False when the port is closed, and the frame is dropped. -/
def sendFrameToBoard (type : UInt8) (payload : List UInt8) (s : Core) : Bool × Core :=
  if s.1.isOpen then
    let (frame, seq) := packFrame type payload (some s.2.txSeq)
    let b := { s.2 with txSeq := seq.getD s.2.txSeq }.note (.frame type payload)
    let (p, b) := SerialPort.send (serialEnv w) frame (s.1, b)
    (true, (p, { b with txFrames := b.txFrames + 1 }))
  else (false, (s.1, s.2.note (.dropped type payload)))

def sendConFrame (msgType : ConMsgType) (s : Core) : Bool × Core :=
  sendFrameToBoard w ptCon (packCon msgType kConSenderHost) s

/-! ### The link -/

/-- The enable flag goes out on every `READY` edge, as the user last left it. -/
def onCommState (comm : CommState) (s : Core) : Core :=
  let b := s.2.note (.comm comm)
  let b := b.broadcastAll
    (utf8 "\x7b\"t\":\"con\",\"state\":\"" ++ utf8 comm.name ++ utf8 "\"\x7d")
  if comm = .ready then
    let (now, b) := steadyMs w b
    let b := { b with lastEnSentMs := now }
    let (p, b) := (sendFrameToBoard w ptCmdEn (packCmdEn (!b.userDisabled)) (s.1, b)).2
    if b.ota.otaState = .recovering then
      (p, otaFinish (utf8 "ok flash complete: CON 已重建，电机保持失能（en 1 人工恢复）") b)
    else (p, b)
  else (s.1, b)

def conCallbacks : Link.Callbacks Core where
  sendFn := sendConFrame w
  commCb := onCommState w

/-! ### Output of the flashing child -/

/-- `line.rfind(head, 0) == 0` -/
def startsWith (line : Text) (head : String) : Bool := (utf8 head).isPrefixOf line

/-- `line.find(part) != npos` -/
def contains (part : Text) : Text → Bool
  | [] => part.isEmpty
  | c :: rest => part.isPrefixOf (c :: rest) || contains part rest

def otaOnChildLine (line : Text) (b : Base) : Base :=
  let b := { b with ota := { b.ota with otaLastLine := line } }
  if startsWith line "STAGE: " then
    let stage := line.drop 7
    let b := { b with ota := { b.ota with otaStage := stage, otaCliLineCount := 0 } }
    otaSendProgress (utf8 "flash [" ++ stage ++ utf8 "]") b
  else if startsWith line "OK: " then otaSendProgress (utf8 "flash ok: " ++ line.drop 4) b
  else if startsWith line "FAIL: " then otaSendProgress (utf8 "flash fail: " ++ line.drop 6) b
  else if startsWith line "cli| " ∧
      (contains (utf8 "Wrote and verified address") line ∨ contains (utf8 "%") line) then
    -- one progress line of twenty is passed on
    let count := b.ota.otaCliLineCount + 1
    let b := { b with ota := { b.ota with otaCliLineCount := count } }
    if count % 20 ≠ 0 then b else otaSendProgress (utf8 "  " ++ line) b
  else otaSendProgress (utf8 "  " ++ line) b

def exitReason (exitStatus : Int32) : Text :=
  if wifexited exitStatus then utf8 "exit=" ++ decimal (wexitstatus exitStatus)
  else if wifsignaled exitStatus then utf8 "signal=" ++ decimal (wtermsig exitStatus).toNat
  else utf8 "status=" ++ toStringInt exitStatus.toInt

def otaOnChildExit (ok : Bool) (exitStatus : Int32) (b : Base) : Base :=
  if b.ota.otaState ≠ .flashing then b
  else if ok then
    let b := otaSendProgress (utf8 "ok flash: 擦写校验通过，复位运行中，等待 CON 重建…") b
    let (now, b) := steadyMs w b
    let b := { b with
      ota := { b.ota with otaState := .recovering, otaPhaseStartMs := now }, lastRetryMs := 0 }
    b.broadcastAll (utf8 "\x7b\"t\":\"ota\",\"state\":\"recovering\"\x7d")
  else
    let reason := exitReason exitStatus
    let last := if b.ota.otaLastLine.isEmpty then [] else utf8 "最后输出: " ++ b.ota.otaLastLine
    if wifexited exitStatus ∧ wexitstatus exitStatus = 6 then
      otaFinish (utf8 "err flash: 烧录口被占用或不存在（" ++ reason ++
        utf8 "），未进入 bootloader；电机保持失能。" ++ last) b
    else if b.ota.otaStage = utf8 "check" then
      otaFinish (utf8 "err flash: 镜像预检失败（" ++ reason ++
        utf8 "），未进入 bootloader；电机保持失能。" ++ last) b
    else
      otaFinish (utf8 "err flash: 烧录失败（" ++ reason ++
        utf8 "）。板子可能停在 bootloader，可直接重试 flash。" ++ last) b

def flasherEnv : Ota.Env Unit Base where
  spawn argv b :=
    match w.os.spawn b.asked with
    | .started pid positive => (.started pid positive, b.answered.note (.child argv))
    | failed => (failed, b.answered)
  signalGroup sig pid b := (w.os.signalGroup b.asked, b.answered.note (.signal sig pid))
  groupAlive _ b := (w.os.groupAlive b.asked, b.answered)
  waitpid _ b := (w.os.waitpid b.asked, b.answered)
  waitpidBlocking _ b := (w.os.waitpidBlocking b.asked, b.answered)
  onLine _ line b := otaOnChildLine line b
  onExit _ ok exitStatus s := (s.1, otaOnChildExit w ok exitStatus s.2)

end Mhost.App
