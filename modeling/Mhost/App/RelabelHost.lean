import Mhost.App.Acts
import Mhost.App.Relabel

/-!
# No act reads the past

Every act but the two that are about the input buffers does the same after another past and
with other buffers (ChassisHost.cc:112-205, 208-534, 624-687, 700-860). So an act only adds
to the journal, and leaves the buffers alone.
-/
namespace Mhost.App.ChassisHost
open Library (Text utf8)
open Proto Link Serial Ota

/-- The same host after another past, and with other input buffers. -/
@[simps]
def relabel (past : List Entry) (inputs : List (Conn × Text)) (h : ChassisHost) : ChassisHost :=
  { h with base := h.base.relabel past inputs }

variable (past : List Entry) (inputs : List (Conn × Text)) (w : World) (h : ChassisHost)

/-! ### Parts of a handler -/

theorem relabel_ite (p : Prop) [Decidable p] (yes no : ChassisHost) :
    (if p then yes else no).relabel past inputs =
      if p then yes.relabel past inputs else no.relabel past inputs :=
  apply_ite _ p yes no

theorem relabel_onBase (f : Base → Base) (commutes : Commutes f) :
    (h.relabel past inputs).onBase f = (h.onBase f).relabel past inputs := by
  simp only [onBase, relabel, commutes past inputs h.base]

theorem relabel_reply (c : Conn) (text : Text) :
    (h.relabel past inputs).reply c text = (h.reply c text).relabel past inputs :=
  relabel_onBase past inputs h _ fun past inputs b => relabel_sendTo past inputs b c text

theorem relabel_otaBusy : (h.relabel past inputs).otaBusy = h.otaBusy := rfl

theorem relabel_clock :
    (h.relabel past inputs).clock w = ((h.clock w).1, (h.clock w).2.relabel past inputs) := rfl

/-- A call into the port and what it calls back. -/
theorem relabel_onCore (f : Core → Core)
    (seen : ∀ p b, f (p, b.relabel past inputs) = relabelCore past inputs (f (p, b))) :
    (h.relabel past inputs).onCore f = (h.onCore f).relabel past inputs := by
  simp only [onCore, relabel, seen]
  rfl

theorem relabel_sendFrame (type : UInt8) (payload : List UInt8) :
    (h.relabel past inputs).sendFrame w type payload =
      ((h.sendFrame w type payload).1, (h.sendFrame w type payload).2.relabel past inputs) := by
  simp only [sendFrame]
  rw [relabel_onCore past inputs h]
  · rfl
  · intro p b
    rw [relabel_sendFrameToBoard]

theorem relabel_call (c : ConSm.Call) :
    (h.relabel past inputs).onLink (fun s => ConSm.call (conCallbacks w) s c) =
      (h.onLink fun s => ConSm.call (conCallbacks w) s c).relabel past inputs := by
  have same := ConSm.call_seen (conCallbacks_views past inputs w) (h.conSm, h.serial, h.base) c
  simp only [onLink, relabel]
  exact congrArg (fun s : ConSm × Core =>
    ({ conSm := s.1, serial := s.2.1, flasher := h.flasher, base := s.2.2 } : ChassisHost)) same

theorem relabel_connect (now : Nat) :
    (h.relabel past inputs).onLink (fun s => (ConSm.connect (conCallbacks w) now s).2) =
      (h.onLink fun s => (ConSm.connect (conCallbacks w) now s).2).relabel past inputs :=
  relabel_call past inputs w h (.connect now)

theorem relabel_disconnect (now : Nat) :
    (h.relabel past inputs).onLink (fun s => (ConSm.disconnect (conCallbacks w) now s).2) =
      (h.onLink fun s => (ConSm.disconnect (conCallbacks w) now s).2).relabel past inputs :=
  relabel_call past inputs w h (.disconnect now)

theorem relabel_onFlasher (f : OtaFlasher Unit × Base → OtaFlasher Unit × Base)
    (seen : ∀ flasher b, f (flasher, b.relabel past inputs) =
      OtaFlasher.seen (Base.relabel past inputs) (f (flasher, b))) :
    (h.relabel past inputs).onFlasher f = (h.onFlasher f).relabel past inputs := by
  simp only [onFlasher, relabel_flasher]
  cases h.flasher with
  | none => rfl
  | some flasher => simp only [relabel_base, seen]; rfl

/-! ### Commands -/

theorem relabel_cmdTwist (c : Conn) (tok : List Text) :
    cmdTwist w c tok (h.relabel past inputs) = (cmdTwist w c tok h).relabel past inputs := by
  unfold cmdTwist
  split
  · exact relabel_reply past inputs h c _
  · cases parseParams w.fl tok.tail with
    | error => exact relabel_reply past inputs h c _
    | ok v =>
      dsimp only
      rw [relabel_onBase past inputs h _ (.noted _ fun _ _ _ => rfl), relabel_reply]
      rfl

theorem relabel_cmdRpm (c : Conn) (tok : List Text) :
    cmdRpm w c tok (h.relabel past inputs) = (cmdRpm w c tok h).relabel past inputs := by
  unfold cmdRpm
  split
  · exact relabel_reply past inputs h c _
  · cases parseParams w.fl tok.tail with
    | error => exact relabel_reply past inputs h c _
    | ok v =>
      dsimp only
      rw [relabel_onBase past inputs h _ (.noted _ fun _ _ _ => rfl), relabel_reply]

theorem relabel_cmdStop (c : Conn) :
    cmdStop w c (h.relabel past inputs) = (cmdStop w c h).relabel past inputs := by
  unfold cmdStop
  dsimp only
  rw [relabel_onBase past inputs h _ fun _ _ _ => rfl, relabel_sendFrame, relabel_reply]

/-- `en 1` and `en 0` from their frames on. -/
def enabling (c : Conn) (now : Nat) (h : ChassisHost) : ChassisHost :=
  let h := (h.sendFrame w ptCmdEn (packCmdEn true)).2
  let h :=
    if h.conSm.state = .disconnected then
      h.onLink fun s => (ConSm.connect (conCallbacks w) now s).2
    else h
  h.reply c (utf8 "ok en=1（并自动建链）\n")

def disabling (c : Conn) (now : Nat) (h : ChassisHost) : ChassisHost :=
  let h := (h.sendFrame w ptCmdEn (packCmdEn false)).2
  let h := h.onLink fun s => (ConSm.disconnect (conCallbacks w) now s).2
  h.reply c (utf8 "ok en=0（已拆链，重连后仍保持失能）\n")

theorem relabel_enabling (c : Conn) (now : Nat) :
    enabling w c now (h.relabel past inputs) = (enabling w c now h).relabel past inputs := by
  simp only [enabling, relabel_sendFrame, relabel_conSm, relabel_connect, ← relabel_ite,
    relabel_reply]

theorem relabel_disabling (c : Conn) (now : Nat) :
    disabling w c now (h.relabel past inputs) = (disabling w c now h).relabel past inputs := by
  simp only [disabling, relabel_sendFrame, relabel_disconnect, relabel_reply]

theorem relabel_cmdEnable (c : Conn) (tok : List Text) :
    cmdEnable w c tok (h.relabel past inputs) = (cmdEnable w c tok h).relabel past inputs := by
  unfold cmdEnable
  split
  · exact relabel_reply past inputs h c _
  · dsimp only
    split
    · have noted := relabel_onBase past inputs (h.clock w).2 (fun b =>
        { b with userDisabled := false, lastEnSentMs := (h.clock w).1 }.note (.enable c true))
        (.noted _ fun _ _ _ => rfl)
      exact (congrArg (enabling w c (h.clock w).1) noted).trans (relabel_enabling past inputs w _ c _)
    · have noted := relabel_onBase past inputs (h.clock w).2 (fun b =>
        { b with userDisabled := true, speed := { b.speed with cmdMode := .none } }.note
          (.enable c false)) (.noted _ fun _ _ _ => rfl)
      exact (congrArg (disabling w c (h.clock w).1) noted).trans
        (relabel_disabling past inputs w _ c _)

theorem relabel_cmdPid (c : Conn) (tok : List Text) :
    cmdPid w c tok (h.relabel past inputs) = (cmdPid w c tok h).relabel past inputs := by
  unfold cmdPid
  dsimp only
  split
  · exact relabel_reply past inputs h c _
  · cases parseParams w.fl tok.tail with
    | error => exact relabel_reply past inputs h c _
    | ok v => simp only [relabel_sendFrame, relabel_reply]

theorem relabel_cmdSign (c : Conn) (tok : List Text) :
    cmdSign w c tok (h.relabel past inputs) = (cmdSign w c tok h).relabel past inputs := by
  unfold cmdSign
  split
  · exact relabel_reply past inputs h c _
  · cases parseParams w.fl tok.tail with
    | error => exact relabel_reply past inputs h c _
    | ok v => simp only [relabel_sendFrame, relabel_reply]

theorem relabel_cmdPing (c : Conn) :
    cmdPing w c (h.relabel past inputs) = (cmdPing w c h).relabel past inputs := by
  simp only [cmdPing, relabel_serial, relabel_ite, relabel_reply, relabel_clock]
  rw [relabel_onBase past inputs _ _ fun _ _ _ => rfl, relabel_sendFrame]

theorem relabel_cmdWatch (c : Conn) (arg : Text) :
    cmdWatch c arg (h.relabel past inputs) = (cmdWatch c arg h).relabel past inputs := by
  simp only [cmdWatch, relabel_base, Base.relabel_watchers]
  rw [relabel_onBase past inputs _ _ fun _ _ _ => rfl, relabel_reply]

theorem relabel_cmdStat (c : Conn) :
    cmdStat w c (h.relabel past inputs) = (cmdStat w c h).relabel past inputs := by
  unfold cmdStat
  dsimp only
  rw [relabel_onBase past inputs _ _ fun _ _ _ => rfl, ← relabel_reply]
  rfl

theorem relabel_cmdCon (c : Conn) :
    cmdCon w c (h.relabel past inputs) = (cmdCon w c h).relabel past inputs := by
  simp only [cmdCon, relabel_base, relabel_conSm, Base.relabel_lastFrameMs, relabel_ite,
    relabel_reply, relabel_clock]

theorem relabel_shutdown (c : Conn) :
    (h.relabel past inputs).shutdown c = (h.shutdown c).relabel past inputs :=
  relabel_onBase past inputs h _ fun _ _ _ => rfl

/-! ### Upgrade commands -/

theorem relabel_cmdFlash (c : Conn) (tok : List Text) :
    cmdFlash w c tok (h.relabel past inputs) = (cmdFlash w c tok h).relabel past inputs := by
  unfold cmdFlash
  simp only [relabel_base, relabel_otaBusy, Base.relabel_ota, Base.relabel_asked, relabel_ite,
    relabel_reply]
  have asked : (h.relabel past inputs).onBase Base.answered =
    (h.onBase Base.answered).relabel past inputs := rfl
  simp only [asked, relabel_clock, relabel_reply]
  rw [relabel_onBase past inputs _ _ (.noted _ fun _ _ _ => rfl)]
  simp only [relabel_sendFrame, relabel_reply]
  rw [relabel_onBase past inputs _ _ fun past inputs b => relabel_broadcastAll past inputs b _]

/-- `otaBeginFlasher` up to the start of the child: the phase is entered, the link dropped. -/
def prepared (h : ChassisHost) : ChassisHost :=
  let (now, h) := (h.onBase fun b => { b with ota := { b.ota with otaState := .flashing } }).clock w
  let h := h.onBase fun b => { b with ota := { b.ota with otaPhaseStartMs := now } }
  h.onLink fun s => ConSm.reset (conCallbacks w) s

/-- `flasher_->start`, on the flasher that is there or a new one. -/
def startChild (h : ChassisHost) : Bool × (OtaFlasher Unit × Base) :=
  OtaFlasher.start (flasherEnv w) (flashArgv w h.base.ota.otaFile) () (h.flasher.getD {}, h.base)

/-- What is said of a child that was started, or could not be. -/
def launched (started : Bool) (h : ChassisHost) : ChassisHost :=
  if !started then
    h.onBase (otaFinish (utf8 "err flash: 子进程启动失败（检查 --flash-script / 解释器）"))
  else
    h.onBase fun b =>
      (otaSendProgress (utf8 "ok flash: 烧录子进程已启动（" ++ b.ota.otaFile ++ utf8 "）") b).broadcastAll
        (utf8 "\x7b\"t\":\"ota\",\"state\":\"flashing\"\x7d")

theorem otaBeginFlasher_eq :
    otaBeginFlasher w h =
      launched (startChild w (prepared w h)).1
        { prepared w h with
          flasher := some (startChild w (prepared w h)).2.1
          base := (startChild w (prepared w h)).2.2 } := rfl

theorem relabel_prepared :
    prepared w (h.relabel past inputs) = (prepared w h).relabel past inputs :=
  relabel_call past inputs w (((h.onBase fun b =>
    { b with ota := { b.ota with otaState := .flashing } }).clock w).2.onBase fun b =>
      { b with ota := { b.ota with otaPhaseStartMs := w.os.steadyMs h.base.asked } }) .reset

theorem relabel_startChild :
    startChild w (h.relabel past inputs) =
      ((startChild w h).1, OtaFlasher.seen (Base.relabel past inputs) (startChild w h).2) :=
  OtaFlasher.start_seen (flasherEnv_views past inputs w) _ h.base _ ()

theorem relabel_launched (started : Bool) :
    launched started (h.relabel past inputs) = (launched started h).relabel past inputs := by
  unfold launched
  split
  · exact relabel_onBase past inputs h _ fun past inputs b => relabel_otaFinish past inputs b _
  · apply relabel_onBase past inputs h
    intro past inputs b
    simp only [Base.relabel_ota, relabel_otaSendProgress, relabel_broadcastAll]

theorem relabel_otaBeginFlasher :
    otaBeginFlasher w (h.relabel past inputs) = (otaBeginFlasher w h).relabel past inputs := by
  simp only [otaBeginFlasher_eq, relabel_prepared, relabel_startChild, ← relabel_launched]
  rfl

theorem relabel_cmdFlashStatus (c : Conn) :
    cmdFlashStatus c (h.relabel past inputs) = (cmdFlashStatus c h).relabel past inputs :=
  relabel_reply past inputs h c _

theorem relabel_cmdFlashAbort (c : Conn) (tok : List Text) :
    cmdFlashAbort w c tok (h.relabel past inputs) = (cmdFlashAbort w c tok h).relabel past inputs := by
  have finished (line : Text) := relabel_onBase past inputs h (otaFinish line) fun past inputs b =>
    relabel_otaFinish past inputs b line
  simp only [cmdFlashAbort, relabel_ite, relabel_reply, relabel_base, Base.relabel_ota, finished]
  cases h.base.ota.otaState with
  | none | quiescing | recovering => rfl
  | flashing =>
    dsimp only
    rw [relabel_onFlasher, relabel_ite]
    exact fun flasher b => OtaFlasher.killGroup_seen (flasherEnv_views past inputs w) flasher b

/-! ### Lines -/

theorem relabel_handleCommand (c : Conn) (tok : List Text) :
    handleCommand w c tok (h.relabel past inputs) = (handleCommand w c tok h).relabel past inputs := by
  cases tok with
  | nil => rfl
  | cons cmd rest =>
    have noted := relabel_onBase past inputs h (·.note (.command c (cmd :: rest)))
      (.noted _ fun _ _ _ => rfl)
    unfold handleCommand
    simp only [noted, relabel_otaBusy, relabel_ite, relabel_reply, relabel_cmdTwist, relabel_cmdRpm,
      relabel_cmdStop, relabel_cmdEnable, relabel_cmdPid, relabel_cmdSign, relabel_cmdPing,
      relabel_cmdWatch, relabel_cmdStat, relabel_cmdCon, relabel_cmdFlash, relabel_cmdFlashStatus,
      relabel_cmdFlashAbort, relabel_shutdown, cmdHelp]
    rfl

theorem relabel_handleLine (c : Conn) (line : Text) :
    handleLine w c line (h.relabel past inputs) = (handleLine w c line h).relabel past inputs := by
  unfold handleLine
  cases trimLine line with
  | nil => rfl
  | cons first rest => simp only [relabel_ite, relabel_handleCommand]

/-! ### Connections -/

theorem relabel_onConnectionUp (c : Conn) :
    onConnectionUp c (h.relabel past inputs) = (onConnectionUp c h).relabel past inputs := by
  unfold onConnectionUp
  dsimp only
  rw [relabel_onBase past inputs h _ (.noted _ fun _ _ _ => rfl), relabel_reply, relabel_reply]
  rfl

theorem resetConn_eq (c : Conn) (b : Base) :
    resetConn c b =
      { b with
        ping := if b.ping.pingConn = some c then { b.ping with pingConn := none } else b.ping
        ota := if b.ota.otaConn = some c then { b.ota with otaConn := none } else b.ota } := by
  unfold resetConn
  by_cases asked : b.ping.pingConn = some c
  · by_cases began : b.ota.otaConn = some c <;> simp [asked, began]
  · by_cases began : b.ota.otaConn = some c <;> simp [asked, began]

theorem relabel_resetConn (c : Conn) :
    (h.relabel past inputs).onBase (resetConn c) = (h.onBase (resetConn c)).relabel past inputs := by
  apply relabel_onBase past inputs h
  intro past inputs b
  rw [resetConn_eq, resetConn_eq]
  rfl

/-- What a connection takes with it. -/
def left (c : Conn) (b : Base) : Base :=
  { b with
    conns := b.conns.filter (· ≠ c), watchers := b.watchers.filter (· ≠ c)
    inputs := b.inputs.filter (·.1 ≠ c) }.note (.down c)

/-- The connection that drives is gone: no more repeats, and a stop. -/
def braked (c : Conn) (h : ChassisHost) : ChassisHost :=
  if h.base.speed.speedConn = some c then
    ((h.onBase fun b =>
      { b with speed := { b.speed with cmdMode := .none, speedConn := none } }).sendFrame w
        ptCmdStop []).2
  else h

theorem onConnectionDown_eq (c : Conn) :
    onConnectionDown w c h = (braked w c (h.onBase (left c))).onBase (resetConn c) := rfl

theorem relabel_left (c : Conn) :
    (h.relabel past inputs).onBase (left c) =
      (h.onBase (left c)).relabel past (inputs.filter (·.1 ≠ c)) := by
  simp only [left, onBase, relabel, Base.note, Base.relabel, List.append_assoc]

theorem relabel_braked (c : Conn) :
    braked w c (h.relabel past inputs) = (braked w c h).relabel past inputs := by
  have idle := relabel_onBase past inputs h (fun b =>
    { b with speed := { b.speed with cmdMode := .none, speedConn := none } }) fun _ _ _ => rfl
  simp only [braked, idle, relabel_sendFrame, relabel_ite, relabel_base, Base.relabel_speed]

/-- The input buffer goes with the connection. -/
theorem relabel_onConnectionDown (c : Conn) :
    onConnectionDown w c (h.relabel past inputs) =
      (onConnectionDown w c h).relabel past (inputs.filter (·.1 ≠ c)) := by
  simp only [onConnectionDown_eq, relabel_left, relabel_braked, relabel_resetConn]

/-! ### Board frames -/

/-- `onStatus` without the upgrade: the reading, and the self-heal. -/
def healed (now : Nat) (status : StatusData) (h : ChassisHost) : ChassisHost :=
  let h := h.onBase fun b => { b with telemetry := { b.telemetry with status } }
  if !h.base.userDisabled ∧ h.conSm.comm = .ready ∧ status.en = 0 ∧
      elapsed now h.base.lastEnSentMs > w.opts.enResendMs then
    ((h.onBase fun b => { b with lastEnSentMs := now }).sendFrame w ptCmdEn (packCmdEn true)).2
  else h

theorem onStatus_eq (now : Nat) (status : StatusData) :
    onStatus w now status h =
      if (healed w now status h).base.ota.otaState = .quiescing ∧ status.en = 0 then
        otaBeginFlasher w (healed w now status h)
      else healed w now status h := rfl

theorem relabel_healed (now : Nat) (status : StatusData) :
    healed w now status (h.relabel past inputs) = (healed w now status h).relabel past inputs := by
  have read := relabel_onBase past inputs h (fun b =>
    { b with telemetry := { b.telemetry with status } }) fun _ _ _ => rfl
  unfold healed
  rw [read]
  generalize h.onBase (fun b => { b with telemetry := { b.telemetry with status } }) = h
  have sent := relabel_onBase past inputs h (fun b => { b with lastEnSentMs := now }) fun _ _ _ => rfl
  simp only [sent, relabel_sendFrame, relabel_ite, relabel_base, relabel_conSm,
    Base.relabel_userDisabled, Base.relabel_lastEnSentMs]

theorem relabel_onStatus (now : Nat) (status : StatusData) :
    onStatus w now status (h.relabel past inputs) = (onStatus w now status h).relabel past inputs := by
  simp only [onStatus_eq, relabel_healed, relabel_otaBeginFlasher, relabel_ite, relabel_base,
    Base.relabel_ota]

theorem relabel_onPing (f : Frame) :
    onPing w f (h.relabel past inputs) = (onPing w f h).relabel past inputs := by
  unfold onPing
  simp only [relabel_base, Base.relabel_ping]
  split
  · rw [relabel_ite]
    split
    · rw [relabel_clock, ← relabel_onBase past inputs _ _ fun _ _ _ => rfl, ← relabel_reply]
      rfl
    · rfl
  · rfl

/-- What every frame does: the clock is read and the silence is over. -/
def received (h : ChassisHost) : ChassisHost :=
  (h.clock w).2.onBase fun b => { b with lastFrameMs := (h.clock w).1, rxSilenceWarned := false }

theorem relabel_received : received w (h.relabel past inputs) = (received w h).relabel past inputs :=
  rfl

theorem relabel_onFrame (f : Frame) :
    onFrame w f (h.relabel past inputs) = (onFrame w f h).relabel past inputs := by
  have taken := relabel_received past inputs w h
  unfold onFrame
  dsimp only
  split
  · cases parseStatus f with
    | none => exact taken
    | some status => exact (congrArg (onStatus w _ status) taken).trans (relabel_onStatus ..)
  · split
    · rcases unpackCon f with _ | ⟨sender, msgType⟩
      · exact taken
      · dsimp only
        split
        · exact taken
        · cases ConMsgType.ofByte msgType with
          | none => exact taken
          | some msgType =>
            exact (congrArg (onLink · (ConSm.onFrame (conCallbacks w) msgType _)) taken).trans
              (relabel_call past inputs w _ (.onFrame msgType _))
    · split
      · exact (congrArg (onPing w f) taken).trans (relabel_onPing ..)
      · exact (congrArg (onBase · fun b => { b with telemetry := onReading f b.telemetry }) taken).trans
          (relabel_onBase past inputs _ _ fun _ _ _ => rfl)

/-! ### Timers -/

theorem relabel_onConTick : onConTick w (h.relabel past inputs) = (onConTick w h).relabel past inputs :=
  relabel_call past inputs w (h.clock w).2 (.tick _)

theorem relabel_onRepeatTimer :
    onRepeatTimer w (h.relabel past inputs) = (onRepeatTimer w h).relabel past inputs := by
  simp only [onRepeatTimer, relabel_base, relabel_conSm, Base.relabel_speed, Base.relabel_userDisabled,
    relabel_ite, relabel_sendFrame]

theorem relabel_onOdomTimer :
    onOdomTimer w (h.relabel past inputs) = (onOdomTimer w h).relabel past inputs := by
  have sent := relabel_onBase past inputs h (fun b => b.sendToWatchers (odomLine w b.telemetry.odom))
    fun past inputs b => relabel_sendToWatchers past inputs b _
  simp only [onOdomTimer, sent, relabel_ite, relabel_base, Base.relabel_telemetry, Base.relabel_watchers]

theorem relabel_onSlowTimer :
    onSlowTimer w (h.relabel past inputs) = (onSlowTimer w h).relabel past inputs := by
  unfold onSlowTimer
  rw [relabel_ite]
  have told := relabel_onBase past inputs h (fun b =>
    let t := b.telemetry
    let b := if t.haveEnc then b.sendToWatchers (encLine w t.enc) else b
    let b := if t.haveImu then b.sendToWatchers (imuLine w t.imu) else b
    let b := if t.haveTelem then b.sendToWatchers (telemLine w t.telem) else b
    b.sendToWatchers (statusLine t.status)) fun past inputs b => by
      simp only [Base.relabel_telemetry, relabel_sendToWatchers, ← apply_ite (Base.relabel past inputs)]
  rw [told]
  rfl

theorem relabel_reopen : reopen w (h.relabel past inputs) = (reopen w h).relabel past inputs := by
  have opened := relabel_onCore past inputs h
    (fun s => (SerialPort.openDevice (serialEnv w) w.opts.serialBaud s).2) fun p b =>
      congrArg Prod.snd (SerialPort.openDevice_seen (serialEnv_views past inputs w) p b _)
  simp only [reopen, opened, relabel_serial, relabel_ite]

theorem relabel_otaTimeouts (now : Nat) :
    otaTimeouts w now (h.relabel past inputs) = (otaTimeouts w now h).relabel past inputs := by
  have finished (line : Text) := relabel_onBase past inputs h (otaFinish line) fun past inputs b =>
    relabel_otaFinish past inputs b line
  simp only [otaTimeouts, finished, relabel_otaBeginFlasher, relabel_ite, relabel_base, Base.relabel_ota]

theorem relabel_silenceCheck (now : Nat) :
    silenceCheck w now (h.relabel past inputs) = (silenceCheck w now h).relabel past inputs := by
  have warned (line : Text) := relabel_onBase past inputs h
    (fun b => { b with rxSilenceWarned := true }.broadcastAll line) fun past inputs b =>
      relabel_broadcastAll past inputs { b with rxSilenceWarned := true } line
  simp only [silenceCheck, warned, relabel_ite, relabel_base, relabel_serial, Base.relabel_ota,
    Base.relabel_lastFrameMs, Base.relabel_rxSilenceWarned]

theorem relabel_reconnect (now : Nat) :
    reconnect w now (h.relabel past inputs) = (reconnect w now h).relabel past inputs := by
  have tried := relabel_onBase past inputs h (fun b => { b with lastRetryMs := now }) fun _ _ _ => rfl
  simp only [reconnect, tried, relabel_connect, relabel_ite, relabel_base, relabel_serial,
    relabel_conSm, Base.relabel_ota, Base.relabel_lastRetryMs]

theorem relabel_onWatchdogTimer :
    onWatchdogTimer w (h.relabel past inputs) = (onWatchdogTimer w h).relabel past inputs := by
  simp only [onWatchdogTimer, relabel_clock, relabel_reopen, relabel_otaTimeouts,
    relabel_silenceCheck, relabel_reconnect]

/-! ### Acts -/

theorem relabel_childEvent (due : OtaFlasher Unit → Bool)
    (f : OtaFlasher Unit × Base → OtaFlasher Unit × Base)
    (seen : ∀ flasher b, f (flasher, b.relabel past inputs) =
      OtaFlasher.seen (Base.relabel past inputs) (f (flasher, b))) :
    childEvent due f (h.relabel past inputs) = (childEvent due f h).relabel past inputs := by
  simp only [childEvent, relabel_onFlasher past inputs h f seen, relabel_ite, relabel_flasher]

/-- What an act does to the input buffers. -/
def Act.buffers (inputs : List (Conn × Text)) : Act → List (Conn × Text)
  | .down c => inputs.filter (·.1 ≠ c)
  | .buffered c left => (c, left) :: inputs.filter (·.1 ≠ c)
  | _ => inputs

theorem relabel_act (a : Act) :
    act w (h.relabel past inputs) a = (act w h a).relabel past (a.buffers inputs) := by
  have port := serialEnv_views past inputs w
  have child := flasherEnv_views past inputs w
  cases a with
  | up c => exact relabel_onConnectionUp past inputs h c
  | down c => exact relabel_onConnectionDown past inputs w h c
  | buffered c left => rfl
  | line c text => exact relabel_handleLine past inputs w h c text
  | parsed bytes => rfl
  | frame f => exact relabel_onFrame past inputs w h f
  | closed reason =>
    exact relabel_onCore past inputs h _ fun p b => SerialPort.closeInLoop_seen port p b reason
  | serialWritable => exact relabel_onCore past inputs h _ (SerialPort.handleWrite_seen port)
  | conTick => exact relabel_onConTick past inputs w h
  | repeatTimer => exact relabel_onRepeatTimer past inputs w h
  | odomTimer => exact relabel_onOdomTimer past inputs w h
  | slowTimer => exact relabel_onSlowTimer past inputs w h
  | watchdogTimer => exact relabel_onWatchdogTimer past inputs w h
  | childReadable reads =>
    exact relabel_childEvent past inputs h _ _ fun f b => OtaFlasher.onReadable_seen child reads (f, b)
  | childHup =>
    exact relabel_childEvent past inputs h _ _ fun f b => OtaFlasher.scheduleDetachPipe_seen child f b
  | childDetach =>
    exact relabel_childEvent past inputs h _ _ fun f b => OtaFlasher.detachPipe_seen child f b
  | childReap timer =>
    exact relabel_childEvent past inputs h _ _ fun f b => OtaFlasher.reapTimer_seen child f b timer
  | childEscalate =>
    exact relabel_childEvent past inputs h _ _ fun f b => OtaFlasher.escalate_seen child f b

/-! ### An act adds to the past -/

/-- The host without a past and with empty buffers. -/
def forget (h : ChassisHost) : ChassisHost :=
  { h with base := { h.base with journal := [], inputs := [] } }

/-- An act on the host is that act without a past, put behind what there was. -/
theorem act_eq (a : Act) :
    act w h a = (act w h.forget a).relabel h.base.journal (a.buffers h.base.inputs) := by
  rw [← relabel_act]
  simp only [forget, relabel, Base.relabel, List.append_nil]

/-- No act but these two touches an input buffer. -/
theorem act_inputs (a : Act) : (act w h a).base.inputs = a.buffers h.base.inputs :=
  congrArg (fun h : ChassisHost => h.base.inputs) (act_eq w h a)

theorem forget_act (a : Act) : (act w h a).forget = (act w h.forget a).forget := by
  rw [act_eq w h a]
  rfl

end Mhost.App.ChassisHost
