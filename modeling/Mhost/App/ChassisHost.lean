import Mhost.App.HostCommands

/-!
# The chassis host

ChassisHost.cc:112-205, 690-845: connections, lines, board frames, timers, and the run of
the whole program as a fold over the events of its loop.
-/
namespace Mhost.App
open Library (Text utf8 decimal)
open Proto Link Serial Ota

namespace ChassisHost
variable (w : World)

/-! ### TCP -/

def kMaxLineLen : Nat := 512

def onConnectionUp (c : Conn) (h : ChassisHost) : ChassisHost :=
  let h := h.onBase fun b => { b with conns := b.conns ++ [c] }.note (.up c)
  let h := h.reply c (utf8 "C30D chassis host。输入 help 查看命令。\n")
  h.reply c (utf8 "\x7b\"t\":\"con\",\"state\":\"" ++ utf8 h.conSm.comm.name ++ utf8 "\"\x7d\n")

/-- An upgrade goes on without the connection that began it. -/
def resetConn (c : Conn) (b : Base) : Base :=
  let b := if b.ping.pingConn = some c then { b with ping := { b.ping with pingConn := none } } else b
  if b.ota.otaConn = some c then { b with ota := { b.ota with otaConn := none } } else b

def onConnectionDown (c : Conn) (h : ChassisHost) : ChassisHost :=
  let h := h.onBase fun b =>
    { b with
      conns := b.conns.filter (· ≠ c), watchers := b.watchers.filter (· ≠ c)
      inputs := b.inputs.filter (·.1 ≠ c) }.note (.down c)
  let h :=
    if h.base.speed.speedConn = some c then
      -- the client that drives is gone: stop repeating and brake
      let h := h.onBase fun b =>
        { b with speed := { b.speed with cmdMode := .none, speedConn := none } }
      (h.sendFrame w ptCmdStop []).2
    else h
  h.onBase (resetConn c)

/-- Without trailing CR and blanks and without leading blanks and tabs. -/
def trimLine (line : Text) : Text :=
  let kept := (line.reverse.dropWhile fun c => c = 13 ∨ c = 32).reverse
  kept.dropWhile fun c => c = 32 ∨ c = 9

def handleLine (c : Conn) (line : Text) (h : ChassisHost) : ChassisHost :=
  match trimLine line with
  | [] => h
  | first :: rest => if first = 35 then h else handleCommand w c (splitTokens (first :: rest)) h

/-- The loop of `onMessage`: the lines it handles, and what stays in the buffer. The bound
is the size of the buffer, of which every line takes at least one byte. -/
def takeLines : Nat → Text → List Text × Text
  | 0, buf => ([], buf)
  | fuel + 1, buf =>
      if buf.isEmpty then ([], buf)
      else
        match buf.findIdx? (· = 10) with
        | none => ([], if buf.length > kMaxLineLen then [] else buf)
        | some len =>
            let (lines, left) := takeLines fuel (buf.drop (len + 1))
            (if len ≤ kMaxLineLen then buf.take len :: lines else lines, left)

def inputOf (c : Conn) (b : Base) : Text := ((b.inputs.find? (·.1 = c)).map (·.2)).getD []

def onMessage (c : Conn) (bytes : Text) (h : ChassisHost) : ChassisHost :=
  let buf := inputOf c h.base ++ bytes
  let (lines, left) := takeLines buf.length buf
  let h := h.onBase fun b => { b with inputs := (c, left) :: b.inputs.filter (·.1 ≠ c) }
  lines.foldl (fun h line => handleLine w c line h) h

/-! ### Board frames -/

/-- `a - b` in `uint64_t`. -/
def elapsed (a b : Nat) : Nat := (a + 2 ^ 64 - b) % 2 ^ 64

def onStatus (now : Nat) (status : StatusData) (h : ChassisHost) : ChassisHost :=
  let h := h.onBase fun b => { b with telemetry := { b.telemetry with status } }
  let h :=
    if !h.base.userDisabled ∧ h.conSm.comm = .ready ∧ status.en = 0 ∧
        elapsed now h.base.lastEnSentMs > w.opts.enResendMs then
      -- the board came back from a reset: enable again
      let h := h.onBase fun b => { b with lastEnSentMs := now }
      (h.sendFrame w ptCmdEn (packCmdEn true)).2
    else h
  if h.base.ota.otaState = .quiescing ∧ status.en = 0 then h.otaBeginFlasher w else h

def onPing (f : Frame) (h : ChassisHost) : ChassisHost :=
  match parsePing f, h.base.ping.pingConn with
  | some tMs, some c =>
      if tMs = h.base.ping.lastPingId then
        let (now, h) := h.clock w
        let rtt := elapsed now h.base.ping.lastPingSentMs
        let h := h.reply c (utf8 "pong rtt=" ++ decimal rtt ++ utf8 ".0" ++ utf8 "ms\n")
        h.onBase fun b => { b with ping := { b.ping with pingConn := none } }
      else h
  | _, _ => h

/-- One of the four readings: on success it replaces the last one, and the flag says
whether the latest frame was accepted. -/
def onReading (f : Frame) (t : Telemetry) : Telemetry :=
  if f.type = ptEncData then
    match parseEnc f with
    | some enc => { t with enc, haveEnc := true }
    | none => { t with haveEnc := false }
  else if f.type = ptImuData then
    match parseImu f with
    | some imu => { t with imu, haveImu := true }
    | none => { t with haveImu := false }
  else if f.type = ptTelemetry then
    match parseTelemetry f with
    | some telem => { t with telem, haveTelem := true }
    | none => { t with haveTelem := false }
  else if f.type = ptOdomData then
    match parseOdom f with
    | some odom => { t with odom, haveOdom := true }
    | none => { t with haveOdom := false }
  else t

def onFrame (f : Frame) (h : ChassisHost) : ChassisHost :=
  let (now, h) := h.clock w
  let h := h.onBase fun b => { b with lastFrameMs := now, rxSilenceWarned := false }
  if f.type = ptStatus then
    match parseStatus f with
    | some status => h.onStatus w now status
    | none => h
  else if f.type = ptCon then
    match unpackCon f with
    | some (sender, msgType) =>
        if sender = kConSenderHost then h
        else
          match ConMsgType.ofByte msgType with
          | some msgType => h.onLink (ConSm.onFrame (conCallbacks w) msgType now)
          | none => h
    | none => h
  else if f.type = ptCmdPing then h.onPing w f
  else h.onBase fun b => { b with telemetry := onReading f b.telemetry }

def onSerialData (bytes : List UInt8) (h : ChassisHost) : ChassisHost :=
  let (parser, frames) := h.base.parser.feed bytes
  let h := h.onBase fun b => { b with parser }
  frames.foldl (fun h f => h.onFrame w f) h

/-- The port as it runs its own handlers: its environment is the whole host, in which
`serial` waits for the port to come back. -/
def hostEnv : Serial.Env ChassisHost where
  openTty h := (((serialEnv w).openTty h.base).1, h.onBase fun b => ((serialEnv w).openTty b).2)
  write data h :=
    (((serialEnv w).write data h.base).1, h.onBase fun b => ((serialEnv w).write data b).2)
  stateCb up reason h := h.onBase (onSerialState up reason)

def dataCb (bytes : List UInt8) (s : SerialPort × ChassisHost) : SerialPort × ChassisHost :=
  let h := { s.2 with serial := s.1 }.onSerialData w bytes
  (h.serial, h)

def handleRead (reads : List Serial.ReadResult) (h : ChassisHost) : ChassisHost :=
  let (serial, h) := SerialPort.handleRead (hostEnv w) (dataCb w) reads (h.serial, h)
  { h with serial }

/-! ### Timers -/

def onConTick (h : ChassisHost) : ChassisHost :=
  let (now, h) := h.clock w
  h.onLink (ConSm.tick (conCallbacks w) now)

def onRepeatTimer (h : ChassisHost) : ChassisHost :=
  if h.base.speed.cmdMode = .none ∨ h.base.userDisabled then h
  else if h.conSm.comm ≠ .ready then h
  else if h.base.speed.cmdMode = .twist then
    (h.sendFrame w ptCmdTwist (packCmdTwist h.base.speed.twist)).2
  else (h.sendFrame w ptCmdVel (packCmdVel w.fl h.base.speed.rpm)).2

def odomLine (odom : OdomData) : Text :=
  let shown := fun x => jnum w.fl (w.fl.widen x) "%.3f"
  appendf
    (appendf (utf8 "\x7b\"t\":\"odom\"")
      (utf8 ",\"vx\":" ++ shown odom.vx ++ utf8 ",\"vy\":" ++ shown odom.vy ++ utf8 ",\"wz\":" ++
        shown odom.wz))
    (utf8 ",\"x\":" ++ shown odom.x ++ utf8 ",\"y\":" ++ shown odom.y ++ utf8 ",\"yaw\":" ++
      shown odom.yaw ++ utf8 "\x7d")

def onOdomTimer (h : ChassisHost) : ChassisHost :=
  if !h.base.telemetry.haveOdom ∨ h.base.watchers.isEmpty then h
  else h.onBase fun b => b.sendToWatchers (odomLine w b.telemetry.odom)

def encLine (enc : EncData) : Text :=
  utf8 "\x7b\"t\":\"enc\",\"count\":" ++ jArr3i enc.count ++ utf8 ",\"rpm\":" ++
    jArr3Scaled w.fl enc.rpm "%.1f" ++
    (if enc.hasTs then utf8 ",\"ts\":" ++ decimal enc.tMs.toNat else []) ++ utf8 "\x7d"

def imuLine (imu : ImuData) : Text :=
  utf8 "\x7b\"t\":\"imu\",\"accel_g\":" ++ jArr3Scaled w.fl imu.accelG "%.3f" ++
    utf8 ",\"gyro_dps\":" ++ jArr3Scaled w.fl imu.gyroDps "%.2f" ++
    utf8 ",\"rpy_deg\":" ++ jArr3Scaled w.fl imu.rpyDeg "%.2f" ++ utf8 "\x7d"

def telemLine (telem : TelemetryData) : Text :=
  utf8 "\x7b\"t\":\"telem\",\"tgt_rpm\":" ++ jArr3Scaled w.fl telem.tgtRpm "%.1f" ++
    utf8 ",\"rpm\":" ++ jArr3Scaled w.fl telem.rpm "%.1f" ++
    utf8 ",\"out_pct\":" ++ jArr3Scaled w.fl telem.outPct "%.1f" ++ utf8 "\x7d"

def statusLine (status : StatusData) : Text :=
  (utf8 "\x7b\"t\":\"status\",\"uptime\":" ++ decimal status.uptime.toNat ++
    utf8 ",\"imu_ok\":" ++ decimal status.imuOk.toNat ++ utf8 ",\"en\":" ++
    decimal status.en.toNat ++ utf8 ",\"mode\":" ++ decimal status.mode.toNat ++
    utf8 ",\"con\":" ++ decimal status.con.toNat ++ utf8 "\x7d").take 159

def onSlowTimer (h : ChassisHost) : ChassisHost :=
  if h.base.watchers.isEmpty then h
  else h.onBase fun b =>
    let t := b.telemetry
    let b := if t.haveEnc then b.sendToWatchers (encLine w t.enc) else b
    let b := if t.haveImu then b.sendToWatchers (imuLine w t.imu) else b
    let b := if t.haveTelem then b.sendToWatchers (telemLine w t.telem) else b
    b.sendToWatchers (statusLine t.status)

/-- Step 0 of the watchdog. -/
def reopen (h : ChassisHost) : ChassisHost :=
  if h.serial.isOpen then h
  else h.onCore fun s => (SerialPort.openDevice (serialEnv w) w.opts.serialBaud s).2

/-- Step 0.5: the phases of an upgrade that take too long. -/
def otaTimeouts (now : Nat) (h : ChassisHost) : ChassisHost :=
  let spent := elapsed now h.base.ota.otaPhaseStartMs
  if h.base.ota.otaState = .quiescing ∧ spent > w.opts.quiesceTimeoutMs then h.otaBeginFlasher w
  else if h.base.ota.otaState = .recovering ∧ spent > w.opts.recoverTimeoutMs then
    h.onBase (otaFinish (utf8 <| "err flash: CON 重建超时（固件未起来？）。升级状态复位，" ++
      "看门狗会继续自动重连；必要时重试 flash"))
  else h

/-- Step 1: the board is silent. -/
def silenceCheck (now : Nat) (h : ChassisHost) : ChassisHost :=
  if h.base.ota.otaState = .none ∧ h.serial.isOpen ∧ h.base.lastFrameMs ≠ 0 ∧
      elapsed now h.base.lastFrameMs > w.opts.rxTimeoutMs ∧ !h.base.rxSilenceWarned then
    h.onBase fun b => { b with rxSilenceWarned := true }.broadcastAll
      (utf8 "\x7b\"t\":\"board\",\"note\":\"rx-silence\"\x7d")
  else h

/-- Step 2: the link is down and the port is there. -/
def reconnect (now : Nat) (h : ChassisHost) : ChassisHost :=
  if h.base.ota.otaState ≠ .flashing ∧ h.serial.isOpen ∧ h.conSm.state = .disconnected ∧
      elapsed now h.base.lastRetryMs ≥ w.opts.conRetryMs then
    let h := h.onBase fun b => { b with lastRetryMs := now }
    h.onLink fun s => (ConSm.connect (conCallbacks w) now s).2
  else h

def onWatchdogTimer (h : ChassisHost) : ChassisHost :=
  let (now, h) := h.clock w
  (((h.reopen w).otaTimeouts w now).silenceCheck w now).reconnect w now

/-! ### Runs -/

/-- What the event loop can call. -/
inductive Event where
  | connUp (c : Conn)
  | connDown (c : Conn)
  | message (c : Conn) (bytes : Text)
  | serialReadable (reads : List Serial.ReadResult)
  | serialWritable
  | serialError
  | serialHup
  | conTick
  | repeatTimer
  | odomTimer
  | slowTimer
  | watchdogTimer
  | childReadable (reads : List Ota.ReadResult)
  | childHup
  | childDetach
  | childReap (timer : Nat)
  | childEscalate
  deriving DecidableEq, Repr

/-- Channel events of the pipe only come while it is registered, functors and timers only
when the loop holds one. -/
def childEvent (due : OtaFlasher Unit → Bool)
    (f : OtaFlasher Unit × Base → OtaFlasher Unit × Base) (h : ChassisHost) : ChassisHost :=
  if h.flasher.any due then h.onFlasher f else h

def pipeReading (f : OtaFlasher Unit) : Bool := f.pipe.any (·.reading)

def handle (h : ChassisHost) : Event → ChassisHost
  | .connUp c => h.onConnectionUp c
  | .connDown c => h.onConnectionDown w c
  | .message c bytes => h.onMessage w c bytes
  | .serialReadable reads => h.handleRead w reads
  | .serialWritable => h.onCore (SerialPort.handleWrite (serialEnv w))
  | .serialError => h.onCore (SerialPort.handleError (serialEnv w))
  | .serialHup => h.onCore (SerialPort.handleClose (serialEnv w))
  | .conTick => h.onConTick w
  | .repeatTimer => h.onRepeatTimer w
  | .odomTimer => h.onOdomTimer w
  | .slowTimer => h.onSlowTimer w
  | .watchdogTimer => h.onWatchdogTimer w
  | .childReadable reads =>
      h.childEvent pipeReading (OtaFlasher.onReadable (flasherEnv w) reads)
  | .childHup => h.childEvent pipeReading (OtaFlasher.scheduleDetachPipe (flasherEnv w))
  | .childDetach => h.childEvent (·.detachQueued > 0) (OtaFlasher.detachPipe (flasherEnv w))
  | .childReap timer =>
      h.childEvent (timer < ·.reapTimers.length) (OtaFlasher.reapTimer (flasherEnv w) timer)
  | .childEscalate => h.childEvent (·.killTimers > 0) (OtaFlasher.escalate (flasherEnv w))

/-- The constructor and `start`. -/
def start : ChassisHost :=
  let (serial, base) := (SerialPort.openDevice (serialEnv w) w.opts.serialBaud ({}, {})).2
  { serial, base }

def run (events : List Event) : ChassisHost := events.foldl (handle w) (start w)

/-! ### A bench for concrete runs -/

/-- Calls succeed at once, a millisecond passes between questions, every number is zero. -/
def bench : World where
  opts := { flashDev := utf8 "/dev/ttyUSB1", flashScript := utf8 "flash.py" }
  fl :=
    { strtod := fun text => (⟨0⟩, text.length), narrow := fun _ => ⟨0⟩, widen := fun _ => ⟨0⟩
      nonneg := fun _ => true, less := fun _ _ => false, lroundTenfold := fun _ => 0
      divide := fun _ _ => ⟨0⟩, print := fun _ _ => utf8 "0" }
  os :=
    { steadyMs := fun n => 5000 + n, openTty := fun _ => true, write := fun _ => .wrote 64
      access := fun _ => true, spawn := fun _ => .spawnFailed, signalGroup := fun _ => false
      groupAlive := fun _ => false, waitpid := fun _ => .failed, waitpidBlocking := fun _ => none
      uptime := fun _ => ⟨0⟩ }

def console : Conn := ⟨0, utf8 "127.0.0.1"⟩

/-- The watchdog asks for the link, the board grants it, a client connects. -/
def linkUp : List Event :=
  [.watchdogTimer,
    .serialReadable [.data (packFrame ptCon (packCon .enableResponse kConSenderBoard) (some 0)).1],
    .connUp console]

end ChassisHost
end Mhost.App
