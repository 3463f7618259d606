import Mhost.Link.ConSm
import Mhost.Ota.OtaFlasher
import Mhost.Proto.PayloadCodec
import Mhost.Serial.SerialPort

/-!
# The state of the chassis host

ChassisHost.h:31-172. What the host asks of the operating system is answered by an
oracle; the n-th question gets the n-th answer, so a theorem about every oracle is a
theorem about every outcome of the calls. The journal is no field of the source: it
lists, in order, what reached the host and what it did, so that properties can speak of
the past. Members that only feed the log and the timer rates are left out.
-/
namespace Mhost.App
open Library (Text utf8 decimal)
open Proto Link Serial Ota

structure HostOptions where
  serialBaud : Nat := 115200
  conRetryMs : Nat := 2000
  rxTimeoutMs : Nat := 2000
  enResendMs : Nat := 1000
  flashDev : Text := []
  firmwareDir : Text := utf8 "firmware"
  flashScript : Text := []
  flashPython : Text := utf8 "python3"
  flashTool : Text := utf8 "auto"
  quiesceTimeoutMs : Nat := 3000
  recoverTimeoutMs : Nat := 15000

/-- Answers of the operating system, by the number of the question. -/
structure Os where
  steadyMs : Nat → Nat
  openTty : Nat → Bool
  write : Nat → WriteResult
  /-- `::access(path, R_OK) == 0` -/
  access : Nat → Bool
  spawn : Nat → SpawnResult
  signalGroup : Nat → Bool
  groupAlive : Nat → Bool
  waitpid : Nat → WaitResult
  waitpidBlocking : Nat → Option Int32
  /-- seconds since `startTime_` -/
  uptime : Nat → F64

/-- Everything a run of the host depends on besides its events. -/
structure World where
  opts : HostOptions
  fl : Floats
  os : Os

/-- A `TcpConnection`: its identity and its peer address. -/
structure Conn where
  id : Nat
  ip : Text
  deriving DecidableEq, Repr

inductive CmdMode where
  | none | twist | rpm
  deriving DecidableEq, Repr

inductive OtaState where
  | none | quiescing | flashing | recovering
  deriving DecidableEq, Repr

/-- What reached the host and what it did. -/
inductive Entry where
  /-- connection callbacks -/
  | up (c : Conn)
  | down (c : Conn)
  /-- `handleCommand` was called -/
  | command (c : Conn) (tok : List Text)
  /-- a command was accepted -/
  | twist (c : Conn) (v : Vector F32 3)
  | rpm (c : Conn) (v : Vector F32 3)
  | enable (c : Conn) (on : Bool)
  | flash (c : Conn) (name : Text)
  /-- `onCommState` was called -/
  | comm (state : CommState)
  /-- `onSerialState` was called -/
  | port (up : Bool)
  /-- `sendFrameToBoard` handed the frame to the open port, or dropped it -/
  | frame (type : UInt8) (payload : List UInt8)
  | dropped (type : UInt8) (payload : List UInt8)
  /-- text sent to a client -/
  | reply (c : Conn) (text : Text)
  /-- a child was started, a process group signalled -/
  | child (argv : List Text)
  | signal (signal : Signal) (pid : Nat)
  deriving DecidableEq, Repr

/-- The repeated speed command. -/
structure SpeedCommand where
  cmdMode : CmdMode := .none
  twist : Vector F32 3 := Vector.replicate 3 ⟨0⟩
  rpm : Vector F32 3 := Vector.replicate 3 ⟨0⟩
  speedConn : Option Conn := none
  deriving DecidableEq, Repr

/-- The latest telemetry; everything starts as zero. -/
structure Telemetry where
  enc : EncData := ⟨Vector.replicate 3 0, Vector.replicate 3 ⟨0, 10⟩, 0, false⟩
  imu : ImuData :=
    ⟨Vector.replicate 3 ⟨0, 1000⟩, Vector.replicate 3 ⟨0, 100⟩, Vector.replicate 3 ⟨0, 100⟩⟩
  telem : TelemetryData :=
    ⟨Vector.replicate 3 ⟨0, 10⟩, Vector.replicate 3 ⟨0, 10⟩, Vector.replicate 3 ⟨0, 10⟩⟩
  status : StatusData := ⟨0, 0, 0, 0, 0, 0, false⟩
  odom : OdomData := ⟨⟨0⟩, ⟨0⟩, ⟨0⟩, ⟨0⟩, ⟨0⟩, ⟨0⟩⟩
  haveEnc : Bool := false
  haveImu : Bool := false
  haveTelem : Bool := false
  haveOdom : Bool := false
  deriving DecidableEq, Repr

/-- The measurement of the round-trip time. -/
structure PingState where
  lastPingId : UInt32 := 0
  lastPingSentMs : Nat := 0
  pingConn : Option Conn := none
  deriving DecidableEq, Repr

/-- The firmware upgrade. -/
structure OtaTask where
  otaState : OtaState := .none
  otaConn : Option Conn := none
  otaFile : Text := []
  otaStage : Text := []
  otaLastLine : Text := []
  otaPhaseStartMs : Nat := 0
  otaCliLineCount : Nat := 0
  deriving DecidableEq, Repr

/-- The host's own members. `inputs` are muduo's input buffers; `halfClosed` are the
connections on which `shutdown` was called, so that they are no longer `connected()`. -/
structure Base where
  conns : List Conn := []
  watchers : List Conn := []
  halfClosed : List Conn := []
  inputs : List (Conn × Text) := []
  parser : FrameParser := {}
  txSeq : UInt8 := 0
  speed : SpeedCommand := {}
  telemetry : Telemetry := {}
  ping : PingState := {}
  lastFrameMs : Nat := 0
  rxSilenceWarned : Bool := false
  lastRetryMs : Nat := 0
  lastEnSentMs : Nat := 0
  userDisabled : Bool := false
  ota : OtaTask := {}
  txFrames : Nat := 0
  asked : Nat := 0
  journal : List Entry := []
  deriving DecidableEq, Repr

def Base.note (b : Base) (e : Entry) : Base := { b with journal := b.journal ++ [e] }

/-- One more question has been answered. -/
def Base.answered (b : Base) : Base := { b with asked := b.asked + 1 }

def steadyMs (w : World) (b : Base) : Nat × Base := (w.os.steadyMs b.asked, b.answered)

/-! ### Text to clients -/

/-- `conn->send`, which does nothing once the connection was shut down. -/
def Base.sendTo (b : Base) (c : Conn) (text : Text) : Base :=
  if c ∈ b.halfClosed then b else b.note (.reply c text)

def Base.sendAll (b : Base) (conns : List Conn) (line : Text) : Base :=
  conns.foldl (fun b c => b.sendTo c (line ++ utf8 "\n")) b

/-- The order of a `std::set` of pointers is not known; here it is that of connecting. -/
def Base.broadcastAll (b : Base) (line : Text) : Base := b.sendAll b.conns line

def Base.sendToWatchers (b : Base) (line : Text) : Base := b.sendAll b.watchers line

theorem sendTo_ota (b : Base) (c : Conn) (text : Text) : (b.sendTo c text).ota = b.ota := by
  unfold Base.sendTo
  split <;> rfl

theorem sendAll_ota (b : Base) (conns : List Conn) (line : Text) :
    (b.sendAll conns line).ota = b.ota := by
  unfold Base.sendAll
  exact List.foldlRecOn (motive := fun b' => b'.ota = b.ota) conns _ rfl
    fun b' before c _ => (sendTo_ota b' c _).trans before

/-! ### Formatting -/

/-- `appendf`: what `vsnprintf` leaves of the text in 512 bytes. -/
def appendf (s text : Text) : Text := s ++ text.take 511

def jnum (fl : Floats) (v : F64) (fmt : String) : Text := fl.print fmt v

def joinComma (items : List Text) : Text := (items.intersperse (utf8 ",")).flatten

def jArr3 (fl : Floats) (v : Vector F32 3) (fmt : String) : Text :=
  utf8 "[" ++ joinComma (v.toList.map fun x => jnum fl (fl.widen x) fmt) ++ utf8 "]"

def jArr3Scaled (fl : Floats) (v : Vector Scaled 3) (fmt : String) : Text :=
  jArr3 fl (v.map fun x => x.value fl) fmt

def toStringInt (n : Int) : Text := utf8 (toString n)

def jArr3i (v : Vector Int32 3) : Text :=
  utf8 "[" ++ joinComma (v.toList.map fun x => toStringInt x.toInt) ++ utf8 "]"

end Mhost.App
