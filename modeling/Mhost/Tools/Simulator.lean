import Mhost.Tools.BoardTelemetry
import Mhost.Tools.MockBoard

/-!
# The simulated board as a whole

mock_board.cc:38-353: kinematics, motors, the commands of the host, the telemetry and the
watchdogs. The arithmetic of `float` and `double` is a parameter, a literal is its bit pattern, and a
reading of the clock is any `double`. `int steps`, `txCount_` and the encoder counts are taken not
to overflow. Log lines are left out.
-/
namespace Mhost.Tools.Simulator
open Proto

/-- What the floating-point unit and the C library compute. -/
structure Arith where
  add : F32 → F32 → F32
  sub : F32 → F32 → F32
  mul : F32 → F32 → F32
  div : F32 → F32 → F32
  neg : F32 → F32
  /-- `a < b` -/
  less : F32 → F32 → Bool
  /-- `a <= b` -/
  lessEq : F32 → F32 → Bool
  /-- the conversion of an `int` -/
  ofInt : Int → F32
  /-- `static_cast<int32_t>` -/
  toInt32 : F32 → Int32
  lroundf : F32 → Int
  fabsf : F32 → F32
  expf : F32 → F32
  sinf : F32 → F32
  cosf : F32 → F32
  /-- The same of `double`. -/
  add64 : F64 → F64 → F64
  sub64 : F64 → F64 → F64
  mul64 : F64 → F64 → F64
  div64 : F64 → F64 → F64
  less64 : F64 → F64 → Bool
  ofInt64 : Int → F64
  /-- `static_cast<int>` -/
  toInt : F64 → Int
  /-- `static_cast<float>` -/
  narrow : F64 → F32

variable (ar : Arith)

/-- `if (t > hi) t = hi; if (t < lo) t = lo;` -/
def clamp (lo hi t : F32) : F32 :=
  let t := if ar.less hi t then hi else t
  if ar.less t lo then lo else t

def zero : F32 := ⟨0⟩

/-! ### The clock -/

/-- `static_cast<double>(ts.tv_sec) + ts.tv_nsec * 1e-9` -/
def monoNow (sec nsec : Int) : F64 :=
  ar.add64 (ar.ofInt64 sec) (ar.mul64 (ar.ofInt64 nsec) ⟨0x3E112E0BE826D695⟩)

/-- `dt < 0.02` -/
def tooSoon (dt : F64) : Bool := ar.less64 dt ⟨0x3F947AE147AE147B⟩

/-- `now - lastCmd > 0.5` -/
def tooOld (now lastCmd : F64) : Bool := ar.less64 ⟨0x3FE0000000000000⟩ (ar.sub64 now lastCmd)

/-- `now - lastCon > 3.0` -/
def tooQuiet (now lastCon : F64) : Bool := ar.less64 ⟨0x4008000000000000⟩ (ar.sub64 now lastCon)

/-! ### Places among three -/

theorem place_lt (i : Fin 3) : i.val < 3 := i.isLt

theorem first_lt : 0 < 3 := by decide

theorem second_lt : 1 < 3 := by decide

theorem third_lt : 2 < 3 := by decide

/-! ### Kinematics -/

structure Kinematics where
  wheelR : F32
  robotR : F32
  sin : Vector F32 3
  cos : Vector F32 3

/-- Wheels of radius `0.030f` at 90, 210 and 330 degrees, `0.055f` from the centre. -/
def Kinematics.make : Kinematics :=
  let offset : F32 := ⟨0x40490FDB⟩
  let deg : Vector F32 3 := #v[⟨0x42B40000⟩, ⟨0x43520000⟩, ⟨0x43A50000⟩]
  let angle := deg.map fun d => ar.add (ar.mul d ⟨0x3C8EFA34⟩) offset
  { wheelR := ⟨0x3CF5C28F⟩, robotR := ⟨0x3D6147AE⟩
    sin := angle.map ar.sinf, cos := angle.map ar.cosf }

namespace Kinematics

def msToRpm (k : Kinematics) (v : F32) : F32 :=
  ar.div (ar.mul v ⟨0x42700000⟩) (ar.mul ⟨0x40C90FDB⟩ k.wheelR)

def rpmToMs (k : Kinematics) (rpm : F32) : F32 :=
  ar.mul (ar.mul (ar.div rpm ⟨0x42700000⟩) ⟨0x40C90FDB⟩) k.wheelR

def twistToWheels (k : Kinematics) (vx vy wz : F32) : Vector F32 3 :=
  Vector.ofFn fun i =>
    let sin := getElem k.sin i (place_lt i)
    let cos := getElem k.cos i (place_lt i)
    k.msToRpm ar (ar.add (ar.add (ar.mul (ar.neg vx) sin) (ar.mul vy cos)) (ar.mul wz k.robotR))

/-- Expanded along the first row. -/
def det3 (a : Fin 3 → Fin 3 → F32) : F32 :=
  let minor := fun (p q r s : F32) => ar.sub (ar.mul p q) (ar.mul r s)
  let m0 := a ⟨0, first_lt⟩
  let m1 := a ⟨1, second_lt⟩
  let m2 := a ⟨2, third_lt⟩
  let x : Fin 3 := ⟨0, first_lt⟩
  let y : Fin 3 := ⟨1, second_lt⟩
  let z : Fin 3 := ⟨2, third_lt⟩
  ar.add
    (ar.sub (ar.mul (m0 x) (minor (m1 y) (m2 z) (m1 z) (m2 y)))
      (ar.mul (m0 y) (minor (m1 x) (m2 z) (m1 z) (m2 x))))
    (ar.mul (m0 z) (minor (m1 x) (m2 y) (m1 y) (m2 x)))

/-- Cramer's rule; all zero where the determinant is below `1e-9f`. -/
def wheelsToTwist (k : Kinematics) (rpm : Vector F32 3) : Vector F32 3 :=
  let v := rpm.map (k.rpmToMs ar)
  let a : Fin 3 → Fin 3 → F32 := fun r c =>
    let row := #v[ar.neg (getElem k.sin r (place_lt r)), getElem k.cos r (place_lt r), k.robotR]
    getElem row c (place_lt c)
  let det := det3 ar a
  if ar.less (ar.fabsf det) ⟨0x3089705F⟩ then Vector.replicate 3 zero
  else Vector.ofFn fun j => ar.div (det3 ar fun r c => if c = j then getElem v r (place_lt r) else a r c) det

end Kinematics

/-! ### Motors -/

/-- `kp` and `ki` start at `0.5f` and `2.0f`. -/
structure MotorSim where
  kp : F32 := ⟨0x3F000000⟩
  ki : F32 := ⟨0x40000000⟩
  target : F32 := zero
  speed : F32 := zero
  count : Int32 := 0
  integral : F32 := zero
  deriving DecidableEq, Repr

namespace MotorSim

def kPctMax : F32 := ⟨0x42C80000⟩
def kPctMin : F32 := ⟨0xC2C80000⟩
def kRpmPerPct : F32 := ⟨0x404CCCCD⟩
def tauS : F32 := ⟨0x3E800000⟩

/-- PI with a first-order lag; the integral rests while the output is saturated. -/
def tick (dt : F32) (m : MotorSim) : MotorSim :=
  let err := ar.sub m.target m.speed
  let out := clamp ar kPctMin kPctMax (ar.add (ar.mul m.kp err) m.integral)
  let integral :=
    if (ar.less kPctMin out ∧ ar.less out kPctMax) ∨ ar.lessEq (ar.mul err out) zero then
      clamp ar kPctMin kPctMax (ar.add m.integral (ar.mul (ar.mul m.ki err) dt))
    else m.integral
  let steady := ar.mul out kRpmPerPct
  let k := ar.sub ⟨0x3F800000⟩ (ar.expf (ar.div (ar.neg dt) tauS))
  let speed := ar.add m.speed (ar.mul (ar.sub steady m.speed) k)
  { m with
    integral, speed
    count := m.count +
      ar.toInt32 (ar.mul (ar.div (ar.mul speed ⟨0x476A6000⟩) ⟨0x42700000⟩) dt) }

/-- `350.0f` and `-350.0f`. -/
def kMaxTarget : F32 := ⟨0x43AF0000⟩
def kMinTarget : F32 := ⟨0xC3AF0000⟩

/-- A new target; the integral is dropped where the motor has to turn round. -/
def aim (t : F32) (m : MotorSim) : MotorSim :=
  let t := clamp ar kMinTarget kMaxTarget t
  { m with
    integral := if ar.less (ar.mul t m.speed) zero then zero else m.integral
    target := t }

def rest (m : MotorSim) : MotorSim := { m with target := zero }

def brake (m : MotorSim) : MotorSim :=
  { m with target := zero, speed := zero, integral := zero }

end MotorSim

/-! ### The board -/

/-- `mode_` is 1 under a speed command. `lastCmd_`, `lastTx_` and `lastCon_` are clock
readings. -/
structure MockBoard where
  parser : FrameParser := {}
  motors : Vector MotorSim 3 := Vector.replicate 3 {}
  kp : F32 := ⟨0x3F000000⟩
  ki : F32 := ⟨0x40000000⟩
  driverEn : Bool := false
  mode : Nat := 0
  yaw : F32 := zero
  x : F32 := zero
  y : F32 := zero
  yawOdom : F32 := zero
  conReady : Bool := false
  seq : UInt8 := 0
  txCount : Nat := 0
  lastCmd : F64 := ⟨0⟩
  lastTx : F64 := ⟨0⟩
  lastCon : F64 := ⟨0⟩
  txBuf : List UInt8 := []
  deriving DecidableEq, Repr

namespace MockBoard

def send (type : UInt8) (payload : List UInt8) (b : MockBoard) : MockBoard :=
  let (frame, seq) := packFrame type payload (some b.seq)
  { b with seq := seq.getD b.seq, txBuf := b.txBuf ++ frame }

def sendCon (msgType : ConMsgType) (b : MockBoard) : MockBoard :=
  b.send ptCon (packCon msgType kConSenderBoard)

/-! ### Commands -/

/-- The targets of a CMD_VEL payload, a tenth of the readings. -/
def velTargets (f : Frame) : Vector F32 3 :=
  Vector.ofFn fun i => ar.div (ar.ofInt (getI16 f.payload.toList (2 * i.val)).toInt) ⟨0x41200000⟩

/-- Those of a CMD_TWIST payload. -/
def twistTargets (f : Frame) : Vector F32 3 :=
  let p := f.payload.toList
  (Kinematics.make ar).twistToWheels ar (getF32 p 0) (getF32 p 4) (getF32 p 8)

def drive (targets : Vector F32 3) (now : F64) (b : MockBoard) : MockBoard :=
  { b with
    motors := Vector.ofFn fun i =>
      (getElem b.motors i (place_lt i)).aim ar (getElem targets i (place_lt i))
    mode := 1
    lastCmd := now }

def handleCon (now : F64) (f : Frame) (b : MockBoard) : MockBoard :=
  match unpackCon f with
  | none => b
  | some (sender, msgType) =>
      if sender ≠ kConSenderHost then b
      else if msgType = ConMsgType.enableRequest.toByte then
        { b.sendCon .enableResponse with conReady := true, lastCon := now }
      else if msgType = ConMsgType.disableRequest.toByte then
        { b.sendCon .disableResponse with conReady := false }
      else if msgType = ConMsgType.pingRequest.toByte then
        { b.sendCon .pingResponse with conReady := true, lastCon := now }
      else b

/-- One frame of the host, with the reading of the clock that it takes. -/
def handle (now : F64) (f : Frame) (b : MockBoard) : MockBoard :=
  if f.type = ptCmdVel then
    if f.len ≠ 6 then b else b.drive ar (velTargets ar f) now
  else if f.type = ptCmdStop then
    { b with mode := 0, motors := b.motors.map MotorSim.brake }
  else if f.type = ptCmdEn then
    if f.len ≠ 1 then b
    else if f.payload.toList.getD 0 0 = 1 then { b with driverEn := true }
    else { b with driverEn := false, mode := 0, motors := b.motors.map MotorSim.rest }
  else if f.type = ptCmdPid then
    if f.len ≠ 12 then b
    else
      let kp := getF32 f.payload.toList 0
      let ki := getF32 f.payload.toList 4
      { b with kp, ki, motors := b.motors.map fun m => { m with kp, ki } }
  else if f.type = ptCmdSign then b
  else if f.type = ptCmdPing then b.send ptCmdPing f.bytes
  else if f.type = ptCmdTwist then
    if f.len ≠ 12 then b else b.drive ar (twistTargets ar f) now
  else if f.type = ptCon then b.handleCon now f
  else b

/-- `clock i` is what the clock shows while frame `i` of these bytes is handled. -/
def feed (clock : Nat → F64) (data : List UInt8) (b : MockBoard) : MockBoard :=
  let (parser, frames) := b.parser.feed data
  frames.zipIdx.foldl (fun b fi => b.handle ar (clock fi.2) fi.1) { b with parser }

/-! ### The beat of 20 ms -/

/-- A speed command holds for 500 ms. -/
def commandTimeout (now : F64) (b : MockBoard) : MockBoard :=
  if b.mode = 1 ∧ tooOld ar now b.lastCmd then
    { b with motors := b.motors.map MotorSim.rest }
  else b

/-- So does the link for 3 s without a CON frame of the host. -/
def conWatchdog (now : F64) (b : MockBoard) : MockBoard :=
  if b.conReady ∧ ar.less64 ⟨0⟩ b.lastCon ∧ tooQuiet ar now b.lastCon then
    { b with conReady := false }
  else b

/-- `static_cast<int>(dt / 0.005 + 0.5)`, at least 1. -/
def steps (dt : F64) : Int :=
  max 1 (ar.toInt (ar.add64 (ar.div64 dt ⟨0x3F747AE147AE147B⟩) ⟨0x3FE0000000000000⟩))

/-- `static_cast<float>(dt / steps)` -/
def share (dt : F64) : F32 := ar.narrow (ar.div64 dt (ar.ofInt64 (steps ar dt)))

def advance (dt : F64) (b : MockBoard) : MockBoard :=
  { b with motors := Nat.repeat (·.map (MotorSim.tick ar (share ar dt))) (steps ar dt).toNat b.motors }

def sendEnc (b : MockBoard) : MockBoard :=
  b.send ptEncData (encData (b.motors.map (·.count))
    (b.motors.map fun m => Int16.ofInt (ar.lroundf (ar.mul m.speed ⟨0x41200000⟩))))

/-- The yaw rate as the difference of two wheels has it. -/
def gz (b : MockBoard) : F32 :=
  let speed1 := (getElem b.motors 1 second_lt).speed
  let speed0 := (getElem b.motors 0 first_lt).speed
  ar.mul (ar.sub speed1 speed0) ⟨0x3C23D70A⟩

/-- `static_cast<int16_t>(::lroundf(v * 100))` -/
def hundredfold (v : F32) : Int16 := Int16.ofInt (ar.lroundf (ar.mul v ⟨0x42C80000⟩))

def imuRaw (gz yaw : F32) : Vector Int16 9 :=
  #v[0, 0, 1000, 0, 0, hundredfold ar gz, 0, 0, hundredfold ar yaw]

def sendImu (b : MockBoard) : MockBoard :=
  let gz := b.gz ar
  let b := { b with yaw := ar.add b.yaw (ar.mul gz ⟨0x3CA3D70A⟩) }
  b.send ptImuData (imuData (imuRaw ar gz b.yaw))

/-- `vx`, `vy` and `wz` of the wheels' speeds. -/
def twistNow (b : MockBoard) : Vector F32 3 :=
  (Kinematics.make ar).wheelsToTwist ar (b.motors.map (·.speed))

def odomVals (v : Vector F32 3) (b : MockBoard) : Vector F32 6 :=
  #v[getElem v 0 first_lt, getElem v 1 second_lt, getElem v 2 third_lt, b.x, b.y, b.yawOdom]

def sendOdom (b : MockBoard) : MockBoard :=
  let v := b.twistNow ar
  let passed := fun rate => ar.mul rate ⟨0x3CA3D70A⟩
  let b := { b with
    x := ar.add b.x (passed (getElem v 0 first_lt))
    y := ar.add b.y (passed (getElem v 1 second_lt))
    yawOdom := ar.add b.yawOdom (passed (getElem v 2 third_lt)) }
  b.send ptOdomData (odomData (odomVals v b))

/-- Every fiftieth beat. -/
def sendStatus (b : MockBoard) : MockBoard :=
  if b.txCount % 50 = 0 then
    b.send ptStatus (statusData (UInt8.ofNat (b.txCount / 50 % 256)) 0 1
      (if b.driverEn then 1 else 0) (UInt8.ofNat b.mode) (if b.conReady then 1 else 0))
  else b

/-- `lastTx_ = now; ++txCount_;` -/
def counted (now : F64) (b : MockBoard) : MockBoard :=
  { b with lastTx := now, txCount := b.txCount + 1 }

/-- `out = txBuf_; txBuf_.clear();` -/
def flush (b : MockBoard) : List UInt8 × MockBoard := (b.txBuf, { b with txBuf := [] })

def telemetry (b : MockBoard) : MockBoard := (((b.sendEnc ar).sendImu ar).sendOdom ar).sendStatus

/-- The bytes to be written; nothing happens within 20 ms of the last beat. -/
def pump (now : F64) (b : MockBoard) : List UInt8 × MockBoard :=
  let dt := ar.sub64 now b.lastTx
  if tooSoon ar dt then ([], b)
  else
    (((((b.commandTimeout ar now).conWatchdog ar now).advance ar dt).counted now).telemetry ar).flush

end MockBoard

/-! ### A bench for concrete runs -/

section
open Float.Model UnpackedFloat

def single (v : F32) : UnpackedFloat := unpack .binary32 v.bits.toBitVec

def double (v : F64) : UnpackedFloat := unpack .binary64 v.bits.toBitVec

def toSingle (v : UnpackedFloat) : F32 := ⟨.ofBitVec (pack .binary32 v)⟩

def toDouble (v : UnpackedFloat) : F64 := ⟨.ofBitVec (pack .binary64 v)⟩

def onSingles (op : Format → UnpackedFloat → UnpackedFloat → UnpackedFloat) (a b : F32) : F32 :=
  toSingle (op .binary32 (single a) (single b))

def onDoubles (op : Format → UnpackedFloat → UnpackedFloat → UnpackedFloat) (a b : F64) : F64 :=
  toDouble (op .binary64 (double a) (double b))

/-- To the nearest integer, away from zero in the middle. -/
def roundAway : UnpackedFloat → Int
  | .finite sign mantissa (.ofNat e) _ => sign.apply (mantissa * 2 ^ e)
  | .finite sign mantissa (.negSucc e) _ => sign.apply ((2 * mantissa + 2 ^ (e + 1)) / 2 ^ (e + 2) : Nat)
  | _ => 0

/-- Rounded to single precision. -/
def narrowed : UnpackedFloat → UnpackedFloat
  | .finite sign mantissa e _ => UnpackedFloat.round .binary32 sign mantissa e
  | other => other

/-- A function by its bits, zero where the table has none. -/
def tabled (table : List (UInt32 × UInt32)) (v : F32) : F32 := ⟨(table.lookup v.bits).getD 0⟩

/-- IEEE arithmetic. The last three functions are tables, of the angles of the wheels and a step
of 5 ms. -/
def bench : Arith where
  add := onSingles UnpackedFloat.add
  sub := onSingles UnpackedFloat.sub
  mul := onSingles UnpackedFloat.mul
  div := onSingles UnpackedFloat.div
  neg a := toSingle (single a).neg
  less a b := (single a).lt (single b)
  lessEq a b := (single a).le (single b)
  ofInt n := toSingle (UnpackedFloat.ofInt .binary32 n)
  toInt32 a := (single a).toInt32
  lroundf a := roundAway (single a)
  fabsf a := toSingle (single a).abs
  add64 := onDoubles UnpackedFloat.add
  sub64 := onDoubles UnpackedFloat.sub
  mul64 := onDoubles UnpackedFloat.mul
  div64 := onDoubles UnpackedFloat.div
  less64 a b := (double a).lt (double b)
  ofInt64 n := toDouble (UnpackedFloat.ofInt .binary64 n)
  toInt a := (double a).toInt32.toInt
  narrow a := toSingle (narrowed (double a))
  expf := tabled [(0xBCA3D70A, 0x3F7AEE4D)]
  sinf := tabled [(0x4096CBE4, 0xBF800000), (0x40D9D12C, 0x3EFFFFF4), (0x410E6B3A, 0x3F00000C)]
  cosf := tabled [(0x4096CBE4, 0x324CDE2E), (0x40D9D12C, 0x3F5DB3DB), (0x410E6B3A, 0xBF5DB3D0)]

end

end Mhost.Tools.Simulator
