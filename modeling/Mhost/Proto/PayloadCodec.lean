import Mhost.Library.Text
import Mhost.Proto.FrameCodec

/-!
# Payload codecs

FrameCodec.h:63-153 and FrameCodec.cc:51-93, 180-353, without the SYSID frames, which the
host does not use. A float is its bit pattern. What the floating-point unit and the C
library compute is a parameter; a reading that arrives as a scaled integer keeps the
integer and its divisor.
-/
namespace Mhost.Proto
open Library (Text)

structure F32 where
  bits : UInt32
  deriving DecidableEq, Repr

structure F64 where
  bits : UInt64
  deriving DecidableEq, Repr

/-- The operations on floats and the C library calls the host makes. -/
structure Floats where
  /-- value, and how many bytes of the text were used -/
  strtod : Text → F64 × Nat
  /-- `static_cast<float>` of a double -/
  narrow : F64 → F32
  /-- the promotion of a float argument -/
  widen : F32 → F64
  /-- `v >= 0` -/
  nonneg : F64 → Bool
  /-- `a < b` -/
  less : F32 → F32 → Bool
  /-- `::lround(r * 10.0f)` -/
  lroundTenfold : F32 → Int
  /-- `static_cast<float>(raw) / divisor` -/
  divide : Int16 → Nat → F32
  /-- `snprintf` of one double -/
  print : String → F64 → Text

/-- An `int16` reading and what the source divides it by. -/
structure Scaled where
  raw : Int16
  divisor : Nat
  deriving DecidableEq, Repr

def Scaled.value (fl : Floats) (s : Scaled) : F32 := fl.divide s.raw s.divisor

/-! ### Little-endian helpers; `p` is the payload array, `i` an offset inside it -/

def putU16 (x : UInt16) : List UInt8 := [(x &&& 0xFF).toUInt8, ((x >>> 8) &&& 0xFF).toUInt8]

def putU32 (x : UInt32) : List UInt8 :=
  [(x &&& 0xFF).toUInt8, ((x >>> 8) &&& 0xFF).toUInt8, ((x >>> 16) &&& 0xFF).toUInt8,
    ((x >>> 24) &&& 0xFF).toUInt8]

def putF32 (x : F32) : List UInt8 := putU32 x.bits

def getU16 (p : List UInt8) (i : Nat) : UInt16 :=
  (p.getD i 0).toUInt16 ||| ((p.getD (i + 1) 0).toUInt16 <<< 8)

def getI16 (p : List UInt8) (i : Nat) : Int16 := (getU16 p i).toInt16

def getU32 (p : List UInt8) (i : Nat) : UInt32 :=
  (p.getD i 0).toUInt32 ||| ((p.getD (i + 1) 0).toUInt32 <<< 8) |||
    ((p.getD (i + 2) 0).toUInt32 <<< 16) ||| ((p.getD (i + 3) 0).toUInt32 <<< 24)

def getI32 (p : List UInt8) (i : Nat) : Int32 := (getU32 p i).toInt32

def getF32 (p : List UInt8) (i : Nat) : F32 := ⟨getU32 p i⟩

/-! ### Board to host -/

structure EncData where
  count : Vector Int32 3
  rpm : Vector Scaled 3
  tMs : UInt32
  hasTs : Bool
  deriving DecidableEq, Repr

structure ImuData where
  accelG : Vector Scaled 3
  gyroDps : Vector Scaled 3
  rpyDeg : Vector Scaled 3
  deriving DecidableEq, Repr

structure StatusData where
  uptime : UInt8
  rsv : UInt8
  imuOk : UInt8
  en : UInt8
  mode : UInt8
  con : UInt8
  hasCon : Bool
  deriving DecidableEq, Repr

structure TelemetryData where
  tgtRpm : Vector Scaled 3
  rpm : Vector Scaled 3
  outPct : Vector Scaled 3
  deriving DecidableEq, Repr

structure OdomData where
  vx : F32
  vy : F32
  wz : F32
  x : F32
  y : F32
  yaw : F32
  deriving DecidableEq, Repr

/-- Three consecutive `int16` readings from offset `i`. -/
def getScaled3 (p : List UInt8) (i divisor : Nat) : Vector Scaled 3 :=
  Vector.ofFn fun k => ⟨getI16 p (i + 2 * k.val), divisor⟩

def parseEnc (f : Frame) : Option EncData :=
  let p := f.payload.toList
  if f.len ≠ 18 ∧ f.len ≠ 22 then none
  else some
    { count := Vector.ofFn fun k => getI32 p (4 * k.val)
      rpm := getScaled3 p 12 10
      hasTs := f.len = 22
      tMs := if f.len = 22 then getU32 p 18 else 0 }

def parseImu (f : Frame) : Option ImuData :=
  let p := f.payload.toList
  if f.len ≠ 18 then none
  else some
    { accelG := getScaled3 p 0 1000, gyroDps := getScaled3 p 6 100, rpyDeg := getScaled3 p 12 100 }

def parseStatus (f : Frame) : Option StatusData :=
  let p := f.payload.toList
  if f.len < 5 then none
  else some
    { uptime := p.getD 0 0, rsv := p.getD 1 0, imuOk := p.getD 2 0, en := p.getD 3 0
      mode := p.getD 4 0, con := if f.len > 5 then p.getD 5 0 else 0, hasCon := f.len > 5 }

def parseTelemetry (f : Frame) : Option TelemetryData :=
  let p := f.payload.toList
  if f.len ≠ 18 then none
  else some { tgtRpm := getScaled3 p 0 10, rpm := getScaled3 p 6 10, outPct := getScaled3 p 12 10 }

def parseOdom (f : Frame) : Option OdomData :=
  let p := f.payload.toList
  if f.len ≠ 24 then none
  else some
    { vx := getF32 p 0, vy := getF32 p 4, wz := getF32 p 8
      x := getF32 p 12, y := getF32 p 16, yaw := getF32 p 20 }

/-- `sender` and `msgType` of a CON payload with the right protocol bytes. -/
def unpackCon (f : Frame) : Option (UInt8 × UInt8) :=
  let p := f.payload.toList
  if f.len ≠ kConPayloadSize ∨ p.getD 1 0 ≠ kConProtocolType ∨
      ConMsgType.pingResponse.toByte < p.getD 2 0 ∨ p.getD 3 0 ≠ kConProtocolVersion then none
  else some (p.getD 0 0, p.getD 2 0)

def parsePing (f : Frame) : Option UInt32 :=
  if f.len ≠ 4 then none else some (getU32 f.payload.toList 0)

/-! ### Host to board -/

def packCon (msgType : ConMsgType) (sender : UInt8) : List UInt8 :=
  [sender, kConProtocolType, msgType.toByte, kConProtocolVersion]

/-- `3276.7f` and `-3276.8f`. -/
def kMaxRpm : F32 := ⟨0x454CCB33⟩
def kMinRpm : F32 := ⟨0xC54CCCCD⟩

def packCmdVel (fl : Floats) (rpm : Vector F32 3) : List UInt8 :=
  rpm.toList.flatMap fun r =>
    let r := if fl.less kMaxRpm r then kMaxRpm else r
    let r := if fl.less r kMinRpm then kMinRpm else r
    putU16 (UInt16.ofInt (fl.lroundTenfold r))

def packCmdEn (en : Bool) : List UInt8 := [if en then 1 else 0]

def packCmdPid (kp ki kd : F32) : List UInt8 := putF32 kp ++ putF32 ki ++ putF32 kd

/-- `sign[i] >= 0`, with the signs the host passes. -/
def packCmdSign (sign : Vector Bool 3) : List UInt8 :=
  sign.toList.map fun positive => if positive then 1 else 0xFF

def packCmdTwist (v : Vector F32 3) : List UInt8 := v.toList.flatMap putF32

def packPing (tMs : UInt32) : List UInt8 := putU32 tMs

end Mhost.Proto
