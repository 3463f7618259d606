import Mhost.Library.Resumable
import Mhost.Proto.FrameDefs

/-!
# Frame codec: CRC16-MODBUS, packing, the incremental parser

FrameCodec.h:26-61 and FrameCodec.cc:34-47, 97-176. `std::vector<uint8_t>` is a list
of bytes; the three statistics counters are unbounded naturals, since none of
them can reach `2^64` on a stream a machine can hold. Every indexed access of
`feed` carries its bound, taken from the size checks that precede it in the source.
-/
namespace Mhost.Proto

/-- One turn of the bit loop of `crc16Modbus`. -/
def crcBit (crc : UInt16) : UInt16 :=
  if crc &&& 1 ≠ 0 then (crc >>> 1) ^^^ 0xA001 else crc >>> 1

def crcByte (crc : UInt16) (byte : UInt8) : UInt16 :=
  Nat.repeat crcBit 8 (crc ^^^ byte.toUInt16)

def crc16Modbus (data : List UInt8) : UInt16 :=
  data.foldl crcByte 0xFFFF

/-- `seq` is the caller's counter; a null pointer is `none` and sends zero. The
second component is the counter afterwards. -/
def packFrame (type : UInt8) (payload : List UInt8) (seq : Option UInt8) :
    List UInt8 × Option UInt8 :=
  let covered := type :: UInt8.ofNat payload.length :: seq.getD 0 :: payload
  let crc := crc16Modbus covered
  (kHead0 :: kHead1 :: covered ++ [(crc &&& 0xFF).toUInt8, ((crc >>> 8) &&& 0xFF).toUInt8],
    seq.map (· + 1))

/-- A decoded frame; `payload` is the whole `std::array`, of which `len` bytes count. -/
structure Frame where
  type : UInt8
  seq : UInt8
  payload : Vector UInt8 kMaxPayload
  len : Nat
  len_le : len ≤ kMaxPayload
  deriving DecidableEq, Repr

/-- `f.payload[0..f.len)`. -/
def Frame.bytes (f : Frame) : List UInt8 := f.payload.toList.take f.len

structure Stats where
  frames : Nat := 0
  crcErr : Nat := 0
  drop : Nat := 0
  deriving DecidableEq, Repr

structure FrameParser where
  buf : List UInt8 := []
  stats : Stats := {}
  deriving DecidableEq, Repr

/-- Step 1 of the loop: the index of the first head, or `buf_.size()`. -/
def findHead : List UInt8 → Nat
  | a :: b :: rest => if a = kHead0 ∧ b = kHead1 then 0 else findHead (b :: rest) + 1
  | buf => buf.length

/-- `buf_.insert(buf_.end(), data, data + len)`. -/
def FrameParser.receive (p : FrameParser) (data : List UInt8) : FrameParser :=
  { p with buf := p.buf ++ data }

/-- `erase` from the front with the matching `drop` count. -/
def FrameParser.discard (p : FrameParser) (bytes counted : Nat) : FrameParser :=
  { buf := p.buf.drop bytes, stats := { p.stats with drop := p.stats.drop + counted } }

/-- `memcpy` into a zero-initialised payload array. -/
def copyPayload (source : List UInt8) : Vector UInt8 kMaxPayload :=
  Vector.ofFn fun i => source.getD i.val 0

/-- One pass of `for (;;)`: `return out`, or another pass with the frame pushed, if any. -/
inductive Round where
  | leave (parser : FrameParser)
  | again (parser : FrameParser) (pushed : Option Frame)
  deriving DecidableEq, Repr

/-- Steps 2 to 5, with the head at the front of the buffer. -/
def FrameParser.atHead (p : FrameParser) : Round :=
  if header : p.buf.length < 5 then .leave p
  else
    let type := p.buf[2]
    let plen := p.buf[3].toNat
    if pseudo : plen > kMaxPayload then .again (p.discard 2 1) none
    else if whole : p.buf.length < kFrameOverhead + plen then .leave p
    else
      have room : 7 + plen ≤ p.buf.length := Nat.le_of_not_lt whole
      let f : Frame :=
        { type, seq := p.buf[4], payload := copyPayload ((p.buf.drop 5).take plen)
          len := plen, len_le := Nat.le_of_not_lt pseudo }
      let crcRx := p.buf[5 + plen].toUInt16 ||| (p.buf[6 + plen].toUInt16 <<< 8)
      let crcCalc := crc16Modbus ((p.buf.drop 2).take (3 + plen))
      let buf := p.buf.drop (kFrameOverhead + plen)
      if crcCalc = crcRx then
        .again { buf, stats := { p.stats with frames := p.stats.frames + 1 } } (some f)
      else
        .again { buf, stats := { p.stats with crcErr := p.stats.crcErr + 1 } } none

def FrameParser.round (p : FrameParser) : Round :=
  let idx := findHead p.buf
  if idx = p.buf.length then
    -- no head: a lone trailing 0xAA may be the first byte of the next one
    let keep := if p.buf.getLast? = some kHead0 then 1 else 0
    if p.buf.length > keep then
      .leave (p.discard (p.buf.length - keep) (p.buf.length - keep))
    else .leave p
  else if idx > 0 then (p.discard idx idx).atHead
  else p.atHead

/-- The loop, one round per unit of fuel. `feed` supplies more than it can use
(`FrameParser.drain_again`, `FrameParser.feed_settled`). -/
def FrameParser.rounds : Nat → FrameParser → List Frame → FrameParser × List Frame
  | 0, p, out => (p, out)
  | fuel + 1, p, out =>
      match p.round with
      | .leave p' => (p', out)
      | .again p' pushed => p'.rounds fuel (out ++ pushed.toList)

def FrameParser.drain (p : FrameParser) (out : List Frame) : FrameParser × List Frame :=
  p.rounds (p.buf.length + 1) out

def FrameParser.feed (p : FrameParser) (data : List UInt8) : FrameParser × List Frame :=
  (p.receive data).drain []

/-- The parser as a consumer of a byte stream cut into reads. -/
def frameConsumer : Library.Consumer FrameParser UInt8 Frame := ⟨FrameParser.feed⟩

end Mhost.Proto
