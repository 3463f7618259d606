/-!
# Frame constants and command words

FrameDefs.h:20-69. A frame is `AA 55 | type | len | seq | payload | crc_lo crc_hi`.
-/
namespace Mhost.Proto

def kHead0 : UInt8 := 0xAA
def kHead1 : UInt8 := 0x55
def kFrameOverhead : Nat := 7
def kMaxPayload : Nat := 32

/-! Command words (`FrameType`): bit 7 clear is board to host, set is host to board. -/

def ptEncData : UInt8 := 0x01
def ptImuData : UInt8 := 0x02
def ptStatus : UInt8 := 0x03
def ptTelemetry : UInt8 := 0x04
def ptOdomData : UInt8 := 0x05
def ptCon : UInt8 := 0x06
def ptCmdVel : UInt8 := 0x81
def ptCmdStop : UInt8 := 0x82
def ptCmdEn : UInt8 := 0x83
def ptCmdPid : UInt8 := 0x84
def ptCmdSign : UInt8 := 0x85
def ptCmdTwist : UInt8 := 0x86
def ptCmdPing : UInt8 := 0x8F

/-! CON payload: `[sender, proto_type, msg_type, proto_ver]`. -/

def kConSenderBoard : UInt8 := 0x01
def kConSenderHost : UInt8 := 0x02
def kConProtocolType : UInt8 := 0x03
def kConProtocolVersion : UInt8 := 0x01
def kConPayloadSize : Nat := 4

inductive ConMsgType where
  | enableRequest | enableResponse | disableRequest | disableResponse
  | pingRequest | pingResponse
  deriving DecidableEq, Repr

/-- The enumerator's wire value. -/
def ConMsgType.toByte : ConMsgType → UInt8
  | .enableRequest => 0
  | .enableResponse => 1
  | .disableRequest => 2
  | .disableResponse => 3
  | .pingRequest => 4
  | .pingResponse => 5

/-- `static_cast<ConMsgType>` of a byte that `unpackCon` has let through. -/
def ConMsgType.ofByte (b : UInt8) : Option ConMsgType :=
  if b = 0 then some .enableRequest
  else if b = 1 then some .enableResponse
  else if b = 2 then some .disableRequest
  else if b = 3 then some .disableResponse
  else if b = 4 then some .pingRequest
  else if b = 5 then some .pingResponse
  else none

@[simp] theorem ConMsgType.ofByte_toByte (m : ConMsgType) : ofByte m.toByte = some m := by
  cases m <;> rfl

end Mhost.Proto
