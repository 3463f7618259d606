import Mhost.Proto.PayloadRoundtrip

/-!
# The simulated board's side of the link

The PT_CON case of `MockBoard::handle` and `sendCon` (mock_board.cc:290-319). `txBuf_` is
a list of frames, in the order in which `pump` hands them over. The clock is in
milliseconds; `lastCon_` is read by the watchdog of `pump` alone.
-/
namespace Mhost.Tools
open Proto

/-- A CON frame as the parser at the other end yields it. -/
def conFrame (msgType : ConMsgType) (sender seq : UInt8) : Frame :=
  Frame.ofBytes ptCon seq (packCon msgType sender) (by simp [packCon, kMaxPayload])

structure MockBoard where
  conReady : Bool := false
  lastCon : Nat := 0
  seq : UInt8 := 0
  txBuf : List Frame := []
  deriving DecidableEq, Repr

namespace MockBoard

def sendCon (msgType : ConMsgType) (b : MockBoard) : MockBoard :=
  { b with
    txBuf := b.txBuf ++ [conFrame msgType kConSenderBoard b.seq]
    seq := b.seq + 1 }

/-- The link is up after either request but DISABLE_REQUEST: a ping sets it up implicitly. -/
def handleCon (f : Frame) (now : Nat) (b : MockBoard) : MockBoard :=
  match unpackCon f with
  | none => b
  | some (sender, msgType) =>
      if sender ≠ kConSenderHost then b
      else if msgType = ConMsgType.enableRequest.toByte then
        { b.sendCon .enableResponse with conReady := true, lastCon := now }
      else if msgType = ConMsgType.disableRequest.toByte then
        { b.sendCon .disableResponse with conReady := false }
      else if msgType = ConMsgType.pingRequest.toByte then
        { b.sendCon .pingResponse with conReady := true, lastCon := now }
      else b

/-! ### What a request does -/

/-- The answer to a message of the host. -/
def reply? : ConMsgType → Option ConMsgType
  | .enableRequest => some .enableResponse
  | .disableRequest => some .disableResponse
  | .pingRequest => some .pingResponse
  | _ => none

/-- `conReady_` after a message of the host. -/
def readyAfter (ready : Bool) : ConMsgType → Bool
  | .enableRequest | .pingRequest => true
  | .disableRequest => false
  | _ => ready

/-- The frame reaches the other side as that message. -/
def Carries (sender : UInt8) (f : Frame) (msgType : ConMsgType) : Prop :=
  unpackCon f = some (sender, msgType.toByte)

theorem carries_conFrame (msgType : ConMsgType) (sender seq : UInt8) :
    Carries sender (conFrame msgType sender seq) msgType :=
  unpackCon_ofBytes ptCon seq msgType sender _

theorem handleCon_ready {f : Frame} {msgType : ConMsgType}
    (carries : Carries kConSenderHost f msgType) (now : Nat) (b : MockBoard) :
    (b.handleCon f now).conReady = readyAfter b.conReady msgType := by
  unfold handleCon
  rw [carries]
  cases msgType <;> rfl

theorem handleCon_txBuf {f : Frame} {msgType : ConMsgType}
    (carries : Carries kConSenderHost f msgType) (now : Nat) (b : MockBoard) :
    (b.handleCon f now).txBuf =
      b.txBuf ++ (reply? msgType).toList.map fun r => conFrame r kConSenderBoard b.seq := by
  unfold handleCon
  rw [carries]
  cases msgType with
  | enableRequest | disableRequest | pingRequest => rfl
  | enableResponse | disableResponse | pingResponse => exact (List.append_nil _).symm

end MockBoard
end Mhost.Tools
