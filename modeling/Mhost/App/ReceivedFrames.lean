import Mhost.App.BesideHost
import Mhost.App.TelemetrySnapshots

/-!
# What the host hears

ChassisHost.cc:672-677 and SerialPort.cc:134-159. Only a readable port feeds the parser, piece by
piece, and the frames it finds are the ones that are handled, in order.
-/
namespace Mhost.App.ChassisHost
open Library (Text)
open Proto Link Serial

variable {w : World} {h : ChassisHost}

/-! ### Whatever else the host does -/

theorem parser_serialEnv (w : World) (p : FrameParser) : (serialEnv w).Keeps fun b => b.parser = p where
  openTty _ same := same
  write _ _ same := same
  stateCb up reason b same := (onSerialState_beside up reason b).parser.trans same

/-- The parser is beside everything the host does about its port. -/
theorem parser_preserved (w : World) (p : FrameParser) :
    Core.Preserves w fun s => s.2.parser = p where
  beside beside same := beside.parser.trans same
  frame type payload _ s same := by
    unfold sendFrameToBoard
    split
    · have sent := SerialPort.send_kept (s := (s.1, { s.2 with
          txSeq := (packFrame type payload (some s.2.txSeq)).2.getD s.2.txSeq }.note
            (.frame type payload))) (parser_serialEnv w p)
        (packFrame type payload (some s.2.txSeq)).1 same
      exact sent.env
    · exact same
  opening same := SerialPort.openDevice_keeps (parser_serialEnv w p) _ same
  closing reason _ same := (SerialPort.closeInLoop_kept (parser_serialEnv w p) reason same).env
  writable same := (SerialPort.handleWrite_kept (parser_serialEnv w p) same).env

def Act.bytes? : Act → Option (List UInt8)
  | .parsed bytes => some bytes
  | _ => none

/-- What an event reads from the port, piece by piece. -/
def pieces (w : World) (h : ChassisHost) (e : Event) : List (List UInt8) :=
  (actsOf w h e).filterMap Act.bytes?

/-- The frames that it brings. -/
def brings (w : World) (h : ChassisHost) (e : Event) : List Frame :=
  (actsOf w h e).filterMap Act.frame?

end Mhost.App.ChassisHost
