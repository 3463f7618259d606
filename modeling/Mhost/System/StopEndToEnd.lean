import Mhost.App.MotionAuthority
import Mhost.System.Regime

/-!
# Stopped from end to end

ChassisHost.cc:140-167, 297-306, 748-758 with mock_board.cc:235-243. Once the board has handled a
CMD_STOP that went out while no client's speed command stood, it rests until a speed command is
accepted. The loss of the connection that drives is one way to such a CMD_STOP.
-/
namespace Mhost.System
open Proto App Serial Tools.Simulator

variable {w : World} {ar : Arith} {l l' : Line}

/-! ### While no speed command stands -/

/-- No speed command is accepted and unrevoked. -/
def Unclaimed (journal : List Entry) : Prop := ∀ c d, ¬ Standing c d journal

theorem Unclaimed.next {journal : List Entry} {e : Entry} (unclaimed : Unclaimed journal)
    (kept : ∀ c d, e ≠ Drive.accepted c d) : Unclaimed (journal ++ [e]) := by
  intro c d standing
  rcases standing_snoc.mp standing with accepted | ⟨_, before⟩
  · exact kept c d accepted
  · exact unclaimed c d before

/-- The link comes up, and a client drives. -/
def driven : List ChassisHost.Event :=
  ChassisHost.linkUp ++ [.message ChassisHost.console (Library.utf8 "rpm 1\n"), .repeatTimer]

end Mhost.System
