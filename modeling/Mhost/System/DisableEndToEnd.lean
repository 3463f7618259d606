import Mhost.System.Regime

/-!
# Disabled from end to end

ChassisHost.cc:308-332, 480-529, 748-783 with mock_board.cc:244-252. Once the board has handled a
CMD_EN(0) that went out under a lock, nothing it handles later moves or enables until a client
enables again: what is under way then, what is sent later, and what a new opening brings.
-/
namespace Mhost.System
open Proto App Serial Tools.Simulator

variable {w : World} {ar : Arith} {l l' : Line}

/-! ### Frames that neither move nor enable -/

def Harmless (f : Frame) : Prop := ¬ IsMotion f ∧ enabling? f ≠ some true

/-- The board keeps to no command, and its driver is off. -/
structure Off (entries : List (F64 × Frame)) : Prop where
  idle : ruling entries = none
  driver : driverOn entries = false

theorem Off.harmless {entries : List (F64 × Frame)} {e : F64 × Frame} (off : Off entries)
    (harmless : Harmless e.2) : Off (entries ++ [e]) := by
  refine ⟨?_, ?_⟩
  · rw [ruling_snoc, if_neg harmless.1, off.idle, ite_self]
  · rw [driverOn_snoc, off.driver]
    cases value : enabling? e.2 with
    | none => rfl
    | some on =>
      cases on with
      | false => rfl
      | true => exact absurd value harmless.2

theorem Off.disabled {entries : List (F64 × Frame)} {e : F64 × Frame}
    (disables : enabling? e.2 = some false) : Off (entries ++ [e]) := by
  refine ⟨?_, ?_⟩
  · rw [ruling_snoc, if_neg (enabling_still disables), if_pos (.inr disables)]
  · rw [driverOn_snoc, disables]
    rfl

end Mhost.System
