import Mhost.Proto.FrameBounds
import Mhost.System.HostAndBoard

/-!
# A device that is opened in the middle of a frame

SerialPort.cc:80-98 and FrameCodec.cc:115-176. The board's parser is never reset, so what it holds when
the host opens its device stands before the next frame, and the two can even pass for one that was
never sent. What is bounded is for how long: after 35 bytes of frames with no head inside
them every frame is handled again.
-/
namespace Mhost.System
open Library (Text utf8)
open Proto App Serial Tools.Simulator

/-- Any events can come to the host; what the board has read counts until the device is opened again. -/
theorem Reached.events {w : World} {ar : Arith} {l : Line} (reached : Reached w ar l)
    (events : List ChassisHost.Event) :
    ∃ l', Reached w ar l' ∧ l'.host = events.foldl (ChassisHost.handle w) l.host ∧
      l'.rig = l.rig ∧
      (l'.read = [] ∨ (handed l'.host.base.journal).1 = (handed l.host.base.journal).1) := by
  induction events using List.reverseRecOn with
  | nil => exact ⟨l, reached, rfl, rfl, .inr rfl⟩
  | append_singleton events e ih =>
    obtain ⟨mid, reached, host, rig, fresh⟩ := ih
    obtain ⟨old, held, follows⟩ := reached_follows reached
    obtain ⟨record, owner, moves⟩ := event_recorded (w := w) follows.owner e
    refine ⟨_, reached.tail (.host e record owner moves), ?_, rig, ?_⟩
    · rw [List.foldl_append, ← host]
      rfl
    · rcases moves_onward moves with same | reopened
      · rcases fresh with none | before
        · exact .inl ((if_pos same.earlier).trans none)
        · refine .inr (Eq.trans ?_ before)
          rw [← follows.owner, ← owner]
          exact same.before
      · exact .inl (if_neg reopened.later)

end Mhost.System
