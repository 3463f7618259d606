import Mhost.System.MotionEndToEnd

/-!
# A word to the board that lasts

ChassisHost.cc, SerialPort.cc and tools/mock_board.cc together. What the host has told the board
under a rule of its own still holds of the board while only frames go out that the rule allows:
those under way, those sent later and those that a new opening of the device brings.
-/
namespace Mhost.System
open Proto App Serial Tools.Simulator

variable {w : World} {ar : Arith} {l l' : Line}

/-! ### Frames on their way -/

/-- The frames of this opening that the board has not handled. -/
def Line.waiting (l : Line) : List Frame :=
  (since l.host.base.journal).drop (l.handled.length - l.opened)

theorem Delivers.waiting {old : List Frame} {stats : Stats} (delivers : Delivers l old stats) :
    since l.host.base.journal = l.handled.drop l.opened ++ l.waiting := by
  have first : l.handled.drop l.opened <+: since l.host.base.journal :=
    delivers.drop_opened ▸ delivers.inOrder
  have part := List.prefix_iff_eq_take.mp first
  rw [List.length_drop] at part
  rw [part, Line.waiting, List.take_append_drop]

theorem Delivers.opened_le {old : List Frame} {stats : Stats} (delivers : Delivers l old stats) :
    l.opened ≤ l.handled.length := by
  rw [delivers.handled, ← delivers.opened, List.length_append]
  exact Nat.le_add_right _ _

theorem Step.grows (step : Step w ar l l') (owner : l.record.owner = l.host.base) :
    l.host.base.journal <+: l'.host.base.journal := by
  cases step with
  | host e record owner' moves =>
    rw [← owner, ← owner']
    exact moves_grow moves
  | reads | beats => exact List.prefix_rfl

theorem TidyReached.grows (reached : TidyReached w ar l)
    (later : Relation.ReflTransGen (TidyStep w ar) l l') :
    l.host.base.journal <+: l'.host.base.journal := by
  induction later with
  | refl => exact List.prefix_rfl
  | tail before step ih =>
    obtain ⟨old, stats, delivers⟩ := reached_delivers (Relation.ReflTransGen.trans reached before)
    exact ih.trans (step.step.grows delivers.owner)

theorem mem_drop_append {α : Type} {xs more : List α} {n : Nat} {x : α}
    (member : x ∈ (xs ++ more).drop n) : x ∈ xs.drop n ∨ x ∈ more := by
  rw [List.drop_append] at member
  exact (List.mem_append.mp member).imp_right List.mem_of_mem_drop

/-- A rule of the host that lasts while its journal grows by entries that keep it, the frames that may go
out meanwhile, and what they leave as it is on the board. -/
structure Regime (w : World) where
  holds : List Entry → Prop
  keeps : Entry → Prop
  harmless : Frame → Prop
  settled : List (F64 × Frame) → Prop
  lasts : ∀ {journal e}, holds journal → keeps e → holds (journal ++ [e])
  sends : ∀ {past e packet seq}, Permitted w.fl past e → holds past → keeps e →
    e.packet? = some packet → harmless (packet.decoded seq)
  settles : ∀ {entries e}, settled entries → harmless e.2 → settled (entries ++ [e])

namespace Regime
variable {g : Regime w}

theorem lasts_all {journal rest : List Entry} (holds : g.holds journal) (kept : ∀ e ∈ rest, g.keeps e) :
    g.holds (journal ++ rest) := by
  induction rest using List.reverseRecOn with
  | nil => rwa [List.append_nil]
  | append_singleton rest e ih =>
    rw [← List.append_assoc]
    exact g.lasts (ih fun x member => kept x (by simp [member])) (kept e (by simp))

theorem settles_all {entries more : List (F64 × Frame)} (settled : g.settled entries)
    (harmless : ∀ e ∈ more, g.harmless e.2) : g.settled (entries ++ more) := by
  induction more using List.reverseRecOn with
  | nil => rwa [List.append_nil]
  | append_singleton more e ih =>
    rw [← List.append_assoc]
    exact g.settles (ih fun x member => harmless x (by simp [member])) (harmless e (by simp))

theorem sends_all {journal rest : List Entry} (lawful : Lawful w.fl (journal ++ rest))
    (holds : g.holds journal) (kept : ∀ e ∈ rest, g.keeps e) {packet : Packet}
    (member : packet ∈ packetsOf rest) (seq : UInt8) : g.harmless (packet.decoded seq) := by
  obtain ⟨past, e, future, rfl, found⟩ := entry_of_packet member
  have still : g.holds (journal ++ past) := lasts_all holds fun x member => kept x (by simp [member])
  have permitted : Permitted w.fl (journal ++ past) e := lawful (journal ++ past) e future (by simp)
  exact g.sends permitted still (kept e (by simp)) found

/-- The rule is in force, the board has settled, and nothing under way changes that. -/
structure Rules (g : Regime w) (l : Line) : Prop where
  holds : g.holds l.host.base.journal
  settled : g.settled l.rig.handled
  waiting : ∀ f ∈ l.waiting, g.harmless f

/-- More of the host's frames, all of them harmless. -/
theorem Rules.sending {rest : List Entry} (rules : g.Rules l) (governed : l'.host.Governed w False)
    (grown : l'.host.base.journal = l.host.base.journal ++ rest)
    (kept : ∀ e ∈ rest, g.keeps e) (rig : l'.rig = l.rig)
    (waiting : ∀ f ∈ l'.waiting, f ∈ l.waiting ∨ ∃ packet ∈ packetsOf rest, ∃ seq, f = packet.decoded seq) :
    g.Rules l' := by
  have lawful : Lawful w.fl (l.host.base.journal ++ rest) := grown ▸ governed.agrees.lawful
  refine ⟨grown ▸ lasts_all rules.holds kept, rig ▸ rules.settled, fun f member => ?_⟩
  rcases waiting f member with before | ⟨packet, listed, seq, rfl⟩
  · exact rules.waiting f before
  · exact sends_all lawful rules.holds kept listed seq

/-- A step of which the host's part keeps the rule. -/
theorem Rules.step {old : List Frame} {stats : Stats} (rules : g.Rules l)
    (delivers : Delivers l old stats) {old' : List Frame} {stats' : Stats}
    (delivers' : Delivers l' old' stats') (step : Step w ar l l') (governed : l'.host.Governed w False)
    {rest : List Entry} (grown : l'.host.base.journal = l.host.base.journal ++ rest)
    (kept : ∀ e ∈ rest, g.keeps e) : g.Rules l' := by
  cases step with
  | host e record owner moves =>
    have journals : Recording.journal ((ChassisHost.handle w l.host e).serial, record) =
        l.recording.journal ++ rest := by
      show record.owner.journal = l.record.owner.journal ++ rest
      rw [owner, delivers.owner]
      exact grown
    refine rules.sending governed grown kept rfl fun f member => ?_
    rcases moves_onward moves with continues | reopened
    · have more := continues.more journals
      have before := continues.before
      rw [show Recording.journal _ = (ChassisHost.handle w l.host e).base.journal from
        congrArg Base.journal owner, show l.recording.journal = l.host.base.journal from
        congrArg Base.journal delivers.owner] at more before
      have whole : since (ChassisHost.handle w l.host e).base.journal =
          since l.host.base.journal ++ numbered (UInt8.ofNat (handed l.host.base.journal).1.length +
            UInt8.ofNat (handed l.host.base.journal).2.length) (packetsOf rest) := by
        rw [since, before, more, numbered_append]
        rfl
      have here : f ∈ (since (ChassisHost.handle w l.host e).base.journal).drop
          (l.handled.length - l.opened) := by
        rw [show l.opened = if record.earlier = l.record.earlier then l.opened else l.handled.length from
          (if_pos continues.earlier).symm]
        exact member
      rw [whole] at here
      exact (mem_drop_append here).imp_right sent_of_numbered
    · have listed := sent_of_numbered (List.mem_of_mem_drop member)
      obtain ⟨packet, handedOver, seq, decoded⟩ := listed
      refine .inr ⟨packet, reopened.fresh journals ?_, seq, decoded⟩
      rw [Recording.journal, owner]
      exact handedOver
  | reads clock bytes there =>
    have waits := delivers'.waiting
    have more : Line.handled { l with
          read := l.read ++ bytes, rig := l.rig.doing ar (.feed clock bytes) } =
        l.handled ++ (l.rig.board.parser.feed bytes).2 := feed_handled ar clock bytes l.rig
    rw [more, List.drop_append_of_le_length delivers.opened_le, List.append_assoc,
      delivers.waiting] at waits
    have split := List.append_cancel_left waits
    have taken (e) (member : e ∈ Rig.stamped clock (l.rig.board.parser.feed bytes).2) :
        g.harmless e.2 := by
      obtain ⟨fi, listed, rfl⟩ := List.mem_map.mp member
      refine rules.waiting fi.1 ?_
      rw [split]
      exact List.mem_append_left _ (List.fst_mem_of_mem_zipIdx listed)
    refine ⟨rules.holds, settles_all rules.settled taken, fun f member => rules.waiting f ?_⟩
    rw [split]
    exact List.mem_append_right _ member
  | beats now => exact ⟨rules.holds, rules.settled, rules.waiting⟩

end Regime
end Mhost.System
