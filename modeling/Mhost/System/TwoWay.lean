import Mhost.App.LinkRises
import Mhost.App.ReceivedFrames
import Mhost.System.HostAndBoard
import Mhost.Tools.SimulatorLine

/-!
# Both directions of the line

ChassisHost.cc:672-677, SerialPort.cc:134-159 and mock_board.cc:126-214, 403-431 with what goes the other
way. The kernel takes a first part of the bytes of a beat, of which `write` tells and which the board
ignores: the others are lost. The host reads what was taken, in order and in pieces of any size; when
it opens its device, `tcflush` drops what it has not read.
-/
namespace Mhost.System
open Library (Text)
open Proto App Serial Tools.Simulator

/-- `line` is what the kernel has taken of what the board had to write, `told` the beats that it has taken
whole. `passed` is how many bytes it had taken when the host last opened its device, `heard` what the
host has read since, `taken` are the frames it has handled and `earlier` how many of them it
had handled by then. `ups` is how often its link has come up. -/
structure TwoWay extends Line where
  line : List UInt8 := []
  told : List MockBoard := []
  passed : Nat := 0
  heard : List (List UInt8) := []
  taken : List Frame := []
  earlier : Nat := 0
  ups : Nat := 0

namespace TwoWay

/-- The host has read all that the kernel has taken since the device was opened. -/
def Caught (t : TwoWay) : Prop := t.heard.flatten = t.line.drop t.passed

def start (w : World) : TwoWay := { toLine := Line.start w }

/-- The steps of a line, on which the host reads what the kernel has taken; of the bytes of a beat
it takes the first `n`. -/
inductive Step (w : World) (ar : Arith) : TwoWay → TwoWay → Prop where
  | host {t : TwoWay} (e : ChassisHost.Event) (record : Recorded Base)
      (owner : record.owner = (ChassisHost.handle w t.host e).base)
      (moves : PortMoves w t.recording ((ChassisHost.handle w t.host e).serial, record))
      (there : ((if record.earlier = t.record.earlier then t.heard else []) ++
          ChassisHost.pieces w t.host e).flatten <+:
        t.line.drop (if record.earlier = t.record.earlier then t.passed else t.line.length)) :
      Step w ar t
        { host := ChassisHost.handle w t.host e, record
          read := if record.earlier = t.record.earlier then t.read else []
          opened := if record.earlier = t.record.earlier then t.opened else t.handled.length
          rig := t.rig
          line := t.line
          told := t.told
          passed := if record.earlier = t.record.earlier then t.passed else t.line.length
          heard := (if record.earlier = t.record.earlier then t.heard else []) ++
            ChassisHost.pieces w t.host e
          taken := t.taken ++ ChassisHost.brings w t.host e
          earlier := if record.earlier = t.record.earlier then t.earlier else t.taken.length
          ups := t.ups + ChassisHost.risen w t.host (ChassisHost.actsOf w t.host e) }
  | reads {t : TwoWay} (clock : Nat → F64) (bytes : List UInt8)
      (there : t.read ++ bytes <+: t.record.current.accepted) :
      Step w ar t { t with read := t.read ++ bytes, rig := t.rig.doing ar (.feed clock bytes) }
  | beats {t : TwoWay} (now : F64) (n : Nat) :
      Step w ar t
        { t with
          rig := t.rig.doing ar (.pump now)
          line := t.line ++ (t.rig.board.pump ar now).1.take n
          told :=
            if (t.rig.board.pump ar now).1.length ≤ n then t.told ++ t.rig.board.beat? ar now
            else t.told }

/-- They are runs of the line from the host to the board. -/
theorem Step.line {w : World} {ar : Arith} {t t' : TwoWay} (step : Step w ar t t') :
    System.Step w ar t.toLine t'.toLine := by
  cases step with
  | host e record owner moves there => exact .host e record owner moves
  | reads clock bytes there => exact .reads clock bytes there
  | beats now n => exact .beats now

/-- A step that opens the device, if at all, while neither side holds a part of a frame, and at which the
kernel takes the bytes of a beat all or not at all. Nothing in the code sees to either: no parser
is ever reset, and the board takes no notice of what `write` returns. -/
structure TidyStep (w : World) (ar : Arith) (t t' : TwoWay) : Prop where
  step : Step w ar t t'
  tidy : t'.record.earlier ≠ t.record.earlier →
    t.rig.board.parser.buf = [] ∧ t.host.base.parser.buf = []
  whole : t'.line = t.line ∨ t'.line = t.line ++ t'.rig.written.drop t.rig.written.length

/-- The runs in which no frame is cut short. -/
abbrev TidyReached (w : World) (ar : Arith) : TwoWay → Prop :=
  Relation.ReflTransGen (TidyStep w ar) (start w)

theorem TidyReached.line {w : World} {ar : Arith} {t : TwoWay} (reached : TidyReached w ar t) :
    System.TidyReached w ar t.toLine := by
  induction reached with
  | refl => exact .refl
  | tail _ step ih => exact ih.tail ⟨step.step.line, fun opened => (step.tidy opened).1⟩

/-! ### What the host has handled -/

/-- `before` is what the kernel had taken when the device was opened, `since` what it has taken after
that, both of the packets that the board has handed out; `pending` waits for its next beat. -/
structure Hears (ar : Arith) (t : TwoWay) (old : List Frame) (stats : Stats)
    (out pending : List Packet) (before since : List Sent) : Prop where
  owes : Owes ar t.rig out pending
  line : t.line = wires (before ++ since)
  listed : ((before ++ since).map Sent.frame).Sublist (numbered 0 out)
  told : (((before ++ since).map Sent.toPacket).filter fun p => !isAnswer p) = t.told.flatMap (report ar)
  passed : t.passed = (wires before).length
  parser : (frameConsumer.feedAll ⟨[], stats⟩ t.heard).1 = t.host.base.parser
  taken : t.taken = old ++ (frameConsumer.feedAll ⟨[], stats⟩ t.heard).2
  earlier : old.length = t.earlier
  old : old.Sublist (before.map Sent.frame)
  there : t.heard.flatten <+: wires since
  readings : t.host.base.telemetry = ChassisHost.readingsOf t.taken {}
  ups : t.ups ≤ t.taken.countP ChassisHost.grants
  latest : since ≠ [] → ∃ b seq, t.told.getLast? = some b ∧
    numbered seq (report ar b) <:+ since.map Sent.frame

namespace Hears
variable {w : World} {ar : Arith} {t : TwoWay} {old : List Frame} {stats : Stats}
  {out pending : List Packet} {before since : List Sent}

theorem start (w : World) (ar : Arith) : Hears ar (start w) [] {} [] [] [] [] where
  owes := .fresh
  line := rfl
  listed := .slnil
  told := rfl
  passed := rfl
  parser := ((ChassisHost.parser_preserved w {}).start rfl).symm
  taken := rfl
  earlier := rfl
  old := .slnil
  there := List.nil_prefix
  readings := (ChassisHost.start_attends w).telemetry
  ups := Nat.le_refl 0
  latest := fun none => absurd rfl none

variable (hears : Hears ar t old stats out pending before since)
include hears

theorem unread : t.line.drop t.passed = wires since := by
  rw [hears.line, wires_append, hears.passed, List.drop_left]

/-- The host has handled the first of the frames since the device was opened. -/
theorem inOrder : (frameConsumer.feedAll ⟨[], stats⟩ t.heard).2 <+: since.map Sent.frame := by
  rw [frameConsumer_resumable.feedAll_flatten ⟨[], stats⟩ .empty]
  exact feed_first_wires since stats hears.there

theorem complete (caught : t.Caught) :
    (frameConsumer.feedAll ⟨[], stats⟩ t.heard).2 = since.map Sent.frame := by
  rw [frameConsumer_resumable.feedAll_flatten ⟨[], stats⟩ .empty, caught, hears.unread]
  exact feed_wires since stats

/-- All it has handled, openings before included. -/
theorem sublist : t.taken.Sublist ((before ++ since).map Sent.frame) := by
  rw [hears.taken, List.map_append]
  exact hears.old.append hears.inOrder.sublist

/-- What becomes of the board tells the host nothing yet. -/
theorem aside (read : List UInt8) {rig : Rig} {out' pending' : List Packet}
    (owes : Owes ar rig out' pending') (more : out <+: out') :
    Hears ar { t with read, rig } old stats out' pending' before since :=
  { hears with
    owes
    listed := hears.listed.trans (numbered_isPrefix more).sublist }

/-- The kernel takes a beat. -/
theorem goesOn {now : F64} {more pending' : List Packet}
    (owes : Owes ar (t.rig.doing ar (.pump now)) (out ++ more) pending')
    (emits : Owes.Emits ar t.rig now out more) :
    Hears ar
      { t with
        rig := t.rig.doing ar (.pump now)
        line := t.line ++ (t.rig.board.pump ar now).1
        told := t.told ++ t.rig.board.beat? ar now }
      old stats (out ++ more) pending' before (since ++ sentFrom (UInt8.ofNat out.length) more) :=
  { hears with
    owes
    line := by rw [← List.append_assoc, wires_append, ← hears.line, emits.bytes, wires_sentFrom]
    listed := by
      rw [← List.append_assoc, List.map_append, sentFrom_frame, numbered_append, UInt8.zero_add]
      exact hears.listed.append (List.Sublist.refl _)
    told := by
      rw [← List.append_assoc, List.map_append, sentFrom_packet, List.filter_append, hears.told,
        emits.unasked, List.flatMap_append]
    there := by
      rw [wires_append]
      exact hears.there.trans (List.prefix_append _ _)
    latest := fun some => by
      rcases t.rig.board.beat_cases ar now with none | one
      · rw [emits.idle none, sentFrom, List.append_nil] at some ⊢
        rw [none, List.append_nil]
        exact hears.latest some
      · obtain ⟨earlier, split⟩ := emits.last _ (by rw [one]; exact List.mem_singleton_self _)
        refine ⟨t.rig.board.beaten ar now,
          UInt8.ofNat out.length + UInt8.ofNat earlier.length, ?_, ?_⟩
        · rw [one, List.getLast?_concat]
        · rw [List.map_append, sentFrom_frame, ← split, numbered_append, ← List.append_assoc]
          exact List.suffix_append _ _ }

end Hears

/-- So can one that reads what the kernel has taken, where the host opens nothing. -/
theorem TidyReached.event {w : World} {ar : Arith} {t : TwoWay} (reached : TidyReached w ar t)
    (e : ChassisHost.Event)
    (stays : (handed (ChassisHost.handle w t.host e).base.journal).1.length <
      (packetsOf t.host.base.journal).length)
    (there : (t.heard ++ ChassisHost.pieces w t.host e).flatten <+: t.line.drop t.passed) :
    ∃ t', TidyReached w ar t' ∧ t'.host = ChassisHost.handle w t.host e ∧ t'.rig = t.rig ∧
      t'.line = t.line ∧ t'.passed = t.passed ∧ t'.heard = t.heard ++ ChassisHost.pieces w t.host e ∧
      t'.ups = t.ups + ChassisHost.risen w t.host (ChassisHost.actsOf w t.host e) := by
  obtain ⟨old, stats, delivers⟩ := reached_delivers reached.line
  obtain ⟨record, owner, moves⟩ := @event_recorded w t.toLine delivers.owner e
  have continues : record.earlier = t.record.earlier := by
    rcases moves_onward moves with continues | reopened
    · exact continues.earlier
    · have sent := reopened.before.length_le
      rw [show Recording.journal (_, record) = (ChassisHost.handle w t.host e).base.journal from
        congrArg Base.journal owner, show t.recording.journal = t.host.base.journal from
        congrArg Base.journal delivers.owner] at sent
      exact absurd stays (Nat.not_lt.mpr sent)
  refine ⟨_, reached.tail ⟨.host e record owner moves ?_, fun later => absurd continues later, .inl rfl⟩,
    rfl, rfl, rfl, if_pos continues,
    congrArg (· ++ ChassisHost.pieces w t.host e) (if_pos continues), rfl⟩
  rw [if_pos continues, if_pos continues]
  exact there

theorem TidyStep.reads {w : World} {ar : Arith} {t : TwoWay} (clock : Nat → F64) (bytes : List UInt8)
    (there : t.read ++ bytes <+: t.record.current.accepted) :
    TidyStep w ar t { t with read := t.read ++ bytes, rig := t.rig.doing ar (.feed clock bytes) } :=
  ⟨.reads clock bytes there, fun opened => absurd rfl opened, .inl rfl⟩

/-- The kernel takes all of it. -/
theorem TidyStep.beats {w : World} {ar : Arith} {t : TwoWay} (now : F64) :
    TidyStep w ar t
      { t with
        rig := t.rig.doing ar (.pump now)
        line := t.line ++ (t.rig.board.pump ar now).1
        told := t.told ++ t.rig.board.beat? ar now } := by
  have step : Step w ar t _ := .beats now (t.rig.board.pump ar now).1.length
  rw [List.take_length, if_pos (Nat.le_refl _)] at step
  refine ⟨step, fun opened => absurd rfl opened, .inr (congrArg (t.line ++ ·) ?_)⟩
  exact List.drop_left.symm

end TwoWay
end Mhost.System
