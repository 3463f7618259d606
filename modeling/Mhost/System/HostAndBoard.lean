import Mhost.App.TransmitHost
import Mhost.Tools.SimulatorRuns

/-!
# The host and the simulated board on one line

ChassisHost.cc, SerialPort.cc and tools/mock_board.cc:347-433 together. The kernel hands the board what
it took from the host, in order and in pieces of any size; when the host opens its device,
`tcflush` drops what is under way. What the host reads is arbitrary, so what is proved here
also holds of a line that garbles everything the board writes.
-/
namespace Mhost.System
open Library (Text)
open Proto App Serial Tools.Simulator

/-- Both ends. `read` is what the board has read of the bytes that the kernel took since the host
last opened its device, `opened` how many frames it had handled by then. -/
structure Line where
  host : ChassisHost
  record : Recorded Base
  read : List UInt8 := []
  opened : Nat := 0
  rig : Rig := {}

abbrev Line.recording (l : Line) : Recording := (l.host.serial, l.record)

/-- The frames the board has handled. -/
def Line.handled (l : Line) : List Frame := l.rig.handled.map (·.2)

/-- All that the host has handed to its port since it was opened has reached the board. -/
structure Line.Drained (l : Line) : Prop where
  isOpen : l.host.serial.isOpen = true
  sent : l.host.serial.outputBuffer = []
  read : l.read = l.record.current.accepted

/-- The program starts while the board waits. -/
def Line.start (w : World) : Line where
  host := ChassisHost.start w
  record := (SerialPort.openDevice (serialEnv w).recording w.opts.serialBaud ({}, { owner := {} })).2.2

/-- An event of the host, a piece of the line for the board, a beat of the board. -/
inductive Step (w : World) (ar : Arith) : Line → Line → Prop where
  | host {l : Line} (e : ChassisHost.Event) (record : Recorded Base)
      (owner : record.owner = (ChassisHost.handle w l.host e).base)
      (moves : PortMoves w l.recording ((ChassisHost.handle w l.host e).serial, record)) :
      Step w ar l
        { l with
          host := ChassisHost.handle w l.host e, record
          read := if record.earlier = l.record.earlier then l.read else []
          opened := if record.earlier = l.record.earlier then l.opened else l.handled.length }
  | reads {l : Line} (clock : Nat → F64) (bytes : List UInt8)
      (there : l.read ++ bytes <+: l.record.current.accepted) :
      Step w ar l { l with read := l.read ++ bytes, rig := l.rig.doing ar (.feed clock bytes) }
  | beats {l : Line} (now : F64) : Step w ar l { l with rig := l.rig.doing ar (.pump now) }

/-- The runs of both. -/
abbrev Reached (w : World) (ar : Arith) : Line → Prop :=
  Relation.ReflTransGen (Step w ar) (Line.start w)

/-- A step that opens the device of the host, if at all, while the board holds no part of a frame.
Nothing in the code sees to that: the parser is never reset, and the board would take the bytes
that come next for the rest of what it holds. -/
structure TidyStep (w : World) (ar : Arith) (l l' : Line) : Prop where
  step : Step w ar l l'
  tidy : l'.record.earlier ≠ l.record.earlier → l.rig.board.parser.buf = []

/-- The runs in which it is never opened in the middle of a frame. -/
abbrev TidyReached (w : World) (ar : Arith) : Line → Prop :=
  Relation.ReflTransGen (TidyStep w ar) (Line.start w)

theorem TidyReached.reached {w : World} {ar : Arith} {l : Line} (tidy : TidyReached w ar l) :
    Reached w ar l :=
  Relation.ReflTransGen.mono (fun _ _ => TidyStep.step) _ _ tidy

/-- The host opens nothing here. -/
theorem TidyStep.reads {w : World} {ar : Arith} {l : Line} (clock : Nat → F64) (bytes : List UInt8)
    (there : l.read ++ bytes <+: l.record.current.accepted) :
    TidyStep w ar l { l with read := l.read ++ bytes, rig := l.rig.doing ar (.feed clock bytes) } :=
  ⟨.reads clock bytes there, fun opened => absurd rfl opened⟩

/-- Every event of the host has a recording. -/
theorem event_recorded {w : World} {l : Line} (owner : l.record.owner = l.host.base)
    (e : ChassisHost.Event) :
    ∃ record : Recorded Base, record.owner = (ChassisHost.handle w l.host e).base ∧
      PortMoves w l.recording ((ChassisHost.handle w l.host e).serial, record) := by
  have here : SerialPort.forget l.recording = l.host.core := Prod.ext rfl owner
  obtain ⟨⟨p, record⟩, same, moves⟩ := (moves_preserved w l.recording).handle ⟨_, here, .refl⟩
    (moves_parsed w l.recording) e
  obtain ⟨serial, base⟩ := Prod.ext_iff.mp same
  cases serial
  exact ⟨record, base, moves⟩

/-- Nothing has reached the board yet. -/
structure Line.Unread (l : Line) : Prop where
  owner : l.record.owner = l.host.base
  read : l.read = []
  rig : l.rig = {}

/-- Any event can come to the host meanwhile. -/
theorem Line.Unread.event {w : World} (ar : Arith) {l : Line} (unread : l.Unread)
    (e : ChassisHost.Event) :
    ∃ l', TidyStep w ar l l' ∧ l'.host = ChassisHost.handle w l.host e ∧ l'.Unread := by
  obtain ⟨record, owner, moves⟩ := event_recorded (w := w) unread.owner e
  have idle : l.rig.board.parser.buf = [] := by rw [unread.rig]
  refine ⟨_, ⟨.host e record owner moves, fun _ => idle⟩, rfl, owner, ?_, unread.rig⟩
  rw [unread.read]
  exact ite_self _

theorem parser_handle (ar : Arith) (now : F64) (f : Frame) (b : MockBoard) :
    (b.handle ar now f).parser = b.parser := by
  have outcome := handle_cases ar now f b
  generalize b.handle ar now f = b' at outcome ⊢
  cases outcome with
  | answers =>
    unfold MockBoard.handleCon
    split
    · rfl
    · split
      · rfl
      · split
        · rfl
        · split
          · rfl
          · split <;> rfl
  | _ => rfl

theorem parser_pump (ar : Arith) (now : F64) (b : MockBoard) :
    (b.pump ar now).2.parser = b.parser := by
  have status (b : MockBoard) : b.sendStatus.parser = b.parser := by
    unfold MockBoard.sendStatus
    split <;> rfl
  have watched (b : MockBoard) : (b.conWatchdog ar now).parser = b.parser := by
    unfold MockBoard.conWatchdog
    split <;> rfl
  have timed (b : MockBoard) : (b.commandTimeout ar now).parser = b.parser := by
    unfold MockBoard.commandTimeout
    split <;> rfl
  have flushed (b : MockBoard) : b.flush.2.parser = b.parser := rfl
  have enc (b : MockBoard) : (b.sendEnc ar).parser = b.parser := rfl
  have imu (b : MockBoard) : (b.sendImu ar).parser = b.parser := rfl
  have odom (b : MockBoard) : (b.sendOdom ar).parser = b.parser := rfl
  have counted (b : MockBoard) : (b.counted now).parser = b.parser := rfl
  have moved (motors : Vector MotorSim 3) (b : MockBoard) :
      ({ b with motors } : MockBoard).parser = b.parser := rfl
  have advanced (dt : F64) (b : MockBoard) : (b.advance ar dt).parser = b.parser := moved _ b
  rw [MockBoard.pump]
  by_cases early : tooSoon ar (ar.sub64 now b.lastTx) = true
  · rw [if_pos early]
  · rw [if_neg early, flushed, MockBoard.telemetry, status, odom, imu, enc, counted, advanced, watched, timed]

theorem parser_feed (ar : Arith) (clock : Nat → F64) (bytes : List UInt8) (r : Rig) :
    (r.doing ar (.feed clock bytes)).board.parser = (r.board.parser.feed bytes).1 := by
  rw [Rig.doing_feed]
  refine List.foldlRecOn (motive := fun r' : Rig => r'.board.parser = (r.board.parser.feed bytes).1)
    _ _ rfl fun r' same e _ => ?_
  exact (parser_handle ar e.1 e.2 r'.board).trans same

theorem feed_handled (ar : Arith) (clock : Nat → F64) (bytes : List UInt8) (r : Rig) :
    (r.doing ar (.feed clock bytes)).handled.map (·.2) =
      r.handled.map (·.2) ++ (r.board.parser.feed bytes).2 := by
  have frames (found : List Frame) : (Rig.stamped clock found).map (·.2) = found := by
    simp [Rig.stamped, Function.comp_def, List.zipIdx_map_fst]
  simp only [Rig.doing, List.map_append, frames]

/-! ### What reaches the board -/

/-- The frames of the latest opening, as the board is to see them. -/
def since (journal : List Entry) : List Frame :=
  numbered (UInt8.ofNat (handed journal).1.length) (handed journal).2

/-- Those of the openings before it. -/
def before (journal : List Entry) : List Frame := numbered 0 (handed journal).1

theorem numbered_packetsOf (journal : List Entry) :
    numbered 0 (packetsOf journal) = before journal ++ since journal := by
  rw [packetsOf_eq, numbered_append, UInt8.zero_add]
  rfl

theorem numbered_isPrefix {seq : UInt8} {packets more : List Packet} (first : packets <+: more) :
    numbered seq packets <+: numbered seq more := by
  obtain ⟨rest, rfl⟩ := first
  rw [numbered_append]
  exact List.prefix_append _ _

/-- The board has handled `old` up to the latest opening, when its parser was `held`, and then the
frames that this finds in what was read since. -/
structure Follows (l : Line) (old : List Frame) (held : FrameParser) : Prop where
  owner : l.record.owner = l.host.base
  framed : Framed l.recording
  read : l.read <+: l.record.current.accepted
  residue : Residual held.buf
  parser : l.rig.board.parser = (held.feed l.read).1
  handled : l.handled = old ++ (held.feed l.read).2
  opened : old.length = l.opened

namespace Follows
variable {l : Line} {old : List Frame} {held : FrameParser} (follows : Follows l old held)
include follows

theorem passed : l.record.current.passed =
    wireFrom (UInt8.ofNat (handed l.host.base.journal).1.length) (handed l.host.base.journal).2 := by
  rw [← follows.owner]
  exact follows.framed.counted.passed

/-- With nothing left to write the kernel has taken all that was handed over. -/
theorem flushed (opened : l.host.serial.isOpen = true) (empty : l.host.serial.outputBuffer = []) :
    l.record.current.accepted =
      wireFrom (UInt8.ofNat (handed l.host.base.journal).1.length) (handed l.host.base.journal).2 := by
  have inOrder := (follows.framed.streaming.inOrder opened).trans follows.passed
  rwa [show l.recording.1.outputBuffer = [] from empty, List.append_nil] at inOrder

/-- Only what was handed over can be read. -/
theorem read_first : l.read <+:
    wireFrom (UInt8.ofNat (handed l.host.base.journal).1.length) (handed l.host.base.journal).2 := by
  have confined : l.record.current.accepted <+: l.record.current.passed :=
    follows.framed.streaming.confined l.record.current (by simp)
  rw [← follows.passed]
  exact follows.read.trans confined

theorem read_all (drained : l.Drained) : l.read =
    wireFrom (UInt8.ofNat (handed l.host.base.journal).1.length) (handed l.host.base.journal).2 :=
  drained.read.trans (follows.flushed drained.isOpen drained.sent)

theorem drop_opened : l.handled.drop l.opened = (held.feed l.read).2 := by
  rw [follows.handled, ← follows.opened, List.drop_left]

end Follows

theorem start_follows (w : World) : Follows (Line.start w) [] {} := by
  have same := Prod.ext_iff.mp
    (SerialPort.openDevice_forget (serialEnv w) w.opts.serialBaud ({}, { owner := {} }))
  have framed : Framed (SerialPort.openDevice (serialEnv w).recording w.opts.serialBaud
      ({}, { owner := {} })).2 := PortMove.framed .opening fresh_framed
  refine ⟨same.2, ?_, List.nil_prefix, .empty, rfl, rfl, rfl⟩
  have here : (Line.start w).recording = (SerialPort.openDevice (serialEnv w).recording
      w.opts.serialBaud ({}, { owner := {} })).2 := Prod.ext same.1.symm rfl
  rw [here]
  exact framed

/-- A new opening finds the parser as it is, and the journal of the host goes on without it. -/
theorem step_follows {w : World} {ar : Arith} {l l' : Line} (step : Step w ar l l')
    {old : List Frame} {held : FrameParser} (follows : Follows l old held) :
    (Follows l' old held ∧ l'.record.earlier = l.record.earlier ∧
        (handed l'.host.base.journal).1 = (handed l.host.base.journal).1) ∨
      (Follows l' l.handled l.rig.board.parser ∧ l'.record.earlier ≠ l.record.earlier ∧
        packetsOf l.host.base.journal <+: (handed l'.host.base.journal).1) := by
  cases step with
  | host e record owner moves =>
    have framed := moves_framed moves follows.framed
    rcases moves_onward moves with same | reopened
    · refine .inl ⟨⟨owner, framed, ?_, follows.residue, ?_, ?_, ?_⟩, same.earlier, ?_⟩
      · rw [if_pos same.earlier]
        exact follows.read.trans same.accepted
      · rw [if_pos same.earlier]
        exact follows.parser
      · rw [if_pos same.earlier]
        exact follows.handled
      · exact follows.opened.trans (if_pos same.earlier).symm
      · rw [← owner, ← follows.owner]
        exact same.before
    · have later : record.earlier ≠ l.record.earlier := reopened.later
      have settled : Residual l.rig.board.parser.buf := by
        rw [follows.parser]
        exact frameConsumer_resumable.feed_settles held l.read
      have nothing : FrameParser.feed l.rig.board.parser [] = (l.rig.board.parser, []) :=
        frameConsumer_resumable.feed_nil l.rig.board.parser settled
      refine .inr ⟨⟨owner, framed, ?_, settled, ?_, ?_, ?_⟩, later, ?_⟩
      · rw [if_neg later]
        exact List.nil_prefix
      · rw [if_neg later, nothing]
      · rw [if_neg later, nothing, List.append_nil]
        rfl
      · exact (if_neg later).symm
      · rw [← owner, ← follows.owner]
        exact reopened.before
  | reads clock bytes there =>
    have whole : held.feed (l.read ++ bytes) =
        (((held.feed l.read).1.feed bytes).1,
          (held.feed l.read).2 ++ ((held.feed l.read).1.feed bytes).2) :=
      frameConsumer_resumable.feed_append held l.read bytes
    refine .inl ⟨⟨follows.owner, follows.framed, there, follows.residue, ?_, ?_, follows.opened⟩,
      rfl, rfl⟩
    · rw [parser_feed, follows.parser, whole]
    · rw [Line.handled, feed_handled, whole, ← List.append_assoc, ← follows.parser]
      exact congrArg (· ++ _) follows.handled
  | beats now =>
    exact .inl ⟨⟨follows.owner, follows.framed, follows.read, follows.residue,
      (parser_pump ar now l.rig.board).trans follows.parser, follows.handled, follows.opened⟩, rfl, rfl⟩

theorem reached_follows {w : World} {ar : Arith} {l : Line} (reached : Reached w ar l) :
    ∃ old held, Follows l old held := by
  induction reached with
  | refl => exact ⟨_, _, start_follows w⟩
  | tail _ step ih =>
    obtain ⟨old, held, follows⟩ := ih
    rcases step_follows step follows with ⟨next, _⟩ | ⟨next, _⟩
    · exact ⟨_, _, next⟩
    · exact ⟨_, _, next⟩

/-! ### Tidy runs -/

/-- Where no opening finds a part of a frame, `old` are frames of the openings before. -/
structure Delivers (l : Line) (old : List Frame) (stats : Stats) : Prop extends
    Follows l old ⟨[], stats⟩ where
  old : old.Sublist (before l.host.base.journal)

namespace Delivers
variable {l : Line} {old : List Frame} {stats : Stats} (delivers : Delivers l old stats)
include delivers

/-- What was read is a first part of what was handed over. -/
theorem inOrder :
    (FrameParser.feed ⟨[], stats⟩ l.read).2 <+: since l.host.base.journal :=
  feed_first _ _ stats delivers.read_first

/-- When everything has arrived, all of it was handled. -/
theorem complete (drained : l.Drained) : l.handled.drop l.opened = since l.host.base.journal := by
  rw [delivers.drop_opened, delivers.read_all drained, feed_wireFrom]
  rfl

end Delivers

theorem start_delivers (w : World) : Delivers (Line.start w) [] {} :=
  ⟨start_follows w, List.nil_sublist _⟩

theorem step_delivers {w : World} {ar : Arith} {l l' : Line} (step : TidyStep w ar l l')
    {old : List Frame} {stats : Stats} (delivers : Delivers l old stats) :
    ∃ old' stats', Delivers l' old' stats' := by
  rcases step_follows step.step delivers.toFollows with
    ⟨next, _, same⟩ | ⟨next, opened, sent⟩
  · refine ⟨old, stats, next, ?_⟩
    rw [before, same]
    exact delivers.old
  · have empty := step.tidy opened
    have parser : l.rig.board.parser = ⟨[], l.rig.board.parser.stats⟩ := by rw [← empty]
    refine ⟨l.handled, l.rig.board.parser.stats, parser ▸ next, ?_⟩
    have listed := (@numbered_isPrefix 0 _ _ sent).sublist
    rw [numbered_packetsOf] at listed
    rw [delivers.handled]
    exact (delivers.old.append delivers.inOrder.sublist).trans listed

theorem reached_delivers {w : World} {ar : Arith} {l : Line} (reached : TidyReached w ar l) :
    ∃ old stats, Delivers l old stats := by
  induction reached with
  | refl => exact ⟨_, _, start_delivers w⟩
  | tail _ step ih =>
    obtain ⟨old, stats, delivers⟩ := ih
    exact step_delivers step delivers

/-- Once the kernel has taken everything, the board may read all of it. -/
theorem Line.Unread.delivered {w : World} {ar : Arith} {l : Line} (unread : l.Unread)
    (reached : TidyReached w ar l) (clock : Nat → F64) (opened : l.host.serial.isOpen = true)
    (flushed : l.host.serial.outputBuffer = []) :
    ∃ l', TidyStep w ar l l' ∧ l'.host = l.host ∧ l'.Drained ∧
      l'.rig = Rig.doing ar {} (.feed clock
        (wireFrom (UInt8.ofNat (handed l.host.base.journal).1.length) (handed l.host.base.journal).2)) := by
  obtain ⟨old, stats, delivers⟩ := reached_delivers reached
  have inOrder := delivers.flushed opened flushed
  refine ⟨_, .reads clock l.record.current.accepted ?_, rfl, ⟨opened, flushed, ?_⟩, ?_⟩
  · rw [unread.read]
    exact List.prefix_rfl
  · show l.read ++ l.record.current.accepted = l.record.current.accepted
    rw [unread.read]
    rfl
  · rw [unread.rig, inOrder]

end Mhost.System
