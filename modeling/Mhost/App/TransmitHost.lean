import Mathlib.Data.List.Induction
import Mathlib.Data.List.Infix
import Mathlib.Logic.Relation
import Mhost.App.BesideHost
import Mhost.Proto.FrameNumbering
import Mhost.Serial.RecordedPort

/-!
# The frames of the host on their way

ChassisHost.cc:748-762, SerialPort.cc:80-229. What the host hands to its port is packed with one
counter, which no closing and no opening resets. What the kernel has taken of an opening,
followed by what still waits, is the frames handed over since that opening.
-/
namespace Mhost.App
open Library (Text utf8)
open Proto Link Serial Ota

/-! ### The frames in the journal -/

def Entry.packet? : Entry → Option Packet
  | .frame type payload =>
      if fits : payload.length ≤ kMaxPayload then some ⟨type, payload, fits⟩ else none
  | _ => none

/-- What was handed to the port. -/
def packetsOf (journal : List Entry) : List Packet := journal.filterMap Entry.packet?

/-- What was handed to it before its latest opening, and what since then. -/
def handed (journal : List Entry) : List Packet × List Packet :=
  journal.foldl (fun sent e =>
    match e with
    | .port true => (sent.1 ++ sent.2, [])
    | e => (sent.1, sent.2 ++ e.packet?.toList)) ([], [])

/-- An entry that leaves both alone. -/
def Entry.still : Entry → Bool
  | .frame _ _ | .port true => false
  | _ => true

theorem handed_opened (journal : List Entry) :
    handed (journal ++ [.port true]) = ((handed journal).1 ++ (handed journal).2, []) := by
  simp [handed]

theorem handed_snoc {journal : List Entry} {e : Entry} (other : e ≠ .port true) :
    handed (journal ++ [e]) = ((handed journal).1, (handed journal).2 ++ e.packet?.toList) := by
  unfold handed
  rw [List.foldl_append, List.foldl_cons, List.foldl_nil]
  split
  next => exact absurd rfl other
  next => rfl

theorem still_inert {e : Entry} (still : e.still = true) : e ≠ .port true ∧ e.packet? = none := by
  refine ⟨fun same => ?_, ?_⟩
  · rw [same] at still
    cases still
  · cases e with
    | frame => cases still
    | _ => rfl

theorem packetsOf_snoc (journal : List Entry) (e : Entry) :
    packetsOf (journal ++ [e]) = packetsOf journal ++ e.packet?.toList := by
  cases packet : e.packet? <;> simp [packetsOf, packet]

theorem packetsOf_eq (journal : List Entry) :
    packetsOf journal = (handed journal).1 ++ (handed journal).2 := by
  induction journal using List.reverseRecOn with
  | nil => rfl
  | append_singleton journal e ih =>
    rw [packetsOf_snoc, ih]
    by_cases opened : e = .port true
    · subst opened
      rw [handed_opened]
      rfl
    · rw [handed_snoc opened, List.append_assoc]

theorem handed_still {journal rest : List Entry} (still : ∀ e ∈ rest, e.still = true) :
    handed (journal ++ rest) = handed journal := by
  induction rest using List.reverseRecOn with
  | nil => rw [List.append_nil]
  | append_singleton rest e ih =>
    obtain ⟨other, none⟩ := still_inert (still e (by simp))
    rw [← List.append_assoc, handed_snoc other, ih fun x member => still x (by simp [member]), none,
      Option.toList_none, List.append_nil]

/-- Neither a frame nor an opening. -/
structure Base.Still (b b' : Base) : Prop where
  txSeq : b'.txSeq = b.txSeq
  txFrames : b'.txFrames = b.txFrames
  journal : ∃ rest, b'.journal = b.journal ++ rest ∧ ∀ e ∈ rest, e.still = true

namespace Base.Still
variable {b b' b'' : Base}

theorem same (txSeq : b'.txSeq = b.txSeq) (txFrames : b'.txFrames = b.txFrames)
    (journal : b'.journal = b.journal) : Base.Still b b' :=
  ⟨txSeq, txFrames, [], by simp [journal], by simp⟩

theorem refl (b : Base) : Base.Still b b := same rfl rfl rfl

theorem trans (first : Base.Still b b') (second : Base.Still b' b'') : Base.Still b b'' :=
  ⟨second.txSeq.trans first.txSeq, second.txFrames.trans first.txFrames,
    Library.grown_trans first.journal second.journal⟩

theorem handed (still : Base.Still b b') : App.handed b'.journal = App.handed b.journal := by
  obtain ⟨rest, grown, all⟩ := still.journal
  rw [grown, handed_still all]

end Base.Still

theorem Base.Beside.still {b b' : Base} (beside : Base.Beside b b') : Base.Still b b' := by
  obtain ⟨rest, grown, other⟩ := beside.journal
  refine ⟨beside.txSeq, beside.txFrames, rest, grown, fun e member => ?_⟩
  have outside := other e member
  cases e with
  | frame | port => cases outside
  | _ => rfl

theorem lost_still (reason : Text) (b : Base) : Base.Still b (onSerialState false reason b) := by
  have noted : Base.Still b (b.note (.port false)) := ⟨rfl, rfl, [.port false], rfl, by simp [Entry.still]⟩
  exact noted.trans (onSerialState_beside false reason b).still

/-! ### Moves of the recorded port -/

/-- The port, the record of its openings, and the host's own members. -/
abbrev Recording := SerialPort × Recorded Base

abbrev Recording.journal (s : Recording) : List Entry := s.2.owner.journal

/-- The frame that is next, with its counter, entered in the journal. -/
def packed (type : UInt8) (payload : List UInt8) (b : Base) : Base :=
  { b with txSeq := (packFrame type payload (some b.txSeq)).2.getD b.txSeq }.note
    (.frame type payload)

/-- `sendFrameToBoard` on an open port. -/
def sendRecorded (w : World) (type : UInt8) (payload : List UInt8) (s : Recording) : Recording :=
  let (p, r) := SerialPort.pass (serialEnv w) (s.1, { s.2 with owner := packed type payload s.2.owner })
    (packFrame type payload (some s.2.owner.txSeq)).1
  (p, { r with owner := { r.owner with txFrames := r.owner.txFrames + 1 } })

/-- The five things the host does about its port, on record, and talk. -/
inductive PortMove (w : World) : Recording → Recording → Prop where
  | talk {p : SerialPort} {r : Recorded Base} {b : Base} (still : Base.Still r.owner b) :
      PortMove w (p, r) (p, { r with owner := b })
  | frame {s : Recording} (opened : s.1.isOpen = true) (type : UInt8) (payload : List UInt8)
      (fits : payload.length ≤ kMaxPayload) : PortMove w s (sendRecorded w type payload s)
  | opening {s : Recording} :
      PortMove w s (SerialPort.openDevice (serialEnv w).recording w.opts.serialBaud s).2
  | closing {s : Recording} (reason : Text) :
      PortMove w s (SerialPort.closeInLoop (serialEnv w).recording reason s)
  | writable {s : Recording} : PortMove w s (SerialPort.handleWrite (serialEnv w).recording s)

abbrev PortMoves (w : World) : Recording → Recording → Prop := Relation.ReflTransGen (PortMove w)

theorem sendRecorded_forget (w : World) (type : UInt8) (payload : List UInt8) {s : Recording}
    (opened : s.1.isOpen = true) :
    SerialPort.forget (sendRecorded w type payload s) =
      (sendFrameToBoard w type payload (SerialPort.forget s)).2 := by
  have sent := SerialPort.pass_forget (serialEnv w) (packFrame type payload (some s.2.owner.txSeq)).1
    (s.1, { s.2 with owner := packed type payload s.2.owner })
  rw [sendFrameToBoard, if_pos (show (SerialPort.forget s).1.isOpen = true from opened)]
  have parts := Prod.ext_iff.mp sent
  exact Prod.ext parts.1 (congrArg (fun b : Base => { b with txFrames := b.txFrames + 1 }) parts.2)

/-- The host that goes on from a recording moves the port as the record has it. -/
theorem moves_preserved (w : World) (s : Recording) :
    Core.Preserves w fun core => ∃ s', SerialPort.forget s' = core ∧ PortMoves w s s' where
  beside := by
    rintro p b b' beside ⟨⟨p', r⟩, same, moves⟩
    cases same
    exact ⟨(p', { r with owner := b' }), rfl, moves.tail (.talk beside.still)⟩
  frame := by
    rintro type payload fits _ ⟨s', rfl, moves⟩
    by_cases opened : s'.1.isOpen = true
    · exact ⟨_, sendRecorded_forget w type payload opened, moves.tail (.frame opened type payload fits)⟩
    · have dropped : sendFrameToBoard w type payload (SerialPort.forget s') =
          (false, (s'.1, s'.2.owner.note (.dropped type payload))) := if_neg opened
      rw [dropped]
      exact ⟨(s'.1, { s'.2 with owner := s'.2.owner.note (.dropped type payload) }), rfl,
        moves.tail (.talk ((Base.Beside.refl _).note rfl).still)⟩
  opening := by
    rintro _ ⟨s', rfl, moves⟩
    exact ⟨_, SerialPort.openDevice_forget .., moves.tail .opening⟩
  closing := by
    rintro reason _ ⟨s', rfl, moves⟩
    exact ⟨_, SerialPort.closeInLoop_forget .., moves.tail (.closing reason)⟩
  writable := by
    rintro _ ⟨s', rfl, moves⟩
    exact ⟨_, SerialPort.handleWrite_forget .., moves.tail .writable⟩

theorem moves_parsed (w : World) (s : Recording) :
    Core.Parses fun core => ∃ s', SerialPort.forget s' = core ∧ PortMoves w s s' := by
  rintro bytes p b ⟨⟨p', r⟩, same, moves⟩
  cases same
  exact ⟨(p', { r with owner := { r.owner with parser := (r.owner.parser.feed bytes).1 } }), rfl,
    moves.tail (.talk (.same rfl rfl rfl))⟩

/-! ### What a move does to the record -/

/-- The port does not open, and nothing is handed to it. -/
structure Lasting (r r' : Recorded Base) : Prop where
  earlier : r'.earlier = r.earlier
  passed : r'.current.passed = r.current.passed
  accepted : r.current.accepted <+: r'.current.accepted
  owner : Base.Still r.owner r'.owner

namespace Lasting

theorem refl (r : Recorded Base) : Lasting r r := ⟨rfl, rfl, List.prefix_rfl, .refl _⟩

variable {r r' : Recorded Base}

theorem write (w : World) (data : List UInt8) (lasting : Lasting r r') :
    Lasting r ((serialEnv w).recording.write data r').2 where
  earlier := lasting.earlier
  passed := lasting.passed
  accepted := lasting.accepted.trans (List.prefix_append _ _)
  owner := lasting.owner.trans (.same rfl rfl rfl)

theorem lost (w : World) (reason : Text) (lasting : Lasting r r') :
    Lasting r ((serialEnv w).recording.stateCb false reason r') where
  earlier := lasting.earlier
  passed := lasting.passed
  accepted := lasting.accepted
  owner := lasting.owner.trans (lost_still reason r'.owner)

theorem handleWrite (w : World) (s : Recording) :
    Lasting s.2 (SerialPort.handleWrite (serialEnv w).recording s).2 :=
  SerialPort.handleWrite_lasting (fun data _ lasting => lasting.write w data)
    (fun reason _ lasting => lasting.lost w reason) (.refl s.2)

theorem closeInLoop (w : World) (reason : Text) (s : Recording) :
    Lasting s.2 (SerialPort.closeInLoop (serialEnv w).recording reason s).2 :=
  SerialPort.closeInLoop_lasting (fun data _ lasting => lasting.write w data)
    (fun reason _ lasting => lasting.lost w reason) reason (.refl s.2)

/-- `send`, once what it is passed is on record. -/
theorem pass (w : World) (data : List UInt8) {s : Recording} (opened : s.1.isOpen = true) :
    Lasting (s.2.pass data) (SerialPort.pass (serialEnv w) s data).2 := by
  unfold SerialPort.pass
  rw [if_pos opened]
  exact SerialPort.send_lasting (s := (s.1, s.2.pass data))
    (fun data _ lasting => lasting.write w data) (fun reason _ lasting => lasting.lost w reason) data
    (.refl _)

end Lasting

/-- What an attempt to open does: nothing, a question, or a new opening. -/
theorem openDevice_cases (w : World) (s : Recording) :
    let s' := (SerialPort.openDevice (serialEnv w).recording w.opts.serialBaud s).2
    s' = s ∨ s' = (s.1, { s.2 with owner := s.2.owner.answered }) ∨
      s'.2.earlier = s.2.earlier ++ [s.2.current] ∧ s'.2.current = {} ∧
        Base.Beside (s.2.owner.answered.note (.port true)) s'.2.owner := by
  unfold SerialPort.openDevice
  by_cases opened : s.1.isOpen = true
  · rw [if_pos opened]
    exact .inl rfl
  · rw [if_neg opened]
    dsimp only [Env.recording, serialEnv]
    split
    · exact .inr (.inr ⟨rfl, rfl, onSerialState_beside true _ _⟩)
    · exact .inr (.inl rfl)

/-! ### The invariant -/

/-- The counter, the count of frames, and what the current opening was passed. -/
structure Counted (r : Recorded Base) : Prop where
  fits : ∀ type payload, .frame type payload ∈ r.owner.journal → payload.length ≤ kMaxPayload
  txSeq : r.owner.txSeq = UInt8.ofNat (packetsOf r.owner.journal).length
  txFrames : r.owner.txFrames = (packetsOf r.owner.journal).length
  passed : r.current.passed =
    wireFrom (UInt8.ofNat (handed r.owner.journal).1.length) (handed r.owner.journal).2

theorem Base.Still.fits {b b' : Base} (still : Base.Still b b')
    (before : ∀ type payload, .frame type payload ∈ b.journal → payload.length ≤ kMaxPayload) :
    ∀ type payload, .frame type payload ∈ b'.journal → payload.length ≤ kMaxPayload := by
  obtain ⟨rest, grown, all⟩ := still.journal
  intro type payload member
  rw [grown] at member
  rcases List.mem_append.mp member with old | new
  · exact before type payload old
  · cases all _ new

theorem Base.Still.packetsOf {b b' : Base} (still : Base.Still b b') :
    App.packetsOf b'.journal = App.packetsOf b.journal := by
  rw [packetsOf_eq, packetsOf_eq, still.handed]

namespace Counted
variable {r r' : Recorded Base}

theorem lasting (counted : Counted r) (lasting : Lasting r r') : Counted r' := by
  refine ⟨lasting.owner.fits counted.fits, ?_, ?_, ?_⟩
  · rw [lasting.owner.txSeq, lasting.owner.packetsOf]
    exact counted.txSeq
  · rw [lasting.owner.txFrames, lasting.owner.packetsOf]
    exact counted.txFrames
  · rw [lasting.passed, lasting.owner.handed]
    exact counted.passed

/-- A new opening. -/
theorem opened (counted : Counted r) (current : r'.current = {})
    (beside : Base.Beside (r.owner.answered.note (.port true)) r'.owner) : Counted r' := by
  have still := beside.still
  have sent : App.packetsOf (r.owner.answered.note (.port true)).journal =
      App.packetsOf r.owner.journal := by
    simp [Base.note, Base.answered, packetsOf_snoc, Entry.packet?]
  refine ⟨still.fits fun type payload member => ?_, ?_, ?_, ?_⟩
  · refine counted.fits type payload ?_
    simpa [Base.note, Base.answered] using member
  · rw [still.txSeq, still.packetsOf, sent]
    exact counted.txSeq
  · rw [still.txFrames, still.packetsOf, sent]
    exact counted.txFrames
  · rw [current, still.handed]
    simp only [Base.note, Base.answered, handed_opened]
    rfl

/-- One more frame, on record as passed. -/
theorem packed (counted : Counted r) {type : UInt8} {payload : List UInt8}
    (fits : payload.length ≤ kMaxPayload) :
    Counted { ({ r with owner := App.packed type payload r.owner } : Recorded Base).pass
        (packFrame type payload (some r.owner.txSeq)).1 with
      owner := { App.packed type payload r.owner with txFrames := r.owner.txFrames + 1 } } := by
  have packet : (Entry.frame type payload).packet? = some ⟨type, payload, fits⟩ := dif_pos fits
  have sent : App.packetsOf (App.packed type payload r.owner).journal =
      App.packetsOf r.owner.journal ++ [⟨type, payload, fits⟩] := by
    rw [App.packed, Base.note, packetsOf_snoc, packet]
    rfl
  have both : handed (App.packed type payload r.owner).journal =
      ((handed r.owner.journal).1, (handed r.owner.journal).2 ++ [⟨type, payload, fits⟩]) := by
    rw [App.packed, Base.note, handed_snoc (by simp), packet]
    rfl
  have number : r.owner.txSeq =
      UInt8.ofNat (handed r.owner.journal).1.length + UInt8.ofNat (handed r.owner.journal).2.length := by
    rw [counted.txSeq, packetsOf_eq, List.length_append]
    simp
  constructor
  · intro type' payload' member
    rcases List.mem_append.mp (show _ ∈ r.owner.journal ++ [Entry.frame type payload] from member)
      with old | new
    · exact counted.fits type' payload' old
    · cases List.mem_singleton.mp new
      exact fits
  · show r.owner.txSeq + 1 = UInt8.ofNat (App.packetsOf (App.packed type payload r.owner).journal).length
    rw [sent, counted.txSeq]
    simp
  · show r.owner.txFrames + 1 = (App.packetsOf (App.packed type payload r.owner).journal).length
    rw [sent, counted.txFrames]
    simp
  · show r.current.passed ++ (packFrame type payload (some r.owner.txSeq)).1 =
      wireFrom (UInt8.ofNat (handed (App.packed type payload r.owner).journal).1.length)
        (handed (App.packed type payload r.owner).journal).2
    rw [both, counted.passed, wireFrom_append, ← number]
    show _ = _ ++ ((packFrame type payload (some r.owner.txSeq)).1 ++ [])
    rw [List.append_nil]

end Counted

structure Framed (s : Recording) : Prop where
  streaming : SerialPort.Streaming s
  counted : Counted s.2

theorem owner_streaming {p : SerialPort} {r : Recorded Base}
    (streaming : SerialPort.Streaming (p, r)) (b : Base) :
    SerialPort.Streaming (p, { r with owner := b }) :=
  ⟨streaming.inOrder, streaming.interest, streaming.bounded, streaming.confined⟩

theorem Lasting.one_more {r r' : Recorded Base} (lasting : Lasting r r') :
    Lasting { r with owner := { r.owner with txFrames := r.owner.txFrames + 1 } }
      { r' with owner := { r'.owner with txFrames := r'.owner.txFrames + 1 } } :=
  ⟨lasting.earlier, lasting.passed, lasting.accepted, lasting.owner.txSeq,
    congrArg (· + 1) lasting.owner.txFrames, lasting.owner.journal⟩

theorem sendRecorded_lasting (w : World) (type : UInt8) (payload : List UInt8) {s : Recording}
    (opened : s.1.isOpen = true) :
    Lasting { ({ s.2 with owner := packed type payload s.2.owner } : Recorded Base).pass
        (packFrame type payload (some s.2.owner.txSeq)).1 with
      owner := { packed type payload s.2.owner with txFrames := s.2.owner.txFrames + 1 } }
      (sendRecorded w type payload s).2 :=
  (Lasting.pass w (packFrame type payload (some s.2.owner.txSeq)).1
    (s := (s.1, { s.2 with owner := packed type payload s.2.owner })) opened).one_more

namespace PortMove
variable {w : World} {s s' : Recording}

theorem framed (move : PortMove w s s') (before : Framed s) : Framed s' := by
  obtain ⟨streaming, counted⟩ := before
  cases move with
  | talk still =>
    exact ⟨owner_streaming streaming _,
      counted.lasting ⟨rfl, rfl, List.prefix_rfl, still⟩⟩
  | frame opened type payload fits =>
    refine ⟨?_, (counted.packed fits).lasting (sendRecorded_lasting w type payload opened)⟩
    exact owner_streaming
      (SerialPort.pass_streaming (serialEnv w) _ (owner_streaming streaming _)) _
  | opening =>
    refine ⟨SerialPort.openDevice_streaming _ _ streaming, ?_⟩
    rcases openDevice_cases w s with same | asked | ⟨_, current, beside⟩
    · rw [same]
      exact counted
    · rw [asked]
      exact counted.lasting ⟨rfl, rfl, List.prefix_rfl, .same rfl rfl rfl⟩
    · exact counted.opened current beside
  | closing reason =>
    exact ⟨SerialPort.close_streaming _ reason streaming, counted.lasting (.closeInLoop w reason s)⟩
  | writable =>
    exact ⟨SerialPort.handleWrite_streaming _ streaming, counted.lasting (.handleWrite w s)⟩

end PortMove

/-! ### From one opening to the next -/

/-- The same opening, in which the kernel may have taken more and more may have been handed over. -/
structure Continues (s s' : Recording) : Prop where
  earlier : s'.2.earlier = s.2.earlier
  accepted : s.2.current.accepted <+: s'.2.current.accepted
  before : (handed s'.journal).1 = (handed s.journal).1
  since : (handed s.journal).2 <+: (handed s'.journal).2

/-- A later opening. -/
structure Reopened (s s' : Recording) : Prop where
  earlier : s.2.earlier.length < s'.2.earlier.length
  before : packetsOf s.journal <+: (handed s'.journal).1

namespace Continues
variable {s s' s'' : Recording}

theorem refl (s : Recording) : Continues s s := ⟨rfl, List.prefix_rfl, rfl, List.prefix_rfl⟩

theorem trans (first : Continues s s') (second : Continues s' s'') : Continues s s'' :=
  ⟨second.earlier.trans first.earlier, first.accepted.trans second.accepted,
    second.before.trans first.before, first.since.trans second.since⟩

theorem packetsOf (continues : Continues s s') :
    App.packetsOf s.journal <+: App.packetsOf s'.journal := by
  rw [packetsOf_eq, packetsOf_eq, continues.before]
  exact (List.prefix_append_right_inj _).mpr continues.since

theorem of_lasting (lasting : Lasting s.2 s'.2) : Continues s s' := by
  have same : handed s'.journal = handed s.journal := lasting.owner.handed
  exact ⟨lasting.earlier, lasting.accepted, congrArg Prod.fst same, same ▸ List.prefix_rfl⟩

end Continues

theorem Reopened.later {s s' : Recording} (reopened : Reopened s s') : s'.2.earlier ≠ s.2.earlier :=
  fun same => Nat.ne_of_lt reopened.earlier (congrArg List.length same.symm)

theorem Reopened.packetsOf {s s' : Recording} (reopened : Reopened s s') :
    App.packetsOf s.journal <+: App.packetsOf s'.journal := by
  rw [packetsOf_eq s'.journal]
  exact reopened.before.trans (List.prefix_append _ _)

theorem PortMove.onward {w : World} {s s' : Recording} (move : PortMove w s s') :
    Continues s s' ∨ Reopened s s' := by
  cases move with
  | talk still => exact .inl (.of_lasting ⟨rfl, rfl, List.prefix_rfl, still⟩)
  | frame opened type payload fits =>
    have lasting := sendRecorded_lasting w type payload opened
    have grown : handed (sendRecorded w type payload s).journal =
        ((handed s.journal).1, (handed s.journal).2 ++ (Entry.frame type payload).packet?.toList) := by
      refine lasting.owner.handed.trans ?_
      exact handed_snoc (by simp)
    refine .inl ⟨lasting.earlier, lasting.accepted, by rw [grown], ?_⟩
    rw [grown]
    exact List.prefix_append _ _
  | opening =>
    rcases openDevice_cases w s with same | asked | ⟨earlier, _, beside⟩
    · rw [same]
      exact .inl (.refl s)
    · rw [asked]
      exact .inl (.of_lasting ⟨rfl, rfl, List.prefix_rfl, .same rfl rfl rfl⟩)
    · refine .inr ⟨by simp [earlier], ?_⟩
      have split := beside.still.handed.trans (handed_opened s.journal)
      rw [Recording.journal, split, packetsOf_eq]
  | closing reason => exact .inl (.of_lasting (.closeInLoop w reason s))
  | writable => exact .inl (.of_lasting (.handleWrite w s))

theorem Base.Still.grows {b b' : Base} (still : Base.Still b b') : b.journal <+: b'.journal := by
  obtain ⟨rest, grown, _⟩ := still.journal
  exact ⟨rest, grown.symm⟩

theorem PortMove.grows {w : World} {s s' : Recording} (move : PortMove w s s') :
    s.journal <+: s'.journal := by
  cases move with
  | talk still => exact still.grows
  | frame opened type payload fits =>
    exact (List.prefix_append _ _).trans (sendRecorded_lasting w type payload opened).owner.grows
  | opening =>
    rcases openDevice_cases w s with same | asked | ⟨_, _, beside⟩
    · rw [same]
    · rw [asked]
      exact List.prefix_rfl
    · exact (List.prefix_append _ _).trans beside.still.grows
  | closing reason => exact (Lasting.closeInLoop w reason s).owner.grows
  | writable => exact (Lasting.handleWrite w s).owner.grows

theorem moves_grow {w : World} {s s' : Recording} (moves : PortMoves w s s') :
    s.journal <+: s'.journal := by
  induction moves with
  | refl => exact List.prefix_rfl
  | tail _ move ih => exact ih.trans move.grows

theorem moves_onward {w : World} {s s' : Recording} (moves : PortMoves w s s') :
    Continues s s' ∨ Reopened s s' := by
  induction moves with
  | refl => exact .inl (.refl s)
  | tail _ move ih =>
    rcases ih, move.onward with ⟨before | before, now | now⟩
    · exact .inl (before.trans now)
    · exact .inr ⟨before.earlier ▸ now.earlier, before.packetsOf.trans now.before⟩
    · exact .inr ⟨now.earlier ▸ before.earlier, now.before ▸ before.before⟩
    · exact .inr ⟨Nat.lt_trans before.earlier now.earlier, before.packetsOf.trans now.before⟩

theorem handed_all {s s' : Recording} {rest : List Entry} (grown : s'.journal = s.journal ++ rest) :
    (handed s'.journal).1 ++ (handed s'.journal).2 = packetsOf s.journal ++ packetsOf rest := by
  rw [← packetsOf_eq, grown, packetsOf, List.filterMap_append]
  rfl

/-- What was handed over meanwhile, in the same opening. -/
theorem Continues.more {s s' : Recording} {rest : List Entry} (continues : Continues s s')
    (grown : s'.journal = s.journal ++ rest) :
    (handed s'.journal).2 = (handed s.journal).2 ++ App.packetsOf rest := by
  have all := handed_all grown
  obtain ⟨more, split⟩ := continues.since
  rw [continues.before, ← split, packetsOf_eq, List.append_assoc] at all
  rw [← split, List.append_cancel_left (List.append_cancel_left all)]

/-- All that a later opening brings was handed over meanwhile. -/
theorem Reopened.fresh {s s' : Recording} {rest : List Entry} (reopened : Reopened s s')
    (grown : s'.journal = s.journal ++ rest) {packet : Packet}
    (member : packet ∈ (handed s'.journal).2) : packet ∈ App.packetsOf rest := by
  have all := handed_all grown
  obtain ⟨more, split⟩ := reopened.before
  rw [← split, List.append_assoc] at all
  rw [← List.append_cancel_left all]
  exact List.mem_append_right _ member

/-! ### Runs -/

theorem fresh_framed : Framed ({}, { owner := {} }) :=
  ⟨SerialPort.fresh_streaming _, by simp, rfl, rfl, rfl⟩

theorem moves_framed {w : World} {s s' : Recording} (moves : PortMoves w s s') (before : Framed s) :
    Framed s' := by
  induction moves with
  | refl => exact before
  | tail _ move ih => exact move.framed ih

/-- The recordings of a run: at every event moves of the recorded port that leave it as the host's. -/
inductive Records (w : World) : List ChassisHost.Event → Recording → Prop where
  | start {s : Recording} (moves : PortMoves w ({}, { owner := {} }) s)
      (same : SerialPort.forget s = (ChassisHost.start w).core) : Records w [] s
  | event {events : List ChassisHost.Event} {e : ChassisHost.Event} {s s' : Recording}
      (before : Records w events s) (moves : PortMoves w s s')
      (same : SerialPort.forget s' = (ChassisHost.run w (events ++ [e])).core) :
      Records w (events ++ [e]) s'

namespace Records
variable {w : World} {events : List ChassisHost.Event} {s : Recording}

theorem host (records : Records w events s) : SerialPort.forget s = (ChassisHost.run w events).core := by
  cases records with
  | start _ same => exact same
  | event _ _ same => exact same

theorem framed (records : Records w events s) : Framed s := by
  induction records with
  | start moves => exact moves_framed moves fresh_framed
  | event _ moves _ ih => exact moves_framed moves ih

end Records

theorem run_recorded (w : World) (events : List ChassisHost.Event) : ∃ s, Records w events s := by
  induction events using List.reverseRecOn with
  | nil =>
    obtain ⟨s, same, moves⟩ := (moves_preserved w ({}, { owner := {} })).start ⟨_, rfl, .refl⟩
    exact ⟨s, .start moves same⟩
  | append_singleton events e ih =>
    obtain ⟨s, records⟩ := ih
    obtain ⟨s', same, moves⟩ := (moves_preserved w s).handle ⟨s, records.host, .refl⟩
      (moves_parsed w s) e
    refine ⟨s', .event records moves (same.trans ?_)⟩
    rw [ChassisHost.run, ChassisHost.run, List.foldl_append]
    rfl

/-- In every run, whatever `write(2)`, the device and the clients do: every frame handed to the
port fits a frame of the wire; the counters hold the number of these frames, `txSeq_` modulo
256; and while the port is open, what `write(2)` took since it was opened, as any recording of the
run has it, followed by what still waits is the frames handed over since then, in order, each
packed once, with consecutive sequence numbers that go on from those of the openings before. -/
theorem frames_in_order (w : World) (events : List ChassisHost.Event) :
    let h := ChassisHost.run w events
    (∀ type payload, .frame type payload ∈ h.base.journal → payload.length ≤ kMaxPayload) ∧
      h.base.txFrames = (packetsOf h.base.journal).length ∧
      h.base.txSeq = UInt8.ofNat (packetsOf h.base.journal).length ∧
      (∃ s, Records w events s) ∧
      ∀ s, Records w events s → h.serial.isOpen = true →
        s.2.current.accepted ++ h.serial.outputBuffer =
          wireFrom (UInt8.ofNat (handed h.base.journal).1.length) (handed h.base.journal).2 := by
  obtain ⟨s, records⟩ := run_recorded w events
  have counted := records.framed.counted
  have base : s.2.owner = (ChassisHost.run w events).base := congrArg Prod.snd records.host
  dsimp only
  rw [← base]
  refine ⟨counted.fits, counted.txFrames, counted.txSeq, ⟨s, records⟩, fun s' records' opened => ?_⟩
  obtain ⟨serial', base'⟩ := Prod.ext_iff.mp records'.host
  have serial' : s'.1 = (ChassisHost.run w events).serial := serial'
  have base' : s'.2.owner = (ChassisHost.run w events).base := base'
  rw [← serial'] at opened ⊢
  rw [base, ← base']
  exact (records'.framed.streaming.inOrder opened).trans records'.framed.counted.passed

end Mhost.App
