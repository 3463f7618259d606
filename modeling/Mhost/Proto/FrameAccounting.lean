import Mathlib.Algebra.Ring.Nat
import Mhost.Proto.FrameScan

/-!
# Where every received byte went

An independent account of a byte stream: a leftmost scan cuts it into junk runs,
skipped pseudo heads, bad frames and good frames, and leaves a residue. The loop
of `feed` produces exactly such a cut, and a good segment is what `packFrame`
makes of the frame decoded from it.
-/
namespace Mhost.Proto

inductive Segment where
  | junk (run : List UInt8)
  | pseudoHead
  | badFrame (bytes : List UInt8)
  | goodFrame (frame : Frame) (bytes : List UInt8)
  deriving DecidableEq, Repr

def Segment.bytes : Segment → List UInt8
  | .junk run => run
  | .pseudoHead => [kHead0, kHead1]
  | .badFrame bytes => bytes
  | .goodFrame _ bytes => bytes

def Segment.frame? : Segment → Option Frame
  | .goodFrame frame _ => some frame
  | _ => none

def Segment.isBad : Segment → Bool
  | .badFrame _ => true
  | _ => false

def Segment.isPseudo : Segment → Bool
  | .pseudoHead => true
  | _ => false

def Segment.junkBytes : Segment → Nat
  | .junk run => run.length
  | _ => 0

/-- The statistics a segment is charged to: junk by the byte, the rest by the piece. -/
def Segment.cost : Segment → Stats
  | .junk run => { drop := run.length }
  | .pseudoHead => { drop := 1 }
  | .badFrame _ => { crcErr := 1 }
  | .goodFrame _ _ => { frames := 1 }

def Stats.add (a b : Stats) : Stats :=
  { frames := a.frames + b.frames, crcErr := a.crcErr + b.crcErr, drop := a.drop + b.drop }

def totalCost (segments : List Segment) : Stats :=
  segments.foldr (fun segment rest => segment.cost.add rest) {}

/-- The bytes of a frame with the given header, payload and CRC bytes. -/
def frameBytes (type len seq : UInt8) (payload : List UInt8) (lo hi : UInt8) : List UInt8 :=
  kHead0 :: kHead1 :: type :: len :: seq :: payload ++ [lo, hi]

/-- A leftmost scan of a stream: its segments in order and the bytes it leaves. A
junk run is head-free and does not end in a `0xAA` that starts a head; every
other segment starts with a head. -/
inductive LeftmostScan : List UInt8 → List Segment → List UInt8 → Prop where
  | residue (buf : List UInt8) (left : Residual buf) : LeftmostScan buf [] buf
  | junk (run rest : List UInt8) {segments : List Segment} {buf : List UInt8} (some : run ≠ [])
      (free : HeadFree run) (seam : CleanSeam run rest) (scan : LeftmostScan rest segments buf) :
      LeftmostScan (run ++ rest) (.junk run :: segments) buf
  | pseudoHead (type len seq : UInt8) (rest : List UInt8) {segments : List Segment} {buf : List UInt8}
      (long : kMaxPayload < len.toNat)
      (scan : LeftmostScan (type :: len :: seq :: rest) segments buf) :
      LeftmostScan (kHead0 :: kHead1 :: type :: len :: seq :: rest) (.pseudoHead :: segments) buf
  | badFrame (type len seq lo hi : UInt8) (payload rest : List UInt8) {segments : List Segment}
      {buf : List UInt8} (size : payload.length = len.toNat) (fits : payload.length ≤ kMaxPayload)
      (wrong : crc16Modbus (type :: len :: seq :: payload) ≠ crcRead lo hi)
      (scan : LeftmostScan rest segments buf) :
      LeftmostScan (frameBytes type len seq payload lo hi ++ rest)
        (.badFrame (frameBytes type len seq payload lo hi) :: segments) buf
  | goodFrame (type len seq lo hi : UInt8) (payload rest : List UInt8) {segments : List Segment}
      {buf : List UInt8} (size : payload.length = len.toNat) (fits : payload.length ≤ kMaxPayload)
      (right : crc16Modbus (type :: len :: seq :: payload) = crcRead lo hi)
      (scan : LeftmostScan rest segments buf) :
      LeftmostScan (frameBytes type len seq payload lo hi ++ rest)
        (.goodFrame (Frame.ofBytes type seq payload fits) (frameBytes type len seq payload lo hi) ::
          segments) buf

theorem LeftmostScan.bytes_eq {stream buf : List UInt8} {segments : List Segment}
    (scan : LeftmostScan stream segments buf) :
    stream = segments.flatMap Segment.bytes ++ buf := by
  induction scan with
  | residue => rfl
  | junk run rest some free seam scan ih => simp [Segment.bytes, ← ih]
  | pseudoHead type len seq rest long scan ih => simp [Segment.bytes, ← ih]
  | badFrame type len seq lo hi payload rest size fits wrong scan ih => simp [Segment.bytes, ← ih]
  | goodFrame type len seq lo hi payload rest size fits right scan ih => simp [Segment.bytes, ← ih]

theorem LeftmostScan.residual {stream buf : List UInt8} {segments : List Segment}
    (scan : LeftmostScan stream segments buf) : Residual buf := by
  induction scan with
  | residue _ left => exact left
  | _ => assumption

/-! ### CRC bytes -/

theorem crcRead_toNat (lo hi : UInt8) : (crcRead lo hi).toNat = lo.toNat + 256 * hi.toNat := by
  have low := lo.toNat_lt
  have high := hi.toNat_lt
  have apart : hi.toNat <<< 8 ||| lo.toNat = hi.toNat <<< 8 + lo.toNat :=
    (Nat.shiftLeft_add_eq_or_of_lt low _).symm
  simp only [crcRead, UInt16.toNat_or, UInt8.toNat_toUInt16, UInt16.toNat_shiftLeft]
  have wide : hi.toNat <<< 8 < 65536 := by
    rw [Nat.shiftLeft_eq]
    omega
  simp only [show (8 : UInt16).toNat % 16 = 8 from rfl]
  rw [Nat.mod_eq_of_lt (by simpa using wide), Nat.or_comm, apart, Nat.shiftLeft_eq]
  omega

theorem low_byte (n : Nat) : n &&& 255 = n % 256 := Nat.and_two_pow_sub_one_eq_mod n 8

theorem crcRead_bytes (crc : UInt16) :
    crcRead (crc &&& 0xFF).toUInt8 ((crc >>> 8) &&& 0xFF).toUInt8 = crc := by
  have bound := crc.toNat_lt
  apply UInt16.toNat_inj.mp
  rw [crcRead_toNat]
  simp [low_byte, Nat.shiftRight_eq_div_pow]
  omega

theorem bytes_crcRead (lo hi : UInt8) :
    (crcRead lo hi &&& 0xFF).toUInt8 = lo ∧ ((crcRead lo hi >>> 8) &&& 0xFF).toUInt8 = hi := by
  have low := lo.toNat_lt
  have high := hi.toNat_lt
  constructor
  · apply UInt8.toNat_inj.mp
    simp [crcRead_toNat, low_byte]
  · apply UInt8.toNat_inj.mp
    simp [crcRead_toNat, low_byte, Nat.shiftRight_eq_div_pow]
    omega

/-! ### A good segment is what `packFrame` sends -/

theorem Frame.ofBytes_bytes (type seq : UInt8) (payload : List UInt8)
    (fits : payload.length ≤ kMaxPayload) : (Frame.ofBytes type seq payload fits).bytes = payload := by
  simp only [Frame.bytes, Frame.ofBytes]
  apply List.ext_getElem
  · rw [List.length_take, Vector.length_toList, Nat.min_eq_left fits]
  · intro i inside within
    simp [copyPayload, within]

theorem packFrame_ofBytes (type len seq lo hi : UInt8) (payload : List UInt8)
    (size : payload.length = len.toNat)
    (right : crc16Modbus (type :: len :: seq :: payload) = crcRead lo hi) :
    (packFrame type payload (some seq)).1 = frameBytes type len seq payload lo hi := by
  have length : UInt8.ofNat payload.length = len := by simp [size]
  obtain ⟨low, high⟩ := bytes_crcRead lo hi
  simp only [packFrame, Option.getD_some, length, right, low, high, frameBytes, List.cons_append]

theorem LeftmostScan.good_packed {stream buf : List UInt8} {segments : List Segment}
    (scan : LeftmostScan stream segments buf) (frame : Frame) (bytes : List UInt8)
    (good : .goodFrame frame bytes ∈ segments) :
    bytes = (packFrame frame.type frame.bytes (some frame.seq)).1 := by
  induction scan with
  | residue => simp at good
  | goodFrame type len seq lo hi payload rest size fits right scan ih =>
    rcases List.mem_cons.mp good with here | later
    · cases here
      rw [Frame.ofBytes_bytes]
      exact (packFrame_ofBytes type len seq lo hi payload size right).symm
    · exact ih later
  | _ =>
    rcases List.mem_cons.mp good with here | later
    · cases here
    · rename_i ih
      exact ih later

/-! ### The loop makes a leftmost scan -/

theorem Stats.add_assoc (a b c : Stats) : (a.add b).add c = a.add (b.add c) := by
  simp [Stats.add, Nat.add_assoc]

/-- A run in front of a scan is one more segment, unless it is empty. -/
theorem LeftmostScan.after_junk {rest buf : List UInt8} {segments : List Segment}
    (scan : LeftmostScan rest segments buf) (run : List UInt8) (free : HeadFree run)
    (seam : CleanSeam run rest) :
    ∃ more, LeftmostScan (run ++ rest) (more ++ segments) buf ∧
      totalCost (more ++ segments) = Stats.add { drop := run.length } (totalCost segments) ∧
      (more ++ segments).filterMap Segment.frame? = segments.filterMap Segment.frame? := by
  by_cases some : run = []
  · subst some
    exact ⟨[], scan, by simp [Stats.add], rfl⟩
  · exact ⟨[.junk run], .junk run rest some free seam scan, rfl, rfl⟩

/-- One round that goes on consumes junk, if any, and one segment. -/
theorem again_inversion (buf : List UInt8) (stats : Stats) (next : FrameParser)
    (pushed : Option Frame) (turn : FrameParser.round ⟨buf, stats⟩ = .again next pushed) :
    ∃ junk rest segment, buf = junk ++ rest ∧ HeadFree junk ∧ CleanSeam junk rest ∧
      next.stats = (stats.add { drop := junk.length }).add segment.cost ∧
      pushed = segment.frame? ∧
      ∀ segments left, LeftmostScan next.buf segments left →
        LeftmostScan rest (segment :: segments) left := by
  rcases firstHead buf with free | ⟨junk, rest, rfl, free⟩
  · simp [round_headFree ⟨buf, stats⟩ free] at turn
  · rw [round_head junk rest stats free] at turn
    have seam := (junkBefore_head junk (kHead1 :: rest) free).clean
    cases headView rest with
    | short _ size => simp [atHead_short _ _ size] at turn
    | pseudo type len seq tail long =>
      rw [atHead_pseudo _ _ _ _ _ long] at turn
      cases turn
      exact ⟨junk, _, .pseudoHead, rfl, free, seam, rfl, rfl,
        fun segments left scan => .pseudoHead type len seq tail long scan⟩
    | unfinished type len seq tail fits size =>
      simp [atHead_unfinished _ _ _ _ _ fits size] at turn
    | whole type len seq lo hi payload tail size fits =>
      rw [← List.cons_append, ← List.cons_append, atHead_whole _ _ _ _ _ _ _ _ size fits] at turn
      have whole : kHead0 :: kHead1 :: (type :: len :: seq :: payload ++ lo :: hi :: tail) =
          frameBytes type len seq payload lo hi ++ tail := by simp [frameBytes]
      split at turn
      next right =>
        cases turn
        refine ⟨junk, _, .goodFrame (Frame.ofBytes type seq payload fits)
          (frameBytes type len seq payload lo hi), rfl, free, seam, rfl, rfl,
          fun segments left scan => ?_⟩
        rw [whole]
        exact .goodFrame type len seq lo hi payload tail size fits right scan
      next wrong =>
        cases turn
        refine ⟨junk, _, .badFrame (frameBytes type len seq payload lo hi), rfl, free, seam, rfl,
          rfl, fun segments left scan => ?_⟩
        rw [whole]
        exact .badFrame type len seq lo hi payload tail size fits wrong scan

theorem drain_scan (buf : List UInt8) (stats : Stats) (out : List Frame) :
    ∃ segments, LeftmostScan buf segments (FrameParser.drain ⟨buf, stats⟩ out).1.buf ∧
      (FrameParser.drain ⟨buf, stats⟩ out).1.stats = stats.add (totalCost segments) ∧
      (FrameParser.drain ⟨buf, stats⟩ out).2 = out ++ segments.filterMap Segment.frame? := by
  induction size : buf.length using Nat.strongRecOn generalizing buf stats out with
  | ind n ih =>
    cases turn : FrameParser.round ⟨buf, stats⟩ with
    | leave next =>
      rw [drain_leave _ next out turn]
      obtain ⟨junk, rfl, before, residue, counted⟩ := leave_inversion buf stats next turn
      obtain ⟨more, scan, cost, frames⟩ :=
        (LeftmostScan.residue next.buf residue).after_junk junk before.free before.clean
      exact ⟨_, scan, by rw [counted, cost]; rfl, by rw [frames]; simp⟩
    | again next pushed =>
      rw [drain_again _ next pushed out turn]
      obtain ⟨junk, rest, segment, rfl, free, seam, counted, frame, scan⟩ :=
        again_inversion buf stats next pushed turn
      obtain ⟨segments, tailScan, tailStats, tailFrames⟩ :=
        ih next.buf.length (size ▸ again_shrinks _ next pushed turn) next.buf next.stats
          (out ++ pushed.toList) rfl
      obtain ⟨more, whole, cost, frames⟩ := (scan segments _ tailScan).after_junk junk free seam
      refine ⟨_, whole, ?_, ?_⟩
      · rw [tailStats, counted, cost, Stats.add_assoc, Stats.add_assoc]
        rfl
      · rw [tailFrames, frames, frame, List.append_assoc]
        cases segment <;> rfl

theorem totalCost_eq (segments : List Segment) :
    totalCost segments =
      { frames := (segments.filterMap Segment.frame?).length
        crcErr := segments.countP Segment.isBad
        drop := (segments.map Segment.junkBytes).sum + segments.countP Segment.isPseudo } := by
  induction segments with
  | nil => rfl
  | cons segment rest ih =>
    rw [totalCost, List.foldr_cons, ← totalCost, ih]
    cases segment <;>
      simp [Segment.cost, Segment.frame?, Segment.isBad, Segment.isPseudo, Segment.junkBytes,
        Stats.add, List.filterMap_cons, List.countP_cons] <;> omega

/-- Stream accounting for every sequence of calls on a fresh parser: the bytes
received are the segments of a leftmost scan followed by `buf_`; the frames
returned are the good segments, each of which `packFrame` rebuilds from its
frame; and the three counters are the segments' totals. -/
theorem feed_accounting (pieces : List (List UInt8)) :
    ∃ segments, LeftmostScan pieces.flatten segments (frameConsumer.feedAll {} pieces).1.buf ∧
      pieces.flatten = segments.flatMap Segment.bytes ++ (frameConsumer.feedAll {} pieces).1.buf ∧
      (frameConsumer.feedAll {} pieces).2 = segments.filterMap Segment.frame? ∧
      (∀ frame bytes, .goodFrame frame bytes ∈ segments →
        bytes = (packFrame frame.type frame.bytes (some frame.seq)).1) ∧
      (frameConsumer.feedAll {} pieces).1.stats =
        { frames := (segments.filterMap Segment.frame?).length
          crcErr := segments.countP Segment.isBad
          drop := (segments.map Segment.junkBytes).sum + segments.countP Segment.isPseudo } := by
  have uncut := frameConsumer_resumable.feedAll_flatten {} .empty pieces
  obtain ⟨segments, scan, stats, frames⟩ := drain_scan pieces.flatten {} []
  have whole : frameConsumer.feed {} pieces.flatten =
      FrameParser.drain ⟨pieces.flatten, {}⟩ [] := rfl
  rw [uncut, whole]
  refine ⟨segments, scan, scan.bytes_eq, by simpa using frames, scan.good_packed, ?_⟩
  rw [stats, ← totalCost_eq]
  simp [Stats.add]

end Mhost.Proto
