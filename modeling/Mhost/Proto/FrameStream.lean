import Mhost.Proto.FrameAccounting

/-!
# Noisy streams and resynchronisation

What the parser returns for streams a sender made: frames packed with one
sequence counter, corrupted frames and junk between them, or arbitrary garbage
in front of packed frames.
-/
namespace Mhost.Proto

/-- What a sender hands to `packFrame`. -/
structure Packet where
  type : UInt8
  payload : List UInt8
  fits : payload.length ≤ kMaxPayload
  deriving DecidableEq

def Packet.encode (packet : Packet) (seq : UInt8) : List UInt8 :=
  (packFrame packet.type packet.payload (some seq)).1

def Packet.decoded (packet : Packet) (seq : UInt8) : Frame :=
  Frame.ofBytes packet.type seq packet.payload packet.fits

/-- A frame with intact head and length whose stored CRC is not the CRC of its bytes. -/
structure Corrupted where
  type : UInt8
  len : UInt8
  seq : UInt8
  payload : List UInt8
  lo : UInt8
  hi : UInt8
  size : payload.length = len.toNat
  fits : payload.length ≤ kMaxPayload
  wrong : crc16Modbus (type :: len :: seq :: payload) ≠ crcRead lo hi

def Corrupted.bytes (c : Corrupted) : List UInt8 :=
  frameBytes c.type c.len c.seq c.payload c.lo c.hi

inductive Item where
  | valid (packet : Packet)
  | corrupted (frame : Corrupted)
  | junk (run : List UInt8) (free : HeadFree run)

def Item.isJunk : Item → Bool
  | .junk _ _ => true
  | _ => false

def Item.isCorrupted : Item → Bool
  | .corrupted _ => true
  | _ => false

def Item.junkBytes : Item → Nat
  | .junk run _ => run.length
  | _ => 0

def Item.packet? : Item → Option Packet
  | .valid packet => some packet
  | _ => none

/-- The bytes of a stream; valid frames share the counter that `packFrame` advances. -/
def encodeStream : Option UInt8 → List Item → List UInt8
  | _, [] => []
  | seq, .valid packet :: rest =>
      let (bytes, seq') := packFrame packet.type packet.payload seq
      bytes ++ encodeStream seq' rest
  | seq, .corrupted frame :: rest => frame.bytes ++ encodeStream seq rest
  | seq, .junk run _ :: rest => run ++ encodeStream seq rest

/-- The frames a stream should give: counters consecutive modulo 256 from `seq`. -/
def numbered (seq : UInt8) (packets : List Packet) : List Frame :=
  packets.mapIdx fun i packet => packet.decoded (seq + UInt8.ofNat i)

/-- Every junk run is followed by a valid or a corrupted frame. -/
def JunkFollowed : List Item → Prop
  | [] => True
  | .junk _ _ :: rest => (rest.head?.any fun next => !next.isJunk) = true ∧ JunkFollowed rest
  | _ :: rest => JunkFollowed rest

theorem Packet.encode_eq (packet : Packet) (seq : UInt8) :
    ∃ len lo hi, packet.payload.length = len.toNat ∧
      crc16Modbus (packet.type :: len :: seq :: packet.payload) = crcRead lo hi ∧
      packet.encode seq = frameBytes packet.type len seq packet.payload lo hi := by
  have byteSize : packet.payload.length < 256 := Nat.lt_of_le_of_lt packet.fits (by decide)
  refine ⟨UInt8.ofNat packet.payload.length, _, _, ?_, (crcRead_bytes _).symm, rfl⟩
  simp [Nat.mod_eq_of_lt byteSize]

/-! ### The loop over each kind of item -/

theorem drain_frameBytes (type len seq lo hi : UInt8) (payload rest : List UInt8) (stats : Stats)
    (out : List Frame) (size : payload.length = len.toNat) (fits : payload.length ≤ kMaxPayload) :
    FrameParser.drain ⟨frameBytes type len seq payload lo hi ++ rest, stats⟩ out =
      if crc16Modbus (type :: len :: seq :: payload) = crcRead lo hi then
        FrameParser.drain ⟨rest, { stats with frames := stats.frames + 1 }⟩
          (out ++ [Frame.ofBytes type seq payload fits])
      else FrameParser.drain ⟨rest, { stats with crcErr := stats.crcErr + 1 }⟩ out := by
  have turn := round_head [] (type :: len :: seq :: payload ++ lo :: hi :: rest) stats headFree_nil
  have atHead := atHead_whole type len seq lo hi payload rest stats size fits
  have whole : frameBytes type len seq payload lo hi ++ rest =
      kHead0 :: kHead1 :: (type :: len :: seq :: payload ++ lo :: hi :: rest) := by
    simp [frameBytes]
  simp only [List.nil_append, List.length_nil, Nat.add_zero, List.cons_append] at turn atHead
  rw [whole]
  split
  next right =>
    rw [if_pos right] at atHead
    exact drain_again _ _ _ _ (turn.trans atHead)
  next wrong =>
    rw [if_neg wrong] at atHead
    have gone := drain_again _ _ _ out (turn.trans atHead)
    simpa using gone

theorem drain_packet (packet : Packet) (seq : UInt8) (rest : List UInt8) (stats : Stats)
    (out : List Frame) :
    FrameParser.drain ⟨packet.encode seq ++ rest, stats⟩ out =
      FrameParser.drain ⟨rest, { stats with frames := stats.frames + 1 }⟩
        (out ++ [packet.decoded seq]) := by
  obtain ⟨len, lo, hi, size, right, bytes⟩ := packet.encode_eq seq
  rw [bytes, drain_frameBytes _ _ _ _ _ _ _ _ _ size packet.fits, if_pos right]
  rfl

theorem drain_corrupted (frame : Corrupted) (rest : List UInt8) (stats : Stats) (out : List Frame) :
    FrameParser.drain ⟨frame.bytes ++ rest, stats⟩ out =
      FrameParser.drain ⟨rest, { stats with crcErr := stats.crcErr + 1 }⟩ out := by
  rw [Corrupted.bytes, drain_frameBytes _ _ _ _ _ _ _ _ _ frame.size frame.fits,
    if_neg frame.wrong]

theorem drain_junk (run rest : List UInt8) (stats : Stats) (out : List Frame)
    (before : JunkBefore run rest) :
    FrameParser.drain ⟨run ++ rest, stats⟩ out =
      FrameParser.drain ⟨rest, { stats with drop := stats.drop + run.length }⟩ out :=
  drain_congr _ _ _ (round_junk run rest stats before)

theorem encodeStream_head (seq : UInt8) (items : List Item)
    (frame : (items.head?.any fun next => !next.isJunk) = true) :
    ∃ rest, encodeStream (some seq) items = kHead0 :: rest := by
  cases items with
  | nil => simp at frame
  | cons item rest =>
    cases item with
    | valid packet => exact ⟨_, rfl⟩
    | corrupted c => exact ⟨_, rfl⟩
    | junk run free => simp [Item.isJunk] at frame

theorem drain_stream (items : List Item) (followed : JunkFollowed items) (seq : UInt8)
    (stats : Stats) (out : List Frame) :
    FrameParser.drain ⟨encodeStream (some seq) items, stats⟩ out =
      (⟨[], stats.add
          { frames := (items.filterMap Item.packet?).length
            crcErr := items.countP Item.isCorrupted
            drop := (items.map Item.junkBytes).sum }⟩,
        out ++ numbered seq (items.filterMap Item.packet?)) := by
  induction items generalizing seq stats out with
  | nil =>
    show FrameParser.drain ⟨[], stats⟩ out = _
    rw [drain_leave _ _ _ (round_residual [] stats .empty)]
    simp [Stats.add, numbered]
  | cons item rest ih =>
    cases item with
    | valid packet =>
      have step : ∀ i, seq + (UInt8.ofNat i + 1) = seq + 1 + UInt8.ofNat i := fun i => by
        rw [UInt8.add_comm (UInt8.ofNat i), UInt8.add_assoc]
      have here := drain_packet packet seq (encodeStream (some (seq + 1)) rest) stats out
      show FrameParser.drain ⟨packet.encode seq ++ encodeStream (some (seq + 1)) rest, stats⟩ out = _
      rw [here, ih followed (seq + 1)]
      simp [Item.packet?, Item.isCorrupted, Item.junkBytes, Stats.add, numbered, List.mapIdx_cons,
        step]
      omega
    | corrupted c =>
      show FrameParser.drain ⟨c.bytes ++ encodeStream (some seq) rest, stats⟩ out = _
      rw [drain_corrupted, ih followed]
      simp [Item.packet?, Item.isCorrupted, Item.junkBytes, Stats.add, List.filterMap_cons,
        List.countP_cons]
      omega
    | junk run free =>
      obtain ⟨more, head⟩ := encodeStream_head seq rest followed.1
      have before : JunkBefore run (encodeStream (some seq) rest) := by
        rw [head]
        exact junkBefore_head run more free
      show FrameParser.drain ⟨run ++ encodeStream (some seq) rest, stats⟩ out = _
      rw [drain_junk _ _ _ _ before, ih followed.2]
      simp [Item.packet?, Item.isCorrupted, Item.junkBytes, Stats.add, List.filterMap_cons]
      omega

/-- Encode/decode round trip over noisy streams, for every starting counter and
every cut: exactly the valid frames come back, in order and with consecutive
sequence numbers modulo 256; nothing is left over and the counters are exact. -/
theorem noisy_stream_roundtrip (items : List Item) (followed : JunkFollowed items) (seq : UInt8)
    (pieces : List (List UInt8)) (cut : pieces.flatten = encodeStream (some seq) items) :
    frameConsumer.feedAll {} pieces =
      ({ buf := []
         stats :=
          { frames := (items.filterMap Item.packet?).length
            crcErr := items.countP Item.isCorrupted
            drop := (items.map Item.junkBytes).sum } },
        numbered seq (items.filterMap Item.packet?)) := by
  have whole : frameConsumer.feed {} pieces.flatten =
      FrameParser.drain ⟨pieces.flatten, {}⟩ [] := rfl
  rw [frameConsumer_resumable.feedAll_flatten {} .empty pieces, whole, cut,
    drain_stream items followed]
  simp [Stats.add]

/-- One junk run ending in `0xAA`, a frame whose payload looks like a head, and a
frame with a wrong CRC, cut so that both heads are split. -/
theorem noisy_stream_roundtrip_sample :
    frameConsumer.feedAll {}
        [[0x00, 0xAA, 0xAA], [], [0x55, 3, 2, 255, 0xAA, 0x55, 0xEF, 0x17, 0xAA], [0x55, 1, 0, 0, 0, 0]] =
      (⟨[], ⟨1, 1, 2⟩⟩, numbered 255 [⟨3, [0xAA, 0x55], by decide⟩]) :=
  noisy_stream_roundtrip
    [.junk [0x00, 0xAA] (by decide), .valid ⟨3, [0xAA, 0x55], by decide⟩,
      .corrupted ⟨1, 0, 0, [], 0, 0, by decide, by decide, by decide +kernel⟩]
    (by simp [JunkFollowed, Item.isJunk]) 255 _ (by decide +kernel)

/-! ### Garbage in front of packed frames -/

/-- A packet with the sequence number it is sent under. -/
structure Sent extends Packet where
  seq : UInt8

def Sent.wire (sent : Sent) : List UInt8 := sent.encode sent.seq

def Sent.frame (sent : Sent) : Frame := sent.decoded sent.seq

def wires (frames : List Sent) : List UInt8 := (frames.map Sent.wire).flatten

/-- The pair `AA 55` occurs in the frame only at its start. -/
def HeadOnlyAtStart (sent : Sent) : Prop := HeadFree (sent.wire.drop 1)

/-- Where frame `k` starts when the frames follow `garbage`. -/
def startOffset (garbage : List UInt8) (frames : List Sent) (k : Nat) : Nat :=
  (garbage ++ wires (frames.take k)).length

theorem drain_wires (frames : List Sent) (stats : Stats) (out : List Frame) :
    (FrameParser.drain ⟨wires frames, stats⟩ out).2 = out ++ frames.map Sent.frame := by
  induction frames generalizing stats out with
  | nil =>
    show (FrameParser.drain ⟨[], stats⟩ out).2 = _
    rw [drain_leave _ _ _ (round_residual [] stats .empty)]
    simp
  | cons sent rest ih =>
    have split : wires (sent :: rest) = sent.encode sent.seq ++ wires rest := by
      simp [wires, Sent.wire]
    rw [split, drain_packet, ih]
    simp [Sent.frame]

theorem wires_head (frames : List Sent) (first : UInt8) (rest : List UInt8)
    (shape : wires frames = first :: rest) : first = kHead0 ∧ ∃ more, rest = kHead1 :: more := by
  cases frames with
  | nil => simp [wires] at shape
  | cons sent others =>
    obtain ⟨len, lo, hi, _, _, bytes⟩ := sent.encode_eq sent.seq
    simp only [wires, List.map_cons, List.flatten_cons, Sent.wire, bytes, frameBytes,
      List.cons_append, List.cons.injEq] at shape
    exact ⟨shape.1.symm, _, shape.2.symm⟩

/-- In clean frames a head can only be the start of a frame. -/
theorem head_starts_frame (frames : List Sent) (clean : ∀ sent ∈ frames, HeadOnlyAtStart sent)
    (before after : List UInt8) (split : wires frames = before ++ kHead0 :: kHead1 :: after) :
    ∃ (sent : Sent) (rest : List Sent), kHead0 :: kHead1 :: after = sent.wire ++ wires rest := by
  induction frames generalizing before with
  | nil => simp [wires] at split
  | cons sent rest ih =>
    have whole : wires (sent :: rest) = sent.wire ++ wires rest := by simp [wires]
    rw [whole] at split
    rcases List.append_eq_append_iff.mp split with ⟨skipped, _, later⟩ | ⟨inner, cut, here⟩
    · exact ih (fun other member => clean other (by simp [member])) skipped later
    · match inner with
      | [] => exact ih (fun other member => clean other (by simp [member])) [] here.symm
      | [_] =>
        simp only [List.cons_append, List.nil_append, List.cons.injEq] at here
        exact absurd (wires_head rest _ _ here.2.symm).1.symm head0_ne_head1
      | a :: b :: more =>
        simp only [List.cons_append, List.cons.injEq] at here
        obtain ⟨rfl, rfl, rfl⟩ := here
        cases before with
        | nil => exact ⟨sent, rest, by rw [cut]; simp⟩
        | cons x others =>
          have headFree := clean sent (by simp)
          unfold HeadOnlyAtStart at headFree
          rw [cut, List.cons_append, List.drop_succ_cons, List.drop_zero] at headFree
          exact absurd ⟨others, more, by simp⟩ headFree

/-- A residue that starts with a head is shorter than the frame it starts. -/
theorem residual_not_frame (sent : Sent) (rest : List UInt8) :
    ¬ Residual (sent.wire ++ rest) := by
  intro residue
  have stuck := drain_leave _ _ [] (round_residual _ {} residue)
  have emitted : (FrameParser.drain ⟨sent.wire ++ rest, {}⟩ []).2 ≠ [] := by
    rw [Sent.wire, drain_packet, drain_out]
    simp
  rw [stuck] at emitted
  exact emitted rfl

/-- After garbage and at least 35 bytes of clean frames no fake frame is still open. -/
theorem residual_after_garbage (garbage buf consumed : List UInt8) (frames : List Sent)
    (clean : ∀ sent ∈ frames, HeadOnlyAtStart sent) (late : 35 ≤ (wires frames).length)
    (split : garbage ++ wires frames = consumed ++ buf) (residue : Residual buf) :
    buf = [] ∨ buf = [kHead0] := by
  -- a residue that starts with a head cannot start inside the frames
  have notInside : ∀ inner after, wires frames = inner ++ buf → buf ≠ kHead0 :: kHead1 :: after := by
    rintro inner after shape rfl
    obtain ⟨sent, rest, starts⟩ := head_starts_frame frames clean inner after shape
    rw [starts] at residue
    exact residual_not_frame sent (wires rest) residue
  -- so it starts in the garbage and reaches over all frames
  have reaches : ∀ after, buf = kHead0 :: kHead1 :: after →
      ∃ g gs, buf = g :: gs ++ wires frames := by
    rintro after rfl
    rcases List.append_eq_append_iff.mp split with ⟨inner, _, shape⟩ | ⟨inner, _, shape⟩
    · exact absurd rfl (notInside inner after shape)
    · cases inner with
      | nil => exact absurd rfl (notInside [] after (by simpa using shape.symm))
      | cons g gs => exact ⟨g, gs, shape⟩
  obtain ⟨first, second, more, start⟩ : ∃ a b more, wires frames = a :: b :: more := by
    match shape : wires frames with
    | [] | [_] => simp [shape] at late
    | a :: b :: more => exact ⟨a, b, more, rfl⟩
  obtain ⟨rfl, others, tail⟩ := wires_head frames first _ start
  obtain ⟨rfl, rfl⟩ := List.cons.inj tail
  cases residue with
  | empty => exact .inl rfl
  | loneHead => exact .inr rfl
  | short rest size =>
    obtain ⟨g, gs, shape⟩ := reaches rest rfl
    have length := congrArg List.length shape
    simp only [List.length_cons, List.length_append] at length
    omega
  | unfinished type len seq rest fits size =>
    obtain ⟨g, gs, shape⟩ := reaches _ rfl
    have length := congrArg List.length shape
    simp only [List.length_cons, List.length_append] at length
    have within : len.toNat ≤ 32 := fits
    rw [start] at shape
    -- at most three garbage bytes remain, and then a head byte stands where the length is
    match gs with
    | [] => simp [head0_ne_head1.symm] at shape
    | [_] =>
      simp only [List.cons_append, List.nil_append, List.cons.injEq] at shape
      have wrong : len.toNat = 0x55 := by rw [shape.2.2.2.1]; rfl
      omega
    | [_, _] =>
      simp only [List.cons_append, List.nil_append, List.cons.injEq] at shape
      have wrong : len.toNat = 0xAA := by rw [shape.2.2.2.1]; rfl
      omega
    | _ :: _ :: _ :: _ =>
      simp only [List.length_cons] at length
      omega

/-- The same of a parser that holds anything when the clean frames come. -/
theorem feed_settles_clean (held : FrameParser) (frames : List Sent)
    (clean : ∀ sent ∈ frames, HeadOnlyAtStart sent) (late : 35 ≤ (wires frames).length) :
    (held.feed (wires frames)).1.buf = [] ∨ (held.feed (wires frames)).1.buf = [kHead0] := by
  obtain ⟨segments, scan, _, _⟩ := drain_scan (held.buf ++ wires frames) held.stats []
  exact residual_after_garbage held.buf _ _ frames clean late scan.bytes_eq scan.residual

/-- From there whole frames give just these. -/
theorem feed_settled (p : FrameParser) (left : p.buf = [] ∨ p.buf = [kHead0]) (frames : List Sent) :
    (p.feed (wires frames)).2 = frames.map Sent.frame := by
  show (FrameParser.drain ⟨p.buf ++ wires frames, p.stats⟩ []).2 = _
  rcases left with none | lone
  · rw [none, List.nil_append, drain_wires, List.nil_append]
  · rw [lone]
    cases shape : wires frames with
    | nil =>
      have gone := drain_wires frames {} []
      rw [shape, drain_leave _ _ _ (round_residual [] {} .empty)] at gone
      rw [List.append_nil, drain_leave _ _ _ (round_residual [kHead0] p.stats .loneHead)]
      simpa using gone
    | cons first rest =>
      obtain ⟨rfl, _⟩ := wires_head _ _ _ shape
      have free : HeadFree [kHead0] := by decide
      rw [drain_junk [kHead0] _ _ _ (junkBefore_head [kHead0] rest free), ← shape, drain_wires,
        List.nil_append]

/-- Bounded resynchronisation. Whatever garbage precedes clean frames and however
the stream is cut: from any frame on that starts at least 35 bytes after the
garbage, the parser adds exactly the remaining frames, in order, to what it
returned for the bytes before that frame. -/
theorem bounded_resync (garbage : List UInt8) (frames : List Sent)
    (clean : ∀ sent ∈ frames, HeadOnlyAtStart sent) (k : Nat)
    (late : garbage.length + 35 ≤ startOffset garbage frames k)
    (pieces : List (List UInt8)) (cut : pieces.flatten = garbage ++ wires frames) :
    (frameConsumer.feedAll {} pieces).2 =
      (frameConsumer.feed {} (garbage ++ wires (frames.take k))).2 ++
        (frames.drop k).map Sent.frame := by
  have apart : garbage ++ wires frames =
      (garbage ++ wires (frames.take k)) ++ wires (frames.drop k) := by
    rw [List.append_assoc, wires, wires, wires, ← List.flatten_append, ← List.map_append,
      List.take_append_drop]
  rw [frameConsumer_resumable.feedAll_flatten {} .empty pieces, cut, apart,
    frameConsumer_resumable.feed_append]
  show _ ++ _ = _ ++ _
  congr 1
  have left := feed_settles_clean ⟨garbage, {}⟩ (frames.take k)
    (fun sent member => clean sent (List.mem_of_mem_take member))
    (by simp only [startOffset, List.length_append] at late; omega)
  exact feed_settled _ left (frames.drop k)

instance (sent : Sent) : Decidable (HeadOnlyAtStart sent) :=
  inferInstanceAs (Decidable (HeadFree (sent.wire.drop 1)))

/-- `n` stop frames, numbered from zero. -/
def stopFrames (n : Nat) : List Sent :=
  (List.range n).map fun i => ⟨⟨ptCmdStop, [], by decide⟩, UInt8.ofNat i⟩

/-- A fake head whose length field is the latest garbage byte swallows the first five
stop frames; the sixth starts 35 bytes after the garbage and is returned. -/
theorem bounded_resync_sample :
    (frameConsumer.feedAll {} [[0xAA], 0x55 :: 0 :: 32 :: wires (stopFrames 7)]).2 =
      (frameConsumer.feed {} ([0xAA, 0x55, 0, 32] ++ wires ((stopFrames 7).take 5))).2 ++
        ((stopFrames 7).drop 5).map Sent.frame :=
  bounded_resync [0xAA, 0x55, 0, 32] (stopFrames 7) (by decide +kernel) 5 (by decide +kernel) _
    (by simp)

end Mhost.Proto
