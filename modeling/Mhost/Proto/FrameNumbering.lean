import Mhost.Proto.FrameStream

/-!
# Packets of one sender

FrameCodec.cc:97-176: a sender packs every frame with the same counter, whatever becomes of
the bytes afterwards. Any first part of what it has packed gives the parser a first part of
its frames.
-/
namespace Mhost.Proto

/-- Packets one after another, numbered from `seq` on. -/
def wireFrom (seq : UInt8) (packets : List Packet) : List UInt8 :=
  encodeStream (some seq) (packets.map .valid)

theorem wireFrom_cons (seq : UInt8) (p : Packet) (rest : List Packet) :
    wireFrom seq (p :: rest) = p.encode seq ++ wireFrom (seq + 1) rest := rfl

theorem wireFrom_append (seq : UInt8) (packets more : List Packet) :
    wireFrom seq (packets ++ more) =
      wireFrom seq packets ++ wireFrom (seq + UInt8.ofNat packets.length) more := by
  induction packets generalizing seq with
  | nil => simp [wireFrom, encodeStream]
  | cons p rest ih =>
    have shifted : seq + 1 + UInt8.ofNat rest.length = seq + UInt8.ofNat (rest.length + 1) := by
      rw [UInt8.add_assoc, UInt8.add_comm 1]
      simp
    rw [List.cons_append, wireFrom_cons, wireFrom_cons, ih, List.append_assoc, shifted]
    rfl

theorem junkFollowed_valid (packets : List Packet) : JunkFollowed (packets.map .valid) := by
  induction packets with
  | nil => trivial
  | cons p rest ih => exact ih

theorem packets_of_valid (packets : List Packet) :
    (packets.map Item.valid).filterMap Item.packet? = packets := by
  induction packets with
  | nil => rfl
  | cons p rest ih => exact congrArg (p :: ·) ih

/-- From a parser that holds no part of a frame, all of the packets and nothing else. -/
theorem feed_wireFrom (seq : UInt8) (packets : List Packet) (stats : Stats) :
    FrameParser.feed ⟨[], stats⟩ (wireFrom seq packets) =
      (⟨[], { stats with frames := stats.frames + packets.length }⟩, numbered seq packets) := by
  have back := drain_stream (packets.map .valid) (junkFollowed_valid packets) seq stats []
  rw [packets_of_valid] at back
  have clean : (packets.map Item.valid).countP Item.isCorrupted = 0 := by
    simp [List.countP_eq_zero, Item.isCorrupted]
  have noJunk : ((packets.map Item.valid).map Item.junkBytes).sum = 0 := by
    simp [Function.comp_def, Item.junkBytes, List.map_const']
  rw [clean, noJunk] at back
  exact back

/-- What the packets of one sender are to a fresh parser, however they are cut. -/
theorem feedAll_wireFrom (seq : UInt8) (packets : List Packet) (pieces : List (List UInt8))
    (cut : pieces.flatten = wireFrom seq packets) :
    frameConsumer.feedAll {} pieces =
      (⟨[], ⟨packets.length, 0, 0⟩⟩, numbered seq packets) := by
  have whole : frameConsumer.feed {} (wireFrom seq packets) =
      (⟨[], ⟨0 + packets.length, 0, 0⟩⟩, numbered seq packets) := feed_wireFrom seq packets {}
  rw [frameConsumer_resumable.feedAll_flatten {} .empty pieces, cut, whole, Nat.zero_add]

/-! ### A first part of a stream -/

theorem numbered_append (seq : UInt8) (packets more : List Packet) :
    numbered seq (packets ++ more) =
      numbered seq packets ++ numbered (seq + UInt8.ofNat packets.length) more := by
  have shifted (i : Nat) : seq + UInt8.ofNat (i + packets.length) =
      seq + UInt8.ofNat packets.length + UInt8.ofNat i := by
    rw [UInt8.add_assoc, Nat.add_comm]
    simp
  simp only [numbered, List.mapIdx_append, shifted]

/-- Whole frames under any numbers give just these. -/
theorem feed_wires (frames : List Sent) (stats : Stats) :
    (FrameParser.feed ⟨[], stats⟩ (wires frames)).2 = frames.map Sent.frame :=
  drain_wires frames stats []

theorem feed_first_wires (frames : List Sent) (stats : Stats) {bytes : List UInt8}
    (first : bytes <+: wires frames) :
    (FrameParser.feed ⟨[], stats⟩ bytes).2 <+: frames.map Sent.frame := by
  rw [← feed_wires frames stats]
  exact frameConsumer_resumable.feed_isPrefix ⟨[], stats⟩ first

/-- Packets with the numbers they go out under. -/
def sentFrom : UInt8 → List Packet → List Sent
  | _, [] => []
  | seq, packet :: rest => { packet with seq } :: sentFrom (seq + 1) rest

theorem numbered_cons (seq : UInt8) (p : Packet) (rest : List Packet) :
    numbered seq (p :: rest) = p.decoded seq :: numbered (seq + 1) rest := by
  have split : numbered seq (p :: rest) = p.decoded (seq + 0) :: numbered (seq + 1) rest :=
    numbered_append seq [p] rest
  rwa [UInt8.add_zero] at split

theorem sentFrom_frame (seq : UInt8) (packets : List Packet) :
    (sentFrom seq packets).map Sent.frame = numbered seq packets := by
  induction packets generalizing seq with
  | nil => rfl
  | cons p rest ih =>
    rw [numbered_cons, ← ih]
    rfl

theorem sentFrom_packet (seq : UInt8) (packets : List Packet) :
    (sentFrom seq packets).map Sent.toPacket = packets := by
  induction packets generalizing seq with
  | nil => rfl
  | cons p rest ih => exact congrArg (p :: ·) (ih (seq + 1))

theorem wires_append (frames more : List Sent) : wires (frames ++ more) = wires frames ++ wires more := by
  simp [wires]

theorem wires_sentFrom (seq : UInt8) (packets : List Packet) :
    wires (sentFrom seq packets) = wireFrom seq packets := by
  induction packets generalizing seq with
  | nil => rfl
  | cons p rest ih =>
    rw [wireFrom_cons, ← ih]
    rfl

/-- Bytes that begin like the packets hold the first ones of their frames. -/
theorem feed_first (seq : UInt8) (packets : List Packet) (stats : Stats) {bytes : List UInt8}
    (first : bytes <+: wireFrom seq packets) :
    (FrameParser.feed ⟨[], stats⟩ bytes).2 <+: numbered seq packets := by
  rw [← wires_sentFrom] at first
  rw [← sentFrom_frame]
  exact feed_first_wires _ stats first

end Mhost.Proto
