import Mathlib.Algebra.Field.Rat
import Mhost.Proto.FrameStream
import Mhost.Proto.PayloadCodec

/-!
# From an encoder through the wire to a decoder

FrameCodec.cc:51-93, 178-241, 280-292 and 336-353. Words written low byte first are read back at
their offsets, the parser's payload array starts with the bytes that were packed, and a packed
frame that is cut anywhere comes out of the parser as one frame.
-/
namespace Mhost.Proto

/-! ### Words -/

/-- The four bytes that `getU32` reads. -/
def wordRead (a b c d : UInt8) : UInt32 :=
  a.toUInt32 ||| (b.toUInt32 <<< 8) ||| (c.toUInt32 <<< 16) ||| (d.toUInt32 <<< 24)

theorem wordRead_toNat (a b c d : UInt8) :
    (wordRead a b c d).toNat =
      a.toNat + 2 ^ 8 * b.toNat + 2 ^ 16 * c.toNat + 2 ^ 24 * d.toNat := by
  have ha := a.toNat_lt
  have hb := b.toNat_lt
  have hc := c.toNat_lt
  have hd := d.toNat_lt
  have shifted (byte : UInt8) (k : Nat) (small : k ≤ 24) :
      (byte.toNat <<< k) % 2 ^ 32 = 2 ^ k * byte.toNat := by
    have wide : byte.toNat * 2 ^ k < 2 ^ 8 * 2 ^ k :=
      Nat.mul_lt_mul_of_pos_right byte.toNat_lt (Nat.two_pow_pos k)
    have fits : 2 ^ 8 * 2 ^ k ≤ 2 ^ 32 := by
      rw [← Nat.pow_add]
      exact Nat.pow_le_pow_right (by decide) (by omega)
    rw [Nat.shiftLeft_eq, Nat.mod_eq_of_lt (Nat.lt_of_lt_of_le wide fits), Nat.mul_comm]
  have second : a.toNat ||| 2 ^ 8 * b.toNat = a.toNat + 2 ^ 8 * b.toNat := by
    rw [Nat.or_comm, ← Nat.two_pow_add_eq_or_of_lt ha, Nat.add_comm]
  have third : (a.toNat + 2 ^ 8 * b.toNat) ||| 2 ^ 16 * c.toNat =
      a.toNat + 2 ^ 8 * b.toNat + 2 ^ 16 * c.toNat := by
    rw [Nat.or_comm, ← Nat.two_pow_add_eq_or_of_lt (by omega), Nat.add_comm]
  have fourth : (a.toNat + 2 ^ 8 * b.toNat + 2 ^ 16 * c.toNat) ||| 2 ^ 24 * d.toNat =
      a.toNat + 2 ^ 8 * b.toNat + 2 ^ 16 * c.toNat + 2 ^ 24 * d.toNat := by
    rw [Nat.or_comm, ← Nat.two_pow_add_eq_or_of_lt (by omega), Nat.add_comm]
  have eight : (8 : UInt32).toNat % 32 = 8 := rfl
  have sixteen : (16 : UInt32).toNat % 32 = 16 := rfl
  have twentyFour : (24 : UInt32).toNat % 32 = 24 := rfl
  simp only [wordRead, UInt32.toNat_or, UInt8.toNat_toUInt32, UInt32.toNat_shiftLeft, eight,
    sixteen, twentyFour, shifted _ 8 (by decide), shifted _ 16 (by decide),
    shifted _ 24 (by decide), second, third, fourth]

theorem wordRead_bytes (x : UInt32) :
    wordRead (x &&& 0xFF).toUInt8 ((x >>> 8) &&& 0xFF).toUInt8 ((x >>> 16) &&& 0xFF).toUInt8
      ((x >>> 24) &&& 0xFF).toUInt8 = x := by
  have bound := x.toNat_lt
  apply UInt32.toNat_inj.mp
  rw [wordRead_toNat]
  simp [low_byte, Nat.shiftRight_eq_div_pow]
  omega

theorem getU32_append (before rest : List UInt8) (i : Nat) :
    getU32 (before ++ rest) (before.length + i) = getU32 rest i := by
  simp [getU32, List.getD_eq_getElem?_getD, List.getElem?_append_right, Nat.add_assoc]

theorem getU16_append (before rest : List UInt8) (i : Nat) :
    getU16 (before ++ rest) (before.length + i) = getU16 rest i := by
  simp [getU16, List.getD_eq_getElem?_getD, List.getElem?_append_right, Nat.add_assoc]

theorem getU32_putU32 (x : UInt32) (rest : List UInt8) : getU32 (putU32 x ++ rest) 0 = x :=
  wordRead_bytes x

theorem getU16_putU16 (x : UInt16) (rest : List UInt8) : getU16 (putU16 x ++ rest) 0 = x :=
  crcRead_bytes x

/-- The words of a run stand four bytes apart. -/
theorem getU32_words (words : List UInt32) (rest : List UInt8) (k : Nat) (inside : k < words.length) :
    getU32 (words.flatMap putU32 ++ rest) (4 * k) = words[k] := by
  induction words generalizing k with
  | nil => simp at inside
  | cons x more ih =>
    rw [List.flatMap_cons, List.append_assoc]
    cases k with
    | zero => exact getU32_putU32 x _
    | succ k =>
      have next := getU32_append (putU32 x) (more.flatMap putU32 ++ rest) (4 * k)
      have size : (putU32 x).length + 4 * k = 4 * (k + 1) := by
        simp only [putU32, List.length_cons, List.length_nil]
        omega
      rw [size] at next
      rw [next, ih k (by simpa using inside)]
      rfl

theorem getU16_halves (halves : List UInt16) (rest : List UInt8) (k : Nat)
    (inside : k < halves.length) :
    getU16 (halves.flatMap putU16 ++ rest) (2 * k) = halves[k] := by
  induction halves generalizing k with
  | nil => simp at inside
  | cons x more ih =>
    rw [List.flatMap_cons, List.append_assoc]
    cases k with
    | zero => exact getU16_putU16 x _
    | succ k =>
      have next := getU16_append (putU16 x) (more.flatMap putU16 ++ rest) (2 * k)
      have size : (putU16 x).length + 2 * k = 2 * (k + 1) := by
        simp only [putU16, List.length_cons, List.length_nil]
        omega
      rw [size] at next
      rw [next, ih k (by simpa using inside)]
      rfl

/-- What the source divides as floats, as an exact quotient. -/
def Scaled.quotient (s : Scaled) : ℚ := s.raw.toInt / s.divisor

theorem Scaled.quotient_eq (s : Scaled) : s.quotient = s.raw.toInt * (1 / s.divisor) :=
  (mul_one_div _ _).symm

/-! ### The payload array -/

theorem getU32_copyPayload (source : List UInt8) {i : Nat} (inside : i + 3 < kMaxPayload) :
    getU32 (copyPayload source).toList i = getU32 source i := by
  simp only [getU32, copyPayload_getD source (show i < kMaxPayload by omega),
    copyPayload_getD source (show i + 1 < kMaxPayload by omega),
    copyPayload_getD source (show i + 2 < kMaxPayload by omega), copyPayload_getD source inside]

theorem getU16_copyPayload (source : List UInt8) {i : Nat} (inside : i + 1 < kMaxPayload) :
    getU16 (copyPayload source).toList i = getU16 source i := by
  simp only [getU16, copyPayload_getD source (show i < kMaxPayload by omega),
    copyPayload_getD source inside]

/-! ### The wire -/

/-- Packed under a sequence number, cut anywhere and fed to a parser that holds no bytes, the
payload comes out as one frame of its type, for which `decodes` holds. -/
def Arrives (type : UInt8) (payload : List UInt8) (decodes : Frame → Prop) : Prop :=
  ∀ (seq : Option UInt8) (stats : Stats) (pieces : List (List UInt8)),
    pieces.flatten = (packFrame type payload seq).1 →
    ∃ f, frameConsumer.feedAll ⟨[], stats⟩ pieces =
        (⟨[], { stats with frames := stats.frames + 1 }⟩, [f]) ∧
      f.type = type ∧ f.seq = seq.getD 0 ∧ decodes f

theorem arrives (type : UInt8) (payload : List UInt8) (fits : payload.length ≤ kMaxPayload)
    (decodes : Frame → Prop)
    (decoded : ∀ seq, decodes (Frame.ofBytes type seq payload fits)) :
    Arrives type payload decodes := by
  intro seq stats pieces cut
  let packet : Packet := ⟨type, payload, fits⟩
  refine ⟨packet.decoded (seq.getD 0), ?_, rfl, rfl, decoded _⟩
  have whole : frameConsumer.feed ⟨[], stats⟩ pieces.flatten =
      FrameParser.drain ⟨pieces.flatten, stats⟩ [] := rfl
  have sent : (packFrame type payload seq).1 = packet.encode (seq.getD 0) ++ [] := by
    rw [List.append_nil]
    rfl
  rw [frameConsumer_resumable.feedAll_flatten _ .empty pieces, whole, cut, sent, drain_packet,
    drain_leave _ _ _ (round_residual [] _ .empty), List.nil_append]

theorem Arrives.mono {type : UInt8} {payload : List UInt8} {decodes weaker : Frame → Prop}
    (arrive : Arrives type payload decodes) (weaken : ∀ f, decodes f → weaker f) :
    Arrives type payload weaker := by
  intro seq stats pieces cut
  obtain ⟨f, fed, typed, numbered, decoded⟩ := arrive seq stats pieces cut
  exact ⟨f, fed, typed, numbered, weaken f decoded⟩

/-! ### Ping and CON -/

theorem parsePing_packPing (t : UInt32) :
    Arrives ptCmdPing (packPing t) fun f => parsePing f = some t := by
  refine arrives _ _ (by simp [packPing, putU32, kMaxPayload]) _ fun seq => ?_
  have value : getU32 (copyPayload (packPing t)).toList 0 = t := by
    rw [getU32_copyPayload _ (by decide), ← List.append_nil (packPing t)]
    exact getU32_putU32 t []
  have size : (packPing t).length = 4 := rfl
  show (if (packPing t).length ≠ 4 then none
    else some (getU32 (copyPayload (packPing t)).toList 0)) = some t
  rw [if_neg (not_not.mpr size), value]

theorem unpackCon_ofBytes (type seq : UInt8) (m : ConMsgType) (sender : UInt8)
    (fits : (packCon m sender).length ≤ kMaxPayload) :
    unpackCon (Frame.ofBytes type seq (packCon m sender) fits) = some (sender, m.toByte) := by
  have known : ¬ ConMsgType.pingResponse.toByte < m.toByte := by cases m <;> decide
  have byte (i : Nat) (inside : i < kMaxPayload) :
      (copyPayload (packCon m sender)).toList.getD i 0 = (packCon m sender).getD i 0 :=
    copyPayload_getD _ inside
  simp only [unpackCon, Frame.ofBytes, byte 0 (by decide), byte 1 (by decide), byte 2 (by decide),
    byte 3 (by decide)]
  simp [packCon, kConPayloadSize, known]

theorem unpackCon_packCon (m : ConMsgType) (sender : UInt8) :
    Arrives ptCon (packCon m sender) fun f => unpackCon f = some (sender, m.toByte) :=
  arrives _ _ (by simp [packCon, kMaxPayload]) _ fun seq => unpackCon_ofBytes ptCon seq m sender _

/-- The first four bytes of a payload array, one by one. -/
theorem bytes_four (f : Frame) (four : f.len = 4) :
    f.bytes = [f.payload.toList.getD 0 0, f.payload.toList.getD 1 0, f.payload.toList.getD 2 0,
      f.payload.toList.getD 3 0] := by
  have size : f.payload.toList.length = 32 := Vector.length_toList
  rw [Frame.bytes, four]
  rcases eq : f.payload.toList with _ | ⟨a, _ | ⟨b, _ | ⟨c, _ | ⟨d, rest⟩⟩⟩⟩
  case cons.cons.cons.cons => rfl
  all_goals
    rw [eq] at size
    simp at size

theorem toByte_onto {b : UInt8} (known : ¬ ConMsgType.pingResponse.toByte < b) :
    ∃ m : ConMsgType, m.toByte = b := by
  have small : b.toNat ≤ 5 := UInt8.le_iff_toNat_le.mp (UInt8.not_lt.mp known)
  have back : UInt8.ofNat b.toNat = b := UInt8.ofNat_toNat
  rw [← back]
  match b.toNat, small with
  | 0, _ => exact ⟨.enableRequest, rfl⟩
  | 1, _ => exact ⟨.enableResponse, rfl⟩
  | 2, _ => exact ⟨.disableRequest, rfl⟩
  | 3, _ => exact ⟨.disableResponse, rfl⟩
  | 4, _ => exact ⟨.pingRequest, rfl⟩
  | 5, _ => exact ⟨.pingResponse, rfl⟩

/-- What `unpackCon` accepts is what `packCon` makes. -/
theorem unpackCon_accepts (f : Frame) (sender msgType : UInt8)
    (accepted : unpackCon f = some (sender, msgType)) :
    ∃ m : ConMsgType, m.toByte = msgType ∧ f.bytes = packCon m sender := by
  simp only [unpackCon] at accepted
  split at accepted
  next => cases accepted
  next checks =>
    simp only [not_or, not_not] at checks
    obtain ⟨size, type, known, version⟩ := checks
    cases accepted
    obtain ⟨m, byte⟩ := toByte_onto known
    refine ⟨m, byte, ?_⟩
    rw [bytes_four f size, packCon, byte, type, version]

end Mhost.Proto
