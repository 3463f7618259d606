import Mhost.Library.ShiftRegister
import Mhost.Proto.FrameAccounting

/-!
# Which errors the frame CRC detects

FrameCodec.cc:34-47, 106-110 and 164-174. `crc16Modbus` is a shift register for `0xA001`, fed with
the covered bytes, least significant bit first; `packFrame` appends the register low byte first, so
in the same bit order. Hence what the register says of remainders holds of covered bytes and CRC
together, for messages of any length.
-/
namespace Mhost.Proto
open Library.ShiftRegister

/-- The covered bytes and their CRC, as `packFrame` writes them. -/
def withCrc (covered : List UInt8) : List UInt8 :=
  let crc := crc16Modbus covered
  covered ++ [(crc &&& 0xFF).toUInt8, ((crc >>> 8) &&& 0xFF).toUInt8]

/-- Bit `i` in transmission order, the least significant bit of a byte first. -/
def bitAt (bytes : List UInt8) (i : Nat) : Bool := (bytes.getD (i / 8) 0).toBitVec.getLsbD (i % 8)

/-- The positions in which two strings of one length differ. -/
def flipped (x y : List UInt8) : List Nat :=
  (List.range (8 * x.length)).filter fun i => bitAt x i ^^ bitAt y i

/-- All within 16 consecutive positions. -/
def OneBurst (positions : List Nat) : Prop := ∃ start, ∀ i ∈ positions, start ≤ i ∧ i < start + 16

/-- An odd number of flips, or one burst of at most 16 bits. -/
def Damaged (positions : List Nat) : Prop :=
  positions.length % 2 = 1 ∨ positions ≠ [] ∧ OneBurst positions

/-! ### The loop over the bytes is the register -/

def polynomial : BitVec 16 := 0xA001#16

def byteBits (byte : UInt8) : List Bool := bitsOf byte.toBitVec

def bits (bytes : List UInt8) : List Bool := bytes.flatMap byteBits

theorem bits_cons (byte : UInt8) (rest : List UInt8) :
    bits (byte :: rest) = byteBits byte ++ bits rest := List.flatMap_cons

@[simp] theorem byteBits_length (byte : UInt8) : (byteBits byte).length = 8 := by
  simp [byteBits, bitsOf]

theorem crcBit_shift (crc : UInt16) : (crcBit crc).toBitVec = shift polynomial crc.toBitVec := by
  have low : (crc &&& 1).toBitVec = (BitVec.ofBool (crc.toBitVec.getLsbD 0)).setWidth 16 :=
    BitVec.and_one_eq_setWidth_ofBool_getLsbD
  have out : crc &&& 1 ≠ 0 ↔ crc.toBitVec.getLsbD 0 = true := by
    rw [ne_eq, ← UInt16.toBitVec_inj, low]
    cases crc.toBitVec.getLsbD 0 <;> decide
  unfold crcBit shift
  simp only [out]
  split <;> simp [polynomial]

theorem crcByte_run (crc : UInt16) (byte : UInt8) :
    (crcByte crc byte).toBitVec = run polynomial crc.toBitVec (byteBits byte) := by
  have entered : (crc ^^^ byte.toUInt16).toBitVec = crc.toBitVec ^^^ load (byteBits byte) := by
    have loaded : byte.toUInt16.toBitVec = load (byteBits byte) := by
      apply BitVec.eq_of_getLsbD_eq
      intro i inside
      rw [getLsbD_load _ i inside, UInt8.toBitVec_toUInt16, BitVec.getLsbD_setWidth]
      by_cases low : i < 8
      · simp [byteBits, bitsOf, inside, low]
      · rw [BitVec.getLsbD_of_ge _ _ (by omega), List.getD_eq_getElem?_getD,
          List.getElem?_eq_none (by simpa using low)]
        simp
    rw [UInt16.toBitVec_xor, loaded]
  have idle (s : UInt16) :
      (crcBit s).toBitVec = clock polynomial s.toBitVec false := by
    rw [crcBit_shift, clock, enter, if_neg (by simp), BitVec.xor_zero]
  rw [run_load _ _ _ (by simp), ← entered, byteBits_length]
  simp only [crcByte, Nat.repeat, idle, run, List.replicate, List.foldl_cons, List.foldl_nil]

theorem crc_run (crc : UInt16) (data : List UInt8) :
    (data.foldl crcByte crc).toBitVec = run polynomial crc.toBitVec (bits data) := by
  induction data generalizing crc with
  | nil => rfl
  | cons byte rest ih =>
    rw [List.foldl_cons, ih, crcByte_run, bits_cons, run_append]

/-- The low byte of a register, and whatever stands above it masked off. -/
theorem byteBits_masked (crc : UInt16) :
    byteBits (crc &&& 0xFF).toUInt8 = (List.range 8).map crc.toBitVec.getLsbD := by
  apply List.map_congr_left
  intro i inside
  have inside : i < 8 := List.mem_range.mp inside
  have mask : (0xFF#16).getLsbD i = true := by
    have all : ∀ i < 8, (0xFF#16).getLsbD i = true := by decide
    exact all i inside
  show ((crc.toBitVec &&& 0xFF#16).setWidth 8).getLsbD i = crc.toBitVec.getLsbD i
  rw [BitVec.getLsbD_setWidth, BitVec.getLsbD_and, mask]
  simp [inside]

/-- The two CRC bytes are the bits of the register, in the order in which they are sent. -/
theorem bits_crc (crc : UInt16) :
    bits [(crc &&& 0xFF).toUInt8, ((crc >>> 8) &&& 0xFF).toUInt8] = bitsOf crc.toBitVec := by
  have high : (crc >>> 8).toBitVec.getLsbD = crc.toBitVec.getLsbD ∘ fun i => 8 + i := by
    funext i
    show (crc.toBitVec >>> 8).getLsbD i = crc.toBitVec.getLsbD (8 + i)
    rw [BitVec.getLsbD_ushiftRight]
  rw [bits_cons, bits_cons, byteBits_masked, byteBits_masked, high, bitsOf,
    List.range_add (n := 8) (m := 8), List.map_append, List.map_map]
  simp [bits]

/-- Covered bytes and CRC together leave nothing in the register. -/
theorem withCrc_run (covered : List UInt8) :
    run polynomial (0xFFFF : UInt16).toBitVec (bits (withCrc covered)) = 0#16 := by
  have appended : bits (withCrc covered) = bits covered ++ bitsOf (crc16Modbus covered).toBitVec := by
    rw [← bits_crc]
    exact List.flatMap_append
  rw [appended, crc16Modbus, crc_run, run_remainder]

/-! ### Positions -/

theorem bits_eq_range (bytes : List UInt8) :
    bits bytes = (List.range (8 * bytes.length)).map (bitAt bytes) := by
  induction bytes with
  | nil => rfl
  | cons byte rest ih =>
    have first : byteBits byte = (List.range 8).map (bitAt (byte :: rest)) := by
      apply List.map_congr_left
      intro i inside
      have inside : i < 8 := List.mem_range.mp inside
      simp [bitAt, Nat.div_eq_of_lt inside, Nat.mod_eq_of_lt inside]
    have later : bitAt rest = fun i => bitAt (byte :: rest) (8 + i) := by
      funext i
      have turn : (8 + i) / 8 = i / 8 + 1 := by omega
      simp [bitAt, turn]
    rw [List.length_cons, Nat.mul_succ, Nat.add_comm, List.range_add, List.map_append,
      List.map_map, ← first, bits_cons, ih, later]
    rfl

theorem differences_eq_range (x y : List UInt8) (size : x.length = y.length) :
    differences (bits x) (bits y) =
      (List.range (8 * x.length)).map fun i => bitAt x i ^^ bitAt y i := by
  rw [bits_eq_range x, bits_eq_range y, ← size, differences]
  apply List.ext_getElem
  · simp
  · intro i inside within
    simp

theorem flipped_count (x y : List UInt8) (size : x.length = y.length) :
    (flipped x y).length = (differences (bits x) (bits y)).count true := by
  rw [differences_eq_range x y size, List.count, List.countP_map, List.countP_eq_length_filter,
    flipped]
  congr 2
  funext i
  simp

theorem mem_flipped (x y : List UInt8) (size : x.length = y.length) (i : Nat) :
    i ∈ flipped x y ↔ (differences (bits x) (bits y))[i]? = some true := by
  rw [differences_eq_range x y size, flipped, List.mem_filter, List.getElem?_map, List.mem_range]
  by_cases inside : i < 8 * x.length
  · simp [inside]
  · simp [inside]

theorem eq_of_flipped_nil (x y : List UInt8) (size : x.length = y.length)
    (same : flipped x y = []) : x = y := by
  have agree (i : Nat) (inside : i < 8 * x.length) : bitAt x i = bitAt y i := by
    have all := List.filter_eq_nil_iff.mp same i (List.mem_range.mpr inside)
    simpa using all
  apply List.ext_getElem size
  intro k inX inY
  apply UInt8.toBitVec_inj.mp
  apply BitVec.eq_of_getLsbD_eq
  intro j inside
  have byte : (8 * k + j) / 8 = k := by omega
  have bit : (8 * k + j) % 8 = j := by omega
  have here := agree (8 * k + j) (by omega)
  rw [bitAt, bitAt, byte, bit] at here
  simpa [inX, inY] using here

/-! ### What goes undetected -/

/-- The comparison of `feed` is equality with what `packFrame` would have sent. -/
theorem compared_withCrc (covered : List UInt8) (lo hi : UInt8)
    (passed : crc16Modbus covered = crcRead lo hi) : covered ++ [lo, hi] = withCrc covered := by
  obtain ⟨low, high⟩ := bytes_crcRead lo hi
  rw [withCrc, passed, low, high]

/-- The differences of two strings that both leave nothing leave nothing. -/
theorem differences_run (a b : List UInt8) (size : a.length = b.length) :
    run polynomial 0#16 (differences (bits (withCrc a)) (bits (withCrc b))) = 0#16 := by
  have sizes : (bits (withCrc a)).length = (bits (withCrc b)).length := by
    rw [bits_eq_range, bits_eq_range]
    simp [withCrc, size]
  have linear := run_differences polynomial (0xFFFF : UInt16).toBitVec (0xFFFF : UInt16).toBitVec
    _ _ sizes
  rwa [withCrc_run, withCrc_run, BitVec.xor_self, BitVec.xor_self] at linear

theorem undetected_even (a b : List UInt8) (size : a.length = b.length) :
    (flipped (withCrc a) (withCrc b)).length % 2 = 0 := by
  rw [flipped_count _ _ (by simp [withCrc, size])]
  exact odd_remains polynomial (by decide) (by decide) _ (differences_run a b size)

theorem undetected_spread (a b : List UInt8) (size : a.length = b.length)
    (burst : OneBurst (flipped (withCrc a) (withCrc b))) :
    flipped (withCrc a) (withCrc b) = [] := by
  have sizes : (withCrc a).length = (withCrc b).length := by simp [withCrc, size]
  obtain ⟨start, window⟩ := burst
  have clear := window_remains polynomial (by decide) _ start
    (fun i on => window i ((mem_flipped _ _ sizes i).mpr on)) (differences_run a b size)
  exact List.eq_nil_iff_forall_not_mem.mpr fun i member =>
    clear i ((mem_flipped _ _ sizes i).mp member)

theorem damaged_rejected (a b : List UInt8) (size : a.length = b.length) (lo hi : UInt8)
    (damaged : Damaged (flipped (withCrc a) (b ++ [lo, hi]))) :
    crc16Modbus b ≠ crcRead lo hi := by
  intro passed
  rw [compared_withCrc b lo hi passed] at damaged
  rcases damaged with odd | ⟨flips, burst⟩
  · have even := undetected_even a b size
    omega
  · exact flips (undetected_spread a b size burst)

/-- Two different strings with their CRCs differ in an even number of positions, which no 16
consecutive positions hold. So an odd number of flips or a short burst never passes the
comparison of `feed`: a frame of `packFrame` so damaged behind its head, its length kept, is
counted as a CRC error. -/
theorem crc_detects (a b : List UInt8) (size : a.length = b.length) :
    (withCrc a ≠ withCrc b →
      (flipped (withCrc a) (withCrc b)).length % 2 = 0 ∧
        ¬ OneBurst (flipped (withCrc a) (withCrc b))) ∧
      (∀ lo hi, Damaged (flipped (withCrc a) (b ++ [lo, hi])) → crc16Modbus b ≠ crcRead lo hi) ∧
      ∀ type payload seq, (packFrame type payload seq).1 = kHead0 :: kHead1 :: withCrc a →
        ∀ type' len seq' payload' lo hi rest stats, b = type' :: len :: seq' :: payload' →
          payload'.length = len.toNat → payload'.length ≤ kMaxPayload →
          Damaged (flipped ((packFrame type payload seq).1.drop 2) (b ++ [lo, hi])) →
          FrameParser.atHead ⟨kHead0 :: kHead1 :: b ++ lo :: hi :: rest, stats⟩ =
            .again ⟨rest, { stats with crcErr := stats.crcErr + 1 }⟩ none := by
  refine ⟨fun differ => ⟨undetected_even a b size, fun burst => differ ?_⟩,
    damaged_rejected a b size, ?_⟩
  · exact eq_of_flipped_nil _ _ (by simp [withCrc, size]) (undetected_spread a b size burst)
  · intro type payload seq sent type' len seq' payload' lo hi rest stats covered whole fits damaged
    rw [sent] at damaged
    have wrong := damaged_rejected a b size lo hi damaged
    subst covered
    have turn := atHead_whole type' len seq' lo hi payload' rest stats whole fits
    rw [if_neg wrong] at turn
    exact turn

/-- Two stop commands that differ in their sequence numbers, and the second one with the CRC of
the first. -/
theorem crc_detects_stop :
    let a : List UInt8 := [ptCmdStop, 0, 6]
    let b : List UInt8 := [ptCmdStop, 0, 7]
    ((flipped (withCrc a) (withCrc b)).length % 2 = 0 ∧
      ¬ OneBurst (flipped (withCrc a) (withCrc b))) ∧
      withCrc a = a ++ [0x51, 0xEA] ∧ crc16Modbus b ≠ crcRead 0x51 0xEA := by
  intro a b
  have detects := crc_detects a b rfl
  have flips : flipped (withCrc a) (b ++ [0x51, 0xEA]) = [16] := by decide +kernel
  exact ⟨detects.1 (by simp [withCrc, a, b]), by decide +kernel,
    detects.2.1 _ _ (.inl (by rw [flips]; rfl))⟩

end Mhost.Proto
