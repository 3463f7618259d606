import Mhost.Proto.PayloadRoundtrip

/-!
# The telemetry the simulated board sends

The encoders in `MockBoard::pump` (mock_board.cc:161-209), against the decoders of
FrameCodec.cc:180-241. The simulation that supplies the values is left out: a count is any
`int32`, a reading any `int16`, a float any bit pattern. FrameDefs.h:28 describes an ENC payload
of 22 bytes, which is the board's with a `u32` after it.
-/
namespace Mhost.Tools
open Proto

/-! ### Encoders -/

/-- `for (int b = 0; b < 4; ++b) push_back((c >> (8 * b)) & 0xFF)`. -/
def pushWord (c : UInt32) : List UInt8 :=
  (List.range 4).map fun b => ((c >>> UInt32.ofNat (8 * b)) &&& 0xFF).toUInt8

/-- The two bytes of an `int16`, which is promoted to `int` before it is shifted and masked. -/
def pushHalf (r : Int16) : List UInt8 :=
  [(r.toInt32 &&& 0xFF).toUInt32.toUInt8, ((r.toInt32 >>> 8) &&& 0xFF).toUInt32.toUInt8]

def encData (count : Vector Int32 3) (rpm : Vector Int16 3) : List UInt8 :=
  count.toList.flatMap (fun c => pushWord c.toUInt32) ++ rpm.toList.flatMap pushHalf

/-- The 22-byte form. -/
def encDataTimed (count : Vector Int32 3) (rpm : Vector Int16 3) (tMs : UInt32) : List UInt8 :=
  encData count rpm ++ pushWord tMs

def imuData (imuRaw : Vector Int16 9) : List UInt8 := imuRaw.toList.flatMap pushHalf

def odomData (odomVals : Vector F32 6) : List UInt8 :=
  odomVals.toList.flatMap fun v => pushWord v.bits

def statusData (uptime rsv imuOk en mode con : UInt8) : List UInt8 :=
  [uptime, rsv, imuOk, en, mode, con]

/-! ### Both programs write the same bytes -/

theorem pushWord_eq (c : UInt32) : pushWord c = putU32 c := by
  simp [pushWord, putU32, List.range_succ]

theorem pushHalf_eq (r : Int16) : pushHalf r = putU16 r.toUInt16 := by
  have low : (r.toInt32 &&& 0xFF).toUInt32.toUInt8 = (r.toUInt16 &&& 0xFF).toUInt8 := by
    apply UInt8.toBitVec_inj.mp
    ext i inside
    have inHalf : i < 16 := by omega
    have inWord : i < 32 := by omega
    simp [BitVec.getElem_signExtend, inHalf, inWord]
  have high : ((r.toInt32 >>> 8) &&& 0xFF).toUInt32.toUInt8 =
      ((r.toUInt16 >>> 8) &&& 0xFF).toUInt8 := by
    apply UInt8.toBitVec_inj.mp
    ext i inside
    have inHalf : 8 + i < 16 := by omega
    have inWord : 8 + i < 32 := by omega
    have small : ¬ 32 ≤ i := by omega
    simp [BitVec.getLsbD_sshiftRight, BitVec.getElem_signExtend, inHalf, inWord, small]
  rw [pushHalf, putU16, low, high]

/-- A run of readings as the halves that are written. -/
theorem flatMap_pushHalf (raws : List Int16) :
    raws.flatMap pushHalf = (raws.map Int16.toUInt16).flatMap putU16 := by
  have same : pushHalf = fun r => putU16 r.toUInt16 := funext pushHalf_eq
  rw [List.flatMap_map, same]

theorem flatMap_pushWord {α : Type} (values : List α) (bits : α → UInt32) :
    values.flatMap (fun v => pushWord (bits v)) = (values.map bits).flatMap putU32 := by
  have same : pushWord = putU32 := funext pushWord_eq
  rw [List.flatMap_map, same]

/-! ### Reading a run back -/

/-- Entry `k` of a run of words at the front of the payload. -/
theorem getU32_run {α : Type} {n : Nat} (values : Vector α n) (bits : α → UInt32)
    (rest : List UInt8) (k : Nat) (inside : k < n) (room : 4 * k + 3 < kMaxPayload) :
    getU32 (copyPayload (values.toList.flatMap (fun v => pushWord (bits v)) ++ rest)).toList
      (4 * k) = bits values[k] := by
  rw [getU32_copyPayload _ room, flatMap_pushWord,
    getU32_words _ _ k (by simpa using inside)]
  simp

theorem getI16_run {n : Nat} (before : List UInt8) (raws : Vector Int16 n) (rest : List UInt8)
    (k : Nat) (inside : k < n) (room : before.length + 2 * k + 1 < kMaxPayload) :
    getI16 (copyPayload (before ++ (raws.toList.flatMap pushHalf ++ rest))).toList
      (before.length + 2 * k) = raws[k] := by
  rw [getI16, getU16_copyPayload _ room, getU16_append, flatMap_pushHalf,
    getU16_halves _ _ k (by simpa using inside)]
  simp

/-- Three readings in a row; `i` is where the first of them stands. -/
theorem getScaled3_run {n : Nat} (before : List UInt8) (raws : Vector Int16 n)
    (rest : List UInt8) (j i divisor : Nat) (starts : i = before.length + 2 * j)
    (inside : j + 3 ≤ n) (room : i + 6 ≤ kMaxPayload) :
    getScaled3 (copyPayload (before ++ (raws.toList.flatMap pushHalf ++ rest))).toList i divisor =
      Vector.ofFn fun k : Fin 3 => ⟨raws[j + k.val], divisor⟩ := by
  unfold getScaled3
  congr 1
  funext k
  have place : i + 2 * k.val = before.length + 2 * (j + k.val) := by omega
  rw [place, getI16_run before raws rest (j + k.val) (by omega) (by omega)]

@[simp] theorem pushWord_length (c : UInt32) : (pushWord c).length = 4 := rfl

@[simp] theorem pushHalf_length (r : Int16) : (pushHalf r).length = 2 := rfl

theorem counts_length (count : Vector Int32 3) :
    (count.toList.flatMap fun c => pushWord c.toUInt32).length = 12 := by
  simp [List.map_const']

theorem encData_length (count : Vector Int32 3) (rpm : Vector Int16 3) :
    (encData count rpm).length = 18 := by
  simp [encData, List.map_const']

theorem encDataTimed_length (count : Vector Int32 3) (rpm : Vector Int16 3) (tMs : UInt32) :
    (encDataTimed count rpm tMs).length = 22 := by
  simp [encDataTimed, encData_length]

theorem imuData_length (imuRaw : Vector Int16 9) : (imuData imuRaw).length = 18 := by
  simp [imuData, List.map_const']

theorem odomData_length (odomVals : Vector F32 6) : (odomData odomVals).length = 24 := by
  simp [odomData, List.map_const']

/-! ### ENC -/

/-- The counts and the readings of an ENC payload, whatever follows them. -/
theorem enc_fields (count : Vector Int32 3) (rpm : Vector Int16 3) (rest : List UInt8) :
    (Vector.ofFn fun k : Fin 3 => getI32 (copyPayload (encData count rpm ++ rest)).toList (4 * k.val)) =
      count ∧
    getScaled3 (copyPayload (encData count rpm ++ rest)).toList 12 10 =
      Vector.ofFn fun k : Fin 3 => ⟨rpm.get k, 10⟩ := by
  constructor
  · apply Vector.ext
    intro k inside
    rw [Vector.getElem_ofFn, encData, List.append_assoc, getI32,
      getU32_run count Int32.toUInt32 _ k inside (by simp only [kMaxPayload]; omega)]
    rfl
  · have read := getScaled3_run (count.toList.flatMap fun c => pushWord c.toUInt32) rpm rest 0 12 10
      (by rw [counts_length]) (by decide) (by decide)
    rw [encData, List.append_assoc, read]
    simp only [Nat.zero_add]
    rfl

theorem parseEnc_encData (count : Vector Int32 3) (rpm : Vector Int16 3) :
    Arrives ptEncData (encData count rpm) fun f =>
      parseEnc f = some ⟨count, Vector.ofFn fun k => ⟨rpm.get k, 10⟩, 0, false⟩ := by
  have size := encData_length count rpm
  refine arrives _ _ (by rw [size]; decide) _ fun seq => ?_
  obtain ⟨counts, readings⟩ := enc_fields count rpm []
  rw [List.append_nil] at counts readings
  simp [parseEnc, Frame.ofBytes, size, counts, readings]

theorem parseEnc_encDataTimed (count : Vector Int32 3) (rpm : Vector Int16 3) (tMs : UInt32) :
    Arrives ptEncData (encDataTimed count rpm tMs) fun f =>
      parseEnc f = some ⟨count, Vector.ofFn fun k => ⟨rpm.get k, 10⟩, tMs, true⟩ := by
  have size := encDataTimed_length count rpm tMs
  refine arrives _ _ (by rw [size]; decide) _ fun seq => ?_
  obtain ⟨counts, readings⟩ := enc_fields count rpm (pushWord tMs)
  have stamp : getU32 (copyPayload (encDataTimed count rpm tMs)).toList 18 = tMs := by
    have tail := getU32_append (encData count rpm) (putU32 tMs ++ []) 0
    rw [encData_length, getU32_putU32, List.append_nil, ← pushWord_eq] at tail
    rw [getU32_copyPayload _ (by decide)]
    exact tail
  simp only [encDataTimed] at stamp size ⊢
  simp [parseEnc, Frame.ofBytes, size, counts, readings, stamp]

/-! ### IMU, ODOM and STATUS -/

theorem parseImu_imuData (imuRaw : Vector Int16 9) :
    Arrives ptImuData (imuData imuRaw) fun f =>
      parseImu f = some
        ⟨Vector.ofFn fun k => ⟨imuRaw[k.val], 1000⟩, Vector.ofFn fun k => ⟨imuRaw[3 + k.val], 100⟩,
          Vector.ofFn fun k => ⟨imuRaw[6 + k.val], 100⟩⟩ := by
  have size := imuData_length imuRaw
  refine arrives _ _ (by rw [size]; decide) _ fun seq => ?_
  have run (j i divisor : Nat) (starts : i = 2 * j) (inside : j + 3 ≤ 9) :
      getScaled3 (copyPayload (imuData imuRaw)).toList i divisor =
        Vector.ofFn fun k : Fin 3 => ⟨imuRaw[j + k.val], divisor⟩ := by
    have read := getScaled3_run [] imuRaw [] j i divisor (by simpa using starts) inside
      (by simp only [kMaxPayload]; omega)
    rwa [List.append_nil, List.nil_append] at read
  have accel := run 0 0 1000 rfl (by decide)
  simp only [Nat.zero_add] at accel
  simp [parseImu, Frame.ofBytes, size, accel, run 3 6 100 rfl (by decide),
    run 6 12 100 rfl (by decide)]

theorem parseOdom_odomData (odomVals : Vector F32 6) :
    Arrives ptOdomData (odomData odomVals) fun f =>
      parseOdom f = some
        ⟨odomVals[0], odomVals[1], odomVals[2], odomVals[3], odomVals[4], odomVals[5]⟩ := by
  have size := odomData_length odomVals
  refine arrives _ _ (by rw [size]; decide) _ fun seq => ?_
  have value (k : Nat) (inside : k < 6) :
      getF32 (copyPayload (odomData odomVals)).toList (4 * k) = odomVals[k] := by
    have read := getU32_run odomVals F32.bits [] k inside (by simp only [kMaxPayload]; omega)
    rw [List.append_nil] at read
    rw [getF32, odomData, read]
  simp [parseOdom, Frame.ofBytes, size, value 0 (by decide), value 1 (by decide),
    value 2 (by decide), value 3 (by decide), value 4 (by decide), value 5 (by decide)]

theorem parseStatus_statusData (uptime rsv imuOk en mode con : UInt8) :
    Arrives ptStatus (statusData uptime rsv imuOk en mode con) fun f =>
      parseStatus f = some ⟨uptime, rsv, imuOk, en, mode, con, true⟩ := by
  refine arrives _ _ (by simp [statusData, kMaxPayload]) _ fun seq => ?_
  have byte (i : Nat) (inside : i < kMaxPayload) :=
    copyPayload_getD (statusData uptime rsv imuOk en mode con) inside
  simp only [parseStatus, Frame.ofBytes, byte 0 (by decide), byte 1 (by decide),
    byte 2 (by decide), byte 3 (by decide), byte 4 (by decide), byte 5 (by decide)]
  rfl

/-! ### Every codec -/

theorem get_ofFn {n : Nat} (f : Fin n → Scaled) (k : Fin n) : (Vector.ofFn f).get k = f k :=
  Vector.getElem_ofFn k.isLt

/-- What was encoded comes back at the other end of the wire, a scaled reading as the exact
product of its raw value and the documented scale. -/
theorem codecs_agree :
    (∀ tMs, Arrives ptCmdPing (packPing tMs) fun f => parsePing f = some tMs) ∧
    (∀ m sender, Arrives ptCon (packCon m sender) fun f => unpackCon f = some (sender, m.toByte)) ∧
    (∀ f sender msgType, unpackCon f = some (sender, msgType) →
      ∃ m : ConMsgType, m.toByte = msgType ∧ f.bytes = packCon m sender) ∧
    (∀ count rpm, Arrives ptEncData (encData count rpm) fun f => ∃ d, parseEnc f = some d ∧
      d.count = count ∧ (∀ k : Fin 3, (d.rpm.get k).quotient = (rpm.get k).toInt * (1 / 10)) ∧
      d.hasTs = false) ∧
    (∀ count rpm tMs, Arrives ptEncData (encDataTimed count rpm tMs) fun f =>
      ∃ d, parseEnc f = some d ∧ d.count = count ∧
        (∀ k : Fin 3, (d.rpm.get k).quotient = (rpm.get k).toInt * (1 / 10)) ∧
        d.hasTs = true ∧ d.tMs = tMs) ∧
    (∀ imuRaw, Arrives ptImuData (imuData imuRaw) fun f => ∃ d, parseImu f = some d ∧
      ∀ k : Fin 3, (d.accelG.get k).quotient = imuRaw[k.val].toInt * (1 / 1000) ∧
        (d.gyroDps.get k).quotient = imuRaw[3 + k.val].toInt * (1 / 100) ∧
        (d.rpyDeg.get k).quotient = imuRaw[6 + k.val].toInt * (1 / 100)) ∧
    (∀ odomVals, Arrives ptOdomData (odomData odomVals) fun f => parseOdom f = some
      ⟨odomVals[0], odomVals[1], odomVals[2], odomVals[3], odomVals[4], odomVals[5]⟩) ∧
    (∀ uptime rsv imuOk en mode con,
      Arrives ptStatus (statusData uptime rsv imuOk en mode con) fun f =>
        parseStatus f = some ⟨uptime, rsv, imuOk, en, mode, con, true⟩) := by
  refine ⟨parsePing_packPing, unpackCon_packCon, unpackCon_accepts, fun count rpm => ?_,
    fun count rpm tMs => ?_, fun imuRaw => ?_, parseOdom_odomData, parseStatus_statusData⟩
  · refine (parseEnc_encData count rpm).mono fun f parsed => ⟨_, parsed, rfl, fun k => ?_, rfl⟩
    simp only [get_ofFn, Scaled.quotient_eq]
    simp
  · refine (parseEnc_encDataTimed count rpm tMs).mono fun f parsed =>
      ⟨_, parsed, rfl, fun k => ?_, rfl, rfl⟩
    simp only [get_ofFn, Scaled.quotient_eq]
    simp
  · refine (parseImu_imuData imuRaw).mono fun f parsed => ⟨_, parsed, fun k => ?_⟩
    simp only [get_ofFn, Scaled.quotient_eq]
    simp

end Mhost.Tools
