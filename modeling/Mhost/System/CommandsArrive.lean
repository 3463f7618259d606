import Mhost.App.Authority
import Mhost.Tools.SimulatorRuns

/-!
# What the host encodes, as the board takes it

FrameCodec.cc:296-353 and mock_board.cc:219-289. The encoders of the host against the decoders of
the board, through the frame and whatever cuts the line makes.
-/
namespace Mhost.System
open Proto App Tools.Simulator

/-- The raw speed that `packCmdVel` sends for one wheel. -/
def rpmRaw (fl : Floats) (r : F32) : UInt16 :=
  let r := if fl.less kMaxRpm r then kMaxRpm else r
  let r := if fl.less r kMinRpm then kMinRpm else r
  UInt16.ofInt (fl.lroundTenfold r)

/-- What the board makes of a speed command of the host. -/
def driveTargets (ar : Arith) (fl : Floats) : Drive → Vector F32 3
  | .twist v =>
      (Kinematics.make ar).twistToWheels ar (getElem v 0 first_lt) (getElem v 1 second_lt)
        (getElem v 2 third_lt)
  | .rpm v => v.map fun r => ar.div (ar.ofInt (rpmRaw fl r).toInt16.toInt) ⟨0x41200000⟩

/-! ### Payloads -/

theorem packCmdVel_eq (fl : Floats) (v : Vector F32 3) :
    packCmdVel fl v = (v.toList.map (rpmRaw fl)).flatMap putU16 := by
  rw [List.flatMap_map]
  rfl

theorem packCmdVel_length (fl : Floats) (v : Vector F32 3) : (packCmdVel fl v).length = 6 := by
  simp [packCmdVel, putU16, List.map_const']

theorem packCmdTwist_eq (v : Vector F32 3) :
    packCmdTwist v = v.toList.flatMap fun x => Tools.pushWord x.bits := by
  have same : putF32 = fun x : F32 => Tools.pushWord x.bits := funext fun x => (Tools.pushWord_eq x.bits).symm
  rw [packCmdTwist, same]

theorem packCmdTwist_length (v : Vector F32 3) : (packCmdTwist v).length = 12 := by
  simp [packCmdTwist, putF32, putU32, List.map_const']

theorem velTargets_packed (ar : Arith) (fl : Floats) (v : Vector F32 3) (seq : UInt8)
    (fits : (packCmdVel fl v).length ≤ kMaxPayload) :
    MockBoard.velTargets ar (Frame.ofBytes ptCmdVel seq (packCmdVel fl v) fits) =
      driveTargets ar fl (.rpm v) := by
  apply Vector.ext
  intro i inside
  have read := getU16_halves (v.toList.map (rpmRaw fl)) [] i (by simpa using inside)
  rw [List.append_nil, ← packCmdVel_eq] at read
  have room : 2 * i + 1 < kMaxPayload := by
    simp only [kMaxPayload]
    omega
  simp [MockBoard.velTargets, driveTargets, Frame.ofBytes, getI16, getU16_copyPayload _ room, read]

theorem twistTargets_packed (ar : Arith) (fl : Floats) (v : Vector F32 3) (seq : UInt8)
    (fits : (packCmdTwist v).length ≤ kMaxPayload) :
    MockBoard.twistTargets ar (Frame.ofBytes ptCmdTwist seq (packCmdTwist v) fits) =
      driveTargets ar fl (.twist v) := by
  have word (k : Nat) (inside : k < 3) : getF32 (copyPayload (packCmdTwist v)).toList (4 * k) = v[k] := by
    have read := Tools.getU32_run v F32.bits [] k inside (by simp only [kMaxPayload]; omega)
    rw [List.append_nil, ← packCmdTwist_eq] at read
    rw [getF32, read]
  have first := word 0 (by decide)
  have second := word 1 (by decide)
  have third := word 2 (by decide)
  simp only [Nat.mul_zero, Nat.mul_one, Nat.reduceMul] at first second third
  simp only [MockBoard.twistTargets, driveTargets, Frame.ofBytes, first, second, third]

theorem gains_packed (kp ki kd : F32) (seq : UInt8)
    (fits : (packCmdPid kp ki kd).length ≤ kMaxPayload) :
    let p := (Frame.ofBytes ptCmdPid seq (packCmdPid kp ki kd) fits).payload.toList
    getF32 p 0 = kp ∧ getF32 p 4 = ki := by
  have words : packCmdPid kp ki kd = [kp.bits, ki.bits, kd.bits].flatMap putU32 := by
    simp [packCmdPid, putF32]
  have read (k : Nat) (inside : k < 3) : getU32 (copyPayload (packCmdPid kp ki kd)).toList (4 * k) =
      [kp.bits, ki.bits, kd.bits][k] := by
    have found := getU32_words [kp.bits, ki.bits, kd.bits] [] k inside
    rw [List.append_nil, ← words] at found
    rw [getU32_copyPayload _ (by simp only [kMaxPayload]; omega), found]
  have first := read 0 (by decide)
  have second := read 1 (by decide)
  simp only [Nat.mul_zero, Nat.mul_one] at first second
  constructor
  · simp only [getF32, Frame.ofBytes, first]
    rfl
  · simp only [getF32, Frame.ofBytes, second]
    rfl

/-! ### Frames -/

section
variable (ar : Arith) (fl : Floats) (seq : UInt8) (now : F64) (b : MockBoard)

theorem handle_vel (v : Vector F32 3) (fits : (packCmdVel fl v).length ≤ kMaxPayload) :
    b.handle ar now (Frame.ofBytes ptCmdVel seq (packCmdVel fl v) fits) =
      b.drive ar (driveTargets ar fl (.rpm v)) now := by
  have type : (Frame.ofBytes ptCmdVel seq (packCmdVel fl v) fits).type = ptCmdVel := rfl
  rw [← velTargets_packed ar fl v seq fits]
  unfold MockBoard.handle
  rw [if_pos type, if_neg (by simp [Frame.ofBytes, packCmdVel_length])]

theorem handle_twist (v : Vector F32 3) (fits : (packCmdTwist v).length ≤ kMaxPayload) :
    b.handle ar now (Frame.ofBytes ptCmdTwist seq (packCmdTwist v) fits) =
      b.drive ar (driveTargets ar fl (.twist v)) now := by
  have long : ¬ (Frame.ofBytes ptCmdTwist seq (packCmdTwist v) fits).len ≠ 12 := by
    simp [Frame.ofBytes, packCmdTwist_length]
  have type : (Frame.ofBytes ptCmdTwist seq (packCmdTwist v) fits).type = ptCmdTwist := rfl
  rw [← twistTargets_packed ar fl v seq fits]
  unfold MockBoard.handle
  rw [type]
  simp (disch := decide) only [if_neg, if_pos]
  rw [if_neg long]

theorem handle_stop : b.handle ar now (Frame.ofBytes ptCmdStop seq [] (Nat.zero_le _)) =
    { b with mode := 0, motors := b.motors.map MotorSim.brake } := by
  have type : (Frame.ofBytes ptCmdStop seq [] (Nat.zero_le _)).type = ptCmdStop := rfl
  unfold MockBoard.handle
  rw [type]
  simp (disch := decide) only [if_neg, if_pos]

theorem handle_en (on : Bool) (fits : (packCmdEn on).length ≤ kMaxPayload) :
    b.handle ar now (Frame.ofBytes ptCmdEn seq (packCmdEn on) fits) =
      if on then { b with driverEn := true }
      else { b with driverEn := false, mode := 0, motors := b.motors.map MotorSim.rest } := by
  have type : (Frame.ofBytes ptCmdEn seq (packCmdEn on) fits).type = ptCmdEn := rfl
  have one : ¬ (Frame.ofBytes ptCmdEn seq (packCmdEn on) fits).len ≠ 1 := by
    simp [Frame.ofBytes, packCmdEn]
  have byte : (Frame.ofBytes ptCmdEn seq (packCmdEn on) fits).payload.toList.getD 0 0 =
      if on then 1 else 0 :=
    copyPayload_getD (packCmdEn on) (by decide)
  unfold MockBoard.handle
  rw [type, byte]
  simp (disch := decide) only [if_neg, if_pos]
  rw [if_neg one]
  cases on <;> rfl

theorem handle_pid (kp ki kd : F32) (fits : (packCmdPid kp ki kd).length ≤ kMaxPayload) :
    b.handle ar now (Frame.ofBytes ptCmdPid seq (packCmdPid kp ki kd) fits) =
      { b with kp, ki, motors := b.motors.map fun m => { m with kp, ki } } := by
  have type : (Frame.ofBytes ptCmdPid seq (packCmdPid kp ki kd) fits).type = ptCmdPid := rfl
  have twelve : ¬ (Frame.ofBytes ptCmdPid seq (packCmdPid kp ki kd) fits).len ≠ 12 := by
    simp [Frame.ofBytes, packCmdPid, putF32, putU32]
  obtain ⟨first, second⟩ := gains_packed kp ki kd seq fits
  unfold MockBoard.handle
  rw [type]
  simp (disch := decide) only [if_neg, if_pos]
  rw [if_neg twelve, first, second]

theorem handle_sign (sign : Vector Bool 3) (fits : (packCmdSign sign).length ≤ kMaxPayload) :
    b.handle ar now (Frame.ofBytes ptCmdSign seq (packCmdSign sign) fits) = b := by
  have type : (Frame.ofBytes ptCmdSign seq (packCmdSign sign) fits).type = ptCmdSign := rfl
  unfold MockBoard.handle
  rw [type]
  simp (disch := decide) only [if_neg, if_pos]

theorem handle_ping (tMs : UInt32) (fits : (packPing tMs).length ≤ kMaxPayload) :
    b.handle ar now (Frame.ofBytes ptCmdPing seq (packPing tMs) fits) =
      b.send ptCmdPing (packPing tMs) := by
  have type : (Frame.ofBytes ptCmdPing seq (packPing tMs) fits).type = ptCmdPing := rfl
  unfold MockBoard.handle
  rw [type, Frame.ofBytes_bytes]
  simp (disch := decide) only [if_neg, if_pos]

end

/-- Each of the seven commands, packed under any number, cut anywhere on the line and found by the
board's parser, does to the board what the simulator makes of it: a speed command sets the targets to
the set-points that were encoded, STOP brakes, EN switches the driver and rests the motors where it
switches it off, PID sets both gains on the board and on every motor, SIGN changes nothing, and
PING is answered with its own payload. -/
theorem commands_arrive (ar : Arith) (fl : Floats) (now : F64) (b : MockBoard) :
    (∀ v, Arrives ptCmdTwist (packCmdTwist v) fun f =>
      b.handle ar now f = b.drive ar (driveTargets ar fl (.twist v)) now) ∧
    (∀ v, Arrives ptCmdVel (packCmdVel fl v) fun f =>
      b.handle ar now f = b.drive ar (driveTargets ar fl (.rpm v)) now) ∧
    (Arrives ptCmdStop [] fun f =>
      b.handle ar now f = { b with mode := 0, motors := b.motors.map MotorSim.brake }) ∧
    (∀ on, Arrives ptCmdEn (packCmdEn on) fun f =>
      b.handle ar now f = if on then { b with driverEn := true }
        else { b with driverEn := false, mode := 0, motors := b.motors.map MotorSim.rest }) ∧
    (∀ kp ki kd, Arrives ptCmdPid (packCmdPid kp ki kd) fun f =>
      b.handle ar now f = { b with kp, ki, motors := b.motors.map fun m => { m with kp, ki } }) ∧
    (∀ sign, Arrives ptCmdSign (packCmdSign sign) fun f => b.handle ar now f = b) ∧
    ∀ tMs, Arrives ptCmdPing (packPing tMs) fun f =>
      b.handle ar now f = b.send ptCmdPing (packPing tMs) := by
  refine ⟨fun v => ?_, fun v => ?_, ?_, fun on => ?_, fun kp ki kd => ?_, fun sign => ?_, fun tMs => ?_⟩
  · exact arrives _ _ (by rw [packCmdTwist_length]; decide) _ fun seq =>
      handle_twist ar fl seq now b v _
  · exact arrives _ _ (by rw [packCmdVel_length]; decide) _ fun seq =>
      handle_vel ar fl seq now b v _
  · exact arrives _ _ (by decide) _ fun seq => handle_stop ar seq now b
  · exact arrives _ _ (by simp [packCmdEn, kMaxPayload]) _ fun seq => handle_en ar seq now b on _
  · exact arrives _ _ (by simp [packCmdPid, putF32, putU32, kMaxPayload]) _ fun seq =>
      handle_pid ar seq now b kp ki kd _
  · exact arrives _ _ (by simp [packCmdSign, kMaxPayload]) _ fun seq => handle_sign ar seq now b sign _
  · exact arrives _ _ (by simp [packPing, putU32, kMaxPayload]) _ fun seq => handle_ping ar seq now b tMs _

end Mhost.System
