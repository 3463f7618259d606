import Mhost.System.MotionEndToEnd
import Mhost.System.TwoWay

/-!
# Telemetry from end to end

mock_board.cc:158-214 with FrameCodec.cc:180-241 and ChassisHost.cc:672-721, in the runs of both. What
the host shows of the board is the state that one of its beats left, and that of the latest beat
once the host has read everything.
-/
namespace Mhost.System.TwoWay
open Library (Text)
open Proto App Serial Tools Tools.Simulator

variable {w : World} {ar : Arith} {t : TwoWay}

/-! ### The state of the board in the host's terms -/

/-- A tenth of what is sent, which is ten times the speed. -/
def encOf (ar : Arith) (b : Simulator.MockBoard) : EncData :=
  ⟨b.motors.map (·.count),
    Vector.ofFn fun k =>
      let speed := (getElem b.motors k (place_lt k)).speed
      ⟨Int16.ofInt (ar.lroundf (ar.mul speed ⟨0x41200000⟩)), 10⟩,
    0, false⟩

theorem acc_lt (k : Fin 3) : k.val < 9 := by omega

theorem gyro_lt (k : Fin 3) : 3 + k.val < 9 := by omega

theorem angle_lt (k : Fin 3) : 6 + k.val < 9 := by omega

def imuOf (ar : Arith) (b : Simulator.MockBoard) : ImuData :=
  let raw := Simulator.MockBoard.imuRaw ar (b.gz ar) (ar.add b.yaw (ar.mul (b.gz ar) ⟨0x3CA3D70A⟩))
  ⟨Vector.ofFn fun k => ⟨getElem raw k.val (acc_lt k), 1000⟩,
    Vector.ofFn fun k => ⟨getElem raw (3 + k.val) (gyro_lt k), 100⟩,
    Vector.ofFn fun k => ⟨getElem raw (6 + k.val) (angle_lt k), 100⟩⟩

def odomOf (ar : Arith) (b : Simulator.MockBoard) : OdomData :=
  let v := b.twistNow ar
  let passed := fun rate => ar.mul rate ⟨0x3CA3D70A⟩
  let vx := getElem v 0 first_lt
  let vy := getElem v 1 second_lt
  let wz := getElem v 2 third_lt
  ⟨vx, vy, wz, ar.add b.x (passed vx), ar.add b.y (passed vy), ar.add b.yawOdom (passed wz)⟩

def statusOf (b : Simulator.MockBoard) : StatusData :=
  ⟨UInt8.ofNat (b.txCount / 50 % 256), 0, 1, if b.driverEn then 1 else 0, UInt8.ofNat b.mode,
    if b.conReady then 1 else 0, true⟩

/-! ### Frames of a beat -/

theorem arrived {type : UInt8} {payload : List UInt8} {decodes : Frame → Prop}
    (arrives : Arrives type payload decodes) (fits : payload.length ≤ kMaxPayload) (seq : UInt8) :
    decodes (Packet.decoded ⟨type, payload, fits⟩ seq) := by
  have cut : [(packFrame type payload (some seq)).1].flatten = (packFrame type payload (some seq)).1 := by
    simp
  obtain ⟨f, found, _, _, holds⟩ := arrives (some seq) {} _ cut
  have whole := feedAll_wireFrom seq [⟨type, payload, fits⟩] [(packFrame type payload (some seq)).1]
    (cut.trans (List.append_nil _).symm)
  have one : numbered seq [⟨type, payload, fits⟩] = [Packet.decoded ⟨type, payload, fits⟩ seq] := by
    simp [numbered]
  have same := congrArg Prod.snd (found.symm.trans whole)
  rw [one] at same
  rw [← (List.cons.inj same).1]
  exact holds

theorem readings_enc (b : Simulator.MockBoard) (seq : UInt8) (tel : Telemetry) :
    ChassisHost.readings ((encPacket ar b).decoded seq) tel =
      { tel with enc := encOf ar b, haveEnc := true } := by
  have parsed := arrived (parseEnc_encData (b.motors.map (·.count))
    (b.motors.map fun m => Int16.ofInt (ar.lroundf (ar.mul m.speed ⟨0x41200000⟩)))) (enc_fits _ _) seq
  have type : ((encPacket ar b).decoded seq).type = ptEncData := rfl
  have same : parseEnc ((encPacket ar b).decoded seq) = some (encOf ar b) := by
    refine parsed.trans ?_
    simp [encOf, Vector.get]
  rw [ChassisHost.readings, type, if_neg (by decide), ChassisHost.onReading, type, if_pos rfl, same]

theorem readings_imu (b : Simulator.MockBoard) (seq : UInt8) (tel : Telemetry) :
    ChassisHost.readings ((imuPacket ar b).decoded seq) tel =
      { tel with imu := imuOf ar b, haveImu := true } := by
  have parsed := arrived (parseImu_imuData (Simulator.MockBoard.imuRaw ar (b.gz ar)
    (ar.add b.yaw (ar.mul (b.gz ar) ⟨0x3CA3D70A⟩)))) (imu_fits _) seq
  have type : ((imuPacket ar b).decoded seq).type = ptImuData := rfl
  have same : parseImu ((imuPacket ar b).decoded seq) = some (imuOf ar b) := parsed
  rw [ChassisHost.readings, type, if_neg (by decide), ChassisHost.onReading, type, if_neg (by decide),
    if_pos rfl, same]

theorem readings_odom (b : Simulator.MockBoard) (seq : UInt8) (tel : Telemetry) :
    ChassisHost.readings ((odomPacket ar b).decoded seq) tel =
      { tel with odom := odomOf ar b, haveOdom := true } := by
  have type : ((odomPacket ar b).decoded seq).type = ptOdomData := rfl
  have same : parseOdom ((odomPacket ar b).decoded seq) = some (odomOf ar b) :=
    arrived (parseOdom_odomData (odometry ar b)) (odom_fits _) seq
  rw [ChassisHost.readings, type, if_neg (by decide), ChassisHost.onReading, type, if_neg (by decide),
    if_neg (by decide), if_neg (by decide), if_pos rfl, same]

theorem readings_status (b : Simulator.MockBoard) (seq : UInt8) (tel : Telemetry) :
    ChassisHost.readings ((statusPacket b).decoded seq) tel = { tel with status := statusOf b } := by
  have type : ((statusPacket b).decoded seq).type = ptStatus := rfl
  have same : parseStatus ((statusPacket b).decoded seq) = some (statusOf b) :=
    arrived (parseStatus_statusData _ _ _ _ _ _) (by simp [statusData, kMaxPayload]) seq
  rw [ChassisHost.readings, type, if_pos rfl, same]

/-- Answers leave the readings alone. -/
theorem readings_answer {p : Packet} (answer : isAnswer p = true) (seq : UInt8) (tel : Telemetry) :
    ChassisHost.readings (p.decoded seq) tel = tel := by
  have type : (p.decoded seq).type = ptCmdPing ∨ (p.decoded seq).type = ptCon := of_decide_eq_true answer
  have other : (p.decoded seq).type ≠ ptStatus := by
    rcases type with type | type <;> rw [type] <;> decide
  rw [ChassisHost.readings, if_neg other, ChassisHost.onReading_other type.symm]

/-! ### Readings come from beats -/

/-- What is shown of the board is what some of its beats left. -/
structure Reported (ar : Arith) (beats : List Simulator.MockBoard) (tel : Telemetry) : Prop where
  enc : tel.haveEnc = true → ∃ b ∈ beats, tel.enc = encOf ar b
  imu : tel.haveImu = true → ∃ b ∈ beats, tel.imu = imuOf ar b
  odom : tel.haveOdom = true → ∃ b ∈ beats, tel.odom = odomOf ar b
  telem : tel.haveTelem = false
  status : tel.status = ({} : Telemetry).status ∨
    ∃ b ∈ beats, b.txCount % 50 = 0 ∧ tel.status = statusOf b

theorem mem_report {b : Simulator.MockBoard} {p : Packet} (member : p ∈ report ar b) :
    p = encPacket ar b ∨ p = imuPacket ar b ∨ p = odomPacket ar b ∨
      b.txCount % 50 = 0 ∧ p = statusPacket b := by
  unfold report at member
  split at member
  next fiftieth => simpa [fiftieth, or_assoc] using member
  next => simpa [*] using member

theorem Reported.next {beats : List Simulator.MockBoard} {tel : Telemetry}
    (reported : Reported ar beats tel) {p : Packet}
    (origin : isAnswer p = true ∨ ∃ b ∈ beats, p ∈ report ar b) (seq : UInt8) :
    Reported ar beats (ChassisHost.readings (p.decoded seq) tel) := by
  rcases origin with answer | ⟨b, listed, member⟩
  · rw [readings_answer answer]
    exact reported
  · rcases mem_report member with rfl | rfl | rfl | ⟨fiftieth, rfl⟩
    · rw [readings_enc]
      exact ⟨fun _ => ⟨b, listed, rfl⟩, reported.imu, reported.odom, reported.telem, reported.status⟩
    · rw [readings_imu]
      exact ⟨reported.enc, fun _ => ⟨b, listed, rfl⟩, reported.odom, reported.telem, reported.status⟩
    · rw [readings_odom]
      exact ⟨reported.enc, reported.imu, fun _ => ⟨b, listed, rfl⟩, reported.telem, reported.status⟩
    · rw [readings_status]
      exact ⟨reported.enc, reported.imu, reported.odom, reported.telem,
        .inr ⟨b, listed, fiftieth, rfl⟩⟩

/-- Everything the host has handled is an answer or of the report of a beat that was taken. -/
theorem Hears.origin {old : List Frame} {stats : Stats} {out pending : List Packet}
    {before since : List Sent} (hears : Hears ar t old stats out pending before since) {f : Frame}
    (member : f ∈ t.taken) :
    ∃ p seq, f = Packet.decoded p seq ∧ (isAnswer p = true ∨ ∃ b ∈ t.told, p ∈ report ar b) := by
  obtain ⟨sent, listed, rfl⟩ := List.mem_map.mp (hears.sublist.subset member)
  refine ⟨sent.toPacket, sent.seq, rfl, ?_⟩
  cases answer : isAnswer sent.toPacket with
  | true => exact .inl rfl
  | false =>
    have unasked : sent.toPacket ∈ ((before ++ since).map Sent.toPacket).filter fun p => !isAnswer p :=
      List.mem_filter.mpr ⟨List.mem_map_of_mem listed, by simp [answer]⟩
    rw [hears.told] at unasked
    exact .inr (List.mem_flatMap.mp unasked)

/-! ### The latest beat -/

/-- All of them are what one beat left. -/
structure Shows (ar : Arith) (b : Simulator.MockBoard) (tel : Telemetry) : Prop where
  haveEnc : tel.haveEnc = true
  haveImu : tel.haveImu = true
  haveOdom : tel.haveOdom = true
  enc : tel.enc = encOf ar b
  imu : tel.imu = imuOf ar b
  odom : tel.odom = odomOf ar b
  status : b.txCount % 50 = 0 → tel.status = statusOf b

/-- What a watcher is told of a beat. -/
def lineOf (w : World) (ar : Arith) (b : Simulator.MockBoard) : ChassisHost.Reading → Option Text
  | .odom => some (ChassisHost.odomLine w (odomOf ar b))
  | .enc => some (ChassisHost.encLine w (encOf ar b))
  | .imu => some (ChassisHost.imuLine w (imuOf ar b))
  | .telem => none
  | .status => some (ChassisHost.statusLine (statusOf b))

theorem Shows.line {b : Simulator.MockBoard} {tel : Telemetry} (shows : Shows ar b tel)
    (none : tel.haveTelem = false) {k : ChassisHost.Reading} (due : k = .status → b.txCount % 50 = 0) :
    k.shown w tel = lineOf w ar b k := by
  cases k with
  | odom => rw [ChassisHost.Reading.shown, if_pos shows.haveOdom, shows.odom]; rfl
  | enc => rw [ChassisHost.Reading.shown, if_pos shows.haveEnc, shows.enc]; rfl
  | imu => rw [ChassisHost.Reading.shown, if_pos shows.haveImu, shows.imu]; rfl
  | telem => rw [ChassisHost.Reading.shown, none]; rfl
  | status => rw [ChassisHost.Reading.shown, shows.status (due rfl)]; rfl

end Mhost.System.TwoWay
