import Mhost.Proto.FrameNumbering
import Mhost.Tools.SimulatorRuns

/-!
# What the simulated board writes

mock_board.cc:133-214, 265-268, 290-320. Telemetry and answers share `txBuf_` and one counter. Each
PING is echoed and each CON request of the host is answered, in the order in which they were handled;
the next beat hands everything out. A parser at the other end finds every frame.
-/
namespace Mhost.Tools.Simulator
open Proto Library

/-! ### Answers -/

theorem bytes_fit (f : Frame) : f.bytes.length ≤ kMaxPayload := by
  simp only [Frame.bytes, List.length_take]
  exact Nat.le_trans (Nat.min_le_left _ _) f.len_le

def conPacket (msgType : ConMsgType) : Packet :=
  ⟨ptCon, packCon msgType kConSenderBoard, by simp [packCon, kMaxPayload]⟩

/-- What the board sends back for a frame. -/
def answer? (f : Frame) : Option Packet :=
  if f.type = ptCmdPing then some ⟨ptCmdPing, f.bytes, bytes_fit f⟩
  else if f.type = ptCon then
    match unpackCon f with
    | none => none
    | some (sender, msgType) =>
        if sender ≠ kConSenderHost then none
        else ((ConMsgType.ofByte msgType).bind MockBoard.reply?).map conPacket
  else none

def isAnswer (p : Packet) : Bool := p.type = ptCmdPing ∨ p.type = ptCon

theorem enc_fits (count : Vector Int32 3) (rpm : Vector Int16 3) :
    (encData count rpm).length ≤ kMaxPayload := by
  rw [encData_length]
  decide

theorem imu_fits (imuRaw : Vector Int16 9) : (imuData imuRaw).length ≤ kMaxPayload := by
  rw [imuData_length]
  decide

theorem odom_fits (odomVals : Vector F32 6) : (odomData odomVals).length ≤ kMaxPayload := by
  rw [odomData_length]
  decide

/-! ### Telemetry -/

def encPacket (ar : Arith) (b : MockBoard) : Packet :=
  ⟨ptEncData, encData (b.motors.map (·.count))
    (b.motors.map fun m => Int16.ofInt (ar.lroundf (ar.mul m.speed ⟨0x41200000⟩))), enc_fits _ _⟩

def imuPacket (ar : Arith) (b : MockBoard) : Packet :=
  ⟨ptImuData,
    imuData (MockBoard.imuRaw ar (b.gz ar) (ar.add b.yaw (ar.mul (b.gz ar) ⟨0x3CA3D70A⟩))),
    imu_fits _⟩

/-- The speed over ground, and where it takes the board until the beat. -/
def odometry (ar : Arith) (b : MockBoard) : Vector F32 6 :=
  let v := b.twistNow ar
  let passed := fun rate => ar.mul rate ⟨0x3CA3D70A⟩
  let vx := getElem v 0 first_lt
  let vy := getElem v 1 second_lt
  let wz := getElem v 2 third_lt
  #v[vx, vy, wz, ar.add b.x (passed vx), ar.add b.y (passed vy), ar.add b.yawOdom (passed wz)]

def odomPacket (ar : Arith) (b : MockBoard) : Packet :=
  ⟨ptOdomData, odomData (odometry ar b), odom_fits _⟩

def statusPacket (b : MockBoard) : Packet :=
  ⟨ptStatus, statusData (UInt8.ofNat (b.txCount / 50 % 256)) 0 1 (if b.driverEn then 1 else 0)
    (UInt8.ofNat b.mode) (if b.conReady then 1 else 0), by simp [statusData, kMaxPayload]⟩

/-- The frames of one beat. -/
def report (ar : Arith) (b : MockBoard) : List Packet :=
  [encPacket ar b, imuPacket ar b, odomPacket ar b] ++
    if b.txCount % 50 = 0 then [statusPacket b] else []

theorem report_unasked (ar : Arith) (b : MockBoard) : ∀ p ∈ report ar b, isAnswer p = false := by
  intro p member
  unfold report at member
  split at member
  all_goals
    simp only [List.cons_append, List.nil_append, List.mem_cons, List.not_mem_nil, or_false] at member
    rcases member with rfl | rfl | rfl | rfl <;> rfl

theorem answer_isAnswer {f : Frame} {p : Packet} (answer : answer? f = some p) :
    isAnswer p = true := by
  unfold answer? at answer
  split at answer
  next => cases answer; rfl
  next =>
    split at answer
    next =>
      split at answer
      next => cases answer
      next =>
        split at answer
        next => cases answer
        next =>
          obtain ⟨_, _, rfl⟩ := Option.map_eq_some_iff.mp answer
          rfl
    next => cases answer

/-! ### The transmit buffer -/

/-- What the buffer and the counter owe to the packets that went in, after those handed out. -/
structure Queued (b : MockBoard) (out pending : List Packet) : Prop where
  seq : b.seq = UInt8.ofNat (out ++ pending).length
  txBuf : b.txBuf = wireFrom (UInt8.ofNat out.length) pending

namespace Queued
variable {b b' : MockBoard} {out pending : List Packet}

/-- Other members may change at will. -/
theorem same (queued : Queued b out pending) (seq : b'.seq = b.seq) (txBuf : b'.txBuf = b.txBuf) :
    Queued b' out pending :=
  ⟨seq.trans queued.seq, txBuf.trans queued.txBuf⟩

theorem send (queued : Queued b out pending) (p : Packet) :
    Queued (b.send p.type p.payload) out (pending ++ [p]) := by
  constructor
  · show b.seq + 1 = _
    rw [queued.seq]
    simp only [List.length_append, List.length_cons, List.length_nil]
    rw [← Nat.add_assoc]
    simp
  · show b.txBuf ++ p.encode b.seq = _
    rw [queued.txBuf, wireFrom_append, queued.seq]
    have place : UInt8.ofNat out.length + UInt8.ofNat pending.length =
        UInt8.ofNat (out ++ pending).length := by simp
    rw [place]
    show _ = _ ++ (p.encode _ ++ [])
    rw [List.append_nil]

theorem flush (queued : Queued b out pending) :
    b.flush.1 = wireFrom (UInt8.ofNat out.length) pending ∧
      Queued b.flush.2 (out ++ pending) [] := by
  refine ⟨queued.txBuf, ?_, rfl⟩
  rw [List.append_nil]
  exact queued.seq

end Queued

/-- The packets go into the buffer one after another. -/
def MockBoard.sendAll (b : MockBoard) (packets : List Packet) : MockBoard :=
  packets.foldl (fun b p => b.send p.type p.payload) b

theorem ofByte_other {msgType : UInt8} (enable : msgType ≠ ConMsgType.enableRequest.toByte)
    (disable : msgType ≠ ConMsgType.disableRequest.toByte)
    (ping : msgType ≠ ConMsgType.pingRequest.toByte) :
    (ConMsgType.ofByte msgType).bind MockBoard.reply? = none := by
  have notEnable : msgType ≠ 0 := enable
  have notDisable : msgType ≠ 2 := disable
  have notPing : msgType ≠ 4 := ping
  simp only [ConMsgType.ofByte, if_neg notEnable, if_neg notDisable, if_neg notPing]
  split
  · rfl
  · split
    · rfl
    · split <;> rfl

theorem handleCon_sends (now : F64) {f : Frame} (con : f.type = ptCon) (b : MockBoard) :
    (b.handleCon now f).seq = (b.sendAll (answer? f).toList).seq ∧
      (b.handleCon now f).txBuf = (b.sendAll (answer? f).toList).txBuf := by
  have notPing : f.type ≠ ptCmdPing := by rw [con]; decide
  unfold MockBoard.handleCon answer?
  rw [if_neg notPing, if_pos con]
  cases unpackCon f with
  | none => exact ⟨rfl, rfl⟩
  | some heard =>
    obtain ⟨sender, msgType⟩ := heard
    dsimp only
    by_cases foreign : sender ≠ kConSenderHost
    · rw [if_pos foreign, if_pos foreign]
      exact ⟨rfl, rfl⟩
    · rw [if_neg foreign, if_neg foreign]
      by_cases enable : msgType = ConMsgType.enableRequest.toByte
      · subst enable
        rw [if_pos rfl]
        exact ⟨rfl, rfl⟩
      · rw [if_neg enable]
        by_cases disable : msgType = ConMsgType.disableRequest.toByte
        · subst disable
          rw [if_pos rfl]
          exact ⟨rfl, rfl⟩
        · rw [if_neg disable]
          by_cases ping : msgType = ConMsgType.pingRequest.toByte
          · subst ping
            rw [if_pos rfl]
            exact ⟨rfl, rfl⟩
          · rw [if_neg ping, ofByte_other enable disable ping]
            exact ⟨rfl, rfl⟩

/-- Every frame puts its answer into the buffer, and nothing else. -/
theorem handle_sends (ar : Arith) (now : F64) (f : Frame) (b : MockBoard) :
    (b.handle ar now f).seq = (b.sendAll (answer? f).toList).seq ∧
      (b.handle ar now f).txBuf = (b.sendAll (answer? f).toList).txBuf := by
  have outcome := handle_cases ar now f b
  have silent (ping : f.type ≠ ptCmdPing) (con : f.type ≠ ptCon) : answer? f = none := by
    rw [answer?, if_neg ping, if_neg con]
  generalize b.handle ar now f = b' at outcome ⊢
  cases outcome with
  | drives moves =>
    rw [silent (motion_type moves).2.2.1 (motion_type moves).2.2.2]
    exact ⟨rfl, rfl⟩
  | stops stop =>
    rw [silent (by rw [stop]; decide) (by rw [stop]; decide)]
    exact ⟨rfl, rfl⟩
  | enables en | disables en =>
    rw [silent (by rw [enabling_type en]; decide) (by rw [enabling_type en]; decide)]
    exact ⟨rfl, rfl⟩
  | tunes kp ki pid =>
    rw [silent (by rw [pid]; decide) (by rw [pid]; decide)]
    exact ⟨rfl, rfl⟩
  | echoes ping =>
    rw [answer?, if_pos ping]
    exact ⟨rfl, rfl⟩
  | answers con => exact handleCon_sends now con b
  | ignores _ _ _ ping con =>
    rw [silent ping con]
    exact ⟨rfl, rfl⟩

theorem Queued.sendAll {b : MockBoard} {out pending : List Packet} (queued : Queued b out pending)
    (packets : List Packet) : Queued (b.sendAll packets) out (pending ++ packets) := by
  induction packets generalizing b pending with
  | nil => simpa [MockBoard.sendAll] using queued
  | cons p rest ih =>
    have next := ih (queued.send p)
    rwa [List.append_assoc] at next

theorem Queued.telemetry {b : MockBoard} {out pending : List Packet}
    (queued : Queued b out pending) (ar : Arith) :
    Queued (b.telemetry ar) out (pending ++ report ar b) := by
  have enc : Queued (b.sendEnc ar) out (pending ++ [encPacket ar b]) :=
    (queued.send (encPacket ar b)).same rfl rfl
  have imu : Queued ((b.sendEnc ar).sendImu ar) out (pending ++ [encPacket ar b] ++ [imuPacket ar b]) :=
    (enc.send (imuPacket ar b)).same rfl rfl
  have odom : Queued (((b.sendEnc ar).sendImu ar).sendOdom ar) out
      (pending ++ [encPacket ar b] ++ [imuPacket ar b] ++ [odomPacket ar b]) :=
    (imu.send (odomPacket ar b)).same rfl rfl
  unfold MockBoard.telemetry MockBoard.sendStatus report
  by_cases fiftieth : b.txCount % 50 = 0
  · have status := odom.send (statusPacket b)
    rw [if_pos (show (((b.sendEnc ar).sendImu ar).sendOdom ar).txCount % 50 = 0 from fiftieth),
      if_pos fiftieth]
    have order : pending ++ ([encPacket ar b, imuPacket ar b, odomPacket ar b] ++ [statusPacket b]) =
        pending ++ [encPacket ar b] ++ [imuPacket ar b] ++ [odomPacket ar b] ++ [statusPacket b] := by
      simp
    rw [order]
    exact status.same rfl rfl
  · rw [if_neg (show ¬ (((b.sendEnc ar).sendImu ar).sendOdom ar).txCount % 50 = 0 from fiftieth),
      if_neg fiftieth]
    simpa using odom

/-! ### The link's part of the board -/

/-- The board of the link is a part of this one. Its clock is in milliseconds, which stand for the
readings `clock`. -/
structure Covers (clock : Nat → F64) (b : MockBoard) (part : Tools.MockBoard) : Prop where
  conReady : b.conReady = part.conReady
  lastCon : b.lastCon = clock part.lastCon
  seq : b.seq = part.seq
  txBuf : b.txBuf = part.txBuf.flatMap fun f => (packFrame f.type f.bytes (some f.seq)).1

theorem Covers.sendCon {clock : Nat → F64} {b : MockBoard} {part : Tools.MockBoard}
    (covers : Covers clock b part) (msgType : ConMsgType) :
    Covers clock (b.sendCon msgType) (part.sendCon msgType) := by
  have bytes : (conFrame msgType kConSenderBoard part.seq).bytes = packCon msgType kConSenderBoard :=
    Frame.ofBytes_bytes ..
  refine ⟨covers.conReady, covers.lastCon, congrArg (· + 1) covers.seq, ?_⟩
  show b.txBuf ++ (packFrame ptCon (packCon msgType kConSenderBoard) (some b.seq)).1 = _
  rw [Tools.MockBoard.sendCon, List.flatMap_append, covers.txBuf, covers.seq, List.flatMap_singleton, bytes]
  rfl

/-- Both do the same about a CON frame. -/
theorem Covers.handleCon {clock : Nat → F64} {b : MockBoard} {part : Tools.MockBoard}
    (covers : Covers clock b part) (f : Frame) (now : Nat) :
    Covers clock (b.handleCon (clock now) f) (part.handleCon f now) := by
  unfold MockBoard.handleCon Tools.MockBoard.handleCon
  cases unpackCon f with
  | none => exact covers
  | some heard =>
    obtain ⟨sender, msgType⟩ := heard
    dsimp only
    by_cases foreign : sender ≠ kConSenderHost
    · rw [if_pos foreign, if_pos foreign]
      exact covers
    rw [if_neg foreign, if_neg foreign]
    by_cases enable : msgType = ConMsgType.enableRequest.toByte
    · rw [if_pos enable, if_pos enable]
      have sent := covers.sendCon .enableResponse
      exact ⟨rfl, rfl, sent.seq, sent.txBuf⟩
    rw [if_neg enable, if_neg enable]
    by_cases disable : msgType = ConMsgType.disableRequest.toByte
    · rw [if_pos disable, if_pos disable]
      have sent := covers.sendCon .disableResponse
      exact ⟨rfl, sent.lastCon, sent.seq, sent.txBuf⟩
    rw [if_neg disable, if_neg disable]
    by_cases ping : msgType = ConMsgType.pingRequest.toByte
    · rw [if_pos ping, if_pos ping]
      have sent := covers.sendCon .pingResponse
      exact ⟨rfl, rfl, sent.seq, sent.txBuf⟩
    · rw [if_neg ping, if_neg ping]
      exact covers

/-! ### Whole runs -/

/-- `out` was handed out and `pending`, answers all of them, waits in the buffer. -/
structure Owes (ar : Arith) (r : Rig) (out pending : List Packet) : Prop where
  queued : Queued r.board out pending
  waiting : ∀ p ∈ pending, isAnswer p = true
  written : r.written = wireFrom 0 out
  answers : (out ++ pending).filter isAnswer = r.handled.filterMap fun e => answer? e.2
  telemetry : ((out ++ pending).filter fun p => !isAnswer p) = r.beats.flatMap (report ar)

namespace Owes
variable {ar : Arith} {r : Rig} {out pending : List Packet}

theorem fresh : Owes ar {} [] [] := ⟨⟨rfl, rfl⟩, by simp, rfl, rfl, rfl⟩

theorem take (owes : Owes ar r out pending) (e : F64 × Frame) :
    Owes ar (r.take ar e) out (pending ++ (answer? e.2).toList) := by
  obtain ⟨seq, txBuf⟩ := handle_sends ar e.1 e.2 r.board
  refine ⟨(owes.queued.sendAll (answer? e.2).toList).same seq txBuf, fun p member => ?_, owes.written,
    ?_, ?_⟩
  · rcases List.mem_append.mp member with before | now
    · exact owes.waiting p before
    · exact answer_isAnswer (Option.mem_toList.mp now)
  · rw [← List.append_assoc, List.filter_append, owes.answers]
    cases answer : answer? e.2 with
    | none => simp [Rig.take, answer]
    | some p => simp [Rig.take, answer, answer_isAnswer answer]
  · rw [← List.append_assoc, List.filter_append, owes.telemetry]
    cases answer : answer? e.2 with
    | none => simp [Rig.take]
    | some p => simp [Rig.take, answer_isAnswer answer]

/-- `more` is what is handed out at this time: nothing, or what waited and then the report of the
beat. -/
structure Emits (ar : Arith) (r : Rig) (now : F64) (out more : List Packet) : Prop where
  bytes : (r.board.pump ar now).1 = wireFrom (UInt8.ofNat out.length) more
  unasked : (more.filter fun p => !isAnswer p) = (r.board.beat? ar now).flatMap (report ar)
  idle : r.board.beat? ar now = [] → more = []
  last : ∀ b ∈ r.board.beat? ar now, report ar b <:+ more

/-- A beat hands everything out. -/
theorem pump (owes : Owes ar r out pending) (now : F64) :
    ∃ more pending', Owes ar (r.doing ar (.pump now)) (out ++ more) pending' ∧
      Emits ar r now out more := by
  by_cases early : tooSoon ar (ar.sub64 now r.board.lastTx) = true
  · have none : r.board.beat? ar now = [] := if_pos early
    refine ⟨[], pending, ?_, ?_, ?_, fun _ => rfl, ?_⟩
    · rw [List.append_nil]
      simp only [Rig.doing, MockBoard.pump_early early, none, List.append_nil]
      exact ⟨owes.queued, owes.waiting, owes.written, owes.answers, owes.telemetry⟩
    · rw [MockBoard.pump_early early]
      rfl
    · rw [none]
      rfl
    · simp [none]
  · have timed : Queued (r.board.beaten ar now) out pending := by
      refine owes.queued.same ?_ ?_
      all_goals
        unfold MockBoard.beaten MockBoard.counted MockBoard.advance MockBoard.conWatchdog
          MockBoard.commandTimeout
        dsimp only
        split <;> split <;> rfl
    obtain ⟨bytes, queued⟩ := (timed.telemetry ar).flush
    have one : r.board.beat? ar now = [r.board.beaten ar now] := if_neg early
    have silent := report_unasked ar (r.board.beaten ar now)
    have all : ((report ar (r.board.beaten ar now)).filter fun p => !isAnswer p) =
        report ar (r.board.beaten ar now) :=
      List.filter_eq_self.mpr fun p member => by simp [silent p member]
    refine ⟨pending ++ report ar (r.board.beaten ar now), [], ⟨?_, by simp, ?_, ?_, ?_⟩, ?_, ?_, ?_, ?_⟩
    · simp only [Rig.doing, MockBoard.pump_late early]
      exact queued
    · simp only [Rig.doing, MockBoard.pump_late early]
      rw [bytes, owes.written, wireFrom_append 0 out, UInt8.zero_add]
    · have none : (report ar (r.board.beaten ar now)).filter isAnswer = [] :=
        List.filter_eq_nil_iff.mpr fun p member => by simp [silent p member]
      rw [List.append_nil, ← List.append_assoc, List.filter_append, owes.answers, none,
        List.append_nil]
      rfl
    · rw [List.append_nil, ← List.append_assoc, List.filter_append, owes.telemetry, all]
      simp only [Rig.doing, one, List.flatMap_append, List.flatMap_cons, List.flatMap_nil,
        List.append_nil]
    · rw [MockBoard.pump_late early]
      exact bytes
    · have waited : (pending.filter fun p => !isAnswer p) = [] :=
        List.filter_eq_nil_iff.mpr fun p member => by simp [owes.waiting p member]
      rw [List.filter_append, waited, all, one, List.nil_append, List.flatMap_singleton]
    · simp [one]
    · simp [one]

/-- Nothing is handed out meanwhile. -/
theorem feed (owes : Owes ar r out pending) (clock : Nat → F64) (data : List UInt8) :
    ∃ pending', Owes ar (r.doing ar (.feed clock data)) out pending' := by
  have parsed : Owes ar { r with board := { r.board with parser := (r.board.parser.feed data).1 } }
      out pending :=
    ⟨owes.queued.same rfl rfl, owes.waiting, owes.written, owes.answers, owes.telemetry⟩
  rw [Rig.doing_feed]
  exact List.foldlRecOn (motive := fun r' => ∃ pending', Owes ar r' out pending') _ _ ⟨pending, parsed⟩
    fun _ ⟨_, before⟩ e _ => ⟨_, before.take e⟩

end Owes

theorem run_owes (ar : Arith) (doings : List Doing) :
    ∃ out pending, Owes ar (Rig.run ar doings) out pending :=
  List.foldlRecOn (motive := fun r => ∃ out pending, Owes ar r out pending) doings _ ⟨[], [], .fresh⟩
    fun _ ⟨_, _, before⟩ d _ =>
      match d with
      | .feed clock data =>
          have ⟨_, owes⟩ := before.feed clock data
          ⟨_, _, owes⟩
      | .pump now =>
          have ⟨_, _, owes, _⟩ := before.pump now
          ⟨_, _, owes⟩

/-- In every run of the board, however the bytes that its beats hand out are cut on their way: the
parser of the host finds exactly the packets the board has sent, numbered without a gap,
and counts no error. What the board has sent or will send at its next beat is, for each frame of
the host that asks for one and in that order, one answer: the echo of a PING, the response to a
CON request; and for each beat and in that order the report of the state it left. -/
theorem board_stream (ar : Arith) (doings : List Doing) (pieces : List (List UInt8))
    (cut : pieces.flatten = (Rig.run ar doings).written) :
    ∃ out pending,
      frameConsumer.feedAll {} pieces = (⟨[], ⟨out.length, 0, 0⟩⟩, numbered 0 out) ∧
      (Rig.run ar doings).board.txBuf = wireFrom (UInt8.ofNat out.length) pending ∧
      (out ++ pending).filter isAnswer =
        (Rig.run ar doings).handled.filterMap (fun e => answer? e.2) ∧
      ((out ++ pending).filter fun p => !isAnswer p) =
        (Rig.run ar doings).beats.flatMap (report ar) := by
  obtain ⟨out, pending, owes⟩ := run_owes ar doings
  exact ⟨out, pending, feedAll_wireFrom 0 out pieces (cut.trans owes.written), owes.queued.txBuf,
    owes.answers, owes.telemetry⟩

/-- A PING and one beat; the bytes reach the host cut within the first head. -/
theorem board_stream_sample :
    ∃ out pending,
      frameConsumer.feedAll {}
          [(Rig.run bench [.feed (fun _ => monoNow bench 0 5) (packFrame ptCmdPing [1, 2] (some 7)).1,
            .pump (monoNow bench 0 30000000)]).written.take 1,
          (Rig.run bench [.feed (fun _ => monoNow bench 0 5) (packFrame ptCmdPing [1, 2] (some 7)).1,
            .pump (monoNow bench 0 30000000)]).written.drop 1] =
        (⟨[], ⟨out.length, 0, 0⟩⟩, numbered 0 out) ∧
      (Rig.run bench [.feed (fun _ => monoNow bench 0 5) (packFrame ptCmdPing [1, 2] (some 7)).1,
          .pump (monoNow bench 0 30000000)]).board.txBuf = wireFrom (UInt8.ofNat out.length) pending ∧
      (out ++ pending).filter isAnswer =
        (Rig.run bench [.feed (fun _ => monoNow bench 0 5) (packFrame ptCmdPing [1, 2] (some 7)).1,
          .pump (monoNow bench 0 30000000)]).handled.filterMap (fun e => answer? e.2) ∧
      ((out ++ pending).filter fun p => !isAnswer p) =
        (Rig.run bench [.feed (fun _ => monoNow bench 0 5) (packFrame ptCmdPing [1, 2] (some 7)).1,
          .pump (monoNow bench 0 30000000)]).beats.flatMap (report bench) :=
  board_stream bench _ _ (by rw [List.flatten_cons, List.flatten_cons, List.flatten_nil,
    List.append_nil, List.take_append_drop])

end Mhost.Tools.Simulator
