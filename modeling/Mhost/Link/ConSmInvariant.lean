import Mhost.Link.ConSmTable

/-!
# The invariant of the connection state machine over whole runs

`Shape` ties the fields to the state and needs nothing of the clock; `Armed` says that
the timers a state needs are running, and holds as long as no deadline wraps. Together
they are `Consistent`, which every call preserves.
-/
namespace Mhost.Link.ConSm
open Proto

variable {σ : Type}

structure Shape (m : ConSm) : Prop where
  ready_iff : m.comm = .ready ↔ m.state = .connected ∨ m.state = .disconnecting
  connecting_req : m.state = .connecting → m.curReq = .enableRequest
  disconnecting_req : m.state = .disconnecting → m.curReq = .disableRequest
  reqRep_le : m.reqRep ≤ kConRetryMax
  reqRep_idle : m.state = .disconnected ∨ m.state = .connected → m.reqRep = 0
  pingRep_le : m.pingRep ≤ kMaxPingRepeat + 1
  rsp_phase : m.rspDeadline ≠ 0 → m.state = .connecting ∨ m.state = .disconnecting
  ping_phase : m.pingDeadline ≠ 0 → m.comm = .ready

structure Armed (last : Nat) (m : ConSm) : Prop where
  rsp_armed : m.state = .connecting ∨ m.state = .disconnecting → m.rspDeadline ≠ 0
  ping_armed : m.comm = .ready → m.pingDeadline ≠ 0
  rsp_bound : m.rspDeadline ≤ last + kConRspTimeoutMs
  ping_bound : m.pingDeadline ≤ last + kPingTimeMs

theorem Shape.fresh : Shape {} := by
  constructor <;> simp

theorem Armed.fresh : Armed 0 {} := by
  constructor <;> simp

theorem Armed.later {last now : Nat} {m : ConSm} (armed : Armed last m) (order : last ≤ now) :
    Armed now m :=
  ⟨armed.rsp_armed, armed.ping_armed, Nat.le_trans armed.rsp_bound (by omega),
    Nat.le_trans armed.ping_bound (by omega)⟩

/-! ### States that every path ends in -/

theorem Shape.cleared (curReq : ConMsgType) : Shape { curReq } := by
  constructor <;> simp

theorem Armed.cleared (now : Nat) (curReq : ConMsgType) : Armed now { curReq } := by
  constructor <;> simp

theorem Shape.established (now : Nat) (curReq : ConMsgType) : Shape (established now curReq) := by
  constructor <;> simp [ConSm.established]

/-- No deadline that is set at `now` wraps; 1000 ms is the longest. -/
def Fits (now : Nat) : Prop := now + kPingTimeMs < 2 ^ 64

theorem Fits.deadline_eq {now ms : Nat} (fits : Fits now) (short : ms ≤ kPingTimeMs) :
    deadline now ms = now + ms :=
  Nat.mod_eq_of_lt (Nat.lt_of_le_of_lt (Nat.add_le_add_left short now) fits)

theorem Fits.deadline_ne_zero {now ms : Nat} (fits : Fits now) (short : ms ≤ kPingTimeMs)
    (positive : 0 < ms) : deadline now ms ≠ 0 := by
  rw [fits.deadline_eq short]
  omega

theorem Armed.established {now : Nat} (fits : Fits now) (curReq : ConMsgType) :
    Armed now (established now curReq) := by
  have ping := fits.deadline_eq (Nat.le_refl kPingTimeMs)
  constructor <;> simp [ConSm.established, ping]
  simp [kPingTimeMs]

/-! ### One event -/

theorem Shape.notReady {m : ConSm} (shape : Shape m)
    (down : m.state = .disconnected ∨ m.state = .connecting) :
    m.comm = .notReady ∧ m.pingDeadline = 0 := by
  have notUp : m.comm ≠ .ready := by
    intro up
    rcases shape.ready_iff.mp up with h | h <;> rcases down with h' | h' <;> simp [h] at h'
  constructor
  · cases comm : m.comm with
    | notReady => rfl
    | ready => exact absurd comm notUp
  · exact Classical.byContradiction fun armed => notUp (shape.ping_phase armed)

/-- `DISABLE` comes from `disconnect` alone, which is busy while connecting. -/
theorem Processed.shape {cb : Callbacks σ} {now : Nat} {m : ConSm} {env : σ} {ev : Event}
    {s : ConSm × σ} (table : Processed cb now m env ev s) (shape : Shape m)
    (idle : ev = .disable → m.state ≠ .connecting) : Shape s.1 := by
  cases table with
  | ignored deaf => exact shape
  | requested free =>
    have down := shape.notReady (.inl free)
    have count := shape.reqRep_le
    have pings := shape.pingRep_le
    constructor <;> simp_all [requesting]
  | requestFailed free | answerFailed free =>
    have down := shape.notReady (.inl free)
    have pings := shape.pingRep_le
    constructor <;> simp_all
  | answered => exact .established now _
  | accepted => exact .established now _
  | answerLost | releaseFailed | released | confirmed => exact .cleared _
  | releasing up =>
    have connected : m.state = .connected := up.resolve_left (idle rfl)
    have ready := shape.ready_iff.mpr (.inl connected)
    have count := shape.reqRep_le
    have pings := shape.pingRep_le
    constructor <;> simp_all [requesting]
  | refused waiting =>
    have down := shape.notReady (.inr waiting)
    have pings := shape.pingRep_le
    constructor <;> simp_all
  | lost up =>
    have pings := shape.pingRep_le
    have count := shape.reqRep_idle (.inr up)
    constructor <;> simp_all

/-- `REJECT` leaves every state for `DISCONNECTED` with both timers off. -/
theorem Processed.reject_closes {cb : Callbacks σ} {now : Nat} {m : ConSm} {env : σ}
    {s : ConSm × σ} (table : Processed cb now m env .reject s) (shape : Shape m) :
    s.1.state = .disconnected ∧ s.1.comm = .notReady ∧
      s.1.rspDeadline = 0 ∧ s.1.pingDeadline = 0 := by
  cases table with
  | ignored deaf =>
    have free : m.state = .disconnected := by
      cases state : m.state <;> simp_all [State.ignores]
    have down := shape.notReady (.inl free)
    have silent : m.rspDeadline = 0 :=
      Classical.byContradiction fun armed => by simpa [free] using shape.rsp_phase armed
    exact ⟨free, down.1, silent, down.2⟩
  | refused waiting => exact ⟨rfl, (shape.notReady (.inr waiting)).1, rfl,
      (shape.notReady (.inr waiting)).2⟩
  | lost => exact ⟨rfl, rfl, rfl, rfl⟩
  | confirmed => exact ⟨rfl, rfl, rfl, rfl⟩

theorem Armed.of_closed {now : Nat} {m : ConSm}
    (closed : m.state = .disconnected ∧ m.comm = .notReady ∧
      m.rspDeadline = 0 ∧ m.pingDeadline = 0) : Armed now m := by
  obtain ⟨state, comm, rsp, ping⟩ := closed
  constructor <;> simp [state, comm, rsp, ping]

theorem Processed.armed {cb : Callbacks σ} {now : Nat} {m : ConSm} {env : σ} {ev : Event}
    {s : ConSm × σ} (table : Processed cb now m env ev s) (shape : Shape m) (armed : Armed now m)
    (fits : Fits now) : Armed now s.1 := by
  have rsp : deadline now kConRspTimeoutMs = now + kConRspTimeoutMs := fits.deadline_eq (by decide)
  have soon : kConRspTimeoutMs ≠ 0 := by decide
  cases table with
  | ignored => exact armed
  | requested free | releasing =>
    have ping := armed.ping_armed
    have bound := armed.ping_bound
    constructor <;> simp_all [requesting]
  | requestFailed free | answerFailed free =>
    have down := shape.notReady (.inl free)
    exact .of_closed ⟨free, down.1, rfl, down.2⟩
  | answered | accepted => exact .established fits _
  | answerLost | releaseFailed | released | confirmed => exact .cleared now _
  | refused waiting =>
    have down := shape.notReady (.inr waiting)
    exact .of_closed ⟨rfl, down.1, rfl, down.2⟩
  | lost => exact .of_closed ⟨rfl, rfl, rfl, rfl⟩

/-! ### One tick -/

theorem Shape.retried {m : ConSm} (shape : Shape m) (left : m.reqRep < kConRetryMax)
    (phase : m.state = .connecting ∨ m.state = .disconnecting) (rsp : Nat) :
    Shape { m with rspDeadline := rsp, reqRep := m.reqRep + 1 } :=
  { shape with
    reqRep_le := left
    reqRep_idle := fun idle => by rcases phase with h | h <;> simp [h] at idle
    rsp_phase := fun _ => phase }

theorem Shape.expired {m : ConSm} (shape : Shape m) : Shape { m with rspDeadline := 0 } :=
  { shape with rsp_phase := fun armed => absurd rfl armed }

theorem TickedRsp.shape {cb : Callbacks σ} {now : Nat} {m : ConSm} {env : σ} {s : ConSm × σ}
    (table : TickedRsp cb now m env s) (shape : Shape m) : Shape s.1 := by
  cases table with
  | idle => exact shape
  | resent _ left phase => exact shape.retried left phase _
  | resendFailed _ left phase _ closed =>
    exact closed.shape (shape.retried left phase 0) (fun wrong => by cases wrong)
  | exhausted _ _ closed => exact closed.shape shape.expired (fun wrong => by cases wrong)

theorem TickedRsp.armed {cb : Callbacks σ} {now : Nat} {m : ConSm} {env : σ} {s : ConSm × σ}
    (table : TickedRsp cb now m env s) (shape : Shape m) (armed : Armed now m) (fits : Fits now) :
    Armed now s.1 := by
  cases table with
  | idle => exact armed
  | resent =>
    have rsp : deadline now kConRspTimeoutMs = now + kConRspTimeoutMs := fits.deadline_eq (by decide)
    exact { armed with
      rsp_armed := fun _ => fits.deadline_ne_zero (by decide) (by decide)
      rsp_bound := by simp [rsp] }
  | resendFailed _ left phase _ closed =>
    exact .of_closed (closed.reject_closes (shape.retried left phase 0))
  | exhausted _ _ closed => exact .of_closed (closed.reject_closes shape.expired)

theorem Shape.pinged {m : ConSm} (shape : Shape m) (left : m.pingRep ≤ kMaxPingRepeat)
    (ping : Nat) (up : ping ≠ 0 → m.comm = .ready) :
    Shape { m with pingDeadline := ping, pingRep := m.pingRep + 1 } :=
  { shape with pingRep_le := Nat.succ_le_succ left, ping_phase := up }

theorem Shape.silenced {m : ConSm} (shape : Shape m) : Shape { m with pingDeadline := 0 } :=
  { shape with ping_phase := fun armed => absurd rfl armed }

theorem TickedPing.shape {cb : Callbacks σ} {now : Nat} {m : ConSm} {env : σ} {s : ConSm × σ}
    (table : TickedPing cb now m env s) (shape : Shape m) : Shape s.1 := by
  cases table with
  | idle => exact shape
  | pinged _ left up => exact shape.pinged left _ (fun _ => up)
  | pingFailed _ left up _ closed =>
    exact closed.shape (shape.pinged left 0 (fun _ => up)) (fun wrong => by cases wrong)
  | muted _ left => exact shape.pinged left 0 (fun armed => absurd rfl armed)
  | silent _ _ closed => exact closed.shape shape.silenced (fun wrong => by cases wrong)

theorem Shape.pingArmed {m : ConSm} (shape : Shape m) : m.pingArmed = true ↔ m.comm = .ready := by
  simp only [ConSm.pingArmed, decide_eq_true_eq]
  exact ⟨And.left, fun up => ⟨up, shape.ready_iff.mp up⟩⟩

theorem TickedPing.armed {cb : Callbacks σ} {now : Nat} {m : ConSm} {env : σ} {s : ConSm × σ}
    (table : TickedPing cb now m env s) (shape : Shape m) (armed : Armed now m) (fits : Fits now) :
    Armed now s.1 := by
  cases table with
  | idle => exact armed
  | pinged _ _ up =>
    have ping : deadline now kRepeatPingTimeMs = now + kRepeatPingTimeMs :=
      fits.deadline_eq (by decide)
    have armedAgain : deadline now kRepeatPingTimeMs ≠ 0 :=
      fits.deadline_ne_zero (by decide) (by decide)
    rw [if_pos (shape.pingArmed.mpr up), ping]
    exact { armed with
      ping_armed := fun _ => ping ▸ armedAgain
      ping_bound := by simp [kRepeatPingTimeMs, kPingTimeMs] }
  | pingFailed _ left up _ closed =>
    exact .of_closed (closed.reject_closes (shape.pinged left 0 (fun _ => up)))
  | muted due _ down => exact absurd (shape.ping_phase (Nat.ne_of_gt due.1)) down
  | silent _ _ closed => exact .of_closed (closed.reject_closes shape.silenced)

/-! ### One call -/

theorem reset_eq (cb : Callbacks σ) (s : ConSm × σ) :
    reset cb s = ({ curReq := s.1.curReq }, lowered cb s.1 s.2) := by
  obtain ⟨⟨state, comm, rsp, ping, pingRep, reqRep, curReq⟩, env⟩ := s
  cases comm <;> rfl

theorem Shape.scheduled {m : ConSm} (shape : Shape m) (now : Nat) :
    Shape (m.schedulePingStd now) :=
  { shape with
    pingRep_le := Nat.zero_le _
    ping_phase := fun armed => by
      simp only [schedulePingStd] at armed
      split at armed
      next up => exact shape.pingArmed.mp up
      next => exact absurd rfl armed }

theorem Armed.scheduled {m : ConSm} {now : Nat} (armed : Armed now m) (shape : Shape m)
    (fits : Fits now) : Armed now (m.schedulePingStd now) := by
  have ping := fits.deadline_eq (Nat.le_refl kPingTimeMs)
  refine { armed with ping_armed := fun up => ?_, ping_bound := ?_ }
  · have running : m.pingArmed = true := shape.pingArmed.mpr up
    have armed := fits.deadline_ne_zero (Nat.le_refl kPingTimeMs) (by decide)
    simpa [schedulePingStd, running] using armed
  · simp only [schedulePingStd, ping]
    split <;> omega

/-- Time moves only through the calls that carry it. -/
def Call.time? : Call → Option Nat
  | .connect now | .disconnect now | .onFrame _ now | .tick now => some now
  | .reset => none

theorem call_shape (cb : Callbacks σ) (s : ConSm × σ) (shape : Shape s.1) (c : Call) :
    Shape (call cb s c).1 := by
  obtain ⟨m, env⟩ := s
  cases c with
  | connect now =>
    simp only [call, connect]
    split
    · exact shape
    · split
      · exact shape
      · exact (process_table cb .enable now m env).shape shape (fun wrong => by cases wrong)
  | disconnect now =>
    simp only [call, disconnect]
    split
    next up =>
      have shape' : Shape { m with pingRep := 0 } := { shape with pingRep_le := Nat.zero_le _ }
      exact (process_table cb .disable now _ env).shape shape' (fun _ => by simp [up])
    next => split <;> exact shape
  | reset =>
    rw [call, reset_eq]
    exact .cleared _
  | onFrame msgType now =>
    simp only [call, onFrame]
    cases msgType with
    | enableRequest | enableResponse | disableRequest | disableResponse =>
      exact (process_table cb _ now m env).shape shape (fun wrong => by cases wrong)
    | pingRequest => exact shape
    | pingResponse => exact shape.scheduled now
  | tick now =>
    have first := (tickRsp_table cb now m env).shape shape
    exact (tickPing_table cb now _ _).shape first

theorem call_armed (cb : Callbacks σ) (s : ConSm × σ) (shape : Shape s.1) (c : Call)
    (last now : Nat) (time : c.time?.getD last = now) (order : last ≤ now)
    (fits : c.time?.isSome → Fits now) (armed : Armed last s.1) : Armed now (call cb s c).1 := by
  obtain ⟨m, env⟩ := s
  have armed := armed.later order
  cases c with
  | connect t =>
    obtain rfl : t = now := time
    simp only [call, connect]
    split
    · exact armed
    · split
      · exact armed
      · exact (process_table cb .enable t m env).armed shape armed (fits rfl)
  | disconnect t =>
    obtain rfl : t = now := time
    simp only [call, disconnect]
    split
    next up =>
      have shape' : Shape { m with pingRep := 0 } := { shape with pingRep_le := Nat.zero_le _ }
      exact (process_table cb .disable t _ env).armed shape' ⟨armed.1, armed.2, armed.3, armed.4⟩
        (fits rfl)
    next => split <;> exact armed
  | reset =>
    rw [call, reset_eq]
    exact .cleared now _
  | onFrame msgType t =>
    obtain rfl : t = now := time
    simp only [call, onFrame]
    cases msgType with
    | enableRequest | enableResponse | disableRequest | disableResponse =>
      exact (process_table cb _ t m env).armed shape armed (fits rfl)
    | pingRequest => exact armed
    | pingResponse => exact armed.scheduled shape (fits rfl)
  | tick t =>
    obtain rfl : t = now := time
    have first := tickRsp_table cb t m env
    exact (tickPing_table cb t _ _).armed (first.shape shape) (first.armed shape armed (fits rfl))
      (fits rfl)

/-! ### Whole runs -/

/-- The time of the latest call that carried one. -/
def lastTime (last : Nat) (calls : List Call) : Nat :=
  calls.foldl (fun last c => c.time?.getD last) last

/-- The times of the calls never go back. -/
def Ordered (last : Nat) : List Call → Prop
  | [] => True
  | c :: rest => last ≤ c.time?.getD last ∧ Ordered (c.time?.getD last) rest

theorem calls_shape (cb : Callbacks σ) (calls : List Call) (s : ConSm × σ) (shape : Shape s.1) :
    Shape (calls.foldl (call cb) s).1 := by
  induction calls generalizing s with
  | nil => exact shape
  | cons c rest ih => exact ih _ (call_shape cb s shape c)

theorem calls_armed (cb : Callbacks σ) (calls : List Call) (s : ConSm × σ) (last : Nat)
    (ordered : Ordered last calls) (fits : ∀ c ∈ calls, ∀ now ∈ c.time?, Fits now)
    (shape : Shape s.1) (armed : Armed last s.1) :
    Armed (lastTime last calls) (calls.foldl (call cb) s).1 := by
  induction calls generalizing s last with
  | nil => exact armed
  | cons c rest ih =>
    refine ih _ (c.time?.getD last) ordered.2 (fun c' member => fits c' (by simp [member]))
      (call_shape cb s shape c) (call_armed cb s shape c last _ rfl ordered.1 ?_ armed)
    intro timed
    obtain ⟨now, time⟩ := Option.isSome_iff_exists.mp timed
    simpa [time] using fits c (by simp) now time

/-! ### What is sent -/

/-- The callbacks with a record of every message handed to `sendFn`. -/
def Callbacks.logged (cb : Callbacks σ) : Callbacks (σ × List ConMsgType) where
  sendFn msg env := ((cb.sendFn msg env.1).1, (cb.sendFn msg env.1).2, env.2 ++ [msg])
  commCb comm env := (cb.commCb comm env.1, env.2)

/-- The request a phase waits for an answer to. -/
def State.request? : State → Option ConMsgType
  | .connecting => some .enableRequest
  | .disconnecting => some .disableRequest
  | _ => none

theorem Shape.request {m : ConSm} (shape : Shape m)
    (phase : m.state = .connecting ∨ m.state = .disconnecting) :
    State.request? m.state = some m.curReq := by
  rcases phase with waiting | leaving
  · rw [waiting, shape.connecting_req waiting]
    rfl
  · rw [leaving, shape.disconnecting_req leaving]
    rfl

theorem lowered_sent (cb : Callbacks σ) (m : ConSm) (env : σ × List ConMsgType) :
    (lowered (Callbacks.logged cb) m env).2 = env.2 := by
  unfold lowered
  split <;> rfl

theorem Processed.reject_silent {cb : Callbacks σ} {now : Nat} {m : ConSm}
    {env : σ × List ConMsgType} {s : ConSm × (σ × List ConMsgType)}
    (table : Processed (Callbacks.logged cb) now m env .reject s) : s.2.2 = env.2 := by
  cases table with
  | ignored | refused => rfl
  | lost | confirmed => exact lowered_sent cb m env

/-- The response timeout sends the request of its phase, once, or nothing. -/
theorem TickedRsp.sends {cb : Callbacks σ} {now : Nat} {m : ConSm} {env : σ × List ConMsgType}
    {s : ConSm × (σ × List ConMsgType)} (table : TickedRsp (Callbacks.logged cb) now m env s)
    (shape : Shape m) :
    s.2.2 = env.2 ∨
      ∃ request, State.request? m.state = some request ∧ s.2.2 = env.2 ++ [request] := by
  cases table with
  | idle => exact .inl rfl
  | resent _ _ phase => exact .inr ⟨m.curReq, shape.request phase, rfl⟩
  | resendFailed _ _ phase _ closed =>
    exact .inr ⟨m.curReq, shape.request phase, closed.reject_silent⟩
  | exhausted _ _ closed => exact .inl closed.reject_silent

/-! ### The invariant -/

structure Consistent (last : Nat) (m : ConSm) : Prop where
  ready_iff : m.comm = .ready ↔ m.state = .connected ∨ m.state = .disconnecting
  ping_iff : m.comm = .ready ↔ m.pingDeadline ≠ 0
  rsp_iff : m.rspDeadline ≠ 0 ↔ m.state = .connecting ∨ m.state = .disconnecting
  connecting_req : m.state = .connecting → m.curReq = .enableRequest
  disconnecting_req : m.state = .disconnecting → m.curReq = .disableRequest
  reqRep_le : m.reqRep ≤ 5
  reqRep_idle : m.state = .disconnected ∨ m.state = .connected → m.reqRep = 0
  pingRep_le : m.pingRep ≤ 3
  rsp_bound : m.rspDeadline ≠ 0 → m.rspDeadline ≤ last + 400
  ping_bound : m.pingDeadline ≠ 0 → m.pingDeadline ≤ last + 1000
  timer_armed : m.state ≠ .disconnected → m.rspDeadline ≠ 0 ∨ m.pingDeadline ≠ 0

theorem Shape.consistent {last : Nat} {m : ConSm} (shape : Shape m) (armed : Armed last m) :
    Consistent last m where
  ready_iff := shape.ready_iff
  ping_iff := ⟨armed.ping_armed, shape.ping_phase⟩
  rsp_iff := ⟨shape.rsp_phase, armed.rsp_armed⟩
  connecting_req := shape.connecting_req
  disconnecting_req := shape.disconnecting_req
  reqRep_le := shape.reqRep_le
  reqRep_idle := shape.reqRep_idle
  pingRep_le := shape.pingRep_le
  rsp_bound := fun _ => armed.rsp_bound
  ping_bound := fun _ => armed.ping_bound
  timer_armed := fun away => by
    cases state : m.state with
    | disconnected => exact absurd state away
    | connecting => exact .inl (armed.rsp_armed (.inl state))
    | connected => exact .inr (armed.ping_armed (shape.ready_iff.mpr (.inl state)))
    | disconnecting => exact .inl (armed.rsp_armed (.inr state))

/-- After every run of calls in order of time, whatever the callbacks do: the fields
agree with the state, every state but `DISCONNECTED` has a timer running, `process`
handles at most one follow-up event, and the response timeout of the next tick sends
nothing but the request of the current phase. -/
theorem conSm_invariant (cb : Callbacks σ) (env : σ) (calls : List Call)
    (ordered : Ordered 0 calls) (fits : ∀ c ∈ calls, ∀ now ∈ c.time?, now + 1000 < 2 ^ 64) :
    Consistent (lastTime 0 calls) (run cb env calls).1 ∧
      (∀ (ev followUp : Event) (now : Nat) (s : ConSm × σ),
        (processOnce cb ev now s).2 = some followUp →
          (processOnce cb followUp now (processOnce cb ev now s).1).2 = none) ∧
      (∀ (n : Nat) (ev : Event) (now : Nat) (s : ConSm × σ),
        processWithin cb (n + 2) ev now s = process cb ev now s) ∧
      ∀ (now : Nat) (log : List ConMsgType),
        (tickRsp (Callbacks.logged cb) now
            ((run cb env calls).1, ((run cb env calls).2, log))).2.2 = log ∨
          ∃ request, State.request? (run cb env calls).1.state = some request ∧
            (tickRsp (Callbacks.logged cb) now
              ((run cb env calls).1, ((run cb env calls).2, log))).2.2 = log ++ [request] := by
  have shape : Shape (run cb env calls).1 := calls_shape cb calls _ .fresh
  have armed : Armed (lastTime 0 calls) (run cb env calls).1 :=
    calls_armed cb calls _ 0 ordered fits .fresh .fresh
  refine ⟨shape.consistent armed, ?_, ?_, ?_⟩
  · intro ev followUp now s asked
    exact followUp_final cb ev followUp now s asked
  · intro n ev now s
    exact processWithin_two cb n ev now s
  · intro now log
    exact (tickRsp_table (Callbacks.logged cb) now _ _).sends shape

/-- A handshake, a lost keepalive, a reset and a second handshake that the board starts,
with every second `sendFn` call failing. -/
def sampleCalls : List Call :=
  [.connect 1000, .onFrame .enableResponse 1100, .tick 2100, .reset, .connect 2300,
    .onFrame .enableRequest 2400, .disconnect 2450]

theorem conSm_invariant_sample :
    Consistent 2450
      (run ⟨fun _ count => (count % 2 = 0, count + 1), fun _ count => count⟩ 0 sampleCalls).1 :=
  (conSm_invariant _ (0 : Nat) sampleCalls (by simp [sampleCalls, Ordered, Call.time?])
    (by simp [sampleCalls, Call.time?])).1

end Mhost.Link.ConSm
