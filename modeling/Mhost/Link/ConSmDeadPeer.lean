import Mhost.Link.ConSmInvariant

/-!
# Dead peer detection

With nothing but ticks the machine runs down: each retransmission pushes its deadline by
a fixed amount and there are few of them. The measure is the latest time at which the
running timer can still fire, plus what the attempts that are left may add.
-/
namespace Mhost.Link.ConSm
open Proto

variable {σ : Type}

/-- Ticks that never go back and come at most `period` apart, the first after `prev`. -/
def Paced (period prev : Nat) : List Nat → Prop
  | [] => True
  | now :: rest => prev ≤ now ∧ now ≤ prev + period ∧ Paced period now rest

def ticks (cb : Callbacks σ) (s : ConSm × σ) (times : List Nat) : ConSm × σ :=
  times.foldl (fun s now => tick cb now s) s

/-- The machine is closed, or its timer and the attempts left end by `bound`. -/
inductive Draining (period bound prev : Nat) (m : ConSm) : Prop where
  | closed (down : m.state = .disconnected)
  | waiting (phase : m.state = .connecting ∨ m.state = .disconnecting)
      (armed : 0 < m.rspDeadline)
      (rank : max prev m.rspDeadline + (kConRetryMax - m.reqRep) * (kConRspTimeoutMs + period) ≤
        bound)
  | alive (up : m.state = .connected) (armed : 0 < m.pingDeadline)
      (rank : max prev m.pingDeadline +
        (kMaxPingRepeat + 1 - m.pingRep) * (kRepeatPingTimeMs + period) ≤ bound)

/-- What a reachable state still has in front of it. -/
theorem Draining.start {period t0 : Nat} {m : ConSm} (shape : Shape m) (armed : Armed t0 m) :
    Draining period (t0 + 2400 + 5 * period) t0 m := by
  have attempts : ∀ left cost : Nat, left ≤ 5 → left * cost ≤ 5 * cost :=
    fun left cost few => Nat.mul_le_mul_right cost few
  by_cases phase : m.state = .connecting ∨ m.state = .disconnecting
  · have rsp := armed.rsp_armed phase
    have bound := armed.rsp_bound
    have few := attempts (kConRetryMax - m.reqRep) (kConRspTimeoutMs + period) (by simp [kConRetryMax])
    refine .waiting phase (Nat.pos_of_ne_zero rsp) ?_
    simp only [kConRspTimeoutMs, kConRetryMax] at *
    omega
  · cases state : m.state with
    | disconnected => exact .closed state
    | connecting => exact absurd (.inl state) phase
    | disconnecting => exact absurd (.inr state) phase
    | connected =>
      have ping := armed.ping_armed (shape.ready_iff.mpr (.inl state))
      have bound := armed.ping_bound
      have few : (kMaxPingRepeat + 1 - m.pingRep) * (kRepeatPingTimeMs + period) ≤
          3 * (kRepeatPingTimeMs + period) :=
        Nat.mul_le_mul_right _ (by simp [kMaxPingRepeat])
      refine .alive state (Nat.pos_of_ne_zero ping) ?_
      simp only [kPingTimeMs, kMaxPingRepeat, kRepeatPingTimeMs] at *
      omega

/-- One attempt more, one period later, costs no more than the attempt was worth. -/
theorem attempt_spent {limit reps cost period last now bound : Nat} (left : reps < limit)
    (soon : now ≤ last + period) (rank : last + (limit - reps) * (cost + period) ≤ bound) :
    now + cost + (limit - (reps + 1)) * (cost + period) ≤ bound := by
  have split : limit - reps = limit - (reps + 1) + 1 := by omega
  rw [split, Nat.succ_mul] at rank
  omega

theorem closed_quiet {m : ConSm} (shape : Shape m) (down : m.state = .disconnected) :
    m.rspDeadline = 0 ∧ m.pingDeadline = 0 := by
  refine ⟨?_, (shape.notReady (.inl down)).2⟩
  exact Classical.byContradiction fun armed => by simpa [down] using shape.rsp_phase armed

theorem TickedRsp.quiet {cb : Callbacks σ} {now : Nat} {m : ConSm} {env : σ} {s : ConSm × σ}
    (table : TickedRsp cb now m env s) (off : m.rspDeadline = 0) : s = (m, env) := by
  cases table with
  | idle => rfl
  | resent due | resendFailed due | exhausted due => omega

theorem TickedPing.quiet {cb : Callbacks σ} {now : Nat} {m : ConSm} {env : σ} {s : ConSm × σ}
    (table : TickedPing cb now m env s) (off : m.pingDeadline = 0) : s = (m, env) := by
  cases table with
  | idle => rfl
  | pinged due | pingFailed due | muted due | silent due => omega

/-- A closed machine has no timer that could fire. -/
theorem tick_closed (cb : Callbacks σ) (now : Nat) {s : ConSm × σ} (shape : Shape s.1)
    (down : s.1.state = .disconnected) : tick cb now s = s := by
  have off := closed_quiet shape down
  have first := (tickRsp_table cb now s.1 s.2).quiet off.1
  rw [tick, show s = (s.1, s.2) from rfl, first]
  exact (tickPing_table cb now s.1 s.2).quiet off.2

/-! ### One tick -/

theorem TickedRsp.drains {cb : Callbacks σ} {period bound prev now : Nat} {m : ConSm} {env : σ}
    {s : ConSm × σ} (table : TickedRsp cb now m env s) (shape : Shape m)
    (order : prev ≤ now) (soon : now ≤ prev + period) (fits : bound < 2 ^ 64)
    (draining : Draining period bound prev m) :
    Draining period bound prev s.1 ∧
      (s.1.state = .connecting ∨ s.1.state = .disconnecting → now < s.1.rspDeadline) := by
  cases table with
  | idle early =>
    refine ⟨draining, fun phase => ?_⟩
    cases draining with
    | closed down => simp [down] at phase
    | waiting _ armed => exact early.resolve_left (Nat.ne_of_gt armed)
    | alive up => simp [up] at phase
  | resent due left phase =>
    cases draining with
    | closed down => simp [down] at phase
    | alive up => simp [up] at phase
    | waiting _ armed rank =>
      have spent : now + kConRspTimeoutMs +
          (kConRetryMax - (m.reqRep + 1)) * (kConRspTimeoutMs + period) ≤ bound :=
        attempt_spent left (by omega) rank
      have exact : deadline now kConRspTimeoutMs = now + kConRspTimeoutMs :=
        Nat.mod_eq_of_lt (by omega)
      have positive : 0 < kConRspTimeoutMs := by decide
      refine ⟨.waiting phase ?_ ?_, fun _ => ?_⟩
      · simp only [exact]; omega
      · simp only [exact]; omega
      · simp only [exact]; omega
  | resendFailed _ left phase _ closed =>
    have shut := (closed.reject_closes (shape.retried left phase 0)).1
    exact ⟨.closed shut, fun phase => by simp [shut] at phase⟩
  | exhausted _ _ closed =>
    have shut := (closed.reject_closes shape.expired).1
    exact ⟨.closed shut, fun phase => by simp [shut] at phase⟩

theorem TickedPing.drains {cb : Callbacks σ} {period bound prev now : Nat} {m : ConSm} {env : σ}
    {s : ConSm × σ} (table : TickedPing cb now m env s) (shape : Shape m)
    (order : prev ≤ now) (soon : now ≤ prev + period) (fits : bound < 2 ^ 64)
    (draining : Draining period bound prev m)
    (running : m.state = .connecting ∨ m.state = .disconnecting → now < m.rspDeadline) :
    s.1.state = .disconnected ∨ Draining period bound now s.1 ∧ now < bound := by
  cases draining with
  | closed down =>
    exact .inl (table.quiet (closed_quiet shape down).2 ▸ down)
  | waiting phase armed rank =>
    have ahead := running phase
    have later : Draining period bound now m ∧ now < bound :=
      ⟨.waiting phase armed (by omega), by omega⟩
    cases table with
    | idle => exact .inr later
    | pinged | muted => exact .inr ⟨.waiting phase armed (by simp only; omega), later.2⟩
    | pingFailed _ left up _ closed =>
      exact .inl (closed.reject_closes (shape.pinged left 0 (fun _ => up))).1
    | silent _ _ closed => exact .inl (closed.reject_closes shape.silenced).1
  | alive up armed rank =>
    have ready := shape.ready_iff.mpr (.inl up)
    cases table with
    | idle early => exact .inr ⟨.alive up armed (by simp only; omega), by omega⟩
    | pinged due left =>
      have spent : now + kRepeatPingTimeMs +
          (kMaxPingRepeat + 1 - (m.pingRep + 1)) * (kRepeatPingTimeMs + period) ≤ bound :=
        attempt_spent (Nat.lt_succ_of_le left) (by omega) rank
      have exact : deadline now kRepeatPingTimeMs = now + kRepeatPingTimeMs :=
        Nat.mod_eq_of_lt (by omega)
      have positive : 0 < kRepeatPingTimeMs := by decide
      rw [if_pos (shape.pingArmed.mpr ready), exact]
      refine .inr ⟨.alive up ?_ ?_, by omega⟩
      · simp only; omega
      · simp only; omega
    | pingFailed _ left up _ closed =>
      exact .inl (closed.reject_closes (shape.pinged left 0 (fun _ => up))).1
    | muted _ _ down => exact absurd ready down
    | silent _ _ closed => exact .inl (closed.reject_closes shape.silenced).1

theorem tick_drains {cb : Callbacks σ} {period bound prev now : Nat} {s : ConSm × σ}
    (shape : Shape s.1) (order : prev ≤ now) (soon : now ≤ prev + period) (fits : bound < 2 ^ 64)
    (draining : Draining period bound prev s.1) :
    (tick cb now s).1.state = .disconnected ∨
      Draining period bound now (tick cb now s).1 ∧ now < bound := by
  have rsp := tickRsp_table cb now s.1 s.2
  obtain ⟨half, running⟩ := rsp.drains shape order soon fits draining
  exact (tickPing_table cb now _ _).drains (rsp.shape shape) order soon fits half running

theorem tick_shape {cb : Callbacks σ} {s : ConSm × σ} (shape : Shape s.1) (now : Nat) :
    Shape (tick cb now s).1 :=
  call_shape cb s shape (.tick now)

/-! ### Runs of ticks -/

theorem ticks_shape {cb : Callbacks σ} (times : List Nat) {s : ConSm × σ} (shape : Shape s.1) :
    Shape (ticks cb s times).1 := by
  induction times generalizing s with
  | nil => exact shape
  | cons now rest ih => exact ih (tick_shape shape now)

theorem ticks_closed {cb : Callbacks σ} {period bound prev : Nat} (times : List Nat)
    {s : ConSm × σ} (shape : Shape s.1) (paced : Paced period prev times) (fits : bound < 2 ^ 64)
    (draining : Draining period bound prev s.1)
    (late : s.1.state = .disconnected ∨ ∃ now ∈ times, bound ≤ now) :
    (ticks cb s times).1.state = .disconnected := by
  induction times generalizing s prev with
  | nil => exact late.resolve_right (by simp)
  | cons now rest ih =>
    have shape' : Shape (tick cb now s).1 := tick_shape shape now
    have after : (tick cb now s).1.state = .disconnected ∨
        Draining period bound now (tick cb now s).1 ∧ now < bound :=
      tick_drains shape paced.1 paced.2.1 fits draining
    have next : Draining period bound now (tick cb now s).1 := after.elim .closed And.left
    refine ih shape' paced.2.2 next ?_
    rcases late with down | ⟨t, member, late⟩
    · exact .inl (show (tick cb now s).1.state = _ by rw [tick_closed cb now shape down, down])
    · rcases after with down | ⟨_, early⟩
      · exact .inl down
      · rcases List.mem_cons.mp member with rfl | later
        · omega
        · exact .inr ⟨t, later, late⟩

/-! ### How much is sent -/

def pingCount (log : List ConMsgType) : Nat := log.countP (· = .pingRequest)

/-- Everything sent that is no keepalive. -/
def requestCount (log : List ConMsgType) : Nat := log.countP (· ≠ .pingRequest)

theorem pingCount_ping (log : List ConMsgType) :
    pingCount (log ++ [.pingRequest]) = pingCount log + 1 := by
  simp [pingCount]

theorem requestCount_ping (log : List ConMsgType) :
    requestCount (log ++ [.pingRequest]) = requestCount log := by
  simp [requestCount]

theorem pingCount_request (log : List ConMsgType) {request : ConMsgType}
    (other : request ≠ .pingRequest) : pingCount (log ++ [request]) = pingCount log := by
  simp [pingCount, other]

theorem requestCount_request (log : List ConMsgType) {request : ConMsgType}
    (other : request ≠ .pingRequest) :
    requestCount (log ++ [request]) = requestCount log + 1 := by
  simp [requestCount, other]

/-- The log holds no more than the counters admit. -/
structure Budget (m : ConSm) (log : List ConMsgType) : Prop where
  requests : requestCount log ≤ 5
  pings : pingCount log ≤ 3
  reqRep : m.state = .connecting ∨ m.state = .disconnecting → requestCount log ≤ m.reqRep
  pingRep : m.comm = .ready → pingCount log ≤ m.pingRep

theorem Budget.close {m : ConSm} {log : List ConMsgType}
    (closed : m.state = .disconnected ∧ m.comm = .notReady ∧
      m.rspDeadline = 0 ∧ m.pingDeadline = 0)
    (requests : requestCount log ≤ 5) (pings : pingCount log ≤ 3) : Budget m log :=
  ⟨requests, pings, fun phase => by simp [closed.1] at phase, fun up => by simp [closed.2.1] at up⟩

theorem curReq_ne_ping {m : ConSm} (shape : Shape m)
    (phase : m.state = .connecting ∨ m.state = .disconnecting) : m.curReq ≠ .pingRequest := by
  rcases phase with waiting | leaving
  · simp [shape.connecting_req waiting]
  · simp [shape.disconnecting_req leaving]

theorem TickedRsp.budget {cb : Callbacks σ} {now : Nat} {m : ConSm} {env : σ × List ConMsgType}
    {s : ConSm × (σ × List ConMsgType)} (table : TickedRsp (Callbacks.logged cb) now m env s)
    (shape : Shape m) (budget : Budget m env.2) : Budget s.1 s.2.2 := by
  have limit : kConRetryMax = 5 := rfl
  cases table with
  | idle => exact budget
  | resent _ left phase =>
    have used := budget.reqRep phase
    have request := curReq_ne_ping shape phase
    have one := requestCount_request env.2 request
    have same := pingCount_request env.2 request
    exact ⟨Nat.le_trans (Nat.le_of_eq one) (by omega), same ▸ budget.pings,
      fun _ => Nat.le_trans (Nat.le_of_eq one) (Nat.succ_le_succ used),
      fun up => same ▸ budget.pingRep up⟩
  | resendFailed _ left phase _ closed =>
    have used := budget.reqRep phase
    have request := curReq_ne_ping shape phase
    have log : s.2.2 = env.2 ++ [m.curReq] := closed.reject_silent
    refine .close (closed.reject_closes (shape.retried left phase 0)) ?_ ?_
    · rw [log, requestCount_request env.2 request]
      omega
    · rw [log, pingCount_request env.2 request]
      exact budget.pings
  | exhausted _ _ closed =>
    rw [closed.reject_silent]
    exact .close (closed.reject_closes shape.expired) budget.requests budget.pings

theorem TickedPing.budget {cb : Callbacks σ} {now : Nat} {m : ConSm} {env : σ × List ConMsgType}
    {s : ConSm × (σ × List ConMsgType)} (table : TickedPing (Callbacks.logged cb) now m env s)
    (shape : Shape m) (budget : Budget m env.2) : Budget s.1 s.2.2 := by
  have limit : kMaxPingRepeat = 2 := rfl
  cases table with
  | idle => exact budget
  | pinged _ left up =>
    have used := budget.pingRep up
    have one := pingCount_ping env.2
    have same := requestCount_ping env.2
    exact ⟨same ▸ budget.requests, Nat.le_trans (Nat.le_of_eq one) (by omega),
      fun phase => same ▸ budget.reqRep phase,
      fun _ => Nat.le_trans (Nat.le_of_eq one) (Nat.succ_le_succ used)⟩
  | pingFailed _ left up _ closed =>
    have used := budget.pingRep up
    have log : s.2.2 = env.2 ++ [.pingRequest] := closed.reject_silent
    refine .close (closed.reject_closes (shape.pinged left 0 (fun _ => up))) ?_ ?_
    · rw [log, requestCount_ping]
      exact budget.requests
    · rw [log, pingCount_ping]
      omega
  | muted _ _ down => exact { budget with pingRep := fun up => absurd up down }
  | silent _ _ closed =>
    rw [closed.reject_silent]
    exact .close (closed.reject_closes shape.silenced) budget.requests budget.pings

theorem ticks_budget {cb : Callbacks σ} (times : List Nat) {s : ConSm × (σ × List ConMsgType)}
    (shape : Shape s.1) (budget : Budget s.1 s.2.2) :
    Budget (ticks (Callbacks.logged cb) s times).1 (ticks (Callbacks.logged cb) s times).2.2 := by
  induction times generalizing s with
  | nil => exact budget
  | cons now rest ih =>
    have rsp := tickRsp_table (Callbacks.logged cb) now s.1 s.2
    have ping := tickPing_table (Callbacks.logged cb) now
      (tickRsp (Callbacks.logged cb) now s).1 (tickRsp (Callbacks.logged cb) now s).2
    exact ih (tick_shape shape now) (ping.budget (rsp.shape shape) (rsp.budget shape budget))

theorem lastTime_ge (calls : List Call) (last : Nat) (ordered : Ordered last calls) :
    last ≤ lastTime last calls := by
  induction calls generalizing last with
  | nil => exact Nat.le_refl last
  | cons c rest ih => exact Nat.le_trans ordered.1 (ih _ ordered.2)

theorem Ordered.le_lastTime {calls : List Call} {last : Nat} (ordered : Ordered last calls)
    {c : Call} (member : c ∈ calls) {now : Nat} (time : now ∈ c.time?) :
    now ≤ lastTime last calls := by
  induction calls generalizing last with
  | nil => cases member
  | cons first rest ih =>
    cases member with
    | head =>
      have start := lastTime_ge rest _ ordered.2
      rw [show c.time? = some now from time, Option.getD_some] at start
      simpa [lastTime, show c.time? = some now from time] using start
    | tail _ later => exact ih ordered.2 later

/-- From any state that calls up to `t0` can reach, ticks at most `period` ms apart
and nothing else: the machine is closed once a tick at `t0 + 2400 + 6 * period` or
later is done, and up to then it makes at most five retransmissions of the request
that is pending and three keepalive requests, whatever `sendFn` returns. -/
theorem dead_peer_detected (cb : Callbacks σ) (env : σ) (history : List Call) (t0 period : Nat)
    (ordered : Ordered 0 history) (reached : lastTime 0 history ≤ t0) (times : List Nat)
    (paced : Paced period t0 times) (clock : ∀ now ∈ times, now < 2 ^ 64) :
    let start := run cb env history
    let final := ticks (Callbacks.logged cb) (start.1, (start.2, [])) times
    ((∃ now ∈ times, t0 + 2400 + 6 * period ≤ now) →
      final.1.state = .disconnected ∧ final.1.comm = .notReady) ∧
      requestCount final.2.2 ≤ 5 ∧ pingCount final.2.2 ≤ 3 := by
  intro start final
  have shape : Shape start.1 := calls_shape cb history _ .fresh
  have fresh : Budget start.1 [] := by
    constructor <;> simp [requestCount, pingCount]
  have budget : Budget final.1 final.2.2 := ticks_budget times shape fresh
  refine ⟨?_, budget.requests, budget.pings⟩
  rintro ⟨now, member, late⟩
  have wide : t0 + 2400 + 6 * period < 2 ^ 64 := Nat.lt_of_le_of_lt late (clock now member)
  have armed : Armed t0 start.1 :=
    (calls_armed cb history _ 0 ordered (fun c called t time => by
      have before := ordered.le_lastTime called time
      simp only [Fits, kPingTimeMs]
      omega) .fresh .fresh).later reached
  have down : final.1.state = .disconnected :=
    ticks_closed times shape paced (by omega) (.start shape armed)
      (.inr ⟨now, member, by omega⟩)
  have shape' : Shape final.1 := ticks_shape times shape
  exact ⟨down, (shape'.notReady (.inl down)).1⟩

/-- A serial port that takes everything. -/
def accepting : Callbacks Unit := ⟨fun _ _ => (true, ()), fun _ _ => ()⟩

/-- A link that was up at 1100 and hears nothing more, ticked every 500 ms. -/
theorem dead_peer_detected_sample :
    (ticks (Callbacks.logged accepting)
      ((run accepting () [.connect 1000, .onFrame .enableResponse 1100]).1, ((), []))
      ((List.range 14).map fun i => 1100 + 500 * i)).1.state = .disconnected :=
  ((dead_peer_detected accepting () [.connect 1000, .onFrame .enableResponse 1100] 1100 500
    (by simp [Ordered, Call.time?]) (by decide) ((List.range 14).map fun i => 1100 + 500 * i)
    (by simp [List.range, List.range.loop, Paced]) (by decide)).1 ⟨7600, by decide, by decide⟩).1

end Mhost.Link.ConSm
