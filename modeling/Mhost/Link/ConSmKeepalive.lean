import Mathlib.Data.List.Chain
import Mathlib.Data.List.Induction
import Mathlib.Data.List.Infix
import Mhost.Link.ConSmDeadPeer
import Mhost.Link.ConSmCallbacks

/-!
# The keepalive feeds the board's watchdog

While `CONNECTED` the next PING_REQUEST is due at a time that each request and each
PING_RESPONSE move (ConSm.cc:97-114, 213-247). What is bounded is that deadline, by the
latest request sent: a response that comes at most `lag` ms after it moves the deadline to
1000 ms after the response, a request sent moves it to 300 ms after itself.
-/
namespace Mhost.Link.ConSm
open Proto

variable {σ : Type}

/-- What one call hands to `sendFn_`. -/
def sentBy (cb : Callbacks σ) (s : ConSm × σ) (c : Call) : List ConMsgType :=
  (call (Callbacks.logged cb) (s.1, (s.2, [])) c).2.2

/-- The times of the PING_REQUESTs that the calls send, in order. -/
def pingTimes (cb : Callbacks σ) (s : ConSm × σ) : List Call → List Nat
  | [] => []
  | c :: rest =>
      (c.time?.toList.flatMap fun now => List.replicate (pingCount (sentBy cb s c)) now) ++
        pingTimes cb (call cb s c) rest

def tickTimes (calls : List Call) : List Nat :=
  calls.filterMap fun
    | .tick now => some now
    | _ => none

/-- The call completes a handshake at `t0`: it enters `CONNECTED`, or stays there by
answering a board that starts again. -/
structure Completes (cb : Callbacks σ) (s : ConSm × σ) (c : Call) (t0 : Nat) : Prop where
  time : c.time? = some t0
  fresh : s.1.state ≠ .connected ∨ c = .onFrame .enableRequest t0
  up : (call cb s c).1.state = .connected

/-- The calls after a handshake at `t0` while the machine stays `CONNECTED`: ticks at most
`period` ms apart, no ENABLE_REQUEST, and every PING_RESPONSE at most `lag` ms after the
latest PING_REQUEST, of which there is one. -/
structure Segment (cb : Callbacks σ) (lag period t0 : Nat) (s : ConSm × σ)
    (calls : List Call) : Prop where
  start : t0 < 2 ^ 64
  clock : ∀ c ∈ calls, ∀ now ∈ c.time?, now < 2 ^ 64
  stays : ∀ done, done <+: calls → (done.foldl (call cb) s).1.state = .connected
  paced : Paced period t0 (tickTimes calls)
  calm : ∀ now, .onFrame .enableRequest now ∉ calls
  answers : ∀ done now, done ++ [.onFrame .pingResponse now] <+: calls →
    ∃ ping ∈ (pingTimes cb s done).getLast?, now ≤ ping + lag

/-- The latest time at which the next PING_REQUEST can be due. -/
def dueBy (lag t0 : Nat) (pings : List Nat) : Nat :=
  match pings.getLast? with
  | none => t0 + 1000
  | some ping => ping + max 300 (1000 + lag)

/-! ### How a handshake ends -/

theorem TickedRsp.state {cb : Callbacks σ} {now : Nat} {m : ConSm} {env : σ} {s : ConSm × σ}
    (table : TickedRsp cb now m env s) : s.1.state = m.state ∨ s.1.state = .disconnected := by
  cases table with
  | idle | resent => exact .inl rfl
  | resendFailed _ _ _ _ closed => exact .inr closed.reject_state
  | exhausted _ _ closed => exact .inr closed.reject_state

theorem TickedPing.state {cb : Callbacks σ} {now : Nat} {m : ConSm} {env : σ} {s : ConSm × σ}
    (table : TickedPing cb now m env s) : s.1.state = m.state ∨ s.1.state = .disconnected := by
  cases table with
  | idle | pinged | muted => exact .inl rfl
  | pingFailed _ _ _ _ closed => exact .inr closed.reject_state
  | silent _ _ closed => exact .inr closed.reject_state

theorem tick_state (cb : Callbacks σ) (now : Nat) (s : ConSm × σ) :
    (tick cb now s).1.state = s.1.state ∨ (tick cb now s).1.state = .disconnected := by
  have first := (tickRsp_table cb now s.1 s.2).state
  have second := (tickPing_table cb now (tickRsp cb now s).1 (tickRsp cb now s).2).state
  rcases second with same | closed
  · rcases first with same' | closed'
    · exact .inl (same.trans same')
    · exact .inr (same.trans closed')
  · exact .inr closed

/-- Into `CONNECTED` there is only the fresh keepalive. -/
theorem Processed.enters {cb : Callbacks σ} {now : Nat} {m : ConSm} {env : σ} {ev : Event}
    {s : ConSm × σ} (table : Processed cb now m env ev s) (up : s.1.state = .connected)
    (fresh : m.state ≠ .connected ∨ ev = .enableRequest) :
    ∃ curReq, s.1 = established now curReq := by
  cases table with
  | ignored deaf =>
    rcases fresh with other | rfl
    · exact absurd up other
    · simp [show m.state = .connected from up, State.ignores] at deaf
  | answered | accepted => exact ⟨_, rfl⟩
  | requested | releasing => simp [requesting] at up
  | requestFailed free | answerFailed free => simp [free] at up
  | answerLost | releaseFailed | released | refused | lost | confirmed => simp at up

theorem Completes.established {cb : Callbacks σ} {s : ConSm × σ} {c : Call} {t0 : Nat}
    (done : Completes cb s c t0) : ∃ curReq, (call cb s c).1 = established t0 curReq := by
  obtain ⟨time, fresh, up⟩ := done
  have other : (∀ now, c ≠ .onFrame .enableRequest now) → s.1.state ≠ .connected :=
    fun request => fresh.resolve_right (request t0)
  cases c with
  | reset => simp [Call.time?] at time
  | connect now =>
    obtain rfl : now = t0 := by simpa [Call.time?] using time
    have idle := other (by simp)
    simp only [call, connect, if_neg idle] at up ⊢
    split at up
    next waiting => simp [waiting] at up
    next free =>
      rw [if_neg free]
      exact (process_table cb .enable now s.1 s.2).enters up (.inl idle)
  | disconnect now =>
    have idle := other (by simp)
    simp only [call, disconnect, if_neg idle] at up
    split at up <;> exact absurd up idle
  | onFrame msgType now =>
    obtain rfl : now = t0 := by simpa [Call.time?] using time
    cases msgType with
    | enableRequest => exact (process_table cb .enableRequest now s.1 s.2).enters up (.inr rfl)
    | enableResponse =>
      exact (process_table cb .accept now s.1 s.2).enters up (.inl (other (by simp)))
    | disableRequest =>
      exact (process_table cb .disableRequest now s.1 s.2).enters up (.inl (other (by simp)))
    | disableResponse =>
      exact (process_table cb .reject now s.1 s.2).enters up (.inl (other (by simp)))
    | pingRequest => exact absurd up (other (by simp))
    | pingResponse => exact absurd up (other (by simp))
  | tick now =>
    rcases tick_state cb now s with same | closed
    · exact absurd (same ▸ up) (other (by simp))
    · simp [call, closed] at up

/-! ### What is sent, along a run -/

theorem pingTimes_append (cb : Callbacks σ) (s : ConSm × σ) (done rest : List Call) :
    pingTimes cb s (done ++ rest) =
      pingTimes cb s done ++ pingTimes cb (done.foldl (call cb) s) rest := by
  induction done generalizing s with
  | nil => rfl
  | cons c more ih => simp only [List.cons_append, pingTimes, ih, List.foldl_cons, List.append_assoc]

theorem pingTimes_snoc (cb : Callbacks σ) (s : ConSm × σ) (done : List Call) (c : Call) :
    pingTimes cb s (done ++ [c]) =
      pingTimes cb s done ++ c.time?.toList.flatMap fun now =>
        List.replicate (pingCount (sentBy cb (done.foldl (call cb) s) c)) now := by
  rw [pingTimes_append]
  simp [pingTimes]

theorem tickTimes_snoc (done : List Call) (c : Call) :
    tickTimes (done ++ [c]) = tickTimes done ++ tickTimes [c] := by
  simp [tickTimes]

theorem call_logged (cb : Callbacks σ) (s : ConSm × σ) (c : Call) :
    call cb s c = seen Prod.fst (call (Callbacks.logged cb) (s.1, (s.2, [])) c) :=
  call_seen (logged_views cb) (s.1, (s.2, [])) c

/-- What a call in `CONNECTED` that keeps the link can do: nothing, move the deadline
after a response, or send a PING_REQUEST that is due. -/
inductive Steady (m : ConSm) (c : Call) : ConSm → List ConMsgType → Prop where
  | quiet (early : ∀ now, c = .tick now → m.pingDeadline = 0 ∨ now < m.pingDeadline)
      (other : ∀ now, c ≠ .onFrame .pingResponse now) : Steady m c m []
  | answered (now : Nat) (response : c = .onFrame .pingResponse now) :
      Steady m c { m with pingRep := 0, pingDeadline := deadline now kPingTimeMs } []
  | pinged (now : Nat) (timed : c = .tick now) (due : 0 < m.pingDeadline) (rep : Nat) :
      Steady m c { m with pingRep := rep, pingDeadline := deadline now kRepeatPingTimeMs }
        [.pingRequest]

theorem TickedPing.steady {cb : Callbacks σ} {now : Nat} {m : ConSm}
    {env : σ × List ConMsgType} {s : ConSm × (σ × List ConMsgType)}
    (table : TickedPing (Callbacks.logged cb) now m env s) (shape : Shape m)
    (up : m.state = .connected) (stays : s.1.state = .connected) :
    ∃ sent, s.2.2 = env.2 ++ sent ∧ Steady m (.tick now) s.1 sent := by
  have ready := shape.ready_iff.mpr (.inl up)
  cases table with
  | idle early =>
    refine ⟨[], (List.append_nil _).symm, .quiet (fun t same => ?_) (by simp)⟩
    cases same
    exact early
  | pinged due =>
    refine ⟨[.pingRequest], rfl, ?_⟩
    rw [if_pos (shape.pingArmed.mpr ready)]
    exact .pinged now rfl due.1 _
  | pingFailed _ _ _ _ closed => simp [closed.reject_state] at stays
  | muted _ _ down => exact absurd ready down
  | silent _ _ closed => simp [closed.reject_state] at stays

/-- In `CONNECTED` every event but ENABLE_REQUEST is ignored or ends the link. -/
theorem Processed.stays {cb : Callbacks σ} {now : Nat} {m : ConSm} {env : σ} {ev : Event}
    {s : ConSm × σ} (table : Processed cb now m env ev s) (up : m.state = .connected)
    (stays : s.1.state = .connected) (calm : ev ≠ .enableRequest) :
    State.ignores m.state ev = true ∧ s = (m, env) := by
  cases table with
  | ignored deaf => exact ⟨deaf, rfl⟩
  | answered => exact absurd rfl calm
  | requested free | requestFailed free | answerFailed free => simp [up] at free
  | accepted waiting => simp [up] at waiting
  | releasing => simp [requesting] at stays
  | answerLost | releaseFailed | released | refused | lost | confirmed => simp at stays

theorem call_steady {cb : Callbacks σ} {s : ConSm × σ} (shape : Shape s.1)
    (up : s.1.state = .connected) (c : Call) (stays : (call cb s c).1.state = .connected)
    (calm : ∀ now, c ≠ .onFrame .enableRequest now) :
    Steady s.1 c (call cb s c).1 (sentBy cb s c) := by
  have seen_stays : (call (Callbacks.logged cb) (s.1, (s.2, [])) c).1.state = .connected := by
    rw [call_logged] at stays
    exact stays
  suffices Steady s.1 c (call (Callbacks.logged cb) (s.1, (s.2, [])) c).1 (sentBy cb s c) by
    rw [call_logged]
    exact this
  unfold sentBy
  cases c with
  | connect now =>
    simp only [call, connect, if_pos up]
    exact .quiet (by simp) (by simp)
  | disconnect now =>
    simp only [call, disconnect, if_pos up] at seen_stays
    have kept := (process_table (Callbacks.logged cb) .disable now { s.1 with pingRep := 0 }
      (s.2, [])).stays up seen_stays (by simp)
    simp [up, State.ignores] at kept
  | reset => simp [call, reset_eq] at seen_stays
  | onFrame msgType now =>
    have same : ∀ ev, ev ≠ .enableRequest →
        (process (Callbacks.logged cb) ev now (s.1, (s.2, []))).1.state = .connected →
        process (Callbacks.logged cb) ev now (s.1, (s.2, [])) = (s.1, (s.2, [])) :=
      fun ev calm stays => ((process_table _ ev now s.1 _).stays up stays calm).2
    simp only [call, onFrame] at seen_stays ⊢
    cases msgType with
    | enableRequest => exact absurd rfl (calm now)
    | enableResponse =>
      rw [same .accept (by simp) seen_stays]
      exact .quiet (by simp) (by simp)
    | disableRequest =>
      rw [same .disableRequest (by simp) seen_stays]
      exact .quiet (by simp) (by simp)
    | disableResponse =>
      rw [same .reject (by simp) seen_stays]
      exact .quiet (by simp) (by simp)
    | pingRequest => exact .quiet (by simp) (by simp)
    | pingResponse =>
      have armed := shape.pingArmed.mpr (shape.ready_iff.mpr (.inl up))
      simp only [schedulePingStd, if_pos armed]
      exact .answered now rfl
  | tick now =>
    have silent : s.1.rspDeadline = 0 :=
      Classical.byContradiction fun armed => by simpa [up] using shape.rsp_phase armed
    have first := (tickRsp_table (Callbacks.logged cb) now s.1 (s.2, [])).quiet silent
    simp only [call, tick, first] at seen_stays ⊢
    obtain ⟨sent, log, steady⟩ :=
      (tickPing_table (Callbacks.logged cb) now s.1 (s.2, [])).steady shape up seen_stays
    rw [log]
    exact steady

/-! ### The deadline is bounded by the latest request -/

/-- The segment is `CONNECTED`, the next PING_REQUEST is due by `bound` (or at a time that
no clock shows), and the latest tick came before. -/
structure Fed (bound last : Nat) (m : ConSm) : Prop where
  up : m.state = .connected
  due : (m.pingDeadline ≠ 0 ∧ m.pingDeadline ≤ bound) ∨ 2 ^ 64 ≤ bound
  early : last < bound

/-- A deadline set from the clock is armed, unless the clock ends before it. -/
theorem deadline_due {now ms bound : Nat} (positive : 0 < ms) (within : now + ms ≤ bound) :
    (deadline now ms ≠ 0 ∧ deadline now ms ≤ bound) ∨ 2 ^ 64 ≤ bound := by
  by_cases wraps : 2 ^ 64 ≤ now + ms
  · exact .inr (by omega)
  · have exact : deadline now ms = now + ms := Nat.mod_eq_of_lt (by omega)
    exact .inl ⟨by omega, by omega⟩

theorem Fed.established (lag t0 : Nat) (curReq : ConMsgType) :
    Fed (dueBy lag t0 []) t0 (established t0 curReq) where
  up := rfl
  due := deadline_due (by decide) (Nat.le_refl (t0 + 1000))
  early := by simp [dueBy]

theorem dueBy_snoc (lag t0 : Nat) (pings : List Nat) (ping : Nat) :
    dueBy lag t0 (pings ++ [ping]) = ping + max 300 (1000 + lag) := by
  simp [dueBy]

/-- A tick that does not send comes before the bound, and one that sends moves it. -/
theorem Steady.fed {lag t0 last now : Nat} {pings : List Nat} {m m' : ConSm} {c : Call}
    {sent : List ConMsgType} (steady : Steady m c m' sent) (fed : Fed (dueBy lag t0 pings) last m)
    (time : c.time? = some now) (clock : now < 2 ^ 64)
    (answers : c = .onFrame .pingResponse now → ∃ ping ∈ pings.getLast?, now ≤ ping + lag) :
    Fed (dueBy lag t0 (pings ++ List.replicate (pingCount sent) now))
      (if c = .tick now then now else last) m' := by
  cases steady with
  | quiet early other =>
    have idle : Fed (dueBy lag t0 pings) (if c = .tick now then now else last) m := by
      split
      next ticked =>
        refine ⟨fed.up, fed.due, ?_⟩
        have before := early now ticked
        have due := fed.due
        omega
      next => exact fed
    simpa [pingCount] using idle
  | answered t response =>
    subst response
    obtain rfl : t = now := by simpa [Call.time?] using time
    obtain ⟨ping, latest, prompt⟩ := answers rfl
    have latest : pings.getLast? = some ping := latest
    have bound : dueBy lag t0 pings = ping + max 300 (1000 + lag) := by simp [dueBy, latest]
    have within : t + kPingTimeMs ≤ dueBy lag t0 pings := by
      rw [bound, kPingTimeMs]
      omega
    have moved : Fed (dueBy lag t0 pings) last
        { m with pingRep := 0, pingDeadline := deadline t kPingTimeMs } :=
      ⟨fed.up, deadline_due (by decide) within, fed.early⟩
    simpa [pingCount] using moved
  | pinged t timed =>
    subst timed
    obtain rfl : t = now := by simpa [Call.time?] using time
    have within : t + kRepeatPingTimeMs ≤ t + max 300 (1000 + lag) := by
      rw [kRepeatPingTimeMs]
      omega
    have one : pings ++ List.replicate (pingCount [.pingRequest]) t = pings ++ [t] := rfl
    rw [one, dueBy_snoc, if_pos rfl]
    exact ⟨fed.up, deadline_due (by decide) within, by omega⟩

/-! ### Whole segments -/

/-- Each PING_REQUEST came in time after the one before it. -/
structure Spaced (lag period t0 : Nat) (pings : List Nat) : Prop where
  first : ∀ ping ∈ pings.head?, ping ≤ t0 + 1000 + period
  next : pings.IsChain fun before after => after ≤ before + max 300 (1000 + lag) + period

theorem Spaced.snoc {lag period t0 now : Nat} {pings : List Nat}
    (spaced : Spaced lag period t0 pings) (intime : now ≤ dueBy lag t0 pings + period) :
    Spaced lag period t0 (pings ++ [now]) := by
  constructor
  · cases pings with
    | nil => simpa [dueBy] using intime
    | cons ping rest => simpa using spaced.first
  · rw [List.isChain_append]
    refine ⟨spaced.next, .singleton now, fun before latest after same => ?_⟩
    obtain rfl : now = after := by simpa using same
    have latest : pings.getLast? = some before := latest
    simpa [dueBy, latest] using intime

theorem paced_snoc {period prev now : Nat} {times : List Nat} :
    Paced period prev (times ++ [now]) ↔
      Paced period prev times ∧ times.getLastD prev ≤ now ∧
        now ≤ times.getLastD prev + period := by
  induction times generalizing prev with
  | nil => simp [Paced]
  | cons t rest ih =>
    simp only [List.cons_append, Paced, ih, List.getLastD_cons, and_assoc]

theorem Segment.before {cb : Callbacks σ} {lag period t0 : Nat} {s : ConSm × σ}
    {done : List Call} {c : Call} (segment : Segment cb lag period t0 s (done ++ [c])) :
    Segment cb lag period t0 s done where
  start := segment.start
  clock := fun c' member => segment.clock c' (by simp [member])
  stays := fun first begun => segment.stays first (begun.trans (List.prefix_append done [c]))
  paced := by
    have paced := segment.paced
    rw [tickTimes_snoc] at paced
    cases c with
    | tick now => exact (paced_snoc.mp paced).1
    | connect | disconnect | reset | onFrame => simpa [tickTimes] using paced
  calm := fun now member => segment.calm now (by simp [member])
  answers := fun first now begun =>
    segment.answers first now (begun.trans (List.prefix_append done [c]))

theorem lastTick_snoc {t0 now : Nat} (done : List Call) {c : Call} (time : c.time? = some now) :
    (tickTimes (done ++ [c])).getLastD t0 =
      if c = .tick now then now else (tickTimes done).getLastD t0 := by
  cases c with
  | tick t =>
    obtain rfl : t = now := by simpa [Call.time?] using time
    simp [tickTimes]
  | connect | disconnect | reset | onFrame => simp [tickTimes]

/-- Only a tick sends, and it sends one PING_REQUEST. -/
theorem Steady.spaced {lag period t0 last now : Nat} {pings : List Nat} {m m' : ConSm} {c : Call}
    {sent : List ConMsgType} (steady : Steady m c m' sent)
    (spaced : Spaced lag period t0 pings) (early : last < dueBy lag t0 pings)
    (soon : c = .tick now → now ≤ last + period) (time : c.time? = some now) :
    Spaced lag period t0 (pings ++ List.replicate (pingCount sent) now) := by
  cases steady with
  | quiet | answered => simpa [pingCount] using spaced
  | pinged t timed =>
    subst timed
    obtain rfl : t = now := by simpa [Call.time?] using time
    have within := soon rfl
    exact spaced.snoc (by omega)

/-- What holds at the end of every segment. -/
theorem Segment.fed {cb : Callbacks σ} {lag period t0 : Nat} {s : ConSm × σ} {calls : List Call}
    (shape : Shape s.1) (curReq : ConMsgType) (fresh : s.1 = established t0 curReq)
    (segment : Segment cb lag period t0 s calls) :
    Fed (dueBy lag t0 (pingTimes cb s calls)) ((tickTimes calls).getLastD t0)
        (calls.foldl (call cb) s).1 ∧
      Spaced lag period t0 (pingTimes cb s calls) := by
  induction calls using List.reverseRecOn with
  | nil =>
    refine ⟨?_, by simp [pingTimes], by simp [pingTimes]⟩
    simpa [fresh, pingTimes, tickTimes] using Fed.established lag t0 curReq
  | append_singleton done c ih =>
    obtain ⟨fed, spaced⟩ := ih segment.before
    have stays := segment.stays _ (List.prefix_refl _)
    rw [List.foldl_append] at stays
    have steady := call_steady (calls_shape cb done s shape) fed.up c stays
      (fun now same => segment.calm now (by simp [same]))
    cases time : c.time? with
    | none =>
      cases c with
      | reset => simp [call, reset_eq] at stays
      | connect | disconnect | onFrame | tick => simp [Call.time?] at time
    | some now =>
      have clock := segment.clock c (by simp) now time
      have answers : c = .onFrame .pingResponse now →
          ∃ ping ∈ (pingTimes cb s done).getLast?, now ≤ ping + lag :=
        fun response => segment.answers done now (response ▸ List.prefix_refl _)
      have soon : c = .tick now → now ≤ (tickTimes done).getLastD t0 + period := by
        rintro rfl
        have paced := segment.paced
        rw [tickTimes_snoc] at paced
        exact (paced_snoc.mp paced).2.2
      have sent : pingTimes cb s (done ++ [c]) = pingTimes cb s done ++
          List.replicate (pingCount (sentBy cb (done.foldl (call cb) s) c)) now := by
        simp [pingTimes_snoc, time]
      rw [sent, lastTick_snoc done time, List.foldl_append]
      exact ⟨steady.fed fed time clock answers, steady.spaced spaced fed.early soon time⟩

/-- After a handshake at `t0`, along every segment that stays `CONNECTED`: the first
PING_REQUEST comes within `1000 + period` ms and each next one within
`max 300 (1000 + lag) + period` ms; no tick passes while one is due, so that they do come;
and with the host's tick and responses at most 1900 ms late no two are further apart than
the 3 s of the board's watchdog. -/
theorem keepalive_feeds (cb : Callbacks σ) (env : σ) (history : List Call) (c0 : Call)
    (lag period t0 : Nat) (calls : List Call)
    (completes : Completes cb (run cb env history) c0 t0)
    (segment : Segment cb lag period t0 (run cb env (history ++ [c0])) calls) :
    let pings := pingTimes cb (run cb env (history ++ [c0])) calls
    (∀ ping ∈ pings.head?, ping ≤ t0 + (1000 + period)) ∧
      pings.IsChain (fun before after => after ≤ before + (max 300 (1000 + lag) + period)) ∧
      (∀ tick ∈ (tickTimes calls).getLast?,
        tick < (pings.getLast?.map (· + max 300 (1000 + lag))).getD (t0 + 1000)) ∧
      (period ≤ 100 → lag ≤ 1900 →
        (t0 :: pings).IsChain (fun before after => after ≤ before + 3000)) := by
  intro pings
  have entered : run cb env (history ++ [c0]) = call cb (run cb env history) c0 := by
    simp [run]
  obtain ⟨curReq, fresh⟩ := completes.established
  have shape : Shape (run cb env (history ++ [c0])).1 := calls_shape cb _ _ .fresh
  obtain ⟨fed, spaced⟩ := segment.fed shape curReq (entered ▸ fresh)
  refine ⟨fun ping member => ?_, ?_, fun tick latest => ?_, fun often prompt => ?_⟩
  · have first := spaced.first ping member
    omega
  · exact spaced.next.imp fun before after near => by omega
  · have early := fed.early
    have latest : (tickTimes calls).getLast? = some tick := latest
    have bound : dueBy lag t0 pings =
        (pings.getLast?.map (· + max 300 (1000 + lag))).getD (t0 + 1000) := by
      unfold dueBy
      cases pings.getLast? <;> rfl
    rw [List.getLastD_eq_getLast?, latest, Option.getD_some] at early
    exact bound ▸ early
  · rw [List.isChain_cons]
    refine ⟨fun ping member => ?_, spaced.next.imp fun before after near => by omega⟩
    have first := spaced.first ping member
    omega

/-- A keepalive that is answered 100 ms late, and the next one. -/
def sampleSegment : List Call :=
  [.tick 1600, .tick 2100, .onFrame .pingResponse 2200, .tick 2600, .tick 3100, .tick 3600]

theorem keepalive_feeds_sample :
    (pingTimes accepting (run accepting () [.connect 1000, .onFrame .enableResponse 1100])
      sampleSegment).IsChain fun before after => after ≤ before + (max 300 (1000 + 100) + 500) := by
  refine (keepalive_feeds accepting () [.connect 1000] (.onFrame .enableResponse 1100) 100 500 1100
    sampleSegment ⟨rfl, .inl (by decide), by decide⟩ ?_).2.1
  have stays : ∀ done ∈ sampleSegment.inits, (done.foldl (call accepting)
      (run accepting () [.connect 1000, .onFrame .enableResponse 1100])).1.state = .connected := by
    decide
  refine ⟨by decide, by decide, fun done begun => stays done ((List.mem_inits _ _).mpr begun),
    by simp [sampleSegment, tickTimes, Paced], by simp [sampleSegment], fun done now begun => ?_⟩
  obtain ⟨rest, split⟩ := begun
  have answer : done = [.tick 1600, .tick 2100] ∧ now = 2200 ∧
      rest = [.tick 2600, .tick 3100, .tick 3600] := by
    simpa [sampleSegment, List.append_eq_cons_iff, List.cons_eq_append_iff] using split
  obtain ⟨rfl, rfl, _⟩ := answer
  exact ⟨2100, by decide, by decide⟩

end Mhost.Link.ConSm
