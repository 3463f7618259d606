import Mhost.Link.ConSm

/-!
# The transition table of the connection state machine

ConSm.cc:119-282 as a relation: what one `process` call, follow-up included, leaves
in the machine and in the environment. Later files read the table and never unfold `sm`.
-/
namespace Mhost.Link.ConSm
open Proto

variable {σ : Type}

/-! ### At most one follow-up -/

/-- Whatever the guard decides, `comm_` is `NOT_READY` afterwards. -/
theorem lowerComm_eq (m : ConSm) (d : Deferred) :
    m.lowerComm d = ({ m with comm := .notReady },
      { d with fireComm := if m.comm ≠ .notReady then some .notReady else d.fireComm }) := by
  unfold lowerComm
  cases up : m.comm with
  | notReady => obtain ⟨⟩ := m; simp_all
  | ready => simp

theorem flush_followUp (cb : Callbacks σ) (d : Deferred) (now : Nat) (m : ConSm) (env : σ) :
    (m.flush cb d now env).2 = d.send.bind fun sendType =>
      if (cb.sendFn sendType env).1 then
        if sendType = .enableResponse ∨ sendType = .disableResponse then some .accept else none
      else some .reject := by
  unfold flush
  cases d.send with
  | none => rfl
  | some sendType =>
    simp only [Option.bind_some]
    split
    · split <;> rfl
    · rfl

/-- Neither of the two events that `flush` can ask for sends anything. -/
theorem sm_send_none (m : ConSm) : (m.sm .accept).2.send = none ∧ (m.sm .reject).2.send = none := by
  cases state : m.state <;> simp [sm, state, toConnected, toDisconnected, lowerComm_eq]

/-- A follow-up event has no follow-up of its own, whatever `sendFn` returns. -/
theorem followUp_final (cb : Callbacks σ) (ev followUp : Event) (now : Nat) (s : ConSm × σ)
    (asked : (processOnce cb ev now s).2 = some followUp) :
    (processOnce cb followUp now (processOnce cb ev now s).1).2 = none := by
  have either : followUp = .accept ∨ followUp = .reject := by
    simp only [processOnce, flush_followUp, Option.bind_eq_some_iff] at asked
    obtain ⟨sendType, _, chosen⟩ := asked
    split at chosen
    · split at chosen <;> simp_all
    · simp_all
  generalize (processOnce cb ev now s).1 = t
  rcases either with rfl | rfl
  · simp [processOnce, flush_followUp, (sm_send_none t.1).1]
  · simp [processOnce, flush_followUp, (sm_send_none t.1).2]

/-- The recursion of `process` ends by itself: a larger bound changes nothing. -/
theorem processWithin_two (cb : Callbacks σ) (n : Nat) (ev : Event) (now : Nat) (s : ConSm × σ) :
    processWithin cb (n + 2) ev now s = process cb ev now s := by
  unfold process
  rw [processWithin, processWithin]
  rcases first : processOnce cb ev now s with ⟨t, _ | followUp⟩
  · rfl
  · have final := followUp_final cb ev followUp now s (by rw [first])
    rw [first] at final
    rcases second : processOnce cb followUp now t with ⟨u, _ | again⟩
    · simp [processWithin, second]
    · simp [second] at final

/-! ### The table -/

/-- `CONNECTED` with a fresh keepalive, as every way into it leaves the machine. -/
def established (now : Nat) (curReq : ConMsgType) : ConSm :=
  { state := .connected, comm := .ready, pingDeadline := deadline now kPingTimeMs, curReq }

/-- A request of the phase that starts is out, its response timer armed. -/
def requesting (m : ConSm) (phase : State) (request : ConMsgType) (now : Nat) : ConSm :=
  { m with
    state := phase, curReq := request, rspDeadline := deadline now kConRspTimeoutMs }

/-- The `NOT_READY` edge, if there is one. -/
def lowered (cb : Callbacks σ) (m : ConSm) (env : σ) : σ :=
  if m.comm ≠ .notReady then cb.commCb .notReady env else env

def State.ignores : State → Event → Bool
  | .disconnected, ev => ev ≠ .enable ∧ ev ≠ .enableRequest
  | .connecting, ev => ev = .enable ∨ ev = .disableRequest
  | .connected, ev => ev = .enable ∨ ev = .accept
  | .disconnecting, ev => ev ≠ .reject

/-- The outcomes of `process` for each event; `{ curReq }` is `DISCONNECTED` with
every timer and counter cleared. -/
inductive Processed (cb : Callbacks σ) (now : Nat) (m : ConSm) (env : σ) :
    Event → ConSm × σ → Prop where
  | ignored {ev : Event} (deaf : State.ignores m.state ev = true) :
      Processed cb now m env ev (m, env)
  | requested (free : m.state = .disconnected) (sent : (cb.sendFn .enableRequest env).1 = true) :
      Processed cb now m env .enable
        (m.requesting .connecting .enableRequest now, (cb.sendFn .enableRequest env).2)
  | requestFailed (free : m.state = .disconnected)
      (failed : (cb.sendFn .enableRequest env).1 = false) :
      Processed cb now m env .enable
        ({ m with curReq := .enableRequest, rspDeadline := 0, reqRep := 0 },
          (cb.sendFn .enableRequest env).2)
  | answered (awake : m.state ≠ .disconnecting)
      (sent : (cb.sendFn .enableResponse env).1 = true) :
      Processed cb now m env .enableRequest
        (established now .enableResponse, cb.commCb .ready (cb.sendFn .enableResponse env).2)
  | answerFailed (free : m.state = .disconnected)
      (failed : (cb.sendFn .enableResponse env).1 = false) :
      Processed cb now m env .enableRequest
        ({ m with curReq := .enableResponse, rspDeadline := 0, reqRep := 0 },
          (cb.sendFn .enableResponse env).2)
  | answerLost (open' : m.state = .connecting ∨ m.state = .connected)
      (failed : (cb.sendFn .enableResponse env).1 = false) :
      Processed cb now m env .enableRequest
        ({ curReq := .enableResponse },
          cb.commCb .notReady (cb.commCb .ready (cb.sendFn .enableResponse env).2))
  | releasing (open' : m.state = .connecting ∨ m.state = .connected)
      (sent : (cb.sendFn .disableRequest env).1 = true) :
      Processed cb now m env .disable
        (m.requesting .disconnecting .disableRequest now, (cb.sendFn .disableRequest env).2)
  | releaseFailed (open' : m.state = .connecting ∨ m.state = .connected)
      (failed : (cb.sendFn .disableRequest env).1 = false) :
      Processed cb now m env .disable
        ({ curReq := .disableRequest }, lowered cb m (cb.sendFn .disableRequest env).2)
  | released (up : m.state = .connected) :
      Processed cb now m env .disableRequest
        ({ curReq := .disableResponse }, lowered cb m (cb.sendFn .disableResponse env).2)
  | accepted (waiting : m.state = .connecting) :
      Processed cb now m env .accept (established now m.curReq, cb.commCb .ready env)
  | refused (waiting : m.state = .connecting) :
      Processed cb now m env .reject
        ({ m with state := .disconnected, rspDeadline := 0, reqRep := 0 }, env)
  | lost (up : m.state = .connected) :
      Processed cb now m env .reject
        ({ m with state := .disconnected, comm := .notReady, rspDeadline := 0, pingDeadline := 0 },
          lowered cb m env)
  | confirmed (leaving : m.state = .disconnecting) :
      Processed cb now m env .reject ({ curReq := m.curReq }, lowered cb m env)

theorem Processed.of_eq {cb : Callbacks σ} {now : Nat} {m : ConSm} {env : σ} {ev : Event}
    {listed outcome : ConSm × σ} (entry : Processed cb now m env ev listed)
    (same : outcome = listed) : Processed cb now m env ev outcome := same ▸ entry

section
attribute [local simp] process processWithin processOnce sm flush toConnected toDisconnected
  lowerComm_eq schedulePingStd pingArmed established requesting lowered

theorem process_disconnected (cb : Callbacks σ) (ev : Event) (now : Nat) (m : ConSm) (env : σ)
    (free : m.state = .disconnected) :
    Processed cb now m env ev (process cb ev now (m, env)) := by
  cases ev with
  | enable =>
    cases sent : (cb.sendFn .enableRequest env).1 with
    | true => exact (Processed.requested free sent).of_eq (by simp [free, sent])
    | false => exact (Processed.requestFailed free sent).of_eq (by simp [free, sent])
  | enableRequest =>
    cases sent : (cb.sendFn .enableResponse env).1 with
    | true =>
      exact (Processed.answered (by simp [free]) sent).of_eq (by simp [free, sent])
    | false => exact (Processed.answerFailed free sent).of_eq (by simp [free, sent])
  | disable | disableRequest | accept | reject =>
    exact (Processed.ignored (by simp [free, State.ignores])).of_eq (by simp [free])

theorem process_connecting (cb : Callbacks σ) (ev : Event) (now : Nat) (m : ConSm) (env : σ)
    (waiting : m.state = .connecting) :
    Processed cb now m env ev (process cb ev now (m, env)) := by
  cases ev with
  | enable | disableRequest =>
    exact (Processed.ignored (by simp [waiting, State.ignores])).of_eq (by simp [waiting])
  | enableRequest =>
    cases sent : (cb.sendFn .enableResponse env).1 with
    | true =>
      exact (Processed.answered (by simp [waiting]) sent).of_eq (by simp [waiting, sent])
    | false => exact (Processed.answerLost (.inl waiting) sent).of_eq (by simp [waiting, sent])
  | disable =>
    cases sent : (cb.sendFn .disableRequest env).1 with
    | true => exact (Processed.releasing (.inl waiting) sent).of_eq (by simp [waiting, sent])
    | false =>
      exact (Processed.releaseFailed (.inl waiting) sent).of_eq
        (by cases comm : m.comm <;> simp [waiting, sent, comm])
  | accept => exact (Processed.accepted waiting).of_eq (by simp [waiting])
  | reject => exact (Processed.refused waiting).of_eq (by simp [waiting])

theorem process_connected (cb : Callbacks σ) (ev : Event) (now : Nat) (m : ConSm) (env : σ)
    (up : m.state = .connected) :
    Processed cb now m env ev (process cb ev now (m, env)) := by
  cases ev with
  | enable | accept =>
    exact (Processed.ignored (by simp [up, State.ignores])).of_eq (by simp [up])
  | enableRequest =>
    cases sent : (cb.sendFn .enableResponse env).1 with
    | true => exact (Processed.answered (by simp [up]) sent).of_eq (by simp [up, sent])
    | false => exact (Processed.answerLost (.inr up) sent).of_eq (by simp [up, sent])
  | disable =>
    cases sent : (cb.sendFn .disableRequest env).1 with
    | true => exact (Processed.releasing (.inr up) sent).of_eq (by simp [up, sent])
    | false =>
      exact (Processed.releaseFailed (.inr up) sent).of_eq (by cases comm : m.comm <;> simp [up, sent, comm])
  | disableRequest =>
    exact (Processed.released up).of_eq (by
      cases sent : (cb.sendFn .disableResponse env).1 <;> cases comm : m.comm <;>
        simp [up, sent, comm])
  | reject => exact (Processed.lost up).of_eq (by cases comm : m.comm <;> simp [up, comm])

theorem process_disconnecting (cb : Callbacks σ) (ev : Event) (now : Nat) (m : ConSm) (env : σ)
    (leaving : m.state = .disconnecting) :
    Processed cb now m env ev (process cb ev now (m, env)) := by
  cases ev with
  | reject => exact (Processed.confirmed leaving).of_eq (by cases comm : m.comm <;> simp [leaving, comm])
  | enable | enableRequest | disable | disableRequest | accept =>
    exact (Processed.ignored (by simp [leaving, State.ignores])).of_eq (by simp [leaving])

end

theorem process_table (cb : Callbacks σ) (ev : Event) (now : Nat) (m : ConSm) (env : σ) :
    Processed cb now m env ev (process cb ev now (m, env)) := by
  cases state : m.state with
  | disconnected => exact process_disconnected cb ev now m env state
  | connecting => exact process_connecting cb ev now m env state
  | connected => exact process_connected cb ev now m env state
  | disconnecting => exact process_disconnecting cb ev now m env state

/-- `REJECT` ends in `DISCONNECTED` from every state. -/
theorem Processed.reject_state {cb : Callbacks σ} {now : Nat} {m : ConSm} {env : σ}
    {s : ConSm × σ} (table : Processed cb now m env .reject s) :
    s.1.state = .disconnected := by
  cases table with
  | ignored deaf => cases state : m.state <;> simp_all [State.ignores]
  | refused | lost | confirmed => rfl

/-! ### The two halves of `tick` -/

/-- The outcomes of the response timeout. -/
inductive TickedRsp (cb : Callbacks σ) (now : Nat) (m : ConSm) (env : σ) : ConSm × σ → Prop where
  | idle (early : m.rspDeadline = 0 ∨ now < m.rspDeadline) : TickedRsp cb now m env (m, env)
  | resent (due : 0 < m.rspDeadline ∧ m.rspDeadline ≤ now) (left : m.reqRep < kConRetryMax)
      (phase : m.state = .connecting ∨ m.state = .disconnecting)
      (sent : (cb.sendFn m.curReq env).1 = true) :
      TickedRsp cb now m env
        ({ m with rspDeadline := deadline now kConRspTimeoutMs, reqRep := m.reqRep + 1 },
          (cb.sendFn m.curReq env).2)
  | resendFailed (due : 0 < m.rspDeadline ∧ m.rspDeadline ≤ now) (left : m.reqRep < kConRetryMax)
      (phase : m.state = .connecting ∨ m.state = .disconnecting)
      (failed : (cb.sendFn m.curReq env).1 = false) {s : ConSm × σ}
      (closed : Processed cb now { m with rspDeadline := 0, reqRep := m.reqRep + 1 }
        (cb.sendFn m.curReq env).2 .reject s) : TickedRsp cb now m env s
  | exhausted (due : 0 < m.rspDeadline ∧ m.rspDeadline ≤ now)
      (spent : m.reqRep < kConRetryMax → ¬ (m.state = .connecting ∨ m.state = .disconnecting))
      {s : ConSm × σ} (closed : Processed cb now { m with rspDeadline := 0 } env .reject s) :
      TickedRsp cb now m env s

theorem tickRsp_table (cb : Callbacks σ) (now : Nat) (m : ConSm) (env : σ) :
    TickedRsp cb now m env (tickRsp cb now (m, env)) := by
  unfold tickRsp
  simp only
  split
  next due =>
    split
    next retrying =>
      cases sent : (cb.sendFn m.curReq env).1 with
      | true =>
        simp only [if_true]
        exact .resent due retrying.1 retrying.2 sent
      | false =>
        simp only [Bool.false_eq_true, if_false]
        exact .resendFailed due retrying.1 retrying.2 sent (process_table ..)
    next spent => exact .exhausted due (fun left phase => spent ⟨left, phase⟩) (process_table ..)
  next early => exact .idle (by omega)

/-- The outcomes of the keepalive timeout. -/
inductive TickedPing (cb : Callbacks σ) (now : Nat) (m : ConSm) (env : σ) : ConSm × σ → Prop where
  | idle (early : m.pingDeadline = 0 ∨ now < m.pingDeadline) : TickedPing cb now m env (m, env)
  | pinged (due : 0 < m.pingDeadline ∧ m.pingDeadline ≤ now) (left : m.pingRep ≤ kMaxPingRepeat)
      (up : m.comm = .ready) (sent : (cb.sendFn .pingRequest env).1 = true) :
      TickedPing cb now m env
        ({ m with
            pingDeadline := if m.pingArmed then deadline now kRepeatPingTimeMs else 0
            pingRep := m.pingRep + 1 },
          (cb.sendFn .pingRequest env).2)
  | pingFailed (due : 0 < m.pingDeadline ∧ m.pingDeadline ≤ now)
      (left : m.pingRep ≤ kMaxPingRepeat) (up : m.comm = .ready)
      (failed : (cb.sendFn .pingRequest env).1 = false) {s : ConSm × σ}
      (closed : Processed cb now { m with pingDeadline := 0, pingRep := m.pingRep + 1 }
        (cb.sendFn .pingRequest env).2 .reject s) : TickedPing cb now m env s
  | muted (due : 0 < m.pingDeadline ∧ m.pingDeadline ≤ now) (left : m.pingRep ≤ kMaxPingRepeat)
      (down : m.comm ≠ .ready) :
      TickedPing cb now m env ({ m with pingDeadline := 0, pingRep := m.pingRep + 1 }, env)
  | silent (due : 0 < m.pingDeadline ∧ m.pingDeadline ≤ now) (spent : kMaxPingRepeat < m.pingRep)
      {s : ConSm × σ} (closed : Processed cb now { m with pingDeadline := 0 } env .reject s) :
      TickedPing cb now m env s

theorem tickPing_table (cb : Callbacks σ) (now : Nat) (m : ConSm) (env : σ) :
    TickedPing cb now m env (tickPing cb now (m, env)) := by
  unfold tickPing
  simp only
  split
  next due =>
    split
    next left =>
      split
      next up =>
        cases sent : (cb.sendFn .pingRequest env).1 with
        | true =>
          have outcome := TickedPing.pinged due left up sent
          rw [if_pos rfl]
          split
          next armed =>
            rw [if_pos (show m.pingArmed = true from armed)] at outcome
            exact outcome
          next bare =>
            rw [if_neg (show ¬ m.pingArmed = true from bare)] at outcome
            exact outcome
        | false =>
          simp only [Bool.false_eq_true, if_false]
          exact .pingFailed due left up sent (process_table ..)
      next down => exact .muted due left down
    next spent => exact .silent due (Nat.lt_of_not_le spent) (process_table ..)
  next early => exact .idle (by omega)

end Mhost.Link.ConSm
