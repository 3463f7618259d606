import Mhost.Link.ConSmKeepalive

/-!
# A link is not given up early

ConSm.cc:79-115 and 236-247, the other side of the dead peer: what a tick must have waited for before
it takes a `CONNECTED` link down. Each keepalive request moves the deadline by 300 ms, each sign
of the board by 1000 ms.
-/
namespace Mhost.Link.ConSm
open Proto

variable {σ : Type} {cb : Callbacks σ} {m : ConSm} {heard now : Nat} {pings : List Nat}

/-- The board was heard at `heard`, and asked at `pings` since then. -/
structure Patient (m : ConSm) (heard : Nat) (pings : List Nat) : Prop where
  rep : m.pingRep = pings.length
  due : m.pingDeadline = (pings.getLast?.map (· + 300)).getD (heard + 1000)
  first : ∀ ping ∈ pings.head?, heard + 1000 ≤ ping
  next : pings.IsChain fun before after => before + 300 ≤ after

/-- A sign of the board: the handshake is complete, or a PING_RESPONSE has come. -/
def Sign (cb : Callbacks σ) (s : ConSm × σ) (c : Call) (heard : Nat) : Prop :=
  Completes cb s c heard ∨ c = .onFrame .pingResponse heard

/-- The calls up to the latest sign `c` of the board, and those after it. -/
structure Vigil (cb : Callbacks σ) (env : σ) (history done : List Call) (c : Call)
    (rest : List Call) (heard : Nat) : Prop where
  split : history = done ++ c :: rest
  sign : Sign cb (run cb env done) c heard
  silent : ∀ now, .onFrame .pingResponse now ∉ rest
  patient : Patient (run cb env history).1 heard (pingTimes cb (run cb env (done ++ [c])) rest)

theorem Patient.fresh (curReq : ConMsgType) (fits : Fits heard) :
    Patient (established heard curReq) heard [] := by
  refine ⟨rfl, ?_, by simp, .nil⟩
  exact fits.deadline_eq (Nat.le_refl _)

/-- One more request, where the deadline has passed. -/
theorem Patient.snoc (patient : Patient m heard pings) (due : m.pingDeadline ≤ now) (fits : Fits now) :
    Patient { m with pingDeadline := deadline now kRepeatPingTimeMs, pingRep := m.pingRep + 1 }
      heard (pings ++ [now]) := by
  have deadline : deadline now kRepeatPingTimeMs = now + 300 := fits.deadline_eq (by decide)
  rw [patient.due] at due
  refine ⟨by simp [patient.rep], by simp [deadline], ?_, ?_⟩
  · cases pings with
    | nil => simpa using due
    | cons ping rest => simpa using patient.first
  · rw [List.isChain_append]
    refine ⟨patient.next, .singleton now, fun before latest after same => ?_⟩
    obtain rfl : now = after := by simpa using same
    have latest : pings.getLast? = some before := latest
    simpa [latest] using due

/-! ### One call -/

theorem TickedPing.patient {m : ConSm} {env : σ × List ConMsgType} {s : ConSm × (σ × List ConMsgType)}
    (table : TickedPing (Callbacks.logged cb) now m env s) (shape : Shape m) (up : m.state = .connected)
    (stays : s.1.state = .connected) (fits : Fits now) (patient : Patient m heard pings) :
    ∃ sent, s.2.2 = env.2 ++ sent ∧ Patient s.1 heard (pings ++ List.replicate (pingCount sent) now) := by
  have ready := shape.ready_iff.mpr (.inl up)
  cases table with
  | idle early => exact ⟨[], (List.append_nil _).symm, by simpa [pingCount] using patient⟩
  | pinged due =>
    refine ⟨[.pingRequest], rfl, ?_⟩
    rw [if_pos (shape.pingArmed.mpr ready)]
    exact patient.snoc due.2 fits
  | pingFailed _ _ _ _ closed => simp [closed.reject_state] at stays
  | muted _ _ down => exact absurd ready down
  | silent _ _ closed => simp [closed.reject_state] at stays

theorem Vigil.start {env : σ} {history : List Call} {c : Call} {heard : Nat}
    (sign : Sign cb (run cb env history) c heard)
    (patient : Patient (run cb env (history ++ [c])).1 heard []) :
    Vigil cb env (history ++ [c]) history c [] heard :=
  ⟨rfl, sign, by simp, patient⟩

end Mhost.Link.ConSm
