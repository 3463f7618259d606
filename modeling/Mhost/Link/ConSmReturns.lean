import Mhost.Link.ConSmCallbacks

/-!
# What the return codes say

ConSm.h:48-51 and ConSm.cc:23-38. The guards of `connect` and `disconnect` are written apart
from the transition table. `disconnect` is busy in both transitional states; `connect` is busy
while connecting only, and in DISCONNECTING its event is dropped behind a return code of 0.
-/
namespace Mhost.Link.ConSm
open Proto

variable {σ : Type}

/-- `CONNECTING / DISCONNECTING`, as the comment in `disconnect` has it. -/
def Busy (m : ConSm) : Prop := m.state = .connecting ∨ m.state = .disconnecting

/-- What `code` says of a call that found `m`, left `m'` and handed `sent` to `sendFn`. -/
structure Truthful (done : State) (request : ConMsgType) (m m' : ConSm) (sent : List ConMsgType)
    (code : Int) : Prop where
  taken : code = 0 → m.state = done ∨ request ∈ sent
  busy : code = -1 ↔ Busy m
  untouched : code = -1 → sent = [] ∧ m' = m

/-- A call together with the messages that it hands to `sendFn`. -/
def TruthfulCall (cb : Callbacks σ) (s : ConSm × σ) : Call → Prop
  | .connect now =>
      let (code, m', _, sent) := connect (Callbacks.logged cb) now (s.1, (s.2, []))
      Truthful .connected .enableRequest s.1 m' sent code
  | .disconnect now =>
      let (code, m', _, sent) := disconnect (Callbacks.logged cb) now (s.1, (s.2, []))
      Truthful .disconnected .disableRequest s.1 m' sent code
  | _ => True

/-! ### One call -/

theorem Processed.enable_hands {cb : Callbacks σ} {now : Nat} {m : ConSm} {env : σ}
    {s : ConSm × (σ × List ConMsgType)}
    (table : Processed (Callbacks.logged cb) now m (env, []) .enable s)
    (free : m.state = .disconnected) : .enableRequest ∈ s.2.2 := by
  cases table with
  | ignored deaf => simp [State.ignores, free] at deaf
  | requested | requestFailed => exact List.mem_singleton.mpr rfl

theorem Processed.disable_hands {cb : Callbacks σ} {now : Nat} {m : ConSm} {env : σ}
    {s : ConSm × (σ × List ConMsgType)}
    (table : Processed (Callbacks.logged cb) now m (env, []) .disable s)
    (up : m.state = .connected) : .disableRequest ∈ s.2.2 := by
  cases table with
  | ignored deaf => simp [State.ignores, up] at deaf
  | releasing => exact List.mem_singleton.mpr rfl
  | releaseFailed =>
    rw [lowered_sent]
    exact List.mem_singleton.mpr rfl

theorem busy_iff (m : ConSm) : Busy m ↔ m.state ≠ .connected ∧ m.state ≠ .disconnected := by
  unfold Busy
  cases m.state <;> simp

/-- `DISABLE` is never dropped: the guard lets through what the table knows. -/
theorem disconnect_truthful (cb : Callbacks σ) (s : ConSm × σ) (now : Nat) :
    TruthfulCall cb s (.disconnect now) := by
  obtain ⟨m, env⟩ := s
  simp only [TruthfulCall, disconnect]
  split
  next up =>
    have sent := (process_table (Callbacks.logged cb) .disable now { m with pingRep := 0 }
      (env, [])).disable_hands up
    exact ⟨fun _ => .inr sent, by simp [busy_iff, up], by simp⟩
  next away =>
    split
    next free => exact ⟨fun _ => .inl free, by simp [busy_iff, free], by simp⟩
    next other => exact ⟨by simp, by simp [busy_iff, away, other], fun _ => ⟨rfl, rfl⟩⟩

theorem connect_truthful (cb : Callbacks σ) (s : ConSm × σ) (now : Nat)
    (staying : s.1.state ≠ .disconnecting) : TruthfulCall cb s (.connect now) := by
  obtain ⟨m, env⟩ := s
  simp only [TruthfulCall, connect]
  split
  next up => exact ⟨fun _ => .inl up, by simp [busy_iff, up], by simp⟩
  next away =>
    split
    next waiting => exact ⟨by simp, by simp [Busy, waiting], fun _ => ⟨rfl, rfl⟩⟩
    next other =>
      have free : m.state = .disconnected := by
        cases state : m.state <;> simp_all
      have sent := (process_table (Callbacks.logged cb) .enable now m (env, [])).enable_hands free
      exact ⟨fun _ => .inr sent, by simp [busy_iff, free], by simp⟩

theorem process_leaving (cb : Callbacks σ) (now : Nat) (s : ConSm × σ)
    (leaving : s.1.state = .disconnecting) : process cb .enable now s = s := by
  obtain ⟨m, env⟩ := s
  have table := process_table cb .enable now m env
  generalize process cb .enable now (m, env) = after at table ⊢
  cases table with
  | ignored => rfl
  | requested free | requestFailed free => exact absurd (leaving.symm.trans free) (by decide)

/-- While disconnecting `connect` says that it is done, and hands over nothing. -/
theorem connect_dropped (cb : Callbacks σ) (s : ConSm × σ) (now : Nat)
    (leaving : s.1.state = .disconnecting) : connect cb now s = (0, s) := by
  unfold connect
  rw [if_neg (by simp [leaving]), if_neg (by simp [leaving]), process_leaving cb now s leaving]

theorem connect_truthful_iff (cb : Callbacks σ) (s : ConSm × σ) (now : Nat) :
    TruthfulCall cb s (.connect now) ↔ s.1.state ≠ .disconnecting := by
  refine ⟨fun truthful leaving => ?_, connect_truthful cb s now⟩
  simp only [TruthfulCall, connect_dropped (Callbacks.logged cb) (s.1, (s.2, [])) now leaving]
    at truthful
  rcases truthful.taken rfl with up | sent
  · simp [leaving] at up
  · simp at sent

/-! ### Whole runs -/

/-- In every reachable state `disconnect` tells the truth, and `connect` does exactly outside
DISCONNECTING; the runs whose return codes are all true are those that never call `connect`
there. -/
theorem return_codes_truthful_iff (cb : Callbacks σ) (env : σ) (calls : List Call) :
    (∀ now, TruthfulCall cb (run cb env calls) (.disconnect now)) ∧
      (∀ now, TruthfulCall cb (run cb env calls) (.connect now) ↔
        (run cb env calls).1.state ≠ .disconnecting) ∧
      ((∀ past c future, calls = past ++ c :: future → TruthfulCall cb (run cb env past) c) ↔
        ∀ past now future, calls = past ++ .connect now :: future →
          (run cb env past).1.state ≠ .disconnecting) := by
  refine ⟨disconnect_truthful cb _, connect_truthful_iff cb _, fun all past now future split => ?_,
    fun staying past c future split => ?_⟩
  · exact (connect_truthful_iff cb _ now).mp (all past _ future split)
  · cases c with
    | connect now => exact (connect_truthful_iff cb _ now).mpr (staying past now future split)
    | disconnect now => exact disconnect_truthful cb _ now
    | reset | onFrame | tick => trivial

/-- Connected, then on the way down. -/
def tearingDown : List Call := [.connect 1000, .onFrame .enableResponse 1100, .disconnect 1200]

/-- The link goes down, `connect` returns 0, and neither a message nor a change follows. -/
theorem connect_accepts_nothing :
    let cb : Callbacks Unit := ⟨fun _ env => (true, env), fun _ env => env⟩
    (run cb () tearingDown).1.state = .disconnecting ∧
      connect (Callbacks.logged cb) 1300 ((run cb () tearingDown).1, ((), [])) =
        (0, ((run cb () tearingDown).1, ((), []))) ∧
      ¬ TruthfulCall cb (run cb () tearingDown) (.connect 1300) := by
  intro cb
  have leaving : (run cb () tearingDown).1.state = .disconnecting := by decide
  refine ⟨leaving, connect_dropped _ _ 1300 leaving, fun truthful => ?_⟩
  exact (connect_truthful_iff cb _ 1300).mp truthful leaving

end Mhost.Link.ConSm
