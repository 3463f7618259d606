import Mhost.Library.History
import Mhost.Link.ConSmCallbacks

/-!
# What the owner of a link is told

ConSm.cc:40-50, 119-282. `comm_` is written in four places and reported later, when the
deferred actions are carried out. Every report is noted with the call that made it and the
state before that call. A report then differs from the one before, with one exception: a
board that comes back from a reset is answered with `READY` again.
-/
namespace Mhost.Link
open Proto
open Library (Throughout throughout_nil throughout_snoc lastWritten lastWritten_snoc)

variable {σ : Type}

/-- One call of `commCb_`. -/
structure Told where
  /-- `state_` before the public call, and that call -/
  state : State
  call : ConSm.Call
  comm : CommState
  deriving DecidableEq, Repr

/-- An ENABLE_REQUEST was received in CONNECTED. -/
def Told.ofReset (t : Told) : Prop :=
  t.state = .connected ∧ ∃ now, t.call = .onFrame .enableRequest now

/-- The callbacks during one call, with a record of every report. -/
def Callbacks.telling (cb : Callbacks σ) (state : State) (c : ConSm.Call) :
    Callbacks (σ × List Told) where
  sendFn msgType env := ((cb.sendFn msgType env.1).1, (cb.sendFn msgType env.1).2, env.2)
  commCb comm env := (cb.commCb comm env.1, env.2 ++ [⟨state, c, comm⟩])

/-- The value last reported; nothing reported stands for `NOT_READY`. -/
def reported (told : List Told) : CommState := lastWritten (fun t => some t.comm) .notReady told

/-- A report is an edge, or a repeated `READY` after a reset of the board. -/
def Edge (past : List Told) (t : Told) : Prop :=
  t.comm ≠ reported past ∨ t.comm = .ready ∧ t.ofReset

structure Mirrors (comm : CommState) (told : List Told) : Prop where
  edges : Throughout Edge told
  last : reported told = comm

theorem reported_snoc (told : List Told) (t : Told) : reported (told ++ [t]) = t.comm := by
  rw [reported, lastWritten_snoc]
  rfl

theorem Mirrors.fresh : Mirrors .notReady [] := ⟨throughout_nil, rfl⟩

theorem Mirrors.tell {comm : CommState} {told : List Told} (mirrors : Mirrors comm told) {t : Told}
    (edge : t.comm ≠ comm ∨ t.comm = .ready ∧ t.ofReset) : Mirrors t.comm (told ++ [t]) := by
  refine ⟨throughout_snoc.mpr ⟨mirrors.edges, ?_⟩, reported_snoc told t⟩
  rw [Edge, mirrors.last]
  exact edge

namespace ConSm

/-- A run with the record of its reports. -/
def toldCall (cb : Callbacks σ) (s : ConSm × (σ × List Told)) (c : Call) :
    ConSm × (σ × List Told) :=
  call (cb.telling s.1.state c) s c

def toldRun (cb : Callbacks σ) (env : σ) (calls : List Call) : ConSm × (σ × List Told) :=
  calls.foldl (toldCall cb) ({}, (env, []))

/-! ### One event -/

variable {cb : Callbacks σ} {state : State} {c : Call} {now : Nat} {m : ConSm}
  {env : σ × List Told} {s : ConSm × (σ × List Told)}

theorem lowered_mirrors (mirrors : Mirrors m.comm env.2) :
    Mirrors .notReady (lowered (cb.telling state c) m env).2 := by
  unfold lowered
  cases comm : m.comm with
  | notReady => simpa [comm] using mirrors
  | ready => exact mirrors.tell (t := ⟨state, c, .notReady⟩) (.inl (by simp [comm]))

/-- `READY` is news, unless the link was up and the board asks for it again. -/
theorem raised_mirrors (mirrors : Mirrors m.comm env.2) (shape : Shape m)
    (awake : m.state ≠ .disconnecting)
    (asked : m.state = .connected → (⟨state, c, .ready⟩ : Told).ofReset) :
    Mirrors .ready ((cb.telling state c).commCb .ready env).2 := by
  apply mirrors.tell (t := ⟨state, c, .ready⟩)
  cases comm : m.comm with
  | notReady => exact .inl (by simp)
  | ready =>
    have connected := (shape.ready_iff.mp comm).resolve_right awake
    exact .inr ⟨rfl, asked connected⟩

theorem Processed.mirrors {ev : Event} (table : Processed (cb.telling state c) now m env ev s)
    (shape : Shape m) (mirrors : Mirrors m.comm env.2)
    (asked : ev = .enableRequest → m.state = .connected → (⟨state, c, .ready⟩ : Told).ofReset) :
    Mirrors s.1.comm s.2.2 := by
  cases table with
  | ignored | requested | requestFailed | answerFailed | releasing | refused => exact mirrors
  | answered awake => exact raised_mirrors mirrors shape awake (asked rfl)
  | answerLost open' =>
    have awake : m.state ≠ .disconnecting := by
      rcases open' with waiting | up
      · simp [waiting]
      · simp [up]
    have up : Mirrors .ready ((cb.telling state c).commCb .ready env).2 :=
      raised_mirrors mirrors shape awake (asked rfl)
    exact up.tell (t := ⟨state, c, .notReady⟩) (.inl (by simp))
  | accepted waiting =>
    exact raised_mirrors mirrors shape (by simp [waiting]) (fun up => by simp [waiting] at up)
  | releaseFailed | released | lost | confirmed => exact lowered_mirrors mirrors

/-! ### One call -/

theorem TickedRsp.mirrors (table : TickedRsp (cb.telling state c) now m env s) (shape : Shape m)
    (mirrors : Mirrors m.comm env.2) : Mirrors s.1.comm s.2.2 := by
  cases table with
  | idle | resent => exact mirrors
  | resendFailed _ left phase _ closed =>
    exact closed.mirrors (shape.retried left phase 0) mirrors (fun asked => by cases asked)
  | exhausted _ _ closed => exact closed.mirrors shape.expired mirrors (fun asked => by cases asked)

theorem TickedPing.mirrors (table : TickedPing (cb.telling state c) now m env s) (shape : Shape m)
    (mirrors : Mirrors m.comm env.2) : Mirrors s.1.comm s.2.2 := by
  cases table with
  | idle | pinged | muted => exact mirrors
  | pingFailed _ left up _ closed =>
    exact closed.mirrors (shape.pinged left 0 fun _ => up) mirrors (fun asked => by cases asked)
  | silent _ _ closed => exact closed.mirrors shape.silenced mirrors (fun asked => by cases asked)

theorem toldCall_mirrors (cb : Callbacks σ) (s : ConSm × (σ × List Told)) (shape : Shape s.1)
    (mirrors : Mirrors s.1.comm s.2.2) (c : Call) :
    Mirrors (toldCall cb s c).1.comm (toldCall cb s c).2.2 := by
  obtain ⟨m, env⟩ := s
  unfold toldCall
  cases c with
  | connect now =>
    simp only [call, connect]
    split
    · exact mirrors
    · split
      · exact mirrors
      · exact (process_table _ .enable now m env).mirrors shape mirrors (fun asked => by cases asked)
  | disconnect now =>
    simp only [call, disconnect]
    split
    · have shape' : Shape { m with pingRep := 0 } := { shape with pingRep_le := Nat.zero_le _ }
      exact (process_table _ .disable now _ env).mirrors shape' mirrors (fun asked => by cases asked)
    · split <;> exact mirrors
  | reset =>
    rw [call, reset_eq]
    exact lowered_mirrors mirrors
  | onFrame msgType now =>
    simp only [call, onFrame]
    cases msgType with
    | enableRequest =>
      exact (process_table _ .enableRequest now m env).mirrors shape mirrors
        fun _ up => ⟨up, now, rfl⟩
    | enableResponse | disableRequest | disableResponse =>
      exact (process_table _ _ now m env).mirrors shape mirrors (fun asked => by cases asked)
    | pingRequest | pingResponse => exact mirrors
  | tick now =>
    have first := tickRsp_table (cb.telling m.state (.tick now)) now m env
    exact (tickPing_table _ now _ _).mirrors (first.shape shape) (first.mirrors shape mirrors)

/-! ### Whole runs -/

theorem telling_views (cb : Callbacks σ) (state : State) (c : Call) :
    (cb.telling state c).Views cb Prod.fst :=
  ⟨fun _ _ => rfl, fun _ _ => rfl⟩

/-- The record changes nothing else. -/
theorem toldRun_run (cb : Callbacks σ) (env : σ) (calls : List Call) :
    ((toldRun cb env calls).1, (toldRun cb env calls).2.1) = run cb env calls := by
  have steps (s : ConSm × (σ × List Told)) :
      seen Prod.fst (calls.foldl (toldCall cb) s) = calls.foldl (call cb) (seen Prod.fst s) := by
    induction calls generalizing s with
    | nil => rfl
    | cons c rest ih =>
      simp only [List.foldl_cons, ih, toldCall, call_seen (telling_views cb s.1.state c)]
  exact steps ({}, (env, []))

theorem toldRun_mirrors (cb : Callbacks σ) (env : σ) (calls : List Call) :
    Mirrors (toldRun cb env calls).1.comm (toldRun cb env calls).2.2 := by
  have steps : Shape (toldRun cb env calls).1 ∧
      Mirrors (toldRun cb env calls).1.comm (toldRun cb env calls).2.2 :=
    List.foldlRecOn (motive := fun s : ConSm × (σ × List Told) =>
        Shape s.1 ∧ Mirrors s.1.comm s.2.2) calls _ ⟨.fresh, .fresh⟩
      fun s before c _ => ⟨call_shape _ s before.1 c, toldCall_mirrors cb s before.1 before.2 c⟩
  exact steps.2

/-- With no report of the other value since, the value stands. -/
theorem reported_stays {comm : CommState} (past mid : List Told) (t : Told) (first : t.comm = comm)
    (same : ∀ r ∈ mid, r.comm = comm) : reported (past ++ t :: mid) = comm := by
  rcases List.eq_nil_or_concat mid with rfl | ⟨before, r, rfl⟩
  · rw [reported_snoc, first]
  · have split : past ++ t :: before.concat r = (past ++ t :: before) ++ [r] := by simp
    rw [split, reported_snoc]
    exact same r (by simp)

/-- After every run the value last reported is `comm()`; two `NOT_READY` have a `READY` between
them, and two `READY` without a `NOT_READY` between them come from a board that asks for the
link while it is up. -/
theorem reports_mirror_comm (cb : Callbacks σ) (env : σ) (calls : List Call) :
    ((toldRun cb env calls).1, (toldRun cb env calls).2.1) = run cb env calls ∧
      reported (toldRun cb env calls).2.2 = (run cb env calls).1.comm ∧
      ∀ past t mid t' future, (toldRun cb env calls).2.2 = past ++ t :: mid ++ t' :: future →
        (t.comm = .notReady → t'.comm = .notReady → ∃ r ∈ mid, r.comm = .ready) ∧
          (t.comm = .ready → t'.comm = .ready → (∀ r ∈ mid, r.comm ≠ .notReady) →
            t'.state = .connected ∧ ∃ now, t'.call = .onFrame .enableRequest now) := by
  have ran := toldRun_run cb env calls
  have mirrors := toldRun_mirrors cb env calls
  refine ⟨ran, mirrors.last.trans (congrArg (fun s => s.1.comm) ran), ?_⟩
  intro past t mid t' future split
  have edge := mirrors.edges (past ++ t :: mid) t' future split
  constructor
  · intro down down'
    refine Classical.byContradiction fun none => ?_
    have stays : reported (past ++ t :: mid) = .notReady := by
      refine reported_stays past mid t down fun r member => ?_
      cases comm : r.comm with
      | notReady => rfl
      | ready => exact absurd ⟨r, member, comm⟩ none
    rcases edge with news | ⟨up, _⟩
    · exact news (down'.trans stays.symm)
    · simp [down'] at up
  · intro up up' still
    have stays : reported (past ++ t :: mid) = .ready := by
      refine reported_stays past mid t up fun r member => ?_
      cases comm : r.comm with
      | ready => rfl
      | notReady => exact absurd comm (still r member)
    rcases edge with news | ⟨_, reset⟩
    · exact absurd (up'.trans stays.symm) news
    · exact reset

end ConSm
end Mhost.Link
