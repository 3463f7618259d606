import Mhost.Link.ConSmInvariant

/-!
# What the owner of a link can rely on

The machine reaches its owner through `sendFn_` and `commCb_` alone (ConSm.h:45-47). A
property of `comm_` and of what the owner keeps therefore survives every call, once each
of the two callbacks preserves it.
-/
namespace Mhost.Link
open Proto

variable {σ : Type}

/-- Sending leaves `comm_` as it is; a report carries the property over to the new value. -/
structure Callbacks.Keeps (cb : Callbacks σ) (holds : CommState → σ → Prop) : Prop where
  send : ∀ comm msgType env, holds comm env → holds comm (cb.sendFn msgType env).2
  report : ∀ old comm env, holds old env → holds comm (cb.commCb comm env)

namespace ConSm
variable {cb : Callbacks σ} {holds : CommState → σ → Prop} {now : Nat} {m : ConSm} {env : σ}
  {s : ConSm × σ}

theorem lowered_keeps (keeps : cb.Keeps holds) (before : holds m.comm env) :
    holds .notReady (lowered cb m env) := by
  unfold lowered
  cases comm : m.comm with
  | notReady => simpa [comm] using before
  | ready => exact keeps.report _ .notReady env before

theorem Processed.keeps {ev : Event} (table : Processed cb now m env ev s)
    (keeps : cb.Keeps holds) (before : holds m.comm env) : holds s.1.comm s.2 := by
  cases table with
  | ignored => exact before
  | requested | requestFailed | answerFailed | releasing => exact keeps.send _ _ _ before
  | answered => exact keeps.report _ _ _ (keeps.send _ _ _ before)
  | answerLost => exact keeps.report _ _ _ (keeps.report _ _ _ (keeps.send _ _ _ before))
  | releaseFailed | released => exact lowered_keeps keeps (keeps.send _ _ _ before)
  | accepted => exact keeps.report _ _ _ before
  | refused => exact before
  | lost | confirmed => exact lowered_keeps keeps before

theorem TickedRsp.keeps (table : TickedRsp cb now m env s) (keeps : cb.Keeps holds)
    (before : holds m.comm env) : holds s.1.comm s.2 := by
  cases table with
  | idle => exact before
  | resent => exact keeps.send _ _ _ before
  | resendFailed _ _ _ _ closed =>
    exact closed.keeps keeps (keeps.send m.comm m.curReq env before)
  | exhausted _ _ closed => exact closed.keeps keeps before

theorem TickedPing.keeps (table : TickedPing cb now m env s) (keeps : cb.Keeps holds)
    (before : holds m.comm env) : holds s.1.comm s.2 := by
  cases table with
  | idle => exact before
  | pinged => exact keeps.send _ _ _ before
  | pingFailed _ _ _ _ closed =>
    exact closed.keeps keeps (keeps.send m.comm .pingRequest env before)
  | muted => exact before
  | silent _ _ closed => exact closed.keeps keeps before

/-- Any call, from any state of the machine. -/
theorem call_keeps (keeps : cb.Keeps holds) (c : Call) (before : holds s.1.comm s.2) :
    holds (call cb s c).1.comm (call cb s c).2 := by
  obtain ⟨m, env⟩ := s
  cases c with
  | connect now =>
    simp only [call, connect]
    split
    · exact before
    · split
      · exact before
      · exact (process_table cb .enable now m env).keeps keeps before
  | disconnect now =>
    simp only [call, disconnect]
    split
    · exact (process_table cb .disable now { m with pingRep := 0 } env).keeps keeps before
    · split <;> exact before
  | reset =>
    rw [call, reset_eq]
    exact lowered_keeps keeps before
  | onFrame msgType now =>
    simp only [call, onFrame]
    cases msgType with
    | enableRequest | enableResponse | disableRequest | disableResponse =>
      exact (process_table cb _ now m env).keeps keeps before
    | pingRequest | pingResponse => exact before
  | tick now =>
    have first := (tickRsp_table cb now m env).keeps keeps before
    exact (tickPing_table cb now _ _).keeps keeps first

end ConSm

/-! ### Two owners that cannot be told apart -/

/-- `view` maps what one owner keeps to what the other does, and the machine hears the
same answers from both. -/
structure Callbacks.Views {τ : Type} (cb : Callbacks σ) (cb' : Callbacks τ) (view : σ → τ) :
    Prop where
  send : ∀ msgType env,
    cb'.sendFn msgType (view env) = ((cb.sendFn msgType env).1, view (cb.sendFn msgType env).2)
  report : ∀ comm env, cb'.commCb comm (view env) = view (cb.commCb comm env)

namespace ConSm
variable {τ : Type} {cb : Callbacks σ} {cb' : Callbacks τ} {view : σ → τ}

/-- The record of what is sent changes nothing else. -/
theorem logged_views (cb : Callbacks σ) : (Callbacks.logged cb).Views cb Prod.fst :=
  ⟨fun _ _ => rfl, fun _ _ => rfl⟩

/-- The same machine, over the environment that is seen. -/
def seen (view : σ → τ) (s : ConSm × σ) : ConSm × τ := (s.1, view s.2)

theorem flush_seen (views : cb.Views cb' view) (d : Deferred) (now : Nat) (m : ConSm) (env : σ) :
    m.flush cb' d now (view env) =
      (seen view (m.flush cb d now env).1, (m.flush cb d now env).2) := by
  obtain ⟨send, cancelRsp, cancelPing, armPing, fireComm⟩ := d
  cases send with
  | none => cases fireComm <;> simp [flush, seen, views.report]
  | some sendType =>
    cases sent : (cb.sendFn sendType env).1 with
    | false => cases fireComm <;> simp [flush, seen, views.send, views.report, sent]
    | true =>
      by_cases answer : sendType = .enableResponse ∨ sendType = .disableResponse
      · cases fireComm <;> simp [flush, seen, views.send, views.report, sent, answer]
      · cases fireComm <;> simp [flush, seen, views.send, views.report, sent, answer]

theorem processWithin_seen (views : cb.Views cb' view) (n : Nat) (ev : Event) (now : Nat)
    (s : ConSm × σ) :
    processWithin cb' n ev now (seen view s) = seen view (processWithin cb n ev now s) := by
  induction n generalizing ev s with
  | zero => rfl
  | succ n ih =>
    have once : processOnce cb' ev now (seen view s) =
        (seen view (processOnce cb ev now s).1, (processOnce cb ev now s).2) :=
      flush_seen views (s.1.sm ev).2 now (s.1.sm ev).1 s.2
    rw [processWithin, once, processWithin]
    rcases processOnce cb ev now s with ⟨t, _ | followUp⟩
    · rfl
    · exact ih followUp t

theorem process_seen (views : cb.Views cb' view) (ev : Event) (now : Nat) (s : ConSm × σ) :
    process cb' ev now (seen view s) = seen view (process cb ev now s) :=
  processWithin_seen views 2 ev now s

theorem tickRsp_seen (views : cb.Views cb' view) (now : Nat) (s : ConSm × σ) :
    tickRsp cb' now (seen view s) = seen view (tickRsp cb now s) := by
  obtain ⟨m, env⟩ := s
  simp only [tickRsp, seen, views.send]
  split
  · split
    · cases sent : (cb.sendFn m.curReq env).1 with
      | true => rfl
      | false => exact process_seen views .reject now (_, (cb.sendFn m.curReq env).2)
    · exact process_seen views .reject now (_, env)
  · rfl

theorem tickPing_seen (views : cb.Views cb' view) (now : Nat) (s : ConSm × σ) :
    tickPing cb' now (seen view s) = seen view (tickPing cb now s) := by
  obtain ⟨m, env⟩ := s
  simp only [tickPing, seen, views.send]
  split
  · split
    · split
      · cases sent : (cb.sendFn .pingRequest env).1 with
        | true =>
          simp only [if_true]
          split <;> rfl
        | false => exact process_seen views .reject now (_, (cb.sendFn .pingRequest env).2)
      · rfl
    · exact process_seen views .reject now (_, env)
  · rfl

theorem lowered_seen (views : cb.Views cb' view) (m : ConSm) (env : σ) :
    lowered cb' m (view env) = view (lowered cb m env) := by
  unfold lowered
  split
  · exact views.report .notReady env
  · rfl

/-- A call behaves the same for both owners. -/
theorem call_seen (views : cb.Views cb' view) (s : ConSm × σ) (c : Call) :
    call cb' (seen view s) c = seen view (call cb s c) := by
  cases c with
  | connect now =>
    simp only [call, connect, show (seen view s).1 = s.1 from rfl]
    split
    · rfl
    · split
      · rfl
      · exact process_seen views .enable now s
  | disconnect now =>
    simp only [call, disconnect, show (seen view s).1 = s.1 from rfl]
    split
    · exact process_seen views .disable now ({ s.1 with pingRep := 0 }, s.2)
    · split <;> rfl
  | reset =>
    rw [call, call, reset_eq, reset_eq]
    simp only [seen, lowered_seen views]
  | onFrame msgType now =>
    cases msgType with
    | enableRequest => exact process_seen views .enableRequest now s
    | enableResponse => exact process_seen views .accept now s
    | disableRequest => exact process_seen views .disableRequest now s
    | disableResponse => exact process_seen views .reject now s
    | pingRequest | pingResponse => rfl
  | tick now =>
    simp only [call, tick, tickRsp_seen views, tickPing_seen views]

end ConSm
end Mhost.Link
