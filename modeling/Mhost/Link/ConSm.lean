import Mathlib.Algebra.Ring.Nat
import Mhost.Proto.FrameDefs

/-!
# The connection state machine

ConSm.h:22-108 and ConSm.cc:20-282. `sendFn_` and `commCb_` act on an environment of
any type, so that a run quantifies over every sequence of send results. Times are
`uint64_t` milliseconds, with the wrap of `now + k` written out. Log lines are left out.
-/
namespace Mhost.Link
open Proto

inductive State where
  | disconnected | connecting | connected | disconnecting
  deriving DecidableEq, Repr

inductive CommState where
  | notReady | ready
  deriving DecidableEq, Repr

inductive Event where
  | enable | enableRequest | disable | disableRequest | accept | reject
  deriving DecidableEq, Repr

def kPingTimeMs : Nat := 1000
def kRepeatPingTimeMs : Nat := 300
def kMaxPingRepeat : Nat := 2
def kConRspTimeoutMs : Nat := 400
def kConRetryMax : Nat := 5

/-- `nowMs + ms` in `uint64_t`. -/
def deadline (now ms : Nat) : Nat := (now + ms) % 2 ^ 64

def State.name : State → String
  | .disconnected => "DISCONNECTED"
  | .connecting => "CONNECTING"
  | .connected => "CONNECTED"
  | .disconnecting => "DISCONNECTING"

def CommState.name : CommState → String
  | .ready => "READY"
  | .notReady => "NOT_READY"

/-- `SendFn` and `CommCb`, over whatever they reach. -/
structure Callbacks (σ : Type) where
  sendFn : ConMsgType → σ → Bool × σ
  commCb : CommState → σ → σ

/-- The deferred actions `sm` collects. A flag with a value (`send` and `sendType`,
`fireComm` and `newComm`) is one option; `armRsp` and `followUp`, which only `flush`
writes, are values of `flush`. -/
structure Deferred where
  send : Option ConMsgType := none
  cancelRsp : Bool := false
  cancelPing : Bool := false
  armPing : Bool := false
  fireComm : Option CommState := none
  deriving DecidableEq, Repr

/-- The machine's fields; a deadline of zero is not armed. -/
structure ConSm where
  state : State := .disconnected
  comm : CommState := .notReady
  rspDeadline : Nat := 0
  pingDeadline : Nat := 0
  pingRep : Nat := 0
  reqRep : Nat := 0
  curReq : ConMsgType := .enableRequest
  deriving DecidableEq, Repr

namespace ConSm
variable {σ : Type}

/-! ### Transitions and their deferred actions -/

def toConnected (m : ConSm) (d : Deferred) : ConSm × Deferred :=
  ({ m with reqRep := 0, comm := .ready },
    { d with cancelRsp := true, fireComm := some .ready, armPing := true })

/-- `if (comm_ != COMM_NOT_READY) …`, as three transitions have it. -/
def lowerComm (m : ConSm) (d : Deferred) : ConSm × Deferred :=
  if m.comm ≠ .notReady then
    ({ m with comm := .notReady }, { d with fireComm := some .notReady })
  else (m, d)

def toDisconnected (m : ConSm) (d : Deferred) : ConSm × Deferred :=
  let (m, d) := m.lowerComm { d with cancelRsp := true, cancelPing := true }
  ({ m with pingRep := 0, reqRep := 0 }, d)

def sm (m : ConSm) (ev : Event) : ConSm × Deferred :=
  match m.state, ev with
  | .disconnected, .enable =>
      ({ m with state := .connecting, curReq := .enableRequest }, { send := some .enableRequest })
  | .disconnected, .enableRequest =>
      ({ m with state := .connecting, curReq := .enableResponse }, { send := some .enableResponse })
  | .disconnected, _ => (m, {})
  | .connecting, .accept => toConnected { m with state := .connected } {}
  | .connecting, .reject =>
      ({ m with state := .disconnected, reqRep := 0 }, { cancelRsp := true })
  | .connecting, .enableRequest =>
      toConnected { m with state := .connected, curReq := .enableResponse }
        { send := some .enableResponse }
  | .connecting, .disable =>
      ({ m with state := .disconnecting, curReq := .disableRequest },
        { send := some .disableRequest })
  | .connecting, _ => (m, {})
  | .connected, .enableRequest =>
      -- the board came back from a reset: answer again and return to READY
      let (m, d) := lowerComm { m with curReq := .enableResponse } { send := some .enableResponse }
      m.toConnected d
  | .connected, .disable =>
      ({ m with state := .disconnecting, curReq := .disableRequest },
        { send := some .disableRequest })
  | .connected, .disableRequest =>
      let (m, d) := toDisconnected { m with state := .disconnected } {}
      ({ m with curReq := .disableResponse }, { d with send := some .disableResponse })
  | .connected, .reject =>
      lowerComm { m with state := .disconnected } { cancelRsp := true, cancelPing := true }
  | .connected, _ => (m, {})
  | .disconnecting, .reject => toDisconnected { m with state := .disconnected } {}
  | .disconnecting, _ => (m, {})

/-! ### Timers and side effects -/

def pingArmed (m : ConSm) : Bool :=
  m.comm = .ready ∧ (m.state = .connected ∨ m.state = .disconnecting)

def schedulePingStd (m : ConSm) (now : Nat) : ConSm :=
  { m with
    pingRep := 0
    pingDeadline := if m.pingArmed then deadline now kPingTimeMs else 0 }

/-- The follow-up event, if any, comes with the state in which `process` handles it. -/
def flush (cb : Callbacks σ) (d : Deferred) (now : Nat) (m : ConSm) (env : σ) :
    (ConSm × σ) × Option Event :=
  let m := if d.cancelRsp then { m with rspDeadline := 0 } else m
  let m := if d.cancelPing then { m with pingDeadline := 0 } else m
  let (armRsp, followUp, env) : Bool × Option Event × σ :=
    match d.send with
    | none => (false, none, env)
    | some sendType =>
        let (ok, env) := cb.sendFn sendType env
        if ok then
          if sendType = .enableResponse ∨ sendType = .disableResponse then
            (false, some .accept, env)
          else (true, none, env)
        else (false, some .reject, env)
  let m := if armRsp then { m with rspDeadline := deadline now kConRspTimeoutMs } else m
  let m := if d.armPing then m.schedulePingStd now else m
  let env := match d.fireComm with
    | some newComm => cb.commCb newComm env
    | none => env
  ((m, env), followUp)

/-- `process` up to its recursive call. -/
def processOnce (cb : Callbacks σ) (ev : Event) (now : Nat) (s : ConSm × σ) :
    (ConSm × σ) × Option Event :=
  let (m, d) := s.1.sm ev
  m.flush cb d now s.2

/-- `process`, at most `n` events deep. -/
def processWithin (cb : Callbacks σ) : Nat → Event → Nat → ConSm × σ → ConSm × σ
  | 0, _, _, s => s
  | n + 1, ev, now, s =>
      match processOnce cb ev now s with
      | (s, none) => s
      | (s, some followUp) => processWithin cb n followUp now s

/-- Two events are as deep as the recursion goes (`processWithin_two`). -/
def process (cb : Callbacks σ) (ev : Event) (now : Nat) (s : ConSm × σ) : ConSm × σ :=
  processWithin cb 2 ev now s

/-! ### The public calls -/

def connect (cb : Callbacks σ) (now : Nat) (s : ConSm × σ) : Int × (ConSm × σ) :=
  if s.1.state = .connected then (0, s)
  else if s.1.state = .connecting then (-1, s)
  else (0, process cb .enable now s)

def disconnect (cb : Callbacks σ) (now : Nat) (s : ConSm × σ) : Int × (ConSm × σ) :=
  if s.1.state = .connected then (0, process cb .disable now ({ s.1 with pingRep := 0 }, s.2))
  else if s.1.state = .disconnected then (0, s)
  else (-1, s)

def reset (cb : Callbacks σ) (s : ConSm × σ) : ConSm × σ :=
  let m := { s.1 with
    state := .disconnected, rspDeadline := 0, pingDeadline := 0, pingRep := 0, reqRep := 0 }
  if m.comm ≠ .notReady then
    ({ m with comm := .notReady }, cb.commCb .notReady s.2)
  else (m, s.2)

def onFrame (cb : Callbacks σ) (msgType : ConMsgType) (now : Nat) (s : ConSm × σ) : ConSm × σ :=
  match msgType with
  | .enableRequest => process cb .enableRequest now s
  | .enableResponse => process cb .accept now s
  | .disableRequest => process cb .disableRequest now s
  | .disableResponse => process cb .reject now s
  | .pingRequest => s
  | .pingResponse => (s.1.schedulePingStd now, s.2)

/-- First half of `tick`: the response timeout. -/
def tickRsp (cb : Callbacks σ) (now : Nat) (s : ConSm × σ) : ConSm × σ :=
  let (m, env) := s
  if 0 < m.rspDeadline ∧ m.rspDeadline ≤ now then
    let m := { m with rspDeadline := 0 }
    if m.reqRep < kConRetryMax ∧ (m.state = .connecting ∨ m.state = .disconnecting) then
      let m := { m with reqRep := m.reqRep + 1 }
      let (ok, env) := cb.sendFn m.curReq env
      if ok then ({ m with rspDeadline := deadline now kConRspTimeoutMs }, env)
      else process cb .reject now (m, env)
    else process cb .reject now (m, env)
  else s

/-- Second half of `tick`: the keepalive timeout. -/
def tickPing (cb : Callbacks σ) (now : Nat) (s : ConSm × σ) : ConSm × σ :=
  let (m, env) := s
  if 0 < m.pingDeadline ∧ m.pingDeadline ≤ now then
    let m := { m with pingDeadline := 0 }
    if m.pingRep ≤ kMaxPingRepeat then
      let m := { m with pingRep := m.pingRep + 1 }
      if m.comm = .ready then
        let (ok, env) := cb.sendFn .pingRequest env
        if ok then
          if m.pingArmed then ({ m with pingDeadline := deadline now kRepeatPingTimeMs }, env)
          else (m, env)
        else process cb .reject now (m, env)
      else (m, env)
    else process cb .reject now (m, env)
  else s

def tick (cb : Callbacks σ) (now : Nat) (s : ConSm × σ) : ConSm × σ :=
  tickPing cb now (tickRsp cb now s)

/-- A call of the public interface. -/
inductive Call where
  | connect (now : Nat)
  | disconnect (now : Nat)
  | reset
  | onFrame (msgType : ConMsgType) (now : Nat)
  | tick (now : Nat)
  deriving DecidableEq, Repr

def call (cb : Callbacks σ) (s : ConSm × σ) : Call → ConSm × σ
  | .connect now => (connect cb now s).2
  | .disconnect now => (disconnect cb now s).2
  | .reset => reset cb s
  | .onFrame msgType now => onFrame cb msgType now s
  | .tick now => tick cb now s

/-- A run from the constructor's state. -/
def run (cb : Callbacks σ) (env : σ) (calls : List Call) : ConSm × σ :=
  calls.foldl (call cb) ({}, env)

end ConSm
end Mhost.Link
