import Mhost.Library.Machine
import Mhost.Library.Reentrant
import Mhost.Serial.PortOwners

/-!
# When the port destroys its channel

SerialPort.cc:80-226. The channel calls `handleRead`, `handleWrite`, `handleError` and the
close callback synchronously, and the data callback may call the port before it returns;
`runInLoop` runs at once there. The state callback calls nothing of the port
(ChassisHost.cc:679-685). The channel is only destroyed by `closeInLoop`, which then tells the
owner, and the watch beside the owner notes it.
-/
namespace Mhost.Serial
open Library (Text utf8 Reaction Watched Torn Guarded unwatched during)

variable {τ : Type}

/-- The same environment, with the watch: a port that goes down has destroyed its channel. -/
def Env.watching (env : Env τ) : Env (Watched τ) where
  openTty w := ((env.openTty w.owner).1, { w with owner := (env.openTty w.owner).2 })
  write data w := ((env.write data w.owner).1, { w with owner := (env.write data w.owner).2 })
  stateCb up reason w :=
    let w : Watched τ := { w with owner := env.stateCb up reason w.owner }
    if up then w else w.reset

namespace SerialPort

/-- The public calls of the port. -/
inductive Call where
  | openDevice (baud : Nat)
  | closeDevice
  | send (data : List UInt8)
  deriving DecidableEq, Repr

def Call.make (env : Env τ) : Call → SerialPort × τ → SerialPort × τ
  | .openDevice baud, s => (SerialPort.openDevice env baud s).2
  | .closeDevice, s => SerialPort.closeDevice env s
  | .send data, s => SerialPort.send env data s

/-- What the data callback does with bytes, in the state in which it gets them. -/
abbrev DataCallback (τ : Type) := List UInt8 → SerialPort × τ → Reaction SerialPort τ Call

/-- What the channel calls. One poll event can make several of these calls, one after another. -/
inductive Event where
  | readable (reads : List ReadResult)
  | writable
  | hup
  | error
  deriving DecidableEq, Repr

def Event.handle (env : Env τ) (dataCb : List UInt8 → SerialPort × τ → SerialPort × τ) :
    Event → SerialPort × τ → SerialPort × τ
  | .readable reads => handleRead env dataCb reads
  | .writable => handleWrite env
  | .hup => handleClose env
  | .error => handleError env

/-- The data callback on a watched port. -/
def receiving (env : Env τ) (dataCb : DataCallback τ) (bytes : List UInt8)
    (s : SerialPort × Watched τ) : SerialPort × Watched τ :=
  (dataCb bytes (unwatched s)).watched.run (Call.make env.watching) s

inductive Step where
  | call (c : Call)
  | event (e : Event)
  deriving DecidableEq, Repr

/-- Calls come from the loop, when no callback of the channel is running. -/
def step (env : Env τ) (dataCb : DataCallback τ) (s : SerialPort × Watched τ) :
    Step → SerialPort × Watched τ
  | .call c => c.make env.watching s
  | .event e => during isOpen (e.handle env.watching (receiving env dataCb)) s

def machine (env : Env τ) (dataCb : DataCallback τ) :
    Library.Machine (SerialPort × Watched τ) Step Empty :=
  ⟨fun s a => .ok (step env dataCb s a)⟩

/-! ### What spares the channel -/

/-- What the kernel left of the bytes. -/
def untaken (data : List UInt8) : WriteResult → List UInt8
  | .wrote n => data.drop n
  | _ => data

/-- The direct write does not find the device gone, and what is left fits the buffer. -/
def SparesSend (env : Env τ) (data : List UInt8) (s : SerialPort × τ) : Prop :=
  match s.1.channel with
  | none => True
  | some channel =>
      if channel.writing = false ∧ s.1.outputBuffer = [] then
        (env.write data s.2).1 ≠ .gone ∧
          (untaken data (env.write data s.2).1).length ≤ kTxOverflowLimit
      else data ≠ [] → s.1.outputBuffer.length + data.length ≤ kTxOverflowLimit

/-- A call from the data callback: the port is not closed, and sends spare it. -/
def SparesCall (env : Env τ) : Call → SerialPort × τ → Prop
  | .openDevice _, _ => True
  | .closeDevice, s => s.1.isOpen = false
  | .send data, s => SparesSend env data s

/-- No read that is made finds the end of the file or an error, and the data callback
spares the port. -/
def SparesReads (env : Env τ) (dataCb : DataCallback τ) : List ReadResult → SerialPort × τ → Prop
  | [], _ => True
  | result :: rest, s =>
      s.1.isOpen = true →
        match result with
        | .data bytes =>
            (dataCb bytes s).Within (Call.make env) (SparesCall env) s ∧
              SparesReads env dataCb rest ((dataCb bytes s).run (Call.make env) s)
        | .eof | .failed => False
        | .again => True
        | .interrupted => SparesReads env dataCb rest s

/-- Pending bytes are taken, or the device is busy. -/
def SparesWrite (env : Env τ) (s : SerialPort × τ) : Prop :=
  match s.1.channel with
  | none => True
  | some channel =>
      channel.writing = true →
        (env.write s.1.outputBuffer s.2).1 ≠ .gone ∧
          (env.write s.1.outputBuffer s.2).1 ≠ .otherError

def Spares (env : Env τ) (dataCb : DataCallback τ) (s : SerialPort × Watched τ) : Step → Prop
  | .call _ => True
  | .event (.readable reads) => SparesReads env dataCb reads (unwatched s)
  | .event .writable => SparesWrite env (unwatched s)
  | .event .hup | .event .error => s.1.isOpen = false

/-! ### One call -/

/-- A callback of the channel is running, and the channel is still there. -/
structure Running (s : SerialPort × Watched τ) : Prop where
  isOpen : s.1.isOpen = true
  handling : s.2.handling = true
  torn : s.2.torn = false

variable (env : Env τ) {s : SerialPort × Watched τ}

theorem watching_torn : env.watching.Keeps fun w => w.torn = true where
  openTty _ torn := torn
  write _ _ torn := torn
  stateCb up reason w torn := by
    cases up <;> simp [Env.watching, Watched.reset, torn]

theorem watching_views : env.watching.Views env Watched.owner where
  openTty _ := rfl
  write _ _ := rfl
  stateCb up reason w := by
    cases up <;> rfl

theorem Running.channel (running : Running s) : ∃ c, s.1.channel = some c :=
  Option.isSome_iff_exists.mp running.isOpen

/-- The one place that destroys the channel, and the watch sees it. -/
theorem closeInLoop_torn (reason : Text) (running : Running s) :
    Torn (closeInLoop env.watching reason s) := by
  obtain ⟨c, channel⟩ := running.channel
  simp [Torn, closeInLoop, channel, Env.watching, Watched.reset, running.handling]

theorem closing_guarded {spared : Prop} (reason : Text) (running : Running s) (forbidden : ¬ spared) :
    Guarded Running spared (closeInLoop env.watching reason s) :=
  .of_torn forbidden (closeInLoop_torn env reason running)

/-- What is left goes to the buffer, if it fits. -/
theorem left_guarded {spared : Prop} {c : Channel} {left : List UInt8} (running : Running s)
    (fits : spared ↔ (left ≠ [] → s.1.outputBuffer.length + left.length ≤ kTxOverflowLimit)) :
    Guarded Running spared
      (match some left with
      | none => closeInLoop env.watching (utf8 "write-fault") s
      | some [] => s
      | some remaining =>
          let p : SerialPort :=
            { channel := some { c with writing := true }
              outputBuffer := s.1.outputBuffer ++ remaining }
          if p.outputBuffer.length > kTxOverflowLimit then
            closeInLoop env.watching (utf8 "tx-overflow") (p, s.2)
          else (p, s.2)) := by
  cases left with
  | nil => exact .of_kept (fits.mpr (by simp)) running
  | cons byte rest =>
    dsimp only
    rw [List.length_append]
    have buffered : Running (({ channel := some { c with writing := true }
                                outputBuffer := s.1.outputBuffer ++ byte :: rest } : SerialPort), s.2) :=
      ⟨rfl, running.handling, running.torn⟩
    split
    next full =>
      refine closing_guarded env _ buffered fun spares => ?_
      have within := fits.mp spares (by simp)
      omega
    next roomy => exact .of_kept (fits.mpr fun _ => by omega) buffered

theorem sparesSend_idle (data : List UInt8) {p : SerialPort} {c : Channel} {t : τ}
    (channel : p.channel = some c) (idle : c.writing = false ∧ p.outputBuffer = []) :
    SparesSend env data (p, t) ↔ (env.write data t).1 ≠ .gone ∧
      (untaken data (env.write data t).1).length ≤ kTxOverflowLimit := by
  simp only [SparesSend, channel, if_pos idle]

theorem sparesSend_busy (data : List UInt8) {p : SerialPort} {c : Channel} {t : τ}
    (channel : p.channel = some c) (busy : ¬ (c.writing = false ∧ p.outputBuffer = [])) :
    SparesSend env data (p, t) ↔
      (data ≠ [] → p.outputBuffer.length + data.length ≤ kTxOverflowLimit) := by
  simp only [SparesSend, channel, if_neg busy]

/-- Nothing always fits. -/
theorem fits_iff (left : List UInt8) :
    left.length ≤ kTxOverflowLimit ↔ (left ≠ [] → left.length ≤ kTxOverflowLimit) := by
  cases left with
  | nil => simp
  | cons => simp

theorem send_guarded (data : List UInt8) (running : Running s) :
    Guarded Running (SparesSend env data (unwatched s)) (send env.watching data s) := by
  obtain ⟨p, w⟩ := s
  obtain ⟨c, channel⟩ := running.channel
  have channel : p.channel = some c := channel
  rw [send, if_pos running.isOpen]
  simp only [sendInLoop, channel]
  by_cases idle : c.writing = false ∧ p.outputBuffer = []
  · have tried : (!c.writing && p.outputBuffer.isEmpty) = true := by simp [idle]
    have spares := sparesSend_idle env (t := w.owner) data channel idle
    simp only [if_pos tried]
    rcases answer : env.write data w.owner with ⟨result, t⟩
    rw [answer] at spares
    have after : Running (p, { w with owner := t }) := ⟨running.isOpen, running.handling, running.torn⟩
    cases result with
    | gone =>
      simp only [directWrite, Env.watching, answer]
      exact closing_guarded env _ after fun spared => (spares.mp spared).1 rfl
    | wrote | again | otherError =>
      simp only [directWrite, Env.watching, answer]
      refine left_guarded env after (spares.trans ?_)
      have empty : (p.outputBuffer).length = 0 := by simp [idle.2]
      rw [empty, Nat.zero_add, and_iff_right (by simp)]
      exact fits_iff _
  · have tried : ¬ (!c.writing && p.outputBuffer.isEmpty) = true := by
      simpa using idle
    simp only [if_neg tried]
    exact left_guarded env running (sparesSend_busy env data channel idle)

theorem call_guarded (c : Call) (running : Running s) :
    Guarded Running (SparesCall env c (unwatched s)) (c.make env.watching s) := by
  cases c with
  | openDevice baud =>
    have already : (SerialPort.openDevice env.watching baud s).2 = s := by
      rw [SerialPort.openDevice, if_pos running.isOpen]
    refine .of_kept trivial ?_
    rw [Call.make, already]
    exact running
  | closeDevice =>
    refine closing_guarded env _ running fun closed => ?_
    exact absurd (running.isOpen.symm.trans closed) (by simp)
  | send data => exact send_guarded env data running

theorem call_torn (c : Call) (torn : Torn s) : Torn (c.make env.watching s) := by
  have keeps := watching_torn env
  cases c with
  | openDevice baud => exact openDevice_keeps keeps baud torn
  | closeDevice => exact (closeInLoop_kept keeps _ torn).env
  | send data => exact (send_kept keeps data torn).env

/-- The watch changes nothing for the port and its owner. -/
theorem call_unwatched (c : Call) (s : SerialPort × Watched τ) :
    unwatched (c.make env.watching s) = c.make env (unwatched s) := by
  have views := watching_views env
  cases c with
  | openDevice baud => exact (congrArg Prod.snd (openDevice_seen views s.1 s.2 baud)).symm
  | closeDevice => exact (closeInLoop_seen views s.1 s.2 _).symm
  | send data => exact (send_seen views s.1 s.2 data).symm

/-! ### One event -/

variable (dataCb : DataCallback τ)

theorem receiving_guarded (bytes : List UInt8) (running : Running s) :
    Guarded Running
      ((dataCb bytes (unwatched s)).Within (Call.make env) (SparesCall env) (unwatched s))
      (receiving env dataCb bytes s) :=
  Reaction.watched_guarded (call_unwatched env)
    (fun _ _ _ running => ⟨running.isOpen, running.handling, running.torn⟩)
    (fun c _ running => call_guarded env c running) (fun c _ torn => call_torn env c torn) _ running

theorem receiving_torn (bytes : List UInt8) (torn : Torn s) :
    Torn (receiving env dataCb bytes s) :=
  Reaction.watched_keeps (fun _ _ _ torn => torn)
    (fun c _ torn => call_torn env c torn) _ torn

theorem handleRead_torn (reads : List ReadResult) (torn : Torn s) :
    Torn (handleRead env.watching (receiving env dataCb) reads s) :=
  handleRead_keeps (fun bytes _ torn => receiving_torn env dataCb bytes torn)
    (fun reason _ torn => (closeInLoop_kept (watching_torn env) reason torn).env) reads torn

theorem handleRead_guarded (reads : List ReadResult) (running : Running s) :
    Guarded Running (SparesReads env dataCb reads (unwatched s))
      (handleRead env.watching (receiving env dataCb) reads s) := by
  induction reads generalizing s with
  | nil => exact .of_kept trivial running
  | cons result rest ih =>
    have opened : (unwatched s).1.isOpen = true := running.isOpen
    unfold handleRead SparesReads
    rw [if_neg (by simp [running.isOpen])]
    simp only [opened, true_imp_iff]
    cases result with
    | data bytes =>
      have answered : (dataCb bytes (unwatched s)).run (Call.make env) (unwatched s) =
          unwatched (receiving env dataCb bytes s) :=
        (Reaction.watched_run (call_unwatched env) _ s).symm
      dsimp only
      rw [answered]
      exact (receiving_guarded env dataCb bytes running).andThen
        (handleRead_torn env dataCb rest) ih
    | eof | failed => exact closing_guarded env _ running not_false
    | again => exact .of_kept trivial running
    | interrupted => exact ih running

theorem handleWrite_guarded (running : Running s) :
    Guarded Running (SparesWrite env (unwatched s)) (handleWrite env.watching s) := by
  obtain ⟨p, w⟩ := s
  obtain ⟨c, channel⟩ := running.channel
  have channel : p.channel = some c := channel
  simp only [handleWrite, SparesWrite, unwatched, channel]
  cases writing : c.writing with
  | false => exact .of_kept (by simp) running
  | true =>
    rcases answer : env.write p.outputBuffer w.owner with ⟨result, t⟩
    have after : Running (p, { w with owner := t }) := ⟨running.isOpen, running.handling, running.torn⟩
    cases result with
    | wrote n =>
      simp only [Env.watching, answer]
      exact .of_kept (by simp) ⟨rfl, running.handling, running.torn⟩
    | again =>
      simp only [Env.watching, answer]
      exact .of_kept (by simp) after
    | gone | otherError =>
      simp only [Env.watching, answer]
      exact closing_guarded env _ after (by simp)

theorem event_guarded (e : Event) (running : Running s) :
    Guarded Running (Spares env dataCb s (.event e))
      (e.handle env.watching (receiving env dataCb) s) := by
  cases e with
  | readable reads => exact handleRead_guarded env dataCb reads running
  | writable => exact handleWrite_guarded env running
  | hup | error =>
    refine closing_guarded env _ running fun closed => ?_
    exact absurd (running.isOpen.symm.trans closed) (by simp)

/-- There is no channel to call a closed port. -/
theorem event_closed (e : Event) (closed : s.1.channel = none) :
    e.handle env.watching (receiving env dataCb) s = s := by
  cases e with
  | readable reads => cases reads <;> simp [Event.handle, handleRead, isOpen, closed]
  | writable => simp [Event.handle, handleWrite, closed]
  | hup => simp [Event.handle, handleClose, closeInLoop, closed]
  | error => simp [Event.handle, handleError, closeInLoop, closed]

theorem spares_closed (e : Event) (closed : s.1.channel = none) :
    Spares env dataCb s (.event e) := by
  cases e with
  | readable reads => cases reads <;> simp [Spares, SparesReads, unwatched, isOpen, closed]
  | writable => simp [Spares, SparesWrite, unwatched, closed]
  | hup | error => simp [Spares, isOpen, closed]

/-! ### Whole runs -/

/-- No callback is running, and none ever destroyed its channel. -/
structure Idle (w : Watched τ) : Prop where
  handling : w.handling = false
  torn : w.torn = false

theorem watching_idle : env.watching.Keeps Idle where
  openTty _ idle := ⟨idle.handling, idle.torn⟩
  write _ _ idle := ⟨idle.handling, idle.torn⟩
  stateCb up reason w idle := by
    cases up with
    | true => exact ⟨idle.handling, idle.torn⟩
    | false => exact ⟨rfl, by simp [Env.watching, Watched.reset, idle.handling, idle.torn]⟩

theorem call_idle (c : Call) (idle : Idle s.2) : Idle (c.make env.watching s).2 := by
  have keeps := watching_idle env
  cases c with
  | openDevice baud => exact openDevice_keeps keeps baud idle
  | closeDevice => exact (closeInLoop_kept keeps _ idle).env
  | send data => exact (send_kept keeps data idle).env

/-- An event that finds the port open runs with the channel on the stack. -/
theorem event_step (e : Event) (idle : Idle s.2) :
    (Spares env dataCb s (.event e) → Idle (step env dataCb s (.event e)).2) ∧
      (¬ Spares env dataCb s (.event e) → Torn (step env dataCb s (.event e))) := by
  cases channel : s.1.channel with
  | none =>
    have still := event_closed env dataCb e
      (s := (s.1, { s.2 with handling := s.1.isOpen })) channel
    refine ⟨fun _ => ?_, fun forbidden => absurd (spares_closed env dataCb e channel) forbidden⟩
    simp only [step, during, still]
    exact ⟨rfl, idle.torn⟩
  | some c =>
    have opened : s.1.isOpen = true := by simp [isOpen, channel]
    have entered : Running (s.1, { s.2 with handling := s.1.isOpen }) := ⟨opened, opened, idle.torn⟩
    have guarded := event_guarded env dataCb e entered
    exact ⟨fun spares => ⟨rfl, (guarded.intact spares).torn⟩, guarded.torn⟩

/-- In every run of the port, whatever its owner and the operating system do: no callback
of a channel destroys that channel, if and only if every event spares it. -/
theorem outlives_iff (t : τ) (steps : List Step) :
    (machine env dataCb).Always (fun s => s.2.torn = false) ({}, { owner := t }) steps ↔
      (machine env dataCb).Allowed (Spares env dataCb) ({}, { owner := t }) steps := by
  have preserved : ∀ s a, Idle s.2 → Spares env dataCb s a →
      ∃ next, (machine env dataCb).step s a = .ok next ∧ Idle next.2 := by
    intro s a idle spares
    refine ⟨step env dataCb s a, rfl, ?_⟩
    cases a with
    | call c => exact call_idle env c idle
    | event e => exact (event_step env dataCb e idle).1 spares
  have broken : ∀ s a next, Idle s.2 → ¬ Spares env dataCb s a →
      (machine env dataCb).step s a = .ok next → ¬ next.2.torn = false := by
    intro s a next idle forbidden taken
    cases taken
    cases a with
    | call c => exact absurd trivial forbidden
    | event e => simpa [Torn] using (event_step env dataCb e idle).2 forbidden
  exact Library.Machine.always_iff_allowed (fun _ idle => idle.torn) preserved broken
    (show Idle ({ owner := t } : Watched τ) from ⟨rfl, rfl⟩) steps

end SerialPort
end Mhost.Serial
