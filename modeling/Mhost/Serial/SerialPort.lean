import Mhost.Library.Text

/-!
# The serial port

SerialPort.h:28-68 and SerialPort.cc:18-229, on the loop thread. `fd_` and `channel_` are
set and cleared together there, so one option stands for both. The system calls and the
state callback act on an environment of any type.
-/
namespace Mhost.Serial
open Library (Text utf8)

def kTxOverflowLimit : Nat := 1 * 1024 * 1024

/-- The baud rates `toSpeedConstant` knows. -/
def knownBauds : List Nat := [9600, 19200, 38400, 57600, 115200, 230400, 460800, 921600]

inductive ReadResult where
  | data (bytes : List UInt8)
  | eof
  | again
  | interrupted
  | failed
  deriving DecidableEq, Repr

/-- `gone` is one of the errors after which the direct write gives the device up. -/
inductive WriteResult where
  | wrote (n : Nat)
  | again
  | gone
  | otherError
  deriving DecidableEq, Repr

/-- What is enabled on the channel. -/
structure Channel where
  reading : Bool := true
  writing : Bool := false
  deriving DecidableEq, Repr

structure SerialPort where
  channel : Option Channel := none
  outputBuffer : List UInt8 := []
  deriving DecidableEq, Repr

def SerialPort.isOpen (p : SerialPort) : Bool := p.channel.isSome

/-- The operating system and the owner, as the port sees them. -/
structure Env (τ : Type) where
  /-- `::open`, and the `termios` calls of `configureTty` -/
  openTty : τ → Bool × τ
  write : List UInt8 → τ → WriteResult × τ
  stateCb : Bool → Text → τ → τ

namespace SerialPort
variable {τ : Type}

def closeInLoop (env : Env τ) (reason : Text) (s : SerialPort × τ) : SerialPort × τ :=
  match s.1.channel with
  | none => s
  | some _ => ({ s.1 with channel := none }, env.stateCb false reason s.2)

def closeDevice (env : Env τ) (s : SerialPort × τ) : SerialPort × τ :=
  closeInLoop env (utf8 "closed") s

/-- With `attachInLoop`, which runs at once. -/
def openDevice (env : Env τ) (baud : Nat) (s : SerialPort × τ) : Bool × (SerialPort × τ) :=
  if s.1.isOpen then (true, s)
  else
    let (opened, t) := env.openTty s.2
    if opened ∧ baud ∈ knownBauds then
      (true, ({ channel := some {}, outputBuffer := [] }, env.stateCb true (utf8 "opened") t))
    else (false, (s.1, t))

/-- The write loop of `sendInLoop` on an idle port: what is left, unless the port must close. -/
def directWrite (env : Env τ) (data : List UInt8) (t : τ) : Option (List UInt8) × τ :=
  match env.write data t with
  | (.wrote n, t) => (some (data.drop n), t)
  | (.again, t) => (some data, t)
  | (.otherError, t) => (some data, t)
  | (.gone, t) => (none, t)

def sendInLoop (env : Env τ) (data : List UInt8) (s : SerialPort × τ) : SerialPort × τ :=
  match s.1.channel with
  | none => s
  | some channel =>
      let (left, t) :=
        if !channel.writing && s.1.outputBuffer.isEmpty then directWrite env data s.2
        else (some data, s.2)
      match left with
      | none => closeInLoop env (utf8 "write-fault") (s.1, t)
      | some [] => (s.1, t)
      | some remaining =>
          let p : SerialPort :=
            { channel := some { channel with writing := true }
              outputBuffer := s.1.outputBuffer ++ remaining }
          if p.outputBuffer.length > kTxOverflowLimit then
            closeInLoop env (utf8 "tx-overflow") (p, t)
          else (p, t)

def send (env : Env τ) (data : List UInt8) (s : SerialPort × τ) : SerialPort × τ :=
  if s.1.isOpen then sendInLoop env data s else s

def handleWrite (env : Env τ) (s : SerialPort × τ) : SerialPort × τ :=
  match s.1.channel with
  | none => s
  | some channel =>
      if !channel.writing then s
      else
        match env.write s.1.outputBuffer s.2 with
        | (.wrote n, t) =>
            let outputBuffer := s.1.outputBuffer.drop n
            ({ channel := some { channel with writing := !outputBuffer.isEmpty }, outputBuffer }, t)
        | (.again, t) => (s.1, t)
        | (.gone, t) | (.otherError, t) => closeInLoop env (utf8 "write-error") (s.1, t)

def handleError (env : Env τ) (s : SerialPort × τ) : SerialPort × τ :=
  closeInLoop env (utf8 "err") s

/-- The channel's close callback. -/
def handleClose (env : Env τ) (s : SerialPort × τ) : SerialPort × τ :=
  closeInLoop env (utf8 "hup") s

/-- `handleRead` on the results of its successive reads, `EAGAIN` when there are no more.
`dataCb` may send and so close the port; the next read then fails on a closed descriptor
and the close that follows finds nothing to do. -/
def handleRead (env : Env τ) (dataCb : List UInt8 → SerialPort × τ → SerialPort × τ) :
    List ReadResult → SerialPort × τ → SerialPort × τ
  | [], s => s
  | result :: rest, s =>
      if !s.1.isOpen then s
      else
        match result with
        | .data bytes => handleRead env dataCb rest (dataCb bytes s)
        | .eof => closeInLoop env (utf8 "eof") s
        | .again => s
        | .interrupted => handleRead env dataCb rest s
        | .failed => closeInLoop env (utf8 "read-error") s

end SerialPort

/-! ### What the calls leave alone -/

/-- A property of the environment that the calls and the callback preserve. -/
structure Env.Keeps {τ : Type} (env : Env τ) (holds : τ → Prop) : Prop where
  openTty : ∀ t, holds t → holds (env.openTty t).2
  write : ∀ data t, holds t → holds (env.write data t).2
  stateCb : ∀ up reason t, holds t → holds (env.stateCb up reason t)

namespace SerialPort
variable {τ : Type} {env : Env τ} {holds : τ → Prop} {s : SerialPort × τ}

/-- The port was not opened, and the property still holds. -/
structure Kept (holds : τ → Prop) (before after : SerialPort × τ) : Prop where
  isOpen : after.1.isOpen = true → before.1.isOpen = true
  env : holds after.2

theorem closeInLoop_kept (keeps : env.Keeps holds) (reason : Text) (before : holds s.2) :
    Kept holds s (closeInLoop env reason s) := by
  unfold closeInLoop
  cases channel : s.1.channel with
  | none => exact ⟨id, before⟩
  | some _ =>
    have opened : s.1.isOpen = true := by simp [isOpen, channel]
    exact ⟨fun _ => opened, keeps.stateCb _ _ _ before⟩

/-- What is closed stays closed, so only the environment matters there. -/
theorem Kept.of_open {after : SerialPort × τ} (opened : s.1.isOpen = true) (later : holds after.2) :
    Kept holds s after := ⟨fun _ => opened, later⟩

theorem directWrite_keeps (keeps : env.Keeps holds) (data : List UInt8) {t : τ}
    (before : holds t) : holds (directWrite env data t).2 := by
  have later := keeps.write data t before
  unfold directWrite
  generalize env.write data t = answer at later ⊢
  obtain ⟨result, t'⟩ := answer
  cases result <;> exact later

theorem sendInLoop_kept (keeps : env.Keeps holds) (data : List UInt8) (before : holds s.2) :
    Kept holds s (sendInLoop env data s) := by
  unfold sendInLoop
  cases channel : s.1.channel with
  | none => exact ⟨id, before⟩
  | some c =>
    have opened : s.1.isOpen = true := by simp [isOpen, channel]
    refine .of_open opened ?_
    have written : holds (if !c.writing && s.1.outputBuffer.isEmpty then directWrite env data s.2
        else (some data, s.2)).2 := by
      split
      · exact directWrite_keeps keeps data before
      · exact before
    dsimp only
    revert written
    generalize (if !c.writing && s.1.outputBuffer.isEmpty then directWrite env data s.2
      else (some data, s.2)) = outcome
    intro written
    obtain ⟨left, t⟩ := outcome
    match left with
    | none => exact (closeInLoop_kept keeps _ written).env
    | some [] => exact written
    | some (_ :: _) =>
      dsimp only
      split
      · exact (closeInLoop_kept keeps _ written).env
      · exact written

theorem send_kept (keeps : env.Keeps holds) (data : List UInt8) (before : holds s.2) :
    Kept holds s (send env data s) := by
  unfold send
  split
  · exact sendInLoop_kept keeps data before
  · exact ⟨id, before⟩

theorem handleWrite_kept (keeps : env.Keeps holds) (before : holds s.2) :
    Kept holds s (handleWrite env s) := by
  unfold handleWrite
  cases channel : s.1.channel with
  | none => exact ⟨id, before⟩
  | some c =>
    refine .of_open (by simp [isOpen, channel]) ?_
    have later := keeps.write s.1.outputBuffer s.2 before
    dsimp only
    split
    · exact before
    · generalize env.write s.1.outputBuffer s.2 = answer at later ⊢
      obtain ⟨result, t⟩ := answer
      cases result with
      | wrote | again => exact later
      | gone | otherError => exact (closeInLoop_kept keeps _ later).env

/-- Only this call opens the port, and only when the device and its baud rate are there. -/
theorem openDevice_isOpen (env : Env τ) (baud : Nat) (s : SerialPort × τ) :
    (openDevice env baud s).2.1.isOpen =
      (s.1.isOpen || (env.openTty s.2).1 && decide (baud ∈ knownBauds)) := by
  unfold openDevice
  split
  next opened => simp [opened]
  next closed =>
    by_cases answered : (env.openTty s.2).1 = true ∧ baud ∈ knownBauds
    · simp only [if_pos answered]
      simp [answered, isOpen]
    · have failed : ((env.openTty s.2).1 && decide (baud ∈ knownBauds)) = false := by
        simpa using answered
      simp [answered, failed]

theorem openDevice_keeps (keeps : env.Keeps holds) (baud : Nat) (before : holds s.2) :
    holds (openDevice env baud s).2.2 := by
  have asked := keeps.openTty s.2 before
  unfold openDevice
  split
  · exact before
  · dsimp only
    split
    · exact keeps.stateCb _ _ _ asked
    · exact asked

/-- Reading keeps what its data callback and closing keep, port included. -/
theorem handleRead_keeps {both : SerialPort × τ → Prop}
    {dataCb : List UInt8 → SerialPort × τ → SerialPort × τ}
    (received : ∀ bytes s, both s → both (dataCb bytes s))
    (closed : ∀ reason s, both s → both (closeInLoop env reason s)) (reads : List ReadResult)
    (before : both s) : both (handleRead env dataCb reads s) := by
  induction reads generalizing s with
  | nil => exact before
  | cons result rest ih =>
    unfold handleRead
    split
    · exact before
    · cases result with
      | data bytes => exact ih (received bytes s before)
      | eof => exact closed _ s before
      | again => exact before
      | interrupted => exact ih before
      | failed => exact closed _ s before

end SerialPort
end Mhost.Serial
