import Mhost.App.ChassisHost

/-!
# One event, one act after another

A readable port brings several frames, a message several lines (ChassisHost.cc:169-189,
SerialPort.cc:97-135). An act is the piece of an event after which the host is back in its
loop or takes up the next frame or line; every event is a sequence of acts, and so is a run.
-/
namespace Mhost.App.ChassisHost
open Library (Text utf8)
open Proto Link Serial Ota

inductive Act where
  | up (c : Conn)
  | down (c : Conn)
  /-- `onMessage` leaves this in the input buffer -/
  | buffered (c : Conn) (left : Text)
  | line (c : Conn) (text : Text)
  /-- `feed` without the frames it found -/
  | parsed (bytes : List UInt8)
  | frame (f : Frame)
  | closed (reason : Text)
  | serialWritable
  | conTick
  | repeatTimer
  | odomTimer
  | slowTimer
  | watchdogTimer
  | childReadable (reads : List Ota.ReadResult)
  | childHup
  | childDetach
  | childReap (timer : Nat)
  | childEscalate
  deriving DecidableEq, Repr

variable (w : World)

def act (h : ChassisHost) : Act → ChassisHost
  | .up c => h.onConnectionUp c
  | .down c => h.onConnectionDown w c
  | .buffered c left => h.onBase fun b => { b with inputs := (c, left) :: b.inputs.filter (·.1 ≠ c) }
  | .line c text => h.handleLine w c text
  | .parsed bytes => h.onBase fun b => { b with parser := (b.parser.feed bytes).1 }
  | .frame f => h.onFrame w f
  | .closed reason => h.onCore (SerialPort.closeInLoop (serialEnv w) reason)
  | .serialWritable => h.onCore (SerialPort.handleWrite (serialEnv w))
  | .conTick => h.onConTick w
  | .repeatTimer => h.onRepeatTimer w
  | .odomTimer => h.onOdomTimer w
  | .slowTimer => h.onSlowTimer w
  | .watchdogTimer => h.onWatchdogTimer w
  | .childReadable reads =>
      h.childEvent pipeReading (OtaFlasher.onReadable (flasherEnv w) reads)
  | .childHup => h.childEvent pipeReading (OtaFlasher.scheduleDetachPipe (flasherEnv w))
  | .childDetach => h.childEvent (·.detachQueued > 0) (OtaFlasher.detachPipe (flasherEnv w))
  | .childReap timer =>
      h.childEvent (timer < ·.reapTimers.length) (OtaFlasher.reapTimer (flasherEnv w) timer)
  | .childEscalate => h.childEvent (·.killTimers > 0) (OtaFlasher.escalate (flasherEnv w))

/-- The acts one after another. -/
def acts (h : ChassisHost) (taken : List Act) : ChassisHost := taken.foldl (act w) h

@[simp] theorem acts_nil (h : ChassisHost) : acts w h [] = h := rfl

@[simp] theorem acts_cons (h : ChassisHost) (a : Act) (rest : List Act) :
    acts w h (a :: rest) = acts w (act w h a) rest := rfl

theorem acts_append (h : ChassisHost) (first rest : List Act) :
    acts w h (first ++ rest) = acts w (acts w h first) rest := List.foldl_append

theorem acts_snoc (h : ChassisHost) (taken : List Act) (a : Act) :
    acts w h (taken ++ [a]) = act w (acts w h taken) a := by
  rw [acts_append]
  rfl

/-! ### The acts of an event -/

/-- The bytes of one read. -/
def dataActs (bytes : List UInt8) (h : ChassisHost) : List Act :=
  .parsed bytes :: (h.base.parser.feed bytes).2.map .frame

def readActs : List Serial.ReadResult → ChassisHost → List Act
  | [], _ => []
  | result :: rest, h =>
      if !h.serial.isOpen then []
      else
        match result with
        | .data bytes =>
            dataActs bytes h ++ readActs rest (acts w h (dataActs bytes h))
        | .eof => [.closed (utf8 "eof")]
        | .again => []
        | .interrupted => readActs rest h
        | .failed => [.closed (utf8 "read-error")]

/-- The input buffer with what has just arrived. -/
def arrived (c : Conn) (bytes : Text) (h : ChassisHost) : Text := inputOf c h.base ++ bytes

def messageActs (c : Conn) (bytes : Text) (h : ChassisHost) : List Act :=
  let (lines, left) := takeLines (arrived c bytes h).length (arrived c bytes h)
  .buffered c left :: lines.map (.line c)

def actsOf (h : ChassisHost) : Event → List Act
  | .connUp c => [.up c]
  | .connDown c => [.down c]
  | .message c bytes => messageActs c bytes h
  | .serialReadable reads => readActs w reads h
  | .serialWritable => [.serialWritable]
  | .serialError => [.closed (utf8 "err")]
  | .serialHup => [.closed (utf8 "hup")]
  | .conTick => [.conTick]
  | .repeatTimer => [.repeatTimer]
  | .odomTimer => [.odomTimer]
  | .slowTimer => [.slowTimer]
  | .watchdogTimer => [.watchdogTimer]
  | .childReadable reads => [.childReadable reads]
  | .childHup => [.childHup]
  | .childDetach => [.childDetach]
  | .childReap timer => [.childReap timer]
  | .childEscalate => [.childEscalate]

/-- Everything a run does, from `h` on. -/
def actsIn (h : ChassisHost) : List Event → List Act
  | [] => []
  | e :: rest => actsOf w h e ++ actsIn (handle w h e) rest

/-- What a readable port brings. -/
def Act.ofPort : Act → Bool
  | .parsed _ | .frame _ | .closed _ => true
  | _ => false

/-! ### An event is its acts -/

variable {w} {h : ChassisHost}

theorem readActs_ofPort (reads : List Serial.ReadResult) (h : ChassisHost) :
    ∀ a ∈ readActs w reads h, a.ofPort = true := by
  induction reads generalizing h with
  | nil => simp [readActs]
  | cons result rest ih =>
    intro a member
    unfold readActs at member
    split at member
    · simp at member
    · cases result with
      | data bytes =>
        rcases List.mem_append.mp member with now | later
        · rcases List.mem_cons.mp now with rfl | frame
          · rfl
          · obtain ⟨f, _, rfl⟩ := List.mem_map.mp frame
            rfl
        · exact ih _ a later
      | eof | failed => rw [List.mem_singleton.mp member]; rfl
      | again => simp at member
      | interrupted => exact ih h a member

theorem onMessage_acts (c : Conn) (bytes : Text) :
    onMessage w c bytes h = acts w h (messageActs c bytes h) := by
  simp only [onMessage, messageActs, arrived, acts, List.foldl_cons, List.foldl_map]
  rfl

theorem onSerialData_acts (bytes : List UInt8) :
    onSerialData w bytes h = acts w h (dataActs bytes h) := by
  simp only [onSerialData, dataActs, acts, List.foldl_cons, List.foldl_map]
  rfl

/-- The host with the port back in its place. -/
def rejoin (s : SerialPort × ChassisHost) : ChassisHost := { s.2 with serial := s.1 }

theorem rejoin_closeInLoop (reason : Text) (s : SerialPort × ChassisHost) :
    rejoin (SerialPort.closeInLoop (hostEnv w) reason s) = act w (rejoin s) (.closed reason) := by
  simp only [SerialPort.closeInLoop, rejoin, act, onCore]
  cases s.1.channel <;> rfl

theorem handleRead_acts (reads : List Serial.ReadResult) (s : SerialPort × ChassisHost) :
    rejoin (SerialPort.handleRead (hostEnv w) (dataCb w) reads s) =
      acts w (rejoin s) (readActs w reads (rejoin s)) := by
  induction reads generalizing s with
  | nil => rfl
  | cons result rest ih =>
    simp only [SerialPort.handleRead, readActs, show (rejoin s).serial = s.1 from rfl]
    split
    · rfl
    · cases result with
      | data bytes =>
        have received : rejoin (dataCb w bytes s) = acts w (rejoin s) (dataActs bytes (rejoin s)) :=
          onSerialData_acts bytes
        simp only [ih, received, acts_append]
      | eof | failed => exact rejoin_closeInLoop _ s
      | again => rfl
      | interrupted => exact ih s

theorem handle_acts (e : Event) : handle w h e = acts w h (actsOf w h e) := by
  cases e with
  | message c bytes => exact onMessage_acts c bytes
  | serialReadable reads => exact handleRead_acts reads (h.serial, h)
  | _ => rfl

theorem actsIn_append (h : ChassisHost) (events more : List Event) :
    actsIn w h (events ++ more) = actsIn w h events ++ actsIn w (events.foldl (handle w) h) more := by
  induction events generalizing h with
  | nil => rfl
  | cons e rest ih => simp only [List.cons_append, actsIn, ih, List.foldl_cons, List.append_assoc]

/-- A run is the sequence of its acts. -/
theorem foldl_acts (h : ChassisHost) (events : List Event) :
    events.foldl (handle w) h = acts w h (actsIn w h events) := by
  induction events generalizing h with
  | nil => rfl
  | cons e rest ih => simp only [List.foldl_cons, actsIn, acts_append, ih, ← handle_acts]

theorem run_acts (events : List Event) : run w events = acts w (start w) (actsIn w (start w) events) :=
  foldl_acts (start w) events

/-- What every act preserves holds at the end of a run. -/
theorem acts_keep {holds : ChassisHost → Prop} (keeps : ∀ h a, holds h → holds (act w h a))
    (before : holds h) (taken : List Act) : holds (acts w h taken) :=
  List.foldlRecOn (motive := holds) taken _ before fun h held a _ => keeps h a held

end Mhost.App.ChassisHost
