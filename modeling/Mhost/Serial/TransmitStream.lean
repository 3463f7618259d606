import Mhost.Serial.SerialPort

/-!
# The transmit stream of a session

The environment of the port is given a record of every opening: what `send` was passed
while the device was open, and what `write(2)` took of it (SerialPort.cc:80-132, 161-226).
The fast path and the buffered path keep one equation: taken, then buffered, is passed.
-/
namespace Mhost.Serial
open Library (Text utf8)

variable {τ : Type}

/-- One opening of the device. -/
structure Session where
  passed : List UInt8 := []
  accepted : List UInt8 := []
  deriving DecidableEq, Repr

/-- The owner with the record: the openings that are over, and the latest one. -/
structure Recorded (τ : Type) where
  owner : τ
  earlier : List Session := []
  current : Session := {}

/-- The bytes the kernel took. -/
def WriteResult.taken (data : List UInt8) : WriteResult → List UInt8
  | .wrote n => data.take n
  | _ => []

def Recorded.accept (bytes : List UInt8) (r : Recorded τ) : Recorded τ :=
  { r with current := { r.current with accepted := r.current.accepted ++ bytes } }

def Recorded.pass (bytes : List UInt8) (r : Recorded τ) : Recorded τ :=
  { r with current := { r.current with passed := r.current.passed ++ bytes } }

/-- The same environment, with the record kept. -/
def Env.recording (env : Env τ) : Env (Recorded τ) where
  openTty r := ((env.openTty r.owner).1, { r with owner := (env.openTty r.owner).2 })
  write data r :=
    ((env.write data r.owner).1,
      Recorded.accept ((env.write data r.owner).1.taken data)
        { r with owner := (env.write data r.owner).2 })
  stateCb up reason r :=
    let r := { r with owner := env.stateCb up reason r.owner }
    if up then { r with earlier := r.earlier ++ [r.current], current := {} } else r

namespace SerialPort

/-- `send`, with what it is passed on an open port added to the session. -/
def pass (env : Env τ) (s : SerialPort × Recorded τ) (data : List UInt8) :
    SerialPort × Recorded τ :=
  send env.recording data (s.1, if s.1.isOpen then s.2.pass data else s.2)

/-- The data callback: the owner may send in answer to what it reads. -/
def answering (env : Env τ) (reply : List UInt8 → τ → List (List UInt8) × τ)
    (bytes : List UInt8) (s : SerialPort × Recorded τ) : SerialPort × Recorded τ :=
  (reply bytes s.2.owner).1.foldl (pass env) (s.1, { s.2 with owner := (reply bytes s.2.owner).2 })

/-- What can happen on the loop thread; `close` is any way to `closeInLoop`. -/
inductive Happening where
  | openDevice (baud : Nat)
  | send (data : List UInt8)
  | writable
  | readable (reads : List ReadResult)
  | close (reason : Text)
  deriving DecidableEq, Repr

def happen (env : Env τ) (reply : List UInt8 → τ → List (List UInt8) × τ)
    (s : SerialPort × Recorded τ) : Happening → SerialPort × Recorded τ
  | .openDevice baud => (SerialPort.openDevice env.recording baud s).2
  | .send data => pass env s data
  | .writable => handleWrite env.recording s
  | .readable reads => handleRead env.recording (answering env reply) reads s
  | .close reason => closeInLoop env.recording reason s

/-! ### The invariant -/

/-- No session was given to the kernel more than it was passed, or in another order. -/
def Confined (r : Recorded τ) : Prop :=
  ∀ session ∈ r.earlier ++ [r.current], session.accepted <+: session.passed

structure Streaming (s : SerialPort × Recorded τ) : Prop where
  inOrder : s.1.isOpen = true → s.2.current.accepted ++ s.1.outputBuffer = s.2.current.passed
  interest : ∀ c, s.1.channel = some c → (c.writing = true ↔ s.1.outputBuffer ≠ [])
  bounded : s.1.isOpen = true → s.1.outputBuffer.length ≤ kTxOverflowLimit
  confined : Confined s.2

theorem Confined.earlier {r : Recorded τ} (confined : Confined r) :
    ∀ session ∈ r.earlier, session.accepted <+: session.passed :=
  fun session member => confined session (by simp [member])

theorem confined_of {r : Recorded τ}
    (earlier : ∀ session ∈ r.earlier, session.accepted <+: session.passed) {left : List UInt8}
    (split : r.current.accepted ++ left = r.current.passed) : Confined r := by
  intro session member
  rcases List.mem_append.mp member with before | now
  · exact earlier session before
  · obtain rfl : session = r.current := by simpa using now
    exact ⟨left, split⟩

theorem closeInLoop_streaming (env : Env τ) (reason : Text) {s : SerialPort × Recorded τ}
    (confined : Confined s.2) (opened : s.1.isOpen = true) :
    Streaming (closeInLoop env.recording reason s) := by
  unfold closeInLoop
  cases channel : s.1.channel with
  | none => simp [isOpen, channel] at opened
  | some c => exact ⟨by simp [isOpen], by simp, by simp [isOpen], confined⟩

theorem close_streaming (env : Env τ) (reason : Text) {s : SerialPort × Recorded τ}
    (streaming : Streaming s) : Streaming (closeInLoop env.recording reason s) := by
  by_cases opened : s.1.isOpen = true
  · exact closeInLoop_streaming env reason streaming.confined opened
  · have closed : s.1.channel = none := by simpa [isOpen] using opened
    rw [closeInLoop, closed]
    exact streaming

/-! ### Sending -/

/-- What the direct write leaves is the rest of what it was given. -/
theorem directWrite_splits (env : Env τ) (data : List UInt8) (r : Recorded τ) :
    (directWrite env.recording data r).2.earlier = r.earlier ∧
      (directWrite env.recording data r).2.current.passed = r.current.passed ∧
      match (directWrite env.recording data r).1 with
      | some left =>
          (directWrite env.recording data r).2.current.accepted ++ left = r.current.accepted ++ data
      | none => (directWrite env.recording data r).2.current.accepted = r.current.accepted := by
  unfold directWrite
  rcases result : env.write data r.owner with ⟨_ | _ | _ | _, owner⟩ <;>
    simp [Env.recording, Recorded.accept, WriteResult.taken, result, List.append_assoc]

/-- With or without a direct write: what is still to be sent follows what is buffered. -/
structure Attempt (buffer data : List UInt8) (before : Recorded τ)
    (outcome : Option (List UInt8) × Recorded τ) : Prop where
  earlier : outcome.2.earlier = before.earlier
  passed : outcome.2.current.passed = before.current.passed
  left : ∀ left, outcome.1 = some left →
    outcome.2.current.accepted ++ (buffer ++ left) = before.current.accepted ++ (buffer ++ data)
  gone : outcome.1 = none → outcome.2.current.accepted = before.current.accepted

theorem attempt (env : Env τ) (data buffer : List UInt8) (writing : Bool) (r : Recorded τ) :
    Attempt buffer data r
      (if !writing && buffer.isEmpty then directWrite env.recording data r else (some data, r)) := by
  split
  next idle =>
    have empty : buffer = [] := by simp at idle; exact idle.2
    obtain ⟨earlier, passed, split⟩ := directWrite_splits env data r
    refine ⟨earlier, passed, fun left same => ?_, fun same => ?_⟩
    · rw [same] at split
      simpa [empty] using split
    · rw [same] at split
      exact split
  next => exact ⟨rfl, rfl, fun left same => by simp_all, fun same => by simp at same⟩

theorem sendInLoop_streaming (env : Env τ) (data : List UInt8) {p : SerialPort} {r : Recorded τ}
    {c : Channel} (channel : p.channel = some c) (interest : c.writing = true ↔ p.outputBuffer ≠ [])
    (bounded : p.outputBuffer.length ≤ kTxOverflowLimit)
    (earlier : ∀ session ∈ r.earlier, session.accepted <+: session.passed)
    (split : r.current.accepted ++ (p.outputBuffer ++ data) = r.current.passed) :
    Streaming (sendInLoop env.recording data (p, r)) := by
  have tried := attempt env data p.outputBuffer c.writing r
  simp only [sendInLoop, channel]
  generalize (if !c.writing && p.outputBuffer.isEmpty then directWrite env.recording data r
    else (some data, r)) = outcome at tried ⊢
  obtain ⟨left, r'⟩ := outcome
  have earlier' : ∀ session ∈ r'.earlier, session.accepted <+: session.passed :=
    tried.earlier ▸ earlier
  have opened : p.isOpen = true := by simp [isOpen, channel]
  cases left with
  | none =>
    have rest : r'.current.accepted ++ (p.outputBuffer ++ data) = r'.current.passed := by
      rw [tried.gone rfl, tried.passed]
      exact split
    have confined : Confined r' := confined_of earlier' rest
    exact closeInLoop_streaming env _ confined opened
  | some left =>
    have rest : r'.current.accepted ++ (p.outputBuffer ++ left) = r'.current.passed := by
      rw [tried.left left rfl, tried.passed]
      exact split
    have confined : Confined r' := confined_of earlier' rest
    cases left with
    | nil =>
      refine ⟨fun _ => ?_, fun c' same => ?_, fun _ => bounded, confined⟩
      · simpa using rest
      · cases channel.symm.trans same
        exact interest
    | cons byte more =>
      dsimp only
      split
      · exact closeInLoop_streaming env _ confined rfl
      next fits =>
        exact ⟨fun _ => rest, fun c' same => by cases same; simp, fun _ => Nat.le_of_not_lt fits,
          confined⟩

theorem pass_streaming (env : Env τ) (data : List UInt8) {s : SerialPort × Recorded τ}
    (streaming : Streaming s) : Streaming (pass env s data) := by
  unfold pass send
  split
  next opened =>
    obtain ⟨c, channel⟩ := Option.isSome_iff_exists.mp (show s.1.channel.isSome = true from opened)
    have split : s.2.current.accepted ++ (s.1.outputBuffer ++ data) =
        s.2.current.passed ++ data := by
      rw [← List.append_assoc, streaming.inOrder opened]
    exact sendInLoop_streaming env data channel (streaming.interest c channel)
      (streaming.bounded opened) streaming.confined.earlier split
  next => exact streaming

/-! ### Writing, opening, reading -/

theorem handleWrite_streaming (env : Env τ) {s : SerialPort × Recorded τ}
    (streaming : Streaming s) : Streaming (handleWrite env.recording s) := by
  unfold handleWrite
  cases channel : s.1.channel with
  | none => exact streaming
  | some c =>
    have opened : s.1.isOpen = true := by simp [isOpen, channel]
    have inOrder := streaming.inOrder opened
    dsimp only
    split
    · exact streaming
    next writing =>
      have pending : s.1.outputBuffer ≠ [] := (streaming.interest c channel).mp (by simpa using writing)
      rcases result : env.write s.1.outputBuffer s.2.owner with ⟨result', owner⟩
      have untouched : ∀ r : Recorded τ, r.earlier = s.2.earlier → r.current = s.2.current →
          Confined r := fun r earlier current => by
        simpa [Confined, earlier, current] using streaming.confined
      cases result' with
      | wrote n =>
        simp only [Env.recording, Recorded.accept, WriteResult.taken, result]
        have split : s.2.current.accepted ++ s.1.outputBuffer.take n ++ s.1.outputBuffer.drop n =
            s.2.current.passed := by
          rw [List.append_assoc, List.take_append_drop]
          exact inOrder
        refine ⟨fun _ => split, fun c' same => ?_, fun _ => ?_,
          confined_of streaming.confined.earlier split⟩
        · cases same
          simp
        · have before := streaming.bounded opened
          simp only [List.length_drop]
          omega
      | again =>
        simp only [Env.recording, Recorded.accept, WriteResult.taken, result, List.append_nil]
        exact ⟨fun _ => inOrder, streaming.interest, streaming.bounded, untouched _ rfl rfl⟩
      | gone | otherError =>
        simp only [Env.recording, Recorded.accept, WriteResult.taken, result, List.append_nil]
        exact closeInLoop_streaming env _ (untouched _ rfl rfl) opened

theorem openDevice_streaming (env : Env τ) (baud : Nat) {s : SerialPort × Recorded τ}
    (streaming : Streaming s) : Streaming (SerialPort.openDevice env.recording baud s).2 := by
  unfold SerialPort.openDevice
  split
  · exact streaming
  next closed =>
    dsimp only
    split
    · refine ⟨fun _ => rfl, fun c same => by cases same; simp, fun _ => Nat.zero_le _, ?_⟩
      intro session member
      rcases List.mem_append.mp member with before | now
      · exact streaming.confined session before
      · rw [List.mem_singleton.mp now]
        exact List.prefix_refl []
    · have shut : s.1.isOpen = false := by simpa using closed
      exact ⟨fun opened => by simp [shut] at opened, streaming.interest,
        fun opened => by simp [shut] at opened, streaming.confined⟩

theorem answering_streaming (env : Env τ) (reply : List UInt8 → τ → List (List UInt8) × τ)
    (bytes : List UInt8) {s : SerialPort × Recorded τ} (streaming : Streaming s) :
    Streaming (answering env reply bytes s) := by
  have start : Streaming (s.1, { s.2 with owner := (reply bytes s.2.owner).2 }) :=
    ⟨streaming.inOrder, streaming.interest, streaming.bounded, streaming.confined⟩
  unfold answering
  generalize (reply bytes s.2.owner).1 = datas
  revert start
  generalize (s.1, { s.2 with owner := (reply bytes s.2.owner).2 }) = s'
  intro start
  induction datas generalizing s' with
  | nil => exact start
  | cons data rest ih => exact ih _ (pass_streaming env data start)

/-! ### Whole runs -/

theorem happen_streaming (env : Env τ) (reply : List UInt8 → τ → List (List UInt8) × τ)
    {s : SerialPort × Recorded τ} (streaming : Streaming s) (h : Happening) :
    Streaming (happen env reply s h) := by
  cases h with
  | openDevice baud => exact openDevice_streaming env baud streaming
  | send data => exact pass_streaming env data streaming
  | writable => exact handleWrite_streaming env streaming
  | readable reads =>
    exact handleRead_keeps (fun bytes s => answering_streaming env reply bytes)
      (fun reason s => close_streaming env reason) reads streaming
  | close reason => exact close_streaming env reason streaming

theorem fresh_streaming (t : τ) : Streaming ({}, { owner := t }) :=
  ⟨by simp [isOpen], by simp, by simp [isOpen], by simp [Confined]⟩

/-- After any sequence of sends, writable and readable events, closes and openings, whatever
`write(2)` returns: while the port is open, what the kernel took of this session followed
by `outputBuffer_` is what `send` was passed in it; writing is enabled exactly while bytes
are pending; they are within the limit; and of no session did the kernel take anything but
a first part of what was passed in that session. -/
theorem transmit_stream (env : Env τ) (reply : List UInt8 → τ → List (List UInt8) × τ) (t : τ)
    (happenings : List Happening) :
    let s := happenings.foldl (happen env reply) ({}, { owner := t })
    (s.1.isOpen = true → s.2.current.accepted ++ s.1.outputBuffer = s.2.current.passed) ∧
      (∀ c, s.1.channel = some c → (c.writing = true ↔ s.1.outputBuffer ≠ [])) ∧
      (s.1.isOpen = true → s.1.outputBuffer.length ≤ kTxOverflowLimit) ∧
      ∀ session ∈ s.2.earlier ++ [s.2.current], session.accepted <+: session.passed := by
  have streaming : Streaming (happenings.foldl (happen env reply) ({}, { owner := t })) := by
    have start := fresh_streaming t
    revert start
    generalize (({}, { owner := t }) : SerialPort × Recorded τ) = s
    intro start
    induction happenings generalizing s with
    | nil => exact start
    | cons h rest ih => exact ih _ (happen_streaming env reply start h)
  exact ⟨streaming.inOrder, streaming.interest, streaming.bounded, streaming.confined⟩

end SerialPort
end Mhost.Serial
