import Mhost.Library.Machine
import Mhost.Library.Text
import Mhost.Log.LogStream

/-!
# The double-buffered log backend

AsyncLogging.h:26-53 and AsyncLogging.cc:31-127. Every critical section under `mutex_`
is one step, so the mutex is free in every state. A step of the background thread that
touches nothing shared is joined to the atomic read of `running_` that follows it.
A `unique_ptr` is an option; what happens through a null one, in a failed assertion or
in `back()` of an empty vector is a fault and ends the run.
-/
namespace Mhost.Log
open Library (Text utf8 decimal)

abbrev Buffer := FixedBuffer kLargeBuffer

inductive Fault where
  | nullDeref | assertFailed | emptyBack
  deriving DecidableEq, Repr

/-- The CMake default, `Release`, defines `NDEBUG`. -/
inductive Build where
  | debug | release
  deriving DecidableEq, Repr

/-- Where the background thread stands. -/
inductive Place where
  /-- before the first test of the loop condition -/
  | starting
  /-- in the loop, before `mutex_` is taken -/
  | locking
  /-- in `cond_.wait_for`, with `mutex_` released -/
  | sleeping
  /-- behind the critical section -/
  | writing
  /-- `threadFunc` has returned -/
  | exited
  deriving DecidableEq, Repr

/-- The background thread and the locals of `threadFunc`. -/
structure Thread where
  place : Place := .starting
  newBuffer1 : Option Buffer := some {}
  newBuffer2 : Option Buffer := some {}
  buffersToWrite : List (Option Buffer) := []
  deriving DecidableEq, Repr

/-- `output` is what `LogFile::append` was given, call by call. `thread` is `none` while
there is nothing to join. -/
structure AsyncLogging where
  running : Bool := false
  currentBuffer : Option Buffer := some {}
  nextBuffer : Option Buffer := some {}
  buffers : List (Option Buffer) := []
  thread : Option Thread := none
  output : List (List UInt8) := []
  deriving DecidableEq, Repr

namespace AsyncLogging

/-- `ptr->` on a `unique_ptr`. -/
def deref (ptr : Option Buffer) : Except Fault Buffer :=
  match ptr with
  | some buffer => .ok buffer
  | none => .error .nullDeref

def append (s : AsyncLogging) (logline : List UInt8) : Except Fault AsyncLogging := do
  let current ← deref s.currentBuffer
  if current.avail > logline.length then
    return { s with currentBuffer := some (current.append logline) }
  else
    let buffers := s.buffers ++ [some current]
    match s.nextBuffer with
    | some next =>
        return { s with buffers, currentBuffer := some (next.append logline), nextBuffer := none }
    | none =>
        let fresh : Buffer := {}
        return { s with buffers, currentBuffer := some (fresh.append logline) }

/-- `while (running_.load())` and the two assertions at the top of the loop. -/
def loopTop (build : Build) (running : Bool) (t : Thread) : Except Fault Thread :=
  if running then
    if build = .debug ∧
        ¬ (t.newBuffer1.isSome ∧ t.newBuffer2.isSome ∧ t.buffersToWrite.isEmpty) then
      .error .assertFailed
    else .ok { t with place := .locking }
  else .ok { t with place := .exited }

/-- The critical section from `buffers_.push_back` on. -/
def swapBuffers (s : AsyncLogging) (t : Thread) : AsyncLogging :=
  let buffers := s.buffers ++ [s.currentBuffer]
  let (nextBuffer, newBuffer2) :=
    if s.nextBuffer.isNone then (t.newBuffer2, none) else (s.nextBuffer, t.newBuffer2)
  { s with
    currentBuffer := t.newBuffer1
    nextBuffer
    buffers := t.buffersToWrite
    thread := some { place := .writing, newBuffer1 := none, newBuffer2, buffersToWrite := buffers } }

/-- `snprintf` into 96 bytes; `stamp` is the formatted time. -/
def dropNotice (stamp : Text) (dropped : Nat) : Text :=
  (utf8 "Dropped log messages at " ++ stamp ++ utf8 ": " ++ decimal dropped ++
    utf8 " larger buffers\n").take 95

/-- Storm protection, and what is handed to `LogFile::append` on the way. -/
def dropStorm (stamp : Text) (buffersToWrite : List (Option Buffer)) :
    List (List UInt8) × List (Option Buffer) :=
  if buffersToWrite.length > 25 then
    -- `erase(begin() + 2, end())`
    ([dropNotice stamp (buffersToWrite.length - 2)], buffersToWrite.take 2)
  else ([], buffersToWrite)

def writeAll : List (Option Buffer) → Except Fault (List (List UInt8))
  | [] => .ok []
  | ptr :: rest => do
      let buffer ← deref ptr
      return buffer.data :: (← writeAll rest)

/-- `slot = std::move(v.back()); v.pop_back(); slot->reset();` -/
def takeBack (v : List (Option Buffer)) : Except Fault (Option Buffer × List (Option Buffer)) :=
  match v.getLast? with
  | none => .error .emptyBack
  | some ptr => do
      let buffer ← deref ptr
      return (some buffer.reset, v.dropLast)

/-- Buffer recycling, up to `buffersToWrite.clear()`. -/
def recycle (t : Thread) : Except Fault Thread := do
  let (newBuffer1, left) ←
    if t.buffersToWrite.length > 2 then pure (t.newBuffer1, t.buffersToWrite.take 2)
    else if t.newBuffer1.isNone then takeBack t.buffersToWrite
    else pure (t.newBuffer1, t.buffersToWrite)
  let (newBuffer2, _) ←
    if t.newBuffer2.isNone then takeBack left else pure (t.newBuffer2, left)
  return { t with newBuffer1, newBuffer2, buffersToWrite := [] }

/-- From behind the critical section to the next test of the loop condition. -/
def finishIteration (build : Build) (stamp : Text) (s : AsyncLogging) (t : Thread) :
    Except Fault AsyncLogging := do
  if build = .debug ∧ t.buffersToWrite.isEmpty then throw .assertFailed
  let (notice, kept) := dropStorm stamp t.buffersToWrite
  let written ← writeAll kept
  let t ← recycle { t with buffersToWrite := kept }
  let t ← loopTop build s.running t
  return { s with thread := some t, output := s.output ++ notice ++ written }

/-- One step of some thread. `stopFlag` and `join` are the two parts of `stop`. -/
inductive Step where
  | start
  | append (logline : List UInt8)
  | stopFlag
  | join
  | enter
  | lock
  | wake
  | write (stamp : Text)
  deriving DecidableEq, Repr

/-- A step of a thread that is not at its place changes nothing. -/
def step (build : Build) (s : AsyncLogging) : Step → Except Fault AsyncLogging
  | .start =>
      match s.thread with
      | none => .ok { s with running := true, thread := some {} }
      | some _ => .ok s
  | .append logline => s.append logline
  | .stopFlag => .ok { s with running := false }
  | .join =>
      match s.thread with
      | some t => if t.place = .exited then .ok { s with thread := none } else .ok s
      | none => .ok s
  | .enter =>
      match s.thread with
      | some t =>
          if t.place = .starting then do
            let t ← loopTop build s.running t
            return { s with thread := some t }
          else .ok s
      | none => .ok s
  | .lock =>
      match s.thread with
      | some t =>
          if t.place = .locking then
            if s.buffers.isEmpty then
              .ok { s with thread := some { t with place := .sleeping } }
            else .ok (s.swapBuffers t)
          else .ok s
      | none => .ok s
  | .wake =>
      match s.thread with
      | some t => if t.place = .sleeping then .ok (s.swapBuffers t) else .ok s
      | none => .ok s
  | .write stamp =>
      match s.thread with
      | some t => if t.place = .writing then s.finishIteration build stamp t else .ok s
      | none => .ok s

def machine (build : Build) : Library.Machine AsyncLogging Step Fault := ⟨step build⟩

end AsyncLogging
end Mhost.Log
