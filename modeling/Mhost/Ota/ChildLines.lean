import Mhost.Library.Collector
import Mhost.Ota.OtaFlasher

/-!
# Lines of the child

OtaFlasher.cc:140-186. Between two reads the unfinished line waits in `lineBuf_`; a line of more
than 8192 bytes loses its beginning. Whatever the reads were, the owner hears the lines of the
stream.
-/
namespace Mhost.Ota
open Library (Text Collector cut utf8)

/-- The characters that end a line. -/
def endsLine (c : UInt8) : Bool := c = 10 ∨ c = 13

/-- The longest line that `lineBuf_` holds between two bytes. -/
def kMaxLine : Nat := 8192

/-- The lines of everything the child writes. -/
def childLines (stream : List UInt8) : List Text := cut kMaxLine endsLine stream

/-- A read that finds data, or is interrupted; others end the loop of `onReadable`. -/
def ReadResult.goesOn : ReadResult → Bool
  | .data _ | .interrupted => true
  | _ => false

/-- The bytes of a read. -/
def ReadResult.bytes : ReadResult → List UInt8
  | .data bytes => bytes
  | _ => []

namespace OtaFlasher
variable {κ τ : Type}

/-- Each time the pipe becomes readable, `onReadable` reads until `EAGAIN`. -/
def readUntilAgain (env : Env κ τ) (wakeups : List (List ReadResult)) (s : OtaFlasher κ × τ) :
    OtaFlasher κ × τ :=
  wakeups.foldl (fun s reads => onReadable env (reads ++ [.again]) s) s

/-- The last time, it reads the end of the file. -/
def readUntilEof (env : Env κ τ) (wakeups : List (List ReadResult)) (last : List ReadResult)
    (s : OtaFlasher κ × τ) : OtaFlasher κ × τ :=
  onReadable env (last ++ [.eof]) (readUntilAgain env wakeups s)

/-- The stream as it was read. -/
def streamOf (wakeups : List (List ReadResult)) : List UInt8 :=
  wakeups.flatMap fun reads => reads.flatMap ReadResult.bytes

variable (env : Env κ τ) {callbacks : κ} {f : OtaFlasher κ} {t : τ}

/-! ### One byte -/

/-- The flasher with a collector's buffer, the owner with its lines. -/
def collecting (env : Env κ τ) (callbacks : κ) (f : OtaFlasher κ) (t : τ) (c : Collector UInt8) :
    OtaFlasher κ × τ :=
  ({ f with lineBuf := c.buffer }, c.lines.foldl (fun t line => env.onLine callbacks line t) t)

theorem emitLine_collecting (heard : f.lineCb = some callbacks) (c : Collector UInt8) :
    emitLine env (collecting env callbacks f t c) = collecting env callbacks f t c.flush := by
  obtain ⟨buffer, lines⟩ := c
  cases buffer <;> simp [emitLine, collecting, Collector.flush, heard]

theorem takeByte_collecting (heard : f.lineCb = some callbacks) (c : Collector UInt8) (a : UInt8) :
    takeByte env (collecting env callbacks f t c) a =
      collecting env callbacks f t (c.take kMaxLine endsLine a) := by
  by_cases ends : a = 10 ∨ a = 13
  · rw [takeByte, if_pos ends, emitLine_collecting env heard, Collector.take, if_pos (by simpa [endsLine] using ends)]
  · rw [takeByte, if_neg ends, Collector.take, if_neg (by simpa [endsLine] using ends)]
    rfl

theorem takeBytes_collecting (heard : f.lineCb = some callbacks) (bytes : List UInt8)
    (c : Collector UInt8) :
    bytes.foldl (takeByte env) (collecting env callbacks f t c) =
      collecting env callbacks f t (bytes.foldl (Collector.take kMaxLine endsLine) c) := by
  induction bytes generalizing c with
  | nil => rfl
  | cons a rest ih => rw [List.foldl_cons, List.foldl_cons, takeByte_collecting env heard, ih]

/-! ### Reads -/

/-- Reads that go on only collect. -/
theorem onReadable_collecting (heard : f.lineCb = some callbacks) (opened : f.pipe.isNone = false)
    (reads rest : List ReadResult) (goOn : ∀ r ∈ reads, r.goesOn = true) (c : Collector UInt8) :
    onReadable env (reads ++ rest) (collecting env callbacks f t c) =
      onReadable env rest (collecting env callbacks f t
        ((reads.flatMap ReadResult.bytes).foldl (Collector.take kMaxLine endsLine) c)) := by
  induction reads generalizing c with
  | nil => rfl
  | cons r more ih =>
    have later := ih fun r' member => goOn r' (List.mem_cons_of_mem r member)
    have pipe : (collecting env callbacks f t c).1.pipe.isNone = false := opened
    cases r with
    | data bytes =>
      rw [List.cons_append, onReadable, if_neg (by simp [pipe])]
      rw [takeBytes_collecting env heard, later, List.flatMap_cons, List.foldl_append]
      rfl
    | interrupted =>
      rw [List.cons_append, onReadable, if_neg (by simp [pipe])]
      exact later c
    | eof | again | failed => exact absurd (goOn _ List.mem_cons_self) (by decide)

theorem readUntilAgain_collecting (heard : f.lineCb = some callbacks)
    (opened : f.pipe.isNone = false) (wakeups : List (List ReadResult))
    (goOn : ∀ reads ∈ wakeups, ∀ r ∈ reads, r.goesOn = true) (c : Collector UInt8) :
    readUntilAgain env wakeups (collecting env callbacks f t c) =
      collecting env callbacks f t
        ((streamOf wakeups).foldl (Collector.take kMaxLine endsLine) c) := by
  induction wakeups generalizing c with
  | nil => rfl
  | cons reads more ih =>
    have later := ih fun reads' member => goOn reads' (List.mem_cons_of_mem reads member)
    have pipe (c : Collector UInt8) : (collecting env callbacks f t c).1.pipe.isNone = false := opened
    have once := onReadable_collecting env (t := t) heard opened reads [.again]
      (goOn reads List.mem_cons_self) c
    rw [onReadable, if_neg (by simp [pipe])] at once
    have next : readUntilAgain env (reads :: more) (collecting env callbacks f t c) =
        readUntilAgain env more (onReadable env (reads ++ [.again]) (collecting env callbacks f t c)) := rfl
    have streams : streamOf (reads :: more) = reads.flatMap ReadResult.bytes ++ streamOf more :=
      List.flatMap_cons
    rw [next, once, streams, List.foldl_append]
    exact later _

/-- The end of the file delivers what is left. -/
theorem readUntilEof_collecting (heard : f.lineCb = some callbacks) (opened : f.pipe.isNone = false)
    (fresh : f.detachScheduled = false) (wakeups : List (List ReadResult)) (last : List ReadResult)
    (goOn : ∀ reads ∈ wakeups ++ [last], ∀ r ∈ reads, r.goesOn = true) (c : Collector UInt8) :
    (readUntilEof env wakeups last (collecting env callbacks f t c)).2 =
      (collecting env callbacks f t
        ((streamOf (wakeups ++ [last])).foldl (Collector.take kMaxLine endsLine) c).flush).2 := by
  have before := readUntilAgain_collecting env (t := t) heard opened wakeups
    (fun reads member => goOn reads (List.mem_append_left _ member)) c
  have streams : streamOf (wakeups ++ [last]) = streamOf wakeups ++ last.flatMap ReadResult.bytes := by
    simp [streamOf]
  rw [readUntilEof, before, onReadable_collecting env heard opened last [.eof]
    (goOn last (List.mem_append_right _ List.mem_cons_self)), streams, List.foldl_append]
  generalize (last.flatMap ReadResult.bytes).foldl _ _ = c
  have pipe : (collecting env callbacks f t c).1.pipe.isNone = false := opened
  have idle : (collecting env callbacks f t c).1.detachScheduled = false := fresh
  rw [onReadable, if_neg (by simp [pipe])]
  have told := congrArg Prod.snd
    (emitLine_collecting env (t := t) (f := { f with detachScheduled := true }) heard c)
  unfold scheduleDetachPipe
  dsimp only
  rw [if_neg (by simp [pipe, idle])]
  exact told

/-! ### The whole stream -/

/-- A start leaves an open pipe and an empty buffer. -/
theorem start_reading {argv : List Text} {s : OtaFlasher κ × τ}
    (started : (start env argv callbacks s).1 = true) :
    (start env argv callbacks s).2.1.lineCb = some callbacks ∧
      (start env argv callbacks s).2.1.pipe.isNone = false ∧
      (start env argv callbacks s).2.1.detachScheduled = false ∧
      (start env argv callbacks s).2.1.lineBuf = [] := by
  revert started
  unfold start
  dsimp only
  split
  · exact fun refused => (Bool.false_ne_true refused).elim
  · split
    · exact fun refused => (Bool.false_ne_true refused).elim
    · cases env.spawn argv s.2 with
      | mk result t =>
        cases result with
        | pipeFailed | spawnFailed => exact fun refused => (Bool.false_ne_true refused).elim
        | started pid positive => exact fun _ => ⟨rfl, rfl, rfl, rfl⟩

/-- From a start on, whatever the reads were that brought the stream, the owner hears the lines of
the stream: of each run its last bytes, all of them if the run is no longer than 8192, in order.
The buffer never holds more than 8193. -/
theorem child_lines (env : Env κ τ) (argv : List Text) (callbacks : κ) (s : OtaFlasher κ × τ)
    (started : (start env argv callbacks s).1 = true) (wakeups : List (List ReadResult))
    (last : List ReadResult)
    (goOn : ∀ reads ∈ wakeups ++ [last], ∀ r ∈ reads, r.goesOn = true) :
    (readUntilEof env wakeups last (start env argv callbacks s).2).2 =
        (childLines (streamOf (wakeups ++ [last]))).foldl
          (fun t line => env.onLine callbacks line t) (start env argv callbacks s).2.2 ∧
      (∀ line ∈ childLines (streamOf (wakeups ++ [last])),
        line ≠ [] ∧ line.length ≤ 8192 ∧ ∀ c ∈ line, c ≠ 10 ∧ c ≠ 13) ∧
      (∀ run ∈ (streamOf (wakeups ++ [last])).splitOnP endsLine,
        (Library.kept kMaxLine run).length = run.length % 8193 ∧
          (run.length ≤ 8192 → Library.kept kMaxLine run = run)) ∧
      ∀ seen c, seen ++ [c] <+: streamOf (wakeups ++ [last]) →
        ((seen.foldl (takeByte env) (start env argv callbacks s).2).1.lineBuf ++ [c]).length ≤ 8193 := by
  obtain ⟨heard, opened, fresh, empty⟩ := start_reading env started
  have begins : (start env argv callbacks s).2 =
      collecting env callbacks (start env argv callbacks s).2.1 (start env argv callbacks s).2.2 {} := by
    simp [collecting, ← empty]
  refine ⟨?_, fun line member => ?_, fun run _ => ⟨Library.kept_length run, Library.kept_whole⟩,
    fun seen c _ => ?_⟩
  · have all := Collector.collected kMaxLine endsLine
      (streamOf (wakeups ++ [last])) [] (by simp) []
    rw [List.nil_append, List.nil_append] at all
    conv_lhs => rw [begins]
    rw [readUntilEof_collecting env heard opened fresh wakeups last goOn, childLines, ← all]
    rfl
  · obtain ⟨filled, short, plain⟩ := Library.cut_line member
    exact ⟨filled, short, fun c inside => by simpa [endsLine] using plain c inside⟩
  · rw [begins, takeBytes_collecting env heard, List.length_append]
    have small := Collector.buffer_le kMaxLine endsLine seen (c := {}) (Nat.zero_le kMaxLine)
    exact Nat.add_le_add_right small 1

/-- The owner keeps a list of what it hears. -/
def lineKeeper : Env Unit (List Text) where
  spawn _ t := (.started 1 Nat.zero_lt_one, t)
  signalGroup _ _ t := (true, t)
  groupAlive _ t := (true, t)
  waitpid _ t := (.running, t)
  waitpidBlocking _ t := (none, t)
  onLine _ line t := t ++ [line]
  onExit _ _ _ s := s

/-- The output of test_otaflasher.cc:37-51, cut in the middle of a line. -/
theorem child_lines_printf :
    (readUntilEof lineKeeper [[.data (utf8 "STAGE: check\nha")], [.interrupted, .data (utf8 "lf\rline")]]
      [.data (utf8 "\r\n")] (start lineKeeper [utf8 "printf"] () ({}, [])).2).2 =
        [utf8 "STAGE: check", utf8 "half", utf8 "line"] := by
  have lines := (child_lines lineKeeper [utf8 "printf"] () ({}, []) (by decide)
    [[.data (utf8 "STAGE: check\nha")], [.interrupted, .data (utf8 "lf\rline")]]
    [.data (utf8 "\r\n")] (by decide)).1
  rw [lines]
  decide

end OtaFlasher
end Mhost.Ota
