import Mhost.Log.Logger

/-!
# When a record ends its line

LogStream.h:27-36, 128-137 and Logger.cc:90-113. Each piece is kept or dropped by its own size
test, so how far the buffer is filled follows from the lengths alone. The newline is the last
piece, and one byte: it is dropped exactly when the pieces before it fill all but one byte.
-/
namespace Mhost.Log
open Library (Text utf8 decimal decimal_digits)

/-- The texts of the C library are single lines, and a double takes less than 32 bytes. -/
structure Libc.Documented (libc : Libc) : Prop where
  localTime_line : ∀ seconds, newline ∉ libc.localTime seconds
  strerror_line : ∀ savedErrno, newline ∉ libc.strerror savedErrno
  shortest_line : ∀ v, newline ∉ libc.shortest v
  shortest_fits : ∀ v, (libc.shortest v).length < kMaxNumericSize

/-- A value without a newline of its own. -/
def Value.OneLine : Value → Prop
  | .char v => v ≠ newline
  | .cstring (some text) | .string text => newline ∉ text
  | .fmt f => newline ∉ f.text
  | _ => True

def Origin.OneLine : Origin → Prop
  | .inFunction _ func => newline ∉ func
  | _ => True

/-- A statement whose names and values bring no newline. -/
structure Statement.OneLine (st : Statement) (values : List Value) : Prop where
  file : newline ∉ st.file
  origin : st.origin.OneLine
  values : ∀ v ∈ values, v.OneLine

/-- What a piece asks for: its bytes, and 32 free bytes if it is a number. -/
structure Demand where
  bytes : Nat
  numeric : Bool

def demand (libc : Libc) : Value → Demand
  | .bool _ => ⟨1, false⟩
  | .char _ => ⟨1, false⟩
  | .cstring (some str) => ⟨str.length, false⟩
  | .cstring none => ⟨6, false⟩
  | .string v => ⟨v.length, false⟩
  | .integer v => ⟨(decimal v.val.natAbs).length, true⟩
  | .pointer p => ⟨(pointerText p).length, true⟩
  | .double v => ⟨(libc.shortest v).length, true⟩
  | .fmt f => ⟨f.text.length, false⟩

/-- How far 4096 bytes are filled after a piece, if they were filled up to `n`. -/
def fill (n : Nat) (d : Demand) : Nat :=
  if (d.numeric → n + 32 ≤ 4096) ∧ n + d.bytes < 4096 then n + d.bytes else n

/-! ### One piece -/

theorem stream_fits (s : LogStream) : s.data.length ≤ 4096 := s.fits

theorem append_length (s : LogStream) (text : Text) :
    (s.append text).data.length =
      if s.data.length + text.length < 4096 then s.data.length + text.length
      else s.data.length := by
  have fits := stream_fits s
  have left : s.avail = 4096 - s.data.length := rfl
  by_cases room : s.avail > text.length
  · rw [FixedBuffer.append_data s text room, if_pos (by omega), List.length_append]
  · rw [FixedBuffer.append, dif_neg room, if_neg (by omega)]

/-- A number of an integer type has its digits appended when 32 bytes are free. -/
theorem formatInteger_append {t : IntegerType} (s : LogStream) (v : t.Value) :
    LogStream.formatInteger s v.val =
      if s.avail ≥ kMaxNumericSize then s.append (decimal v.val.natAbs) else s := by
  have few := v.few
  have written := convert_natAbs v.val (List.replicate kMaxNumericSize 0) (by
    rw [List.length_replicate, kMaxNumericSize]
    omega)
  simp only [LogStream.formatInteger, written, List.take_left' rfl]

theorem numeric_length (s : LogStream) (text : Text) :
    (if s.avail ≥ kMaxNumericSize then s.append text else s).data.length =
      fill s.data.length ⟨text.length, true⟩ := by
  have fits := stream_fits s
  unfold fill
  by_cases free : s.data.length + 32 ≤ 4096
  · have enough : s.avail ≥ kMaxNumericSize := by
      unfold FixedBuffer.avail kSmallBuffer kMaxNumericSize
      omega
    rw [if_pos enough, append_length]
    simp [free]
  · have short : ¬ s.avail ≥ kMaxNumericSize := by
      unfold FixedBuffer.avail kSmallBuffer kMaxNumericSize
      omega
    rw [if_neg short]
    simp [free]

theorem put_length (libc : Libc) (s : LogStream) (v : Value) :
    (LogStream.put libc s v).data.length = fill s.data.length (demand libc v) := by
  have text_length (text : Text) :
      (s.append text).data.length = fill s.data.length ⟨text.length, false⟩ := by
    simp [append_length, fill]
  cases v with
  | bool v => cases v <;> exact text_length _
  | char v => exact text_length [v]
  | cstring str => cases str <;> exact text_length _
  | string text => exact text_length text
  | integer v => exact (congrArg (·.data.length) (formatInteger_append s v)).trans (numeric_length s _)
  | pointer p => exact numeric_length s (pointerText p)
  | double v =>
    by_cases shown : (libc.shortest v).length > 0
    · simp only [LogStream.put, if_pos shown]
      exact numeric_length s (libc.shortest v)
    · simp only [LogStream.put, if_neg shown, ite_self]
      have nothing : (libc.shortest v).length = 0 := by omega
      simp [demand, fill, nothing]
  | fmt f => exact text_length f.text

theorem puts_length (libc : Libc) (s : LogStream) (values : List Value) :
    (LogStream.puts libc s values).data.length =
      (values.map (demand libc)).foldl fill s.data.length := by
  induction values generalizing s with
  | nil => rfl
  | cons v rest ih =>
    rw [LogStream.puts, List.foldl_cons, List.map_cons, List.foldl_cons, ← put_length]
    exact ih (LogStream.put libc s v)

theorem fill_lt (n : Nat) (d : Demand) (below : n < 4096) : fill n d < 4096 := by
  unfold fill
  split
  next kept => exact kept.2
  next => exact below

theorem foldl_fill_lt (n : Nat) (demands : List Demand) (below : n < 4096) :
    demands.foldl fill n < 4096 := by
  induction demands generalizing n with
  | nil => exact below
  | cons d rest ih => exact ih (fill n d) (fill_lt n d below)

/-! ### No piece brings a newline -/

theorem append_line (s : LogStream) (text : Text) (stays : newline ∉ s.data)
    (line : newline ∉ text) : newline ∉ (s.append text).data := by
  by_cases room : s.avail > text.length
  · rw [FixedBuffer.append_data s text room]
    simp [stays, line]
  · rwa [FixedBuffer.append, dif_neg room]

theorem decimal_line (n : Nat) : newline ∉ decimal n :=
  fun member => absurd (decimal_digits n newline member).1 (by decide)

theorem pointerText_line (p : UInt64) : newline ∉ pointerText p := by
  have digit : ∀ n < 16, hexDigits.getD n 0 ≠ newline := by decide
  unfold pointerText
  split
  · decide
  · intro member
    rcases List.mem_append.mp member with front | back
    · exact absurd front (by decide)
    · obtain ⟨n, nibble, shown⟩ := List.mem_map.mp back
      have source := (List.dropWhile_sublist _).mem nibble
      obtain ⟨k, _, rfl⟩ := List.mem_map.mp source
      exact digit _ (Nat.mod_lt _ (by decide)) shown

theorem put_line {libc : Libc} (documented : libc.Documented) (s : LogStream) (v : Value)
    (stays : newline ∉ s.data) (line : v.OneLine) : newline ∉ (LogStream.put libc s v).data := by
  cases v with
  | bool v => cases v <;> exact append_line s _ stays (by decide)
  | char v => exact append_line s _ stays fun member => line (List.mem_singleton.mp member).symm
  | cstring str =>
    cases str with
    | none => exact append_line s _ stays (by decide)
    | some text => exact append_line s text stays line
  | string text => exact append_line s text stays line
  | integer v =>
    rw [LogStream.put, formatInteger_append]
    split
    · exact append_line s _ stays (decimal_line _)
    · exact stays
  | pointer p =>
    rw [LogStream.put]
    split
    · exact append_line s _ stays (pointerText_line p)
    · exact stays
  | double v =>
    simp only [LogStream.put]
    split
    · split
      · exact append_line s _ stays (documented.shortest_line v)
      · exact stays
    · exact stays
  | fmt f => exact append_line s f.text stays line

theorem puts_line {libc : Libc} (documented : libc.Documented) (s : LogStream)
    (values : List Value) (stays : newline ∉ s.data) (lines : ∀ v ∈ values, v.OneLine) :
    newline ∉ (LogStream.puts libc s values).data := by
  induction values generalizing s with
  | nil => exact stays
  | cons v rest ih =>
    have first := put_line documented s v stays (lines v List.mem_cons_self)
    exact ih _ first fun w member => lines w (List.mem_cons_of_mem v member)

theorem afterLast_line (c : UInt8) (path : Text) (line : newline ∉ path) :
    newline ∉ afterLast c path := by
  unfold afterLast
  split
  · intro member
    have taken := (List.takeWhile_sublist _).mem (List.mem_reverse.mp member)
    exact line (List.mem_reverse.mp taken)
  · exact line

theorem sixDigits_line (n : Int) : newline ∉ sixDigits n := by
  have zeros (k : Nat) : newline ∉ List.replicate k (48 : UInt8) := fun member =>
    absurd (List.eq_of_mem_replicate member) (by decide)
  have minus : newline ∉ utf8 "-" := by decide
  unfold sixDigits
  split <;> simp [zeros, minus, decimal_line]

/-- What one thread's cache holds after the statements that it has logged. -/
def cacheAfter (libc : Libc) (earlier : List Int) : TimeCache :=
  earlier.foldl (TimeCache.refresh libc) {}

theorem refresh_line {libc : Libc} (documented : libc.Documented) (cache : TimeCache) (now : Int)
    (line : newline ∉ cache.t_time) : newline ∉ (cache.refresh libc now).t_time := by
  unfold TimeCache.refresh
  simp only
  split
  · exact documented.localTime_line _
  · exact line

theorem cacheAfter_line {libc : Libc} (documented : libc.Documented) (earlier : List Int) :
    newline ∉ (cacheAfter libc earlier).t_time :=
  List.foldlRecOn earlier (motive := fun cache => newline ∉ cache.t_time) _ (by decide)
    fun cache line now _ => refresh_line documented cache now line

theorem failure_lines {libc : Libc} (documented : libc.Documented) (origin : Origin) :
    ∀ v ∈ origin.failure libc, v.OneLine := by
  have error : newline ∉ utf8 " (errno=" := by decide
  have close : newline ∉ utf8 ") " := by decide
  intro v member
  cases origin with
  | system toAbort savedErrno =>
    simp only [Origin.failure] at member
    split at member
    · simp only [List.mem_cons, List.not_mem_nil, or_false] at member
      rcases member with rfl | rfl | rfl | rfl
      · exact documented.strerror_line _
      · exact error
      · trivial
      · exact close
    · simp at member
  | _ => simp [Origin.failure] at member

theorem function_lines (origin : Origin) (line : origin.OneLine) :
    ∀ v ∈ origin.function, v.OneLine := by
  have opening : (0x5B : UInt8) ≠ newline := by decide
  have close : newline ∉ utf8 "] " := by decide
  intro v member
  cases origin with
  | inFunction level func =>
    simp only [Origin.function, List.mem_cons, List.not_mem_nil, or_false] at member
    rcases member with rfl | rfl | rfl
    · exact opening
    · exact line
    · exact close
  | _ => simp [Origin.function] at member

theorem header_lines {libc : Libc} (documented : libc.Documented) (cache : TimeCache)
    (st : Statement) (time : newline ∉ (cache.refresh libc st.now).t_time)
    (origin : st.origin.OneLine) : ∀ v ∈ st.header libc cache, v.OneLine := by
  have level : newline ∉ st.origin.level.name := by cases st.origin.level <;> decide
  have us : newline ∉ (micros st.now).text := by
    have dot : newline ∉ utf8 "." := by decide
    have blank : newline ∉ utf8 " " := by decide
    simp [micros, dot, blank, sixDigits_line]
  have failure := failure_lines documented st.origin
  have function := function_lines st.origin origin
  have blank : (0x20 : UInt8) ≠ newline := by decide
  intro v member
  rcases List.mem_append.mp member with front | func
  · rcases List.mem_append.mp front with stamp | fail
    · simp only [List.cons_append, List.nil_append, List.mem_cons, List.not_mem_nil,
        or_false] at stamp
      rcases stamp with rfl | rfl | rfl | rfl | rfl
      · exact time
      · exact us
      · trivial
      · exact blank
      · exact level
    · exact failure v fail
  · exact function v func

theorem streamed_lines {libc : Libc} (documented : libc.Documented) (earlier : List Int)
    (st : Statement) (values : List Value) (lines : st.OneLine values) :
    ∀ v ∈ st.streamed libc (cacheAfter libc earlier) values, v.OneLine := by
  have time := refresh_line documented _ st.now (cacheAfter_line documented earlier)
  have dash : newline ∉ utf8 " - " := by decide
  have colon : (0x3A : UInt8) ≠ newline := by decide
  have base := afterLast_line 0x5C _ (afterLast_line 0x2F st.file lines.file)
  intro v member
  rcases List.mem_append.mp member with front | back
  · rcases List.mem_append.mp front with head | body
    · exact header_lines documented _ st time lines.origin v head
    · exact lines.values v body
  · simp only [Statement.suffix, List.mem_cons, List.not_mem_nil, or_false] at back
    rcases back with rfl | rfl | rfl | rfl
    · exact dash
    · exact base
    · exact colon
    · trivial

/-! ### The record -/

theorem destroy_record (libc : Libc) (cache : TimeCache) (st : Statement) (values : List Value) :
    (st.destroy libc cache values).1 =
      ((LogStream.puts libc {} (st.streamed libc cache values)).append [newline]).data := by
  simp only [Statement.destroy, LogStream.puts, List.foldl_append, List.foldl_cons,
    List.foldl_nil, LogStream.put]

/-- The newline is one byte, and the buffer keeps its last byte free. -/
theorem newline_kept (s : LogStream) (below : s.data.length < 4096) (line : newline ∉ s.data) :
    (s.append [newline]).data.getLast? = some newline ↔ s.data.length ≠ 4095 := by
  have left : s.avail = 4096 - s.data.length := rfl
  by_cases room : s.avail > [newline].length
  · rw [FixedBuffer.append_data s _ room]
    simp only [List.length_singleton] at room
    simp only [List.getLast?_concat, true_iff]
    omega
  · rw [FixedBuffer.append, dif_neg room]
    simp only [List.length_singleton] at room
    refine ⟨fun last => absurd (List.mem_of_getLast? last) line, fun other => ?_⟩
    omega

theorem destroy_ends {libc : Libc} (documented : libc.Documented) (earlier : List Int)
    (st : Statement) (values : List Value) (lines : st.OneLine values) :
    (st.destroy libc (cacheAfter libc earlier) values).1.getLast? = some newline ↔
      ((st.streamed libc (cacheAfter libc earlier) values).map (demand libc)).foldl fill 0 ≠ 4095 := by
  have length : (LogStream.puts libc {} (st.streamed libc (cacheAfter libc earlier) values)).data.length =
      ((st.streamed libc (cacheAfter libc earlier) values).map (demand libc)).foldl fill 0 :=
    puts_length libc {} _
  have below := foldl_fill_lt 0
    ((st.streamed libc (cacheAfter libc earlier) values).map (demand libc)) (by decide)
  have line := puts_line documented {} _ (by simp) (streamed_lines documented earlier st values lines)
  rw [destroy_record, newline_kept _ (by rw [length]; exact below) line, length]

/-- A record never exceeds 4096 bytes. It ends with a newline unless the pieces before it, each
kept or dropped by its size, fill exactly 4095. -/
theorem record_ends_iff {libc : Libc} (documented : libc.Documented) (earlier : List Int)
    (st : Statement) (values : List Value) (lines : st.OneLine values) :
    let cache := cacheAfter libc earlier
    let record := (st.destroy libc cache values).1
    record.length ≤ 4096 ∧
      (record.getLast? = some newline ↔
        ((st.streamed libc cache values).map (demand libc)).foldl fill 0 ≠ 4095) := by
  intro cache record
  refine ⟨?_, destroy_ends documented earlier st values lines⟩
  have last : record = _ := destroy_record libc cache st values
  rw [last]
  exact stream_fits _

/-- A library that prints the same texts every time. -/
def steadyLibc : Libc where
  localTime _ := utf8 "20231114 22:13:20"
  strerror _ := utf8 "Success"
  shortest _ := utf8 "0"

theorem steadyLibc_documented : steadyLibc.Documented := by
  have time : newline ∉ utf8 "20231114 22:13:20" := by decide
  have success : newline ∉ utf8 "Success" := by decide
  have nought : newline ∉ utf8 "0" ∧ (utf8 "0").length < kMaxNumericSize := by decide
  exact ⟨fun _ => time, fun _ => success, fun _ => nought.1, fun _ => nought.2⟩

/-- `LOG_INFO` in line 1 of `main.cc`, on thread 1. -/
def infoStatement : Statement where
  origin := .leveled .info
  file := utf8 "src/main.cc"
  line := ⟨1, by decide, by decide⟩
  tid := ⟨1, by decide, by decide⟩
  now := 1700000000000000

theorem infoStatement_line (text : Text) (line : newline ∉ text) :
    infoStatement.OneLine [.string text] :=
  ⟨by decide, trivial, fun v member => by
    rw [List.mem_singleton.mp member]
    exact line⟩

theorem record_ends_ready :
    let record := (infoStatement.destroy steadyLibc (cacheAfter steadyLibc [])
      [.string (utf8 "ready")]).1
    record.length ≤ 4096 ∧ record.getLast? = some newline := by
  have ends := record_ends_iff steadyLibc_documented [] infoStatement [.string (utf8 "ready")]
    (infoStatement_line _ (by decide))
  exact ⟨ends.1, ends.2.mpr (by decide +kernel)⟩

/-- Behind the 33 bytes of the header a string of 4062 bytes is kept, and the newline is not. -/
theorem record_runs_on :
    let text : Text := List.replicate 4062 0x78
    newline ∉ text ∧
      (infoStatement.destroy steadyLibc (cacheAfter steadyLibc []) [.string text]).1.getLast? ≠
        some newline := by
  intro text
  have line : newline ∉ text := fun member =>
    absurd (List.eq_of_mem_replicate member) (by decide)
  have ends := destroy_ends steadyLibc_documented [] infoStatement [.string text]
    (infoStatement_line text line)
  exact ⟨line, fun complete => ends.mp complete (by decide +kernel)⟩

end Mhost.Log
