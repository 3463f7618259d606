import Mhost.Log.ConvertDigits

/-!
# Log lines

LogStream.h:79-172, LogStream.cc:9-74, Logger.h:39-60 and Logger.cc:19-113. A stream is its
buffer; `stream << a << b` is `puts` of a list. What the C library prints is a parameter. Of the
destructor the record is modelled, and whether the program aborts behind it.
-/
namespace Mhost.Log
open Library (Text utf8 decimal)

def newline : UInt8 := 10

/-- Texts that the C library writes into arrays of the code. -/
structure Libc where
  /-- `localtime_r` printed as `"%4d%02d%02d %02d:%02d:%02d"` -/
  localTime : Int → Text
  strerror : Int → Text
  /-- `"%.12g"`; a double is its bit pattern -/
  shortest : UInt64 → Text

/-! ### Streams -/

abbrev LogStream := FixedBuffer kSmallBuffer

def LogStream.formatInteger (s : LogStream) (v : Int) : LogStream :=
  if s.avail ≥ kMaxNumericSize then
    match convert (List.replicate kMaxNumericSize 0) v with
    | some (tmp, len) => s.append (tmp.take len)
    | none => s
  else s

def hexDigits : Text := utf8 "0123456789abcdef"

/-- The half bytes of an address, the highest first. -/
def nibbles (v : UInt64) : List Nat :=
  (List.range 16).reverse.map fun k => (v.toNat >>> (4 * k)) % 16

def pointerText (v : UInt64) : Text :=
  utf8 "0x" ++
    if v = 0 then utf8 "0" else ((nibbles v).dropWhile (· == 0)).map fun n => hexDigits.getD n 0

/-- A piece printed by `snprintf`; its constructor asserts that the text fits. -/
structure Fmt where
  text : Text
  fits : text.length < 48

/-- What can be streamed. `signed char` goes as `short`, `unsigned char` as `unsigned short`,
`float` as `double`; a null `const char*` is `none`. -/
inductive Value where
  | bool (v : Bool)
  | char (v : UInt8)
  | cstring (str : Option Text)
  | string (v : Text)
  | integer {t : IntegerType} (v : t.Value)
  | pointer (p : UInt64)
  | double (v : UInt64)
  | fmt (f : Fmt)

/-- `stream << v`. -/
def LogStream.put (libc : Libc) (s : LogStream) : Value → LogStream
  | .bool v => s.append (if v then utf8 "1" else utf8 "0")
  | .char v => s.append [v]
  | .cstring (some str) => s.append str
  | .cstring none => s.append (utf8 "(null)")
  | .string v => s.append v
  | .integer v => LogStream.formatInteger s v.val
  | .pointer p => if s.avail ≥ kMaxNumericSize then s.append (pointerText p) else s
  | .double v =>
      if s.avail ≥ kMaxNumericSize then
        let tmp := libc.shortest v
        if tmp.length > 0 then s.append tmp else s
      else s
  | .fmt f => s.append f.text

def LogStream.puts (libc : Libc) (s : LogStream) (values : List Value) : LogStream :=
  values.foldl (LogStream.put libc) s

/-! ### The parts of a line -/

/-- `t_time` and `t_lastSecond` of one thread. -/
structure TimeCache where
  t_time : Text := []
  t_lastSecond : Int := 0

def TimeCache.refresh (libc : Libc) (cache : TimeCache) (microSecondsSinceEpoch : Int) : TimeCache :=
  let seconds := microSecondsSinceEpoch.tdiv 1000000
  if seconds ≠ cache.t_lastSecond then
    { t_time := libc.localTime seconds, t_lastSecond := seconds }
  else cache

/-- `%06d`. -/
def sixDigits (n : Int) : Text :=
  if n < 0 then utf8 "-" ++ List.replicate (5 - (decimal n.natAbs).length) 48 ++ decimal n.natAbs
  else List.replicate (6 - (decimal n.natAbs).length) 48 ++ decimal n.natAbs

theorem micros_fit (now : Int) :
    (utf8 "." ++ sixDigits (now.tmod 1000000) ++ utf8 " ").length < 48 := by
  have small : (now.tmod 1000000).natAbs < 10 ^ 6 := by
    rw [Int.natAbs_tmod]
    exact Nat.mod_lt _ (by decide)
  have few : (decimal (now.tmod 1000000).natAbs).length ≤ 6 := by
    rw [Library.decimal_length, Nat.length_toDigits_le_iff (by decide) (by decide)]
    exact small
  have dot : (utf8 ".").length = 1 := rfl
  have blank : (utf8 " ").length = 1 := rfl
  have minus : (utf8 "-").length = 1 := rfl
  unfold sixDigits
  split <;> simp only [List.length_append, List.length_replicate, dot, blank, minus] <;> omega

/-- `Fmt us(".%06d ", ...)`. -/
def micros (now : Int) : Fmt := ⟨utf8 "." ++ sixDigits (now.tmod 1000000) ++ utf8 " ", micros_fit now⟩

inductive LogLevel where
  | trace | debug | info | warn | error | fatal
  deriving DecidableEq, Repr

def LogLevel.name : LogLevel → Text
  | .trace => utf8 "TRACE "
  | .debug => utf8 "DEBUG "
  | .info => utf8 "INFO  "
  | .warn => utf8 "WARN  "
  | .error => utf8 "ERROR "
  | .fatal => utf8 "FATAL "

/-- What follows the last `c`, as `strrchr` finds it. -/
def afterLast (c : UInt8) (path : Text) : Text :=
  if c ∈ path then (path.reverse.takeWhile (· != c)).reverse else path

/-- `SourceFile`: `0x2F` is the slash, `0x5C` the backslash. -/
def basename (path : Text) : Text := afterLast 0x5C (afterLast 0x2F path)

/-- The four constructors of `Logger`, with what each takes besides file and line. -/
inductive Origin where
  | plain
  | leveled (level : LogLevel)
  | inFunction (level : LogLevel) (func : Text)
  | system (toAbort : Bool) (savedErrno : IntegerType.int.Value)

def Origin.level : Origin → LogLevel
  | .plain => .info
  | .leveled level | .inFunction level _ => level
  | .system toAbort _ => if toAbort then .fatal else .error

def Origin.failure (libc : Libc) : Origin → List Value
  | .system _ savedErrno =>
      if savedErrno.val ≠ 0 then
        [.cstring (some (libc.strerror savedErrno.val)), .cstring (some (utf8 " (errno=")),
          .integer savedErrno, .cstring (some (utf8 ") "))]
      else []
  | _ => []

def Origin.function : Origin → List Value
  | .inFunction _ func => [.char 0x5B, .cstring (some func), .cstring (some (utf8 "] "))]
  | _ => []

/-- What one log statement brings along besides its values. -/
structure Statement where
  origin : Origin
  file : Text
  line : IntegerType.int.Value
  tid : IntegerType.int.Value
  now : Int

/-- `Impl::Impl` and the rest of the constructor, on a thread with the given cache. -/
def Statement.header (libc : Libc) (cache : TimeCache) (st : Statement) : List Value :=
  [.cstring (some (cache.refresh libc st.now).t_time), .fmt (micros st.now)] ++
    [.integer st.tid, .char 0x20, .cstring (some st.origin.level.name)] ++
    st.origin.failure libc ++ st.origin.function

/-- `finish` up to the newline. -/
def Statement.suffix (st : Statement) : List Value :=
  [.cstring (some (utf8 " - ")), .cstring (some (basename st.file)), .char 0x3A, .integer st.line]

/-- Everything that is streamed before the newline. -/
def Statement.streamed (libc : Libc) (cache : TimeCache) (st : Statement) (values : List Value) :
    List Value :=
  st.header libc cache ++ values ++ st.suffix

/-- `~Logger`: what `g_output` is handed, and whether `abort` follows. -/
def Statement.destroy (libc : Libc) (cache : TimeCache) (st : Statement) (values : List Value) :
    Text × Bool :=
  let stream := LogStream.puts libc {} (st.streamed libc cache values ++ [.char newline])
  (stream.data, st.origin.level = .fatal)

end Mhost.Log
