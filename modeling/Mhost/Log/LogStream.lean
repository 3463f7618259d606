import Mathlib.Algebra.Ring.Int.Defs
import Mathlib.Algebra.Ring.Nat
import Mhost.Library.Text

/-!
# Fixed buffers and integer conversion

LogStream.h:21-75. In a `FixedBuffer` the bytes written so far stand for the memory up to `cur_`;
what lies behind `cur_` is never read. `convert` works on an array of its caller; each of its
accesses says whether it stays inside.
-/
namespace Mhost.Log
open Library (Text utf8)

def kSmallBuffer : Nat := 4 * 1024
def kLargeBuffer : Nat := 4 * 1000 * 1000

structure FixedBuffer (size : Nat) where
  data : List UInt8 := []
  fits : data.length ≤ size := by exact Nat.zero_le _
  deriving DecidableEq, Repr

namespace FixedBuffer
variable {size : Nat}

def avail (b : FixedBuffer size) : Nat := size - b.data.length

/-- What does not fit is dropped; a full buffer is never filled to its last byte. -/
def append (b : FixedBuffer size) (buf : List UInt8) : FixedBuffer size :=
  if room : b.avail > buf.length then
    { data := b.data ++ buf
      fits := by
        simp only [avail] at room
        simp only [List.length_append]
        omega }
  else b

def reset (_ : FixedBuffer size) : FixedBuffer size := {}

theorem append_data (b : FixedBuffer size) (buf : List UInt8) (room : b.avail > buf.length) :
    (b.append buf).data = b.data ++ buf := by
  simp [append, room]

end FixedBuffer

/-! ### Integers -/

/-- The types that `formatInteger` is instantiated at; `long` has 64 bits. -/
inductive IntegerType where
  | short | unsignedShort | int | unsignedInt | long | unsignedLong | longLong | unsignedLongLong
  deriving DecidableEq, Repr

def IntegerType.signed : IntegerType → Bool
  | .short | .int | .long | .longLong => true
  | .unsignedShort | .unsignedInt | .unsignedLong | .unsignedLongLong => false

def IntegerType.bits : IntegerType → Nat
  | .short | .unsignedShort => 16
  | .int | .unsignedInt => 32
  | .long | .unsignedLong | .longLong | .unsignedLongLong => 64

def IntegerType.lowest (t : IntegerType) : Int := if t.signed then -2 ^ (t.bits - 1) else 0

def IntegerType.highest (t : IntegerType) : Int :=
  if t.signed then 2 ^ (t.bits - 1) - 1 else 2 ^ t.bits - 1

/-- A value of the type. -/
structure IntegerType.Value (t : IntegerType) where
  val : Int
  lowest_le : t.lowest ≤ val
  le_highest : val ≤ t.highest

def kMaxNumericSize : Nat := 32

def digits : Text := utf8 "9876543210123456789"

/-- `zero[lsd]`, where `zero` is `digits + 9`. -/
def zero (lsd : Int) : Option UInt8 := if -9 ≤ lsd then digits[(lsd + 9).toNat]? else none

/-- `buf[p] = c`. -/
def store (buf : Text) (p : Nat) (c : UInt8) : Option Text :=
  if p < buf.length then some (buf.set p c) else none

/-- `do … while (i != 0)`: the digits of `i` from `p` on, the last one first. -/
def writeDigits (i : Int) (p : Nat) (buf : Text) : Option (Text × Nat) := do
  let c ← zero (i.tmod 10)
  let buf ← store buf p c
  if done : i.tdiv 10 = 0 then some (buf, p + 1) else writeDigits (i.tdiv 10) (p + 1) buf
termination_by i.natAbs
decreasing_by
  have smaller : (i.tdiv 10).natAbs = i.natAbs / 10 := Int.natAbs_tdiv i 10
  have more : (i.tdiv 10).natAbs ≠ 0 := fun none => done (Int.natAbs_eq_zero.mp none)
  omega

/-- `while (lo < hi)`. -/
def reverseInPlace (lo hi : Nat) (buf : Text) : Option Text :=
  if lo < hi then do
    let t ← buf[lo]?
    let last ← buf[hi]?
    let buf ← store buf lo last
    let buf ← store buf hi t
    reverseInPlace (lo + 1) (hi - 1) buf
  else some buf
termination_by hi - lo

/-- The array afterwards, and the length that is returned. -/
def convert (buf : Text) (value : Int) : Option (Text × Nat) := do
  let (buf, p) ← writeDigits value 0 buf
  let buf ← store buf p 0
  let buf ← if p > 1 then reverseInPlace 0 (p - 1) buf else some buf
  some (buf, p)

end Mhost.Log
