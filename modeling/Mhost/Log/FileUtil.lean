import Mhost.Library.Text

/-!
# Append-only files

FileUtil.h:12-34 and FileUtil.cc:20-56. What `fopen` and the calls of `fwrite_unlocked` give is
input. A stream remembers the calls that were made on it; the error report on stderr is left out,
like the buffer of the C library.
-/
namespace Mhost.Log
open Library (Text)

/-- How many bytes `fwrite` takes at most, and whether it leaves the error indicator set. -/
structure FwriteResult where
  taken : Nat
  error : Bool
  deriving DecidableEq, Repr

/-- One call of `fwrite`. -/
structure FwriteCall where
  handed : Text
  accepted : Nat
  error : Bool
  deriving DecidableEq, Repr

inductive FileFault where
  | nullStream
  deriving DecidableEq, Repr

/-- `opened` is whether `fp_` is not null. -/
structure AppendFile where
  opened : Bool
  written : Nat := 0
  calls : List FwriteCall := []
  deriving DecidableEq, Repr

/-- `while (written < len)`. The results are those of the calls to come; behind the last one
`fwrite` takes everything. -/
def AppendFile.writeLoop (f : AppendFile) (logline : Text) (written : Nat)
    (results : List FwriteResult) : AppendFile × Nat :=
  if written < logline.length then
    let rest := logline.drop written
    let result := results.headD ⟨rest.length, false⟩
    let n := min result.taken rest.length
    let f := { f with calls := f.calls ++ [⟨rest, n, result.error⟩] }
    if n ≠ rest.length then (f, written)
    else f.writeLoop logline (written + n) results.tail
  else (f, written)
termination_by logline.length - written
decreasing_by
  have whole : min result.taken (logline.drop written).length = (logline.drop written).length :=
    Decidable.not_not.mp ‹_›
  rw [whole, List.length_drop]
  omega

/-- The loop writes through `fp_` without looking at it. -/
def AppendFile.append (f : AppendFile) (logline : Text) (results : List FwriteResult) :
    Except FileFault AppendFile :=
  if ¬ f.opened ∧ 0 < logline.length then .error .nullStream
  else
    let (f, written) := f.writeLoop logline 0 results
    .ok { f with written := f.written + written }

end Mhost.Log
