import Mathlib.Algebra.Ring.Int.Defs
import Mathlib.Algebra.Ring.Nat
import Mhost.Library.Machine
import Mhost.Log.FileUtil

/-!
# The rolling log file

LogFile.h:16-44 and LogFile.cc:11-79. The readings of the clock, the outcomes of `fopen` and
`fwrite` are input; of a file name, the reading that it is made from is kept. The caller's lock and
`flush`, which leave the members as they are, are left out.
-/
namespace Mhost.Log
open Library (Text)

/-- What the calls of `time` and of `fopen` give, one after another. -/
structure Surroundings where
  clock : Nat → Int
  opens : Nat → Bool

structure LogFileConfig where
  rollSize : UInt64
  flushInterval : Int := 3
  checkEveryN : Int := 1024

def kRollPerSeconds : Int := 24 * 60 * 60

/-- The start of the day of a reading; the division truncates. -/
def startOf (now : Int) : Int := now.tdiv kRollPerSeconds * kRollPerSeconds

/-- `static_cast<off_t>` of a `size_t`. -/
def toOffT (n : UInt64) : Int := if n.toNat < 2 ^ 63 then n.toNat else n.toNat - 2 ^ 64

/-- The members of a `LogFile`. `openedAt` is the reading in the name of `file`; `readings` and
`files` count the calls of `time` and of `fopen` so far. -/
structure LogFile where
  config : LogFileConfig
  count : Int
  file : AppendFile
  startOfPeriod : Int
  lastRoll : Int
  lastFlush : Int
  openedAt : Int
  readings : Nat
  files : Nat

namespace LogFile

/-- The members in the order of their declaration, `startOfPeriod_` not yet set; then the body. -/
def construct (env : Surroundings) (config : LogFileConfig) (unset : Int) : LogFile :=
  let now := env.clock 0
  -- `file_(new AppendFile(getLogFileName(basename_, &lastRoll_)))`
  let members : LogFile :=
    { config, count := 0, file := { opened := env.opens 0 }, startOfPeriod := unset, lastRoll := now
      lastFlush := unset, openedAt := now, readings := 1, files := 1 }
  let members := { members with startOfPeriod := 0 }
  let members := { members with lastRoll := 0 }
  let members := { members with lastFlush := 0 }
  { members with startOfPeriod := startOf members.lastRoll }

def rollFile (env : Surroundings) (s : LogFile) : LogFile :=
  let now := env.clock s.readings
  let start := startOf now
  let s := { s with readings := s.readings + 1 }
  if now > s.lastRoll then
    { s with
      lastRoll := now, lastFlush := now, startOfPeriod := start
      file := { opened := env.opens s.files }, openedAt := now, files := s.files + 1 }
  else s

/-- What is appended, and what the calls of `fwrite` give for it. -/
structure Append where
  logline : Text
  results : List FwriteResult := []

def append_unlocked (env : Surroundings) (s : LogFile) (a : Append) : Except FileFault LogFile := do
  let file ← s.file.append a.logline a.results
  let s := { s with file }
  if file.written > toOffT s.config.rollSize then return rollFile env s
  else
    let s := { s with count := s.count + 1 }
    if s.count ≥ s.config.checkEveryN then
      let now := env.clock s.readings
      let s := { s with count := 0, readings := s.readings + 1 }
      let thisPeriod := startOf now
      if thisPeriod ≠ s.startOfPeriod then return rollFile env s
      else if now - s.lastFlush > s.config.flushInterval then return { s with lastFlush := now }
      else return s
    else return s

def machine (env : Surroundings) : Library.Machine LogFile Append FileFault := ⟨append_unlocked env⟩

end LogFile
end Mhost.Log
