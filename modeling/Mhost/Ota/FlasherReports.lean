import Mathlib.Data.List.Induction
import Mhost.Library.History
import Mhost.Ota.FlasherLife

/-!
# Each child is reported exactly once

The flasher with an owner of its own: children are numbered in the order of their starts,
a child's callbacks are its number, and every callback, request and signal is entered in a
history. The exit callback may make requests, `start` among them, before it returns
(test_otaflasher.cc:93-116).
-/
namespace Mhost.Ota
open Library (Text Throughout lastWritten throughout_snoc lastWritten_snoc)

/-- The system calls, over whatever state the system is in. -/
structure Calls (ω : Type) where
  spawn : List Text → ω → SpawnResult × ω
  signalGroup : Signal → Nat → ω → Bool × ω
  groupAlive : Nat → ω → Bool × ω
  waitpid : Nat → ω → WaitResult × ω
  waitpidBlocking : Nat → ω → Option Int32 × ω

/-- A call of the flasher's interface. -/
inductive Request where
  | start (argv : List Text)
  | killGroup
  deriving DecidableEq, Repr

/-- What the callbacks of each child do. -/
structure Owner (ω : Type) where
  hear : Nat → Text → ω → ω
  react : Nat → Bool → Int32 → ω → List Request × ω

/-- `blocked` is the `waitpid` without `WNOHANG`. -/
inductive Report where
  | started (child pid : Nat)
  | line (child : Nat) (text : Text)
  | exited (child : Nat) (ok : Bool) (exitStatus : Int32)
  | asked
  | signal (sig : Signal) (pid : Nat)
  | blocked (pid : Nat)
  deriving DecidableEq, Repr

/-- The child whose callback it is. -/
def Report.callbackOf : Report → Option Nat
  | .line child _ | .exited child _ _ => some child
  | _ => none

structure Client (ω : Type) where
  os : ω
  starts : Nat := 0
  reports : List Report := []

variable {ω : Type}

def Client.report (e : Report) (c : Client ω) : Client ω := { c with reports := c.reports ++ [e] }

/-- The environment up to what exit callbacks do. -/
def callsEnv (calls : Calls ω) (owner : Owner ω) : Env Nat (Client ω) where
  spawn argv c := ((calls.spawn argv c.os).1, { c with os := (calls.spawn argv c.os).2 })
  signalGroup sig pid c :=
    ((calls.signalGroup sig pid c.os).1,
      Client.report (.signal sig pid) { c with os := (calls.signalGroup sig pid c.os).2 })
  groupAlive pid c := ((calls.groupAlive pid c.os).1, { c with os := (calls.groupAlive pid c.os).2 })
  waitpid pid c := ((calls.waitpid pid c.os).1, { c with os := (calls.waitpid pid c.os).2 })
  waitpidBlocking pid c :=
    ((calls.waitpidBlocking pid c.os).1,
      Client.report (.blocked pid) { c with os := (calls.waitpidBlocking pid c.os).2 })
  onLine child text c := Client.report (.line child text) { c with os := owner.hear child text c.os }
  onExit _ _ _ s := s

namespace OtaFlasher

/-- A request with its record: the number of a child is how many were started before. -/
def request (env : Env Nat (Client ω)) (s : OtaFlasher Nat × Client ω) :
    Request → OtaFlasher Nat × Client ω
  | .start argv =>
      match start env argv s.2.starts s with
      | (true, (f, c)) => (f, Client.report (.started c.starts f.pid) { c with starts := c.starts + 1 })
      | (false, s) => s
  | .killGroup => killGroup env (s.1, s.2.report .asked)

/-- The exit callback of a child. -/
def exitCallback (calls : Calls ω) (owner : Owner ω) (child : Nat) (ok : Bool) (exitStatus : Int32)
    (s : OtaFlasher Nat × Client ω) : OtaFlasher Nat × Client ω :=
  let c := s.2.report (.exited child ok exitStatus)
  let answer := owner.react child ok exitStatus c.os
  answer.1.foldl (request (callsEnv calls owner)) (s.1, { c with os := answer.2 })

def clientEnv (calls : Calls ω) (owner : Owner ω) : Env Nat (Client ω) :=
  { callsEnv calls owner with onExit := exitCallback calls owner }

/-- What the loop can do next. Channel events come in any order, also after `disableAll`
in the same turn; functors and timers run when they are queued. -/
inductive Happening where
  | request (r : Request)
  | readable (reads : List ReadResult)
  | hangup
  | functor
  | reapTimer (i : Nat)
  | killTimer
  deriving DecidableEq, Repr

def happen (calls : Calls ω) (owner : Owner ω) (s : OtaFlasher Nat × Client ω) :
    Happening → OtaFlasher Nat × Client ω
  | .request r => request (clientEnv calls owner) s r
  | .readable reads => onReadable (clientEnv calls owner) reads s
  | .hangup => scheduleDetachPipe (clientEnv calls owner) s
  | .functor => if s.1.detachQueued > 0 then detachPipe (clientEnv calls owner) s else s
  | .reapTimer i => reapTimer (clientEnv calls owner) i s
  | .killTimer => if s.1.killTimers > 0 then escalate (clientEnv calls owner) s else s

/-! ### The history -/

/-- The child whose exit has not been reported. -/
def current (reports : List Report) : Option Nat :=
  lastWritten (fun
    | .started child _ => some (some child)
    | .exited .. => some none
    | _ => none) none reports

/-- The process of that child. -/
def process (reports : List Report) : Option Nat :=
  lastWritten (fun
    | .started _ pid => some (some pid)
    | .exited .. => some none
    | _ => none) none reports

def startCount (reports : List Report) : Nat :=
  reports.countP fun
    | .started .. => true
    | _ => false

/-- Children are started one at a time and numbered; a callback is the current child's. -/
def Due (past : List Report) : Report → Prop
  | .started child _ => current past = none ∧ child = startCount past
  | .line child _ | .exited child _ _ => current past = some child
  | _ => True

theorem current_snoc (reports : List Report) (e : Report) :
    current (reports ++ [e]) = match e with
      | .started child _ => some child
      | .exited .. => none
      | _ => current reports := by
  rw [current, lastWritten_snoc]
  cases e <;> rfl

theorem process_snoc (reports : List Report) (e : Report) :
    process (reports ++ [e]) = match e with
      | .started _ pid => some pid
      | .exited .. => none
      | _ => process reports := by
  rw [process, lastWritten_snoc]
  cases e <;> rfl

theorem startCount_snoc (reports : List Report) (e : Report) :
    startCount (reports ++ [e]) = startCount reports + match e with
      | .started .. => 1
      | _ => 0 := by
  cases e <;> simp [startCount]

theorem startCount_append (reports more : List Report) :
    startCount (reports ++ more) = startCount reports + startCount more := by
  simp [startCount]

/-- The current child is the one started last. -/
theorem current_latest {reports : List Report} (due : Throughout Due reports) {child : Nat}
    (now : current reports = some child) : child + 1 = startCount reports := by
  induction reports using List.reverseRecOn with
  | nil => simp [current, lastWritten] at now
  | append_singleton reports e ih =>
    obtain ⟨before, this⟩ := throughout_snoc.mp due
    rw [current_snoc] at now
    rw [startCount_snoc]
    cases e with
    | started k pid =>
      obtain rfl : k = child := Option.some.inj now
      rw [this.2]
    | exited => cases now
    | line | asked | signal | blocked => exact ih before now

/-- Without a start nothing becomes current. -/
theorem current_none {reports more : List Report} (free : current reports = none)
    (calm : startCount more = 0) : current (reports ++ more) = none := by
  induction more generalizing reports with
  | nil => simpa using free
  | cons e rest ih =>
    have split : startCount (e :: rest) = startCount [e] + startCount rest :=
      startCount_append [e] rest
    have next : current (reports ++ [e]) = none := by
      rw [current_snoc]
      cases e with
      | started => simp [startCount] at calm
      | exited => rfl
      | line | asked | signal | blocked => exact free
    rw [List.append_cons]
    exact ih next (by omega)

/-- Later callbacks are those of the same child, or of one started since. -/
theorem later_callback {past future : List Report} {e later : Report}
    (due : Throughout Due (past ++ e :: future)) (member : later ∈ future) {child : Nat}
    (callback : later.callbackOf = some child) :
    ∃ mid, startCount (past ++ e :: mid) = child + 1 ∧
      current (past ++ e :: mid) = some child := by
  obtain ⟨mid, rest, rfl⟩ := List.append_of_mem member
  have same : past ++ e :: (mid ++ later :: rest) = (past ++ e :: mid) ++ later :: rest := by simp
  rw [same] at due
  have this : current (past ++ e :: mid) = some child := by
    have permitted := due _ later rest rfl
    cases later with
    | line | exited => exact permitted.trans callback
    | started | asked | signal | blocked => cases callback
  exact ⟨mid, (current_latest (Library.throughout_first due) this).symm, this⟩

theorem after_exit {past future : List Report} {child : Nat} {ok : Bool} {exitStatus : Int32}
    (due : Throughout Due (past ++ .exited child ok exitStatus :: future)) {later : Report}
    (member : later ∈ future) {k : Nat} (callback : later.callbackOf = some k) : child < k := by
  obtain ⟨mid, count, now⟩ := later_callback due member callback
  have exiting : current past = some child := due past _ future rfl
  have first := current_latest (Library.throughout_first due) exiting
  rw [List.append_cons past _ mid] at count
  rw [List.append_cons past _ mid] at now
  have freed : current (past ++ [.exited child ok exitStatus]) = none := current_snoc past _
  have started : startCount mid ≠ 0 := by
    intro calm
    rw [current_none freed calm] at now
    cases now
  rw [startCount_append, startCount_snoc] at count
  dsimp only at count
  omega

theorem after_start {past future : List Report} {child pid : Nat}
    (due : Throughout Due (past ++ .started child pid :: future)) {later : Report}
    (member : later ∈ future) {k : Nat} (callback : later.callbackOf = some k) : child ≤ k := by
  obtain ⟨mid, count, _⟩ := later_callback due member callback
  have numbered : child = startCount past := (due past _ future rfl).2
  rw [List.append_cons past _ mid, startCount_append, startCount_snoc] at count
  dsimp only at count
  omega

/-! ### What the flasher keeps -/

/-- The history is in order and names the child that runs and its process. -/
structure Told (child : Option Nat) (pid : Nat) (c : Client ω) : Prop where
  due : Throughout Due c.reports
  current : current c.reports = child
  process : process c.reports = child.map fun _ => pid
  count : c.starts = startCount c.reports

section
variable {child : Option Nat} {pid : Nat} {c : Client ω}

theorem Told.system (told : Told child pid c) (os : ω) : Told child pid { c with os } :=
  ⟨told.due, told.current, told.process, told.count⟩

/-- Anything but a start or an exit. -/
def Passing : Report → Prop
  | .started .. | .exited .. => False
  | _ => True

theorem Told.passing (told : Told child pid c) {e : Report} (due : Due c.reports e)
    (passing : Passing e) : Told child pid (c.report e) := by
  have current' : OtaFlasher.current (c.reports ++ [e]) = OtaFlasher.current c.reports := by
    rw [current_snoc]
    cases e with
    | started | exited => cases passing
    | line | asked | signal | blocked => rfl
  have process' : OtaFlasher.process (c.reports ++ [e]) = OtaFlasher.process c.reports := by
    rw [process_snoc]
    cases e with
    | started | exited => cases passing
    | line | asked | signal | blocked => rfl
  have count' : startCount (c.reports ++ [e]) = startCount c.reports := by
    rw [startCount_snoc]
    cases e with
    | started | exited => cases passing
    | line | asked | signal | blocked => rfl
  exact ⟨throughout_snoc.mpr ⟨told.due, due⟩, current'.trans told.current,
    process'.trans told.process, told.count.trans count'.symm⟩

theorem Told.exited {k : Nat} (told : Told (some k) pid c) (ok : Bool) (exitStatus : Int32)
    (pid' : Nat) : Told none pid' (c.report (.exited k ok exitStatus)) :=
  ⟨throughout_snoc.mpr ⟨told.due, told.current⟩, current_snoc _ _, process_snoc _ _, by
    simp only [Client.report, startCount_snoc, told.count, Nat.add_zero]⟩

theorem Told.started (told : Told none pid c) (pid' : Nat) : Told (some c.starts) pid'
    (Client.report (.started c.starts pid') { c with starts := c.starts + 1 }) :=
  ⟨throughout_snoc.mpr ⟨told.due, told.current, told.count⟩, current_snoc _ _, process_snoc _ _, by
    simp only [Client.report, startCount_snoc, told.count]⟩

end

variable {calls : Calls ω} {owner : Owner ω} {f : OtaFlasher Nat} {c : Client ω}
  {child : Option Nat}

/-- A property that the entries made along the way keep. -/
structure Records (holds : Option Nat → Nat → Client ω → Prop) : Prop where
  system : ∀ child pid c os, holds child pid c → holds child pid { c with os }
  started : ∀ pid pid' c, holds none pid c → holds (some c.starts) pid'
    (Client.report (.started c.starts pid') { c with starts := c.starts + 1 })
  exited : ∀ k pid pid' ok exitStatus c, holds (some k) pid c →
    holds none pid' (c.report (.exited k ok exitStatus))
  line : ∀ k pid text c, holds (some k) pid c → holds (some k) pid (c.report (.line k text))
  asked : ∀ child pid c, holds child pid c → holds child pid (c.report .asked)
  term : ∀ k pid c, holds (some k) pid c →
    holds (some k) pid ((c.report .asked).report (.signal .term pid))
  lastResort : ∀ k pid c, holds (some k) pid c →
    holds (some k) pid ((c.report (.signal .kill pid)).report (.blocked pid))

section
variable {holds : Option Nat → Nat → Client ω → Prop}

theorem request_good (records : Records holds) (phase : Phase f child)
    (before : holds child f.pid c) (r : Request) :
    Good holds (request (callsEnv calls owner) (f, c) r) := by
  cases r with
  | start argv =>
    have cases' := start_cases (callsEnv calls owner) argv c.starts f c
    unfold request
    dsimp only
    generalize start (callsEnv calls owner) argv c.starts (f, c) = outcome at cases' ⊢
    cases cases' with
    | refused => exact ⟨child, phase, before⟩
    | failed => exact ⟨child, phase, records.system _ _ _ _ before⟩
    | started pid positive asked given free f' same phase' =>
      have idle : child = none := by
        cases child with
        | none => rfl
        | some k => simp [phase.running_iff.mpr rfl] at free
      subst idle
      have detached := phase.stopped.2
      have after := records.started f.pid f'.pid { c with os := (calls.spawn argv c.os).2 }
        (records.system _ _ _ _ before)
      exact ⟨some c.starts, phase' detached.queue detached.timers, after⟩
  | killGroup =>
    refine killGroup_good (fun k same => ?_) phase (records.asked _ _ _ before)
    subst same
    exact records.system _ _ _ _ (records.term k f.pid c before)

theorem requests_good (records : Records holds) (requests : List Request)
    {s : OtaFlasher Nat × Client ω} (good : Good holds s) :
    Good holds (requests.foldl (request (callsEnv calls owner)) s) := by
  induction requests generalizing s with
  | nil => exact good
  | cons r rest ih =>
    obtain ⟨f, c⟩ := s
    obtain ⟨child, phase, before⟩ := good
    exact ih (request_good records phase before r)

/-- The exit callback starts from an idle flasher, whatever it requests. -/
theorem clientEnv_guards (records : Records holds) : Guards (clientEnv calls owner) holds where
  waitpid _ _ _ before := records.system _ _ _ _ before
  lastResort k pid c before := records.system _ _ _ _ (records.lastResort k pid c before)
  onLine k pid text c before := records.system _ _ _ _ (records.line k pid text c before)
  onExit k pid ok exitStatus f c phase before :=
    requests_good records _
      ⟨none, phase, records.system _ _ _ _ (records.exited k pid f.pid ok exitStatus c before)⟩

/-- Only the escalation makes an entry that needs a reason of its own. -/
theorem happen_good (records : Records holds) (phase : Phase f child)
    (before : holds child f.pid c) (h : Happening)
    (escalates : h = .killTimer → f.killTimers > 0 → ∀ k, child = some k →
      (calls.groupAlive f.pid c.os).1 = true →
      holds (some k) f.pid (c.report (.signal .kill f.pid))) :
    Good holds (happen calls owner (f, c) h) := by
  have guards : Guards (clientEnv calls owner) holds := clientEnv_guards records
  cases h with
  | request r =>
    have requested : Good holds (request (callsEnv calls owner) (f, c) r) :=
      request_good records phase before r
    exact requested
  | readable reads => exact onReadable_good guards.onLine reads phase before
  | hangup => exact scheduleDetachPipe_good guards.onLine phase before
  | functor =>
    simp only [happen]
    split
    next queued => exact detachPipe_good guards phase before queued
    next => exact ⟨child, phase, before⟩
  | reapTimer i => exact reapTimer_good guards i phase before
  | killTimer =>
    simp only [happen]
    split
    next armed =>
      refine escalate_good (fun k same => ?_) (fun k same up => ?_) phase before
      · subst same
        exact records.system _ _ _ _ before
      · exact records.system _ _ _ _ (escalates rfl armed k same up)
    next => exact ⟨child, phase, before⟩

end

theorem told_records : Records (ω := ω) Told where
  system _ _ _ os told := told.system os
  started _ pid' _ told := told.started pid'
  exited _ _ pid' ok exitStatus _ told := told.exited ok exitStatus pid'
  line _ _ _ _ told := told.passing told.current trivial
  asked _ _ _ told := told.passing trivial trivial
  term _ _ _ told := (told.passing (e := .asked) trivial trivial).passing trivial trivial
  lastResort _ _ _ told := (told.passing (e := .signal _ _) trivial trivial).passing trivial trivial

theorem happen_told {s : OtaFlasher Nat × Client ω} (good : Good Told s) (h : Happening) :
    Good Told (happen calls owner s h) := by
  obtain ⟨f, c⟩ := s
  obtain ⟨child, phase, told⟩ := good
  refine happen_good told_records phase told h fun _ _ k same _ => ?_
  subst same
  exact told.passing trivial trivial

theorem fresh_good (os : ω) : Good Told (({} : OtaFlasher Nat), ({ os } : Client ω)) :=
  ⟨none, .fresh, Library.throughout_nil, rfl, rfl, rfl⟩

theorem happenings_good {s : OtaFlasher Nat × Client ω} (good : Good Told s)
    (happenings : List Happening) : Good Told (happenings.foldl (happen calls owner) s) := by
  induction happenings generalizing s with
  | nil => exact good
  | cons h rest ih => exact ih (happen_told good h)

/-! ### The contract -/

/-- How many ways there are to the end of the child: the pipe is read, `detachPipe` is
queued, `pollReap` timers are armed. -/
def continuations (f : OtaFlasher Nat) : Nat :=
  (if f.pipe = some { reading := true } then 1 else 0) + f.detachQueued + f.reapTimers.length

def Report.exitOf (child : Nat) : Report → Bool
  | .exited k _ _ => k = child
  | _ => false

theorem phase_continuations (phase : Phase f child) :
    continuations f = if child.isSome then 1 else 0 := by
  cases phase with
  | idle _ detached =>
    simp [continuations, detached.pipe, detached.queue, detached.timers]
  | reading _ pipe _ queue timers => simp [continuations, pipe, queue, timers]
  | detaching _ pipe _ queue timers => simp [continuations, pipe, queue, timers]
  | reaping _ pipe queue _ timer => simp [continuations, pipe, queue, timer]

/-- Idle, the flasher starts what `spawn` starts. -/
theorem request_starts {env : Env Nat (Client ω)} (phase : Phase f none) {argv : List Text}
    (given : argv ≠ []) {pid : Nat} {positive : 0 < pid}
    (asked : (env.spawn argv c).1 = .started pid positive) :
    (request env (f, c) (.start argv)).1.running = true := by
  have cases' := start_cases env argv c.starts f c
  unfold request
  dsimp only
  generalize start env argv c.starts (f, c) = outcome at cases' ⊢
  cases cases' with
  | refused no =>
    rcases no with busy | empty
    · simp [running, phase.stopped.1] at busy
    · exact absurd empty given
  | failed result asked' bad => exact absurd (asked'.symm.trans asked) (bad pid positive)
  | started pid' positive' _ _ _ f' same => simpa [running, same] using positive'

/-- After any run: the exit of each child is reported at most once, its lines come before,
and no callback of an older child comes after a start; while a child runs exactly one
continuation is pending, otherwise pipe and channel are gone, none is pending, and `start`
does what `spawn` does. -/
theorem reported_once (calls : Calls ω) (owner : Owner ω) (os : ω)
    (happenings : List Happening) :
    let s := happenings.foldl (happen calls owner) ({}, { os })
    (∀ child, s.2.reports.countP (Report.exitOf child) ≤ 1) ∧
      (∀ past child ok exitStatus future, s.2.reports = past ++ .exited child ok exitStatus :: future →
        ∀ text, .line child text ∉ future) ∧
      (∀ past child pid future, s.2.reports = past ++ .started child pid :: future →
        child = startCount past ∧ ∀ e ∈ future, ∀ k ∈ e.callbackOf, child ≤ k) ∧
      (s.1.running = true → continuations s.1 = 1) ∧
      (s.1.running = false → s.1.pipe = none ∧ continuations s.1 = 0 ∧
        ∀ argv pid positive, argv ≠ [] →
          ((clientEnv calls owner).spawn argv s.2).1 = .started pid positive →
            (request (clientEnv calls owner) s (.start argv)).1.running = true) := by
  intro s
  obtain ⟨child, phase, told⟩ : Good Told s := happenings_good (fresh_good os) happenings
  refine ⟨fun k => ?_, fun past k ok exitStatus future split text member => ?_,
    fun past k pid future split => ⟨?_, fun e member j callback => ?_⟩, fun up => ?_, fun down => ?_⟩
  · refine Library.countP_le_one fun past e future split exits later member => ?_
    cases e with
    | exited j ok exitStatus =>
      have due := told.due
      rw [split] at due
      have same : j = k := by simpa [Report.exitOf] using exits
      cases later with
      | exited i ok' exitStatus' =>
        have newer : j < i := after_exit due member rfl
        simp only [Report.exitOf, decide_eq_false_iff_not]
        omega
      | started | line | asked | signal | blocked => rfl
    | started | line | asked | signal | blocked => cases exits
  · have due := told.due
    rw [split] at due
    exact absurd (after_exit due member rfl) (Nat.lt_irrefl k)
  · exact (told.due past _ future split).2
  · have due := told.due
    rw [split] at due
    exact after_start due member callback
  · rw [phase_continuations phase, if_pos (phase.running_iff.mp up)]
  · have none' : child = none := by
      cases child with
      | none => rfl
      | some k => simp [phase.running_iff.mpr rfl] at down
    subst none'
    refine ⟨phase.stopped.2.pipe, phase_continuations phase, fun argv pid positive given asked => ?_⟩
    exact request_starts phase given asked

end OtaFlasher
end Mhost.Ota
