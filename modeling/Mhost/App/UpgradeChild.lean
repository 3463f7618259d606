import Mhost.App.Upgrade
import Mhost.Ota.FlasherLife

/-!
# The child of an upgrade

What its acts do to the host, and what is left when it is started or reported
(ChassisHost.cc:531-622, OtaFlasher.cc:58-239).
-/
namespace Mhost.App
open Library (Text utf8)
open Proto Link Serial Ota OtaFlasher

/-- What was ordered so far: upgrades accepted, children started, children asked to stop. -/
def Base.orders (b : Base) : List Entry := b.journal.filter Entry.ofUpgrade

theorem Base.orders_same {b b' : Base} (grown : ∃ rest, b'.journal = b.journal ++ rest ∧
    ∀ e ∈ rest, e.ofUpgrade = false) : b'.orders = b.orders := by
  obtain ⟨rest, journal, silent⟩ := grown
  have none : rest.filter Entry.ofUpgrade = [] := by simpa using silent
  simp [orders, journal, none]

theorem Base.Aside.flashing_iff {b b' : Base} (aside : Base.Aside b b') :
    b'.ota.otaState = .flashing ↔ b.ota.otaState = .flashing := by
  rcases aside.phase with stays | ⟨recovering, none⟩
  · rw [stays]
  · simp [recovering, none]

theorem Base.Aside.orders {b b' : Base} (aside : Base.Aside b b') : b'.orders = b.orders :=
  Base.orders_same aside.journal

namespace ChassisHost

/-- The flasher; before the first upgrade there is none, and a new one is made then. -/
def child (h : ChassisHost) : OtaFlasher Unit := h.flasher.getD {}

def childRunning (h : ChassisHost) : Bool := h.flasher.any (·.running)

/-- `ok` of `finish`. -/
def succeeds (exitStatus : Int32) : Bool := wifexited exitStatus && wexitstatus exitStatus == 0

/-- The status with which the act reports the child, if it does. -/
def exitOf (w : World) (h : ChassisHost) : Act → Option Int32
  | .childDetach =>
      if h.child.detachQueued > 0 then (looked (flasherEnv w) 0 h.child.pid h.base).1 else none
  | .childReap timer =>
      match h.child.reapTimers[timer]? with
      | none => none
      | some tries => (looked (flasherEnv w) tries h.child.pid h.base).1
  | _ => none

variable {w : World} {h h' : ChassisHost}

theorem childRunning_eq (h : ChassisHost) : h.childRunning = h.child.running := by
  unfold childRunning child
  cases h.flasher <;> rfl

theorem runs {owner : Option Unit} (phase : Phase h.child owner) :
    h.childRunning = owner.isSome := by
  rw [childRunning_eq, Bool.eq_iff_iff, phase.running_iff]

theorem Aside.child (aside : Aside h h') : h'.child = h.child := by
  unfold ChassisHost.child
  rw [aside.flasher]

/-! ### What the child does -/

/-- The child of `owner` goes on beside the host. -/
def GoesOn (owner : Option Unit) (pid : Nat) (b : Base) (owner' : Option Unit) (pid' : Nat)
    (b' : Base) : Prop :=
  owner' = owner ∧ pid' = pid ∧ Base.Aside b b'

/-- Without a report the child goes on; with one the exit callback is called, and finds the
upgrade as it was. -/
structure Reported (w : World) (exit : Option Int32) (owner : Option Unit)
    (s s' : OtaFlasher Unit × Base) : Prop where
  silent : exit = none → Phase s'.1 owner ∧ s'.1.pid = s.1.pid ∧ Base.Aside s.2 s'.2
  reports : ∀ exitStatus, exit = some exitStatus → owner = some () ∧ Phase s'.1 none ∧
    ∃ b, Base.Aside s.2 b ∧ s'.2 = otaOnChildExit w (succeeds exitStatus) exitStatus b

theorem Reported.of_good {owner : Option Unit} {s s' : OtaFlasher Unit × Base}
    (good : Good (GoesOn owner s.1.pid s.2) s') : Reported w none owner s s' := by
  obtain ⟨owner', phase, same, pid, aside⟩ := good
  exact ⟨fun _ => ⟨same ▸ phase, pid, aside⟩, by simp⟩

theorem goesOn_told (owner : Option Unit) (pid : Nat) (b : Base) :
    ∀ callbacks pid' line t, GoesOn owner pid b (some callbacks) pid' t →
      GoesOn owner pid b (some callbacks) pid' ((flasherEnv w).onLine callbacks line t) :=
  fun _ _ line _ before => ⟨before.1, before.2.1, before.2.2.trans (otaOnChildLine_calm (.refl _) line).aside⟩

theorem looked_aside (w : World) (tries pid : Nat) (b : Base) :
    Base.Aside b (looked (flasherEnv w) tries pid b).2 := by
  have waited : Base.Aside b b.answered := .same rfl rfl rfl rfl
  simp only [looked, flasherEnv]
  cases w.os.waitpid b.asked with
  | reaped | failed => exact waited
  | running | interrupted =>
    dsimp only
    split
    · exact waited
    · exact waited.trans (.adding (e := .signal .kill pid) rfl rfl rfl rfl rfl)

theorem pollReap_reported {f : OtaFlasher Unit} (alive : Alive f ()) (detached : Detached f)
    (tries : Nat) (b : Base) :
    Reported w (looked (flasherEnv w) tries f.pid b).1 (some ()) (f, b)
      (pollReap (flasherEnv w) tries (f, b)) := by
  have aside := looked_aside w tries f.pid b
  rw [pollReap_looked alive]
  generalize looked (flasherEnv w) tries f.pid b = answer at aside ⊢
  obtain ⟨status, b'⟩ := answer
  cases status with
  | none =>
    refine ⟨fun _ => ⟨.reaping ?_ detached.pipe detached.queue (tries + 1) ?_, rfl, aside⟩, by simp⟩
    · exact ⟨alive.1, alive.2, alive.3, alive.4⟩
    · simp [detached.timers]
  | some status =>
    refine ⟨by simp, ?_⟩
    rintro _ ⟨⟩
    have told : finish (flasherEnv w) status (f, b') =
        ({ f with exited := true, pid := 0, exitCb := none },
          otaOnChildExit w (succeeds status) status b') := by
      simp only [finish, alive.exitCb]
      rfl
    dsimp only
    rw [told]
    exact ⟨rfl, .idle rfl ⟨detached.1, detached.2, detached.3⟩, b', aside, rfl⟩

theorem detachPipe_reported {f : OtaFlasher Unit} {owner : Option Unit} (phase : Phase f owner)
    (queued : f.detachQueued > 0) (b : Base) :
    Reported w (looked (flasherEnv w) 0 f.pid b).1 owner (f, b)
      (detachPipe (flasherEnv w) (f, b)) := by
  cases phase with
  | idle _ detached => simp [detached.queue] at queued
  | reading _ _ _ queue => simp [queue] at queued
  | reaping _ _ queue => simp [queue] at queued
  | detaching alive pipe scheduled queue timers =>
    have reported := pollReap_reported (w := w)
      (f := { f with detachQueued := f.detachQueued - 1, pipe := none, detachScheduled := false })
      ⟨alive.1, alive.2, alive.3, alive.4⟩ ⟨rfl, by simp [queue], timers⟩ 0 b
    have piped : ¬ (f.pipe.isNone = true) := by simp [pipe]
    unfold detachPipe
    dsimp only
    rw [if_neg piped]
    exact ⟨reported.silent, reported.reports⟩

theorem reapTimer_reported {f : OtaFlasher Unit} {owner : Option Unit} (phase : Phase f owner)
    {timer tries : Nat} (armed : f.reapTimers[timer]? = some tries) (b : Base) :
    Reported w (looked (flasherEnv w) tries f.pid b).1 owner (f, b)
      (reapTimer (flasherEnv w) timer (f, b)) := by
  unfold reapTimer
  simp only [armed]
  cases phase with
  | idle _ detached => simp [detached.timers] at armed
  | reading _ _ _ _ timers => simp [timers] at armed
  | detaching _ _ _ _ timers => simp [timers] at armed
  | reaping alive pipe queue tries' only =>
    have first : timer = 0 := by
      rw [only] at armed
      simpa using (List.getElem?_eq_some_iff.mp armed).1
    have reported := pollReap_reported (w := w)
      (f := { f with reapTimers := f.reapTimers.eraseIdx timer })
      ⟨alive.1, alive.2, alive.3, alive.4⟩ ⟨pipe, queue, by simp [only, first]⟩ tries b
    exact ⟨reported.silent, reported.reports⟩

/-! ### The acts of the child -/

/-- A functor, a timer or an event of the pipe, if the loop holds one. -/
theorem childEvent_reported {owner : Option Unit} {exit : Option Int32}
    {due : OtaFlasher Unit → Bool} {f : OtaFlasher Unit × Base → OtaFlasher Unit × Base}
    (phase : Phase h.child owner) (absent : due {} = false)
    (called : due h.child = true → Reported w exit owner (h.child, h.base) (f (h.child, h.base)))
    (missed : due h.child = false → exit = none) :
    Reported w exit owner (h.child, h.base)
      ((childEvent due f h).child, (childEvent due f h).base) := by
  have same : h.flasher.any due = due h.child := by
    unfold child
    cases h.flasher with
    | none => exact absent.symm
    | some => rfl
  unfold childEvent
  rw [same]
  cases now : due h.child with
  | false => exact ⟨fun _ => ⟨phase, rfl, .refl _⟩, by simp [missed now]⟩
  | true =>
    obtain ⟨conSm, serial, flasher, base⟩ := h
    cases flasher with
    | none => exact absurd (absent.symm.trans now) (by simp)
    | some flasher => exact called now

theorem child_reported {owner : Option Unit} (phase : Phase h.child owner) {a : Act}
    (kind : a.ofChild = true) :
    Reported w (exitOf w h a) owner (h.child, h.base) ((act w h a).child, (act w h a).base) := by
  have told := goesOn_told (w := w) owner h.child.pid h.base
  have start : GoesOn owner h.child.pid h.base owner h.child.pid h.base := ⟨rfl, rfl, .refl _⟩
  cases a with
  | childReadable reads =>
    exact childEvent_reported phase rfl
      (fun _ => .of_good (onReadable_good told reads phase start)) fun _ => rfl
  | childHup =>
    exact childEvent_reported phase rfl
      (fun _ => .of_good (scheduleDetachPipe_good told phase start)) fun _ => rfl
  | childDetach =>
    refine childEvent_reported phase rfl (fun queued => ?_) fun empty => ?_
    · have queued : h.child.detachQueued > 0 := by simpa using queued
      simp only [exitOf]
      rw [if_pos queued]
      exact detachPipe_reported phase queued h.base
    · simp only [exitOf]
      exact if_neg (by simpa using empty)
  | childReap timer =>
    refine childEvent_reported phase rfl (fun armed => ?_) fun unarmed => ?_
    · have armed : timer < h.child.reapTimers.length := by simpa using armed
      simp only [exitOf, List.getElem?_eq_getElem armed]
      exact reapTimer_reported phase (List.getElem?_eq_getElem armed) h.base
    · have past : h.child.reapTimers.length ≤ timer := by simpa using unarmed
      simp only [exitOf, List.getElem?_eq_none past]
  | childEscalate =>
    refine childEvent_reported phase rfl (fun _ => .of_good (escalate_good ?_ ?_ phase start))
      fun _ => rfl
    · rintro callbacks rfl
      exact ⟨rfl, rfl, .same rfl rfl rfl rfl⟩
    · rintro callbacks rfl _
      exact ⟨rfl, rfl, .adding (e := .signal .kill h.child.pid) rfl rfl rfl rfl rfl⟩
  | _ => cases kind

theorem childEvent_link (due : OtaFlasher Unit → Bool)
    (f : OtaFlasher Unit × Base → OtaFlasher Unit × Base) :
    (childEvent due f h).conSm = h.conSm := by
  unfold childEvent onFlasher
  split
  · split <;> rfl
  · rfl

theorem child_link {a : Act} (kind : a.ofChild = true) : (act w h a).conSm = h.conSm := by
  cases a with
  | childReadable | childHup | childDetach | childReap | childEscalate => exact childEvent_link _ _
  | _ => cases kind

/-! ### The start of a child -/

/-- The host as the child is started: the link is down, the rest is as it was. -/
theorem prepared_flashing (w : World) (h : ChassisHost) :
    (prepared w h).base.ota.otaState = .flashing ∧ (prepared w h).child = h.child ∧
      (prepared w h).base.ota.otaFile = h.base.ota.otaFile ∧ (prepared w h).base.orders = h.base.orders ∧
      (prepared w h).conSm.comm = .notReady := by
  have called := (Aside.refl ((((h.onBase fun b =>
    { b with ota := { b.ota with otaState := .flashing } }).clock w).2.onBase fun b =>
      { b with ota := { b.ota with otaPhaseStartMs := w.os.steadyMs h.base.asked } }))).call w .reset
  refine ⟨called.base.flashing_iff.mpr rfl, called.child, called.base.otaFile, called.base.orders, ?_⟩
  have reset := ConSm.reset_eq (conCallbacks w) (h.conSm, h.serial,
    { h.base.answered with ota :=
        { h.base.ota with otaState := .flashing, otaPhaseStartMs := w.os.steadyMs h.base.asked } })
  have link := congrArg (fun s : ConSm × Core => s.1.comm) reset
  exact link

/-- `spawn` adds to the journal what it starts. -/
theorem spawn_base (w : World) (argv : List Text) (b : Base) :
    ((flasherEnv w).spawn argv b).1 = w.os.spawn b.asked ∧
      ((∃ pid positive, w.os.spawn b.asked = .started pid positive) ∧
          ((flasherEnv w).spawn argv b).2 = b.answered.note (.child argv) ∨
        (∀ pid positive, w.os.spawn b.asked ≠ .started pid positive) ∧
          ((flasherEnv w).spawn argv b).2 = b.answered) := by
  simp only [flasherEnv]
  cases w.os.spawn b.asked with
  | pipeFailed | spawnFailed => exact ⟨rfl, .inr ⟨by simp, rfl⟩⟩
  | started pid positive => exact ⟨rfl, .inl ⟨⟨pid, positive, rfl⟩, rfl⟩⟩

/-- An idle flasher starts what `spawn` starts. -/
theorem start_idle {f : OtaFlasher Unit} (idle : Phase f none) {argv : List Text}
    (given : argv ≠ []) (b : Base) :
    (OtaFlasher.start (flasherEnv w) argv () (f, b)).1 = true ↔
      ∃ pid positive, w.os.spawn b.asked = .started pid positive := by
  have asked := (spawn_base w argv b).1
  have free : f.running = false := by simp [running, idle.stopped.1]
  have cases := start_cases (flasherEnv w) argv () f b
  generalize OtaFlasher.start (flasherEnv w) argv () (f, b) = answer at cases ⊢
  cases cases with
  | refused no => simp [free, given] at no
  | failed result same bad =>
    simp only [Bool.false_eq_true, false_iff, not_exists]
    intro pid positive spawned
    exact bad pid positive (by rw [← same, asked, spawned])
  | started pid positive same => exact iff_of_true rfl ⟨pid, positive, by rw [← asked, same]⟩

/-- What is left by `otaBeginFlasher`, which finds the flasher idle: a child, or no upgrade. -/
inductive Begun (w : World) (g g' : ChassisHost) : Prop where
  | failed (phase : Phase g'.child none) (closed : g'.base.ota.otaState = .none)
      (orders : g'.base.orders = g.base.orders)
  | started (phase : Phase g'.child (some ())) (flashing : g'.base.ota.otaState = .flashing)
      (orders : g'.base.orders = g.base.orders ++ [.child (flashArgv w g.base.ota.otaFile)])

theorem launched_failed (h : ChassisHost) :
    (launched false h).child = h.child ∧ (launched false h).base.ota.otaState = .none ∧
      (launched false h).base.orders = h.base.orders :=
  ⟨rfl, rfl, Base.orders_same (otaFinish_journal _ h.base)⟩

theorem launched_started (h : ChassisHost) : Aside h (launched true h) := by
  have told := otaSendProgress_calm (.refl h.base)
    (utf8 "ok flash: 烧录子进程已启动（" ++ h.base.ota.otaFile ++ utf8 "）")
  exact .of_base rfl (broadcastAll_calm told _).aside rfl

theorem otaBeginFlasher_begun {g : ChassisHost} (idle : Phase g.child none) :
    Begun w g (otaBeginFlasher w g) := by
  obtain ⟨flashing, sameChild, sameFile, sameOrders, _⟩ := prepared_flashing w g
  have idle' : Phase (prepared w g).child none := sameChild ▸ idle
  have free : (prepared w g).child.running = false := by simp [running, idle'.stopped.1]
  have given : flashArgv w (prepared w g).base.ota.otaFile ≠ [] := by simp [flashArgv]
  obtain ⟨asked, spawned⟩ := spawn_base w (flashArgv w (prepared w g).base.ota.otaFile)
    (prepared w g).base
  have cases := start_cases (flasherEnv w) (flashArgv w (prepared w g).base.ota.otaFile) ()
    (prepared w g).child (prepared w g).base
  rw [otaBeginFlasher_eq]
  change Started _ _ _ _ _ (startChild w (prepared w g)) at cases
  generalize startChild w (prepared w g) = answer at cases ⊢
  cases cases with
  | refused no => simp [free, given] at no
  | failed result same bad =>
    rcases spawned with ⟨⟨pid, positive, started⟩, _⟩ | ⟨_, answered⟩
    · exact absurd (same.symm.trans (asked.trans started)) (bad pid positive)
    · dsimp only
      rw [answered]
      obtain ⟨child, closed, orders⟩ := launched_failed { prepared w g with
        flasher := some (prepared w g).child, base := (prepared w g).base.answered }
      exact .failed (child ▸ idle') closed (orders.trans sameOrders)
  | started pid positive same _ _ f' _ phase =>
    rcases spawned with ⟨_, noted⟩ | ⟨not, _⟩
    · dsimp only
      rw [noted]
      have told := launched_started { prepared w g with
        flasher := some f'
        base := (prepared w g).base.answered.note (.child (flashArgv w (prepared w g).base.ota.otaFile)) }
      refine .started ?_ (told.base.flashing_iff.mpr flashing) ?_
      · rw [told.child]
        exact phase idle'.stopped.2.queue idle'.stopped.2.timers
      · rw [told.base.orders, ← sameFile, ← sameOrders]
        simp [Base.orders, Base.note, Base.answered, Entry.ofUpgrade]
    · exact absurd (asked.symm.trans same) (not pid positive)

/-! ### The end of a child -/

theorem otaFinish_orders (line : Text) (b : Base) : (otaFinish line b).orders = b.orders :=
  Base.orders_same (otaFinish_journal line b)

/-- The exit callback of a flashing child is heeded. -/
theorem otaOnChildExit_flashing {b : Base} (flashing : b.ota.otaState = .flashing) (ok : Bool)
    (exitStatus : Int32) :
    (otaOnChildExit w ok exitStatus b).ota.otaState = (if ok then .recovering else .none) ∧
      (otaOnChildExit w ok exitStatus b).orders = b.orders := by
  have heeded : ¬ b.ota.otaState ≠ .flashing := by simp [flashing]
  unfold otaOnChildExit
  rw [if_neg heeded]
  cases ok with
  | false =>
    dsimp only
    rw [if_neg Bool.false_ne_true, if_neg Bool.false_ne_true]
    split
    · exact ⟨rfl, otaFinish_orders _ b⟩
    · split
      · exact ⟨rfl, otaFinish_orders _ b⟩
      · exact ⟨rfl, otaFinish_orders _ b⟩
  | true =>
    have told := otaSendProgress_calm (.refl b) (utf8 "ok flash: 擦写校验通过，复位运行中，等待 CON 重建…")
    rw [if_pos rfl, if_pos rfl]
    generalize otaSendProgress _ b = b' at told ⊢
    refine ⟨congrArg OtaTask.otaState (sendAll_ota _ _ _), ?_⟩
    exact (broadcastAll_calm (.refl _) _).aside.orders.trans told.aside.orders

end ChassisHost
end Mhost.App
