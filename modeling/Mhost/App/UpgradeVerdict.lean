import Mhost.App.DisableDelivery
import Mhost.App.UpgradeLife

/-!
# Whether an upgrade waits for a link that is down

A recovery ends with the next `READY` edge (ChassisHost.cc:580-589, 764-783), and the link is
served while the child still runs. If the board has come back before the child is reported,
there is no edge left to wait for. The runs in which every recovery waits for a link that is
down are exactly those in which no child succeeds while the link is up.
-/
namespace Mhost.App.ChassisHost
open Library (Text utf8 Machine)
open Proto Link Serial Ota OtaFlasher

/-- A child that succeeds is reported while the link is down. -/
def ReportedInTime (w : World) (h : ChassisHost) (e : Event) : Prop :=
  ∀ a ∈ actsOf w h e, ∀ exitStatus, exitOf w h a = some exitStatus → succeeds exitStatus = true →
    h.conSm.comm = .notReady

/-- The watchdog gives the recovery up. -/
def recoveryExpired (w : World) (h : ChassisHost) : Prop :=
  h.base.ota.otaState = .recovering ∧
    elapsed (w.os.steadyMs h.base.asked) h.base.ota.otaPhaseStartMs > w.opts.recoverTimeoutMs

variable {w : World} {h h' : ChassisHost}

theorem waiting_of_not (other : h.base.ota.otaState ≠ .recovering) : Waiting h :=
  fun recovering => absurd recovering other

/-! ### Acts -/

theorem host_waiting (lock : Lockstep h) (waiting : Waiting h) {a : Act}
    (kind : a.ofChild = false) : Waiting (act w h a) := by
  cases act_turn w h a with
  | aside only => exact only.waiting waiting
  | moved g g' before move later =>
    apply later.waiting
    have lock' := lock.aside before
    cases move with
    | accepted => exact waiting_of_not nofun
    | began quiescing =>
      apply waiting_of_not
      cases otaBeginFlasher_begun (w := w) (lock'.idle (by simp [quiescing])) with
      | failed _ closed => simp [closed]
      | started _ flashing => simp [flashing]
    | ended => exact waiting_of_not nofun
    | forced c text _ _ _ flashing =>
      apply waiting_of_not
      rw [forced_base (lock'.busy flashing)]
      simp [Base.note, Base.answered, flashing]
    | child kind' => simp [kind] at kind'

theorem child_waiting (lock : Lockstep h) (waiting : Waiting h) {a : Act}
    (kind : a.ofChild = true) (inTime : ∀ exitStatus, exitOf w h a = some exitStatus →
      succeeds exitStatus = true → h.conSm.comm = .notReady) : Waiting (act w h a) := by
  intro recovering
  rw [child_link kind]
  cases exit : exitOf w h a with
  | none =>
    obtain ⟨owner, phase, _⟩ := lock
    obtain ⟨_, _, aside⟩ := (child_reported (w := w) phase kind).silent exit
    exact waiting ((aside.was (by simp [recovering])).trans recovering)
  | some exitStatus =>
    obtain ⟨_, verdict⟩ := lock.exit exit
    refine inTime exitStatus exit ?_
    rw [verdict] at recovering
    simpa using recovering

/-- A success that is reported while the link is up begins a recovery without an edge to come. -/
theorem child_late (lock : Lockstep h) {a : Act} {exitStatus : Int32}
    (exit : exitOf w h a = some exitStatus) (success : succeeds exitStatus = true)
    (up : h.conSm.comm ≠ .notReady) : ¬ Waiting (act w h a) := by
  obtain ⟨kind, verdict⟩ := lock.exit exit
  intro waiting
  have down := waiting (by rw [verdict, if_pos success])
  rw [child_link kind] at down
  exact up down

/-! ### Events -/

theorem host_ofPort {a : Act} (port : a.ofPort = true) : a.ofChild = false := by
  cases a with
  | parsed | frame | closed => rfl
  | _ => cases port

/-- An act of the child is an event of its own. -/
theorem actsOf_child (e : Event) : (∀ a ∈ actsOf w h e, a.ofChild = false) ∨
    ∃ a, actsOf w h e = [a] ∧ a.ofChild = true := by
  cases e with
  | childReadable | childHup | childDetach | childReap | childEscalate => exact .inr ⟨_, rfl, rfl⟩
  | message c bytes => exact .inl (by simp [actsOf, messageActs, Act.ofChild])
  | serialReadable reads =>
    exact .inl fun a member => host_ofPort (readActs_ofPort reads h a member)
  | _ => exact .inl (by simp [actsOf, Act.ofChild])

theorem acts_host_waiting (lock : Lockstep h) (waiting : Waiting h) (taken : List Act)
    (host : ∀ a ∈ taken, a.ofChild = false) : Waiting (acts w h taken) := by
  induction taken generalizing h with
  | nil => exact waiting
  | cons a rest ih =>
    refine ih ((act_lived lock a).lockstep lock) (host_waiting lock waiting (host a (by simp))) ?_
    exact fun later member => host later (by simp [member])

theorem handle_lockstep (lock : Lockstep h) (e : Event) : Lockstep (handle w h e) := by
  rw [handle_acts]
  exact @acts_keep w h Lockstep (fun _ a lock => (act_lived lock a).lockstep lock) lock _

theorem handle_waiting (lock : Lockstep h) (waiting : Waiting h) {e : Event}
    (inTime : ReportedInTime w h e) : Waiting (handle w h e) := by
  rw [handle_acts]
  rcases actsOf_child (w := w) (h := h) e with host | ⟨a, only, kind⟩
  · exact acts_host_waiting lock waiting _ host
  · rw [only]
    exact child_waiting lock waiting kind (inTime a (by simp [only]))

theorem handle_late (lock : Lockstep h) {e : Event} (late : ¬ ReportedInTime w h e) :
    ¬ Waiting (handle w h e) := by
  simp only [ReportedInTime, Classical.not_forall] at late
  obtain ⟨a, member, exitStatus, exit, success, up⟩ := late
  rw [handle_acts]
  rcases actsOf_child (w := w) (h := h) e with host | ⟨a', only, kind⟩
  · simp [exitOf_host (host a member)] at exit
  · obtain rfl : a = a' := by simpa [only] using member
    rw [only]
    exact child_late lock exit success up

/-! ### Runs -/

theorem start_waiting (w : World) : Waiting (start w) :=
  fun recovering => absurd ((start_aside w).was (by simp [recovering])) (by simp [recovering])

theorem machine_run (w : World) (h : ChassisHost) (events : List Event) :
    (machine w).run h events = .ok (events.foldl (handle w) h) := by
  induction events generalizing h with
  | nil => rfl
  | cons e rest ih => exact ih (handle w h e)

theorem waits_iff (w : World) (events : List Event) :
    (machine w).Always Waiting (start w) events ↔
      (machine w).Allowed (ReportedInTime w) (start w) events := by
  have implies : ∀ h, Lockstep h ∧ Waiting h → Waiting h := fun _ kept => kept.2
  refine Machine.always_iff_allowed implies ?_ ?_ ⟨start_lockstep w, start_waiting w⟩ events
  · intro h e kept inTime
    exact ⟨handle w h e, rfl, handle_lockstep kept.1 e, handle_waiting kept.1 kept.2 inTime⟩
  · intro h e next kept late taken
    cases taken
    exact handle_late kept.1 late

/-- Every recovery waits for a link that is down in exactly the runs that report each success
while the link is down; there a recovery is given up only if the link is down. -/
theorem recovery_waits_iff (w : World) (events : List Event) :
    ((machine w).Always Waiting (start w) events ↔
      (machine w).Allowed (ReportedInTime w) (start w) events) ∧
    ((machine w).Allowed (ReportedInTime w) (start w) events →
      ∀ past future, events = past ++ .watchdogTimer :: future → recoveryExpired w (run w past) →
        (run w past).conSm.comm = .notReady) := by
  refine ⟨waits_iff w events, fun allowed past future split expired => ?_⟩
  rw [split, Machine.allowed_append (machine_run w (start w) past)] at allowed
  obtain ⟨final, ran, waiting⟩ := ((waits_iff w past).mpr allowed.1).ends
  rw [machine_run] at ran
  cases ran
  exact waiting expired.1

/-- The child starts and succeeds; from the 20th question on it is half a minute later. -/
def benchFlash : World :=
  { bench with os := { bench.os with
      steadyMs := fun n => if n < 19 then 5000 + n else 35000 + n
      spawn := fun _ => .started 4242 (by decide), waitpid := fun _ => .reaped 0 } }

def boardFrame (type : UInt8) (payload : List UInt8) : Event :=
  .serialReadable [.data (packFrame type payload (some 0)).1]

/-- The new firmware asks for the link before the flashing script has exited. -/
def earlyRequest : List Event :=
  linkUp ++ [.message console (utf8 "flash app.hex\n"), boardFrame ptStatus (List.replicate 6 0),
    boardFrame ptCon (packCon .enableRequest kConSenderBoard), .childReadable [.eof], .childDetach]

/-- The link is up, the recovery waits for it, and the next tick of the watchdog gives it up. -/
theorem recovery_misses_link :
    ¬ Waiting (run benchFlash earlyRequest) ∧
      (run benchFlash (earlyRequest ++ [.watchdogTimer])).conSm.comm = .ready ∧
      .reply console (utf8 <| "err flash: CON 重建超时（固件未起来？）。升级状态复位，" ++
          "看门狗会继续自动重连；必要时重试 flash\n") ∈
        (run benchFlash (earlyRequest ++ [.watchdogTimer])).base.journal := by
  have facts : (run benchFlash earlyRequest).base.ota.otaState = .recovering ∧
      (run benchFlash earlyRequest).conSm.comm = .ready ∧
      (run benchFlash (earlyRequest ++ [.watchdogTimer])).conSm.comm = .ready ∧
      .reply console (utf8 <| "err flash: CON 重建超时（固件未起来？）。升级状态复位，" ++
          "看门狗会继续自动重连；必要时重试 flash\n") ∈
        (run benchFlash (earlyRequest ++ [.watchdogTimer])).base.journal := by decide +kernel
  obtain ⟨recovering, up, stays, reported⟩ := facts
  refine ⟨fun waiting => ?_, stays, reported⟩
  have down := waiting recovering
  simp [up] at down

end Mhost.App.ChassisHost
