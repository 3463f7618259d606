import Mhost.App.GovernedHost
import Mhost.Library.Machine

/-!
# Whether the board hears that the motors are disabled

A frame sent while the port is closed is dropped, and reopening the port is no edge of the
link, so nothing repeats it. The runs in which the board has always been told are exactly
those in which the watchdog never opens the port at such a moment.
-/
namespace Mhost.App.ChassisHost
open Library (Text utf8 Machine)
open Proto Link Serial Ota

/-- The event loop. -/
def machine (w : World) : Machine ChassisHost Event Empty where
  step h e := .ok (handle w h e)

/-- On an open port and a ready link a disabled flag is known to the board. -/
def Delivered (h : ChassisHost) : Prop :=
  h.serial.isOpen = true → h.conSm.comm = .ready → h.base.userDisabled = true →
    Told h.base.journal

variable {w : World} {h : ChassisHost}

theorem Governed.delivered (governed : h.Governed w True) : Delivered h :=
  fun opened up off => governed.agrees.told trivial up off opened

/-! ### A tick that opens the port too late -/

theorem otaTimeouts_waiting {now : Nat} (waiting : ¬ (h.base.ota.otaState = .quiescing ∧
    elapsed now h.base.ota.otaPhaseStartMs > w.opts.quiesceTimeoutMs)) :
    (otaTimeouts w now h).serial = h.serial ∧ Quietly h (otaTimeouts w now h) := by
  unfold otaTimeouts
  dsimp only
  rw [if_neg waiting]
  split
  · exact ⟨rfl, (Quietly.refl h).onBase (otaFinish_quiet (.refl _) _)⟩
  · exact ⟨rfl, .refl h⟩

theorem silenceCheck_serial (now : Nat) : (silenceCheck w now h).serial = h.serial := by
  unfold silenceCheck
  split <;> rfl

theorem reconnect_up (shape : ConSm.Shape h.conSm) (up : h.conSm.comm = .ready) (now : Nat) :
    reconnect w now h = h := by
  refine if_neg fun idle => ?_
  rcases shape.ready_iff.mp up with state | state <;> simp [state] at idle

/-- Past the reopening nothing in the tick touches the port or the link. -/
theorem onWatchdogTimer_late (shape : ConSm.Shape h.conSm) (up : h.conSm.comm = .ready)
    (opens : reopens w h) (waiting : ¬ quiesceExpired w h) :
    (onWatchdogTimer w h).serial.isOpen = true ∧ (onWatchdogTimer w h).conSm = h.conSm ∧
      Base.Quiet h.base (onWatchdogTimer w h).base := by
  have asked := ((Calmly.refl h).clock w).quietly
  have opened : (reopen w (h.clock w).2).serial.isOpen = true :=
    (reopen_isOpen _).mpr (.inr opens.2)
  have link : (reopen w (h.clock w).2).conSm = h.conSm := reopen_conSm _
  have grown : Base.Quiet h.base (reopen w (h.clock w).2).base :=
    asked.core.env.trans (reopen_quiet _)
  have later : ¬ ((reopen w (h.clock w).2).base.ota.otaState = .quiescing ∧
      elapsed (h.clock w).1 (reopen w (h.clock w).2).base.ota.otaPhaseStartMs >
        w.opts.quiesceTimeoutMs) := by
    rw [reopen_ota]
    exact waiting
  obtain ⟨same, quiet⟩ := otaTimeouts_waiting later
  have checked := quiet.calm ((Calmly.refl _).silenceCheck (w := w) (h.clock w).1)
  have linked := checked.conSm.trans link
  unfold onWatchdogTimer
  dsimp only
  rw [reconnect_up (linked ▸ shape) (linked ▸ up)]
  refine ⟨?_, linked, grown.trans checked.core.env⟩
  rw [silenceCheck_serial, same]
  exact opened

/-- So a flag that the board was not told of stays untold. -/
theorem not_delivered (shape : ConSm.Shape h.conSm) (late : ¬ Timely w h) :
    ¬ Delivered (onWatchdogTimer w h) := by
  unfold Timely at late
  simp only [Classical.not_forall] at late
  obtain ⟨opens, up, off, waiting, untold⟩ := late
  obtain ⟨opened, link, quiet⟩ := onWatchdogTimer_late shape up opens waiting
  obtain ⟨rest, grown, silent⟩ := quiet.journal
  intro delivered
  have told := delivered opened (link ▸ up) (quiet.userDisabled.trans off)
  rw [grown, told_append silent] at told
  exact untold told

/-- The host tells the board of a disabled flag in exactly the runs whose watchdog is timely. -/
theorem disable_delivered_iff (w : World) (events : List Event) :
    (machine w).Always Delivered (start w) events ↔
      (machine w).Allowed (fun h e => e = .watchdogTimer → Timely w h) (start w) events := by
  have implies (h : ChassisHost) (governed : h.Governed w True) : Delivered h := governed.delivered
  refine Machine.always_iff_allowed implies ?_ ?_ (start_governed w True) events
  · intro h e governed timely
    exact ⟨handle w h e, rfl, handle_governed governed e fun _ => timely⟩
  · intro h e next governed late taken
    obtain ⟨rfl, untimely⟩ : e = .watchdogTimer ∧ ¬ Timely w h := Classical.not_imp.mp late
    cases taken
    exact not_delivered governed.shape untimely

/-- The port goes away and comes back around an accepted `flash`, which is then cancelled. -/
def hotplugged : List Event :=
  linkUp ++ [.serialHup, .message console (utf8 "flash app.hex\n"), .watchdogTimer,
    .message console (utf8 "flash_abort\n")]

/-- The host says that the motors stay disabled; the last the board heard is `CMD_EN(1)`. -/
theorem reopened_untold :
    ¬ Delivered (run bench hotplugged) ∧
      .reply console (utf8 "ok flash_abort: 擦除尚未开始，已取消；电机保持失能\n") ∈
        (run bench hotplugged).base.journal ∧
      enFrame true ∈ (run bench hotplugged).base.journal ∧
      enFrame false ∉ (run bench hotplugged).base.journal := by
  have facts : (run bench hotplugged).serial.isOpen = true ∧
      (run bench hotplugged).conSm.comm = .ready ∧ (run bench hotplugged).base.userDisabled = true ∧
      .reply console (utf8 "ok flash_abort: 擦除尚未开始，已取消；电机保持失能\n") ∈
        (run bench hotplugged).base.journal ∧
      enFrame true ∈ (run bench hotplugged).base.journal ∧
      enFrame false ∉ (run bench hotplugged).base.journal := by decide +kernel
  obtain ⟨opened, up, off, answered, enabled, silent⟩ := facts
  refine ⟨fun delivered => ?_, answered, enabled, silent⟩
  exact silent (delivered opened up off).frame_mem

end Mhost.App.ChassisHost
