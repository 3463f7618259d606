import Mhost.App.CalmHost
import Mhost.App.RelabelHost

/-!
# What goes on beside an upgrade

Text, telemetry, frames, the link and every command but `flash` and `flash_abort` leave the
upgrade in its phase (ChassisHost.cc:112-460, 690-783). One thing they can do: when the link
comes up, a recovery ends. Then, too, no upgrade waits for a link that is up.
-/
namespace Mhost.App
open Library (Text utf8)
open Proto Link Serial Ota

/-- The upgrade stays in its phase, unless it ends with its recovery. -/
structure Base.Aside (b b' : Base) : Prop where
  otaFile : b'.ota.otaFile = b.ota.otaFile
  phaseStart : b'.ota.otaPhaseStartMs = b.ota.otaPhaseStartMs
  phase : b'.ota.otaState = b.ota.otaState ∨
    b.ota.otaState = .recovering ∧ b'.ota.otaState = .none
  journal : ∃ rest, b'.journal = b.journal ++ rest ∧ ∀ e ∈ rest, e.ofUpgrade = false

namespace Base.Aside
variable {b b' b'' : Base}

/-- Members that this file is not about may change at will. -/
theorem same (otaFile : b'.ota.otaFile = b.ota.otaFile)
    (phaseStart : b'.ota.otaPhaseStartMs = b.ota.otaPhaseStartMs)
    (phase : b'.ota.otaState = b.ota.otaState) (journal : b'.journal = b.journal) :
    Base.Aside b b' :=
  ⟨otaFile, phaseStart, .inl phase, [], by simp [journal], by simp⟩

theorem refl (b : Base) : Base.Aside b b := same rfl rfl rfl rfl

theorem trans (first : Base.Aside b b') (second : Base.Aside b' b'') : Base.Aside b b'' := by
  refine ⟨second.otaFile.trans first.otaFile, second.phaseStart.trans first.phaseStart, ?_,
    Library.grown_trans first.journal second.journal⟩
  rcases first.phase with stays | ⟨recovering, none⟩
  · rcases second.phase with stays' | ⟨recovering, none⟩
    · exact .inl (stays'.trans stays)
    · exact .inr ⟨stays ▸ recovering, none⟩
  · rcases second.phase with stays' | ⟨recovering', _⟩
    · exact .inr ⟨recovering, stays'.trans none⟩
    · simp [none] at recovering'

theorem adding {e : Entry} (other : e.ofUpgrade = false)
    (otaFile : b'.ota.otaFile = b.ota.otaFile)
    (phaseStart : b'.ota.otaPhaseStartMs = b.ota.otaPhaseStartMs)
    (phase : b'.ota.otaState = b.ota.otaState) (journal : b'.journal = b.journal ++ [e]) :
    Base.Aside b b' :=
  ⟨otaFile, phaseStart, .inl phase, [e], journal, by simpa using other⟩

theorem note (b : Base) {e : Entry} (other : e.ofUpgrade = false) : Base.Aside b (b.note e) :=
  adding other rfl rfl rfl rfl

/-- What is no recovery goes on. -/
theorem stays (aside : Base.Aside b b') (other : b.ota.otaState ≠ .recovering) :
    b'.ota.otaState = b.ota.otaState :=
  aside.phase.elim id fun ended => absurd ended.1 other

theorem was (aside : Base.Aside b b') (busy : b'.ota.otaState ≠ .none) :
    b.ota.otaState = b'.ota.otaState :=
  aside.phase.elim Eq.symm fun ended => absurd ended.2 busy

end Base.Aside

theorem Base.Calm.aside {b b' : Base} (calm : Base.Calm b b') : Base.Aside b b' := by
  obtain ⟨rest, grown, all⟩ := calm.journal
  refine ⟨calm.otaFile, calm.phaseStart, .inl calm.phase, rest, grown, ?_⟩
  intro e member
  simpa using (Bool.and_eq_true_iff.mp (all e member)).2

/-! ### Frames and the link -/

variable (w : World)

theorem serialEnv_aside (b : Base) : (serialEnv w).Keeps (Base.Aside b) where
  openTty _ before := before.trans (.same rfl rfl rfl rfl)
  write _ _ before := before.trans (.same rfl rfl rfl rfl)
  stateCb up reason _ before := before.trans (onSerialState_calm (.refl _) up reason).aside

theorem sendFrameToBoard_aside (type : UInt8) (payload : List UInt8) (s : Core) :
    Base.Aside s.2 (sendFrameToBoard w type payload s).2.2 := by
  have sent := sendFrameToBoard_calm w type payload s
  have entry : (sentEntry s type payload).ofUpgrade = false := by
    unfold sentEntry
    split <;> rfl
  exact (Base.Aside.note s.2 entry).trans sent.env.aside

theorem otaFinish_journal (line : Text) (b : Base) :
    ∃ rest, (otaFinish line b).journal = b.journal ++ rest ∧ ∀ e ∈ rest, e.ofUpgrade = false :=
  (broadcastAll_calm (otaSendProgress_calm (.refl b) line) _).aside.journal

theorem otaFinish_file (line : Text) (b : Base) :
    (otaFinish line b).ota.otaFile = b.ota.otaFile ∧
      (otaFinish line b).ota.otaPhaseStartMs = b.ota.otaPhaseStartMs := by
  have told := broadcastAll_calm (otaSendProgress_calm (.refl b) line)
    (utf8 "\x7b\"t\":\"ota\",\"state\":\"done\"\x7d")
  exact ⟨told.otaFile, told.phaseStart⟩

/-- The end of a recovery. -/
theorem otaFinish_aside {b b' : Base} (before : Base.Aside b b')
    (recovering : b'.ota.otaState = .recovering) (line : Text) :
    Base.Aside b (otaFinish line b') :=
  before.trans ⟨(otaFinish_file line b').1, (otaFinish_file line b').2, .inr ⟨recovering, rfl⟩,
    otaFinish_journal line b'⟩

theorem announced_aside (comm : CommState) (b : Base) : Base.Aside b (announced comm b) :=
  (Base.Aside.note b rfl).trans (broadcastAll_calm (.refl _) _).aside

theorem completed_aside {b : Base} {s : Core} (before : Base.Aside b s.2) :
    Base.Aside b (completed s).2 := by
  unfold completed
  split
  next recovering => exact otaFinish_aside before recovering _
  next => exact before

theorem completed_done (s : Core) : (completed s).2.ota.otaState ≠ .recovering := by
  unfold completed
  split
  next => simp [otaFinish]
  next other => exact other

theorem onCommState_aside (comm : CommState) (s : Core) :
    Base.Aside s.2 (onCommState w comm s).2 := by
  have told := announced_aside comm s.2
  cases comm with
  | notReady => exact told
  | ready =>
    rw [onCommState_ready]
    apply completed_aside
    have asked : Base.Aside s.2 (stamped w (announced .ready s.2)) :=
      told.trans (.same rfl rfl rfl rfl)
    exact asked.trans (sendFrameToBoard_aside w _ _ (s.1, stamped w (announced .ready s.2)))

theorem conCallbacks_aside (b : Base) :
    (conCallbacks w).Keeps fun _ s => Base.Aside b s.2 where
  send _ _ s before := before.trans (sendFrameToBoard_aside w _ _ s)
  report _ comm s before := before.trans (onCommState_aside w comm s)

/-- The report of a link that is up leaves no recovery behind. -/
theorem conCallbacks_waiting :
    (conCallbacks w).Keeps fun comm s => s.2.ota.otaState = .recovering → comm = .notReady where
  send comm msgType s before recovering := by
    have same := (sendFrameToBoard_aside w ptCon (packCon msgType kConSenderHost) s).was
      (by rw [show (sendFrameToBoard w ptCon (packCon msgType kConSenderHost) s).2.2.ota.otaState =
        .recovering from recovering]; decide)
    exact before (same.trans recovering)
  report _ comm s _ recovering := by
    cases comm with
    | notReady => rfl
    | ready => exact absurd recovering (completed_done _)

/-! ### The host -/

namespace ChassisHost

/-- The link of a host that recovers from an upgrade is still down. -/
def Waiting (h : ChassisHost) : Prop :=
  h.base.ota.otaState = .recovering → h.conSm.comm = .notReady

structure Aside (h h' : ChassisHost) : Prop where
  flasher : h'.flasher = h.flasher
  base : Base.Aside h.base h'.base
  waiting : Waiting h → Waiting h'

namespace Aside
variable {w : World} {h h' h'' : ChassisHost}

theorem refl (h : ChassisHost) : Aside h h := ⟨rfl, .refl _, id⟩

theorem trans (first : Aside h h') (second : Aside h' h'') : Aside h h'' :=
  ⟨second.flasher.trans first.flasher, first.base.trans second.base,
    fun before => second.waiting (first.waiting before)⟩

/-- Where the link is left alone. -/
theorem of_base (flasher : h'.flasher = h.flasher) (base : Base.Aside h.base h'.base)
    (link : h'.conSm = h.conSm) : Aside h h' := by
  refine ⟨flasher, base, fun before recovering => ?_⟩
  rw [link]
  exact before ((base.was (by rw [recovering]; decide)).trans recovering)

theorem either {p : Prop} [Decidable p] {yes no : ChassisHost} (left : p → Aside h yes)
    (right : ¬ p → Aside h no) : Aside h (if p then yes else no) :=
  iteInduction (motive := Aside h) left right

variable (before : Aside h h')
include before

/-! ### Parts of a handler -/

theorem onBase {f : Base → Base} (aside : Base.Aside h'.base (f h'.base)) :
    Aside h (h'.onBase f) :=
  before.trans (.of_base rfl aside rfl)

theorem onCore {f : Core → Core} (aside : Base.Aside h'.base (f (h'.serial, h'.base)).2) :
    Aside h (h'.onCore f) :=
  before.trans (.of_base rfl aside rfl)

theorem calm (calm : Calmly h' h'') : Aside h h'' :=
  before.trans (.of_base calm.flasher calm.core.env.aside calm.conSm)

theorem reply (c : Conn) (text : Text) : Aside h (h'.reply c text) :=
  before.calm ((Calmly.refl h').reply c text)

theorem clock (w : World) : Aside h (h'.clock w).2 :=
  before.calm ((Calmly.refl h').clock w)

theorem sendFrame (w : World) (type : UInt8) (payload : List UInt8) :
    Aside h (h'.sendFrame w type payload).2 :=
  before.onCore (f := fun s => (sendFrameToBoard w type payload s).2)
    (sendFrameToBoard_aside w type payload (h'.serial, h'.base))

/-- A call into the link, whatever it sends and reports. -/
theorem call (w : World) (c : ConSm.Call) :
    Aside h (h'.onLink fun s => ConSm.call (conCallbacks w) s c) := by
  apply before.trans
  refine ⟨rfl, ?_, fun waiting => ?_⟩
  · exact ConSm.call_keeps (conCallbacks_aside w h'.base) c (.refl h'.base)
  · exact ConSm.call_keeps (s := (h'.conSm, h'.serial, h'.base)) (conCallbacks_waiting w) c waiting

/-! ### Commands -/

theorem cmdTwist (c : Conn) (tok : List Text) : Aside h (cmdTwist w c tok h') := by
  unfold ChassisHost.cmdTwist
  split
  · exact before.reply c _
  · split
    · exact before.reply c _
    next v _ =>
      apply Aside.reply
      exact before.onBase (.adding (e := .twist c (toFloats w.fl v)) rfl rfl rfl rfl rfl)

theorem cmdRpm (c : Conn) (tok : List Text) : Aside h (cmdRpm w c tok h') := by
  unfold ChassisHost.cmdRpm
  split
  · exact before.reply c _
  · split
    · exact before.reply c _
    next v _ =>
      apply Aside.reply
      exact before.onBase (.adding (e := .rpm c (toFloats w.fl v)) rfl rfl rfl rfl rfl)

theorem cmdStop (c : Conn) : Aside h (cmdStop w c h') := by
  unfold ChassisHost.cmdStop
  apply Aside.reply
  apply Aside.sendFrame
  exact before.onBase (.same rfl rfl rfl rfl)

theorem cmdEnable (c : Conn) (tok : List Text) : Aside h (cmdEnable w c tok h') := by
  unfold ChassisHost.cmdEnable
  refine .either (fun _ => before.reply c _) (fun _ => ?_)
  refine .either (fun _ => ?_) (fun _ => ?_)
  · have noted : Aside h ((h'.clock w).2.onBase fun b =>
        { b with userDisabled := false, lastEnSentMs := (h'.clock w).1 }.note (.enable c true)) :=
      (before.clock w).onBase (.adding (e := .enable c true) rfl rfl rfl rfl rfl)
    apply Aside.reply
    exact .either (fun _ => (noted.sendFrame w _ _).call w (.connect _))
      (fun _ => noted.sendFrame w _ _)
  · have noted : Aside h ((h'.clock w).2.onBase fun b =>
        { b with userDisabled := true, speed := { b.speed with cmdMode := .none } }.note
          (.enable c false)) :=
      (before.clock w).onBase (.adding (e := .enable c false) rfl rfl rfl rfl rfl)
    exact ((noted.sendFrame w _ _).call w (.disconnect _)).reply c _

/-- Every command but the two that are the upgrade's own. -/
theorem handleCommand (c : Conn) (cmd : Text) (rest : List Text) (flash : cmd ≠ utf8 "flash")
    (abort : cmd ≠ utf8 "flash_abort") : Aside h (handleCommand w c (cmd :: rest) h') := by
  have noted : Aside h (h'.onBase (·.note (.command c (cmd :: rest)))) :=
    before.onBase (.note _ rfl)
  have calm := Calmly.refl (h'.onBase (·.note (.command c (cmd :: rest))))
  unfold ChassisHost.handleCommand
  refine .either (fun _ => noted.reply c _) (fun _ => ?_)
  refine .either (fun _ => noted.cmdTwist c _) (fun _ => ?_)
  refine .either (fun _ => noted.cmdRpm c _) (fun _ => ?_)
  refine .either (fun _ => noted.cmdStop c) (fun _ => ?_)
  refine .either (fun _ => noted.cmdEnable c _) (fun _ => ?_)
  refine .either (fun _ => noted.calm (calm.cmdPid c _)) (fun _ => ?_)
  refine .either (fun _ => noted.calm (calm.cmdSign c _)) (fun _ => ?_)
  refine .either (fun _ => noted.calm (calm.cmdPing c)) (fun _ => ?_)
  refine .either (fun _ => noted.calm (calm.cmdWatch c _)) (fun _ => ?_)
  refine .either (fun _ => noted.calm (calm.cmdStat c)) (fun _ => ?_)
  refine .either (fun _ => noted.calm (calm.cmdCon c)) (fun _ => ?_)
  refine .either (fun same => absurd same flash) (fun _ => ?_)
  refine .either (fun _ => noted.reply c _) (fun _ => ?_)
  refine .either (fun same => absurd same abort) (fun _ => ?_)
  refine .either (fun _ => noted.reply c _) (fun _ => ?_)
  exact .either (fun _ => noted.calm (calm.shutdown c)) (fun _ => noted.reply c _)

/-! ### Connections, frames, timers -/

theorem onConnectionDown (c : Conn) : Aside h (onConnectionDown w c h') := by
  rw [onConnectionDown_eq]
  have gone : Aside h (h'.onBase (left c)) :=
    before.onBase (.adding (e := .down c) rfl rfl rfl rfl rfl)
  have stopped : Aside h (braked w c (h'.onBase (left c))) := by
    refine .either (fun _ => ?_) (fun _ => gone)
    apply Aside.sendFrame
    exact gone.onBase (.same rfl rfl rfl rfl)
  apply stopped.onBase
  rw [resetConn_eq]
  refine .same ?_ ?_ ?_ rfl <;> dsimp only <;> split <;> rfl

theorem received (w : World) : Aside h (received w h') :=
  (before.clock w).onBase (.same rfl rfl rfl rfl)

theorem healed (now : Nat) (status : StatusData) : Aside h (healed w now status h') := by
  have read : Aside h (h'.onBase fun b => { b with telemetry := { b.telemetry with status } }) :=
    before.onBase (.same rfl rfl rfl rfl)
  unfold ChassisHost.healed
  refine .either (fun _ => ?_) (fun _ => read)
  apply Aside.sendFrame
  exact read.onBase (.same rfl rfl rfl rfl)

theorem onRepeatTimer : Aside h (onRepeatTimer w h') := by
  unfold ChassisHost.onRepeatTimer
  refine .either (fun _ => before) (fun _ => ?_)
  refine .either (fun _ => before) (fun _ => ?_)
  exact .either (fun _ => before.sendFrame w _ _) (fun _ => before.sendFrame w _ _)

theorem reopen (w : World) : Aside h (reopen w h') :=
  .either (fun _ => before) fun _ =>
    before.onCore (SerialPort.openDevice_keeps (serialEnv_aside w h'.base) _ (.refl _))

theorem reconnect (now : Nat) : Aside h (reconnect w now h') := by
  unfold ChassisHost.reconnect
  refine .either (fun _ => ?_) (fun _ => before)
  have tried : Aside h (h'.onBase fun b => { b with lastRetryMs := now }) :=
    before.onBase (.same rfl rfl rfl rfl)
  exact tried.call w (.connect now)

end Aside
end ChassisHost
end Mhost.App
