import Mhost.App.Governed
import Mhost.App.QuietHost

/-!
# Every event keeps the host in agreement with its journal

One lemma for each handler. The watchdog is the one place that needs an assumption: it can
open the port while the link is up, and then nobody tells the board.
-/
namespace Mhost.App.ChassisHost
open Library (Text utf8)
open Proto Link Serial Ota

structure Governed (w : World) (informed : Prop) (h : ChassisHost) : Prop where
  agrees : App.Governed w.fl informed h.conSm.comm (h.serial, h.base)
  shape : ConSm.Shape h.conSm

variable {w : World} {informed : Prop} {h : ChassisHost}

namespace Governed
variable (governed : h.Governed w informed)
include governed

/-! ### Parts of a handler -/

theorem forget : h.Governed w False := ⟨governed.agrees.forget, governed.shape⟩

theorem quietly {h' : ChassisHost} (quiet : Quietly h h') : h'.Governed w informed :=
  ⟨quiet.conSm ▸ governed.agrees.quiet quiet.core, quiet.conSm ▸ governed.shape⟩

theorem calmly {h' : ChassisHost} (calm : Calmly h h') : h'.Governed w informed :=
  governed.quietly calm.quietly

theorem text {f : Base → Base} (quiet : Base.Quiet h.base (f h.base)) :
    (h.onBase f).Governed w informed :=
  governed.quietly ((Quietly.refl h).onBase quiet)

theorem reply (c : Conn) (line : Text) : (h.reply c line).Governed w informed :=
  governed.calmly ((Calmly.refl h).reply c line)

theorem clock : (h.clock w).2.Governed w informed := governed.calmly ((Calmly.refl h).clock w)

theorem harmless {type : UInt8} (payload : List UInt8)
    (quiet : (Entry.frame type payload).quiet = true) :
    (h.sendFrame w type payload).2.Governed w informed :=
  governed.quietly ((Quietly.refl h).sendFrame payload quiet)

/-- A call into the link. -/
theorem call (c : ConSm.Call) :
    (h.onLink fun s => ConSm.call (conCallbacks w) s c).Governed w informed :=
  ⟨ConSm.call_keeps (App.Governed.conCallbacks_keep w) c governed.agrees,
    ConSm.call_shape _ _ governed.shape c⟩

end Governed

/-- The current flag goes out, and the board has been told. -/
theorem Governed.sendEn (governed : h.Governed w False) (on : Bool)
    (current : on = !h.base.userDisabled) :
    (h.sendFrame w ptCmdEn (packCmdEn on)).2.Governed w informed := by
  subst current
  exact ⟨governed.agrees.sendEn w, governed.shape⟩

/-- An accepted `flash` stops and disables: two frames, of which the first may close the port. -/
theorem Governed.sendStopDisable (governed : h.Governed w False)
    (off : h.base.userDisabled = true) :
    ((h.sendFrame w ptCmdStop []).2.sendFrame w ptCmdEn (packCmdEn false)).2.Governed w informed := by
  have quiet := sendFrameToBoard_harmless w ptCmdStop [] (h.serial, h.base) rfl
  have still : (h.sendFrame w ptCmdStop []).2.base.userDisabled = true :=
    quiet.env.userDisabled.trans off
  exact (governed.harmless [] rfl).sendEn false (by rw [still]; rfl)

/-- With the link dropped, whether the board has been told no longer matters. -/
theorem Governed.reset (unsure : h.Governed w False) :
    (h.onLink fun s => ConSm.reset (conCallbacks w) s).Governed w informed := by
  have after := unsure.call .reset
  have down : (h.onLink fun s => ConSm.reset (conCallbacks w) s).conSm.comm = .notReady := by
    simp only [onLink, ConSm.reset_eq]
  refine ⟨?_, after.shape⟩
  rw [down]
  exact (down ▸ after.agrees).down

/-! ### Speed and enable commands -/

/-- Between one and three parameters. -/
theorem params_counted {name : Text} {params : List Text}
    (counted : ¬ ((name :: params).length < 2 ∨ (name :: params).length > 4)) :
    1 ≤ params.length ∧ params.length ≤ 3 := by
  simp only [List.length_cons] at counted
  omega

theorem cmdTwist_governed (governed : h.Governed w informed) (free : h.base.ota.otaState = .none)
    (c : Conn) (params : List Text) {before : List Entry}
    (asked : h.base.journal = before ++ [.command c (utf8 "v" :: params)]) :
    (cmdTwist w c (utf8 "v" :: params) h).Governed w informed := by
  unfold cmdTwist
  split
  · exact governed.reply c _
  next counted =>
    split
    · exact governed.reply c _
    next v parsed =>
      obtain ⟨one, three⟩ := params_counted counted
      have read : (Drive.twist (toFloats w.fl v)).ReadFrom w.fl (utf8 "v" :: params) :=
        ⟨params, v, one, three, parsed, .inl ⟨rfl, rfl⟩⟩
      have accepted : (h.onBase fun b => { b with speed := { b.speed with
          twist := toFloats w.fl v, cmdMode := .twist, speedConn := some c } }.note
            (.twist c (toFloats w.fl v))).Governed w informed :=
        ⟨governed.agrees.accepted free (d := .twist (toFloats w.fl v)) rfl rfl asked read, governed.shape⟩
      exact accepted.reply c _

theorem cmdRpm_governed (governed : h.Governed w informed) (free : h.base.ota.otaState = .none)
    (c : Conn) (params : List Text) {before : List Entry}
    (asked : h.base.journal = before ++ [.command c (utf8 "rpm" :: params)]) :
    (cmdRpm w c (utf8 "rpm" :: params) h).Governed w informed := by
  unfold cmdRpm
  split
  · exact governed.reply c _
  next counted =>
    split
    · exact governed.reply c _
    next v parsed =>
      obtain ⟨one, three⟩ := params_counted counted
      have read : (Drive.rpm (toFloats w.fl v)).ReadFrom w.fl (utf8 "rpm" :: params) :=
        ⟨params, v, one, three, parsed, .inr ⟨rfl, rfl⟩⟩
      have accepted : (h.onBase fun b => { b with speed := { b.speed with
          rpm := toFloats w.fl v, cmdMode := .rpm, speedConn := some c } }.note
            (.rpm c (toFloats w.fl v))).Governed w informed :=
        ⟨governed.agrees.accepted free (d := .rpm (toFloats w.fl v)) rfl rfl asked read, governed.shape⟩
      exact accepted.reply c _

/-- The dispatcher's own entry. -/
def noted (c : Conn) (tok : List Text) (h : ChassisHost) : ChassisHost :=
  h.onBase fun b => b.note (.command c tok)

theorem noted_governed (governed : h.Governed w informed) (c : Conn) {tok : List Text}
    (stop : isStop tok = false) (off : isDisable tok = false) :
    (noted c tok h).Governed w informed :=
  governed.text ((Base.Quiet.refl _).note (by simp [Entry.quiet, stop, off]))

theorem cmdStop_governed (governed : h.Governed w informed) (c : Conn) {tok : List Text}
    (stop : isStop tok = true) (still : isDisable tok = false) :
    (cmdStop w c (noted c tok h)).Governed w informed := by
  unfold cmdStop
  have cleared : ((noted c tok h).onBase fun b =>
      { b with speed := { b.speed with cmdMode := .none, speedConn := none } }).Governed
        w informed :=
    ⟨governed.agrees.stopped c stop still, governed.shape⟩
  exact (cleared.harmless [] rfl).reply c _

theorem isStop_en (rest : List Text) : isStop (utf8 "en" :: rest) = false := rfl

theorem cmdEnable_governed (governed : h.Governed w informed) (free : h.base.ota.otaState = .none)
    (c : Conn) (rest : List Text) :
    (cmdEnable w c (utf8 "en" :: rest) (noted c (utf8 "en" :: rest) h)).Governed w informed := by
  by_cases off : rest = [utf8 "0"]
  · subst off
    have disabled : (((noted c [utf8 "en", utf8 "0"] h).clock w).2.onBase fun b =>
        { b with userDisabled := true, speed := { b.speed with cmdMode := .none } }.note
          (.enable c false)).Governed w False :=
      ⟨governed.agrees.disabled c rfl _, governed.shape⟩
    exact ((disabled.sendEn false rfl).call (.disconnect _)).reply c _
  · have quiet := noted_governed governed c (isStop_en rest) (by simp [isDisable, off])
    unfold cmdEnable
    split
    · exact quiet.reply c _
    next usage =>
      dsimp only
      split
      next on =>
        have enabled (now : Nat) : (((noted c (utf8 "en" :: rest) h).clock w).2.onBase fun b =>
            { b with userDisabled := false, lastEnSentMs := now }.note
              (.enable c true)).Governed w False :=
          ⟨(quiet.clock.agrees.enabled free c now).forget, quiet.shape⟩
        apply Governed.reply
        split
        · exact ((enabled _).sendEn true rfl).call (.connect _)
        · exact (enabled _).sendEn true rfl
      next zero =>
        -- one argument that is neither `0` nor `1` is a usage error
        refine absurd ?_ off
        rcases rest with _ | ⟨arg, _ | ⟨_, _⟩⟩ <;> simp_all

/-! ### The upgrade -/

theorem cmdFlash_governed (governed : h.Governed w informed) (c : Conn) (tok : List Text) :
    (cmdFlash w c tok h).Governed w informed := by
  unfold cmdFlash
  split
  · exact governed.reply c _
  · split
    · exact governed.reply c _
    · split
      · exact governed.reply c _
      · split
        · exact governed.reply c _
        · dsimp only
          split
          · exact governed.reply c _
          · have asked := governed.text (f := Base.answered) (Base.Quiet.refl _).answered
            split
            · exact asked.reply c _
            · have begun (ota : OtaTask) (name : Text) :
                  ((h.onBase Base.answered).clock w).2.onBase (fun b => { b with
                    ota, speed := { b.speed with cmdMode := .none, speedConn := none }
                    userDisabled := true }.note (.flash c name)) |>.Governed w False :=
                ⟨asked.clock.agrees.upgradeBegun c name ota, asked.shape⟩
              exact (((begun _ _).sendStopDisable rfl).reply c _).text
                (broadcastAll_calm (.refl _) _).quiet

theorem Governed.startFlasher (governed : h.Governed w informed) (argv : List Text)
    (f : OtaFlasher Unit) :
    ({ h with flasher := some (OtaFlasher.start (flasherEnv w) argv () (f, h.base)).2.1
              base := (OtaFlasher.start (flasherEnv w) argv () (f, h.base)).2.2 } :
      ChassisHost).Governed w informed :=
  ⟨governed.agrees.quiet (.of_base
    (OtaFlasher.start_keeps (s := (f, h.base)) (flasherEnv_keeps w _) argv () (.refl _))),
    governed.shape⟩

theorem otaBeginFlasher_governed (unsure : h.Governed w False)
    (busy : h.base.ota.otaState ≠ .none) : (otaBeginFlasher w h).Governed w informed := by
  unfold otaBeginFlasher
  dsimp only
  have flashing : (h.onBase fun b =>
      { b with ota := { b.ota with otaState := .flashing } }).Governed w False :=
    unsure.text (.phase (.refl _) busy rfl rfl rfl)
  have phase (now : Nat) := flashing.clock.text
    (f := fun b => { b with ota := { b.ota with otaPhaseStartMs := now } }) (.same rfl rfl id rfl)
  split
  · exact ((phase _).reset.startFlasher _ _).text (otaFinish_quiet (.refl _) _)
  · exact ((phase _).reset.startFlasher _ _).text
      (broadcastAll_calm (otaSendProgress_calm (.refl _) _) _).quiet

/-! ### Dispatch -/

theorem Governed.either {p : Prop} [Decidable p] {yes no : ChassisHost}
    (left : p → yes.Governed w informed) (right : ¬ p → no.Governed w informed) :
    (if p then yes else no).Governed w informed := by
  by_cases taken : p
  · rw [if_pos taken]
    exact left taken
  · rw [if_neg taken]
    exact right taken

/-- The busy gate lets neither `v`, `rpm` nor `en` through. -/
theorem not_busy {cmd : Text} (gate : ¬ (h.otaBusy = true ∧ cmd ∉ busyCommands))
    (closed : cmd ∉ busyCommands) : h.base.ota.otaState = .none := by
  by_cases free : h.base.ota.otaState = .none
  · exact free
  · exact absurd ⟨by simp [otaBusy, free], closed⟩ gate

theorem handleCommand_stop (governed : h.Governed w informed) (c : Conn) (rest : List Text) :
    (handleCommand w c (utf8 "stop" :: rest) h).Governed w informed := by
  unfold handleCommand
  refine .either (fun gate => absurd gate.2 (by decide)) (fun _ => ?_)
  refine .either (fun same => absurd same (by decide)) (fun _ => ?_)
  refine .either (fun same => absurd same (by decide)) (fun _ => ?_)
  exact .either (fun _ => cmdStop_governed governed c rfl rfl) (fun other => absurd rfl other)

theorem handleCommand_en (governed : h.Governed w informed) (c : Conn) (rest : List Text) :
    (handleCommand w c (utf8 "en" :: rest) h).Governed w informed := by
  unfold handleCommand
  refine .either (fun gate => ?_) (fun gate => ?_)
  · have busy : h.base.ota.otaState ≠ .none := of_decide_eq_true gate.1
    by_cases off : rest = [utf8 "0"]
    · have refused : (noted c (utf8 "en" :: rest) h).Governed w informed :=
        ⟨governed.agrees.refused busy c (by simp [isDisable, off]), governed.shape⟩
      exact refused.reply c _
    · exact (noted_governed governed c (isStop_en rest) (by simp [isDisable, off])).reply c _
  · refine .either (fun same => absurd same (by decide)) (fun _ => ?_)
    refine .either (fun same => absurd same (by decide)) (fun _ => ?_)
    refine .either (fun same => absurd same (by decide)) (fun _ => ?_)
    exact .either (fun _ => cmdEnable_governed governed (not_busy gate (by decide)) c rest)
      (fun other => absurd rfl other)

/-- `stop` and `en` change the journal and the fields together; for every other command the
dispatcher's entry is quiet. -/
theorem handleCommand_governed (governed : h.Governed w informed) (c : Conn) (tok : List Text) :
    (handleCommand w c tok h).Governed w informed := by
  cases tok with
  | nil => exact governed
  | cons cmd rest =>
    by_cases stop : cmd = utf8 "stop"
    · exact stop ▸ handleCommand_stop governed c rest
    by_cases en : cmd = utf8 "en"
    · exact en ▸ handleCommand_en governed c rest
    have noted : (noted c (cmd :: rest) h).Governed w informed :=
      noted_governed governed c (by simpa [isStop] using stop) (by simp [isDisable, en])
    have calm := Calmly.refl (ChassisHost.noted c (cmd :: rest) h)
    unfold handleCommand
    refine .either (fun _ => noted.reply c _) (fun gate => ?_)
    refine .either (fun v => ?_) (fun _ => ?_)
    · subst v
      exact cmdTwist_governed noted (not_busy gate (by decide)) c rest rfl
    refine .either (fun rpm => ?_) (fun _ => ?_)
    · subst rpm
      exact cmdRpm_governed noted (not_busy gate (by decide)) c rest rfl
    refine .either (fun same => absurd same stop) (fun _ => ?_)
    refine .either (fun same => absurd same en) (fun _ => ?_)
    refine .either (fun _ => noted.calmly (calm.cmdPid c _)) (fun _ => ?_)
    refine .either (fun _ => noted.calmly (calm.cmdSign c _)) (fun _ => ?_)
    refine .either (fun _ => noted.calmly (calm.cmdPing c)) (fun _ => ?_)
    refine .either (fun _ => noted.calmly (calm.cmdWatch c _)) (fun _ => ?_)
    refine .either (fun _ => noted.calmly (calm.cmdStat c)) (fun _ => ?_)
    refine .either (fun _ => noted.calmly (calm.cmdCon c)) (fun _ => ?_)
    refine .either (fun _ => cmdFlash_governed noted c _) (fun _ => ?_)
    refine .either (fun _ => noted.calmly (calm.cmdFlashStatus c)) (fun _ => ?_)
    refine .either (fun _ => noted.quietly ((Quietly.refl _).cmdFlashAbort c _)) (fun _ => ?_)
    refine .either (fun _ => noted.reply c _) (fun _ => ?_)
    exact .either (fun _ => noted.calmly (calm.shutdown c)) (fun _ => noted.reply c _)

/-! ### The port's own handlers -/

/-- The host with the port back in its place. -/
def Rejoined (w : World) (informed : Prop) (s : SerialPort × ChassisHost) : Prop :=
  ({ s.2 with serial := s.1 } : ChassisHost).Governed w informed

theorem closeInLoop_rejoined (reason : Text) (s : SerialPort × ChassisHost)
    (before : Rejoined w informed s) :
    Rejoined w informed (SerialPort.closeInLoop (hostEnv w) reason s) := by
  unfold SerialPort.closeInLoop
  cases channel : s.1.channel with
  | none => exact before
  | some _ =>
    have opened : s.1.isOpen = true := by simp [SerialPort.isOpen, channel]
    have told := onSerialState_calm (.refl s.2.base) false reason
    exact ⟨before.agrees.quiet ⟨fun _ => opened, told.quiet⟩, before.shape⟩

/-! ### Connections and lines -/

section
variable (governed : h.Governed w informed)
include governed

/-- Only the connection that drives takes its command with it. -/
theorem onConnectionDown_governed (c : Conn) : (onConnectionDown w c h).Governed w informed := by
  unfold onConnectionDown
  refine Governed.calmly ?_ ((Calmly.refl _).resetConn c)
  refine .either (fun owner => ?_) (fun other => ?_)
  · refine Governed.harmless ?_ [] rfl
    exact ⟨(governed.agrees.ownerGone c owner).quiet (.of_base (.same rfl rfl id rfl)),
      governed.shape⟩
  · exact ⟨(governed.agrees.otherGone c other).quiet (.of_base (.same rfl rfl id rfl)),
      governed.shape⟩

theorem handleLine_governed (c : Conn) (line : Text) :
    (handleLine w c line h).Governed w informed := by
  unfold handleLine
  split
  · exact governed
  · exact .either (fun _ => governed) (fun _ => handleCommand_governed governed c _)

theorem onMessage_governed (c : Conn) (bytes : Text) :
    (onMessage w c bytes h).Governed w informed :=
  List.foldlRecOn (motive := ChassisHost.Governed w informed) _ _
    (governed.text (.same rfl rfl id rfl)) fun _ before line _ => handleLine_governed before c line

/-! ### Board frames -/

/-- The self-heal enables only what the user has not disabled. -/
theorem onStatus_governed (now : Nat) (status : StatusData) :
    (onStatus w now status h).Governed w informed := by
  unfold onStatus
  have seen : (h.onBase fun b =>
      { b with telemetry := { b.telemetry with status } }).Governed w informed :=
    governed.text (.same rfl rfl id rfl)
  have healed : (if !h.base.userDisabled ∧ h.conSm.comm = .ready ∧ status.en = 0 ∧
      elapsed now h.base.lastEnSentMs > w.opts.enResendMs then
        (((h.onBase fun b => { b with telemetry := { b.telemetry with status } }).onBase fun b =>
          { b with lastEnSentMs := now }).sendFrame w ptCmdEn (packCmdEn true)).2
      else h.onBase fun b => { b with telemetry := { b.telemetry with status } }).Governed
        w informed := by
    refine .either (fun asleep => ?_) (fun _ => seen)
    exact (seen.forget.text (.same rfl rfl id rfl)).sendEn true asleep.1.symm
  exact .either (fun quiescing => otaBeginFlasher_governed healed.forget (by rw [quiescing.1]; decide))
    (fun _ => healed)

theorem onFrame_governed (f : Frame) : (onFrame w f h).Governed w informed := by
  unfold onFrame
  dsimp only
  have seen (now : Nat) : ((h.clock w).2.onBase fun b =>
      { b with lastFrameMs := now, rxSilenceWarned := false }).Governed w informed :=
    governed.clock.text (.same rfl rfl id rfl)
  split
  · split
    · exact onStatus_governed (seen _) _ _
    · exact seen _
  · split
    · split
      · split
        · exact seen _
        · split
          next msgType _ => exact (seen _).call (.onFrame msgType _)
          · exact seen _
      · exact seen _
    · split
      · exact (seen _).calmly ((Calmly.refl _).onPing f)
      · exact (seen _).text (.same rfl rfl id rfl)

theorem onSerialData_governed (bytes : List UInt8) :
    (onSerialData w bytes h).Governed w informed :=
  List.foldlRecOn (motive := ChassisHost.Governed w informed) _ _
    (governed.text (.same rfl rfl id rfl)) fun _ before f _ => onFrame_governed before f

theorem handleRead_governed (reads : List Serial.ReadResult) :
    (handleRead w reads h).Governed w informed := by
  have start : Rejoined w informed (h.serial, h) := governed
  have kept : Rejoined w informed
      (SerialPort.handleRead (hostEnv w) (dataCb w) reads (h.serial, h)) :=
    SerialPort.handleRead_keeps (fun bytes _ before => onSerialData_governed before bytes)
      closeInLoop_rejoined reads start
  exact kept

/-! ### Timers -/

theorem onConTick_governed : (onConTick w h).Governed w informed :=
  governed.clock.call (.tick _)

theorem onRepeatTimer_governed : (onRepeatTimer w h).Governed w informed := by
  unfold onRepeatTimer
  refine .either (fun _ => governed) (fun moving => ?_)
  refine .either (fun _ => governed) (fun linked => ?_)
  have up : h.conSm.comm = .ready := Decidable.of_not_not linked
  have on : h.base.userDisabled = false := by simpa using fun off => moving (.inr off)
  obtain ⟨c, owner⟩ : ∃ c, h.base.speed.speedConn = some c :=
    Option.isSome_iff_exists.mp (governed.agrees.owned fun idle => moving (.inl idle))
  refine .either (fun twist => ?_) (fun other => ?_)
  · have follows : h.base.speed.drive = some (c, .twist h.base.speed.twist) := by
      simp [SpeedCommand.drive, twist, owner]
    exact ⟨up.symm ▸ App.Governed.sendDrive w (up ▸ governed.agrees) on follows rfl, governed.shape⟩
  · have rpm : h.base.speed.cmdMode = .rpm := by
      cases mode : h.base.speed.cmdMode <;> simp_all
    have follows : h.base.speed.drive = some (c, .rpm h.base.speed.rpm) := by
      simp [SpeedCommand.drive, rpm, owner]
    exact ⟨up.symm ▸ App.Governed.sendDrive w (up ▸ governed.agrees) on follows rfl, governed.shape⟩

theorem reconnect_governed (now : Nat) : (reconnect w now h).Governed w informed := by
  unfold reconnect
  refine .either (fun _ => ?_) (fun _ => governed)
  exact (governed.text (.same rfl rfl id rfl)).call (.connect now)

end

/-! ### The watchdog -/

theorem serialEnv_ota (ota : OtaTask) : (serialEnv w).Keeps fun b => b.ota = ota where
  openTty _ before := before
  write _ _ before := before
  stateCb up reason b before := by
    have told (line : Text) : ((b.note (.port up)).broadcastAll line).ota = ota :=
      (sendAll_ota _ _ line).trans before
    simp only [serialEnv, onSerialState]
    split
    · exact told _
    · exact told _

theorem reopen_ota (h : ChassisHost) : (reopen w h).base.ota = h.base.ota := by
  unfold reopen
  split
  · rfl
  · exact SerialPort.openDevice_keeps (serialEnv_ota h.base.ota) _ rfl

/-- The upgrade waited for the board longer than it may; the watchdog goes on without it. -/
def quiesceExpired (w : World) (h : ChassisHost) : Prop :=
  h.base.ota.otaState = .quiescing ∧
    elapsed (w.os.steadyMs h.base.asked) h.base.ota.otaPhaseStartMs > w.opts.quiesceTimeoutMs

/-- The watchdog, as it is called, would open the port. -/
def reopens (w : World) (h : ChassisHost) : Prop :=
  h.serial.isOpen = false ∧ w.os.openTty (h.base.asked + 1) = true ∧
    w.opts.serialBaud ∈ knownBauds

/-- A tick of the watchdog that opens the port under a link which is up finds the flag clear
or the board told, or is the tick that drops the link for an upgrade. -/
def Timely (w : World) (h : ChassisHost) : Prop :=
  reopens w h → h.conSm.comm = .ready → h.base.userDisabled = true → ¬ quiesceExpired w h →
    Told h.base.journal

theorem reopen_isOpen (h : ChassisHost) :
    (reopen w h).serial.isOpen = true ↔
      h.serial.isOpen = true ∨ w.os.openTty h.base.asked = true ∧ w.opts.serialBaud ∈ knownBauds := by
  unfold reopen
  split
  next opened => simp [opened]
  next closed =>
    have spec := SerialPort.openDevice_isOpen (serialEnv w) w.opts.serialBaud (h.serial, h.base)
    simp only [onCore, spec]
    simp [closed, serialEnv]

theorem reopen_quiet (h : ChassisHost) : Base.Quiet h.base (reopen w h).base := by
  unfold reopen
  split
  · exact .refl _
  · exact SerialPort.openDevice_keeps (serialEnv_keeps w h.base) _ (.refl _)

theorem reopen_conSm (h : ChassisHost) : (reopen w h).conSm = h.conSm := by
  unfold reopen
  split <;> rfl

theorem reopen_governed (governed : h.Governed w informed)
    (told : informed → h.serial.isOpen = false → w.os.openTty h.base.asked = true →
      w.opts.serialBaud ∈ knownBauds → h.conSm.comm = .ready → h.base.userDisabled = true →
      Told h.base.journal) :
    (reopen w h).Governed w informed := by
  have link := reopen_conSm (w := w) h
  refine ⟨link ▸ governed.agrees.opened (reopen_quiet h) _ ?_, link ▸ governed.shape⟩
  intro known up off opened
  rcases (reopen_isOpen h).mp opened with already | ⟨answered, baud⟩
  · exact governed.agrees.told known up off already
  · cases closed : h.serial.isOpen with
    | true => exact governed.agrees.told known up off closed
    | false => exact told known closed answered baud up off

theorem otaTimeouts_governed {now : Nat} (unsure : h.Governed w False)
    (sure : ¬ (h.base.ota.otaState = .quiescing ∧
      elapsed now h.base.ota.otaPhaseStartMs > w.opts.quiesceTimeoutMs) → h.Governed w informed) :
    (otaTimeouts w now h).Governed w informed := by
  unfold otaTimeouts
  refine .either (fun expired => ?_) (fun waiting => ?_)
  · exact otaBeginFlasher_governed unsure (by rw [expired.1]; decide)
  · refine .either (fun _ => ?_) (fun _ => sure waiting)
    exact (sure waiting).text (otaFinish_quiet (.refl _) _)

theorem onWatchdogTimer_governed (governed : h.Governed w informed)
    (timely : informed → Timely w h) : (onWatchdogTimer w h).Governed w informed := by
  unfold onWatchdogTimer
  refine reconnect_governed (Governed.calmly ?_ ((Calmly.refl _).silenceCheck _)) _
  refine otaTimeouts_governed (reopen_governed governed.clock.forget False.elim) ?_
  rw [reopen_ota]
  intro waiting
  apply reopen_governed governed.clock
  intro known closed answered baud up off
  exact timely known ⟨closed, answered, baud⟩ up off waiting

/-! ### Runs -/

theorem handle_governed (governed : h.Governed w informed) (e : Event)
    (timely : informed → e = .watchdogTimer → Timely w h) :
    (handle w h e).Governed w informed := by
  have keeps := flasherEnv_keeps w h.base
  have calm := Calmly.refl h
  have quiet := Quietly.refl h
  cases e with
  | connUp c => exact governed.calmly (calm.onConnectionUp c)
  | connDown c => exact onConnectionDown_governed governed c
  | message c bytes => exact onMessage_governed governed c bytes
  | serialReadable reads => exact handleRead_governed governed reads
  | serialWritable =>
    exact governed.quietly (quiet.onCore (SerialPort.handleWrite_kept (serialEnv_keeps w _) (.refl _)))
  | serialError | serialHup =>
    exact governed.quietly
      (quiet.onCore (SerialPort.closeInLoop_kept (serialEnv_keeps w _) _ (.refl _)))
  | conTick => exact onConTick_governed governed
  | repeatTimer => exact onRepeatTimer_governed governed
  | odomTimer => exact governed.calmly calm.onOdomTimer
  | slowTimer => exact governed.calmly calm.onSlowTimer
  | watchdogTimer => exact onWatchdogTimer_governed governed fun known => timely known rfl
  | childReadable reads =>
    exact governed.quietly (quiet.childEvent _ fun _ => OtaFlasher.onReadable_keeps keeps reads (.refl _))
  | childHup =>
    exact governed.quietly (quiet.childEvent _ fun _ => OtaFlasher.scheduleDetachPipe_keeps keeps (.refl _))
  | childDetach =>
    exact governed.quietly (quiet.childEvent _ fun _ => OtaFlasher.detachPipe_keeps keeps (.refl _))
  | childReap timer =>
    exact governed.quietly (quiet.childEvent _ fun _ => OtaFlasher.reapTimer_keeps keeps timer (.refl _))
  | childEscalate =>
    exact governed.quietly (quiet.childEvent _ fun _ => OtaFlasher.escalate_keeps keeps (.refl _))

/-- The constructor, before `start` opens the port. -/
theorem fresh_governed (w : World) (informed : Prop) : ({} : ChassisHost).Governed w informed :=
  ⟨.fresh w.fl informed, .fresh⟩

theorem start_governed (w : World) (informed : Prop) : (start w).Governed w informed :=
  reopen_governed (fresh_governed w informed) fun _ _ _ _ up => by cases up

/-- Without any claim on what the board knows, every run keeps the agreement. -/
theorem run_governed (w : World) (events : List Event) : (run w events).Governed w False :=
  List.foldlRecOn (motive := ChassisHost.Governed w False) events _ (start_governed w False)
    fun _ before e _ => handle_governed before e fun known => known.elim

end Mhost.App.ChassisHost
