import Mhost.App.Beside
import Mhost.App.Upgrade

/-!
# Every handler and its port

ChassisHost.cc:115-205, 253-668, 672-868. Each handler is made of the five things that the host does
about its port, so what these preserve holds after every act and after every event.
-/
namespace Mhost.App
open Library (Text utf8)
open Proto Link Serial Ota

/-- The port and the host's own members. -/
abbrev ChassisHost.core (h : ChassisHost) : Core := (h.serial, h.base)

namespace Core.Preserves
variable {w : World} {holds : Core → Prop} {h : ChassisHost}

theorem either {p : Prop} [Decidable p] {yes no : ChassisHost} (left : p → holds yes.core)
    (right : ¬ p → holds no.core) : holds (if p then yes else no).core :=
  iteInduction (motive := fun h : ChassisHost => holds h.core) left right

variable (preserves : Core.Preserves w holds) (before : holds h.core)
include preserves before

/-! ### Parts of a handler -/

theorem onBase {f : Base → Base} (beside : Base.Beside h.base (f h.base)) :
    holds (h.onBase f).core :=
  preserves.beside beside before

theorem reply (c : Conn) (text : Text) : holds (h.reply c text).core :=
  preserves.onBase before (sendTo_beside (.refl _) c text)

theorem asked : holds (h.onBase Base.answered).core :=
  preserves.onBase before (Base.Beside.refl _).answered

theorem clock : holds (h.clock w).2.core := preserves.asked before

theorem sendFrame {type : UInt8} {payload : List UInt8} (fits : payload.length ≤ kMaxPayload) :
    holds (h.sendFrame w type payload).2.core :=
  preserves.frame type payload fits before

theorem stop : holds (h.sendFrame w ptCmdStop []).2.core := preserves.sendFrame before (Nat.zero_le _)

theorem enable (on : Bool) : holds (h.sendFrame w ptCmdEn (packCmdEn on)).2.core :=
  preserves.sendFrame before (by simp [packCmdEn, kMaxPayload])

/-- A call into the link, whatever it sends and reports. -/
theorem call (c : ConSm.Call) :
    holds (h.onLink fun s => ConSm.call (conCallbacks w) s c).core :=
  ConSm.call_keeps (s := (h.conSm, h.serial, h.base)) preserves.callbacks c before

theorem onFlasher {f : OtaFlasher Unit × Base → OtaFlasher Unit × Base}
    (beside : ∀ flasher, Base.Beside h.base (f (flasher, h.base)).2) :
    holds (h.onFlasher f).core := by
  unfold ChassisHost.onFlasher
  cases h.flasher with
  | none => exact before
  | some flasher => exact preserves.beside (beside flasher) before

theorem childEvent (due : OtaFlasher Unit → Bool)
    {f : OtaFlasher Unit × Base → OtaFlasher Unit × Base}
    (beside : ∀ flasher, Base.Beside h.base (f (flasher, h.base)).2) :
    holds (ChassisHost.childEvent due f h).core :=
  either (fun _ => preserves.onFlasher before beside) (fun _ => before)

/-! ### Commands -/

theorem cmdTwist (c : Conn) (tok : List Text) : holds (ChassisHost.cmdTwist w c tok h).core := by
  unfold ChassisHost.cmdTwist
  split
  · exact preserves.reply before c _
  · split
    · exact preserves.reply before c _
    next v _ =>
      apply preserves.reply
      exact preserves.onBase before
        (.adding (e := .twist c (ChassisHost.toFloats w.fl v)) rfl rfl rfl rfl rfl)

theorem cmdRpm (c : Conn) (tok : List Text) : holds (ChassisHost.cmdRpm w c tok h).core := by
  unfold ChassisHost.cmdRpm
  split
  · exact preserves.reply before c _
  · split
    · exact preserves.reply before c _
    next v _ =>
      apply preserves.reply
      exact preserves.onBase before
        (.adding (e := .rpm c (ChassisHost.toFloats w.fl v)) rfl rfl rfl rfl rfl)

theorem cmdStop (c : Conn) : holds (ChassisHost.cmdStop w c h).core := by
  unfold ChassisHost.cmdStop
  apply preserves.reply
  apply preserves.stop
  exact preserves.onBase before (.same rfl rfl rfl rfl)

theorem cmdEnable (c : Conn) (tok : List Text) : holds (ChassisHost.cmdEnable w c tok h).core := by
  unfold ChassisHost.cmdEnable
  refine either (fun _ => preserves.reply before c _) (fun _ => ?_)
  have read := preserves.clock before
  refine either (fun _ => ?_) (fun _ => ?_)
  · have noted : holds ((h.clock w).2.onBase fun b =>
        { b with userDisabled := false, lastEnSentMs := (h.clock w).1 }.note (.enable c true)).core :=
      preserves.onBase read (.adding (e := .enable c true) rfl rfl rfl rfl rfl)
    have sent := preserves.enable noted true
    apply preserves.reply
    exact either (fun _ => preserves.call sent (.connect _)) (fun _ => sent)
  · have noted : holds ((h.clock w).2.onBase fun b =>
        { b with userDisabled := true, speed := { b.speed with cmdMode := .none } }.note
          (.enable c false)).core :=
      preserves.onBase read (.adding (e := .enable c false) rfl rfl rfl rfl rfl)
    exact preserves.reply (preserves.call (preserves.enable noted false) (.disconnect _)) c _

theorem cmdPid (c : Conn) (tok : List Text) : holds (ChassisHost.cmdPid w c tok h).core := by
  unfold ChassisHost.cmdPid
  dsimp only
  split
  · exact preserves.reply before c _
  · split
    · exact preserves.reply before c _
    · exact preserves.reply
        (preserves.sendFrame before (by simp [packCmdPid, putF32, putU32, kMaxPayload])) c _

theorem cmdSign (c : Conn) (tok : List Text) : holds (ChassisHost.cmdSign w c tok h).core := by
  unfold ChassisHost.cmdSign
  split
  · exact preserves.reply before c _
  · split
    · exact preserves.reply before c _
    · exact preserves.reply (preserves.sendFrame before (by simp [packCmdSign, kMaxPayload])) c _

theorem cmdPing (c : Conn) : holds (ChassisHost.cmdPing w c h).core := by
  unfold ChassisHost.cmdPing
  refine either (fun _ => preserves.reply before c _) (fun _ => ?_)
  refine preserves.sendFrame ?_ (by simp [packPing, putU32, kMaxPayload])
  exact preserves.onBase (preserves.clock before) (.same rfl rfl rfl rfl)

theorem cmdWatch (c : Conn) (arg : Text) : holds (ChassisHost.cmdWatch c arg h).core := by
  unfold ChassisHost.cmdWatch
  apply preserves.reply
  exact preserves.onBase before (.same rfl rfl rfl rfl)

theorem cmdCon (c : Conn) : holds (ChassisHost.cmdCon w c h).core := by
  unfold ChassisHost.cmdCon
  exact either (fun _ => preserves.reply before c _)
    (fun _ => preserves.reply (preserves.clock before) c _)

theorem cmdFlash (c : Conn) (tok : List Text) : holds (ChassisHost.cmdFlash w c tok h).core := by
  unfold ChassisHost.cmdFlash
  refine either (fun _ => preserves.reply before c _) (fun _ => ?_)
  refine either (fun _ => preserves.reply before c _) (fun _ => ?_)
  refine either (fun _ => preserves.reply before c _) (fun _ => ?_)
  refine either (fun _ => preserves.reply before c _) (fun _ => ?_)
  refine either (fun _ => preserves.reply before c _) (fun _ => ?_)
  have asked := preserves.asked before
  refine either (fun _ => preserves.reply asked c _) (fun _ => ?_)
  have accepted := preserves.onBase (preserves.clock asked)
    (f := ChassisHost.accept c (tok.getD 1 []) (ChassisHost.acceptedAt w h))
    (.adding (e := .flash c (tok.getD 1 [])) rfl rfl rfl rfl rfl)
  exact preserves.onBase
    (preserves.reply (preserves.enable (preserves.stop accepted) false) c _)
    (broadcastAll_beside (.refl _) _)

theorem cmdFlashAbort (c : Conn) (tok : List Text) :
    holds (ChassisHost.cmdFlashAbort w c tok h).core := by
  unfold ChassisHost.cmdFlashAbort
  refine either (fun _ => preserves.reply before c _) (fun _ => ?_)
  refine either (fun _ => preserves.reply before c _) (fun _ => ?_)
  cases h.base.ota.otaState with
  | none => exact preserves.reply before c _
  | quiescing | recovering => exact preserves.onBase before (otaFinish_beside (.refl _) _)
  | flashing =>
    refine either (fun _ => ?_) (fun _ => preserves.reply before c _)
    exact preserves.onFlasher (preserves.reply before c _) fun _ =>
      OtaFlasher.killGroup_keeps (flasherEnv_beside w _) (.refl _)

theorem shutdown (c : Conn) : holds (h.shutdown c).core :=
  preserves.onBase before (.same rfl rfl rfl rfl)

theorem handleCommand (c : Conn) (tok : List Text) :
    holds (ChassisHost.handleCommand w c tok h).core := by
  cases tok with
  | nil => exact before
  | cons cmd rest =>
    have noted : holds (h.onBase (·.note (.command c (cmd :: rest)))).core :=
      preserves.onBase before (.adding (e := .command c (cmd :: rest)) rfl rfl rfl rfl rfl)
    unfold ChassisHost.handleCommand
    refine either (fun _ => preserves.reply noted c _) (fun _ => ?_)
    refine either (fun _ => preserves.cmdTwist noted c _) (fun _ => ?_)
    refine either (fun _ => preserves.cmdRpm noted c _) (fun _ => ?_)
    refine either (fun _ => preserves.cmdStop noted c) (fun _ => ?_)
    refine either (fun _ => preserves.cmdEnable noted c _) (fun _ => ?_)
    refine either (fun _ => preserves.cmdPid noted c _) (fun _ => ?_)
    refine either (fun _ => preserves.cmdSign noted c _) (fun _ => ?_)
    refine either (fun _ => preserves.cmdPing noted c) (fun _ => ?_)
    refine either (fun _ => preserves.cmdWatch noted c _) (fun _ => ?_)
    refine either (fun _ => preserves.reply (preserves.asked noted) c _) (fun _ => ?_)
    refine either (fun _ => preserves.cmdCon noted c) (fun _ => ?_)
    refine either (fun _ => preserves.cmdFlash noted c _) (fun _ => ?_)
    refine either (fun _ => preserves.reply noted c _) (fun _ => ?_)
    refine either (fun _ => preserves.cmdFlashAbort noted c _) (fun _ => ?_)
    refine either (fun _ => preserves.reply noted c _) (fun _ => ?_)
    exact either (fun _ => preserves.shutdown noted c) (fun _ => preserves.reply noted c _)

/-! ### Connections and the upgrade -/

theorem onConnectionUp (c : Conn) : holds (ChassisHost.onConnectionUp c h).core := by
  have joined : holds (h.onBase fun b => { b with conns := b.conns ++ [c] }.note (.up c)).core :=
    preserves.onBase before (.adding (e := .up c) rfl rfl rfl rfl rfl)
  exact preserves.reply (preserves.reply joined c _) c _

theorem onConnectionDown (c : Conn) : holds (ChassisHost.onConnectionDown w c h).core := by
  have gone : holds (h.onBase (ChassisHost.left c)).core :=
    preserves.onBase before (.adding (e := .down c) rfl rfl rfl rfl rfl)
  have stopped : holds (ChassisHost.braked w c (h.onBase (ChassisHost.left c))).core := by
    refine either (fun _ => ?_) (fun _ => gone)
    apply preserves.stop
    exact preserves.onBase gone (.same rfl rfl rfl rfl)
  rw [ChassisHost.onConnectionDown_eq]
  apply preserves.onBase stopped
  rw [ChassisHost.resetConn_eq]
  exact .same rfl rfl rfl rfl

theorem otaBeginFlasher : holds (ChassisHost.otaBeginFlasher w h).core := by
  have dropped : holds (ChassisHost.prepared w h).core := by
    have entered : holds (((h.onBase fun b =>
        { b with ota := { b.ota with otaState := .flashing } }).clock w).2.onBase fun b =>
          { b with ota := { b.ota with otaPhaseStartMs := w.os.steadyMs h.base.asked } }).core :=
      preserves.onBase (preserves.clock (preserves.onBase before (.same rfl rfl rfl rfl)))
        (.same rfl rfl rfl rfl)
    exact preserves.call entered .reset
  have spawned : Base.Beside (ChassisHost.prepared w h).base
      (ChassisHost.startChild w (ChassisHost.prepared w h)).2.2 :=
    OtaFlasher.start_keeps
      (s := ((ChassisHost.prepared w h).flasher.getD {}, (ChassisHost.prepared w h).base))
      (flasherEnv_beside w _) _ () (.refl _)
  rw [ChassisHost.otaBeginFlasher_eq]
  unfold ChassisHost.launched
  refine either (fun _ => ?_) (fun _ => ?_)
  · exact preserves.beside (otaFinish_beside spawned _) dropped
  · exact preserves.beside (broadcastAll_beside (otaSendProgress_beside spawned _) _) dropped

/-! ### Board frames -/

theorem onStatus (now : Nat) (status : StatusData) :
    holds (ChassisHost.onStatus w now status h).core := by
  have read : holds (h.onBase fun b => { b with telemetry := { b.telemetry with status } }).core :=
    preserves.onBase before (.same rfl rfl rfl rfl)
  have healed : holds (ChassisHost.healed w now status h).core := by
    unfold ChassisHost.healed
    refine either (fun _ => ?_) (fun _ => read)
    apply preserves.enable
    exact preserves.onBase read (.same rfl rfl rfl rfl)
  rw [ChassisHost.onStatus_eq]
  exact either (fun _ => preserves.otaBeginFlasher healed) (fun _ => healed)

theorem onPing (f : Frame) : holds (ChassisHost.onPing w f h).core := by
  unfold ChassisHost.onPing
  split
  · refine either (fun _ => ?_) (fun _ => before)
    exact preserves.onBase (preserves.reply (preserves.clock before) _ _) (.same rfl rfl rfl rfl)
  · exact before

theorem onFrame (f : Frame) : holds (ChassisHost.onFrame w f h).core := by
  have taken : holds (ChassisHost.received w h).core :=
    preserves.onBase (preserves.clock before) (.same rfl rfl rfl rfl)
  unfold ChassisHost.onFrame
  dsimp only
  split
  · cases parseStatus f with
    | none => exact taken
    | some status => exact preserves.onStatus taken _ status
  · split
    · rcases unpackCon f with _ | ⟨sender, msgType⟩
      · exact taken
      · refine either (fun _ => taken) (fun _ => ?_)
        cases ConMsgType.ofByte msgType with
        | none => exact taken
        | some msgType => exact preserves.call taken (.onFrame msgType _)
    · refine either (fun _ => preserves.onPing taken f) (fun _ => ?_)
      exact preserves.onBase taken (.same rfl rfl rfl rfl)

/-! ### Timers -/

theorem onRepeatTimer : holds (ChassisHost.onRepeatTimer w h).core := by
  unfold ChassisHost.onRepeatTimer
  refine either (fun _ => before) (fun _ => ?_)
  refine either (fun _ => before) (fun _ => ?_)
  refine either (fun _ => preserves.sendFrame before ?_) (fun _ => preserves.sendFrame before ?_)
  · simp [packCmdTwist, putF32, putU32, kMaxPayload, List.map_const']
  · simp [packCmdVel, putU16, kMaxPayload, List.map_const']

theorem onOdomTimer : holds (ChassisHost.onOdomTimer w h).core := by
  unfold ChassisHost.onOdomTimer
  exact either (fun _ => before)
    (fun _ => preserves.onBase before (sendToWatchers_beside (.refl _) _))

theorem onSlowTimer : holds (ChassisHost.onSlowTimer w h).core := by
  unfold ChassisHost.onSlowTimer
  refine either (fun _ => before) (fun _ => preserves.onBase before ?_)
  have first := sendToWatchers_if_beside (.refl h.base) h.base.telemetry.haveEnc
  have second line := sendToWatchers_if_beside (first line) h.base.telemetry.haveImu
  have third line line' := sendToWatchers_if_beside (second line line') h.base.telemetry.haveTelem
  exact sendToWatchers_beside (third _ _ _) _

theorem onWatchdogTimer : holds (ChassisHost.onWatchdogTimer w h).core := by
  have read := preserves.clock before
  have opened : holds (ChassisHost.reopen w (h.clock w).2).core :=
    either (fun _ => read) fun _ => preserves.opening read
  have timed : holds (ChassisHost.otaTimeouts w (h.clock w).1
      (ChassisHost.reopen w (h.clock w).2)).core := by
    unfold ChassisHost.otaTimeouts
    refine either (fun _ => preserves.otaBeginFlasher opened) (fun _ => ?_)
    exact either (fun _ => preserves.onBase opened (otaFinish_beside (.refl _) _)) (fun _ => opened)
  have checked : holds (ChassisHost.silenceCheck w (h.clock w).1 (ChassisHost.otaTimeouts w
      (h.clock w).1 (ChassisHost.reopen w (h.clock w).2))).core := by
    unfold ChassisHost.silenceCheck
    refine either (fun _ => ?_) (fun _ => timed)
    apply preserves.onBase timed
    apply broadcastAll_beside
    exact .same rfl rfl rfl rfl
  unfold ChassisHost.onWatchdogTimer ChassisHost.reconnect
  refine either (fun _ => ?_) (fun _ => checked)
  exact preserves.call (preserves.onBase checked (.same rfl rfl rfl rfl)) (.connect _)

/-! ### Acts and runs -/

/-- All but the parser, which a readable port feeds. -/
theorem act (a : ChassisHost.Act)
    (parsing : ∀ bytes, a = .parsed bytes → holds (ChassisHost.act w h a).core) :
    holds (ChassisHost.act w h a).core := by
  have keeps := flasherEnv_beside w h.base
  cases a with
  | up c => exact preserves.onConnectionUp before c
  | down c => exact preserves.onConnectionDown before c
  | buffered c left => exact preserves.onBase before (.same rfl rfl rfl rfl)
  | parsed bytes => exact parsing bytes rfl
  | line c text =>
    show holds (ChassisHost.handleLine w c text h).core
    rw [ChassisHost.handleLine_eq]
    exact preserves.handleCommand before c _
  | frame f => exact preserves.onFrame before f
  | closed reason => exact preserves.closing reason before
  | serialWritable => exact preserves.writable before
  | conTick => exact preserves.call (preserves.clock before) (.tick _)
  | repeatTimer => exact preserves.onRepeatTimer before
  | odomTimer => exact preserves.onOdomTimer before
  | slowTimer => exact preserves.onSlowTimer before
  | watchdogTimer => exact preserves.onWatchdogTimer before
  | childReadable reads =>
    exact preserves.childEvent before _ fun _ => OtaFlasher.onReadable_keeps keeps reads (.refl _)
  | childHup =>
    exact preserves.childEvent before _ fun _ => OtaFlasher.scheduleDetachPipe_keeps keeps (.refl _)
  | childDetach =>
    exact preserves.childEvent before _ fun _ => OtaFlasher.detachPipe_keeps keeps (.refl _)
  | childReap timer =>
    exact preserves.childEvent before _ fun _ => OtaFlasher.reapTimer_keeps keeps timer (.refl _)
  | childEscalate =>
    exact preserves.childEvent before _ fun _ => OtaFlasher.escalate_keeps keeps (.refl _)

/-- So does an event, which is a sequence of acts. -/
theorem handle (parses : Core.Parses holds) (e : ChassisHost.Event) :
    holds (ChassisHost.handle w h e).core := by
  rw [ChassisHost.handle_acts]
  refine @ChassisHost.acts_keep w h (fun h => holds h.core)
    (fun h a before => preserves.act before a ?_) before _
  rintro bytes rfl
  exact parses bytes before

omit before in
theorem start (fresh : holds ({}, {})) : holds (ChassisHost.start w).core := preserves.opening fresh

end Core.Preserves
end Mhost.App
