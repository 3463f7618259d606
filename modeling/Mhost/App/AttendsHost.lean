import Mhost.App.Attends
import Mhost.App.Upgrade

/-!
# Every handler attends to one client

ChassisHost.cc:169-534, 687-845. A line attends to the connection it came from; frames, timers,
the port and the child attend to nobody. Only a frame changes the readings, and it does so
before anything else it does.
-/
namespace Mhost.App.ChassisHost
open Library (Text utf8)
open Proto Link Serial Ota

/-- `h'` is what is left of `h` when `who` was attended to. -/
abbrev Attends (who : Option Conn) (shown : Telemetry) (h h' : ChassisHost) : Prop :=
  Base.Attends who shown h.base h'.base

namespace Attends
variable {w : World} {who : Option Conn} {shown : Telemetry} {h h' : ChassisHost}

theorem refl (h : ChassisHost) : Attends who h.base.telemetry h h := Base.Attends.refl h.base

theorem either {p : Prop} [Decidable p] {yes no : ChassisHost} (left : p → Attends who shown h yes)
    (right : ¬ p → Attends who shown h no) : Attends who shown h (if p then yes else no) :=
  iteInduction (motive := Attends who shown h) left right

variable (before : Attends who shown h h')
include before

/-! ### Parts of a handler -/

theorem reply (c : Conn) (text : Text) : Attends who shown h (h'.reply c text) :=
  sendTo_attends before c text

theorem asked : Attends who shown h (h'.onBase Base.answered) := before.answered

theorem clock (w : World) : Attends who shown h (h'.clock w).2 := before.answered

theorem sendFrame (w : World) (type : UInt8) (payload : List UInt8) :
    Attends who shown h (h'.sendFrame w type payload).2 :=
  sendFrameToBoard_attends w (s := (h'.serial, h'.base)) before type payload

/-- A call into the link, whatever it sends and reports. -/
theorem call (w : World) (c : ConSm.Call) :
    Attends who shown h (h'.onLink fun s => ConSm.call (conCallbacks w) s c) :=
  ConSm.call_keeps (s := (h'.conSm, h'.serial, h'.base)) (conCallbacks_attends w h.base) c before

theorem onFlasher {f : OtaFlasher Unit × Base → OtaFlasher Unit × Base}
    (kept : ∀ flasher, Base.Attends who shown h.base (f (flasher, h'.base)).2) :
    Attends who shown h (h'.onFlasher f) := by
  unfold ChassisHost.onFlasher
  cases h'.flasher with
  | none => exact before
  | some flasher => exact kept flasher

theorem childEvent (due : OtaFlasher Unit → Bool)
    {f : OtaFlasher Unit × Base → OtaFlasher Unit × Base}
    (kept : ∀ flasher, Base.Attends who shown h.base (f (flasher, h'.base)).2) :
    Attends who shown h (childEvent due f h') :=
  .either (fun _ => onFlasher before kept) (fun _ => before)

/-! ### Commands -/

/-- The speed command of the client that is attended to. -/
theorem drives {c : Conn} (own : who = some c) (mode : CmdMode) (twist rpm : Vector F32 3) :
    Attends who shown h (h'.onBase fun b =>
      { b with speed := { twist, rpm, cmdMode := mode, speedConn := some c } }) :=
  ⟨before.conns, before.telemetry, before.watchers,
    fun _ same => .inr (own.trans same), before.pingConn, before.otaConn,
    fun _ _ => Option.some_ne_none c⟩

/-- No speed command is repeated; its client may be forgotten too. -/
theorem halts {speedConn : Option Conn}
    (forgets : ∀ c, speedConn = some c → h'.base.speed.speedConn = some c) (twist rpm : Vector F32 3) :
    Attends who shown h (h'.onBase fun b =>
      { b with speed := { twist, rpm, cmdMode := .none, speedConn } }) :=
  ⟨before.conns, before.telemetry, before.watchers,
    fun c same => before.speedConn c (forgets c same), before.pingConn, before.otaConn,
    fun _ moving => absurd rfl moving⟩

theorem cmdTwist {c : Conn} (own : who = some c) (tok : List Text) :
    Attends who shown h (cmdTwist w c tok h') := by
  unfold ChassisHost.cmdTwist
  split
  · exact before.reply c _
  · split
    · exact before.reply c _
    next v _ =>
      apply Attends.reply
      exact (before.drives own .twist (toFloats w.fl v) h'.base.speed.rpm).note _

theorem cmdRpm {c : Conn} (own : who = some c) (tok : List Text) :
    Attends who shown h (cmdRpm w c tok h') := by
  unfold ChassisHost.cmdRpm
  split
  · exact before.reply c _
  · split
    · exact before.reply c _
    next v _ =>
      apply Attends.reply
      exact (before.drives own .rpm h'.base.speed.twist (toFloats w.fl v)).note _

theorem cmdStop (c : Conn) : Attends who shown h (cmdStop w c h') := by
  unfold ChassisHost.cmdStop
  apply Attends.reply
  apply Attends.sendFrame
  exact before.halts (fun _ same => (Option.some_ne_none _ same.symm).elim) _ _

theorem cmdEnable (c : Conn) (tok : List Text) : Attends who shown h (cmdEnable w c tok h') := by
  unfold ChassisHost.cmdEnable
  refine .either (fun _ => before.reply c _) (fun _ => ?_)
  have read := before.clock w
  refine .either (fun _ => ?_) (fun _ => ?_)
  · have noted : Attends who shown h ((h'.clock w).2.onBase fun b =>
        { b with userDisabled := false, lastEnSentMs := (h'.clock w).1 }.note (.enable c true)) :=
      read.same rfl rfl rfl rfl rfl rfl
    have sent := noted.sendFrame w ptCmdEn (packCmdEn true)
    apply Attends.reply
    exact .either (fun _ => sent.call w (.connect _)) (fun _ => sent)
  · have noted : Attends who shown h ((h'.clock w).2.onBase fun b =>
        { b with userDisabled := true, speed := { b.speed with cmdMode := .none } }.note
          (.enable c false)) :=
      (read.halts (fun _ same => same) h'.base.speed.twist h'.base.speed.rpm).same
        rfl rfl rfl rfl rfl rfl
    exact ((noted.sendFrame w _ _).call w (.disconnect _)).reply c _

theorem cmdPid (c : Conn) (tok : List Text) : Attends who shown h (cmdPid w c tok h') := by
  unfold ChassisHost.cmdPid
  dsimp only
  split
  · exact before.reply c _
  · split
    · exact before.reply c _
    · exact (before.sendFrame w _ _).reply c _

theorem cmdSign (c : Conn) (tok : List Text) : Attends who shown h (cmdSign w c tok h') := by
  unfold ChassisHost.cmdSign
  split
  · exact before.reply c _
  · split
    · exact before.reply c _
    · exact (before.sendFrame w _ _).reply c _

theorem cmdPing {c : Conn} (own : who = some c) : Attends who shown h (cmdPing w c h') := by
  unfold ChassisHost.cmdPing
  refine .either (fun _ => before.reply c _) (fun _ => ?_)
  apply Attends.sendFrame
  exact ⟨before.conns, before.telemetry, before.watchers, before.speedConn,
    fun _ same => .inr (own.trans same), before.otaConn, before.driven⟩

theorem cmdWatch {c : Conn} (own : who = some c) (arg : Text) :
    Attends who shown h (cmdWatch c arg h') := by
  have listed (on : Bool) : ∀ other ∈ (if on then
      (if c ∈ h'.base.watchers then h'.base.watchers else h'.base.watchers ++ [c])
      else h'.base.watchers.filter (· ≠ c)), other ∈ h'.base.watchers ∨ other = c := by
    intro other member
    cases on with
    | true =>
      by_cases watching : c ∈ h'.base.watchers
      · exact .inl (by simpa [watching] using member)
      · simpa [watching] using member
    | false => exact .inl (List.mem_filter.mp member).1
  unfold ChassisHost.cmdWatch
  apply Attends.reply
  refine ⟨before.conns, before.telemetry, fun other member => ?_, before.speedConn,
    before.pingConn, before.otaConn, before.driven⟩
  rcases listed _ other member with watching | rfl
  · exact before.watchers other watching
  · exact .inr own

theorem cmdCon (c : Conn) : Attends who shown h (cmdCon w c h') := by
  unfold ChassisHost.cmdCon
  exact .either (fun _ => before.reply c _) (fun _ => (before.clock w).reply c _)

/-- The upgrade remembers the client that asked for it, and the chassis is stopped. -/
theorem cmdFlash {c : Conn} (own : who = some c) (tok : List Text) :
    Attends who shown h (cmdFlash w c tok h') := by
  unfold ChassisHost.cmdFlash
  refine .either (fun _ => before.reply c _) (fun _ => ?_)
  refine .either (fun _ => before.reply c _) (fun _ => ?_)
  refine .either (fun _ => before.reply c _) (fun _ => ?_)
  refine .either (fun _ => before.reply c _) (fun _ => ?_)
  refine .either (fun _ => before.reply c _) (fun _ => ?_)
  refine .either (fun _ => before.asked.reply c _) (fun _ => ?_)
  apply broadcastAll_attends
  apply Attends.reply
  apply Attends.sendFrame
  apply Attends.sendFrame
  exact ⟨before.conns, before.telemetry, before.watchers,
    fun _ none => (Option.some_ne_none _ none.symm).elim, before.pingConn,
    fun _ same => .inr (own.trans same), fun _ moving => absurd rfl moving⟩

theorem cmdFlashAbort (c : Conn) (tok : List Text) :
    Attends who shown h (cmdFlashAbort w c tok h') := by
  unfold ChassisHost.cmdFlashAbort
  refine .either (fun _ => before.reply c _) (fun _ => ?_)
  refine .either (fun _ => before.reply c _) (fun _ => ?_)
  cases h'.base.ota.otaState with
  | none => exact before.reply c _
  | quiescing | recovering => exact otaFinish_attends before _
  | flashing =>
    refine .either (fun _ => ?_) (fun _ => before.reply c _)
    exact (before.reply c _).onFlasher fun _ =>
      OtaFlasher.killGroup_keeps (flasherEnv_attends w _) (before.reply c _)

theorem shutdown (c : Conn) : Attends who shown h (h'.shutdown c) :=
  before.same rfl rfl rfl rfl rfl rfl

theorem resetConn (c : Conn) : Attends who shown h (h'.onBase (resetConn c)) := by
  simp only [onBase, resetConn_eq]
  refine ⟨before.conns, before.telemetry, before.watchers, before.speedConn, fun other same => ?_,
    fun other same => ?_, before.driven⟩
  · dsimp only at same
    split at same
    · cases same
    · exact before.pingConn other same
  · dsimp only at same
    split at same
    · cases same
    · exact before.otaConn other same

theorem handleCommand {c : Conn} (own : who = some c) (tok : List Text) :
    Attends who shown h (handleCommand w c tok h') := by
  cases tok with
  | nil => exact before
  | cons cmd rest =>
    have noted : Attends who shown h (h'.onBase (·.note (.command c (cmd :: rest)))) :=
      before.note _
    unfold ChassisHost.handleCommand
    refine .either (fun _ => noted.reply c _) (fun _ => ?_)
    refine .either (fun _ => noted.cmdTwist own _) (fun _ => ?_)
    refine .either (fun _ => noted.cmdRpm own _) (fun _ => ?_)
    refine .either (fun _ => noted.cmdStop c) (fun _ => ?_)
    refine .either (fun _ => noted.cmdEnable c _) (fun _ => ?_)
    refine .either (fun _ => noted.cmdPid c _) (fun _ => ?_)
    refine .either (fun _ => noted.cmdSign c _) (fun _ => ?_)
    refine .either (fun _ => noted.cmdPing own) (fun _ => ?_)
    refine .either (fun _ => noted.cmdWatch own _) (fun _ => ?_)
    refine .either (fun _ => noted.asked.reply c _) (fun _ => ?_)
    refine .either (fun _ => noted.cmdCon c) (fun _ => ?_)
    refine .either (fun _ => noted.cmdFlash own _) (fun _ => ?_)
    refine .either (fun _ => noted.reply c _) (fun _ => ?_)
    refine .either (fun _ => noted.cmdFlashAbort c _) (fun _ => ?_)
    refine .either (fun _ => noted.reply c _) (fun _ => ?_)
    exact .either (fun _ => noted.shutdown c) (fun _ => noted.reply c _)

theorem handleLine {c : Conn} (own : who = some c) (text : Text) :
    Attends who shown h (handleLine w c text h') := by
  rw [handleLine_eq]
  exact before.handleCommand own _

/-! ### The upgrade -/

theorem otaBeginFlasher : Attends who shown h (otaBeginFlasher w h') := by
  have dropped : Attends who shown h (prepared w h') := by
    have entered : Attends who shown h (((h'.onBase fun b =>
        { b with ota := { b.ota with otaState := .flashing } }).clock w).2.onBase fun b =>
          { b with ota := { b.ota with otaPhaseStartMs := w.os.steadyMs h'.base.asked } }) :=
      before.same rfl rfl rfl rfl rfl rfl
    exact entered.call w .reset
  have spawned : Base.Attends who shown h.base (startChild w (prepared w h')).2.2 :=
    OtaFlasher.start_keeps (s := ((prepared w h').flasher.getD {}, (prepared w h').base))
      (flasherEnv_attends w h.base) _ () dropped
  rw [otaBeginFlasher_eq]
  unfold launched
  refine .either (fun _ => otaFinish_attends spawned _) (fun _ => ?_)
  exact broadcastAll_attends (otaSendProgress_attends spawned _) _

/-! ### Timers -/

theorem onRepeatTimer : Attends who shown h (onRepeatTimer w h') := by
  unfold ChassisHost.onRepeatTimer
  refine .either (fun _ => before) (fun _ => ?_)
  refine .either (fun _ => before) (fun _ => ?_)
  exact .either (fun _ => before.sendFrame w _ _) (fun _ => before.sendFrame w _ _)

theorem onOdomTimer : Attends who shown h (onOdomTimer w h') := by
  unfold ChassisHost.onOdomTimer
  exact .either (fun _ => before) (fun _ => sendAll_attends before _ _)

theorem onSlowTimer : Attends who shown h (onSlowTimer w h') := by
  unfold ChassisHost.onSlowTimer
  refine .either (fun _ => before) (fun _ => ?_)
  have first := sendToWatchers_if_attends before h'.base.telemetry.haveEnc
  have second line := sendToWatchers_if_attends (first line) h'.base.telemetry.haveImu
  have third line line' := sendToWatchers_if_attends (second line line') h'.base.telemetry.haveTelem
  exact sendAll_attends (third _ _ _) _ _

theorem reconnect (now : Nat) : Attends who shown h (reconnect w now h') := by
  unfold ChassisHost.reconnect
  refine .either (fun _ => ?_) (fun _ => before)
  have tried : Attends who shown h (h'.onBase fun b => { b with lastRetryMs := now }) :=
    before.same rfl rfl rfl rfl rfl rfl
  exact tried.call w (.connect now)

theorem onWatchdogTimer : Attends who shown h (onWatchdogTimer w h') := by
  have opened : Attends who shown h (reopen w (h'.clock w).2) :=
    .either (fun _ => before.clock w) fun _ =>
      SerialPort.openDevice_keeps (s := ((h'.clock w).2.serial, (h'.clock w).2.base))
        (serialEnv_attends w h.base) _ (before.clock w)
  have timed : Attends who shown h (otaTimeouts w (h'.clock w).1 (reopen w (h'.clock w).2)) := by
    unfold otaTimeouts
    refine .either (fun _ => opened.otaBeginFlasher) (fun _ => ?_)
    exact .either (fun _ => otaFinish_attends opened _) (fun _ => opened)
  have checked : Attends who shown h (silenceCheck w (h'.clock w).1
      (otaTimeouts w (h'.clock w).1 (reopen w (h'.clock w).2))) := by
    unfold silenceCheck
    refine .either (fun _ => ?_) (fun _ => timed)
    apply broadcastAll_attends
    exact timed.same rfl rfl rfl rfl rfl rfl
  exact checked.reconnect _

/-! ### Board frames -/

omit before in
/-- New readings, whatever else is shown. -/
theorem shows (before : Attends who shown h h') (news : Telemetry) :
    Attends who news h (h'.onBase fun b => { b with telemetry := news }) :=
  ⟨before.conns, rfl, before.watchers, before.speedConn, before.pingConn, before.otaConn,
    before.driven⟩

theorem onPing (f : Frame) : Attends who shown h (onPing w f h') := by
  unfold ChassisHost.onPing
  split
  · refine .either (fun _ => ?_) (fun _ => before)
    have told := (before.clock w).reply
    refine ⟨(told _ _).conns, (told _ _).telemetry, (told _ _).watchers, (told _ _).speedConn,
      fun _ none => (Option.some_ne_none _ none.symm).elim, (told _ _).otaConn, (told _ _).driven⟩
  · exact before

theorem onStatus (now : Nat) (status : StatusData) :
    Attends who { shown with status } h (onStatus w now status h') := by
  have read : Attends who { shown with status } h
      (h'.onBase fun b => { b with telemetry := { b.telemetry with status } }) := by
    have news := before.shows { h'.base.telemetry with status }
    rw [before.telemetry] at news
    exact ⟨news.conns, by simp [onBase, before.telemetry], news.watchers, news.speedConn,
      news.pingConn, news.otaConn, news.driven⟩
  have healed : Attends who { shown with status } h (healed w now status h') := by
    unfold ChassisHost.healed
    refine .either (fun _ => ?_) (fun _ => read)
    apply Attends.sendFrame
    exact read.same rfl rfl rfl rfl rfl rfl
  rw [onStatus_eq]
  exact .either (fun _ => healed.otaBeginFlasher) (fun _ => healed)

end Attends

/-! ### Acts -/

/-- The readings after a frame. -/
def readings (f : Frame) (t : Telemetry) : Telemetry :=
  if f.type = ptStatus then
    match parseStatus f with
    | some status => { t with status }
    | none => t
  else onReading f t

/-- The client a line came from. -/
def Act.client : Act → Option Conn
  | .line c _ => some c
  | _ => none

/-- What an act makes of the readings. -/
def Act.news : Act → Telemetry → Telemetry
  | .frame f, t => readings f t
  | _, t => t

/-- No connection begins or ends. -/
def Act.stays : Act → Bool
  | .up _ | .down _ => false
  | _ => true

variable {w : World} {h : ChassisHost}

theorem onReading_other {f : Frame} (other : f.type = ptCon ∨ f.type = ptCmdPing) (t : Telemetry) :
    onReading f t = t := by
  unfold onReading
  rcases other with same | same <;> simp [same, ptCon, ptCmdPing, ptEncData, ptImuData, ptTelemetry,
    ptOdomData]

theorem onFrame_attends (who : Option Conn) (f : Frame) :
    Attends who (readings f h.base.telemetry) h (onFrame w f h) := by
  have taken : Attends who h.base.telemetry h (received w h) :=
    ((Attends.refl h).clock w).same rfl rfl rfl rfl rfl rfl
  unfold onFrame readings
  dsimp only
  split
  · cases parseStatus f with
    | none => exact taken
    | some status => exact taken.onStatus _ status
  next notStatus =>
    split
    next con =>
      rw [onReading_other (.inl con)]
      rcases unpackCon f with _ | ⟨sender, msgType⟩
      · exact taken
      · refine .either (fun _ => taken) (fun _ => ?_)
        cases ConMsgType.ofByte msgType with
        | none => exact taken
        | some msgType => exact taken.call w (.onFrame msgType _)
    next =>
      split
      next ping =>
        rw [onReading_other (.inr ping)]
        exact taken.onPing f
      next => exact taken.shows (onReading f h.base.telemetry)

/-- Whatever else it does, an act that neither begins nor ends a connection attends to the
client of its line. -/
theorem act_attends (a : Act) (stays : a.stays = true) :
    Attends a.client (a.news h.base.telemetry) h (act w h a) := by
  have before {who : Option Conn} : Attends who h.base.telemetry h h := .refl h
  have keeps : (flasherEnv w).Keeps (Base.Attends none h.base.telemetry h.base) :=
    flasherEnv_attends w h.base
  cases a with
  | up | down => cases stays
  | buffered c left | parsed bytes => exact before.same rfl rfl rfl rfl rfl rfl
  | line c text => exact before.handleLine rfl text
  | frame f => exact onFrame_attends none f
  | closed reason =>
    exact (SerialPort.closeInLoop_kept (s := (h.serial, h.base)) (serialEnv_attends w h.base)
      reason before).env
  | serialWritable =>
    exact (SerialPort.handleWrite_kept (s := (h.serial, h.base)) (serialEnv_attends w h.base)
      before).env
  | conTick => exact (before.clock w).call w (.tick _)
  | repeatTimer => exact before.onRepeatTimer
  | odomTimer => exact before.onOdomTimer
  | slowTimer => exact before.onSlowTimer
  | watchdogTimer => exact before.onWatchdogTimer
  | childReadable reads =>
    exact before.childEvent _ fun _ => OtaFlasher.onReadable_keeps keeps reads before
  | childHup => exact before.childEvent _ fun _ => OtaFlasher.scheduleDetachPipe_keeps keeps before
  | childDetach => exact before.childEvent _ fun _ => OtaFlasher.detachPipe_keeps keeps before
  | childReap timer => exact before.childEvent _ fun _ => OtaFlasher.reapTimer_keeps keeps timer before
  | childEscalate => exact before.childEvent _ fun _ => OtaFlasher.escalate_keeps keeps before

/-! ### Connections -/

/-- What a connection begins with. -/
def joined (c : Conn) (b : Base) : Base := { b with conns := b.conns ++ [c] }.note (.up c)

theorem onConnectionUp_attends (c : Conn) :
    Attends none h.base.telemetry (h.onBase (joined c)) (onConnectionUp c h) := by
  have before : Attends none h.base.telemetry (h.onBase (joined c)) (h.onBase (joined c)) :=
    .refl (h.onBase (joined c))
  exact (before.reply c _).reply c _

/-- A connection that ends, from the moment it is taken off the lists. -/
theorem onConnectionDown_attends (c : Conn) :
    Attends none h.base.telemetry (h.onBase (left c)) (onConnectionDown w c h) := by
  have gone : Attends none h.base.telemetry (h.onBase (left c)) (h.onBase (left c)) :=
    .refl (h.onBase (left c))
  have stopped : Attends none h.base.telemetry (h.onBase (left c)) (braked w c (h.onBase (left c))) := by
    refine .either (fun _ => ?_) (fun _ => gone)
    apply Attends.sendFrame
    exact gone.halts (fun _ none => (Option.some_ne_none _ none.symm).elim) _ _
  rw [onConnectionDown_eq]
  exact stopped.resetConn c

theorem start_attends (w : World) :
    Base.Attends none ({} : Base).telemetry {} (start w).base :=
  SerialPort.openDevice_keeps (s := (({} : SerialPort), ({} : Base))) (serialEnv_attends w {}) _
    (.refl {})

/-- Connections come and go without a bearing on the readings. -/
theorem act_news (a : Act) : (act w h a).base.telemetry = a.news h.base.telemetry := by
  cases stays : a.stays with
  | true => exact (act_attends a stays).telemetry
  | false =>
    cases a with
    | up c => exact (onConnectionUp_attends c).telemetry
    | down c => exact (onConnectionDown_attends c).telemetry
    | _ => cases stays

end Mhost.App.ChassisHost
