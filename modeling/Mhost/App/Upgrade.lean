import Mhost.App.Aside

/-!
# What one act does to an upgrade

The phases of an upgrade (ChassisHost.cc:488-552, 580-622, 642-668, 832-840) change in few
places. Each act goes on beside the upgrade, or makes one of these moves between things that
do.
-/
namespace Mhost.App.ChassisHost
open Library (Text utf8)
open Proto Link Serial Ota

/-! ### Lines as commands -/

/-- The tokens `handleCommand` is called with. -/
def tokensOf (line : Text) : List Text :=
  match trimLine line with
  | [] => []
  | first :: rest => if first = 35 then [] else splitTokens (first :: rest)

theorem handleLine_eq (w : World) (c : Conn) (line : Text) (h : ChassisHost) :
    handleLine w c line h = handleCommand w c (tokensOf line) h := by
  unfold handleLine tokensOf
  cases trimLine line with
  | nil => rfl
  | cons first rest =>
    dsimp only
    split <;> rfl

/-! ### Moves -/

/-- The time `cmdFlash` enters as the start of the upgrade: its second question. -/
def acceptedAt (w : World) (h : ChassisHost) : Nat := w.os.steadyMs (h.base.asked + 1)

/-- `cmdFlash` once nothing speaks against it. -/
def accept (c : Conn) (name : Text) (now : Nat) (b : Base) : Base :=
  { b with
    ota :=
      { otaFile := name, otaConn := some c, otaStage := utf8 "-", otaLastLine := []
        otaCliLineCount := 0, otaState := .quiescing, otaPhaseStartMs := now }
    speed := { b.speed with cmdMode := .none, speedConn := none }
    userDisabled := true }.note (.flash c name)

/-- The board has said that the motors are off, or has had its time to say so. -/
def Confirmed (w : World) (h : ChassisHost) : Act → Prop
  | .frame f => f.type = ptStatus ∧ ∃ status, parseStatus f = some status ∧ status.en = 0
  | .watchdogTimer =>
      elapsed (w.os.steadyMs h.base.asked) h.base.ota.otaPhaseStartMs > w.opts.quiesceTimeoutMs
  | _ => False

/-- The acts of the child. -/
def Act.ofChild : Act → Bool
  | .childReadable _ | .childHup | .childDetach | .childReap _ | .childEscalate => true
  | _ => false

/-- The moves of an upgrade in the act `a`, which began in `h`. -/
inductive Move (w : World) (h : ChassisHost) (a : Act) : ChassisHost → ChassisHost → Prop where
  | accepted {g : ChassisHost} (c : Conn) (text name : Text) (line : a = .line c text)
      (tokens : tokensOf text = [utf8 "flash", name]) (loopback : isLoopbackConn c = true)
      (free : h.base.ota.otaState = .none) (safe : isSafeFirmwareName name = true) :
      Move w h a g (g.onBase (accept c name (acceptedAt w h)))
  | began {g : ChassisHost} (quiescing : g.base.ota.otaState = .quiescing)
      (confirmed : Confirmed w h a) : Move w h a g (otaBeginFlasher w g)
  | ended {g : ChassisHost} (line : Text)
      (phase : g.base.ota.otaState = .quiescing ∨ g.base.ota.otaState = .recovering) :
      Move w h a g (g.onBase (otaFinish line))
  | forced {g : ChassisHost} (c : Conn) (text : Text) (line : a = .line c text)
      (tokens : tokensOf text = [utf8 "flash_abort", utf8 "force"])
      (loopback : isLoopbackConn c = true) (flashing : g.base.ota.otaState = .flashing) :
      Move w h a g (g.onFlasher (OtaFlasher.killGroup (flasherEnv w)))
  | child (kind : a.ofChild = true) : Move w h a h (act w h a)

inductive Turn (w : World) (h : ChassisHost) (a : Act) (h' : ChassisHost) : Prop where
  | aside (only : Aside h h')
  | moved (g g' : ChassisHost) (before : Aside h g) (move : Move w h a g g') (after : Aside g' h')

namespace Turn
variable {w : World} {h h' : ChassisHost} {a : Act}

theorem either {p : Prop} [Decidable p] {yes no : ChassisHost} (left : p → Turn w h a yes)
    (right : ¬ p → Turn w h a no) : Turn w h a (if p then yes else no) :=
  iteInduction (motive := Turn w h a) left right

theorem refl (h : ChassisHost) : Turn w h a h := .aside (.refl h)

theorem thenAside (turn : Turn w h a h') {h'' : ChassisHost} (later : Aside h' h'') :
    Turn w h a h'' := by
  cases turn with
  | aside only => exact .aside (only.trans later)
  | moved g g' before move after => exact .moved g g' before move (after.trans later)

end Turn

variable {w : World} {h : ChassisHost}

/-! ### The two commands of the upgrade -/

theorem cmdFlash_turn {c : Conn} {text : Text} {rest : List Text}
    (tokens : tokensOf text = utf8 "flash" :: rest) :
    Turn w h (.line c text) (cmdFlash w c (utf8 "flash" :: rest)
      (h.onBase (·.note (.command c (utf8 "flash" :: rest))))) := by
  have noted : Aside h (h.onBase (·.note (.command c (utf8 "flash" :: rest)))) :=
    (Aside.refl h).onBase (.note _ rfl)
  unfold cmdFlash
  split
  · exact .aside (noted.reply c _)
  next usage =>
    refine .either (fun _ => .aside (noted.reply c _)) (fun loopback => ?_)
    refine .either (fun _ => .aside (noted.reply c _)) (fun free => ?_)
    refine .either (fun _ => .aside (noted.reply c _)) (fun _ => ?_)
    refine .either (fun _ => .aside (noted.reply c _)) (fun safe => ?_)
    have asked : Aside h ((h.onBase (·.note (.command c (utf8 "flash" :: rest)))).onBase
        Base.answered) := noted.onBase (.same rfl rfl rfl rfl)
    refine .either (fun _ => .aside (asked.reply c _)) (fun _ => ?_)
    obtain ⟨name, rfl⟩ : ∃ name, rest = [name] := by
      simpa [List.length_eq_one_iff] using usage
    have idle : (h.onBase (·.note (.command c [utf8 "flash", name]))).base.ota.otaState = .none := by
      simpa [otaBusy] using free
    refine .moved _ _ (asked.clock w) (.accepted c text name rfl tokens ?_ idle ?_) ?_
    · simpa using loopback
    · simpa using safe
    · refine Aside.onBase (Aside.reply (Aside.sendFrame (Aside.sendFrame ?_ w _ _) w _ _) c _) ?_
      · exact .refl _
      · exact (broadcastAll_calm (.refl _) _).aside

theorem cmdFlashAbort_turn {c : Conn} {text : Text} {rest : List Text}
    (tokens : tokensOf text = utf8 "flash_abort" :: rest) :
    Turn w h (.line c text) (cmdFlashAbort w c (utf8 "flash_abort" :: rest)
      (h.onBase (·.note (.command c (utf8 "flash_abort" :: rest))))) := by
  have noted : Aside h (h.onBase (·.note (.command c (utf8 "flash_abort" :: rest)))) :=
    (Aside.refl h).onBase (.note _ rfl)
  unfold cmdFlashAbort
  refine .either (fun _ => .aside (noted.reply c _)) (fun loopback => ?_)
  refine .either (fun _ => .aside (noted.reply c _)) (fun usage => ?_)
  split
  · exact .aside (noted.reply c _)
  next quiescing => exact .moved _ _ noted (.ended _ (.inl quiescing)) (.refl _)
  next flashing =>
    refine .either (fun force => ?_) (fun _ => .aside (noted.reply c _))
    obtain ⟨word, rfl⟩ : ∃ word, rest = [word] := by
      simpa [List.length_eq_one_iff] using force
    have forced : word = utf8 "force" := by simpa using usage
    subst forced
    have still (line : Text) : ((h.onBase (·.note (.command c
        [utf8 "flash_abort", utf8 "force"]))).reply c line).base.ota.otaState = .flashing :=
      (((Aside.refl _).reply c line).base.stays (by rw [flashing]; decide)).trans flashing
    exact .moved _ _ (noted.reply c _)
      (.forced c text rfl tokens (by simpa using loopback) (still _)) (.refl _)
  next recovering => exact .moved _ _ noted (.ended _ (.inr recovering)) (.refl _)

theorem handleCommand_flash (c : Conn) (rest : List Text) :
    handleCommand w c (utf8 "flash" :: rest) h =
      let h := h.onBase (·.note (.command c (utf8 "flash" :: rest)))
      if h.otaBusy ∧ utf8 "flash" ∉ busyCommands then
        h.reply c (utf8 "err busy: 固件升级进行中（" ++ otaStateName h.base.ota.otaState ++
          utf8 "），flash_status 查看 / flash_abort 取消\n")
      else cmdFlash w c (utf8 "flash" :: rest) h := by
  unfold handleCommand
  simp (disch := decide) only [if_neg, if_pos]

/-- The busy gate lets `flash_abort` through. -/
theorem handleCommand_flashAbort (c : Conn) (rest : List Text) :
    handleCommand w c (utf8 "flash_abort" :: rest) h =
      cmdFlashAbort w c (utf8 "flash_abort" :: rest)
        (h.onBase (·.note (.command c (utf8 "flash_abort" :: rest)))) := by
  unfold handleCommand
  have gate : utf8 "flash_abort" ∈ busyCommands := by decide
  simp (disch := decide) only [gate, not_true_eq_false, and_false, if_neg, if_pos]

theorem line_turn (c : Conn) (text : Text) : Turn w h (.line c text) (handleLine w c text h) := by
  rw [handleLine_eq]
  rcases tokens : tokensOf text with _ | ⟨cmd, rest⟩
  · exact .refl h
  · by_cases flash : cmd = utf8 "flash"
    · subst flash
      rw [handleCommand_flash]
      exact .either (fun _ => .aside (((Aside.refl h).onBase (.note _ rfl)).reply c _))
        (fun _ => cmdFlash_turn tokens)
    · by_cases abort : cmd = utf8 "flash_abort"
      · subst abort
        rw [handleCommand_flashAbort]
        exact cmdFlashAbort_turn tokens
      · exact .aside ((Aside.refl h).handleCommand c cmd rest flash abort)

/-! ### Frames and the watchdog -/

/-- A frame that says the motors are off lets a waiting upgrade go on. -/
theorem frame_turn (f : Frame) : Turn w h (.frame f) (onFrame w f h) := by
  have taken := (Aside.refl h).received w
  unfold onFrame
  dsimp only
  split
  next status =>
    cases parsed : parseStatus f with
    | none => exact .aside taken
    | some status' =>
      have after := taken.healed (w := w) (h.clock w).1 status'
      dsimp only
      rw [onStatus_eq]
      refine .either (fun off => ?_) (fun _ => .aside after)
      exact .moved _ _ after (.began off.1 ⟨status, status', parsed, off.2⟩) (.refl _)
  next =>
    split
    · rcases unpackCon f with _ | ⟨sender, msgType⟩
      · exact .aside taken
      · refine .either (fun _ => .aside taken) (fun _ => ?_)
        cases ConMsgType.ofByte msgType with
        | none => exact .aside taken
        | some msgType => exact .aside (taken.call w (.onFrame msgType _))
    · refine .either (fun _ => .aside (taken.calm ((Calmly.refl _).onPing f))) (fun _ => .aside ?_)
      exact taken.onBase (.same rfl rfl rfl rfl)

/-- The watchdog goes on without the board, or gives a recovery up. -/
theorem watchdog_turn : Turn w h .watchdogTimer (onWatchdogTimer w h) := by
  have opened := ((Aside.refl h).clock w).reopen w
  have later : Turn w h .watchdogTimer (otaTimeouts w (h.clock w).1 (reopen w (h.clock w).2)) := by
    unfold otaTimeouts
    refine .either (fun late => ?_) (fun _ => .either (fun late => ?_) (fun _ => .aside opened))
    · refine .moved _ _ opened (.began late.1 ?_) (.refl _)
      rw [opened.base.phaseStart] at late
      exact late.2
    · exact .moved _ _ opened (.ended _ (.inr late.1)) (.refl _)
  exact later.thenAside (((Aside.refl _).calm ((Calmly.refl _).silenceCheck _)).reconnect _)

/-- What an act does to the upgrade. -/
theorem act_turn (w : World) (h : ChassisHost) (a : Act) : Turn w h a (act w h a) := by
  have only := Aside.refl h
  have calm := Calmly.refl h
  cases a with
  | up c => exact .aside (only.calm (calm.onConnectionUp c))
  | down c => exact .aside (only.onConnectionDown c)
  | buffered c left => exact .aside (.of_base rfl (.same rfl rfl rfl rfl) rfl)
  | line c text => exact line_turn c text
  | parsed bytes => exact .aside (.of_base rfl (.same rfl rfl rfl rfl) rfl)
  | frame f => exact frame_turn f
  | closed reason =>
    have kept := SerialPort.closeInLoop_kept (s := (h.serial, h.base)) (serialEnv_aside w h.base)
      reason (.refl _)
    exact .aside (.of_base rfl kept.env rfl)
  | serialWritable =>
    have kept := SerialPort.handleWrite_kept (s := (h.serial, h.base)) (serialEnv_aside w h.base)
      (.refl _)
    exact .aside (.of_base rfl kept.env rfl)
  | conTick => exact .aside ((only.clock w).call w (.tick _))
  | repeatTimer => exact .aside only.onRepeatTimer
  | odomTimer => exact .aside (only.calm calm.onOdomTimer)
  | slowTimer => exact .aside (only.calm calm.onSlowTimer)
  | watchdogTimer => exact watchdog_turn
  | childReadable | childHup | childDetach | childReap | childEscalate =>
    exact .moved _ _ only (.child rfl) (.refl _)

end Mhost.App.ChassisHost
