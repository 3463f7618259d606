import Mhost.App.Calm

/-!
# What bears on neither moving nor enabling

The flashing child leaves the speed command and the enable flag alone and adds quiet entries
only, as what is only talk does. So does a frame to the board, apart from the entry of the
frame itself.
-/
namespace Mhost.App
open Library (Text utf8)
open Proto Link Serial Ota

/-- An upgrade may go on or end, but not begin. -/
structure Base.Quiet (b b' : Base) : Prop where
  speed : b'.speed = b.speed
  userDisabled : b'.userDisabled = b.userDisabled
  upgrade : b'.ota.otaState ≠ .none → b.ota.otaState ≠ .none
  journal : ∃ rest, b'.journal = b.journal ++ rest ∧ ∀ e ∈ rest, e.quiet = true

namespace Base.Quiet
variable {b b' b'' : Base}

/-- Members that this file is not about may change at will. -/
theorem same (speed : b'.speed = b.speed) (userDisabled : b'.userDisabled = b.userDisabled)
    (upgrade : b'.ota.otaState ≠ .none → b.ota.otaState ≠ .none)
    (journal : b'.journal = b.journal) : Base.Quiet b b' :=
  ⟨speed, userDisabled, upgrade, [], by simp [journal], by simp⟩

theorem refl (b : Base) : Base.Quiet b b := same rfl rfl id rfl

theorem trans (first : Base.Quiet b b') (second : Base.Quiet b' b'') : Base.Quiet b b'' :=
  ⟨second.speed.trans first.speed, second.userDisabled.trans first.userDisabled,
    fun busy => first.upgrade (second.upgrade busy),
    Library.grown_trans first.journal second.journal⟩

/-- So may they when an entry is added. -/
theorem adding {e : Entry} (quiet : e.quiet = true) (speed : b'.speed = b.speed)
    (userDisabled : b'.userDisabled = b.userDisabled)
    (upgrade : b'.ota.otaState ≠ .none → b.ota.otaState ≠ .none)
    (journal : b'.journal = b.journal ++ [e]) : Base.Quiet b b' :=
  ⟨speed, userDisabled, upgrade, [e], journal, by simpa using quiet⟩

theorem note {e : Entry} (quiet : e.quiet = true) (before : Base.Quiet b b') :
    Base.Quiet b (b'.note e) :=
  before.trans (.adding quiet rfl rfl id rfl)

theorem answered (before : Base.Quiet b b') : Base.Quiet b b'.answered :=
  before.trans (.same rfl rfl id rfl)

/-- Where an upgrade runs, its phase may change. -/
theorem phase (before : Base.Quiet b b') (busy : b.ota.otaState ≠ .none)
    (speed : b''.speed = b'.speed) (userDisabled : b''.userDisabled = b'.userDisabled)
    (journal : b''.journal = b'.journal) : Base.Quiet b b'' :=
  ⟨speed.trans before.speed, userDisabled.trans before.userDisabled, fun _ => busy,
    journal ▸ before.journal⟩

end Base.Quiet

theorem Base.Calm.quiet {b b' : Base} (calm : Base.Calm b b') : Base.Quiet b b' := by
  obtain ⟨rest, grown, all⟩ := calm.journal
  refine ⟨calm.speed, calm.userDisabled, fun busy => calm.phase ▸ busy, rest, grown, ?_⟩
  intro e member
  exact (Bool.and_eq_true_iff.mp (all e member)).1

variable (w : World) {b b' : Base} (before : Base.Quiet b b')

/-! ### The upgrade -/

section
include before

/-- The end of an upgrade keeps the flag that its start has set. -/
theorem otaFinish_quiet (line : Text) : Base.Quiet b (otaFinish line b') :=
  have told := broadcastAll_calm (otaSendProgress_calm (.refl b') line)
    (utf8 "\x7b\"t\":\"ota\",\"state\":\"done\"\x7d")
  (before.trans told.quiet).trans (.same rfl rfl (fun busy => absurd rfl busy) rfl)

theorem otaOnChildExit_quiet (ok : Bool) (exitStatus : Int32) :
    Base.Quiet b (otaOnChildExit w ok exitStatus b') := by
  unfold otaOnChildExit
  split
  · exact before
  next flashing =>
    have busy : b.ota.otaState ≠ .none := by
      refine before.upgrade ?_
      intro none
      exact flashing (by simp [none])
    split
    · dsimp only [steadyMs]
      have told (line : Text) : Base.Quiet b (otaSendProgress line b').answered :=
        before.trans (otaSendProgress_calm (.refl _) line).answered.quiet
      refine Base.Quiet.trans ?_ (broadcastAll_calm (.refl _) _).quiet
      exact (told _).phase busy rfl rfl rfl
    · dsimp only
      split
      · exact otaFinish_quiet before _
      · split <;> exact otaFinish_quiet before _

end

/-! ### The port and the child -/

theorem serialEnv_keeps (b : Base) : (serialEnv w).Keeps (Base.Quiet b) where
  openTty _ before := before.answered
  write _ _ before := before.answered
  stateCb up reason _ before := before.trans (onSerialState_calm (.refl _) up reason).quiet

theorem flasherEnv_keeps (b : Base) : (flasherEnv w).Keeps (Base.Quiet b) where
  spawn argv b' before := by
    simp only [flasherEnv]
    cases w.os.spawn b'.asked with
    | pipeFailed | spawnFailed => exact before.answered
    | started => exact before.answered.note rfl
  signalGroup _ _ _ before := before.answered.note rfl
  groupAlive _ _ before := before.answered
  waitpid _ _ before := before.answered
  waitpidBlocking _ _ before := before.answered
  onLine _ line _ before := before.trans (otaOnChildLine_calm (.refl _) line).quiet
  onExit _ ok exitStatus _ before := otaOnChildExit_quiet w before ok exitStatus

/-! ### Frames to the board -/

/-- The port may close but not open. -/
abbrev Core.Quiet (s s' : Core) : Prop := SerialPort.Kept (Base.Quiet s.2) s s'

theorem Core.Quiet.refl (s : Core) : Core.Quiet s s := ⟨id, .refl s.2⟩

theorem Core.Quiet.of_base {s : Core} {b : Base} (quiet : Base.Quiet s.2 b) :
    Core.Quiet s (s.1, b) := ⟨id, quiet⟩

/-- Past its own entry a frame is quiet, also when the write closes the port. -/
theorem sendFrameToBoard_quiet (type : UInt8) (payload : List UInt8) (s : Core) :
    Core.Quiet (s.1, s.2.note (sentEntry s type payload)) (sendFrameToBoard w type payload s).2 :=
  have sent := sendFrameToBoard_calm w type payload s
  ⟨sent.isOpen, sent.env.quiet⟩

/-- A frame that neither moves nor enables or disables. -/
theorem sendFrameToBoard_harmless (type : UInt8) (payload : List UInt8) (s : Core)
    (harmless : (Entry.frame type payload).quiet = true) :
    Core.Quiet s (sendFrameToBoard w type payload s).2 := by
  have sent := sendFrameToBoard_quiet w type payload s
  have entry : (sentEntry s type payload).quiet = true := by
    unfold sentEntry
    split
    · exact harmless
    · rfl
  exact ⟨sent.isOpen, ((Base.Quiet.refl s.2).note entry).trans sent.env⟩

theorem sendConFrame_quiet (msgType : ConMsgType) (s : Core) :
    Core.Quiet s (sendConFrame w msgType s).2 :=
  sendFrameToBoard_harmless w ptCon _ s rfl

end Mhost.App
