import Mhost.App.GovernedHost

/-!
# Who may move the robot, and when the motors stay off

Every frame that moves has a standing command behind it, and the loss of the connection
that drives brakes in the same event. `en 0` and `flash` lock the motors until `en 1`, and
an upgrade admits no command that would unlock them.
-/
namespace Mhost.App.ChassisHost
open Library (Text utf8)
open Proto Link Serial Ota

variable {w : World} {informed : Prop} {h : ChassisHost}

/-! ### Losing the connection that drives -/

/-- A frame sent on an open port is in the journal right behind what was there. -/
theorem sendFrame_journal (type : UInt8) (payload : List UInt8) (opened : h.serial.isOpen = true) :
    ∃ rest, (h.sendFrame w type payload).2.base.journal =
      h.base.journal ++ .frame type payload :: rest := by
  have sent := sendFrameToBoard_calm w type payload (h.serial, h.base)
  obtain ⟨rest, grown, _⟩ := sent.env.journal
  refine ⟨rest, grown.trans ?_⟩
  simp [Base.note, sentEntry, opened]

theorem onConnectionDown_brakes (governed : h.Governed w informed) {c : Conn} {d : Drive}
    (standing : Standing c d h.base.journal) (opened : h.serial.isOpen = true) :
    ∃ rest, (onConnectionDown w c h).base.journal = h.base.journal ++ rest ∧
      .frame ptCmdStop [] ∈ rest := by
  have owner : h.base.speed.speedConn = some c :=
    SpeedCommand.drive_owner ((governed.agrees.standing c d).mp standing)
  have taken : onConnectionDown w c h = _ := congrArg (onBase · (resetConn c)) (if_pos owner)
  obtain ⟨later, sent⟩ := sendFrame_journal (w := w) (h := (h.onBase fun b =>
    { b with
      conns := b.conns.filter (· ≠ c), watchers := b.watchers.filter (· ≠ c)
      inputs := b.inputs.filter (·.1 ≠ c) }.note (.down c)).onBase fun b =>
        { b with speed := { b.speed with cmdMode := .none, speedConn := none } })
    ptCmdStop [] opened
  obtain ⟨last, ended, _⟩ := ((Calmly.refl _).resetConn c).core.env.journal
  refine ⟨.down c :: .frame ptCmdStop [] :: (later ++ last), ?_, by simp⟩
  rw [taken]
  apply ended.trans
  rw [sent]
  simp [onBase, Base.note]

/-! ### Commands during an upgrade -/

theorem cleared_eq {speed : SpeedCommand} (idle : speed.cmdMode = .none)
    (unowned : speed.speedConn = none) :
    { speed with cmdMode := .none, speedConn := none } = speed := by
  obtain ⟨mode, twist, rpm, owner⟩ := speed
  subst idle unowned
  rfl

/-- What the busy gate admits is quiet, once the speed command is cleared. -/
theorem handleCommand_busy (busy : h.base.ota.otaState ≠ .none)
    (idle : h.base.speed.cmdMode = .none) (unowned : h.base.speed.speedConn = none) (c : Conn)
    (cmd : Text) (rest : List Text) :
    Quietly (noted c (cmd :: rest) h) (handleCommand w c (cmd :: rest) h) := by
  have quiet := Quietly.refl (noted c (cmd :: rest) h)
  have calm := Calmly.refl (noted c (cmd :: rest) h)
  unfold handleCommand
  refine .either (fun _ => quiet.reply c _) (fun gate => ?_)
  have closed {name : String} (blocked : utf8 name ∉ busyCommands) : cmd ≠ utf8 name :=
    fun same => busy (not_busy gate (same ▸ blocked))
  refine .either (fun v => absurd v (closed (by decide))) (fun _ => ?_)
  refine .either (fun rpm => absurd rpm (closed (by decide))) (fun _ => ?_)
  refine .either (fun _ => ?_) (fun _ => ?_)
  · have cleared : Quietly (noted c (cmd :: rest) h) ((noted c (cmd :: rest) h).onBase fun b =>
        { b with speed := { b.speed with cmdMode := .none, speedConn := none } }) :=
      quiet.onBase (.same (cleared_eq idle unowned) rfl id rfl)
    exact (cleared.sendFrame [] rfl).reply c _
  refine .either (fun en => absurd en (closed (by decide))) (fun _ => ?_)
  refine .either (fun pid => absurd pid (closed (by decide))) (fun _ => ?_)
  refine .either (fun sign => absurd sign (closed (by decide))) (fun _ => ?_)
  refine .either (fun ping => absurd ping (closed (by decide))) (fun _ => ?_)
  refine .either (fun _ => (calm.cmdWatch c _).quietly) (fun _ => ?_)
  refine .either (fun _ => (calm.cmdStat c).quietly) (fun _ => ?_)
  refine .either (fun _ => (calm.cmdCon c).quietly) (fun _ => ?_)
  refine .either (fun flash => absurd flash (closed (by decide))) (fun _ => ?_)
  refine .either (fun _ => (calm.cmdFlashStatus c).quietly) (fun _ => ?_)
  refine .either (fun _ => quiet.cmdFlashAbort c _) (fun _ => ?_)
  refine .either (fun _ => quiet.reply c _) (fun _ => ?_)
  exact .either (fun _ => (calm.shutdown c).quietly) (fun _ => quiet.reply c _)

theorem handleCommand_still (governed : h.Governed w informed) (busy : h.base.ota.otaState ≠ .none)
    (c : Conn) (tok : List Text) :
    (handleCommand w c tok h).base.userDisabled = true ∧
      (handleCommand w c tok h).base.speed.cmdMode = .none ∧
      (handleCommand w c tok h).base.speed.speedConn = none ∧
      ∃ rest, (handleCommand w c tok h).base.journal = h.base.journal ++ rest ∧
        ∀ e ∈ rest, e.isMotion = false ∧ e ≠ enFrame true ∧ e.unlocks = false := by
  obtain ⟨disabled, idle, unowned⟩ := governed.agrees.upgrading busy
  cases tok with
  | nil => exact ⟨disabled, idle, unowned, [], by simp [handleCommand], by simp⟩
  | cons cmd args =>
    have quiet := (handleCommand_busy (w := w) busy idle unowned c cmd args).core.env
    obtain ⟨later, grown, silent⟩ := quiet.journal
    refine ⟨quiet.userDisabled.trans disabled, ?_, ?_, .command c (cmd :: args) :: later, ?_, ?_⟩
    · exact (congrArg SpeedCommand.cmdMode quiet.speed).trans idle
    · exact (congrArg SpeedCommand.speedConn quiet.speed).trans unowned
    · simpa [noted, onBase, Base.note] using grown
    · intro e member
      rcases List.mem_cons.mp member with rfl | later
      · exact ⟨rfl, by simp [enFrame], rfl⟩
      · exact ⟨Entry.quiet_isMotion (silent e later), Entry.quiet_enFrame (silent e later) true,
          Entry.quiet_unlocks (silent e later)⟩

/-! ### Whole runs -/

/-- Every frame that moves repeats an accepted command, with its values, that no other speed
command, `stop`, `en 0`, `flash` or loss of its connection has revoked; the link is ready
and the flag is clear. The command is the line right before its acceptance, and its values are the
floats of the line's parameters. The connection that issued a standing command brakes as it
goes. -/
theorem motion_authorised (w : World) (events : List Event) :
    (∀ past e future, (run w events).base.journal = past ++ e :: future → e.isMotion = true →
      commAt past = .ready ∧ disabledAt past = false ∧
        ∃ c d before between, past = before ++ Drive.accepted c d :: between ∧
          e = d.frame w.fl ∧ (∀ x ∈ between, x.revokes c = false) ∧
          ∃ earlier tok, before = earlier ++ [.command c tok] ∧ d.ReadFrom w.fl tok) ∧
    commAt (run w events).base.journal = (run w events).conSm.comm ∧
    disabledAt (run w events).base.journal = (run w events).base.userDisabled ∧
    ∀ c d before between, (run w events).base.journal = before ++ Drive.accepted c d :: between →
      (∀ x ∈ between, x.revokes c = false) → (run w events).serial.isOpen = true →
      ∃ rest, (handle w (run w events) (.connDown c)).base.journal =
          (run w events).base.journal ++ rest ∧ .frame ptCmdStop [] ∈ rest := by
  have governed := run_governed w events
  refine ⟨?_, governed.agrees.comm_eq, governed.agrees.disabled_eq, ?_⟩
  · intro past e future split moves
    have permitted := governed.agrees.lawful past e future split
    obtain ⟨c, d, frame, before, _, between, grown, rfl, kept⟩ := permitted.authorised moves
    have accepted : Permitted w.fl before (d.accepted c) :=
      governed.agrees.lawful before _ (between ++ e :: future) (by rw [split, grown]; simp)
    exact ⟨permitted.linked moves, permitted.enabled (.inl moves), c, d, before, between, grown,
      frame, kept, accepted.asked c d rfl⟩
  · intro c d before between split kept opened
    exact onConnectionDown_brakes governed ⟨before, _, between, split, rfl, kept⟩ opened

example : (Drive.twist (Vector.replicate 3 ⟨0⟩)).frame bench.fl ∈
    (run bench (linkUp ++ [.message console (utf8 "v 1\n"), .repeatTimer])).base.journal := by
  decide +kernel

/-- Between `en 0` or an accepted `flash` and the next accepted `en 1` nothing goes out that
enables or moves. During an upgrade the flag is set and no speed command is held, also after
any command that is admitted then, and none of these enables or moves. -/
theorem sticky_disable (w : World) (events : List Event) :
    (∀ past e between f future,
      (run w events).base.journal = past ++ e :: (between ++ f :: future) → e.locks = true →
        (∀ x ∈ between, x.unlocks = false) → f.isMotion = false ∧ f ≠ enFrame true) ∧
    ((run w events).base.ota.otaState ≠ .none →
      (run w events).base.userDisabled = true ∧ (run w events).base.speed.cmdMode = .none ∧
        (run w events).base.speed.speedConn = none ∧
        ∀ c tok,
          (handleCommand w c tok (run w events)).base.userDisabled = true ∧
          (handleCommand w c tok (run w events)).base.speed.cmdMode = .none ∧
          (handleCommand w c tok (run w events)).base.speed.speedConn = none ∧
          ∃ rest, (handleCommand w c tok (run w events)).base.journal =
              (run w events).base.journal ++ rest ∧
            ∀ e ∈ rest, e.isMotion = false ∧ e ≠ enFrame true ∧ e.unlocks = false) := by
  have governed := run_governed w events
  constructor
  · intro past e between f future split locks kept
    have permitted : Permitted w.fl (past ++ e :: between) f :=
      governed.agrees.lawful _ f future (by simp [split])
    have locked : Locked (past ++ e :: between) := ⟨past, e, between, rfl, locks, kept⟩
    constructor
    · cases moves : f.isMotion with
      | false => rfl
      | true => exact absurd locked (permitted.unlocked (.inl moves))
    · exact fun enables => permitted.unlocked (.inr enables) locked
  · intro busy
    obtain ⟨disabled, idle, unowned⟩ := governed.agrees.upgrading busy
    exact ⟨disabled, idle, unowned, handleCommand_still governed busy⟩

end Mhost.App.ChassisHost
