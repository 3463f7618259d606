import Mhost.App.Quiet
import Mhost.Link.ConSmCallbacks

/-!
# The host's fields and its journal agree

`Governed` ties what the host remembers to what its journal says. Quiet steps keep it, and
so does every way in which a speed command, the enable flag, the link or a frame to the
motors changes. Whether the board has been told of a disabled flag is kept apart: `informed`
is the assumption under which that part is claimed, and sending the flag restores it.
-/
namespace Mhost.App
open Library (Text utf8)
open Proto Link Serial Ota

/-- The command that the repeat timer would send, and whose it is. -/
def SpeedCommand.drive (speed : SpeedCommand) : Option (Conn × Drive) :=
  match speed.cmdMode, speed.speedConn with
  | .twist, some c => some (c, .twist speed.twist)
  | .rpm, some c => some (c, .rpm speed.rpm)
  | _, _ => none

namespace SpeedCommand

theorem drive_idle {speed : SpeedCommand} (idle : speed.cmdMode = .none) : speed.drive = none := by
  simp [drive, idle]

@[simp] theorem drive_cleared (speed : SpeedCommand) (owner : Option Conn) :
    ({ speed with cmdMode := .none, speedConn := owner } : SpeedCommand).drive = none :=
  drive_idle rfl

theorem drive_owner {speed : SpeedCommand} {c : Conn} {d : Drive}
    (follows : speed.drive = some (c, d)) : speed.speedConn = some c := by
  unfold drive at follows
  split at follows <;> simp_all

end SpeedCommand

@[simp] theorem enFrame_still (en : Bool) : (enFrame en).isMotion = false := rfl

structure Governed (fl : Floats) (informed : Prop) (comm : CommState) (s : Core) : Prop where
  lawful : Lawful fl s.2.journal
  standing : ∀ c d, Standing c d s.2.journal ↔ s.2.speed.drive = some (c, d)
  owned : s.2.speed.cmdMode ≠ .none → s.2.speed.speedConn.isSome = true
  comm_eq : commAt s.2.journal = comm
  disabled_eq : disabledAt s.2.journal = s.2.userDisabled
  locked : Locked s.2.journal → s.2.userDisabled = true
  upgrading : s.2.ota.otaState ≠ .none →
    s.2.userDisabled = true ∧ s.2.speed.cmdMode = .none ∧ s.2.speed.speedConn = none
  told : informed → comm = .ready → s.2.userDisabled = true → s.1.isOpen = true → Told s.2.journal

namespace Governed
variable {fl : Floats} {informed : Prop} {comm : CommState} {s s' : Core}

theorem fresh (fl : Floats) (informed : Prop) : Governed fl informed .notReady ({}, {}) where
  lawful := Library.throughout_nil
  standing c d :=
    ⟨fun wrong => absurd wrong Library.not_since_nil, fun wrong => by simp [SpeedCommand.drive] at wrong⟩
  owned wrong := absurd rfl wrong
  comm_eq := rfl
  disabled_eq := rfl
  locked wrong := absurd wrong Library.not_since_nil
  upgrading wrong := absurd rfl wrong
  told _ wrong := by cases wrong

/-- Less may be assumed. -/
theorem forget (governed : Governed fl informed comm s) : Governed fl False comm s :=
  { governed with told := False.elim }

theorem quiet (governed : Governed fl informed comm s) (quiet : Core.Quiet s s') :
    Governed fl informed comm s' := by
  obtain ⟨rest, grown, silent⟩ := quiet.env.journal
  constructor
  · rw [grown, lawful_append silent]
    exact governed.lawful
  · intro c d
    rw [grown, standing_append silent, quiet.env.speed]
    exact governed.standing c d
  · rw [quiet.env.speed]
    exact governed.owned
  · rw [grown, commAt_append silent]
    exact governed.comm_eq
  · rw [grown, disabledAt_append silent, quiet.env.userDisabled]
    exact governed.disabled_eq
  · rw [grown, locked_append silent, quiet.env.userDisabled]
    exact governed.locked
  · intro busy
    rw [quiet.env.speed, quiet.env.userDisabled]
    exact governed.upgrading (quiet.env.upgrade busy)
  · rw [grown, told_append silent, quiet.env.userDisabled]
    exact fun known up disabled opened => governed.told known up disabled (quiet.isOpen opened)

/-- Opening the port asks whether the board has been told. -/
theorem opened (governed : Governed fl informed comm s) {b : Base} (quiet : Base.Quiet s.2 b)
    (port : SerialPort)
    (told : informed → comm = .ready → s.2.userDisabled = true → port.isOpen = true →
      Told s.2.journal) :
    Governed fl informed comm (port, b) := by
  obtain ⟨rest, grown, silent⟩ := quiet.journal
  refine { governed.quiet (.of_base quiet) with told := ?_ }
  simp only [grown, told_append silent, quiet.userDisabled]
  exact told

/-! ### One entry that is not quiet -/

/-- What the entry says must be what the fields become. -/
theorem step (governed : Governed fl informed comm s) {e : Entry} {b : Base} {informed' : Prop}
    {comm' : CommState} (journal : b.journal = s.2.journal ++ [e])
    (permitted : Permitted fl s.2.journal e)
    (standing : ∀ c d, e = d.accepted c ∨ e.revokes c = false ∧ s.2.speed.drive = some (c, d) ↔
      b.speed.drive = some (c, d))
    (owned : b.speed.cmdMode ≠ .none → b.speed.speedConn.isSome = true)
    (commEq : e.comm?.getD comm = comm')
    (disabledEq : e.disabled?.getD s.2.userDisabled = b.userDisabled)
    (locked : e.locks = true → b.userDisabled = true)
    (unlocked : s.2.userDisabled = true → e.unlocks = false → b.userDisabled = true)
    (upgrading : b.ota.otaState ≠ .none →
      b.userDisabled = true ∧ b.speed.cmdMode = .none ∧ b.speed.speedConn = none)
    (told : informed' → comm' = .ready → b.userDisabled = true → s.1.isOpen = true →
      Told (s.2.journal ++ [e])) :
    Governed fl informed' comm' (s.1, b) := by
  constructor <;> simp only [journal]
  · exact lawful_snoc.mpr ⟨governed.lawful, permitted⟩
  · intro c d
    rw [standing_snoc, governed.standing c d]
    exact standing c d
  · exact owned
  · rw [commAt_snoc, governed.comm_eq, commEq]
  · rw [disabledAt_snoc, governed.disabled_eq, disabledEq]
  · rw [locked_snoc]
    rintro (now | ⟨kept, before⟩)
    · exact locked now
    · exact unlocked (governed.locked before) kept
  · exact upgrading
  · exact told

theorem busy_idle (governed : Governed fl informed comm s) (busy : s.2.ota.otaState ≠ .none) :
    s.2.speed.drive = none :=
  SpeedCommand.drive_idle (governed.upgrading busy).2.1

/-- A new command takes the place of the old one. -/
theorem accepted (governed : Governed fl informed comm s) (free : s.2.ota.otaState = .none)
    {c : Conn} {d : Drive} {speed : SpeedCommand} (follows : speed.drive = some (c, d))
    (owner : speed.speedConn.isSome = true) {before : List Entry} {tok : List Text}
    (asked : s.2.journal = before ++ [.command c tok]) (read : d.ReadFrom fl tok) :
    Governed fl informed comm (s.1, { s.2 with speed }.note (d.accepted c)) := by
  have permitted : Permitted fl s.2.journal (d.accepted c) := by
    constructor
    · intro c' d' same
      obtain ⟨rfl, rfl⟩ := Drive.accepted_inj same
      exact ⟨before, tok, asked, read⟩
    all_goals cases d <;> simp [Drive.accepted, Entry.isMotion, enFrame]
  refine governed.step rfl permitted (fun c' d' => ?_) (fun _ => owner) ?_ ?_ ?_ ?_
    (fun busy => absurd free busy) (fun known up disabled opened => ?_)
  · simp only [Base.note, follows]
    cases d <;> cases d' <;> simp [Drive.accepted, Entry.revokes, eq_comm]
  · cases d <;> rfl
  · cases d <;> rfl
  · cases d <;> simp [Drive.accepted, Entry.locks]
  · exact fun disabled _ => disabled
  · rw [told_snoc]
    refine .inr ⟨?_, governed.told known up disabled opened⟩
    cases d <;> simp [Drive.accepted, Entry.unlocks, enFrame]

/-- `stop` ends every command. -/
theorem stopped (governed : Governed fl informed comm s) (c : Conn) {tok : List Text}
    (stop : isStop tok = true) (still : isDisable tok = false) :
    Governed fl informed comm (s.1, { s.2.note (.command c tok) with
      speed := { s.2.speed with cmdMode := .none, speedConn := none } }) := by
  refine governed.step rfl (.free rfl (by simp [enFrame]) rfl) (fun c' d' => ?_)
    (fun moving => absurd rfl moving) rfl rfl ?_ (fun disabled _ => disabled)
    (fun busy => ⟨(governed.upgrading busy).1, rfl, rfl⟩) (fun known up disabled opened => ?_)
  · simp only [SpeedCommand.drive_cleared]
    cases d' <;> simp [Drive.accepted, Entry.revokes, stop]
  · simp [Entry.locks, still]
  · rw [told_snoc]
    exact .inr ⟨by simp [Entry.unlocks, enFrame], governed.told known up disabled opened⟩

/-- The connection that drives is gone. -/
theorem ownerGone (governed : Governed fl informed comm s) (c : Conn)
    (owner : s.2.speed.speedConn = some c) :
    Governed fl informed comm (s.1, { s.2.note (.down c) with
      speed := { s.2.speed with cmdMode := .none, speedConn := none } }) := by
  refine governed.step rfl (.free rfl (by simp [enFrame]) rfl) (fun c' d' => ?_)
    (fun moving => absurd rfl moving) rfl rfl (by simp [Entry.locks]) (fun disabled _ => disabled)
    (fun busy => ⟨(governed.upgrading busy).1, rfl, rfl⟩) (fun known up disabled opened => ?_)
  · have notMine (away : c ≠ c') : s.2.speed.drive ≠ some (c', d') := fun follows =>
      away (Option.some.inj (owner.symm.trans (SpeedCommand.drive_owner follows)))
    simp only [SpeedCommand.drive_cleared]
    cases d' <;> simpa [Drive.accepted, Entry.revokes] using notMine
  · rw [told_snoc]
    exact .inr ⟨by simp [Entry.unlocks, enFrame], governed.told known up disabled opened⟩

/-- Another connection is gone. -/
theorem otherGone (governed : Governed fl informed comm s) (c : Conn)
    (other : s.2.speed.speedConn ≠ some c) :
    Governed fl informed comm (s.1, s.2.note (.down c)) := by
  refine governed.step rfl (.free rfl (by simp [enFrame]) rfl) (fun c' d' => ?_) governed.owned rfl rfl
    (by simp [Entry.locks]) (fun disabled _ => disabled) governed.upgrading
    (fun known up disabled opened => ?_)
  · have others : s.2.speed.drive = some (c', d') → c ≠ c' := fun follows same =>
      other (same ▸ SpeedCommand.drive_owner follows)
    cases d' <;> simpa [Base.note, Drive.accepted, Entry.revokes] using others
  · rw [told_snoc]
    exact .inr ⟨by simp [Entry.unlocks, enFrame], governed.told known up disabled opened⟩

/-! ### The enable flag -/

/-- `en 0`: the command and its acceptance. -/
theorem disabled (governed : Governed fl informed comm s) (c : Conn) {tok : List Text}
    (off : isDisable tok = true) (asked : Nat) :
    Governed fl False comm (s.1, { { s.2.note (.command c tok) with asked } with
      userDisabled := true, speed := { s.2.speed with cmdMode := .none } }.note
        (.enable c false)) := by
  constructor <;> simp only [Base.note]
  · refine lawful_snoc.mpr ⟨lawful_snoc.mpr ⟨governed.lawful, ?_⟩, ?_⟩ <;>
      exact .free rfl (by simp [enFrame]) rfl
  · intro c' d'
    simp only [SpeedCommand.drive_cleared, standing_snoc]
    cases d' <;> simp [Drive.accepted, Entry.revokes, off]
  · exact fun moving => absurd rfl moving
  · rw [commAt_snoc, commAt_snoc]
    exact governed.comm_eq
  · rw [disabledAt_snoc]
    rfl
  · exact fun _ => trivial
  · exact fun busy => ⟨trivial, trivial, (governed.upgrading busy).2.2⟩
  · exact fun wrong => wrong.elim

/-- `en 0` during an upgrade is refused, and changes nothing: the flag is set already. -/
theorem refused (governed : Governed fl informed comm s) (busy : s.2.ota.otaState ≠ .none)
    (c : Conn) {tok : List Text} (off : isDisable tok = true) :
    Governed fl informed comm (s.1, s.2.note (.command c tok)) := by
  refine governed.step rfl (.free rfl (by simp [enFrame]) rfl) (fun c' d' => ?_) governed.owned rfl rfl
    (fun _ => (governed.upgrading busy).1) (fun disabled _ => disabled) governed.upgrading
    (fun known up disabled opened => ?_)
  · simp only [Base.note, governed.busy_idle busy]
    cases d' <;> simp [Drive.accepted, Entry.revokes, off]
  · rw [told_snoc]
    exact .inr ⟨by simp [Entry.unlocks, enFrame], governed.told known up disabled opened⟩

theorem enabled (governed : Governed fl informed comm s) (free : s.2.ota.otaState = .none)
    (c : Conn) (now : Nat) :
    Governed fl informed comm
      (s.1, { s.2 with userDisabled := false, lastEnSentMs := now }.note (.enable c true)) := by
  refine governed.step rfl (.free rfl (by simp [enFrame]) rfl) (fun c' d' => ?_) governed.owned rfl rfl
    (by simp [Entry.locks]) (fun _ wrong => by simp [Entry.unlocks] at wrong)
    (fun busy => absurd free busy) (fun _ _ wrong => by simp [Base.note] at wrong)
  cases d' <;> simp [Base.note, Drive.accepted, Entry.revokes]

theorem upgradeBegun (governed : Governed fl informed comm s) (c : Conn) (name : Text)
    (ota : OtaTask) :
    Governed fl False comm (s.1, { s.2 with
      ota, speed := { s.2.speed with cmdMode := .none, speedConn := none }
      userDisabled := true }.note (.flash c name)) := by
  refine governed.step rfl (.free rfl (by simp [enFrame]) rfl) (fun c' d' => ?_)
    (fun moving => absurd rfl moving) rfl rfl (fun _ => rfl) (fun _ _ => rfl)
    (fun _ => ⟨rfl, rfl, rfl⟩) (fun wrong => wrong.elim)
  cases d' <;> simp [Base.note, Drive.accepted, Entry.revokes]

/-! ### Frames and the link -/

variable (w : World)

theorem free_to_move (governed : Governed fl informed comm s) (on : s.2.userDisabled = false) :
    disabledAt s.2.journal = false ∧ ¬ Locked s.2.journal :=
  ⟨governed.disabled_eq.trans on,
    fun locked => Bool.noConfusion (on.symm.trans (governed.locked locked))⟩

/-- The flag as it stands goes out: permitted either way, and the board has been told. -/
theorem sendEn (governed : Governed w.fl False comm s) :
    Governed w.fl informed comm
      (sendFrameToBoard w ptCmdEn (packCmdEn (!s.2.userDisabled)) s).2 := by
  refine Governed.quiet ?_ (sendFrameToBoard_quiet w ptCmdEn (packCmdEn (!s.2.userDisabled)) s)
  unfold sentEntry
  split
  · have enabling (on : enFrame (!s.2.userDisabled) = enFrame true) : s.2.userDisabled = false := by
      revert on
      cases s.2.userDisabled <;> simp [enFrame, packCmdEn]
    have permitted : Permitted w.fl s.2.journal (enFrame (!s.2.userDisabled)) := by
      constructor
      · exact fun c d same => absurd same (Drive.accepted_ne rfl c d)
      · exact fun moves => absurd moves (by simp)
      · exact fun moves => absurd moves (by simp)
      · exact fun on => (governed.free_to_move (enabling (by simpa using on))).1
      · exact fun on => (governed.free_to_move (enabling (by simpa using on))).2
    refine governed.step rfl permitted (fun c d => ?_) governed.owned rfl rfl (by simp [Entry.locks])
      (fun disabled _ => disabled) governed.upgrading (fun _ _ disabled _ => ?_)
    · cases d <;> simp [Base.note, Drive.accepted, Entry.revokes]
    · simp only [Base.note] at disabled
      rw [told_snoc]
      exact .inl ⟨by simp [enFrame, disabled], governed.disabled_eq.trans disabled⟩
  next closed =>
    have dropped (payload : List UInt8) : Base.Quiet s.2 (s.2.note (.dropped ptCmdEn payload)) :=
      (Base.Quiet.refl s.2).note rfl
    exact { governed.quiet (.of_base (dropped _)) with
      told := fun _ _ _ opened => absurd opened closed }

/-- The repeat timer sends the standing command. -/
theorem sendDrive (governed : Governed w.fl informed .ready s) (on : s.2.userDisabled = false)
    {type : UInt8} {payload : List UInt8} {c : Conn} {d : Drive}
    (follows : s.2.speed.drive = some (c, d)) (frame : d.frame w.fl = .frame type payload) :
    Governed w.fl informed .ready (sendFrameToBoard w type payload s).2 := by
  refine Governed.quiet ?_ (sendFrameToBoard_quiet w type payload s)
  unfold sentEntry
  split
  · rw [← frame]
    have free := governed.free_to_move on
    have permitted : Permitted w.fl s.2.journal (d.frame w.fl) :=
      ⟨fun c' d' same => absurd same (Drive.accepted_ne (by cases d <;> rfl) c' d'),
        fun _ => ⟨c, d, rfl, (governed.standing c d).mpr follows⟩, fun _ => governed.comm_eq,
        fun _ => free.1, fun _ => free.2⟩
    refine governed.step rfl permitted (fun c' d' => ?_) governed.owned ?_ ?_ ?_
      (fun disabled _ => disabled) governed.upgrading (fun _ _ disabled _ => ?_)
    · cases d <;> cases d' <;> simp [Base.note, Drive.frame, Drive.accepted, Entry.revokes]
    · cases d <;> rfl
    · cases d <;> rfl
    · cases d <;> simp [Drive.frame, Entry.locks]
    · simp [Base.note, on] at disabled
  · exact governed.quiet (.of_base ((Base.Quiet.refl s.2).note rfl))

/-- A report changes `comm_`, and leaves the board to be told. -/
theorem reported {old : CommState} (governed : Governed w.fl informed old s) (comm : CommState) :
    Governed w.fl False comm (s.1, s.2.note (.comm comm)) := by
  refine governed.step rfl (.free rfl (by simp [enFrame]) rfl) (fun c d => ?_) governed.owned rfl rfl
    (by simp [Entry.locks]) (fun disabled _ => disabled) governed.upgrading (fun wrong => wrong.elim)
  cases d <;> simp [Base.note, Drive.accepted, Entry.revokes]

/-- Nothing is claimed of the board while the link is down. -/
theorem down (governed : Governed fl False .notReady s) : Governed fl informed .notReady s :=
  { governed with told := fun _ up => by cases up }

theorem commState {old : CommState} (governed : Governed w.fl informed old s) (comm : CommState) :
    Governed w.fl informed comm (onCommState w comm s) := by
  have heard (line : Text) :
      Governed w.fl False comm (s.1, (s.2.note (.comm comm)).broadcastAll line) :=
    (governed.reported w comm).quiet (.of_base (broadcastAll_calm (.refl _) line).quiet)
  unfold App.onCommState
  dsimp only
  cases comm with
  | notReady => exact (heard _).down
  | ready =>
    rw [if_pos rfl]
    have ready (line : Text) (now : Nat) : Governed w.fl False .ready
        (s.1, { ((s.2.note (.comm .ready)).broadcastAll line).answered with lastEnSentMs := now }) :=
      (heard line).quiet (.of_base ((Base.Quiet.refl _).answered.trans (.same rfl rfl id rfl)))
    split
    · exact ((ready _ _).sendEn w).quiet (.of_base (otaFinish_quiet (.refl _) _))
    · exact (ready _ _).sendEn w

/-- Whatever the link sends or reports, the agreement lasts. -/
theorem conCallbacks_keep : (conCallbacks w).Keeps (Governed w.fl informed) where
  send _ msgType s governed := governed.quiet (sendConFrame_quiet w msgType s)
  report _ comm _ governed := governed.commState w comm

end Governed
end Mhost.App
