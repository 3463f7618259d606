import Mhost.App.HostCommands
import Mhost.Library.History

/-!
# What the journal says about moving and enabling

When a speed command stands, when the motors are locked, whether the board has been told:
each is a property of the journal alone and knows nothing of the host's fields. Quiet
entries bear on none of them.
-/
namespace Mhost.App
open Library (Text utf8 Throughout Since lastWritten)
open Proto Link

/-- A speed command with its values. -/
inductive Drive where
  | twist (v : Vector F32 3)
  | rpm (v : Vector F32 3)
  deriving DecidableEq, Repr

/-- Its acceptance, from the connection `c`. -/
def Drive.accepted (c : Conn) : Drive → Entry
  | .twist v => .twist c v
  | .rpm v => .rpm c v

/-- The line `tok` says so: `v` or `rpm` and one to three numbers, which are its values. -/
def Drive.ReadFrom (fl : Floats) (tok : List Text) (d : Drive) : Prop :=
  ∃ params values, 1 ≤ params.length ∧ params.length ≤ 3 ∧
    ChassisHost.parseParams fl params = .ok values ∧
    (tok = utf8 "v" :: params ∧ d = .twist (ChassisHost.toFloats fl values) ∨
      tok = utf8 "rpm" :: params ∧ d = .rpm (ChassisHost.toFloats fl values))

/-- The frame that repeats it. -/
def Drive.frame (fl : Floats) : Drive → Entry
  | .twist v => .frame ptCmdTwist (packCmdTwist v)
  | .rpm v => .frame ptCmdVel (packCmdVel fl v)

def isStop (tok : List Text) : Bool := tok.head? = some (utf8 "stop")

def isDisable (tok : List Text) : Bool := tok = [utf8 "en", utf8 "0"]

def enFrame (en : Bool) : Entry := .frame ptCmdEn (packCmdEn en)

namespace Entry

/-- What ends the authority of a speed command that came from `c`. -/
def revokes (c : Conn) : Entry → Bool
  | .twist _ _ | .rpm _ _ | .flash _ _ => true
  | .command _ tok => isStop tok || isDisable tok
  | .down gone => gone = c
  | _ => false

/-- `en 0`, accepted or not, and an accepted `flash`. -/
def locks : Entry → Bool
  | .command _ tok => isDisable tok
  | .flash _ _ => true
  | _ => false

/-- An accepted `en 1`. -/
def unlocks : Entry → Bool
  | .enable _ on => on
  | _ => false

def isMotion : Entry → Bool
  | .frame type _ => type = ptCmdTwist || type = ptCmdVel
  | _ => false

/-- The value an entry gives `userDisabled_`. -/
def disabled? : Entry → Option Bool
  | .enable _ on => some (!on)
  | .flash _ _ => some true
  | _ => none

def comm? : Entry → Option CommState
  | .comm state => some state
  | _ => none

def quiet : Entry → Bool
  | .command _ tok => !isStop tok && !isDisable tok
  | .frame type _ => type ≠ ptCmdTwist && type ≠ ptCmdVel && type ≠ ptCmdEn
  | .up _ | .port _ | .dropped _ _ | .reply _ _ | .child _ | .signal _ _ => true
  | .down _ | .twist _ _ | .rpm _ _ | .enable _ _ | .flash _ _ | .comm _ => false

end Entry

/-! ### Properties of a journal -/

/-- The command `d` was accepted from `c`, and nothing has ended its authority. -/
def Standing (c : Conn) (d : Drive) : List Entry → Prop :=
  Since (fun _ e => e = d.accepted c) fun e => e.revokes c = false

/-- `en 0` or `flash` was the last word on the motors. -/
def Locked : List Entry → Prop := Since (fun _ e => e.locks = true) fun e => e.unlocks = false

def disabledAt : List Entry → Bool := lastWritten Entry.disabled? false

def commAt : List Entry → CommState := lastWritten Entry.comm? .notReady

/-- A `CMD_EN(0)` was accepted while the flag was set; since then the flag was not
cleared and no `CMD_EN(1)` was accepted. -/
def Told : List Entry → Prop :=
  Since (fun past e => e = enFrame false ∧ disabledAt past = true)
    fun e => e.unlocks = false ∧ e ≠ enFrame true

/-- What a journal must show before a frame that moves or enables goes out, or a speed command is
accepted. -/
structure Permitted (fl : Floats) (past : List Entry) (e : Entry) : Prop where
  asked : ∀ c d, e = Drive.accepted c d →
    ∃ before tok, past = before ++ [.command c tok] ∧ d.ReadFrom fl tok
  authorised : e.isMotion = true → ∃ c d, e = d.frame fl ∧ Standing c d past
  linked : e.isMotion = true → commAt past = .ready
  enabled : e.isMotion = true ∨ e = enFrame true → disabledAt past = false
  unlocked : e.isMotion = true ∨ e = enFrame true → ¬ Locked past

def Lawful (fl : Floats) : List Entry → Prop := Throughout (Permitted fl)

variable {fl : Floats} {c : Conn} {d : Drive} {journal rest : List Entry} {e : Entry}

/-- Whether an entry accepts a speed command. -/
def Entry.accepts : Entry → Bool
  | .twist _ _ | .rpm _ _ => true
  | _ => false

theorem Drive.accepted_ne (other : e.accepts = false) (c : Conn) (d : Drive) : e ≠ Drive.accepted c d := by
  rintro rfl
  cases d <;> cases other

theorem Drive.accepted_inj {c' : Conn} {d' : Drive} (same : Drive.accepted c d = Drive.accepted c' d') :
    c = c' ∧ d = d' := by
  cases d <;> cases d' <;> cases same <;> exact ⟨rfl, rfl⟩

/-! ### One more entry -/

@[simp] theorem standing_snoc :
    Standing c d (journal ++ [e]) ↔ e = d.accepted c ∨ e.revokes c = false ∧ Standing c d journal :=
  Library.since_snoc

@[simp] theorem locked_snoc :
    Locked (journal ++ [e]) ↔ e.locks = true ∨ e.unlocks = false ∧ Locked journal :=
  Library.since_snoc

@[simp] theorem told_snoc :
    Told (journal ++ [e]) ↔
      (e = enFrame false ∧ disabledAt journal = true) ∨
        (e.unlocks = false ∧ e ≠ enFrame true) ∧ Told journal :=
  Library.since_snoc

@[simp] theorem disabledAt_snoc :
    disabledAt (journal ++ [e]) = e.disabled?.getD (disabledAt journal) :=
  Library.lastWritten_snoc

@[simp] theorem commAt_snoc : commAt (journal ++ [e]) = e.comm?.getD (commAt journal) :=
  Library.lastWritten_snoc

@[simp] theorem lawful_snoc :
    Lawful fl (journal ++ [e]) ↔ Lawful fl journal ∧ Permitted fl journal e :=
  Library.throughout_snoc

theorem Told.frame_mem (told : Told journal) : enFrame false ∈ journal := by
  obtain ⟨past, _, future, rfl, ⟨rfl, _⟩, _⟩ := told
  simp

/-- Nothing is asked of an entry that neither moves, enables nor sets a speed. -/
theorem Permitted.free (still : e.isMotion = false) (off : e ≠ enFrame true)
    (idle : e.accepts = false) : Permitted fl journal e := by
  constructor
  · exact fun c d same => absurd same (Drive.accepted_ne idle c d)
  all_goals simp [still, off]

/-! ### Quiet entries -/

theorem Entry.quiet_revokes (quiet : e.quiet = true) : e.revokes c = false := by
  cases e <;> simp_all [Entry.quiet, Entry.revokes]

theorem Entry.quiet_accepts (quiet : e.quiet = true) : e.accepts = false := by
  cases e <;> simp_all [Entry.quiet, Entry.accepts]

theorem Entry.quiet_locks (quiet : e.quiet = true) : e.locks = false := by
  cases e <;> simp_all [Entry.quiet, Entry.locks]

theorem Entry.quiet_unlocks (quiet : e.quiet = true) : e.unlocks = false := by
  cases e <;> simp_all [Entry.quiet, Entry.unlocks]

theorem Entry.quiet_enFrame (quiet : e.quiet = true) (en : Bool) : e ≠ enFrame en := by
  rintro rfl
  simp [Entry.quiet, enFrame] at quiet

theorem Entry.quiet_isMotion (quiet : e.quiet = true) : e.isMotion = false := by
  cases e <;> simp_all [Entry.quiet, Entry.isMotion]

theorem Entry.quiet_disabled? (quiet : e.quiet = true) : e.disabled? = none := by
  cases e <;> simp_all [Entry.quiet, Entry.disabled?]

theorem Entry.quiet_comm? (quiet : e.quiet = true) : e.comm? = none := by
  cases e <;> simp_all [Entry.quiet, Entry.comm?]

section
variable (quiet : ∀ e ∈ rest, e.quiet = true)
include quiet

theorem standing_append : Standing c d (journal ++ rest) ↔ Standing c d journal :=
  Library.since_append fun e member =>
    ⟨Entry.quiet_revokes (quiet e member),
      fun _ => Drive.accepted_ne (Entry.quiet_accepts (quiet e member)) c d⟩

theorem locked_append : Locked (journal ++ rest) ↔ Locked journal :=
  Library.since_append fun e member =>
    ⟨Entry.quiet_unlocks (quiet e member), by simp [Entry.quiet_locks (quiet e member)]⟩

theorem told_append : Told (journal ++ rest) ↔ Told journal :=
  Library.since_append fun e member =>
    ⟨⟨Entry.quiet_unlocks (quiet e member), Entry.quiet_enFrame (quiet e member) true⟩,
      fun _ started => Entry.quiet_enFrame (quiet e member) false started.1⟩

theorem disabledAt_append : disabledAt (journal ++ rest) = disabledAt journal :=
  Library.lastWritten_append fun e member => Entry.quiet_disabled? (quiet e member)

theorem commAt_append : commAt (journal ++ rest) = commAt journal :=
  Library.lastWritten_append fun e member => Entry.quiet_comm? (quiet e member)

theorem lawful_append : Lawful fl (journal ++ rest) ↔ Lawful fl journal :=
  Library.throughout_append fun e member _ =>
    .free (Entry.quiet_isMotion (quiet e member)) (Entry.quiet_enFrame (quiet e member) true)
      (Entry.quiet_accepts (quiet e member))

end

end Mhost.App
