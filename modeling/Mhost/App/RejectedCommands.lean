import Mhost.App.Aside
import Mhost.App.CalmHost

/-!
# Rejected commands

ChassisHost.cc:202-383, 480-529 and 642-668. A command is answered with a line that starts with
`err`, and then the host is as it was and nothing has gone out, or its work is done and nothing
it sends to a client starts so. `stop` alone drops the speed command before it looks at the port.
-/
namespace Mhost.App
open Library (Text utf8 decimal)
open Proto Link Serial Ota

/-! ### Entries -/

/-- A line for a client that starts with `err`. -/
def Entry.isRefusal : Entry → Bool
  | .reply _ text => startsWith text "err"
  | _ => false

/-- A frame on the open port, a child started, a process group signalled. -/
def Entry.isDeed : Entry → Bool
  | .frame _ _ | .child _ | .signal _ _ => true
  | _ => false

/-- The journal has grown by entries that are none of a kind. -/
def Base.GrownWithout (kind : Entry → Bool) (b b' : Base) : Prop :=
  ∃ more, b'.journal = b.journal ++ more ∧ ∀ e ∈ more, kind e = false

namespace Base.GrownWithout
variable {kind : Entry → Bool} {b b' b'' : Base}

theorem same (journal : b'.journal = b.journal) : GrownWithout kind b b' :=
  ⟨[], by simp [journal], by simp⟩

theorem trans (first : GrownWithout kind b b') (second : GrownWithout kind b' b'') :
    GrownWithout kind b b'' :=
  Library.grown_trans first second

theorem adding {e : Entry} (other : kind e = false) (journal : b'.journal = b.journal ++ [e]) :
    GrownWithout kind b b' :=
  ⟨[e], journal, by simpa using other⟩

theorem sendTo (c : Conn) (text : Text) (other : kind (.reply c text) = false)
    (before : GrownWithout kind b b') : GrownWithout kind b (b'.sendTo c text) := by
  apply before.trans
  unfold Base.sendTo
  split
  · exact same rfl
  · exact adding other rfl

end Base.GrownWithout

/-! ### Texts that are no errors -/

/-- The first byte is no `e`. -/
def plain (text : Text) : Bool := text.head?.any (· ≠ 101)

theorem plain_append {text : Text} (begins : plain text = true) (rest : Text) :
    plain (text ++ rest) = true := by
  cases text with
  | nil => cases begins
  | cons c more => exact begins

theorem reply_isRefusal {text : Text} (begins : plain text = true) (c : Conn) :
    (Entry.reply c text).isRefusal = false := by
  cases text with
  | nil => cases begins
  | cons first more =>
    have other : first ≠ 101 := by simpa [plain] using begins
    have letter : utf8 "err" = [101, 114, 114] := by decide
    simp [Entry.isRefusal, startsWith, letter, List.isPrefixOf, Ne.symm other]

/-- No refusal is sent. -/
abbrev Base.Serves (b b' : Base) : Prop := Base.GrownWithout Entry.isRefusal b b'

variable (w : World)

section
variable {b b' : Base} (before : Base.Serves b b')
include before

theorem sendTo_serves (c : Conn) {text : Text} (begins : plain text = true) :
    Base.Serves b (b'.sendTo c text) :=
  before.sendTo c text (reply_isRefusal begins c)

theorem broadcastAll_serves {line : Text} (begins : plain line = true) :
    Base.Serves b (b'.broadcastAll line) := by
  unfold Base.broadcastAll Base.sendAll
  exact List.foldlRecOn (motive := Base.Serves b) _ _ before
    fun _ sent c _ => sendTo_serves sent c (plain_append begins _)

theorem otaFinish_serves {line : Text} (begins : plain line = true) :
    Base.Serves b (otaFinish line b') := by
  have told : Base.Serves b (otaSendProgress line b') := by
    unfold otaSendProgress
    split
    · exact sendTo_serves before _ (plain_append begins _)
    · exact before
  exact (broadcastAll_serves told (by decide)).trans (.same rfl)

end

theorem serialEnv_serves (b : Base) : (serialEnv w).Keeps (Base.Serves b) where
  openTty _ before := before.trans (.same rfl)
  write _ _ before := before.trans (.same rfl)
  stateCb up reason b' before := by
    have noted : Base.Serves b (b'.note (.port up)) := before.trans (.adding rfl rfl)
    have told (flag : String) := @broadcastAll_serves b _ noted
      (utf8 "\x7b\"t\":\"serial\",\"up\":" ++ utf8 flag ++
        utf8 ",\"reason\":\"" ++ reason ++ utf8 "\"\x7d")
      (plain_append (plain_append (plain_append (plain_append (by decide) _) _) _) _)
    show Base.Serves b (onSerialState up reason b')
    unfold onSerialState
    dsimp only
    split
    · exact (told _).trans (.same rfl)
    · exact told _

theorem sendFrameToBoard_serves (type : UInt8) (payload : List UInt8) (s : Core) :
    Base.Serves s.2 (sendFrameToBoard w type payload s).2.2 := by
  unfold sendFrameToBoard
  split
  · have packed : Base.Serves s.2
        ({ s.2 with txSeq := (packFrame type payload (some s.2.txSeq)).2.getD s.2.txSeq }.note
          (.frame type payload)) := .adding rfl rfl
    have sent := SerialPort.send_kept (s := (s.1, _)) (serialEnv_serves w s.2)
      (packFrame type payload (some s.2.txSeq)).1 packed
    exact sent.env.trans (.same rfl)
  · exact .adding rfl rfl

theorem onCommState_serves (comm : CommState) (s : Core) :
    Base.Serves s.2 (onCommState w comm s).2 := by
  have told : Base.Serves s.2 (announced comm s.2) := by
    refine broadcastAll_serves (.adding rfl rfl) ?_
    exact plain_append (plain_append (by decide) _) _
  cases comm with
  | notReady => exact told
  | ready =>
    rw [onCommState_ready]
    have asked : Base.Serves s.2 (stamped w (announced .ready s.2)) := told.trans (.same rfl)
    have sent (payload : List UInt8) := asked.trans
      (sendFrameToBoard_serves w ptCmdEn payload (s.1, stamped w (announced .ready s.2)))
    unfold completed
    split
    · exact otaFinish_serves (sent _) (by decide)
    · exact sent _

theorem conCallbacks_serves (b : Base) :
    (conCallbacks w).Keeps fun _ s => Base.Serves b s.2 where
  send _ _ s before := before.trans (sendFrameToBoard_serves w _ _ s)
  report _ comm s before := before.trans (onCommState_serves w comm s)

/-! ### The host -/

namespace ChassisHost

/-- Apart from the journal and the count of answered questions, the host is as it was: the speed
command, the enable flag, the ping, the watchers, the upgrade, `txSeq_`, the link, the port. -/
def Untouched (h h' : ChassisHost) : Prop :=
  ∃ asked journal, h' = { h with base := { h.base with asked, journal } }

/-- The host is as it was, and nothing has gone out. -/
structure Refused (h h' : ChassisHost) : Prop where
  untouched : Untouched h h'
  idle : Base.GrownWithout Entry.isDeed h.base h'.base

/-- A command that is not refused sends no refusal. -/
inductive Answered (h h' : ChassisHost) : Prop where
  | refused (refused : Refused h h')
  | served (served : Base.Serves h.base h'.base)

variable {w} {h h' h'' : ChassisHost}

theorem Refused.trans (first : Refused h h') (second : Refused h' h'') : Refused h h'' := by
  obtain ⟨⟨asked, journal, rfl⟩, idle⟩ := first
  obtain ⟨⟨asked', journal', rfl⟩, idle'⟩ := second
  exact ⟨⟨asked', journal', rfl⟩, idle.trans idle'⟩

theorem Refused.note {e : Entry} (idle : e.isDeed = false) : Refused h (h.onBase (·.note e)) :=
  ⟨⟨_, _, rfl⟩, .adding idle rfl⟩

theorem Refused.answered : Refused h (h.onBase Base.answered) := ⟨⟨_, _, rfl⟩, .same rfl⟩

theorem Refused.reply (c : Conn) (text : Text) : Refused h (h.reply c text) := by
  refine ⟨?_, .sendTo c text rfl (.same rfl)⟩
  by_cases closed : c ∈ h.base.halfClosed
  · exact ⟨h.base.asked, h.base.journal, by
      simp [ChassisHost.reply, ChassisHost.onBase, Base.sendTo, closed]⟩
  · exact ⟨h.base.asked, h.base.journal ++ [.reply c text], by
      simp [ChassisHost.reply, ChassisHost.onBase, Base.sendTo, closed, Base.note]⟩

/-- A closed port drops the frame. -/
theorem Refused.sendFrame (closed : h.serial.isOpen = false) (type : UInt8)
    (payload : List UInt8) : Refused h (h.sendFrame w type payload).2 := by
  have dropped : (h.sendFrame w type payload).2 = h.onBase (·.note (.dropped type payload)) := by
    simp [ChassisHost.sendFrame, sendFrameToBoard, closed, onCore, ChassisHost.onBase]
  rw [dropped]
  exact .note rfl

namespace Answered

theorem reply (c : Conn) (text : Text) : Answered h (h.reply c text) := .refused (.reply c text)

/-- Before the command does anything. -/
theorem after (idle : Refused h h') (silent : Base.Serves h.base h'.base)
    (answered : Answered h' h'') : Answered h h'' := by
  cases answered with
  | refused refused => exact .refused (idle.trans refused)
  | served served => exact .served (silent.trans served)

theorem either {p : Prop} [Decidable p] {yes no : ChassisHost} (left : p → Answered h yes)
    (right : ¬ p → Answered h no) : Answered h (if p then yes else no) :=
  iteInduction (motive := Answered h) left right

end Answered

/-! ### Commands -/

theorem cmdTwist_answered (c : Conn) (tok : List Text) : Answered h (cmdTwist w c tok h) := by
  unfold cmdTwist
  split
  · exact .reply c _
  · split
    · exact .reply c _
    next v _ =>
      refine .served (sendTo_serves (.adding (e := .twist c (toFloats w.fl v)) rfl rfl) c ?_)
      simp only [List.append_assoc]
      exact plain_append (by decide) _

theorem cmdRpm_answered (c : Conn) (tok : List Text) : Answered h (cmdRpm w c tok h) := by
  unfold cmdRpm
  split
  · exact .reply c _
  · split
    · exact .reply c _
    next v _ =>
      refine .served (sendTo_serves (.adding (e := .rpm c (toFloats w.fl v)) rfl rfl) c ?_)
      simp only [List.append_assoc]
      exact plain_append (by decide) _

/-- A call into the link. -/
theorem call_serves (call : ConSm.Call) (h : ChassisHost) :
    Base.Serves h.base (h.onLink fun s => ConSm.call (conCallbacks w) s call).base :=
  ConSm.call_keeps (s := (h.conSm, h.serial, h.base)) (conCallbacks_serves w h.base) call (.same rfl)

theorem sendFrame_serves (type : UInt8) (payload : List UInt8) (h : ChassisHost) :
    Base.Serves h.base (h.sendFrame w type payload).2.base :=
  sendFrameToBoard_serves w type payload (h.serial, h.base)

theorem cmdEnable_answered (c : Conn) (tok : List Text) : Answered h (cmdEnable w c tok h) := by
  unfold cmdEnable
  refine .either (fun _ => .reply c _) (fun _ => ?_)
  refine .either (fun _ => ?_) (fun _ => ?_)
  · have noted : Base.Serves h.base ((h.clock w).2.onBase fun b =>
        { b with userDisabled := false, lastEnSentMs := (h.clock w).1 }.note
          (.enable c true)).base := .adding (e := .enable c true) rfl rfl
    refine .served (sendTo_serves ?_ c (by decide))
    have sent := noted.trans (sendFrame_serves (w := w) ptCmdEn (packCmdEn true) _)
    split
    · exact sent.trans (call_serves (w := w) (.connect _) _)
    · exact sent
  · have noted : Base.Serves h.base ((h.clock w).2.onBase fun b =>
        { b with userDisabled := true, speed := { b.speed with cmdMode := .none } }.note
          (.enable c false)).base := .adding (e := .enable c false) rfl rfl
    refine .served (sendTo_serves ?_ c (by decide))
    have sent := noted.trans (sendFrame_serves (w := w) ptCmdEn (packCmdEn false) _)
    exact sent.trans (call_serves (w := w) (.disconnect _) _)

/-- A parameter for the board: an error is reported only where the port is closed. -/
theorem board_answered (c : Conn) (type : UInt8) (payload : List UInt8) {sent failed : Text}
    (begins : plain sent = true) :
    Answered h ((h.sendFrame w type payload).2.reply c
      (if (h.sendFrame w type payload).1 then sent else failed)) := by
  cases port : h.serial.isOpen with
  | false => exact .refused ((Refused.sendFrame port type payload).trans (.reply c _))
  | true =>
    refine .served (sendTo_serves (sendFrame_serves type payload h) c ?_)
    have taken : (h.sendFrame w type payload).1 = true := port
    rw [taken]
    exact begins

theorem cmdPid_answered (c : Conn) (tok : List Text) : Answered h (cmdPid w c tok h) := by
  unfold cmdPid
  dsimp only
  split
  · exact .reply c _
  · split
    · exact .reply c _
    · apply board_answered
      simp only [List.append_assoc]
      exact plain_append (by decide) _

theorem cmdSign_answered (c : Conn) (tok : List Text) : Answered h (cmdSign w c tok h) := by
  unfold cmdSign
  split
  · exact .reply c _
  · split
    · exact .reply c _
    · apply board_answered
      simp only [List.append_assoc]
      exact plain_append (by decide) _

theorem cmdPing_answered (c : Conn) : Answered h (cmdPing w c h) := by
  unfold cmdPing
  refine .either (fun _ => .reply c _) (fun _ => .served ?_)
  refine Base.GrownWithout.trans ?_ (sendFrame_serves _ _ _)
  exact .same rfl

theorem cmdWatch_answered (c : Conn) (arg : Text) : Answered h (cmdWatch c arg h) := by
  refine .served (sendTo_serves (.same rfl) c ?_)
  simp only [List.append_assoc]
  exact plain_append (by decide) _

theorem cmdCon_answered (c : Conn) : Answered h (cmdCon w c h) := by
  unfold cmdCon
  refine .either (fun _ => .reply c _) (fun _ => ?_)
  exact .refused (Refused.answered.trans (.reply c _))

theorem cmdFlash_answered (c : Conn) (tok : List Text) : Answered h (cmdFlash w c tok h) := by
  unfold cmdFlash
  refine .either (fun _ => .reply c _) (fun _ => ?_)
  refine .either (fun _ => .reply c _) (fun _ => ?_)
  refine .either (fun _ => .reply c _) (fun _ => ?_)
  refine .either (fun _ => .reply c _) (fun _ => ?_)
  refine .either (fun _ => .reply c _) (fun _ => ?_)
  refine .either (fun _ => ?_) (fun _ => ?_)
  · exact .refused (Refused.answered.trans (.reply c _))
  · refine .served (broadcastAll_serves (sendTo_serves ?_ c ?_) ?_)
    · refine Base.GrownWithout.trans ?_ (sendFrame_serves _ _ _)
      refine Base.GrownWithout.trans ?_ (sendFrame_serves _ _ _)
      exact .adding (e := .flash c (tok.getD 1 [])) rfl rfl
    · simp only [List.append_assoc]
      exact plain_append (by decide) _
    · simp only [List.append_assoc]
      exact plain_append (by decide) _

theorem killGroup_serves (h : ChassisHost) :
    Base.Serves h.base (h.onFlasher (OtaFlasher.killGroup (flasherEnv w))).base := by
  unfold onFlasher
  cases h.flasher with
  | none => exact .same rfl
  | some flasher =>
    simp only [OtaFlasher.killGroup]
    split
    · exact .same rfl
    · split <;> exact .adding (e := .signal .term flasher.pid) rfl rfl

theorem cmdFlashAbort_answered (c : Conn) (tok : List Text) :
    Answered h (cmdFlashAbort w c tok h) := by
  unfold cmdFlashAbort
  split
  · exact .reply c _
  · split
    · exact .reply c _
    · split
      · exact .reply c _
      · exact .served (otaFinish_serves (.same rfl) (by decide))
      · split
        · refine .served (Base.GrownWithout.trans ?_ (killGroup_serves _))
          exact sendTo_serves (.same rfl) c (by decide +kernel)
        · exact .reply c _
      · exact .served (otaFinish_serves (.same rfl) (by decide))

/-- Every command but `stop`. -/
theorem handleCommand_answered (c : Conn) (tok : List Text)
    (notStop : tok.head? ≠ some (utf8 "stop")) : Answered h (handleCommand w c tok h) := by
  cases tok with
  | nil => exact .served (.same rfl)
  | cons cmd rest =>
    have other : cmd ≠ utf8 "stop" := by simpa using notStop
    refine .after (Refused.note (e := .command c (cmd :: rest)) rfl)
      (.adding (e := .command c (cmd :: rest)) rfl rfl) ?_
    refine .either (fun _ => .reply c _) (fun _ => ?_)
    refine .either (fun _ => cmdTwist_answered c _) (fun _ => ?_)
    refine .either (fun _ => cmdRpm_answered c _) (fun _ => ?_)
    refine .either (fun same => absurd same other) (fun _ => ?_)
    refine .either (fun _ => cmdEnable_answered c _) (fun _ => ?_)
    refine .either (fun _ => cmdPid_answered c _) (fun _ => ?_)
    refine .either (fun _ => cmdSign_answered c _) (fun _ => ?_)
    refine .either (fun _ => cmdPing_answered c) (fun _ => ?_)
    refine .either (fun _ => cmdWatch_answered c _) (fun _ => ?_)
    refine .either (fun _ => .refused (Refused.answered.trans (.reply c _))) (fun _ => ?_)
    refine .either (fun _ => cmdCon_answered c) (fun _ => ?_)
    refine .either (fun _ => cmdFlash_answered c _) (fun _ => ?_)
    refine .either (fun _ => .reply c _) (fun _ => ?_)
    refine .either (fun _ => cmdFlashAbort_answered c _) (fun _ => ?_)
    refine .either (fun _ => .reply c _) (fun _ => ?_)
    exact .either (fun _ => .served (.same rfl)) (fun _ => .reply c _)

/-! ### Speed lines -/

theorem parseParams_bad {fl : Floats} {params : List Text}
    (bad : ∃ p ∈ params, parseDouble fl p = none) : ∃ text, parseParams fl params = .error text := by
  induction params with
  | nil => simp at bad
  | cons token rest ih =>
    rw [parseParams]
    cases parsed : parseDouble fl token with
    | none => exact ⟨token, rfl⟩
    | some v =>
      have later : ∃ p ∈ rest, parseDouble fl p = none := by simpa [parsed] using bad
      obtain ⟨text, failed⟩ := ih later
      exact ⟨text, by simp [failed]⟩

/-- A parameter that is no number, wherever it stands. -/
theorem speedLine_refused (c : Conn) {cmd : Text} {params : List Text}
    (line : cmd = utf8 "v" ∨ cmd = utf8 "rpm") (bad : ∃ p ∈ params, parseDouble w.fl p = none) :
    Refused h (handleCommand w c (cmd :: params) h) := by
  obtain ⟨text, failed⟩ := parseParams_bad bad
  refine (Refused.note (e := .command c (cmd :: params)) rfl).trans ?_
  refine iteInduction (motive := Refused _) (fun _ => .reply c _) (fun _ => ?_)
  rcases line with rfl | rfl
  · rw [if_pos rfl, cmdTwist, List.tail_cons, failed]
    exact iteInduction (motive := Refused _) (fun _ => .reply c _) (fun _ => .reply c _)
  · rw [if_neg (by decide), if_pos rfl, cmdRpm, List.tail_cons, failed]
    exact iteInduction (motive := Refused _) (fun _ => .reply c _) (fun _ => .reply c _)

theorem Untouched.speed (same : Untouched h h') : h'.base.speed = h.base.speed := by
  obtain ⟨_, _, rfl⟩ := same
  rfl

/-- A command that is answered with an error has changed nothing and has sent nothing to the
board or to a child; a speed line with a bad parameter leaves the speed command alone. -/
theorem refusal_changes_nothing (w : World) (h : ChassisHost) (c : Conn) (tok : List Text)
    (notStop : tok.head? ≠ some (utf8 "stop")) :
    ∃ entries, (handleCommand w c tok h).base.journal = h.base.journal ++ entries ∧
      ((∃ e ∈ entries, e.isRefusal = true) →
        Untouched h (handleCommand w c tok h) ∧ ∀ e ∈ entries, e.isDeed = false) ∧
      ∀ cmd params, tok = cmd :: params → cmd = utf8 "v" ∨ cmd = utf8 "rpm" →
        (∃ p ∈ params, parseDouble w.fl p = none) →
          (handleCommand w c tok h).base.speed = h.base.speed := by
  have untouched (cmd : Text) (params : List Text) (same : tok = cmd :: params)
      (line : cmd = utf8 "v" ∨ cmd = utf8 "rpm") (bad : ∃ p ∈ params, parseDouble w.fl p = none) :
      (handleCommand w c tok h).base.speed = h.base.speed := by
    rw [same]
    exact (speedLine_refused c line bad).untouched.speed
  cases handleCommand_answered (w := w) (h := h) c tok notStop with
  | refused refused =>
    obtain ⟨entries, grown, idle⟩ := refused.idle
    exact ⟨entries, grown, fun _ => ⟨refused.untouched, idle⟩, untouched⟩
  | served served =>
    obtain ⟨entries, grown, none⟩ := served
    refine ⟨entries, grown, fun ⟨e, member, refusal⟩ => ?_, untouched⟩
    rw [none e member] at refusal
    cases refusal

/-- A world in which `1` is a number and `x` is none. -/
def benchDigit : World :=
  { bench with fl := { bench.fl with
      strtod := fun text => if text = utf8 "1" then (⟨0x3FF0000000000000⟩, 1) else (⟨0⟩, 0) } }

/-- A host that repeats a speed command. -/
def driving : ChassisHost :=
  { base := { conns := [console], speed :=
      { cmdMode := .twist, twist := Vector.replicate 3 ⟨0x3F800000⟩, speedConn := some console } } }

theorem refusal_changes_nothing_twist :
    Untouched driving (handleCommand benchDigit console [utf8 "v", utf8 "1", utf8 "x"] driving) := by
  obtain ⟨entries, grown, unchanged, _⟩ := refusal_changes_nothing benchDigit driving console
    [utf8 "v", utf8 "1", utf8 "x"] (by decide)
  have journal : (handleCommand benchDigit console [utf8 "v", utf8 "1", utf8 "x"]
      driving).base.journal = driving.base.journal ++
        [.command console [utf8 "v", utf8 "1", utf8 "x"],
          .reply console (utf8 "err 参数非法: x\n")] := by decide +kernel
  have same := List.append_cancel_left (grown.symm.trans journal)
  have refused : ∃ e ∈ entries, e.isRefusal = true := by
    rw [same]
    decide +kernel
  exact (unchanged refused).1

end ChassisHost
end Mhost.App
