import Mhost.App.RejectedCommands
import Mhost.Proto.PayloadRoundtrip

/-!
# Set-points that are numbers

ChassisHost.cc:253-295, 334-348 and 888-895. `parseDouble` accepts whatever `strtod` converts, so
`nan`, `inf` and numbers past the range of a float are registered like any other and repeated to
the motors. What a line brings are the floats it registers for the repeat or sends in `CMD_PID`.
-/
namespace Mhost.Proto

/-- Neither an infinity nor a NaN. -/
def F32.Finite (x : F32) : Prop := x.bits &&& 0x7F800000 ≠ 0x7F800000

instance (x : F32) : Decidable x.Finite := inferInstanceAs (Decidable (_ ≠ _))

/-- No NaN, and no further from zero than the largest finite float. -/
def F64.InRange (v : F64) : Prop := v.bits &&& 0x7FFFFFFFFFFFFFFF ≤ 0x47EFFFFFE0000000

instance (v : F64) : Decidable v.InRange := inferInstanceAs (Decidable (_ ≤ _))

/-- `static_cast<float>` of a double in the range of a float is finite. -/
def Floats.Narrows (fl : Floats) : Prop := ∀ v : F64, v.InRange → (fl.narrow v).Finite

end Mhost.Proto

namespace Mhost.App
open Library (Text utf8 decimal)
open Proto Link Serial Ota

/-! ### Set-points in the journal -/

/-- The floats an accepted line registers, and those of a `CMD_PID` frame. -/
def Entry.setPoints : Entry → List F32
  | .twist _ v | .rpm _ v => v.toList
  | .frame type payload =>
      if type = ptCmdPid then [getF32 payload 0, getF32 payload 4, getF32 payload 8] else []
  | _ => []

/-- What the timer repeats. -/
def SpeedCommand.repeated (s : SpeedCommand) : List F32 :=
  match s.cmdMode with
  | .none => []
  | .twist => s.twist.toList
  | .rpm => s.rpm.toList

/-- The journal has grown by entries that carry these set-points. -/
def Base.Brings (points : List F32) (b b' : Base) : Prop :=
  ∃ more, b'.journal = b.journal ++ more ∧ more.flatMap Entry.setPoints = points

namespace Base.Brings
variable {points others : List F32} {b b' b'' : Base}

theorem trans (first : Base.Brings points b b') (second : Base.Brings others b' b'') :
    Base.Brings (points ++ others) b b'' := by
  obtain ⟨more, grown, brought⟩ := first
  obtain ⟨later, grown', brought'⟩ := second
  refine ⟨more ++ later, by rw [grown', grown, List.append_assoc], ?_⟩
  rw [List.flatMap_append, brought, brought']

/-- Nothing new is brought later. -/
theorem idle (first : Base.Brings points b b') (second : Base.Brings [] b' b'') :
    Base.Brings points b b'' := by
  simpa using first.trans second

theorem same (journal : b'.journal = b.journal) : Base.Brings [] b b' := ⟨[], by simp [journal], rfl⟩

theorem note (b : Base) (e : Entry) : Base.Brings e.setPoints b (b.note e) :=
  ⟨[e], rfl, List.flatMap_singleton _ _⟩

theorem sendTo (b : Base) (c : Conn) (text : Text) : Base.Brings [] b (b.sendTo c text) := by
  unfold Base.sendTo
  split
  · exact same rfl
  · exact note b (.reply c text)

theorem broadcastAll (b : Base) (line : Text) : Base.Brings [] b (b.broadcastAll line) := by
  unfold Base.broadcastAll Base.sendAll
  exact List.foldlRecOn (motive := Base.Brings [] b) _ _ (same rfl)
    fun _ sent c _ => sent.idle (sendTo _ c _)

theorem onSerialState (up : Bool) (reason : Text) (b : Base) :
    Base.Brings [] b (onSerialState up reason b) := by
  have told (line : Text) : Base.Brings [] b ((b.note (.port up)).broadcastAll line) :=
    (note b (.port up)).idle (broadcastAll _ line)
  unfold App.onSerialState
  dsimp only
  split
  · exact (told _).idle (same rfl)
  · exact told _

theorem serialEnv (w : World) (b : Base) : (serialEnv w).Keeps (Base.Brings points b) where
  openTty _ before := before.idle (same rfl)
  write _ _ before := before.idle (same rfl)
  stateCb up reason _ before := before.idle (onSerialState up reason _)

/-- A frame brings its own set-points, whatever becomes of the port. -/
theorem sendFrameToBoard (w : World) (type : UInt8) (payload : List UInt8) {s : Core}
    (opened : s.1.isOpen = true) :
    Base.Brings (Entry.frame type payload).setPoints s.2 (sendFrameToBoard w type payload s).2.2 := by
  unfold App.sendFrameToBoard
  rw [if_pos opened]
  have packed : Base.Brings (Entry.frame type payload).setPoints s.2
      ({ s.2 with txSeq := (packFrame type payload (some s.2.txSeq)).2.getD s.2.txSeq }.note
        (.frame type payload)) := ⟨[.frame type payload], rfl, List.flatMap_singleton _ _⟩
  have sent := SerialPort.send_kept (s := (s.1, _)) (serialEnv w s.2)
    (packFrame type payload (some s.2.txSeq)).1 packed
  exact sent.env.idle (same rfl)

end Base.Brings

theorem setPoints_pid (kp ki kd : F32) :
    (Entry.frame ptCmdPid (packCmdPid kp ki kd)).setPoints = [kp, ki, kd] := by
  have first : getF32 (packCmdPid kp ki kd) 0 = kp := by
    rw [getF32, packCmdPid, List.append_assoc, putF32, getU32_putU32]
  have second : getF32 (packCmdPid kp ki kd) 4 = ki := by
    rw [getF32, packCmdPid, List.append_assoc]
    exact congrArg F32.mk ((getU32_append (putF32 kp) _ 0).trans (getU32_putU32 ki.bits _))
  have third : getF32 (packCmdPid kp ki kd) 8 = kd := by
    have last := getU32_putU32 kd.bits []
    rw [List.append_nil] at last
    exact congrArg F32.mk ((getU32_append (putF32 kp ++ putF32 ki) (putF32 kd) 0).trans last)
  rw [Entry.setPoints, if_pos rfl, first, second, third]

/-! ### Lines that set something -/

namespace ChassisHost

/-- The three commands with set-points. -/
inductive Setter where
  | v | rpm | pid
  deriving DecidableEq, Repr

namespace Setter

def name : Setter → Text
  | .v => utf8 "v"
  | .rpm => utf8 "rpm"
  | .pid => utf8 "pid"

/-- How many parameters it takes. -/
def takes : Setter → Nat → Bool
  | .pid, n => n = 3
  | _, n => 1 ≤ n ∧ n ≤ 3

/-- The handler. -/
def handler (w : World) : Setter → Conn → List Text → ChassisHost → ChassisHost
  | .v => cmdTwist w
  | .rpm => cmdRpm w
  | .pid => cmdPid w

end Setter

/-- The line passes every check the handler makes: no upgrade is under way, the number of
parameters is right, each is a number, and `pid` finds the port open. -/
structure Passes (w : World) (k : Setter) (params : List Text) (h : ChassisHost) : Prop where
  free : h.otaBusy = false
  count : k.takes params.length = true
  numbers : ∀ p ∈ params, parseDouble w.fl p ≠ none
  port : k = .pid → h.serial.isOpen = true

/-- An `err` line goes to the client, unless its own `quit` has shut the connection down; nothing
is registered or sent. -/
structure TurnedDown (c : Conn) (h h' : ChassisHost) : Prop where
  speed : h'.base.speed = h.base.speed
  brings : Base.Brings [] h.base h'.base
  answered : c ∉ h.base.halfClosed → ∃ text more, startsWith text "err" = true ∧
    h'.base.journal = h.base.journal ++ more ∧ .reply c text ∈ more

variable {w : World} {h h' : ChassisHost}

/-! ### Refusals -/

theorem startsWith_append {head : String} {text : Text} (begins : startsWith text head = true)
    (rest : Text) : startsWith (text ++ rest) head = true :=
  List.isPrefixOf_iff_prefix.mpr
    ((List.isPrefixOf_iff_prefix.mp begins).trans (List.prefix_append text rest))

theorem reply_speed (h : ChassisHost) (c : Conn) (text : Text) :
    (h.reply c text).base.speed = h.base.speed := by
  simp only [ChassisHost.reply, onBase, Base.sendTo]
  split <;> rfl

/-- An answer that begins with `err`, from a host that has done nothing. -/
theorem TurnedDown.reply (c : Conn) {text : Text} (begins : startsWith text "err" = true)
    (speed : h'.base.speed = h.base.speed) (halfClosed : h'.base.halfClosed = h.base.halfClosed)
    (brings : Base.Brings [] h.base h'.base) : TurnedDown c h (h'.reply c text) := by
  refine ⟨(reply_speed h' c text).trans speed, brings.idle (.sendTo h'.base c text), fun opened => ?_⟩
  obtain ⟨more, grown, _⟩ := brings
  have answered : (h'.reply c text).base.journal = h'.base.journal ++ [.reply c text] := by
    simp [ChassisHost.reply, onBase, Base.sendTo, Base.note, halfClosed, opened]
  exact ⟨text, more ++ [.reply c text], begins, by rw [answered, grown, List.append_assoc], by simp⟩

/-- The values of the parameters, as far as they are numbers. -/
theorem parseParams_values {fl : Floats} {params : List Text} {values : List F64}
    (parsed : parseParams fl params = .ok values) :
    List.Forall₂ (fun p v => parseDouble fl p = some v) params values := by
  induction params generalizing values with
  | nil =>
    cases parsed
    exact .nil
  | cons token rest ih =>
    rw [parseParams] at parsed
    cases first : parseDouble fl token with
    | none => simp [first] at parsed
    | some v =>
      rw [first] at parsed
      dsimp only at parsed
      cases later : parseParams fl rest with
      | error bad => simp [later] at parsed
      | ok more =>
        rw [later] at parsed
        cases parsed
        exact .cons first (ih later)

theorem parseParams_error {fl : Floats} {params : List Text} {bad : Text}
    (failed : parseParams fl params = .error bad) : ∃ p ∈ params, parseDouble fl p = none := by
  induction params with
  | nil => cases failed
  | cons token rest ih =>
    rw [parseParams] at failed
    cases first : parseDouble fl token with
    | none => exact ⟨token, List.mem_cons_self, first⟩
    | some v =>
      rw [first] at failed
      dsimp only at failed
      cases later : parseParams fl rest with
      | error other =>
        simp only [later, Except.error.injEq] at failed
        obtain ⟨p, member, none⟩ := ih (later.trans (congrArg Except.error failed))
        exact ⟨p, List.mem_cons_of_mem token member, none⟩
      | ok more => simp [later] at failed

/-- `handleCommand` has noted the line. -/
def entered (c : Conn) (tok : List Text) (h : ChassisHost) : ChassisHost :=
  h.onBase (·.note (.command c tok))

/-- None of the three passes the busy gate, and each finds its handler. -/
theorem handleCommand_setter (k : Setter) (c : Conn) (params : List Text) :
    handleCommand w c (k.name :: params) h =
      if h.otaBusy then
        (entered c (k.name :: params) h).reply c (utf8 "err busy: 固件升级进行中（" ++
          otaStateName h.base.ota.otaState ++ utf8 "），flash_status 查看 / flash_abort 取消\n")
      else k.handler w c (k.name :: params) (entered c (k.name :: params) h) := by
  have gate : k.name ∉ busyCommands := by cases k <;> decide
  unfold handleCommand
  dsimp only
  by_cases busy : h.otaBusy = true
  · rw [if_pos busy]
    exact if_pos ⟨busy, gate⟩
  · rw [if_neg busy]
    refine (if_neg fun both => busy both.1).trans ?_
    cases k with
    | v => exact if_pos rfl
    | rpm => exact (if_neg (by decide)).trans (if_pos rfl)
    | pid =>
      refine (if_neg (by decide)).trans ((if_neg (by decide)).trans ((if_neg (by decide)).trans ?_))
      exact (if_neg (by decide)).trans (if_pos rfl)

theorem numbers_of_values {fl : Floats} {params : List Text} {values : List F64}
    (parsed : List.Forall₂ (fun p v => parseDouble fl p = some v) params values) :
    ∀ p ∈ params, parseDouble fl p ≠ none := by
  induction parsed with
  | nil => simp
  | cons first _ ih =>
    intro p member
    rcases List.mem_cons.mp member with rfl | later
    · simp [first]
    · exact ih p later

/-- `v` and `rpm` take one to three parameters. -/
theorem takes_iff {k : Setter} (motion : k ≠ .pid) (params : List Text) :
    k.takes params.length = true ↔
      ¬ ((k.name :: params).length < 2 ∨ (k.name :: params).length > 4) := by
  cases k with
  | v | rpm =>
    simp only [Setter.takes, decide_eq_true_eq, List.length_cons]
    omega
  | pid => exact absurd rfl motion

/-- The checks of `v` and `rpm`, which differ in their usage line and in what they accept. -/
theorem motion_turnedDown {c : Conn} (k : Setter) (params : List Text) (motion : k ≠ .pid) (usage : Text)
    (begins : startsWith usage "err" = true) (accept : List F64 → ChassisHost)
    (refused : ∀ {text : Text}, startsWith text "err" = true →
      TurnedDown c h ((entered c (k.name :: params) h).reply c text))
    (free : h.otaBusy = false) (fails : ¬ Passes w k params h) :
    TurnedDown c h
      (if (k.name :: params).length < 2 ∨ (k.name :: params).length > 4 then
        (entered c (k.name :: params) h).reply c usage
      else
        match parseParams w.fl (k.name :: params).tail with
        | .error bad => (entered c (k.name :: params) h).reply c (utf8 "err 参数非法: " ++ bad ++ utf8 "\n")
        | .ok values => accept values) := by
  refine iteInduction (motive := TurnedDown c h) (fun _ => refused begins) (fun counted => ?_)
  rw [List.tail_cons]
  cases parsed : parseParams w.fl params with
  | error bad => exact refused (startsWith_append (startsWith_append (by decide) _) _)
  | ok values =>
    exact absurd ⟨free, (takes_iff motion params).mpr counted,
      numbers_of_values (parseParams_values parsed), fun other => absurd other motion⟩ fails

/-- A line that fails a check is turned down. -/
theorem turnedDown (k : Setter) (c : Conn) (params : List Text)
    (fails : ¬ Passes w k params h) : TurnedDown c h (handleCommand w c (k.name :: params) h) := by
  have idle : Base.Brings [] h.base (entered c (k.name :: params) h).base :=
    .note h.base (.command c (k.name :: params))
  have refused {text : Text} (begins : startsWith text "err" = true) :
      TurnedDown c h ((entered c (k.name :: params) h).reply c text) := .reply c begins rfl rfl idle
  rw [handleCommand_setter]
  refine iteInduction (motive := TurnedDown c h) (fun _ => ?_) (fun busy => ?_)
  · exact refused (startsWith_append (startsWith_append (by decide) _) _)
  · have free : h.otaBusy = false := Bool.eq_false_iff.mpr busy
    have checked (usage : Text) (begins : startsWith usage "err" = true)
        (accept : List F64 → ChassisHost) (motion : k ≠ .pid) := motion_turnedDown
      (c := c) k params motion usage begins accept refused free fails
    cases k with
    | v => exact checked _ (by decide) _ (by decide)
    | rpm => exact checked _ (by decide) _ (by decide)
    | pid =>
      unfold Setter.handler cmdPid
      dsimp only
      refine iteInduction (motive := TurnedDown c h) (fun _ => refused (by decide)) (fun counted => ?_)
      cases parsed : parseParams w.fl params with
      | error bad =>
        simp only [List.tail_cons, parsed]
        exact refused (by decide)
      | ok values =>
        cases port : h.serial.isOpen with
        | true =>
          refine absurd ⟨free, ?_, numbers_of_values (parseParams_values parsed), fun _ => port⟩ fails
          simp only [List.length_cons] at counted
          simp only [Setter.takes, decide_eq_true_eq]
          omega
        | false =>
          -- the frame is dropped
          have dropped (payload : List UInt8) :
              ((entered c (Setter.pid.name :: params) h).sendFrame w ptCmdPid payload) =
                (false, (entered c (Setter.pid.name :: params) h).onBase
                  (·.note (.dropped ptCmdPid payload))) := by
            simp [sendFrame, sendFrameToBoard, entered, onBase, onCore, port]
          simp only [List.tail_cons, parsed, dropped, Bool.false_eq_true, if_false]
          exact .reply c (by decide) rfl rfl (idle.idle (.note _ (.dropped _ _)))

/-! ### Accepted lines -/

theorem toFloats_points (fl : Floats) (values : List F64) :
    (toFloats fl values).toList =
      [fl.narrow (values.getD 0 ⟨0⟩), fl.narrow (values.getD 1 ⟨0⟩), fl.narrow (values.getD 2 ⟨0⟩)] := by
  simp [toFloats, Vector.toList_ofFn]

theorem values_of_numbers {fl : Floats} {params : List Text}
    (numbers : ∀ p ∈ params, parseDouble fl p ≠ none) :
    ∃ values, parseParams fl params = .ok values := by
  cases parsed : parseParams fl params with
  | ok values => exact ⟨values, rfl⟩
  | error bad =>
    obtain ⟨p, member, none⟩ := parseParams_error parsed
    exact absurd none (numbers p member)

/-- A line that passes brings its three floats, and if it changes the speed command these are what
is repeated. -/
theorem passed (k : Setter) (c : Conn) (params : List Text) (passes : Passes w k params h) :
    ∃ values, List.Forall₂ (fun p v => parseDouble w.fl p = some v) params values ∧
      Base.Brings (toFloats w.fl values).toList h.base
        (handleCommand w c (k.name :: params) h).base ∧
      ((handleCommand w c (k.name :: params) h).base.speed ≠ h.base.speed →
        (handleCommand w c (k.name :: params) h).base.speed.repeated =
          (toFloats w.fl values).toList) := by
  obtain ⟨values, parsed⟩ := values_of_numbers passes.numbers
  refine ⟨values, parseParams_values parsed, ?_⟩
  have count := passes.count
  rw [handleCommand_setter, if_neg (by simp [passes.free])]
  cases k with
  | v =>
    have counted := (takes_iff (by decide) params).mp count
    rw [Setter.handler, cmdTwist, if_neg counted, List.tail_cons, parsed]
    dsimp only
    rw [reply_speed]
    refine ⟨Base.Brings.idle ⟨[.command c (Setter.v.name :: params), .twist c (toFloats w.fl values)],
      ?_, ?_⟩ (.sendTo _ c _), fun _ => rfl⟩
    · simp [entered, onBase, Base.note]
    · simp [Entry.setPoints]
  | rpm =>
    have counted := (takes_iff (by decide) params).mp count
    rw [Setter.handler, cmdRpm, if_neg counted, List.tail_cons, parsed]
    dsimp only
    rw [reply_speed]
    refine ⟨Base.Brings.idle ⟨[.command c (Setter.rpm.name :: params), .rpm c (toFloats w.fl values)],
      ?_, ?_⟩ (.sendTo _ c _), fun _ => rfl⟩
    · simp [entered, onBase, Base.note]
    · simp [Entry.setPoints]
  | pid =>
    simp only [Setter.takes, decide_eq_true_eq] at count
    have counted : ¬ (Setter.pid.name :: params).length ≠ 4 := by
      simp only [List.length_cons]
      omega
    have same := ((Calmly.refl (entered c (Setter.pid.name :: params) h)).cmdPid (w := w) c
      (Setter.pid.name :: params)).core.env.speed
    refine ⟨?_, fun changed => absurd same changed⟩
    have gains : [(toFloats w.fl values)[0], (toFloats w.fl values)[1], (toFloats w.fl values)[2]] =
        (toFloats w.fl values).toList := by
      rw [toFloats_points]
      simp [toFloats]
    rw [Setter.handler, cmdPid]
    dsimp only
    rw [if_neg counted, List.tail_cons, parsed, ← gains, ← setPoints_pid]
    have sent := Base.Brings.sendFrameToBoard w ptCmdPid (packCmdPid (toFloats w.fl values)[0]
      (toFloats w.fl values)[1] (toFloats w.fl values)[2])
      (s := (h.serial, (entered c (Setter.pid.name :: params) h).base)) (passes.port rfl)
    exact ((Base.Brings.note h.base (.command c (Setter.pid.name :: params))).trans sent).idle
      (.sendTo _ c _)

/-! ### What a line may bring -/

theorem Brings_unique {points others : List F32} {b b' : Base} (first : Base.Brings points b b')
    (second : Base.Brings others b b') : points = others := by
  obtain ⟨more, grown, rfl⟩ := first
  obtain ⟨more', grown', rfl⟩ := second
  rw [List.append_cancel_left (grown.symm.trans grown')]

/-- Every float that a line registers or sends is finite, and a parameter that is a NaN, an infinity
or past the range of a float has the line turned down. -/
structure OnlyFinite (w : World) (k : Setter) (c : Conn) (params : List Text) (h : ChassisHost) :
    Prop where
  brought : ∀ points, Base.Brings points h.base (handleCommand w c (k.name :: params) h).base →
    ∀ x ∈ points, x.Finite
  repeated : (handleCommand w c (k.name :: params) h).base.speed ≠ h.base.speed →
    ∀ x ∈ (handleCommand w c (k.name :: params) h).base.speed.repeated, x.Finite
  rejected : (∃ p ∈ params, ∃ v, parseDouble w.fl p = some v ∧ ¬ v.InRange) →
    TurnedDown c h (handleCommand w c (k.name :: params) h)

/-- Values in the range of a float make finite floats, and so does the zero of a parameter that is
not there. -/
theorem toFloats_finite {fl : Floats} (narrows : fl.Narrows) {values : List F64}
    (inRange : ∀ v ∈ values, v.InRange) : ∀ x ∈ (toFloats fl values).toList, x.Finite := by
  have each (i : Nat) : (fl.narrow (values.getD i ⟨0⟩)).Finite := by
    apply narrows
    rw [List.getD_eq_getElem?_getD]
    cases found : values[i]? with
    | none => exact (by decide : F64.InRange ⟨0⟩)
    | some v => exact inRange v (List.mem_of_getElem? found)
  intro x member
  rw [toFloats_points] at member
  simp only [List.mem_cons, List.not_mem_nil, or_false] at member
  rcases member with rfl | rfl | rfl
  · exact each 0
  · exact each 1
  · exact each 2

theorem values_inRange {fl : Floats} {params : List Text} {values : List F64}
    (parsed : List.Forall₂ (fun p v => parseDouble fl p = some v) params values)
    (inRange : ∀ p ∈ params, ∀ v, parseDouble fl p = some v → v.InRange) :
    ∀ v ∈ values, v.InRange := by
  induction parsed with
  | nil => simp
  | cons first _ ih =>
    intro v member
    rcases List.mem_cons.mp member with rfl | later
    · exact inRange _ List.mem_cons_self _ first
    · exact ih (fun p inside => inRange p (List.mem_cons_of_mem _ inside)) v later

/-- Where a conversion within range gives a finite float, a line keeps to finite set-points exactly
if it is turned down for another reason or all its values are within the range of a float. -/
theorem finite_setpoints_iff (w : World) (narrows : w.fl.Narrows) (k : Setter) (c : Conn)
    (params : List Text) (h : ChassisHost) :
    OnlyFinite w k c params h ↔
      (Passes w k params h → ∀ p ∈ params, ∀ v, parseDouble w.fl p = some v → v.InRange) := by
  constructor
  · intro only passes p member v parsed
    refine Classical.byContradiction fun outside => ?_
    obtain ⟨values, _, brought, _⟩ := passed k c params passes
    have nothing := (only.rejected ⟨p, member, v, parsed, outside⟩).brings
    have empty := Brings_unique brought nothing
    rw [toFloats_points] at empty
    cases empty
  · intro inRange
    by_cases passes : Passes w k params h
    · obtain ⟨values, parsed, brought, changed⟩ := passed k c params passes
      have finite := toFloats_finite narrows (values_inRange parsed (inRange passes))
      refine ⟨fun points brings => ?_, fun differs => ?_, fun ⟨p, member, v, parsed, outside⟩ => ?_⟩
      · rw [Brings_unique brings brought]
        exact finite
      · rw [changed differs]
        exact finite
      · exact absurd (inRange passes p member v parsed) outside
    · have down := turnedDown k c params passes
      refine ⟨fun points brings => ?_, fun differs => absurd down.speed differs, fun _ => down⟩
      rw [Brings_unique brings down.brings]
      simp

/-- A world with two numbers: `1`, and `nan`, which is none. -/
def benchNumbers : World :=
  { bench with fl := { bench.fl with
      strtod := fun text =>
        if text = utf8 "1" then (⟨0x3FF0000000000000⟩, 1)
        else if text = utf8 "nan" then (⟨0x7FF8000000000000⟩, 3) else (⟨0⟩, 0)
      narrow := fun v =>
        if v = ⟨0x3FF0000000000000⟩ then ⟨0x3F800000⟩
        else if v.InRange then ⟨0⟩ else ⟨0x7FC00000⟩ } }

theorem finite_setpoints_one :
    OnlyFinite benchNumbers .v console [utf8 "1"] (run benchNumbers [.connUp console]) := by
  have narrows : benchNumbers.fl.Narrows := by
    intro v inRange
    change F32.Finite (if v = ⟨0x3FF0000000000000⟩ then ⟨0x3F800000⟩
      else if v.InRange then ⟨0⟩ else ⟨0x7FC00000⟩)
    split
    · decide
    · decide
  refine (finite_setpoints_iff benchNumbers narrows .v console [utf8 "1"] _).mpr fun _ => ?_
  intro p member v parsed
  rw [List.mem_singleton.mp member, show parseDouble benchNumbers.fl (utf8 "1") =
    some ⟨0x3FF0000000000000⟩ by decide] at parsed
  cases parsed
  decide

/-- `v nan` is accepted and replaces the speed command. -/
theorem nan_is_registered :
    ¬ OnlyFinite benchNumbers .v console [utf8 "nan"] (run benchNumbers [.connUp console]) := by
  intro only
  have down := only.rejected ⟨utf8 "nan", List.mem_cons_self, ⟨0x7FF8000000000000⟩, by decide, by decide⟩
  exact absurd down.speed (by decide +kernel)

end ChassisHost
end Mhost.App
