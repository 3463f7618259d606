import Mhost.Library.History
import Mhost.Tools.Simulator

/-!
# Runs of the simulated board

mock_board.cc:123-345. Bytes of the host and beats come in any order, at any times. What
the motors are told, whether the driver is on and when the motors are told to rest is a property of
the frames handled so far, with the clock readings at which they were handled.
-/
namespace Mhost.Tools.Simulator
open Proto Library

/-- What the main loop does with the board. -/
inductive Doing where
  | feed (clock : Nat → F64) (data : List UInt8)
  | pump (now : F64)

variable (ar : Arith)

namespace MockBoard

/-- A beat as far as the telemetry, which tells of what it leaves. -/
def beaten (now : F64) (b : MockBoard) : MockBoard :=
  (((b.commandTimeout ar now).conWatchdog ar now).advance ar (ar.sub64 now b.lastTx)).counted now

/-- Nothing is told within 20 ms of the last beat. -/
def beat? (now : F64) (b : MockBoard) : List MockBoard :=
  if tooSoon ar (ar.sub64 now b.lastTx) then [] else [b.beaten ar now]

theorem beat_cases (now : F64) (b : MockBoard) : b.beat? ar now = [] ∨ b.beat? ar now = [b.beaten ar now] := by
  unfold beat?
  split
  · exact .inl rfl
  · exact .inr rfl

variable {ar} in
theorem pump_early {now : F64} {b : MockBoard} (early : tooSoon ar (ar.sub64 now b.lastTx) = true) :
    b.pump ar now = ([], b) := if_pos early

variable {ar} in
theorem pump_late {now : F64} {b : MockBoard} (late : ¬ tooSoon ar (ar.sub64 now b.lastTx) = true) :
    b.pump ar now = ((b.beaten ar now).telemetry ar).flush := if_neg late

end MockBoard

/-- The board, what it has handed out to be written, what it has handled, and the states that its
telemetry told of. -/
structure Rig where
  board : MockBoard := {}
  written : List UInt8 := []
  handled : List (F64 × Frame) := []
  beats : List MockBoard := []

namespace Rig

/-- The board takes one frame. -/
def take (r : Rig) (e : F64 × Frame) : Rig :=
  { r with board := r.board.handle ar e.1 e.2, handled := r.handled ++ [e] }

def stamped (clock : Nat → F64) (frames : List Frame) : List (F64 × Frame) :=
  frames.zipIdx.map fun fi => (clock fi.2, fi.1)

def doing (r : Rig) : Doing → Rig
  | .feed clock data =>
      { r with
        board := r.board.feed ar clock data
        handled := r.handled ++ stamped clock (r.board.parser.feed data).2 }
  | .pump now =>
      { r with
        board := (r.board.pump ar now).2
        written := r.written ++ (r.board.pump ar now).1
        beats := r.beats ++ r.board.beat? ar now }

def run (doings : List Doing) : Rig := doings.foldl (doing ar) {}

/-! ### Frames one after another -/

theorem foldl_take (r : Rig) (entries : List (F64 × Frame)) :
    entries.foldl (take ar) r =
      { r with
        board := entries.foldl (fun b e => b.handle ar e.1 e.2) r.board
        handled := r.handled ++ entries } := by
  induction entries generalizing r with
  | nil => simp
  | cons e rest ih =>
    simp only [List.foldl_cons, ih]
    simp [take]

/-- A feed is the parser's part, and then one frame after another. -/
theorem doing_feed (r : Rig) (clock : Nat → F64) (data : List UInt8) :
    r.doing ar (.feed clock data) =
      (stamped clock (r.board.parser.feed data).2).foldl (take ar)
        { r with board := { r.board with parser := (r.board.parser.feed data).1 } } := by
  rw [foldl_take]
  simp only [doing, MockBoard.feed, stamped, List.foldl_map]

/-- The induction of a run: the parser, one frame, one beat. -/
theorem doings_keep {motive : Rig → Prop}
    (parsed : ∀ r parser, motive r → motive { r with board := { r.board with parser } })
    (taken : ∀ r e, motive r → motive (r.take ar e))
    (pumped : ∀ r now, motive r → motive (r.doing ar (.pump now))) {r : Rig} (before : motive r)
    (doings : List Doing) : motive (doings.foldl (doing ar) r) := by
  refine List.foldlRecOn (motive := motive) doings _ before fun r kept d _ => ?_
  cases d with
  | pump now => exact pumped r now kept
  | feed clock data =>
    rw [doing_feed]
    exact List.foldlRecOn (motive := motive) _ _ (parsed r _ kept) fun r kept e _ => taken r e kept

end Rig

/-! ### What a frame can do -/

/-- A CMD_VEL or CMD_TWIST of the right length. -/
def IsMotion (f : Frame) : Prop :=
  (f.type = ptCmdVel ∧ f.len = 6) ∨ (f.type = ptCmdTwist ∧ f.len = 12)

/-- A CMD_EN of the right length, and what it says. -/
def enabling? (f : Frame) : Option Bool :=
  if f.type = ptCmdEn ∧ f.len = 1 then some (f.payload.toList.getD 0 0 = 1) else none

/-- CMD_STOP, or a CMD_EN that disables. -/
def Brakes (f : Frame) : Prop := f.type = ptCmdStop ∨ enabling? f = some false

instance (f : Frame) : Decidable (IsMotion f) := inferInstanceAs (Decidable (_ ∨ _))

instance (f : Frame) : Decidable (Brakes f) := inferInstanceAs (Decidable (_ ∨ _))

def targetsOf (f : Frame) : Vector F32 3 :=
  if f.type = ptCmdVel then MockBoard.velTargets ar f else MockBoard.twistTargets ar f

/-- The outcomes of `handle`. -/
inductive Handles (now : F64) (f : Frame) (b : MockBoard) : MockBoard → Prop where
  | drives (moves : IsMotion f) : Handles now f b (b.drive ar (targetsOf ar f) now)
  | stops (stop : f.type = ptCmdStop) :
      Handles now f b { b with mode := 0, motors := b.motors.map MotorSim.brake }
  | enables (on : enabling? f = some true) : Handles now f b { b with driverEn := true }
  | disables (off : enabling? f = some false) :
      Handles now f b
        { b with driverEn := false, mode := 0, motors := b.motors.map MotorSim.rest }
  | tunes (kp ki : F32) (pid : f.type = ptCmdPid) :
      Handles now f b { b with kp, ki, motors := b.motors.map fun m => { m with kp, ki } }
  | echoes (ping : f.type = ptCmdPing) : Handles now f b (b.send ptCmdPing f.bytes)
  | answers (con : f.type = ptCon) : Handles now f b (b.handleCon now f)
  | ignores (still : ¬ IsMotion f) (loose : ¬ Brakes f) (same : enabling? f = none)
      (ping : f.type ≠ ptCmdPing) (con : f.type ≠ ptCon) : Handles now f b b

theorem not_motion {f : Frame} (vel : f.type = ptCmdVel → f.len ≠ 6)
    (twist : f.type = ptCmdTwist → f.len ≠ 12) : ¬ IsMotion f := by
  rintro (⟨type, len⟩ | ⟨type, len⟩)
  · exact vel type len
  · exact twist type len

theorem enabling_none {f : Frame} (other : f.type = ptCmdEn → f.len ≠ 1) : enabling? f = none := by
  unfold enabling?
  split
  next en => exact absurd en.2 (other en.1)
  next => rfl

/-- A frame that the board leaves alone, by its type and length. -/
theorem ignored {f : Frame} (now : F64) (b : MockBoard) (vel : f.type = ptCmdVel → f.len ≠ 6)
    (twist : f.type = ptCmdTwist → f.len ≠ 12) (stop : f.type ≠ ptCmdStop)
    (en : f.type = ptCmdEn → f.len ≠ 1) (ping : f.type ≠ ptCmdPing) (con : f.type ≠ ptCon) :
    Handles ar now f b b := by
  have same := enabling_none en
  refine .ignores (not_motion vel twist) ?_ same ping con
  rintro (type | off)
  · exact stop type
  · simp [same] at off

theorem handle_cases (now : F64) (f : Frame) (b : MockBoard) :
    Handles ar now f b (b.handle ar now f) := by
  unfold MockBoard.handle
  split
  next vel =>
    split
    next long =>
      exact ignored ar now b (fun _ => long) (by simp [vel, ptCmdVel, ptCmdTwist])
        (by simp [vel, ptCmdVel, ptCmdStop]) (by simp [vel, ptCmdVel, ptCmdEn])
        (by simp [vel, ptCmdVel, ptCmdPing]) (by simp [vel, ptCmdVel, ptCon])
    next six =>
      have moves : IsMotion f := .inl ⟨vel, not_not.mp six⟩
      have targets : targetsOf ar f = MockBoard.velTargets ar f := if_pos vel
      exact targets ▸ .drives moves
  next notVel =>
  split
  next stop => exact .stops stop
  next notStop =>
  split
  next en =>
    split
    next long =>
      exact ignored ar now b (fun vel => absurd vel notVel) (by simp [en, ptCmdEn, ptCmdTwist])
        notStop (fun _ => long) (by simp [en, ptCmdEn, ptCmdPing]) (by simp [en, ptCmdEn, ptCon])
    next one =>
      have value : enabling? f = some (decide (f.payload.toList.getD 0 0 = 1)) :=
        if_pos ⟨en, not_not.mp one⟩
      split
      next on => exact .enables (value.trans (congrArg some (decide_eq_true on)))
      next off => exact .disables (value.trans (congrArg some (decide_eq_false off)))
  next notEn =>
  split
  next pid =>
    split
    next =>
      exact ignored ar now b (fun vel => absurd vel notVel) (by simp [pid, ptCmdPid, ptCmdTwist])
        notStop (fun en => absurd en notEn) (by simp [pid, ptCmdPid, ptCmdPing])
        (by simp [pid, ptCmdPid, ptCon])
    next => exact .tunes _ _ pid
  next notPid =>
  split
  next sign =>
    exact ignored ar now b (fun vel => absurd vel notVel) (by simp [sign, ptCmdSign, ptCmdTwist])
      notStop (fun en => absurd en notEn) (by simp [sign, ptCmdSign, ptCmdPing])
      (by simp [sign, ptCmdSign, ptCon])
  next =>
  split
  next ping => exact .echoes ping
  next notPing =>
  split
  next twist =>
    split
    next long =>
      exact ignored ar now b (fun vel => absurd vel notVel) (fun _ => long) notStop
        (fun en => absurd en notEn) notPing (by simp [twist, ptCmdTwist, ptCon])
    next twelve =>
      have moves : IsMotion f := .inr ⟨twist, not_not.mp twelve⟩
      have targets : targetsOf ar f = MockBoard.twistTargets ar f := if_neg notVel
      exact targets ▸ .drives moves
  next notTwist =>
  split
  next con => exact .answers con
  next notCon =>
    exact ignored ar now b (fun vel => absurd vel notVel) (fun twist => absurd twist notTwist)
      notStop (fun en => absurd en notEn) notPing notCon

/-! ### Orders to the motors -/

namespace MockBoard

def targets (b : MockBoard) : Vector F32 3 := b.motors.map (·.target)

/-- What commands and timeouts change. -/
def orders (b : MockBoard) : Vector F32 3 × Nat × F64 × Bool :=
  (b.targets, b.mode, b.lastCmd, b.driverEn)

theorem getElem_targets (b : MockBoard) (i : Nat) (inside : i < 3) :
    b.targets[i] = b.motors[i].target := by
  simp [targets]

theorem orders_sendEnc (b : MockBoard) : (b.sendEnc ar).orders = b.orders := rfl

theorem orders_sendImu (b : MockBoard) : (b.sendImu ar).orders = b.orders := rfl

theorem orders_sendOdom (b : MockBoard) : (b.sendOdom ar).orders = b.orders := rfl

theorem orders_sendStatus (b : MockBoard) : b.sendStatus.orders = b.orders := by
  unfold sendStatus
  split <;> rfl

theorem orders_conWatchdog (now : F64) (b : MockBoard) :
    (b.conWatchdog ar now).orders = b.orders := by
  unfold conWatchdog
  split <;> rfl

theorem orders_handleCon (now : F64) (f : Frame) (b : MockBoard) :
    (b.handleCon now f).orders = b.orders := by
  unfold handleCon
  split
  · rfl
  · split
    · rfl
    · split
      · rfl
      · split
        · rfl
        · split <;> rfl

theorem repeat_keeps {α β : Type} {f : α → α} {view : α → β} (same : ∀ a, view (f a) = view a)
    (n : Nat) (a : α) : view (Nat.repeat f n a) = view a := by
  induction n with
  | zero => rfl
  | succ n ih => exact (same _).trans ih

theorem targets_tick (dt : F32) (motors : Vector MotorSim 3) :
    (motors.map (MotorSim.tick ar dt)).map (·.target) = motors.map (·.target) := by
  simp [MotorSim.tick, Function.comp_def]

theorem orders_advance (dt : F64) (b : MockBoard) :
    (b.advance ar dt).orders = b.orders := by
  have kept := repeat_keeps (targets_tick ar (share ar dt)) (steps ar dt).toNat b.motors
  unfold orders targets advance
  rw [kept]

theorem orders_counted (now : F64) (b : MockBoard) : (b.counted now).orders = b.orders := rfl

theorem orders_telemetry (b : MockBoard) : (b.telemetry ar).orders = b.orders := by
  rw [telemetry, orders_sendStatus, orders_sendOdom, orders_sendImu, orders_sendEnc]

/-- A beat changes no more of the orders than the timeout of the speed command does. -/
theorem orders_pump (now : F64) (b : MockBoard) :
    (b.pump ar now).2.orders =
      if tooSoon ar (ar.sub64 now b.lastTx) then b.orders else (b.commandTimeout ar now).orders := by
  have flushed (b' : MockBoard) : b'.flush.2.orders = b'.orders := rfl
  rw [pump]
  by_cases early : tooSoon ar (ar.sub64 now b.lastTx) = true
  · rw [if_pos early, if_pos early]
  · rw [if_neg early, if_neg early, flushed, orders_telemetry, orders_counted, orders_advance,
      orders_conWatchdog]

end MockBoard

/-! ### Who rules the motors -/

/-- The latest speed command, unless a brake came after it. -/
def ruling : List (F64 × Frame) → Option (F64 × Frame) :=
  lastWritten
    (fun e => if IsMotion e.2 then some (some e) else if Brakes e.2 then some none else none) none

def driverOn : List (F64 × Frame) → Bool := lastWritten (fun e => enabling? e.2) false

theorem ruling_snoc (entries : List (F64 × Frame)) (e : F64 × Frame) :
    ruling (entries ++ [e]) =
      if IsMotion e.2 then some e else if Brakes e.2 then none else ruling entries := by
  rw [ruling, lastWritten_snoc]
  by_cases moves : IsMotion e.2
  · rw [if_pos moves, if_pos moves, Option.getD_some]
  · rw [if_neg moves, if_neg moves]
    by_cases brakes : Brakes e.2
    · rw [if_pos brakes, if_pos brakes, Option.getD_some]
    · rw [if_neg brakes, if_neg brakes, Option.getD_none]

theorem driverOn_snoc (entries : List (F64 × Frame)) (e : F64 × Frame) :
    driverOn (entries ++ [e]) = (enabling? e.2).getD (driverOn entries) := lastWritten_snoc

/-- Targets, mode and driver as the frames handled so far have left them; a target may have
been dropped since. -/
structure Obeys (r : Rig) : Prop where
  targets : ∀ i (inside : i < 3), r.board.targets[i] = zero ∨
    ∃ e, ruling r.handled = some e ∧
      r.board.targets[i] =
        clamp ar MotorSim.kMinTarget MotorSim.kMaxTarget (targetsOf ar e.2)[i]
  mode : r.board.mode = if (ruling r.handled).isSome then 1 else 0
  stamp : ∀ e, ruling r.handled = some e → r.board.lastCmd = e.1
  driverEn : r.board.driverEn = driverOn r.handled

theorem orders_eq {b b' : MockBoard} (same : b'.orders = b.orders) :
    b'.targets = b.targets ∧ b'.mode = b.mode ∧ b'.lastCmd = b.lastCmd ∧
      b'.driverEn = b.driverEn := by
  simpa [MockBoard.orders] using same

/-- Frames of the other kinds neither move, brake nor enable. -/
theorem inert_of_type {f : Frame} (vel : f.type ≠ ptCmdVel) (twist : f.type ≠ ptCmdTwist)
    (stop : f.type ≠ ptCmdStop) (en : f.type ≠ ptCmdEn) :
    ¬ IsMotion f ∧ ¬ Brakes f ∧ enabling? f = none := by
  have same := enabling_none fun type => absurd type en
  exact ⟨not_motion (fun type => absurd type vel) (fun type => absurd type twist),
    by simp [Brakes, stop, same], same⟩

theorem motion_type {f : Frame} (moves : IsMotion f) :
    f.type ≠ ptCmdStop ∧ f.type ≠ ptCmdEn ∧ f.type ≠ ptCmdPing ∧ f.type ≠ ptCon := by
  rcases moves with ⟨type, _⟩ | ⟨type, _⟩ <;> rw [type] <;> decide

theorem enabling_type {f : Frame} {on : Bool} (en : enabling? f = some on) : f.type = ptCmdEn := by
  unfold enabling? at en
  split at en
  next value => exact value.1
  next => cases en

theorem enabling_still {f : Frame} {on : Bool} (en : enabling? f = some on) : ¬ IsMotion f :=
  fun moves => (motion_type moves).2.1 (enabling_type en)

namespace Obeys
variable {ar} {r r' : Rig}

theorem fresh : Obeys ar {} where
  targets i inside := .inl (by simp [MockBoard.targets])
  mode := rfl
  stamp _ wrong := by cases wrong
  driverEn := rfl

theorem same (obeys : Obeys ar r) (orders : r'.board.orders = r.board.orders)
    (handled : r'.handled = r.handled) : Obeys ar r' := by
  obtain ⟨targets, mode, lastCmd, driverEn⟩ := orders_eq orders
  constructor
  · rw [targets, handled]
    exact obeys.targets
  · rw [mode, handled]
    exact obeys.mode
  · rw [lastCmd, handled]
    exact obeys.stamp
  · rw [driverEn, handled]
    exact obeys.driverEn

/-- A frame that bears on none of this. -/
theorem inert (obeys : Obeys ar r) {e : F64 × Frame} {b : MockBoard}
    (orders : b.orders = r.board.orders) (still : ¬ IsMotion e.2) (loose : ¬ Brakes e.2)
    (same : enabling? e.2 = none) :
    Obeys ar { r with board := b, handled := r.handled ++ [e] } := by
  obtain ⟨targets, mode, lastCmd, driverEn⟩ := orders_eq orders
  have rules : ruling (r.handled ++ [e]) = ruling r.handled := by
    rw [ruling_snoc, if_neg still, if_neg loose]
  constructor
  · rw [targets, rules]
    exact obeys.targets
  · rw [mode, rules]
    exact obeys.mode
  · rw [lastCmd, rules]
    exact obeys.stamp
  · rw [driverEn, driverOn_snoc, same]
    exact obeys.driverEn

/-- A brake: every target is dropped. -/
theorem braked (obeys : Obeys ar r) {e : F64 × Frame} {b : MockBoard} (brakes : Brakes e.2)
    (still : ¬ IsMotion e.2) (rest : ∀ i (inside : i < 3), b.targets[i] = zero) (mode : b.mode = 0)
    (driverEn : b.driverEn = (enabling? e.2).getD r.board.driverEn) :
    Obeys ar { r with board := b, handled := r.handled ++ [e] } := by
  have rules : ruling (r.handled ++ [e]) = none := by
    rw [ruling_snoc, if_neg still, if_pos brakes]
  constructor
  · exact fun i inside => .inl (rest i inside)
  · rw [rules]
    exact mode
  · intro _ rule
    rw [rules] at rule
    cases rule
  · rw [driverEn, driverOn_snoc, obeys.driverEn]

theorem take (obeys : Obeys ar r) (e : F64 × Frame) : Obeys ar (r.take ar e) := by
  have outcome := handle_cases ar e.1 e.2 r.board
  unfold Rig.take
  generalize r.board.handle ar e.1 e.2 = b at outcome ⊢
  cases outcome with
  | drives moves =>
    have rules : ruling (r.handled ++ [e]) = some e := by rw [ruling_snoc, if_pos moves]
    have other : enabling? e.2 = none := enabling_none fun en => absurd en (motion_type moves).2.1
    constructor
    · refine fun i inside => .inr ⟨e, rules, ?_⟩
      rw [MockBoard.getElem_targets]
      simp [MockBoard.drive, MotorSim.aim]
    · rw [rules]
      rfl
    · intro e' rule
      rw [rules] at rule
      cases rule
      rfl
    · rw [driverOn_snoc, other]
      exact obeys.driverEn
  | stops stop =>
    have still : ¬ IsMotion e.2 := fun moves => (motion_type moves).1 stop
    have other : enabling? e.2 = none := enabling_none fun en => by rw [stop] at en; simp [ptCmdStop, ptCmdEn] at en
    refine obeys.braked (.inl stop) still (fun i inside => ?_) rfl (by rw [other]; rfl)
    rw [MockBoard.getElem_targets]
    simp [MotorSim.brake]
  | enables on =>
    have type := enabling_type on
    have rules : ruling (r.handled ++ [e]) = ruling r.handled := by
      have loose : ¬ Brakes e.2 := by
        rintro (stop | off)
        · rw [type] at stop
          simp [ptCmdEn, ptCmdStop] at stop
        · simp [on] at off
      rw [ruling_snoc, if_neg (enabling_still on), if_neg loose]
    constructor
    · rw [rules]
      exact obeys.targets
    · rw [rules]
      exact obeys.mode
    · rw [rules]
      exact obeys.stamp
    · rw [driverOn_snoc, on]
      rfl
  | disables off =>
    refine obeys.braked (.inr off) (enabling_still off) (fun i inside => ?_) rfl (by rw [off]; rfl)
    rw [MockBoard.getElem_targets]
    simp [MotorSim.rest]
  | tunes kp ki pid =>
    obtain ⟨still, loose, other⟩ := inert_of_type (f := e.2) (by rw [pid]; decide)
      (by rw [pid]; decide) (by rw [pid]; decide) (by rw [pid]; decide)
    refine obeys.inert ?_ still loose other
    simp [MockBoard.orders, MockBoard.targets, Function.comp_def]
  | echoes ping =>
    obtain ⟨still, loose, other⟩ := inert_of_type (f := e.2) (by rw [ping]; decide)
      (by rw [ping]; decide) (by rw [ping]; decide) (by rw [ping]; decide)
    exact obeys.inert rfl still loose other
  | answers con =>
    obtain ⟨still, loose, other⟩ := inert_of_type (f := e.2) (by rw [con]; decide)
      (by rw [con]; decide) (by rw [con]; decide) (by rw [con]; decide)
    exact obeys.inert (MockBoard.orders_handleCon _ _ _) still loose other
  | ignores still loose other => exact obeys.inert rfl still loose other

end Obeys

/-- The timeout drops the targets of a command that is too old, and changes nothing else. -/
theorem commandTimeout_orders (now : F64) (b : MockBoard) :
    (b.commandTimeout ar now).orders =
      if b.mode = 1 ∧ tooOld ar now b.lastCmd then
        (Vector.replicate 3 zero, b.mode, b.lastCmd, b.driverEn)
      else b.orders := by
  unfold MockBoard.commandTimeout
  split
  · have dropped : (b.motors.map MotorSim.rest).map (·.target) = Vector.replicate 3 zero := by
      apply Vector.ext
      intro i inside
      simp [MotorSim.rest]
    simp only [MockBoard.orders, MockBoard.targets, dropped]
  · rfl

/-- What a beat leaves of the orders: all of them, or all but the targets. -/
theorem pump_orders_cases (now : F64) (b : MockBoard) :
    (b.pump ar now).2.orders = b.orders ∨
      (b.pump ar now).2.orders = (Vector.replicate 3 zero, b.mode, b.lastCmd, b.driverEn) := by
  rw [MockBoard.orders_pump, commandTimeout_orders]
  by_cases early : tooSoon ar (ar.sub64 now b.lastTx) = true
  · exact .inl (if_pos early)
  · rw [if_neg early]
    by_cases late : b.mode = 1 ∧ tooOld ar now b.lastCmd = true
    · exact .inr (if_pos late)
    · exact .inl (if_neg late)

namespace Obeys
variable {ar} {r : Rig}

theorem pump (obeys : Obeys ar r) (now : F64) : Obeys ar (r.doing ar (.pump now)) := by
  rcases pump_orders_cases ar now r.board with same | dropped
  · exact obeys.same same rfl
  · have parts : (r.doing ar (.pump now)).board.targets = Vector.replicate 3 zero ∧
        (r.doing ar (.pump now)).board.mode = r.board.mode ∧
        (r.doing ar (.pump now)).board.lastCmd = r.board.lastCmd ∧
        (r.doing ar (.pump now)).board.driverEn = r.board.driverEn := by
      simpa [MockBoard.orders, Rig.doing] using dropped
    obtain ⟨targets, mode, lastCmd, driverEn⟩ := parts
    constructor
    · intro i inside
      rw [targets]
      exact .inl (by simp)
    · exact mode.trans obeys.mode
    · exact fun e rule => lastCmd.trans (obeys.stamp e rule)
    · exact driverEn.trans obeys.driverEn

theorem run (ar : Arith) (doings : List Doing) : Obeys ar (Rig.run ar doings) :=
  Rig.doings_keep ar (fun _ _ obeys => obeys.same rfl rfl) (fun _ e obeys => obeys.take e)
    (fun _ now obeys => obeys.pump now) .fresh doings

end Obeys

/-- The command that rules, in the history. -/
theorem ruling_some {entries : List (F64 × Frame)} {e : F64 × Frame}
    (rules : ruling entries = some e) :
    ∃ past future, entries = past ++ e :: future ∧ IsMotion e.2 ∧
      ∀ later ∈ future, ¬ IsMotion later.2 ∧ ¬ Brakes later.2 := by
  rcases lastWritten_cases (fun e : F64 × Frame =>
      if IsMotion e.2 then some (some e) else if Brakes e.2 then some none else none) none entries
    with ⟨never, _⟩ | ⟨past, x, future, split, wrote, silent⟩
  · exact absurd (rules.symm.trans never) (by simp)
  · rw [show lastWritten _ none entries = some e from rules] at wrote
    have moves : IsMotion x.2 := by
      by_contra still
      rw [if_neg still] at wrote
      split at wrote <;> simp at wrote
    rw [if_pos moves] at wrote
    obtain rfl : x = e := by simpa using wrote
    refine ⟨past, future, split, moves, fun later member => ?_⟩
    have quiet := silent later member
    by_cases still : IsMotion later.2
    · simp [still] at quiet
    · by_cases loose : Brakes later.2
      · simp [still, loose] at quiet
      · exact ⟨still, loose⟩

/-- In every run: a motor is told to turn only by a CMD_VEL or CMD_TWIST that it has handled and
that no CMD_STOP, disabling CMD_EN or later command has replaced, at that command's
values within the limits; `lastCmd_` is when it was handled, and the driver is on exactly if
the last well-formed CMD_EN said so. -/
theorem motors_obey (ar : Arith) (doings : List Doing) :
    (∀ i (inside : i < 3), (Rig.run ar doings).board.targets[i] ≠ zero →
      ∃ past e future, (Rig.run ar doings).handled = past ++ e :: future ∧ IsMotion e.2 ∧
        (∀ later ∈ future, ¬ IsMotion later.2 ∧ ¬ Brakes later.2) ∧
        (Rig.run ar doings).board.lastCmd = e.1 ∧
        (Rig.run ar doings).board.targets[i] =
          clamp ar MotorSim.kMinTarget MotorSim.kMaxTarget (targetsOf ar e.2)[i]) ∧
    (Rig.run ar doings).board.driverEn = driverOn (Rig.run ar doings).handled := by
  have obeys := Obeys.run ar doings
  refine ⟨fun i inside turns => ?_, obeys.driverEn⟩
  obtain ⟨e, rules, target⟩ := (obeys.targets i inside).resolve_left turns
  obtain ⟨past, future, split, moves, quiet⟩ := ruling_some rules
  exact ⟨past, e, future, split, moves, quiet, obeys.stamp e rules, target⟩

/-! ### The dead man's switch -/

def AtRest (b : MockBoard) : Prop := ∀ i (inside : i < 3), b.targets[i] = zero

theorem atRest_of_orders {b b' : MockBoard} (rest : AtRest b) (same : b'.orders = b.orders) :
    AtRest b' := by
  intro i inside
  rw [(orders_eq same).1]
  exact rest i inside

theorem Obeys.atRest {r : Rig} (obeys : Obeys ar r) (idle : ruling r.handled = none) :
    AtRest r.board := by
  intro i inside
  rcases obeys.targets i inside with zero | ⟨e, rules, _⟩
  · exact zero
  · rw [idle] at rules
    cases rules

/-- Only a speed command sets the motors going. -/
theorem handle_rests {b : MockBoard} (rest : AtRest b) (now : F64) {f : Frame}
    (still : ¬ IsMotion f) : AtRest (b.handle ar now f) := by
  have outcome := handle_cases ar now f b
  generalize b.handle ar now f = b' at outcome ⊢
  cases outcome with
  | drives moves => exact absurd moves still
  | stops =>
    intro i inside
    rw [MockBoard.getElem_targets]
    simp [MotorSim.brake]
  | disables =>
    intro i inside
    rw [MockBoard.getElem_targets]
    simp [MotorSim.rest]
  | enables | echoes => exact rest
  | tunes =>
    refine atRest_of_orders rest ?_
    simp [MockBoard.orders, MockBoard.targets, Function.comp_def]
  | answers => exact atRest_of_orders rest (MockBoard.orders_handleCon _ _ _)
  | ignores => exact rest

theorem pump_rests {b : MockBoard} (rest : AtRest b) (now : F64) : AtRest (b.pump ar now).2 := by
  rcases pump_orders_cases ar now b with same | dropped
  · exact atRest_of_orders rest same
  · intro i inside
    have targets : (b.pump ar now).2.targets = Vector.replicate 3 zero :=
      congrArg (fun orders => orders.1) dropped
    simp [targets]

/-- The beat that finds the speed command that rules too old. -/
theorem late_pump_rests {r : Rig} (obeys : Obeys ar r) (now : F64)
    (beat : tooSoon ar (ar.sub64 now r.board.lastTx) = false)
    (late : ∀ e, ruling r.handled = some e → tooOld ar now e.1 = true) :
    AtRest (r.board.pump ar now).2 := by
  cases rules : ruling r.handled with
  | none => exact pump_rests ar (obeys.atRest ar rules) now
  | some e =>
    have mode : r.board.mode = 1 := by rw [obeys.mode, rules]; rfl
    have old : tooOld ar now r.board.lastCmd = true := by
      rw [obeys.stamp e rules]
      exact late e rules
    have outcome := MockBoard.orders_pump ar now r.board
    rw [beat, if_neg Bool.false_ne_true, commandTimeout_orders, if_pos ⟨mode, old⟩] at outcome
    have targets : (r.board.pump ar now).2.targets = Vector.replicate 3 zero :=
      congrArg (fun orders => orders.1) outcome
    intro i inside
    simp [targets]

/-- Whatever has become of the host and of the line: at the first beat at which the board computes
more than 500 ms since it handled the speed command that rules, the motors are told to rest, and at
rest they stay, through bytes and beats of any kind, until another speed command is handled. -/
theorem dead_man (ar : Arith) (before : List Doing) (now : F64) (later : List Doing)
    (beat : tooSoon ar (ar.sub64 now (Rig.run ar before).board.lastTx) = false)
    (late : ∀ e, ruling (Rig.run ar before).handled = some e → tooOld ar now e.1 = true)
    (still : ∀ e ∈ (Rig.run ar (before ++ .pump now :: later)).handled.drop
      (Rig.run ar before).handled.length, ¬ IsMotion e.2) :
    AtRest (Rig.run ar (before ++ .pump now :: later)).board := by
  have start := late_pump_rests ar (Obeys.run ar before) now beat late
  generalize count : (Rig.run ar before).handled.length = n at still
  have kept : ∀ r : Rig, n ≤ r.handled.length →
      ((∀ e ∈ r.handled.drop n, ¬ IsMotion e.2) → AtRest r.board) →
      n ≤ (later.foldl (Rig.doing ar) r).handled.length ∧
        ((∀ e ∈ (later.foldl (Rig.doing ar) r).handled.drop n, ¬ IsMotion e.2) →
          AtRest (later.foldl (Rig.doing ar) r).board) := by
    intro r long rests
    refine Rig.doings_keep ar (motive := fun r => n ≤ r.handled.length ∧
      ((∀ e ∈ r.handled.drop n, ¬ IsMotion e.2) → AtRest r.board)) ?_ ?_ ?_ ⟨long, rests⟩ later
    · exact fun _ _ held => held
    · rintro r e ⟨long, rests⟩
      refine ⟨by simpa [Rig.take] using Nat.le_succ_of_le long, fun quiet => ?_⟩
      have split : (r.take ar e).handled.drop n = r.handled.drop n ++ [e] := by
        simp [Rig.take, List.drop_append_of_le_length long]
      rw [split] at quiet
      exact handle_rests ar (rests fun e' member => quiet e' (by simp [member])) e.1
        (quiet e (by simp))
    · exact fun r now' held => ⟨held.1, fun quiet => pump_rests ar (held.2 quiet) now'⟩
  have whole : Rig.run ar (before ++ .pump now :: later) =
      later.foldl (Rig.doing ar) ((Rig.run ar before).doing ar (.pump now)) := by
    simp [Rig.run]
  rw [whole] at still ⊢
  have done := kept ((Rig.run ar before).doing ar (.pump now)) (Nat.le_of_eq count.symm)
    fun _ => start
  exact done.2 still

/-- A speed command at 1 s, the beat at 1.6 s, a ping and another beat. -/
theorem dead_man_sample :
    AtRest (Rig.run bench
      ([.feed (fun _ => monoNow bench 1 0) (packFrame ptCmdVel [1, 0, 2, 0, 3, 0] (some 7)).1] ++
        .pump (monoNow bench 1 600000000) ::
          [.feed (fun _ => monoNow bench 1 610000000) (packFrame ptCmdPing [1, 2] (some 8)).1,
            .pump (monoNow bench 1 640000000)])).board :=
  dead_man bench _ (monoNow bench 1 600000000) _ (by decide +kernel) (by decide +kernel)
    (by decide +kernel)

/-- After a hundred days the difference of two readings can round to the half second itself, though
the clock has gone 1 ns beyond it. -/
example : tooOld bench (monoNow bench 8640000 883300754) (monoNow bench 8640000 383300753) = false := by
  decide +kernel

end Mhost.Tools.Simulator
