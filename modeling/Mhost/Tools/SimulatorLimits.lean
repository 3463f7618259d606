import Mhost.Tools.SimulatorRuns

/-!
# The limits of the motors

mock_board.cc:96-120, 221-234, 269-289. A target is clamped to 350 rpm either way and an integral to
100 percent, whatever the host sends and whatever the arithmetic makes of it: only the comparisons
of the limits with one another are used. A NaN compares with nothing and passes both.
-/
namespace Mhost.Tools.Simulator
open Proto MotorSim

/-- No comparison puts `v` outside the limits. -/
def Within (ar : Arith) (lo hi v : F32) : Prop := ar.less hi v = false ∧ ar.less v lo = false

instance (ar : Arith) (lo hi v : F32) : Decidable (Within ar lo hi v) :=
  inferInstanceAs (Decidable (_ ∧ _))

/-- How the limits and zero compare. -/
structure Arith.Ordered (ar : Arith) : Prop where
  irrefl : ∀ v, ar.less v v = false
  target : ar.less kMaxTarget kMinTarget = false
  pct : ar.less kPctMax kPctMin = false
  zeroTarget : Within ar kMinTarget kMaxTarget zero
  zeroPct : Within ar kPctMin kPctMax zero

variable {ar : Arith}

theorem clamp_within (irrefl : ∀ v, ar.less v v = false) {lo hi : F32}
    (order : ar.less hi lo = false) (v : F32) : Within ar lo hi (clamp ar lo hi v) := by
  unfold clamp
  dsimp only
  generalize capped : (if ar.less hi v then hi else v) = t
  have notAbove : ar.less hi t = false := by
    subst capped
    split
    next => exact irrefl hi
    next fits => simpa using fits
  split
  next => exact ⟨order, irrefl lo⟩
  next fits => exact ⟨notAbove, by simpa using fits⟩

structure MotorSim.Limited (ar : Arith) (m : MotorSim) : Prop where
  target : Within ar kMinTarget kMaxTarget m.target
  integral : Within ar kPctMin kPctMax m.integral

namespace MotorSim.Limited
variable {m : MotorSim}

theorem fresh (ordered : ar.Ordered) : MotorSim.Limited ar {} :=
  ⟨ordered.zeroTarget, ordered.zeroPct⟩

theorem tick (ordered : ar.Ordered) (limited : m.Limited ar) (dt : F32) :
    (m.tick ar dt).Limited ar := by
  refine ⟨limited.target, ?_⟩
  unfold MotorSim.tick
  dsimp only
  split
  · exact clamp_within ordered.irrefl ordered.pct _
  · exact limited.integral

theorem aim (ordered : ar.Ordered) (limited : m.Limited ar) (t : F32) :
    (m.aim ar t).Limited ar := by
  refine ⟨clamp_within ordered.irrefl ordered.target _, ?_⟩
  unfold MotorSim.aim
  dsimp only
  split
  · exact ordered.zeroPct
  · exact limited.integral

theorem rest (ordered : ar.Ordered) (limited : m.Limited ar) : m.rest.Limited ar :=
  ⟨ordered.zeroTarget, limited.integral⟩

theorem brake (ordered : ar.Ordered) (m : MotorSim) : m.brake.Limited ar :=
  ⟨ordered.zeroTarget, ordered.zeroPct⟩

end MotorSim.Limited

/-- All three motors keep to the limits. -/
def MockBoard.Limited (ar : Arith) (motors : Vector MotorSim 3) : Prop :=
  ∀ i (inside : i < 3), motors[i].Limited ar

theorem limited_map {f : MotorSim → MotorSim} (kept : ∀ m, m.Limited ar → (f m).Limited ar)
    {motors : Vector MotorSim 3} (limited : MockBoard.Limited ar motors) :
    MockBoard.Limited ar (motors.map f) := by
  intro i inside
  rw [Vector.getElem_map]
  exact kept _ (limited i inside)

theorem handle_limited (ordered : ar.Ordered) {b : MockBoard}
    (limited : MockBoard.Limited ar b.motors) (now : F64) (f : Frame) :
    MockBoard.Limited ar (b.handle ar now f).motors := by
  have outcome := handle_cases ar now f b
  generalize b.handle ar now f = b' at outcome ⊢
  cases outcome with
  | drives =>
    intro i inside
    simp only [MockBoard.drive, Vector.getElem_ofFn]
    exact (limited i inside).aim ordered _
  | stops => exact limited_map (fun m _ => MotorSim.Limited.brake ordered m) limited
  | disables => exact limited_map (fun _ held => held.rest ordered) limited
  | tunes kp ki =>
    exact limited_map (f := fun m => { m with kp, ki })
      (fun _ held => ⟨held.target, held.integral⟩) limited
  | answers =>
    have same : (b.handleCon now f).motors = b.motors := by
      unfold MockBoard.handleCon
      split
      · rfl
      · split
        · rfl
        · split
          · rfl
          · split
            · rfl
            · split <;> rfl
    exact same ▸ limited
  | enables | echoes | ignores => exact limited

theorem pump_limited (ordered : ar.Ordered) {b : MockBoard}
    (limited : MockBoard.Limited ar b.motors) (now : F64) :
    MockBoard.Limited ar (b.pump ar now).2.motors := by
  have timed : MockBoard.Limited ar ((b.commandTimeout ar now).conWatchdog ar now).motors := by
    have watched (b' : MockBoard) : (b'.conWatchdog ar now).motors = b'.motors := by
      unfold MockBoard.conWatchdog
      split <;> rfl
    rw [watched]
    unfold MockBoard.commandTimeout
    split
    · exact limited_map (fun _ held => held.rest ordered) limited
    · exact limited
  have moved (b' : MockBoard) (held : MockBoard.Limited ar b'.motors) (dt : F64) :
      MockBoard.Limited ar (b'.advance ar dt).motors := by
    unfold MockBoard.advance
    dsimp only
    generalize MockBoard.share ar dt = share
    generalize (MockBoard.steps ar dt).toNat = n
    induction n with
    | zero => exact held
    | succ n ih => exact limited_map (fun _ held => held.tick ordered _) ih
  have told (b' : MockBoard) : (b'.telemetry ar).flush.2.motors = b'.motors := by
    unfold MockBoard.telemetry MockBoard.sendStatus
    split <;> rfl
  unfold MockBoard.pump
  dsimp only
  by_cases early : tooSoon ar (ar.sub64 now b.lastTx) = true
  · rw [if_pos early]
    exact limited
  · rw [if_neg early, told]
    exact moved _ timed _

/-- In every run, whatever bytes arrive and whenever the beats come: no target compares as beyond
350 rpm either way and no integral as beyond 100 percent. -/
theorem motors_limited (ar : Arith) (ordered : ar.Ordered) (doings : List Doing) (i : Nat)
    (inside : i < 3) :
    Within ar kMinTarget kMaxTarget (Rig.run ar doings).board.motors[i].target ∧
      Within ar kPctMin kPctMax (Rig.run ar doings).board.motors[i].integral := by
  have limited : MockBoard.Limited ar (Rig.run ar doings).board.motors := by
    refine Rig.doings_keep ar (motive := fun r => MockBoard.Limited ar r.board.motors)
      (fun _ _ held => held) (fun _ e held => handle_limited ordered held e.1 e.2)
      (fun _ now held => pump_limited ordered held now) ?_ doings
    intro i inside
    simpa using MotorSim.Limited.fresh ordered
  exact ⟨(limited i inside).target, (limited i inside).integral⟩

/-- Not even a NaN. -/
theorem lt_self (v : Float.Model.UnpackedFloat) : v.lt v = false := by
  cases v with
  | notANumber => rfl
  | infinity sign | zero sign => cases sign <;> rfl
  | finite sign mantissa exponent positive =>
    have same : (compare exponent exponent).then (compare mantissa mantissa) = .eq := by simp
    cases sign with
    | negative =>
      change (some ((compare exponent exponent).then (compare mantissa mantissa)).swap == some .lt) = false
      rw [same]
      rfl
    | positive =>
      change (some ((compare exponent exponent).then (compare mantissa mantissa)) == some .lt) = false
      rw [same]
      rfl

theorem bench_ordered : bench.Ordered where
  irrefl v := lt_self (single v)
  target := by decide
  pct := by decide
  zeroTarget := by decide
  zeroPct := by decide

/-- A CMD_VEL far beyond the limit, and a beat. -/
def farBeyond : List Doing :=
  [.feed (fun _ => monoNow bench 0 1000000) (packFrame ptCmdVel [0xFF, 0x7F, 0, 0x80, 0, 0] (some 0)).1,
    .pump (monoNow bench 0 30000000)]

theorem motors_limited_sample :
    ∃ r, r = Rig.run bench farBeyond ∧
      Within bench kMinTarget kMaxTarget (getElem r.board.motors 1 second_lt).target ∧
      Within bench kPctMin kPctMax (getElem r.board.motors 1 second_lt).integral :=
  ⟨_, rfl, motors_limited bench bench_ordered farBeyond 1 second_lt⟩

end Mhost.Tools.Simulator
