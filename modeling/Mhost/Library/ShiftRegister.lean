/-!
# Shift registers that divide by a polynomial

A register of `w` bits is shifted to the right; a one that falls out feeds the polynomial back.
Message bits enter where bits fall out, so the register holds a remainder. The step is linear in
exclusive or. It loses nothing when the polynomial has its top bit set, so no short burst is
divided out; it keeps the parity of the register when the polynomial has odd weight, so no odd
number of errors is. Nothing here names a particular code.
-/
namespace Mhost.Library.ShiftRegister
variable {w : Nat}

/-- One shift. -/
def shift (poly s : BitVec w) : BitVec w := (s >>> 1) ^^^ if s.getLsbD 0 then poly else 0#w

/-- A message bit, in the place where the register's own bits fall out. -/
def enter (b : Bool) : BitVec w := if b then 1#w else 0#w

def clock (poly s : BitVec w) (b : Bool) : BitVec w := shift poly (s ^^^ enter b)

def run (poly s : BitVec w) (bits : List Bool) : BitVec w := bits.foldl (clock poly) s

/-- Bits written into a register, the first one lowest. -/
def load : List Bool → BitVec w
  | [] => 0#w
  | b :: rest => (load rest <<< 1) ^^^ enter b

/-- The bits of a register, the lowest first. -/
def bitsOf (s : BitVec w) : List Bool := (List.range w).map s.getLsbD

/-- Bit by bit differences of two messages. -/
def differences (x y : List Bool) : List Bool := x.zipWith (· ^^ ·) y

/-! ### Linearity -/

theorem xor_swap (a b c d : BitVec w) : a ^^^ b ^^^ (c ^^^ d) = a ^^^ c ^^^ (b ^^^ d) := by
  ac_rfl

theorem shift_xor (poly a b : BitVec w) : shift poly (a ^^^ b) = shift poly a ^^^ shift poly b := by
  unfold shift
  rw [BitVec.ushiftRight_xor_distrib, BitVec.getLsbD_xor, xor_swap]
  congr 1
  cases a.getLsbD 0 <;> cases b.getLsbD 0 <;> simp

theorem enter_xor (a b : Bool) : (enter (a ^^ b) : BitVec w) = enter a ^^^ enter b := by
  cases a <;> cases b <;> simp [enter]

theorem run_differences (poly a b : BitVec w) (x y : List Bool) (size : x.length = y.length) :
    run poly (a ^^^ b) (differences x y) = run poly a x ^^^ run poly b y := by
  induction x generalizing a b y with
  | nil =>
    cases y with
    | nil => rfl
    | cons => simp at size
  | cons c rest ih =>
    cases y with
    | nil => simp at size
    | cons d others =>
      have step : clock poly (a ^^^ b) (c ^^ d) = clock poly a c ^^^ clock poly b d := by
        rw [clock, enter_xor, xor_swap, shift_xor]
        rfl
      have same := ih (clock poly a c) (clock poly b d) others (by simpa using size)
      rw [← step] at same
      exact same

theorem run_append (poly s : BitVec w) (x y : List Bool) :
    run poly s (x ++ y) = run poly (run poly s x) y := List.foldl_append

/-! ### The message as a register -/

theorem getLsbD_load (bits : List Bool) (i : Nat) (inside : i < w) :
    (load bits : BitVec w).getLsbD i = bits.getD i false := by
  induction bits generalizing i with
  | nil => simp [load]
  | cons b rest ih =>
    cases i with
    | zero => cases b <;> simp [load, enter, inside]
    | succ i =>
      have entered : (enter b : BitVec w).getLsbD (i + 1) = false := by
        cases b <;> simp [enter, BitVec.getLsbD_one]
      have shifted : (load rest <<< 1 : BitVec w).getLsbD (i + 1) =
          (load rest : BitVec w).getLsbD i := by
        simp only [BitVec.getLsbD_shiftLeft]
        simp [inside]
      rw [load, BitVec.getLsbD_xor, entered, shifted, ih i (by omega)]
      simp

theorem load_bitsOf (s : BitVec w) : load (bitsOf s) = s := by
  apply BitVec.eq_of_getLsbD_eq
  intro i inside
  rw [getLsbD_load _ i inside]
  simp [bitsOf, inside]

/-- A register with its top bit clear comes back from a shift to the left. -/
theorem shift_shiftLeft (poly x : BitVec w) (top : x.getLsbD (w - 1) = false) :
    shift poly (x <<< 1) = x := by
  apply BitVec.eq_of_getLsbD_eq
  intro i inside
  have low : (x <<< 1).getLsbD 0 = false := by simp
  rw [shift, low]
  by_cases last : i + 1 < w
  · simp only [BitVec.getLsbD_xor, BitVec.getLsbD_ushiftRight, BitVec.getLsbD_shiftLeft]
    simp [Nat.add_comm 1 i, last]
  · have same : i = w - 1 := by omega
    have out : (x <<< 1).getLsbD (1 + i) = false := BitVec.getLsbD_of_ge _ _ (by omega)
    simp only [BitVec.getLsbD_xor, BitVec.getLsbD_ushiftRight, out]
    simp [same, top]

/-- A few bits entered one by one are the bits entered at once and as many empty turns. -/
theorem run_load (poly s : BitVec w) (bits : List Bool) (few : bits.length ≤ w) :
    run poly s bits = run poly (s ^^^ load bits) (List.replicate bits.length false) := by
  induction bits generalizing s with
  | nil => simp [load]
  | cons b rest ih =>
    have few : rest.length < w := few
    have top : (load rest : BitVec w).getLsbD (w - 1) = false := by
      rw [getLsbD_load rest _ (by omega), List.getD_eq_getElem?_getD,
        List.getElem?_eq_none (by omega)]
      rfl
    have entered : s ^^^ load (b :: rest) ^^^ enter false = s ^^^ enter b ^^^ load rest <<< 1 := by
      simp only [load, enter, Bool.false_eq_true, if_false, BitVec.xor_zero]
      ac_rfl
    have step : clock poly (s ^^^ load (b :: rest)) false = clock poly s b ^^^ load rest := by
      rw [clock, entered, shift_xor, shift_shiftLeft poly _ top]
      rfl
    have rest_run := ih (clock poly s b) (by omega)
    rw [← step] at rest_run
    exact rest_run

theorem run_idle_zero (poly : BitVec w) (turns : Nat) :
    run poly 0#w (List.replicate turns false) = 0#w := by
  induction turns with
  | zero => rfl
  | succ n ih =>
    have step : clock poly 0#w false = 0#w := by simp [clock, shift, enter]
    rw [List.replicate_succ, run, List.foldl_cons, step]
    exact ih

/-- A message followed by its remainder leaves nothing. -/
theorem run_remainder (poly s : BitVec w) (bits : List Bool) :
    run poly s (bits ++ bitsOf (run poly s bits)) = 0#w := by
  rw [run_append, run_load _ _ _ (by simp [bitsOf]), load_bitsOf, BitVec.xor_self, run_idle_zero]

/-! ### Short bursts -/

/-- With the top bit of the polynomial set a shift loses nothing. -/
theorem shift_eq_zero (poly s : BitVec w) (top : poly.getLsbD (w - 1) = true)
    (gone : shift poly s = 0#w) : s = 0#w := by
  by_cases width : w = 0
  · subst width
    exact BitVec.eq_of_zero_length rfl
  have low : s.getLsbD 0 = false := by
    have high := congrArg (BitVec.getLsbD · (w - 1)) gone
    have out : s.getLsbD (1 + (w - 1)) = false := BitVec.getLsbD_of_ge _ _ (by omega)
    simp only [shift, BitVec.getLsbD_xor, BitVec.getLsbD_ushiftRight, out,
      BitVec.getLsbD_zero] at high
    cases bit : s.getLsbD 0 with
    | false => rfl
    | true => simp [bit, top] at high
  rw [shift, low] at gone
  apply BitVec.eq_of_getLsbD_eq
  intro i inside
  cases i with
  | zero => rw [low, BitVec.getLsbD_zero]
  | succ i =>
    have bit := congrArg (BitVec.getLsbD · i) gone
    simpa [Nat.add_comm 1 i] using bit

theorem run_idle_eq_zero (poly s : BitVec w) (top : poly.getLsbD (w - 1) = true) (turns : Nat)
    (gone : run poly s (List.replicate turns false) = 0#w) : s = 0#w := by
  induction turns generalizing s with
  | zero => exact gone
  | succ n ih =>
    have stepped := shift_eq_zero poly _ top (ih (clock poly s false) gone)
    simpa [enter] using stepped

/-- A burst no longer than the register leaves a remainder, wherever it stands. -/
theorem burst_remains (poly : BitVec w) (top : poly.getLsbD (w - 1) = true) (before after : Nat)
    (burst : List Bool) (short : burst.length ≤ w)
    (gone : run poly 0#w (List.replicate before false ++ burst ++ List.replicate after false) = 0#w) :
    ∀ b ∈ burst, b = false := by
  rw [run_append, run_append, run_idle_zero] at gone
  have middle := run_idle_eq_zero poly _ top after gone
  rw [run_load poly _ burst short] at middle
  have loaded : (0#w ^^^ load burst : BitVec w) = 0#w := run_idle_eq_zero poly _ top _ middle
  rw [BitVec.zero_xor] at loaded
  intro b member
  obtain ⟨i, inside, rfl⟩ := List.getElem_of_mem member
  have bit := getLsbD_load (w := w) burst i (by omega)
  rw [loaded, BitVec.getLsbD_zero, List.getD_eq_getElem?_getD,
    List.getElem?_eq_getElem inside] at bit
  exact bit.symm

theorem silent_replicate (bits : List Bool) (silent : ∀ i : Nat, bits[i]? ≠ some true) :
    bits = List.replicate bits.length false := by
  refine List.eq_replicate_iff.mpr ⟨rfl, fun b member => ?_⟩
  obtain ⟨i, inside, rfl⟩ := List.getElem_of_mem member
  have off := silent i
  rw [List.getElem?_eq_getElem inside] at off
  simpa using off

/-- Bits that all lie in a window of the register's width are all clear when they leave nothing. -/
theorem window_remains (poly : BitVec w) (top : poly.getLsbD (w - 1) = true) (bits : List Bool)
    (start : Nat) (window : ∀ i : Nat, bits[i]? = some true → start ≤ i ∧ i < start + w)
    (gone : run poly 0#w bits = 0#w) (i : Nat) : bits[i]? ≠ some true := by
  have cut : bits = bits.take start ++ (bits.drop start).take w ++ bits.drop (start + w) := by
    rw [← List.drop_drop, List.append_assoc, List.take_append_drop, List.take_append_drop]
  have before := silent_replicate (bits.take start) fun i on => by
    rw [List.getElem?_take] at on
    split at on
    next early => exact absurd (window i on).1 (by omega)
    next => simp at on
  have after := silent_replicate (bits.drop (start + w)) fun i on => by
    rw [List.getElem?_drop] at on
    exact absurd (window _ on).2 (by omega)
  rw [cut, before, after] at gone
  have clear := burst_remains poly top _ _ _ (by rw [List.length_take]; exact Nat.min_le_left _ _) gone
  intro on
  obtain ⟨late, early⟩ := window i on
  have inWindow : ((bits.drop start).take w)[i - start]? = some true := by
    rw [List.getElem?_take, if_pos (by omega), List.getElem?_drop, ← on]
    congr 1
    omega
  exact absurd (clear true (List.mem_of_getElem? inWindow)) (by simp)

/-! ### Parity -/

/-- Exclusive or of the lowest `n` bits. -/
def parityBelow (s : BitVec w) : Nat → Bool
  | 0 => false
  | n + 1 => parityBelow s n ^^ s.getLsbD n

def parity (s : BitVec w) : Bool := parityBelow s w

theorem parityBelow_xor (a b : BitVec w) (n : Nat) :
    parityBelow (a ^^^ b) n = (parityBelow a n ^^ parityBelow b n) := by
  induction n with
  | zero => rfl
  | succ n ih =>
    rw [parityBelow, ih, BitVec.getLsbD_xor]
    simp only [parityBelow, Bool.xor_assoc, Bool.xor_left_comm]

theorem parityBelow_ushiftRight (s : BitVec w) (n : Nat) :
    parityBelow (s >>> 1) n = (parityBelow s (n + 1) ^^ s.getLsbD 0) := by
  induction n with
  | zero => simp [parityBelow]
  | succ n ih =>
    rw [parityBelow, ih, BitVec.getLsbD_ushiftRight, Nat.add_comm 1 n]
    simp only [parityBelow, Bool.xor_left_comm, Bool.xor_comm]

theorem parityBelow_zero (n : Nat) : parityBelow 0#w n = false := by
  induction n with
  | zero => rfl
  | succ n ih => simp [parityBelow, ih]

theorem parity_enter (b : Bool) (width : 0 < w) : parity (enter b : BitVec w) = b := by
  have one (n : Nat) : parityBelow (enter b : BitVec w) (n + 1) = b := by
    induction n with
    | zero => cases b <;> simp [parityBelow, enter, width]
    | succ n ih =>
      have high : (enter b : BitVec w).getLsbD (n + 1) = false := by
        cases b <;> simp [enter, BitVec.getLsbD_one]
      rw [parityBelow, ih, high, Bool.xor_false]
  obtain ⟨n, rfl⟩ : ∃ n, w = n + 1 := ⟨w - 1, by omega⟩
  exact one n

/-- A polynomial of odd weight keeps the parity. -/
theorem parity_shift (poly s : BitVec w) (odd : parity poly = true) :
    parity (shift poly s) = parity s := by
  have out : parityBelow s (w + 1) = parity s := by
    rw [parityBelow, BitVec.getLsbD_of_ge s w (Nat.le_refl w), Bool.xor_false]
    rfl
  have feedback : parityBelow (if s.getLsbD 0 then poly else 0#w) w = s.getLsbD 0 := by
    cases bit : s.getLsbD 0 with
    | true => exact odd
    | false => exact parityBelow_zero w
  rw [parity, shift, parityBelow_xor, parityBelow_ushiftRight, out, feedback, Bool.xor_assoc,
    Bool.xor_self, Bool.xor_false]

theorem parity_run (poly s : BitVec w) (width : 0 < w) (odd : parity poly = true)
    (bits : List Bool) :
    parity (run poly s bits) = (parity s ^^ decide (bits.count true % 2 = 1)) := by
  induction bits generalizing s with
  | nil => simp [run]
  | cons b rest ih =>
    have step : parity (clock poly s b) = (parity s ^^ b) := by
      rw [clock, parity_shift poly _ odd, parity, parityBelow_xor]
      exact congrArg _ (parity_enter b width)
    have tail := ih (clock poly s b)
    rw [step] at tail
    rw [run, List.foldl_cons]
    refine tail.trans ?_
    cases b with
    | false => simp
    | true =>
      rw [List.count_cons_self, Bool.xor_assoc]
      congr 1
      rcases Nat.mod_two_eq_zero_or_one (rest.count true) with even | odd
      · simp [even, Nat.add_mod]
      · simp [odd, Nat.add_mod]

/-- An odd number of set bits leaves a remainder. -/
theorem odd_remains (poly : BitVec w) (width : 0 < w) (odd : parity poly = true) (bits : List Bool)
    (gone : run poly 0#w bits = 0#w) : bits.count true % 2 = 0 := by
  have kept := parity_run poly 0#w width odd bits
  rw [gone, parity, parityBelow_zero] at kept
  have even : bits.count true % 2 ≠ 1 := by simpa using kept
  omega

end Mhost.Library.ShiftRegister
