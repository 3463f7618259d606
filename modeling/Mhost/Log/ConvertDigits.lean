import Mhost.Log.LogStream

/-!
# What `convert` writes

LogStream.h:48-75. The digits come off in reverse and are turned round in place, and the mirrored
table makes the remainders of a negative number digits as well. A minus sign is written nowhere:
the text is that of the absolute value.
-/
namespace Mhost.Log
open Library (Text utf8 decimal decimalValue decimal_eq_if decimal_ne_nil decimal_digits
  decimal_length decimalValue_decimal)

/-- The decimal representation of an integer. -/
def decimalText (v : Int) : Text :=
  if v < 0 then utf8 "-" ++ decimal v.natAbs else decimal v.natAbs

/-- An integer read back from its text. -/
def readInteger : Text → Int
  | 0x2D :: rest => -decimalValue rest
  | text => decimalValue text

/-- The text of `v` stands at the front of an array of 32 bytes with a NUL after it, the bytes
behind it are as before, its length is returned, and it reads back as `v`. -/
structure Exact (buf : Text) (v : Int) : Prop where
  writes : convert buf v =
    some (decimalText v ++ 0 :: buf.drop ((decimalText v).length + 1), (decimalText v).length)
  fits : (decimalText v).length + 1 ≤ kMaxNumericSize
  reads : ∀ after len, convert buf v = some (after, len) → readInteger (after.take len) = v

/-! ### The digit loop -/

theorem zero_tmod (i : Int) : zero (i.tmod 10) = some (UInt8.ofNat (48 + i.natAbs % 10)) := by
  have mirrored : ∀ d < 10, zero (d : Nat) = some (UInt8.ofNat (48 + d)) ∧
      zero (-(d : Nat)) = some (UInt8.ofNat (48 + d)) := by decide
  obtain ⟨n, rfl | rfl⟩ := i.eq_nat_or_neg
  · exact (mirrored _ (Nat.mod_lt n (by decide))).1
  · rw [Int.neg_tmod, Int.natAbs_neg]
    exact (mirrored _ (Nat.mod_lt n (by decide))).2

theorem store_append (before rest : Text) (c d : UInt8) :
    store (before ++ c :: rest) before.length d = some (before ++ d :: rest) := by
  simp [store]

/-- The loop leaves the digits in reverse and touches nothing else. -/
theorem writeDigits_reversed (i : Int) (before rest : Text)
    (room : (decimal i.natAbs).length ≤ rest.length) :
    writeDigits i before.length (before ++ rest) =
      some (before ++ (decimal i.natAbs).reverse ++ rest.drop (decimal i.natAbs).length,
        before.length + (decimal i.natAbs).length) := by
  induction size : i.natAbs using Nat.strongRecOn generalizing i before rest with
  | ind n ih =>
    have quotient : (i.tdiv 10).natAbs = i.natAbs / 10 := Int.natAbs_tdiv i 10
    cases rest with
    | nil =>
      have empty := List.eq_nil_of_length_eq_zero (Nat.le_zero.mp room)
      exact absurd empty (decimal_ne_nil i.natAbs)
    | cons c more =>
      rw [writeDigits, zero_tmod]
      simp only [store_append, Option.bind_eq_bind, Option.bind_some]
      by_cases done : i.tdiv 10 = 0
      · have small : n < 10 := by
          rw [done] at quotient
          simp only [Int.natAbs_zero] at quotient
          omega
        rw [dif_pos done, decimal_eq_if, if_pos small, size, Nat.mod_eq_of_lt small]
        simp
      · have large : ¬ n < 10 := fun small => done (Int.natAbs_eq_zero.mp (by omega))
        have last : n % 10 < 10 := Nat.mod_lt n (by decide)
        have digits : decimal n = decimal (n / 10) ++ [UInt8.ofNat (48 + n % 10)] := by
          rw [decimal_eq_if n, if_neg large, decimal_eq_if (n % 10), if_pos last]
        rw [size, digits] at room
        have front := ih (n / 10) (by omega) (i.tdiv 10)
          (before ++ [UInt8.ofNat (48 + n % 10)]) more (by
            rw [quotient, size]
            simpa using room) (by rw [quotient, size])
        simp only [List.length_append, List.length_cons, List.length_nil, List.append_assoc,
          List.cons_append, List.nil_append, Nat.zero_add] at front
        rw [dif_neg done, size, front, digits, List.length_append, List.length_singleton,
          List.drop_succ_cons]
        simp [Nat.add_assoc, Nat.add_comm 1]

/-! ### Turning the digits round -/

theorem reverseInPlace_reverse (text before after : Text) :
    reverseInPlace before.length (before.length + text.length - 1) (before ++ text ++ after) =
      some (before ++ text.reverse ++ after) := by
  induction size : text.length using Nat.strongRecOn generalizing text before after with
  | ind n ih =>
    rcases text with _ | ⟨a, rest⟩
    · rw [reverseInPlace, if_neg (by simp [← size])]
      simp
    · rcases List.eq_nil_or_concat rest with rfl | ⟨mid, b, rfl⟩
      · rw [reverseInPlace, if_neg (by simp [← size])]
        simp
      · simp only [List.concat_eq_append, List.length_cons, List.length_append, List.length_nil]
          at size ⊢
        have swapped := ih mid.length (by omega) mid (before ++ [b]) (a :: after) rfl
        have first : (before ++ a :: (mid ++ [b]) ++ after)[before.length]? = some a := by simp
        have last : (before ++ a :: (mid ++ [b]) ++ after)[before.length + (mid.length + 1)]? =
            some b := by simp
        have left : store (before ++ a :: (mid ++ [b]) ++ after) before.length b =
            some (before ++ b :: mid ++ b :: after) := by simp [store]
        have right : store (before ++ b :: mid ++ b :: after) (before.length + (mid.length + 1)) a =
            some (before ++ b :: mid ++ a :: after) := by
          have place := store_append (before ++ b :: mid) after b a
          rwa [List.length_append, List.length_cons] at place
        have ends : before.length + n - 1 = before.length + (mid.length + 1) := by omega
        rw [ends, reverseInPlace, if_pos (by omega)]
        simp only [first, last, left, right, Option.bind_eq_bind, Option.bind_some]
        simpa [Nat.add_comm, Nat.add_left_comm] using swapped

/-- Whatever the value, the digits of its absolute value, a NUL, and the length. -/
theorem convert_natAbs (v : Int) (buf : Text) (room : (decimal v.natAbs).length < buf.length) :
    convert buf v = some (decimal v.natAbs ++ 0 :: buf.drop ((decimal v.natAbs).length + 1),
      (decimal v.natAbs).length) := by
  have looped := writeDigits_reversed v [] buf (Nat.le_of_lt room)
  simp only [List.nil_append, List.length_nil, Nat.zero_add] at looped
  generalize (decimal v.natAbs) = text at room looped ⊢
  have behind := List.drop_eq_getElem_cons room
  have ended := store_append text.reverse (buf.drop (text.length + 1)) buf[text.length] 0
  rw [← behind, List.length_reverse] at ended
  have turned := reverseInPlace_reverse text.reverse [] (0 :: buf.drop (text.length + 1))
  simp only [List.nil_append, List.length_nil, Nat.zero_add, List.length_reverse,
    List.reverse_reverse] at turned
  simp only [convert, looped, ended, turned, Option.bind_eq_bind, Option.bind_some]
  split
  · rfl
  next short =>
    have single : text.reverse = text := by
      match text with
      | [] | [_] => rfl
      | _ :: _ :: _ => simp at short
    rw [single]

/-! ### When it is the text of the value -/

theorem readInteger_decimal (n : Nat) : readInteger (decimal n) = n := by
  have value := decimalValue_decimal n
  have digits := decimal_digits n
  generalize decimal n = text at value digits
  unfold readInteger
  split
  next rest => exact absurd (digits 0x2D (List.mem_cons_self ..)).1 (by decide)
  next => rw [value]

theorem exact_iff_nonneg (v : Int) (buf : Text) (size : buf.length = kMaxNumericSize)
    (few : (decimal v.natAbs).length ≤ 20) : Exact buf v ↔ 0 ≤ v := by
  have written := convert_natAbs v buf (by rw [size]; exact Nat.lt_of_le_of_lt few (by decide))
  constructor
  · intro exactly
    have value := exactly.reads _ _ written
    rw [List.take_left' rfl, readInteger_decimal] at value
    omega
  · intro nonneg
    have text : decimalText v = decimal v.natAbs := if_neg (Int.not_lt.mpr nonneg)
    refine ⟨by rw [text, written], ?_, fun after len returned => ?_⟩
    · rw [text, kMaxNumericSize]
      omega
    · cases written.symm.trans returned
      rw [List.take_left' rfl, readInteger_decimal]
      omega

/-- 64 bits are 20 digits at most. -/
theorem IntegerType.Value.few {t : IntegerType} (v : t.Value) :
    (decimal v.val.natAbs).length ≤ 20 := by
  have low : -9223372036854775808 ≤ t.lowest := by cases t <;> decide
  have high : t.highest ≤ 18446744073709551615 := by cases t <;> decide
  have above := v.lowest_le
  have below := v.le_highest
  rw [decimal_length, Nat.length_toDigits_le_iff (by decide) (by decide)]
  omega

/-- `convert` writes the digits of the absolute value of every value of every type, 21 bytes at
most, and tells values apart by their absolute values only. So it is exact for the values that are
not negative, and for no other. -/
theorem convert_exact_iff {t : IntegerType} (v : t.Value) (tmp : Vector UInt8 kMaxNumericSize) :
    (Exact tmp.toList v.val ↔ 0 ≤ v.val) ∧
      convert tmp.toList v.val = some
        (decimal v.val.natAbs ++ 0 :: tmp.toList.drop ((decimal v.val.natAbs).length + 1),
          (decimal v.val.natAbs).length) ∧
      (decimal v.val.natAbs).length + 1 ≤ 21 ∧
      ∀ w : t.Value, convert tmp.toList v.val = convert tmp.toList w.val ↔
        v.val.natAbs = w.val.natAbs := by
  have size : tmp.toList.length = kMaxNumericSize := Vector.length_toList
  have written (w : t.Value) := convert_natAbs w.val tmp.toList
    (by rw [size]; exact Nat.lt_of_le_of_lt w.few (by decide))
  refine ⟨exact_iff_nonneg v.val _ size v.few, written v, Nat.succ_le_succ v.few, fun w => ?_⟩
  rw [written v, written w]
  constructor
  · intro same
    have lengths := congrArg Prod.snd (Option.some.inj same)
    have texts := (List.append_inj (congrArg Prod.fst (Option.some.inj same)) lengths).1
    rw [← decimalValue_decimal v.val.natAbs, texts, decimalValue_decimal]
  · intro same
    rw [same]

/-- `5` stands for minus five as well. -/
theorem convert_drops_sign :
    convert (List.replicate 32 0) (-5) = convert (List.replicate 32 0) 5 ∧
      ¬ Exact (List.replicate 32 0) (-5) := by
  have written (v : Int) (five : v.natAbs = 5) := convert_natAbs v (List.replicate 32 0)
    (by rw [five]; decide)
  refine ⟨(written (-5) rfl).trans (written 5 rfl).symm, fun exactly => ?_⟩
  have nonneg := (exact_iff_nonneg (-5) _ List.length_replicate (by decide)).mp exactly
  exact absurd nonneg (by decide)

end Mhost.Log
