/-!
# Text as bytes

Sockets, pipes and log files carry bytes, so text is a list of bytes and a literal is
its UTF-8 encoding. Encoding goes character by character and evaluates in the kernel.
-/
namespace Mhost.Library

abbrev Text := List UInt8

def utf8 (s : String) : Text := s.toList.flatMap String.utf8EncodeChar

/-- Decimal digits of a natural number. -/
def decimal (n : Nat) : Text := utf8 (toString n)

/-- The value of a string of decimal digits. -/
def decimalValue (digits : Text) : Nat := digits.foldl (fun n c => 10 * n + (c.toNat - 48)) 0

theorem utf8_append (s t : List Char) :
    utf8 (String.ofList (s ++ t)) = utf8 (String.ofList s) ++ utf8 (String.ofList t) := by
  simp [utf8]

/-- Digits come off at the end. -/
theorem decimal_eq_if (n : Nat) :
    decimal n = if n < 10 then [UInt8.ofNat (48 + n)] else decimal (n / 10) ++ decimal (n % 10) := by
  have single : ∀ d < 10, decimal d = [UInt8.ofNat (48 + d)] := by decide
  split
  next small => exact single n small
  next large =>
    have cut := Nat.toDigits_of_base_le (b := 10) (by decide) (Nat.le_of_not_lt large)
    have last := Nat.toDigits_of_lt_base (Nat.mod_lt n (show 10 > 0 by decide))
    simp only [decimal, Nat.toString_eq_ofList_toDigits, cut, last, utf8_append]

theorem decimal_digit {d : Nat} (small : d < 10) : decimal d = [UInt8.ofNat (48 + d)] := by
  rw [decimal_eq_if, if_pos small]

theorem decimal_ne_nil (n : Nat) : decimal n ≠ [] := by
  rw [decimal_eq_if]
  split
  · simp
  · simp [decimal_digit (Nat.mod_lt n (show 10 > 0 by decide))]

theorem decimal_digits (n : Nat) : ∀ c ∈ decimal n, 48 ≤ c.toNat ∧ c.toNat ≤ 57 := by
  have single {d : Nat} (small : d < 10) : ∀ c ∈ decimal d, 48 ≤ c.toNat ∧ c.toNat ≤ 57 := by
    intro c member
    rw [decimal_digit small, List.mem_singleton] at member
    rw [member, UInt8.toNat_ofNat_of_lt' (Nat.lt_trans (by omega : 48 + d < 58) (by decide))]
    omega
  induction n using Nat.strongRecOn with
  | ind n ih =>
    intro c member
    rw [decimal_eq_if] at member
    split at member
    next small => exact single small c (decimal_digit small ▸ member)
    next large =>
      rcases List.mem_append.mp member with front | last
      · exact ih (n / 10) (by omega) c front
      · exact single (Nat.mod_lt n (by decide)) c last

theorem decimal_length (n : Nat) : (decimal n).length = (Nat.toDigits 10 n).length := by
  induction n using Nat.strongRecOn with
  | ind n ih =>
    rw [decimal_eq_if, Nat.toDigits_eq_if (by decide)]
    split
    · rfl
    next large =>
      rw [List.length_append, List.length_append, ih (n / 10) (by omega),
        decimal_digit (Nat.mod_lt n (by decide))]
      rfl

theorem decimalValue_decimal (n : Nat) : decimalValue (decimal n) = n := by
  induction n using Nat.strongRecOn with
  | ind n ih =>
    have single : ∀ d < 10, (UInt8.ofNat (48 + d)).toNat - 48 = d := by decide
    rw [decimal_eq_if]
    split
    next small =>
      simp only [decimalValue, List.foldl_cons, List.foldl_nil, single n small]
      omega
    next large =>
      have last : n % 10 < 10 := Nat.mod_lt n (by decide)
      rw [decimal_digit last, decimalValue, List.foldl_append]
      have front := ih (n / 10) (by omega)
      rw [decimalValue] at front
      simp only [front, List.foldl_cons, List.foldl_nil, single _ last]
      omega

end Mhost.Library
