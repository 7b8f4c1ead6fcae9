import LogCourier.Json.Decoder
import LogCourier.Proofs.Json.Grammar

/-! Integers are written as numbers of the grammar and read back. -/

namespace LogCourier

/-- The number literal that a written integer is scanned as. -/
def Numeral.ofInt (value : Int) : Numeral :=
  ⟨decide (value < 0), digits value.natAbs, none, none⟩

/-- The digit of a number below ten is a digit, and zero only for zero. -/
private theorem digitChar_spec {value : Nat} (small : value < 10) :
    isDigit (digitChar value) = true ∧ (digitChar value = '0' → value = 0) := by
  -- There are ten cases.
  revert value
  decide

/-- Written numbers consist of digits. -/
theorem isDigit_of_mem_digits (value : Nat) (c : Char) (member : c ∈ digits value) :
    isDigit c = true := by
  -- The digits of the tenth part come first.
  induction value using Nat.strongRecOn with
  | ind value ih =>
    rw [digits] at member
    split at member
    · next small => exact List.mem_singleton.1 member ▸ (digitChar_spec small).1
    · next large =>
      rcases List.mem_append.1 member with front | last
      · exact ih (value / 10) (by omega) front
      · exact List.mem_singleton.1 last ▸ (digitChar_spec (Nat.mod_lt value (by decide))).1

/-- Written numbers start with a digit, which is zero only if the number is. -/
theorem digits_cons (value : Nat) :
    ∃ first rest, digits value = first :: rest ∧ isDigit first = true ∧
      (first = '0' → value = 0 ∧ rest = []) := by
  -- The first digit is that of the tenth part.
  induction value using Nat.strongRecOn with
  | ind value ih =>
    rw [digits]
    split
    · next small =>
      obtain ⟨digit, zero⟩ := digitChar_spec small
      exact ⟨_, [], rfl, digit, fun first => ⟨zero first, rfl⟩⟩
    · next large =>
      obtain ⟨first, rest, front, digit, zero⟩ := ih (value / 10) (by omega)
      refine ⟨first, rest ++ [digitChar (value % 10)], by rw [front]; rfl, digit, fun first => ?_⟩
      -- A number of two digits has a tenth part, so its first digit is not zero.
      have none := (zero first).1
      omega

/-- Written numbers are digits, of which there is at least one. -/
theorem figures_digits (value : Nat) : Figures (digits value) := by
  refine ⟨?_, isDigit_of_mem_digits value⟩
  -- A number has a first digit, zero as well.
  obtain ⟨first, rest, shape, -⟩ := digits_cons value
  rw [shape]
  exact List.cons_ne_nil first rest

/-- A written number that starts with zero is zero and goes no further. -/
theorem digits_zero {value : Nat} (zero : (digits value).head? = some '0') :
    value = 0 ∧ digits value = ['0'] := by
  -- Only zero starts with a zero, and it is written with no other digit.
  obtain ⟨first, rest, shape, -, alone⟩ := digits_cons value
  rw [shape, List.head?_cons, Option.some.injEq] at zero
  obtain ⟨none, rfl⟩ := alone zero
  exact ⟨none, by rw [shape, zero]⟩

/-- A written integer is a number of the grammar, without fraction and exponent. -/
theorem Numeral.spelled_ofInt (value : Int) :
    (Numeral.ofInt value).Spelled (integerDigits value) := by
  -- The natural number of the same size is written in digits, and the sign stands before it.
  have spelled : (Numeral.ofInt value).Spelled _ :=
    .intro (decide (value < 0)) (figures_digits value.natAbs) (fun zero => (digits_zero zero).2)
      .absent .absent
  by_cases negative : value < 0
  · simpa [integerDigits, negative] using spelled
  · simpa [integerDigits, negative] using spelled

/-- A written integer of 64 bits reads back. -/
theorem Numeral.read_ofInt (value : Int) (low : -9223372036854775808 ≤ value)
    (high : value ≤ 18446744073709551615) :
    (Numeral.ofInt value).read = .ok (.integer value) := by
  -- The digits have no sign, and a negative value is not minus zero.
  have fits : value.natAbs ≤ maxNatural := by unfold maxNatural; omega
  simp only [Numeral.read, Numeral.value, Numeral.ofInt, digitsValue_digits]
  by_cases negative : value < 0
  · have signed : ¬ (value.natAbs = 0 ∨ 9223372036854775808 < value.natAbs) := by omega
    have same : -(value.natAbs : Int) = value := by omega
    simp only [fits, negative, if_neg signed, same]
    rfl
  · have same : (value.natAbs : Int) = value := by omega
    simp only [fits, negative, same]
    rfl

end LogCourier
