import StyledMarkdown.Number.Decimal
/-!
# The length of numerals

`digitCount` counts the digits of a number from zero on, so it is the
length of the numeral and grows with the number. Of a negative number it
counts one digit, and the numeral has a sign and as many digits as the
number without it.
-/

namespace StyledMarkdown

/-! ## Digits -/

/-- The greater of two numbers has no fewer digits. -/
theorem length_toDigits_mono {m n : Nat} (h : m ≤ n) :
    (Nat.toDigits 10 m).length ≤ (Nat.toDigits 10 n).length := by
  have hn : n < Nat.pow 10 (Nat.toDigits 10 n).length :=
    (Nat.length_toDigits_le_iff (by decide) Nat.length_toDigits_pos).mp (Nat.le_refl _)
  exact (Nat.length_toDigits_le_iff (by decide) Nat.length_toDigits_pos).mpr
    (Nat.lt_of_le_of_lt h hn)

/-- **What counting up to a bound comes to**, when `digits` digits reach
just below it and the number is below what is left to try. -/
theorem digitsFrom_eq (n : Int) (fuel : Nat) : ∀ digits, 0 < digits →
    n.toNat < Nat.pow 10 (digits + fuel) →
      digitsFrom n (Nat.pow 10 digits) digits fuel =
        max digits (Nat.toDigits 10 n.toNat).length := by
  induction fuel with
  | zero =>
    intro digits hpos hn
    have hlength : (Nat.toDigits 10 n.toNat).length ≤ digits :=
      (Nat.length_toDigits_le_iff (by decide) hpos).mpr hn
    exact (Nat.max_eq_left hlength).symm
  | succ fuel ih =>
    intro digits hpos hn
    have hiff : (Nat.toDigits 10 n.toNat).length ≤ digits ↔ n.toNat < Nat.pow 10 digits :=
      Nat.length_toDigits_le_iff (by decide) hpos
    have hnext : 10 * Nat.pow 10 digits = Nat.pow 10 (digits + 1) := Nat.mul_comm _ _
    unfold digitsFrom
    by_cases hle : (Nat.pow 10 digits : Int) ≤ n
    · have hmore : ¬ (Nat.toDigits 10 n.toNat).length ≤ digits := by
        rw [hiff]
        omega
      rw [if_pos hle, hnext, ih (digits + 1) (Nat.succ_pos _) (by rwa [Nat.add_right_comm])]
      omega
    · have hpow : 0 < Nat.pow 10 digits := Nat.pow_pos (by decide)
      have hfew : (Nat.toDigits 10 n.toNat).length ≤ digits := hiff.mpr (by omega)
      rw [if_neg hle]
      omega

/-! ## List numbers -/

section Ordinals

variable {m n : Ordinal}

/-- **The digits counted are those of the numeral**; a negative number
counts as zero does. -/
theorem digitCount_eq (n : Ordinal) :
    digitCount n = (Nat.toDigits 10 n.val.toNat).length := by
  have hbound : n.val.toNat < Nat.pow 10 (1 + 19) := by
    have hupper := n.upper
    have hcapacity : capacity (64 - 1) < Nat.pow 10 (1 + 19) := by decide
    omega
  have hcount : digitCount n = max 1 (Nat.toDigits 10 n.val.toNat).length :=
    digitsFrom_eq n.val 19 1 Nat.one_pos hbound
  have hpos : 0 < (Nat.toDigits 10 n.val.toNat).length := Nat.length_toDigits_pos
  omega

theorem digitCount_le_iff {k : Nat} (hk : 0 < k) :
    digitCount n ≤ k ↔ n.val.toNat < Nat.pow 10 k := by
  rw [digitCount_eq]
  exact Nat.length_toDigits_le_iff (by decide) hk

theorem digitCount_pos (n : Ordinal) : 0 < digitCount n := by
  rw [digitCount_eq]
  exact Nat.length_toDigits_pos

theorem digitCount_of_neg (h : n.val < 0) : digitCount n = 1 := by
  have hpow : 0 < Nat.pow 10 1 := by decide
  have hle : digitCount n ≤ 1 := (digitCount_le_iff Nat.one_pos).mpr (by omega)
  have hpos := digitCount_pos n
  omega

theorem digitCount_mono (h : m.val ≤ n.val) : digitCount m ≤ digitCount n := by
  rw [digitCount_eq, digitCount_eq]
  exact length_toDigits_mono (by omega)

/-- No list number has more than nineteen digits. -/
theorem digitCount_le (n : Ordinal) : digitCount n ≤ 19 := by
  refine (digitCount_le_iff (by decide)).mpr ?_
  have hupper := n.upper
  have hcapacity : capacity (64 - 1) < Nat.pow 10 19 := by decide
  omega

/-! ## Numerals -/

/-- The numeral of a number from zero on is its digits. -/
theorem length_decimal_of_nonneg (h : 0 ≤ n.val) :
    (decimal n.val).length = digitCount n := by
  have habs : n.val.natAbs = n.val.toNat := by omega
  rw [digitCount_eq, decimal, if_neg (by omega), habs]

/-- The numeral of a negative number has its sign in front. -/
theorem length_decimal_of_neg {z : Int} (h : z < 0) :
    (decimal z).length = (Nat.toDigits 10 z.natAbs).length + 1 := by
  rw [decimal, if_pos h, List.length_cons]

/-- Below zero the lesser number has no shorter numeral. -/
theorem length_decimal_mono_of_neg {y z : Int} (h : y ≤ z) (hz : z < 0) :
    (decimal z).length ≤ (decimal y).length := by
  have hdigits : (Nat.toDigits 10 z.natAbs).length ≤ (Nat.toDigits 10 y.natAbs).length :=
    length_toDigits_mono (by omega)
  rw [length_decimal_of_neg hz, length_decimal_of_neg (by omega)]
  omega

/-- How far below zero the numeral is no longer than the digits and a sign. -/
theorem length_decimal_le_iff_of_neg {z : Int} {digits : Nat} (h : z < 0) (hpos : 0 < digits) :
    (decimal z).length ≤ digits + 1 ↔ -(Nat.pow 10 digits : Int) < z := by
  have hlength : (Nat.toDigits 10 z.natAbs).length ≤ digits ↔ z.natAbs < Nat.pow 10 digits :=
    Nat.length_toDigits_le_iff (by decide) hpos
  rw [length_decimal_of_neg h]
  omega

end Ordinals

/-- **A number is told by its numeral**: digits are read back, and no digit is
a sign. -/
theorem decimal_injective : Function.Injective decimal := by
  have hdigits : ∀ {i j : Nat}, Nat.toDigits 10 i = Nat.toDigits 10 j → i = j := by
    intro i j h
    have hread := congrArg (Nat.ofDigitChars 10 · 0) h
    rwa [Nat.ofDigitChars_ten_toDigits, Nat.ofDigitChars_ten_toDigits] at hread
  have hsign : ∀ (i : Nat) (rest : List Char), Nat.toDigits 10 i ≠ '-' :: rest := by
    intro i rest h
    have hmem : '-' ∈ Nat.toDigits 10 i := h ▸ List.mem_cons_self
    exact absurd (Nat.isDigit_of_mem_toDigits (by decide) (by decide) hmem) (by decide)
  intro y z h
  unfold decimal at h
  split at h
  · split at h
    · have habs := hdigits (List.cons.inj h).2
      omega
    · exact absurd h.symm (hsign _ _)
  · split at h
    · exact absurd h (hsign _ _)
    · have habs := hdigits h
      omega

end StyledMarkdown
