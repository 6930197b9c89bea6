import Mathlib.Data.List.Induction
import StyledMarkdown.Number.Numeral
/-!
# Hexadecimal numerals

Digits in front of a number are worth a power of sixteen each, so a numeral
of a fixed width, with zeros in front, is taken apart at its last digit:
the number before it is the quotient by sixteen and the digit the rest.
With that, reading such a numeral and writing it undo each other, but for
the case of its letters.
-/

namespace StyledMarkdown

namespace Numeral

variable {c : Char} {digits : List Char} {base width n : Nat}

/-! ## Digits -/

/-- A hexadecimal digit is one of the characters of one byte. -/
theorem toNat_lt_of_isHexDigit (h : isHexDigit c) : c.toNat < 128 := by
  simp only [isHexDigit, Char.isDigit, Bool.or_eq_true, Bool.and_eq_true, decide_eq_true_eq,
    Char.le_def, UInt32.le_iff_toNat_le] at h
  have hupper : c.val.toNat ≤ 102 := by
    rcases h with (⟨-, hdigit⟩ | ⟨-, hlower⟩) | ⟨-, hupper⟩
    · exact Nat.le_trans hdigit (by decide)
    · exact hlower
    · exact Nat.le_trans hupper (by decide)
  exact Nat.lt_of_le_of_lt hupper (by decide)

/-- **A digit is worth less than sixteen**, and what is worth as much is
written as that digit in lower case. -/
theorem digitChar_digitValue (h : isHexDigit c) :
    digitValue c < 16 ∧ Nat.digitChar (digitValue c) = c.toLower := by
  have hall : ∀ code < 128, isHexDigit (Char.ofNat code) →
      digitValue (Char.ofNat code) < 16 ∧
        Nat.digitChar (digitValue (Char.ofNat code)) = (Char.ofNat code).toLower := by
    decide +kernel
  have hcode := hall c.toNat (toNat_lt_of_isHexDigit h)
  rw [Char.ofNat_toNat] at hcode
  exact hcode h

/-- The digit of a number below sixteen is worth that number. -/
theorem digitValue_digitChar (h : n < 16) :
    isHexDigit (Nat.digitChar n) ∧ digitValue (Nat.digitChar n) = n := by
  have hall : ∀ digit < 16,
      isHexDigit (Nat.digitChar digit) ∧ digitValue (Nat.digitChar digit) = digit := by decide
  exact hall n h

/-! ## The number of a numeral -/

theorem value_singleton (base : Nat) (c : Char) : value base [c] = digitValue c :=
  Nat.zero_add _

theorem value_append_singleton (base : Nat) (digits : List Char) (c : Char) :
    value base (digits ++ [c]) = base * value base digits + digitValue c := by
  unfold value
  rw [List.foldl_append, List.foldl_cons, List.foldl_nil]

/-- What stands in front of digits is worth a power more for each of them. -/
theorem value_append (base : Nat) (front digits : List Char) :
    value base (front ++ digits) =
      value base front * Nat.pow base digits.length + value base digits := by
  induction digits using List.reverseRecOn with
  | nil => simp [value]
  | append_singleton digits c ih =>
    have hpow : Nat.pow base (digits.length + 1) = Nat.pow base digits.length * base := rfl
    rw [← List.append_assoc, value_append_singleton, value_append_singleton, ih,
      List.length_append, List.length_singleton, hpow, Nat.mul_add, Nat.add_assoc,
      Nat.mul_left_comm, Nat.mul_comm base]

/-- Digits reach just below a power of sixteen. -/
theorem value_lt (h : ∀ c ∈ digits, isHexDigit c) :
    value 16 digits < Nat.pow 16 digits.length := by
  induction digits using List.reverseRecOn with
  | nil => exact Nat.one_pos
  | append_singleton digits c ih =>
    obtain ⟨hdigits, hlast⟩ := List.forall_mem_append.mp h
    have hfront : value 16 digits < Nat.pow 16 digits.length := ih hdigits
    have hdigit : digitValue c < 16 := (digitChar_digitValue (hlast c List.mem_cons_self)).1
    have hpow : Nat.pow 16 (digits.length + 1) = Nat.pow 16 digits.length * 16 := rfl
    rw [value_append_singleton, List.length_append, List.length_singleton, hpow]
    omega

/-! ## Numerals of a width -/

/-- **The hexadecimal digits of a number**, behind zeros up to a width. -/
def padded (width n : Nat) : List Char :=
  List.replicate (width - (Nat.toDigits 16 n).length) '0' ++ Nat.toDigits 16 n

theorem padded_one (h : n < 16) : padded 1 n = [Nat.digitChar n] := by
  unfold padded
  rw [Nat.toDigits_of_lt_base h]
  rfl

/-- **The last digit is the rest by sixteen**, and those before it are the
digits of the quotient. -/
theorem padded_succ (h : 0 < width) (n : Nat) :
    padded (width + 1) n = padded width (n / 16) ++ [Nat.digitChar (n % 16)] := by
  have hdigits : Nat.toDigits 16 n =
      if n < 16 then [Nat.digitChar n] else Nat.toDigits 16 (n / 16) ++ [Nat.digitChar (n % 16)] :=
    Nat.toDigits_eq_if (by decide)
  unfold padded
  by_cases hn : n < 16
  · -- a single digit, in front of which all are zeros
    obtain ⟨width, rfl⟩ : ∃ k, width = k + 1 := ⟨width - 1, by omega⟩
    have hzeros : List.replicate (width + 1) '0' = List.replicate width '0' ++ ['0'] :=
      List.replicate_succ'
    rw [hdigits, if_pos hn, Nat.div_eq_of_lt hn, Nat.mod_eq_of_lt hn]
    exact congrArg (· ++ [Nat.digitChar n]) hzeros
  · rw [hdigits, if_neg hn, List.length_append, List.length_singleton, Nat.add_sub_add_right,
      List.append_assoc]

theorem length_padded (hwidth : 0 < width) (h : n < Nat.pow 16 width) :
    (padded width n).length = width := by
  have hlength : (Nat.toDigits 16 n).length ≤ width :=
    (Nat.length_toDigits_le_iff (by decide) hwidth).mpr h
  unfold padded
  rw [List.length_append, List.length_replicate]
  omega

/-- **A number that fits the width is read back from its digits.** -/
theorem value_padded (h : n < Nat.pow 16 (width + 1)) :
    (∀ c ∈ padded (width + 1) n, isHexDigit c) ∧ value 16 (padded (width + 1) n) = n := by
  induction width generalizing n with
  | zero =>
    obtain ⟨hhex, hvalue⟩ := digitValue_digitChar (n := n) h
    rw [padded_one h]
    exact ⟨List.forall_mem_singleton.mpr hhex, (value_singleton 16 _).trans hvalue⟩
  | succ width ih =>
    have hpow : Nat.pow 16 (width + 1 + 1) = Nat.pow 16 (width + 1) * 16 := rfl
    have hquotient : n / 16 < Nat.pow 16 (width + 1) := by omega
    obtain ⟨hfront, hvalue⟩ := ih hquotient
    obtain ⟨hlast, hdigit⟩ := digitValue_digitChar (Nat.mod_lt n (by decide : 0 < 16))
    rw [padded_succ (Nat.succ_pos width)]
    refine ⟨List.forall_mem_append.mpr ⟨hfront, List.forall_mem_singleton.mpr hlast⟩, ?_⟩
    rw [value_append_singleton, hvalue, hdigit]
    exact Nat.div_add_mod n 16

/-- A number is read back from its digits without zeros in front, too. -/
theorem value_toDigits (n : Nat) :
    (∀ c ∈ Nat.toDigits 16 n, isHexDigit c) ∧ value 16 (Nat.toDigits 16 n) = n := by
  obtain ⟨width, hwidth⟩ : ∃ width, (Nat.toDigits 16 n).length = width + 1 :=
    Nat.exists_eq_add_one.mpr Nat.length_toDigits_pos
  have hfits : n < Nat.pow 16 (width + 1) :=
    (Nat.length_toDigits_le_iff (by decide) (Nat.succ_pos _)).mp (Nat.le_of_eq hwidth)
  have hread := value_padded hfits
  rwa [padded, hwidth, Nat.sub_self, List.replicate_zero, List.nil_append] at hread

/-- **Digits that are read are written as they were**, in lower case. -/
theorem padded_value (hne : digits ≠ []) (h : ∀ c ∈ digits, isHexDigit c) :
    padded digits.length (value 16 digits) = digits.map Char.toLower := by
  induction digits using List.reverseRecOn with
  | nil => exact absurd rfl hne
  | append_singleton digits c ih =>
    obtain ⟨hdigits, hlast⟩ := List.forall_mem_append.mp h
    obtain ⟨hdigit, hlower⟩ := digitChar_digitValue (hlast c List.mem_cons_self)
    rw [value_append_singleton, List.length_append, List.length_singleton, List.map_append,
      List.map_singleton]
    by_cases hnil : digits = []
    · rw [hnil]
      have hsingle : 16 * value 16 [] + digitValue c = digitValue c := Nat.zero_add _
      rw [hsingle, List.length_nil, Nat.zero_add, padded_one hdigit, hlower]
      rfl
    · have hquotient : (16 * value 16 digits + digitValue c) / 16 = value 16 digits := by omega
      have hrest : (16 * value 16 digits + digitValue c) % 16 = digitValue c := by omega
      rw [padded_succ (List.length_pos_iff.mpr hnil), hquotient, hrest, ih hnil hdigits, hlower]

end Numeral

end StyledMarkdown
