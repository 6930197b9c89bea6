import StyledMarkdown.Number.Saturating
/-!
# Decimal numerals

Integers as text, and how many cells of one digit a number needs.
-/

namespace StyledMarkdown

/-- An integer in decimal, behind a minus sign when it is negative. -/
def decimal (n : Int) : List Char :=
  if n < 0 then '-' :: Nat.toDigits 10 n.natAbs else Nat.toDigits 10 n.natAbs

/-- Counts up while the number has not fallen below the bound: `digits`
digits reach just below `bound`. -/
def digitsFrom (n : Int) (bound digits : Nat) : Nat → Nat
  | 0 => digits
  | fuel + 1 => if (bound : Int) ≤ n then digitsFrom n (10 * bound) (digits + 1) fuel else digits

/-- **The number of decimal digits of a list number.** Whatever is below
ten has one, the negative numbers too. Nineteen digits are the most. -/
def digitCount (n : Ordinal) : Nat := digitsFrom n.val 10 1 19

end StyledMarkdown
