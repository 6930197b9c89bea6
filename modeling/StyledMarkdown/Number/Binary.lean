import StyledMarkdown.Number.Saturating
/-!
# Binary floating point, exactly

A number is a mantissa times a power of two, an infinity, or not a
number at all. Nothing here is approximate: an operation computes the
exact quotient of naturals and rounds it once, to the nearest number of
the format and to the even mantissa on a tie. A format is a value, so
reading a text in double precision and keeping it in single precision
rounds twice, as it must.
-/

namespace StyledMarkdown

/-- A format: mantissas stay below `2 ^ precision`, and a mantissa counts
units between `2 ^ least` and `2 ^ greatest`. -/
structure Format where
  precision : Nat
  least : Int
  greatest : Int

namespace Format

/-- Thirty-two bits in all. -/
def single : Format := ⟨24, -149, 104⟩

/-- Sixty-four bits in all. -/
def double : Format := ⟨53, -1074, 971⟩

end Format

/-- A floating-point number. A finite one is `mantissa * 2 ^ exponent`
under its sign, and a zero keeps its sign. -/
inductive Binary where
  | nan
  | infinite (negative : Bool)
  | finite (negative : Bool) (mantissa : Nat) (exponent : Int)

namespace Binary

instance : Inhabited Binary := ⟨.nan⟩

/-- The integer part of `n / d * 2 ^ -e`, with what is left over and the
divisor it is left over from. -/
def scaledDiv (n d : Nat) (e : Int) : Nat × Nat × Nat :=
  let top := n <<< (-e).toNat
  let bottom := d <<< e.toNat
  (top / bottom, top % bottom, bottom)

/-- **The number of the format nearest to `n / d`**, the even mantissa on
a tie. What lies beyond the greatest number is infinite. -/
def ofRatio (f : Format) (negative : Bool) (n d : Nat) : Binary :=
  if n = 0 then .finite negative 0 f.least else
  let guess := max ((n.log2 : Int) - d.log2 - f.precision) f.least
  let exponent := if capacity f.precision ≤ (scaledDiv n d guess).1 then guess + 1 else guess
  let (quotient, rest, divisor) := scaledDiv n d exponent
  let up := divisor < 2 * rest || (divisor == 2 * rest && quotient % 2 == 1)
  let mantissa := if up then quotient + 1 else quotient
  let (mantissa, exponent) :=
    if mantissa = capacity f.precision then (capacity (f.precision - 1), exponent + 1)
    else (mantissa, exponent)
  if f.greatest < exponent then .infinite negative else .finite negative mantissa exponent

/-- The same number in another format. -/
def round (f : Format) : Binary → Binary
  | .finite negative mantissa exponent =>
    ofRatio f negative (mantissa <<< exponent.toNat) (1 <<< (-exponent).toNat)
  | other => other

def ofInt (f : Format) (n : Int) : Binary := ofRatio f (n < 0) n.natAbs 1

/-- The number nearest to `digits * 10 ^ exponent`. Powers far outside
the format are not worked out: eight is below ten, so three bits a place
already settle them. -/
def ofDecimal (f : Format) (negative : Bool) (digits : Nat) (exponent : Int) : Binary :=
  if digits = 0 then .finite negative 0 f.least else
  let places : Int := exponent + (Nat.toDigits 10 digits).length
  if f.greatest + f.precision < 3 * (places - 1) then .infinite negative
  else if 3 * places < f.least - 2 then .finite negative 0 f.least
  else ofRatio f negative (digits * Nat.pow 10 exponent.toNat) (Nat.pow 10 (-exponent).toNat)

/-- The rounded product. Zero times infinity is not a number. -/
def mul (f : Format) : Binary → Binary → Binary
  | .nan, _ => .nan
  | _, .nan => .nan
  | .infinite s, .infinite t => .infinite (s != t)
  | .infinite s, .finite t m _ => if m = 0 then .nan else .infinite (s != t)
  | .finite s m _, .infinite t => if m = 0 then .nan else .infinite (s != t)
  | .finite s m d, .finite t n e =>
    ofRatio f (s != t) ((m * n) <<< (d + e).toNat) (1 <<< (-(d + e)).toNat)

/-- **The integer part, clamped to the width.** What is not a number
counts as zero. -/
def truncate {bits : Nat} : Binary → Saturating bits
  | .nan => .clamp 0
  | .infinite negative => .clamp (if negative then -(capacity bits : Int) else capacity bits)
  | .finite negative mantissa exponent =>
    let whole : Nat := (mantissa <<< exponent.toNat) >>> (-exponent).toNat
    .clamp (if negative then -(whole : Int) else whole)

def isNaN : Binary → Bool
  | .nan => true
  | _ => false

/-- What is not a number equals nothing, and the two zeros are equal. -/
protected def beq : Binary → Binary → Bool
  | .infinite s, .infinite t => s == t
  | .finite s m d, .finite t n e => (m == 0 && n == 0) || (s == t && m == n && d == e)
  | _, _ => false

instance : BEq Binary := ⟨Binary.beq⟩

theorem beq_self {x : Binary} (h : x.isNaN = false) : (x == x) = true := by
  cases x <;> simp_all [isNaN, BEq.beq, Binary.beq]

end Binary

end StyledMarkdown
