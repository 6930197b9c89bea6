import StyledMarkdown.Proofs.Number.Digits
/-!
# Counting digits in words

`digitCount` has numbers of any size to count with, and an allowance of
turns. A processor has words: 32 bits for the digits, 128 bits with a sign
for the bound, and a loop that goes on for as long as the number has not
fallen below the bound. Here the loop is run on words, where a result that
does not fit loses its high bits. The guard is what keeps the words sound:
a bound that a list number has not fallen below is far from the end of its
word, so ten times as much still fits, and the loop is over after at most
eighteen turns, long before the allowance is used up.
-/

namespace StyledMarkdown

/-- **A count of digits under way**: numbers below `bound` have no more
digits than so many. -/
structure Tally where
  digits : BitVec 32
  bound : BitVec 128

namespace Tally

/-- One digit reaches just below ten. -/
def start : Tally := ⟨1, 10⟩

/-- **One turn of the loop**: a digit more and ten times the bound, each cut
to its word. -/
def turn (tally : Tally) : Tally := ⟨tally.digits + 1, tally.bound * 10⟩

/-- The turn from here cuts something off. -/
def RunsOver (tally : Tally) : Prop :=
  tally.digits.uaddOverflow 1 ∨ tally.bound.smulOverflow 10

instance (tally : Tally) : Decidable tally.RunsOver :=
  inferInstanceAs (Decidable (_ ∨ _))

/-- The guard of the loop: the number has not fallen below the bound. -/
def GoesOn (n : Ordinal) (tally : Tally) : Prop := tally.bound.toInt ≤ n.val

/-- The tally after so many turns. -/
def after : Nat → Tally
  | 0 => start
  | turns + 1 => (after turns).turn

/-- **The loop ends after so many turns**: the guard let each of them happen,
and no other. -/
structure EndsAfter (n : Ordinal) (turns : Nat) : Prop where
  goesOn : ∀ earlier < turns, (after earlier).GoesOn n
  stops : ¬ (after turns).GoesOn n

/-- Nothing has been cut off in so many turns. -/
structure IsExact (tally : Tally) (turns : Nat) : Prop where
  digits : tally.digits.toNat = turns + 1
  bound : tally.bound.toInt = (Nat.pow 10 (turns + 1) : Int)

variable {n : Ordinal} {tally : Tally} {turns : Nat}

/-! ## One turn -/

theorem isExact_start : start.IsExact 0 := ⟨rfl, by decide⟩

/-- The guard asks whether the number has more digits than are counted. -/
theorem IsExact.goesOn_iff (h : tally.IsExact turns) :
    tally.GoesOn n ↔ turns + 1 < digitCount n := by
  have hcount : digitCount n ≤ turns + 1 ↔ n.val.toNat < Nat.pow 10 (turns + 1) :=
    digitCount_le_iff (Nat.succ_pos turns)
  have hpos : 0 < Nat.pow 10 (turns + 1) := Nat.pow_pos (by decide)
  unfold GoesOn
  rw [h.bound]
  omega

/-- **The guard keeps the words from running over**: a list number has 64 bits,
and ten times a bound that it has not fallen below is far from 128. -/
theorem IsExact.not_runsOver (h : tally.IsExact turns) (hgoes : tally.GoesOn n) :
    ¬ tally.RunsOver := by
  have hturns : turns + 1 < digitCount n := h.goesOn_iff.mp hgoes
  have hnineteen : digitCount n ≤ 19 := digitCount_le n
  have hdigits : tally.digits.toNat = turns + 1 := h.digits
  have hle : tally.bound.toInt ≤ n.val := hgoes
  have hnonneg : 0 ≤ tally.bound.toInt := by
    rw [h.bound]
    exact Int.natCast_nonneg _
  have hupper := n.upper
  have hcapacity : (capacity (64 - 1) : Int) * 10 < 2 ^ (128 - 1) := by decide
  have hone : (1 : BitVec 32).toNat = 1 := by decide
  have hten : (10 : BitVec 128).toInt = 10 := by decide
  unfold RunsOver BitVec.uaddOverflow BitVec.smulOverflow
  rw [hone, hten, Bool.or_eq_true, decide_eq_true_eq, decide_eq_true_eq, decide_eq_true_eq]
  omega

/-- With no guard the bound runs over in the thirty-eighth turn. -/
example : (after 37).RunsOver := by decide

/-- A turn that cuts nothing off is exact. -/
theorem IsExact.turn (h : tally.IsExact turns) (hfits : ¬ tally.RunsOver) :
    tally.turn.IsExact (turns + 1) := by
  obtain ⟨hadd, hmul⟩ := not_or.mp hfits
  constructor
  · calc (tally.digits + 1).toNat
        = tally.digits.toNat + (1 : BitVec 32).toNat := BitVec.toNat_add_of_not_uaddOverflow hadd
      _ = turns + 1 + 1 := by rw [h.digits]; rfl
  · calc (tally.bound * 10).toInt
        = tally.bound.toInt * (10 : BitVec 128).toInt := BitVec.toInt_mul_of_not_smulOverflow hmul
      _ = (Nat.pow 10 (turns + 1 + 1) : Int) := by rw [h.bound]; rfl

/-! ## The loop -/

/-- Up to the digits of the number nothing is cut off. -/
theorem isExact_after (n : Ordinal) :
    ∀ turns, turns < digitCount n → (after turns).IsExact turns := by
  intro turns
  induction turns with
  | zero => exact fun _ => isExact_start
  | succ turns ih =>
    intro h
    have hexact : (after turns).IsExact turns := ih (Nat.lt_of_succ_lt h)
    have hgoes : (after turns).GoesOn n := hexact.goesOn_iff.mpr h
    exact hexact.turn (hexact.not_runsOver hgoes)

/-- **The count with numbers of any size takes the same turns**, and then has
the rest of its allowance left. -/
theorem digitsFrom_after (n : Ordinal) (rest : Nat) :
    ∀ turns, turns < digitCount n →
      digitsFrom n.val 10 1 (turns + rest) =
        digitsFrom n.val (after turns).bound.toInt.toNat (after turns).digits.toNat rest := by
  intro turns
  induction turns generalizing rest with
  | zero =>
    intro h
    rw [Nat.zero_add]
    rfl
  | succ turns ih =>
    intro h
    have hexact : (after turns).IsExact turns := isExact_after n turns (Nat.lt_of_succ_lt h)
    have hnext : (after (turns + 1)).IsExact (turns + 1) := isExact_after n (turns + 1) h
    have hgoes : (Nat.pow 10 (turns + 1) : Int) ≤ n.val :=
      hexact.bound ▸ hexact.goesOn_iff.mpr h
    rw [Nat.succ_add_eq_add_succ, ih (rest + 1) (Nat.lt_of_succ_lt h), hexact.bound,
      hexact.digits, hnext.bound, hnext.digits, Int.toNat_natCast, Int.toNat_natCast, digitsFrom,
      if_pos hgoes, Nat.mul_comm]
    rfl

end Tally

/-- **The digits of a list number are counted in words.** The loop ends, no
turn of it cuts anything off, and the count with numbers of any size has the
same tallies on the way and ends with the same digits. They are those of the
numeral from zero on and one digit below zero, so a greater number has no
fewer. -/
theorem digits_counted_in_words (n : Ordinal) :
    (∃ turns ≤ 18, Tally.EndsAfter n turns ∧
      (∀ earlier < turns, ¬ (Tally.after earlier).RunsOver) ∧
      (∀ passed ≤ turns, ∀ rest, digitsFrom n.val 10 1 (passed + rest) =
        digitsFrom n.val (Tally.after passed).bound.toInt.toNat
          (Tally.after passed).digits.toNat rest) ∧
      (Tally.after turns).digits.toNat = digitCount n) ∧
    digitCount n = (if 0 ≤ n.val then (decimal n.val).length else 1) ∧
    ∀ m : Ordinal, n.val ≤ m.val → digitCount n ≤ digitCount m := by
  have hpos : 0 < digitCount n := digitCount_pos n
  have hnineteen : digitCount n ≤ 19 := digitCount_le n
  have hexact : ∀ passed ≤ digitCount n - 1, (Tally.after passed).IsExact passed :=
    fun passed h => Tally.isExact_after n passed (by omega)
  have hgoes : ∀ earlier < digitCount n - 1, (Tally.after earlier).GoesOn n := fun earlier h =>
    (hexact earlier (Nat.le_of_lt h)).goesOn_iff.mpr (by omega)
  refine ⟨⟨digitCount n - 1, by omega, ⟨hgoes, fun h => ?_⟩, fun earlier h => ?_,
    fun passed h rest => ?_, ?_⟩, ?_, fun m => digitCount_mono⟩
  · -- the tally reached has as many digits as the number
    have hmore := (hexact _ (Nat.le_refl _)).goesOn_iff.mp h
    omega
  · exact (hexact earlier (Nat.le_of_lt h)).not_runsOver (hgoes earlier h)
  · exact Tally.digitsFrom_after n rest passed (by omega)
  · rw [(hexact _ (Nat.le_refl _)).digits]
    omega
  · split
    · next hnonneg => exact (length_decimal_of_nonneg hnonneg).symm
    · next hneg => exact digitCount_of_neg (Int.not_le.mp hneg)

/-- The greatest number has as many digits as there can be. -/
example : digitCount Saturating.greatest = 19 := by decide

end StyledMarkdown
