/-!
# Punycode

A label with characters beyond ASCII, written in ASCII: the characters
that are ASCII already, and then numbers of variable length that say
which character comes in where. The numbers are steps over all pairs of
a code point and a place, in order, so one that is near costs little.
-/

namespace StyledMarkdown.Url

/-! ## Numbers of variable length -/

def digitChar (d : Nat) : Char := Char.ofNat (if d < 26 then 97 + d else 22 + d)

def digitOf? (c : Char) : Option Nat :=
  if c.isLower then some (c.toNat - 97)
  else if c.isUpper then some (c.toNat - 65)
  else if c.isDigit then some (c.toNat - 22)
  else none

/-- The least digit at a place that is followed by another. -/
def threshold (place bias : Nat) : Nat := max 1 (min 26 (place - bias))

theorem threshold_pos (place bias : Nat) : 0 < threshold place bias := by
  simp only [threshold]
  omega

/-- The digits of a number, the lowest one first. -/
def numberDigits (bias place n : Nat) : List Char :=
  let t := threshold place bias
  if n < t then [digitChar n]
  else digitChar (t + (n - t) % (36 - t)) :: numberDigits bias (place + 36) ((n - t) / (36 - t))
termination_by n
decreasing_by
  have := threshold_pos place bias
  have := Nat.div_le_self (n - threshold place bias) (36 - threshold place bias)
  omega

/-- Reads a number onto `n`, its digits counting `weight` times, and
leaves the text behind it. -/
def readNumber? (bias place weight n : Nat) : List Char → Option (Nat × List Char)
  | [] => none
  | c :: rest => do
    let d ← digitOf? c
    let t := threshold place bias
    if d < t then return (n + d * weight, rest)
    else readNumber? bias (place + 36) (weight * (36 - t)) (n + d * weight) rest

/-- Scales a step down to where its last digit is expected to lie. -/
def settle (step place : Nat) : Nat :=
  if 455 < step then settle (step / 35) (place + 36) else place + 36 * step / (step + 38)
termination_by step
decreasing_by omega

/-- The bias behind a step, when `count` characters are in place. -/
def adapt (step count : Nat) (first : Bool) : Nat :=
  let step := if first then step / 700 else step / 2
  settle (step + step / count) 0

/-! ## Labels -/

/-- What an encoder has written, latest character first, and where it is:
the steps since the last number, the bias, and the characters in place. -/
structure Encoder where
  output : List Char
  step : Nat := 0
  bias : Nat := 72
  placed : Nat

/-- Passes a character while the characters `n` are put in place. -/
def Encoder.pass (basic n : Nat) (e : Encoder) (c : Char) : Encoder :=
  if c.toNat < n then { e with step := e.step + 1 }
  else if c.toNat = n then
    { output := (numberDigits e.bias 36 e.step).reverse ++ e.output
      step := 0
      bias := adapt e.step (e.placed + 1) (e.placed == basic)
      placed := e.placed + 1 }
  else e

/-- **The written form of a label**, without a mark in front. -/
def punycode (label : List Char) : List Char :=
  let basic := label.filter fun c => c.toNat < 0x80
  let start : Encoder :=
    { output := if basic.isEmpty then [] else '-' :: basic.reverse, placed := basic.length }
  let codes := ((label.filter fun c => 0x80 ≤ c.toNat).map Char.toNat).mergeSort.eraseDups
  let round (state : Encoder × Nat) (n : Nat) : Encoder × Nat :=
    let e := { state.1 with step := state.1.step + (n - state.2) * (state.1.placed + 1) }
    let e := label.foldl (Encoder.pass basic.length n) e
    ({ e with step := e.step + 1 }, n + 1)
  (codes.foldl round (start, 0x80)).1.output.reverse

/-- Puts characters into a label by the numbers in a text, from the place
`i` and the code point `n` on. -/
def insertAll? (first : Bool) (bias n i : Nat) (label : List Char) :
    Nat → List Char → Option (List Char)
  | _, [] => some label
  | 0, _ => none
  | fuel + 1, digits => do
    let (next, rest) ← readNumber? bias 36 1 i digits
    let count := label.length + 1
    let n := n + next / count
    let place := next % count
    if n.isValidChar then
      insertAll? false (adapt (next - i) count first) n (place + 1)
        (label.take place ++ Char.ofNat n :: label.drop place) fuel rest
    else none

/-- **The label that a text stands for**, if it is the written form of one. -/
def ofPunycode? (text : List Char) : Option (List Char) :=
  let digits := (text.reverse.takeWhile (· != '-')).reverse
  let basic := text.take (text.length - digits.length - 1)
  if basic.isEmpty && digits.length < text.length then none
  else insertAll? true 72 0x80 0 basic digits.length digits

end StyledMarkdown.Url
