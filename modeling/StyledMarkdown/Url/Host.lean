import StyledMarkdown.Url.Domain
import StyledMarkdown.Url.Percent
/-!
# Hosts

A host is a name or an address. A name whose last label is a number is
an address of four bytes, in any of the shorter forms; an address of
eight pieces stands between brackets, and a run of zeros in it may be
left out.
-/

namespace StyledMarkdown.Url

inductive Host where
  /-- A name, which may be empty. -/
  | domain (name : List Char)
  | ipv4 (address : Nat)
  | ipv6 (pieces : List Nat)
deriving DecidableEq

namespace Host

/-! ## Four bytes -/

/-- The number in a part of an address: hexadecimal behind `0x`, octal
behind `0`, and otherwise decimal. -/
def ipv4Number? (part : List Char) : Option Nat :=
  let number (base : Nat) (isDigit : Char → Bool) (digits : List Char) : Option Nat :=
    if digits.all isDigit then some (Numeral.value base digits) else none
  match part with
  | [] => none
  | '0' :: 'x' :: digits | '0' :: 'X' :: digits => number 16 Numeral.isHexDigit digits
  | '0' :: d :: digits => number 8 Numeral.isOctalDigit (d :: digits)
  | digits => number 10 Char.isDigit digits

/-- The parts of a name, without the empty one behind a last full stop. -/
def partsOf (name : List Char) : List (List Char) :=
  let parts := Text.pieces '.' name
  if 1 < parts.length && parts.getLast?.any List.isEmpty then parts.dropLast else parts

/-- Whether a name can only be an address. -/
def endsInNumber (name : List Char) : Bool :=
  (partsOf name).getLast?.any fun last =>
    (!last.isEmpty && last.all Char.isDigit) || (ipv4Number? last).isSome

/-- An address from its numbers. Each is a byte but the last, which fills
the bytes that are left. -/
def ipv4OfNumbers? : Nat → List Nat → Option Nat
  | _, [] => none
  | bytes, [last] => if last < 1 <<< (8 * bytes) then some last else none
  | 0, _ => none
  | bytes + 1, n :: rest => do
    if 255 < n then none else return (n <<< (8 * bytes)) + (← ipv4OfNumbers? bytes rest)

def ipv4? (name : List Char) : Option Nat := do
  let parts := partsOf name
  if 4 < parts.length then none
  ipv4OfNumbers? 4 (← parts.mapM ipv4Number?)

/-- The bytes of an address with full stops between them. -/
def ipv4Text (address : Nat) : List Char :=
  Text.joinPieces '.' ([3, 2, 1, 0].map fun i => Nat.toDigits 10 ((address >>> (8 * i)) % 256))

/-! ## Eight pieces -/

/-- A byte in base ten without leading zeros. -/
def byte? (digits : List Char) : Option Nat :=
  let n := Numeral.value 10 digits
  if digits.isEmpty || !digits.all Char.isDigit || 255 < n then none
  else if digits.head? == some '0' && digits.length != 1 then none
  else some n

/-- The pieces between colons. The last of them may be two pieces written
as four bytes when `endsInBytes` allows it. -/
def ipv6Pieces? (endsInBytes : Bool) : List (List Char) → Option (List Nat)
  | [] => some []
  | part :: rest => do
    if rest.isEmpty && part.contains '.' then
      match ← (Text.pieces '.' part).mapM byte?, endsInBytes with
      | [a, b, c, d], true => return [256 * a + b, 256 * c + d]
      | _, _ => none
    else if part.isEmpty || 4 < part.length || !part.all Numeral.isHexDigit then none
    else return Numeral.value 16 part :: (← ipv6Pieces? endsInBytes rest)

/-- The pieces in a text, which has none when it is empty. -/
def ipv6Run? (endsInBytes : Bool) (cs : List Char) : Option (List Nat) :=
  if cs.isEmpty then some [] else ipv6Pieces? endsInBytes (Text.pieces ':' cs)

/-- A text around the first two colons in it. -/
def aroundGap? (before : List Char) : List Char → Option (List Char × List Char)
  | ':' :: ':' :: rest => some (before.reverse, rest)
  | c :: rest => aroundGap? (c :: before) rest
  | [] => none

def ipv6? (cs : List Char) : Option (List Nat) :=
  match aroundGap? [] cs with
  | some (before, after) => do
    let left ← ipv6Run? false before
    let right ← ipv6Run? true after
    let present := left.length + right.length
    if 7 < present then none else return left ++ List.replicate (8 - present) 0 ++ right
  | none => do
    let pieces ← ipv6Run? true cs
    if pieces.length = 8 then pieces else none

/-- Where the first of the longest runs of zeros begins, and its length. -/
def longestZeros (pieces : List Nat) : Nat × Nat :=
  (List.range pieces.length).foldl (fun best i =>
    let length := ((pieces.drop i).takeWhile (· == 0)).length
    if best.2 < length then (i, length) else best) (0, 0)

/-- The pieces with colons between them, where two zeros or more in a row
are left out once. -/
def ipv6Text (pieces : List Nat) : List Char :=
  let written (ps : List Nat) : List Char := Text.joinPieces ':' (ps.map (Nat.toDigits 16))
  let (start, length) := longestZeros pieces
  if length < 2 then written pieces
  else written (pieces.take start) ++ ':' :: ':' :: written (pieces.drop (start + length))

/-! ## Reading and writing -/

/-- What stands between brackets, if the text does. -/
def bracketed? (cs : List Char) : Option (Option (List Char)) :=
  match cs with
  | '[' :: rest => some (if rest.getLast? == some ']' then some rest.dropLast else none)
  | _ => none

/-- **A host under a special scheme**, where names are looked up. -/
def parse? (cs : List Char) : Option Host :=
  match bracketed? cs with
  | some inside => do return .ipv6 (← ipv6? (← inside))
  | none => do
    let name ← domainToAscii? (← decode? cs)
    if name.isEmpty then none
    else if endsInNumber name then return .ipv4 (← ipv4? name)
    else return .domain name

/-- A host under any other scheme, which is taken as it stands. -/
def parseOpaque? (cs : List Char) : Option Host :=
  match bracketed? cs with
  | some inside => do return .ipv6 (← ipv6? (← inside))
  | none =>
    if cs.any "\x00\t\n\r #/:<>?@[\\]^|".toList.contains then none
    else some (.domain (encode isControl cs))

def toText : Host → List Char
  | domain name => name
  | ipv4 address => ipv4Text address
  | ipv6 pieces => '[' :: ipv6Text pieces ++ [']']

def isEmpty : Host → Bool
  | domain name => name.isEmpty
  | _ => false

end Host

end StyledMarkdown.Url
