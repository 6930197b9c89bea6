import StyledMarkdown.Number.Numeral
import StyledMarkdown.Toml.Value
/-!
# Words

Truth values, numbers, dates and times are written as single words. A
word is read as a whole: either all of it is one of these or it is
nothing.
-/

namespace StyledMarkdown.Toml

/-! ## Numbers -/

/-- Digits without the underscores between them. An underscore stands
between two digits. -/
def digitGroups? (isDigit : Char → Bool) : List Char → Option (List Char)
  | [] => none
  | [c] => if isDigit c then some [c] else none
  | c :: '_' :: rest => if isDigit c then (c :: ·) <$> digitGroups? isDigit rest else none
  | c :: rest => if isDigit c then (c :: ·) <$> digitGroups? isDigit rest else none

/-- An integer, when some width of up to 128 bits holds it. -/
def integerValue (n : Int) : Value :=
  if -(capacity 127 : Int) ≤ n && n < capacity 128 then .integer n else .outOfRange

/-- A float, when it is no greater than every number of double precision. -/
def floatValue (x : Binary) : Value :=
  match x with
  | .infinite _ => .outOfRange
  | x => .float x

/-- The base that a letter behind a zero names, and its digits. -/
def base? : Char → Option (Nat × (Char → Bool))
  | 'x' => some (16, Numeral.isHexDigit)
  | 'o' => some (8, Numeral.isOctalDigit)
  | 'b' => some (2, fun c => c == '0' || c == '1')
  | _ => none

/-- The power of ten behind an exponent sign. -/
def exponent? (cs : List Char) : Option Int :=
  match cs with
  | '-' :: cs => (digitGroups? Char.isDigit cs).map fun digits => -(Numeral.value 10 digits : Int)
  | '+' :: cs => (digitGroups? Char.isDigit cs).map fun digits => (Numeral.value 10 digits : Int)
  | cs => (digitGroups? Char.isDigit cs).map fun digits => (Numeral.value 10 digits : Int)

/-- A number in base ten behind its sign. A leading zero stands alone. -/
def decimal? (negative : Bool) (cs : List Char) : Option Value := do
  let isPart (c : Char) : Bool := c.isDigit || c == '_'
  let whole ← digitGroups? Char.isDigit (cs.takeWhile isPart)
  if whole.head? == some '0' && whole.length != 1 then none
  let float (places : List Char) (exponent : Int) : Value :=
    floatValue (.ofDecimal .double negative (Numeral.value 10 (whole ++ places))
      (exponent - places.length))
  match cs.dropWhile isPart with
  | [] =>
    let n : Int := Numeral.value 10 whole
    return integerValue (if negative then -n else n)
  | '.' :: rest =>
    let places ← digitGroups? Char.isDigit (rest.takeWhile isPart)
    match rest.dropWhile isPart with
    | [] => return float places 0
    | e :: rest => if e == 'e' || e == 'E' then return float places (← exponent? rest) else none
  | e :: rest => if e == 'e' || e == 'E' then return float [] (← exponent? rest) else none

/-- A number behind its sign, or one of the two words for what is no number. -/
def signed? (negative : Bool) (cs : List Char) : Option Value :=
  match cs with
  | ['i', 'n', 'f'] => some (.float (.infinite negative))
  | ['n', 'a', 'n'] => some (.float .nan)
  | cs => decimal? negative cs

/-! ## Dates and times -/

/-- The number in the first `count` characters, all of them digits, and the rest. -/
def digits? (count : Nat) (cs : List Char) : Option (Nat × List Char) :=
  let digits := cs.take count
  if digits.length = count && digits.all Char.isDigit then
    some (Numeral.value 10 digits, cs.drop count)
  else none

/-- What follows a certain character. -/
def behind? (c : Char) : List Char → Option (List Char)
  | d :: rest => if c == d then some rest else none
  | [] => none

def daysInMonth (year month : Nat) : Nat :=
  if month == 2 then
    if (year % 4 == 0 && year % 100 != 0) || year % 400 == 0 then 29 else 28
  else if month == 4 || month == 6 || month == 9 || month == 11 then 30 else 31

/-- What follows a date. -/
def date? (cs : List Char) : Option (List Char) := do
  let (year, rest) ← digits? 4 cs
  let (month, rest) ← digits? 2 (← behind? '-' rest)
  let (day, rest) ← digits? 2 (← behind? '-' rest)
  if 1 ≤ month && month ≤ 12 && 1 ≤ day && day ≤ daysInMonth year month then rest else none

/-- What follows the seconds of a time, which may have a fraction. A
second may be a leap second. -/
def seconds? (cs : List Char) : Option (List Char) := do
  let (second, rest) ← digits? 2 cs
  if 60 < second then none else
  match rest with
  | '.' :: rest =>
    if (rest.takeWhile Char.isDigit).isEmpty then none else rest.dropWhile Char.isDigit
  | rest => rest

/-- What follows a time of the day, whose seconds may be missing. -/
def time? (cs : List Char) : Option (List Char) := do
  let (hour, rest) ← digits? 2 cs
  let (minute, rest) ← digits? 2 (← behind? ':' rest)
  if 23 < hour || 59 < minute then none else
  match rest with
  | ':' :: rest => seconds? rest
  | rest => rest

/-- Whether a text is the offset of a time zone, or empty. -/
def isOffset (cs : List Char) : Bool :=
  match cs with
  | [] | ['Z'] | ['z'] => true
  | sign :: rest =>
    let ends : Option Bool := do
      let (hour, rest) ← digits? 2 rest
      let (minute, rest) ← digits? 2 (← behind? ':' rest)
      return hour ≤ 23 && minute ≤ 59 && rest.isEmpty
    (sign == '+' || sign == '-') && ends.getD false

/-- Whether a word is a date, a time or both. -/
def isDatetime (cs : List Char) : Bool :=
  match date? cs with
  | some [] => true
  | some (separator :: rest) =>
    (separator == 'T' || separator == 't' || separator == ' ') && ((time? rest).any isOffset)
  | none => (time? cs).any List.isEmpty

/-! ## Words -/

/-- **The value of a word.** -/
def scalar? (word : List Char) : Option Value :=
  match word with
  | ['t', 'r', 'u', 'e'] => some (.boolean true)
  | ['f', 'a', 'l', 's', 'e'] => some (.boolean false)
  | '+' :: rest => signed? false rest
  | '-' :: rest => signed? true rest
  | cs =>
    if isDatetime cs then some .datetime else
    match cs with
    | '0' :: letter :: rest =>
      match base? letter with
      | some (base, isDigit) =>
        (digitGroups? isDigit rest).map fun digits => integerValue (Numeral.value base digits)
      | none => signed? false cs
    | cs => signed? false cs

end StyledMarkdown.Toml
