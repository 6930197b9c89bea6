import StyledMarkdown.Number.Numeral
/-!
# Quoted text

Text between quotes is basic, with escapes, or literal, without. Behind
three quotes it runs over lines: a line end right behind the opening
quotes is dropped, and a basic text may end a line in a backslash, which
joins it to the next character that is no blank.
-/

namespace StyledMarkdown.Toml

/-- A control character that no text and no comment holds. -/
def isForbidden (c : Char) : Bool := (c.toNat < 0x20 && c != '\t') || c.toNat == 0x7f

def isSpace (c : Char) : Bool := c == ' ' || c == '\t'

/-- What follows the end of a line. -/
def lineEnd? : List Char → Option (List Char)
  | '\n' :: rest => some rest
  | '\r' :: '\n' :: rest => some rest
  | _ => none

/-- The character whose number hexadecimal digits give. -/
def charOfHex? (digits : List Char) : Option Char :=
  let n := Numeral.value 16 digits
  if digits.all Numeral.isHexDigit && n.isValidChar then some (Char.ofNat n) else none

/-- The character that a letter behind a backslash stands for. -/
def escape? : Char → Option Char
  | 'b' => some '\x08'
  | 't' => some '\t'
  | 'n' => some '\n'
  | 'f' => some '\x0c'
  | 'r' => some '\r'
  | 'e' => some '\x1b'
  | '"' => some '"'
  | '\\' => some '\\'
  | _ => none

/-- Basic text up to its closing quote, latest character first, and what
follows the quote. -/
def basic? (taken : List Char) : List Char → Option (List Char × List Char)
  | '"' :: rest => some (taken, rest)
  | '\\' :: 'x' :: a :: b :: rest => do basic? ((← charOfHex? [a, b]) :: taken) rest
  | '\\' :: 'u' :: a :: b :: c :: d :: rest => do
    basic? ((← charOfHex? [a, b, c, d]) :: taken) rest
  | '\\' :: 'U' :: a :: b :: c :: d :: e :: f :: g :: h :: rest => do
    basic? ((← charOfHex? [a, b, c, d, e, f, g, h]) :: taken) rest
  | '\\' :: c :: rest => do basic? ((← escape? c) :: taken) rest
  | c :: rest => if isForbidden c then none else basic? (c :: taken) rest
  | [] => none

/-- Literal text up to its closing quote, latest character first, and what
follows the quote. -/
def literal? (taken : List Char) : List Char → Option (List Char × List Char)
  | '\'' :: rest => some (taken, rest)
  | c :: rest => if isForbidden c then none else literal? (c :: taken) rest
  | [] => none

/-- The end of a text between three quotes, where up to two quotes more
still belong to it. -/
def closeLines (quote : Char) (taken : List Char) (rest : List Char) : List Char × List Char :=
  let extra := (rest.take 2).takeWhile (· == quote)
  (extra ++ taken, rest.drop extra.length)

/-- Whether a line ends behind a backslash, blanks aside. -/
def joinsLines (rest : List Char) : Bool := (lineEnd? (rest.dropWhile isSpace)).isSome

/-- Basic text over lines, latest character first, and what follows it.
Blanks and line ends are dropped while `joining` lines. -/
def basicLines? (joining : Bool) (taken : List Char) : List Char → Option (List Char × List Char)
  | '"' :: '"' :: '"' :: rest => some (closeLines '"' taken rest)
  | '\r' :: '\n' :: rest =>
    basicLines? joining (if joining then taken else '\n' :: '\r' :: taken) rest
  | '\n' :: rest => basicLines? joining (if joining then taken else '\n' :: taken) rest
  | '\\' :: 'x' :: a :: b :: rest => do basicLines? false ((← charOfHex? [a, b]) :: taken) rest
  | '\\' :: 'u' :: a :: b :: c :: d :: rest => do
    basicLines? false ((← charOfHex? [a, b, c, d]) :: taken) rest
  | '\\' :: 'U' :: a :: b :: c :: d :: e :: f :: g :: h :: rest => do
    basicLines? false ((← charOfHex? [a, b, c, d, e, f, g, h]) :: taken) rest
  | '\\' :: c :: rest =>
    if joinsLines (c :: rest) then basicLines? true taken (c :: rest)
    else do basicLines? false ((← escape? c) :: taken) rest
  | c :: rest =>
    if isForbidden c then none
    else if joining && isSpace c then basicLines? true taken rest
    else basicLines? false (c :: taken) rest
  | [] => none

/-- Literal text over lines, latest character first, and what follows it. -/
def literalLines? (taken : List Char) : List Char → Option (List Char × List Char)
  | '\'' :: '\'' :: '\'' :: rest => some (closeLines '\'' taken rest)
  | '\r' :: '\n' :: rest => literalLines? ('\n' :: '\r' :: taken) rest
  | '\n' :: rest => literalLines? ('\n' :: taken) rest
  | c :: rest => if isForbidden c then none else literalLines? (c :: taken) rest
  | [] => none

/-- Text on one line, and what follows it. -/
def quotedLine? (cs : List Char) : Option (String × List Char) := do
  let (taken, rest) ← match cs with
    | '"' :: rest => basic? [] rest
    | '\'' :: rest => literal? [] rest
    | _ => none
  return (String.ofList taken.reverse, rest)

/-- **Quoted text of any kind**, and what follows it. -/
def quoted? (cs : List Char) : Option (String × List Char) :=
  let withoutLineEnd (rest : List Char) : List Char := (lineEnd? rest).getD rest
  let close (text : List Char × List Char) : String × List Char :=
    (String.ofList text.1.reverse, text.2)
  match cs with
  | '"' :: '"' :: '"' :: rest => (basicLines? false [] (withoutLineEnd rest)).map close
  | '\'' :: '\'' :: '\'' :: rest => (literalLines? [] (withoutLineEnd rest)).map close
  | cs => quotedLine? cs

end StyledMarkdown.Toml
