/-!
# Blanks

The characters with the white space property, and trimming by them.
-/

namespace StyledMarkdown.Text

def isBlank (c : Char) : Bool :=
  let n := c.toNat
  (0x9 ≤ n && n ≤ 0xd) || n == 0x20 || n == 0x85 || n == 0xa0 || n == 0x1680 ||
    (0x2000 ≤ n && n ≤ 0x200a) || n == 0x2028 || n == 0x2029 || n == 0x202f || n == 0x205f ||
    n == 0x3000

/-- The blanks of ASCII: the space and the five controls from the tab to the carriage return. -/
def isAsciiBlank (c : Char) : Bool := (0x9 ≤ c.toNat && c.toNat ≤ 0xd) || c == ' '

/-- The blanks of ASCII that do not end a line. -/
def isInlineBlank (c : Char) : Bool := isAsciiBlank c && c != '\n' && c != '\r'

/-- A text without its leading blanks. -/
def trimStart (cs : List Char) : List Char := cs.dropWhile isBlank

/-- A text without its trailing blanks. -/
def trimEnd (cs : List Char) : List Char := (cs.reverse.dropWhile isBlank).reverse

def trim (cs : List Char) : List Char := trimEnd (trimStart cs)

end StyledMarkdown.Text
