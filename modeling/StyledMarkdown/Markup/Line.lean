/-!
# Lines

Markdown is read line by line, and the structure of a line is its
indentation. A cursor measures indentation in columns: a tab reaches the
next stop, four columns apart, and a tab that is only partly used up
leaves the rest of its columns as spaces still to take.
-/

namespace StyledMarkdown.Markup

/-- A line and the characters that end it; nothing ends the last one. -/
structure Line where
  text : List Char
  ending : List Char

/-- Splits what is left of a text; `current` is the line so far, latest character first. -/
def splitFrom (current : List Char) (lines : List Line) : List Char → List Line
  | [] => (if current.isEmpty then lines else ⟨current.reverse, []⟩ :: lines).reverse
  | '\r' :: '\n' :: rest => splitFrom [] (⟨current.reverse, ['\r', '\n']⟩ :: lines) rest
  | '\r' :: rest => splitFrom [] (⟨current.reverse, ['\r']⟩ :: lines) rest
  | '\n' :: rest => splitFrom [] (⟨current.reverse, ['\n']⟩ :: lines) rest
  | c :: rest => splitFrom (c :: current) lines rest

/-- The lines of a text. A line feed, a carriage return or both end a line. -/
def splitLines (text : List Char) : List Line := splitFrom [] [] text

/-- A line as a block of raw text has it, where a lone carriage return ends
no line. -/
def unbroken (line : Line) : List Line → Line × List Line
  | [] => (line, [])
  | next :: lines =>
    if line.ending = ['\r'] then unbroken ⟨line.text ++ '\r' :: next.text, next.ending⟩ lines
    else (line, next :: lines)

theorem length_unbroken_le (line : Line) (lines : List Line) :
    (unbroken line lines).2.length ≤ lines.length := by
  fun_induction unbroken line lines with
  | case1 => simp
  | case2 line next lines h ih => exact Nat.le_succ_of_le ih
  | case3 => simp

/-- A place in a line: what follows it, the columns since the last tab
stop, and the spaces that a tab behind it still stands for. -/
structure Cursor where
  rest : List Char
  column : Nat := 0
  owed : Nat := 0

namespace Cursor

/-- Takes spaces and tabs for up to `columns` columns, and says how many
of the columns are missing. -/
def takeColumns (columns column : Nat) : List Char → Nat × Cursor
  | ' ' :: rest =>
    match columns with
    | 0 => (0, { rest := ' ' :: rest, column })
    | wanted + 1 => takeColumns wanted (column + 1) rest
  | '\t' :: rest =>
    let width := 4 - column % 4
    if columns = 0 then (0, { rest := '\t' :: rest, column })
    else if width ≤ columns then takeColumns (columns - width) 0 rest
    else (0, { rest, owed := width - columns })
  | rest => (columns, { rest, column })

/-- **Indents by up to `columns` columns**, those owed by a tab first, and
says how many are missing. -/
def indent (columns : Nat) (c : Cursor) : Nat × Cursor :=
  if columns ≤ c.owed then (0, { c with owed := c.owed - columns })
  else takeColumns (columns - c.owed) c.column c.rest

/-- Past every space and tab. -/
def skipBlanks (c : Cursor) : Cursor :=
  { rest := c.rest.dropWhile fun ch => ch == ' ' || ch == '\t' }

/-- Past `n` characters of a marker, each one column wide. -/
def advance (n : Nat) (c : Cursor) : Cursor :=
  { c with rest := c.rest.drop n, column := c.column + n }

def atEnd (c : Cursor) : Bool := c.rest.isEmpty

end Cursor

end StyledMarkdown.Markup
