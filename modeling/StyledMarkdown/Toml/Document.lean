import StyledMarkdown.Toml.Draft
import StyledMarkdown.Toml.Quoted
import StyledMarkdown.Toml.Scalar
/-!
# Documents

A document is a run of lines. A line adds a value under a key to the
table that is open, or opens another table by its header. Values nest in
arrays and inline tables, up to a limit.
-/

namespace StyledMarkdown.Toml

/-- Reads a part of a document from the front of a text, and leaves the rest. -/
abbrev Reader := StateT (List Char) Option

/-- How deep arrays and inline tables may nest. -/
def maxDepth : Nat := 80

/-! ## Blanks -/

/-- A text from the first character that is no blank, line end or part of
a comment. -/
def skipBlanks? (inComment : Bool) : List Char → Option (List Char)
  | [] => some []
  | '\n' :: rest => skipBlanks? false rest
  | '\r' :: '\n' :: rest => skipBlanks? false rest
  | c :: rest =>
    if inComment then if isForbidden c then none else skipBlanks? true rest
    else if isSpace c then skipBlanks? false rest
    else if c == '#' then skipBlanks? true rest
    else some (c :: rest)

/-- Skips blanks, line ends and comments. -/
def skipBlanks : Reader Unit := fun cs => (skipBlanks? false cs).map ((), ·)

/-- Skips blanks within a line. -/
def skipSpaces : Reader Unit := modify (·.dropWhile isSpace)

/-- Takes a certain character, if the text begins with it. -/
def takes (c : Char) : Reader Bool := fun cs =>
  some <| match behind? c cs with
    | some rest => (true, rest)
    | none => (false, cs)

/-- A certain character, which has to stand here. -/
def expect (c : Char) : Reader Unit := fun cs => (behind? c cs).map ((), ·)

/-! ## Keys -/

def isBareKey (c : Char) : Bool := c.isAlphanum || c == '_' || c == '-'

/-- One key, bare or in quotes. -/
def simpleKey : Reader String := fun cs =>
  match cs.takeWhile isBareKey with
  | [] => quotedLine? cs
  | key => some (String.ofList key, cs.dropWhile isBareKey)

/-- Keys with dots between them, latest first. -/
def dottedKey : Nat → List String → Reader (List String)
  | 0, _ => failure
  | fuel + 1, path => do
    let path := (← simpleKey) :: path
    skipSpaces
    if ← takes '.' then
      skipSpaces
      dottedKey fuel path
    else return path

/-- **A path of keys**: those on the way, and the last one. -/
def keyPath : Reader (List String × String) := do
  match ← dottedKey ((← get).length + 1) [] with
  | key :: path => return (path.reverse, key)
  | [] => failure

/-! ## Values -/

def isWordChar (c : Char) : Bool :=
  c.isAlphanum || c == '_' || c == '-' || c == '+' || c == '.' || c == ':'

/-- A word. A date and a time with one space between them are one word. -/
def word : Reader (List Char) := fun cs =>
  let first := cs.takeWhile isWordChar
  let rest := cs.dropWhile isWordChar
  match date? first, rest with
  | some [], ' ' :: d :: rest =>
    if d.isDigit then
      some (first ++ ' ' :: (d :: rest).takeWhile isWordChar, (d :: rest).dropWhile isWordChar)
    else some (first, ' ' :: d :: rest)
  | _, _ => some (first, rest)

mutual

/-- A value, with at most `depth` arrays and tables inside each other. -/
def value : Nat → Nat → Reader Value
  | 0, _ => failure
  | fuel + 1, depth => do
    match ← get, depth with
    | '"' :: _, _ | '\'' :: _, _ => return .string (← quoted?)
    | '[' :: rest, depth + 1 =>
      set rest
      return .array (← arrayItems fuel depth []).reverse
    | '\x7b' :: rest, depth + 1 =>
      set rest
      return .table (valuesOf (← tableEntries fuel depth []))
    | _, _ =>
      match scalar? (← word) with
      | some v => return v
      | none => failure

/-- The items of an array behind its bracket, latest first. -/
def arrayItems : Nat → Nat → List Value → Reader (List Value)
  | 0, _, _ => failure
  | fuel + 1, depth, items => do
    skipBlanks
    if ← takes ']' then return items
    let items := (← value fuel depth) :: items
    skipBlanks
    if ← takes ',' then arrayItems fuel depth items
    else
      expect ']'
      return items

/-- The entries of an inline table behind its brace. -/
def tableEntries : Nat → Nat → Entries → Reader Entries
  | 0, _, _ => failure
  | fuel + 1, depth, entries => do
    skipBlanks
    if ← takes '\x7d' then return entries
    let (path, key) ← keyPath
    expect '='
    skipSpaces
    let v ← value fuel depth
    match entries.add path key v with
    | none => failure
    | some entries =>
      skipBlanks
      if ← takes ',' then tableEntries fuel depth entries
      else
        expect '\x7d'
        return entries

end

/-! ## Lines -/

/-- What has been read so far, and the path of the table that is open. -/
structure Document where
  root : Entries := []
  header : List String := []

/-- A header of a table or of the next table of an array. -/
def header (document : Document) : Reader Document := do
  expect '['
  let element ← takes '['
  skipSpaces
  let (path, key) ← keyPath
  expect ']'
  if element then expect ']'
  let root? := if element then document.root.openElement path key
    else document.root.openTable path key
  match root? with
  | some root => return ⟨root, path ++ [key]⟩
  | none => failure

/-- A key with its value. -/
def keyValue (document : Document) : Reader Document := do
  let (path, key) ← keyPath
  expect '='
  skipSpaces
  let v ← value (2 * (← get).length + 2) maxDepth
  match document.root.changeAt false (fun _ entries => entries.add path key v) .header
      document.header with
  | some root => return { document with root }
  | none => failure

/-- Nothing may follow on the same line but a comment. -/
def endOfLine : Reader Unit := do
  skipSpaces
  let rest ← get
  if rest.isEmpty || rest.head? == some '#' || (lineEnd? rest).isSome then return () else failure

/-- Lines up to the end of the text. -/
def lines : Nat → Document → Reader Document
  | 0, _ => failure
  | fuel + 1, document => do
    skipBlanks
    match ← get with
    | [] => return document
    | c :: _ =>
      let document ← if c == '[' then header document else keyValue document
      endOfLine
      lines fuel document

/-- **Reads a document.** A byte order mark in front of it does not count. -/
def parse? (text : String) : Option (List (String × Value)) := do
  let cs := match text.toList with
    | '\ufeff' :: rest => rest
    | cs => cs
  let (document, _) ← lines (cs.length + 1) {} cs
  return valuesOf document.root

end StyledMarkdown.Toml
