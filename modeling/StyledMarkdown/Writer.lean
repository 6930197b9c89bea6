import StyledMarkdown.Rendered
import StyledMarkdown.Text.Blank
/-!
# Writing annotated text

A buffer that only grows, marks over what has been written, and a stack
of remembered positions. `finish` trims the text and moves the marks
along with it.
-/

namespace StyledMarkdown

/-! ## Failures -/

/-- What ends a rendering early. -/
inductive RenderError where
  | cursorUnderflow
  | listUnderflow
  | depthExceeded (limit : Nat)
deriving DecidableEq

def RenderError.message : RenderError → String
  | cursorUnderflow => "cursor stack underflow: retrieved a cursor that was never saved"
  | listUnderflow => "list context stack underflow: left a list that was never entered"
  | depthExceeded limit => "document nesting exceeds the maximum depth of " ++ toString limit

/-! ## The buffer -/

/-- A text under construction, kept from its end, with the count of its bytes. -/
structure Buffer where
  reversed : List Char := []
  size : Nat := 0
  size_eq : size = Text.size reversed := by rfl

namespace Buffer

/-- The text so far. -/
def toList (b : Buffer) : List Char := b.reversed.reverse

def append (b : Buffer) (cs : List Char) : Buffer where
  reversed := cs.reverse ++ b.reversed
  size := b.size + Text.size cs
  size_eq := by simp [b.size_eq, Nat.add_comm]

/-- The last character, if anything was written. -/
def last? (b : Buffer) : Option Char := b.reversed.head?

/-- Moves characters from the end of a reversed text until `bytes` bytes have moved. -/
def takeEnd (bytes : Nat) : List Char → List Char → List Char
  | [], taken => taken
  | c :: cs, taken => if bytes = 0 then taken else takeEnd (bytes - c.utf8Size) cs (c :: taken)

/-- What was written after the first `start` bytes. -/
def since (b : Buffer) (start : Nat) : List Char := takeEnd (b.size - start) b.reversed []

@[simp] theorem toList_append (b : Buffer) (cs : List Char) :
    (b.append cs).toList = b.toList ++ cs := by
  simp [toList, append]

theorem size_toList (b : Buffer) : b.size = Text.size b.toList := by
  simp [toList, b.size_eq]

theorem last?_eq (b : Buffer) : b.last? = b.toList.getLast? := by
  simp [last?, toList]

end Buffer

/-! ## The writer -/

/-- A text under construction with its annotations, latest first, and the
positions saved and not yet retrieved, innermost first. -/
structure Writer where
  buffer : Buffer := {}
  saved : List Nat := []
  marks : List Annotation := []

namespace Writer

variable (w : Writer)

/-- The position of the next byte. -/
def cursor : Nat := w.buffer.size

/-- How many saved positions wait to be retrieved. -/
def savedDepth : Nat := w.saved.length

def write (content : String) : Writer := { w with buffer := w.buffer.append content.toList }

/-- Appends a character unless the text ends with it, and says whether it did. -/
def appendIfNeeded (c : Char) : Bool × Writer :=
  if w.buffer.last? = some c then (false, w)
  else (true, { w with buffer := w.buffer.append [c] })

def line : Writer := w.write "\n"

def lineIfNeeded : Bool × Writer := w.appendIfNeeded '\n'

def space : Writer := w.write " "

def spaceIfNeeded : Bool × Writer := w.appendIfNeeded ' '

def tab : Writer := w.write "\t"

def tabIfNeeded : Bool × Writer := w.appendIfNeeded '\t'

/-- Remembers the cursor and returns it. -/
def saveCursor : Nat × Writer := (w.cursor, { w with saved := w.cursor :: w.saved })

/-- Forgets the position saved last and returns it. -/
def retrieveCursor : Except RenderError (Nat × Writer) :=
  match w.saved with
  | [] => .error .cursorUnderflow
  | start :: saved => .ok (start, { w with saved })

def set (mark : Mark) (start stop : Nat) : Writer :=
  { w with marks := ⟨mark, start, stop⟩ :: w.marks }

/-- Marks everything from `start` up to the cursor with a span. -/
def setSpan (span : GroupSpan) (start : Nat) : Writer := w.set (.span span) start w.cursor

def setLayout (directive : Directive) (start stop : Nat) : Writer :=
  w.set (.layout directive) start stop

/-- The annotations in the order they were set. -/
def annotations : List Annotation := w.marks.reverse

/-- An annotation on a text of `length` bytes that began `leading` bytes
later: clamped to that text, and dropped when nothing of it is left,
unless it was empty from the start and lies within. -/
def rebase? (leading length : Nat) (a : Annotation) : Option Annotation :=
  let start := min (a.start - leading) length
  let stop := min (a.stop - leading) length
  let empty := decide (a.stop ≤ a.start)
  let inside := decide (leading ≤ a.start) && decide (a.start - leading ≤ length)
  if start < stop || (empty && inside) then some ⟨a.mark, start, stop⟩ else none

/-- **The trimmed text with the annotations that still mean something on it.** -/
def finish : Rendered :=
  let whole := w.buffer.toList
  let kept := Text.trim whole
  let leading := w.buffer.size - Text.size (Text.trimStart whole)
  { text := String.ofList kept
    annotations := w.annotations.filterMap (rebase? leading (Text.size kept)) }

end Writer

end StyledMarkdown
