import StyledMarkdown.Number.Decimal
import StyledMarkdown.Writer
/-!
# Open lists

The lists around the node being rendered. An ordered list counts its
items as their prefixes are taken; a bulleted one repeats its bullet.
-/

namespace StyledMarkdown

/-- The sign before every item of a bulleted list, whatever the source has. -/
def bullet : String := "•"

inductive ListKind where
  /-- `counter` numbers the next item, and `largestPrefix` the last one. -/
  | ordered (start counter largestPrefix : Ordinal)
  | bulleted (marker : Char)
deriving DecidableEq

/-- An open list with the number of lists around it. -/
structure ListContext where
  kind : ListKind
  depth : Nat
deriving DecidableEq

/-- **The prefix of the next item**, and the list once it is taken. -/
def ListContext.nextPrefix (context : ListContext) : String × ListContext :=
  match context.kind with
  | .ordered start counter largestPrefix =>
    (String.ofList (decimal counter.val ++ ['.']),
      { context with kind := .ordered start (counter + 1) largestPrefix })
  | .bulleted _ => (bullet, context)

/-- The open lists, innermost first. -/
structure ListStack where
  contexts : List ListContext := []
deriving DecidableEq

namespace ListStack

variable (lists : ListStack)

def isActive : Bool := !lists.contexts.isEmpty

/-- The depth that the next list would have. -/
def depth : Nat := lists.contexts.length

def push (kind : ListKind) : ListStack := ⟨⟨kind, lists.depth⟩ :: lists.contexts⟩

/-- Enters an ordered list whose last item has the number `largestPrefix`. -/
def pushOrdered (start largestPrefix : Ordinal) : ListStack :=
  lists.push (.ordered start start largestPrefix)

def pushBulleted (marker : Char) : ListStack := lists.push (.bulleted marker)

/-- Leaves the innermost list. -/
def pop : Except RenderError (ListContext × ListStack) :=
  match lists.contexts with
  | [] => .error .listUnderflow
  | context :: contexts => .ok (context, ⟨contexts⟩)

/-- The innermost list. -/
def current? : Option ListContext := lists.contexts.head?

/-- Takes the next prefix of the innermost list. -/
def nextPrefix? : Option String × ListStack :=
  match lists.contexts with
  | [] => (none, lists)
  | context :: contexts =>
    let (text, context) := context.nextPrefix
    (some text, ⟨context :: contexts⟩)

end ListStack

end StyledMarkdown
