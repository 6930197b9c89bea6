import StyledMarkdown.Proofs.Tree.Items
/-!
# The way around a tree

A walk enters every node once and leaves it once, and what it does at one of
these turns may depend on the turns before. Whether text follows a soft break
right away can be read off the turns that come after it.
-/

namespace StyledMarkdown

/-- A turn on the way around a tree. -/
inductive Turn where
  | entering (node : Node)
  | leaving (node : Node)

namespace Node

/-- **The turns around a tree**: a node is entered, then come those below it,
and then it is left. -/
def tour : Node → List Turn :=
  fold fun node below => .entering node :: (below.flatten ++ [.leaving node])

theorem tour_eq (node : Node) :
    node.tour = .entering node :: (node.children.flatMap tour ++ [.leaving node]) := by
  unfold tour
  rw [fold_eq]
  rfl

def isSoftBreak : Node → Bool
  | softBreak => true
  | _ => false

/-- Whether a node is text, code or raw markup inside a line and not empty. -/
def hasInk : Node → Bool
  | text literal | code literal | htmlInline literal => literal != ""
  | _ => false

theorem eq_of_isSoftBreak {node : Node} (h : node.isSoftBreak) : node = .softBreak := by
  cases node with
  | softBreak => rfl
  | _ => cases h

end Node

/-- **Whether text is next**, with wrappers entered or left before it and
nothing else. -/
def textNext : List Turn → Bool
  | [] => false
  | .entering node :: turns => node.hasInk || (node.isWrapper && textNext turns)
  | .leaving node :: turns => node.isWrapper && textNext turns

/-- Whether text is next behind each of the soft breaks. -/
def textBehindBreaks : List Turn → Bool
  | [] => true
  | .entering _ :: turns => textBehindBreaks turns
  | .leaving node :: turns => (!node.isSoftBreak || textNext turns) && textBehindBreaks turns

theorem textBehindBreaks_of_append {turns more : List Turn}
    (h : textBehindBreaks (turns ++ more)) : textBehindBreaks more := by
  induction turns with
  | nil => exact h
  | cons turn turns ih =>
    cases turn with
    | entering node => exact ih h
    | leaving node => exact ih (Bool.and_eq_true_iff.mp h).2

/-- **Whether text follows every soft break of a tree**: the next leaf is
text, code or raw markup and not empty, and only wrappers are entered or left
on the way to it. -/
def Node.breaksGoOn (root : Node) : Bool := textBehindBreaks root.tour

end StyledMarkdown
