import StyledMarkdown.Node
/-!
# Items and their lists

The trees whose items all stand below a list. The markup has no other
items, but a tree built by hand may: an item right inside a quote has no
prefix to take and no list around it.
-/

namespace StyledMarkdown

namespace Node

def isDocument : Node → Bool
  | document _ => true
  | _ => false

def isList : Node → Bool
  | orderedList .. | bulletList .. => true
  | _ => false

def isItem : Node → Bool
  | listItem _ => true
  | _ => false

/-- **Whether a node only wraps what it holds**: it writes nothing itself,
and what it holds is written as without it. -/
def isWrapper : Node → Bool
  | link .. | image .. | emphasis _ | strong _ | unsupported .. => true
  | _ => false

theorem exists_of_isItem {node : Node} (h : node.isItem) :
    ∃ children, node = .listItem children := by
  cases node with
  | listItem children => exact ⟨children, rfl⟩
  | _ => cases h

theorem not_isList_of_isItem {node : Node} (h : node.isItem) : ¬ node.isList := by
  obtain ⟨children, rfl⟩ := exists_of_isItem h
  exact Bool.false_ne_true

/-- **Whether every item of a tree has a list above it.** `inside` says
whether the tree itself stands below one. -/
def itemsInLists (node : Node) (inside : Bool := false) : Bool :=
  fold (fun node below inside =>
    (!node.isItem || inside) && below.all (· (inside || node.isList))) node inside

theorem itemsInLists_eq (node : Node) (inside : Bool) : node.itemsInLists inside =
    ((!node.isItem || inside) &&
      node.children.all fun child => child.itemsInLists (inside || node.isList)) := by
  unfold itemsInLists
  rw [fold_eq, List.all_map]
  rfl

theorem itemsInLists_iff {node : Node} {inside : Bool} : node.itemsInLists inside ↔
    (node.isItem → inside) ∧
      ∀ child ∈ node.children, child.itemsInLists (inside || node.isList) := by
  rw [itemsInLists_eq, Bool.and_eq_true, List.all_eq_true]
  cases node.isItem <;> simp

end Node

end StyledMarkdown
