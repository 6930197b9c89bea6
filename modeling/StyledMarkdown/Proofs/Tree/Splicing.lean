import StyledMarkdown.Proofs.Tree.Numbering
/-!
# Changing a tree in place

A node of a tree is told by the path down to it, which says of each node on
the way how many siblings stand before it. The tree can be changed at the end
of a path: what stands there is replaced, and nothing else is.
-/

namespace StyledMarkdown

namespace Node

/-- Whether a node is an ordered list. -/
def isOrdered : Node → Bool
  | orderedList .. => true
  | _ => false

/-- The node with other nodes inside. A leaf holds none and stays as it is. -/
def withChildren (node : Node) (children : List Node) : Node :=
  match node with
  | document _ => document children
  | heading level _ => heading level children
  | paragraph _ => paragraph children
  | blockQuote _ => blockQuote children
  | orderedList start delimiter _ => orderedList start delimiter children
  | bulletList marker _ => bulletList marker children
  | listItem _ => listItem children
  | link destination title _ => link destination title children
  | image destination title _ => image destination title children
  | emphasis _ => emphasis children
  | strong _ => strong children
  | unsupported name _ => unsupported name children
  | leaf => leaf

/-- **The node at the end of a path**, if the path stays in the tree. -/
def descend? (node : Node) : List Nat → Option Node
  | [] => some node
  | n :: path => node.children[n]?.bind (descend? · path)

/-- The tree with the node at the end of a path changed. -/
def changeAt (change : Node → Node) : List Nat → Node → Node
  | [], node => change node
  | n :: path, node => node.withChildren (node.children.modify n (changeAt change path))

/-- A node with the child behind `n` others replaced by what is inside it. -/
def unwrapChild (n : Nat) (node : Node) : Node :=
  node.withChildren (node.children.take n ++
    ((node.children[n]?.map children).getD [] ++ node.children.drop (n + 1)))

/-- **The tree with one node replaced by what is inside it**: the node that
stands behind `n` others below the end of the path. -/
def splice (root : Node) (path : List Nat) (n : Nat) : Node :=
  changeAt (unwrapChild n) path root

/-- The address of the node at the end of a path. The root stands behind no
other node. -/
def addressOf (path : List Nat) : Address := path.reverse ++ [0]

variable {node child : Node} {before after children : List Node} {n k : Nat} {path : List Nat}

theorem children_withChildren (h : node.children ≠ []) :
    (node.withChildren children).children = children := by
  cases node with
  | fencedCode | indentedCode | htmlBlock | code | htmlInline | text | softBreak | hardBreak
  | thematicBreak => exact absurd rfl h
  | _ => rfl

/-- A node among its siblings. -/
theorem exists_siblings (h : node.children[n]? = some child) :
    ∃ before after, node.children = before ++ ([child] ++ after) ∧ before.length = n := by
  obtain ⟨hlt, rfl⟩ := List.getElem?_eq_some_iff.mp h
  refine ⟨node.children.take n, node.children.drop (n + 1), ?_, ?_⟩
  · rw [List.singleton_append, List.getElem_cons_drop, List.take_append_drop]
  · exact List.length_take_of_le (Nat.le_of_lt hlt)

theorem descend?_cons_eq_some_iff {last : Node} : node.descend? (k :: path) = some last ↔
    ∃ next, node.children[k]? = some next ∧ next.descend? path = some last :=
  Option.bind_eq_some_iff

/-- A splice right below a node puts what is inside a child in its place. -/
theorem splice_nil (h : node.children = before ++ ([child] ++ after)) :
    node.splice [] before.length =
      node.withChildren (before ++ (child.children ++ after)) := by
  unfold splice changeAt unwrapChild
  rw [h]
  simp

example : (paragraph [text "a", emphasis [text "b", softBreak], text "c"]).splice [] 1 =
    paragraph [text "a", text "b", softBreak, text "c"] := rfl

/-- A splice further down changes one child. -/
theorem splice_cons (h : node.children = before ++ ([child] ++ after)) :
    node.splice (before.length :: path) n =
      node.withChildren (before ++ ([child.splice path n] ++ after)) := by
  unfold splice
  rw [changeAt, h, List.modify_eq_take_drop]
  simp

end Node

end StyledMarkdown
