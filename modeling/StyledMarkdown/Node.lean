import StyledMarkdown.Number.Saturating
/-!
# Document trees

A node is a block or an inline unit of a document with the nodes it
holds. `fold` is the one recursion over the nesting, and `fold_eq`
unfolds it by one level for every kind of node at once: heights, counts
and listings are folds, and `inductionOn` is the matching principle.
-/

namespace StyledMarkdown

/-- The opening line of a fenced code block. -/
structure Fence where
  info : String := ""
  char : Char := '\x60'
  length : Nat := 3
  indent : Nat := 0
deriving DecidableEq

/-- A node of a document. -/
inductive Node where
  | document (children : List Node)
  | heading (level : Nat) (children : List Node)
  | paragraph (children : List Node)
  | blockQuote (children : List Node)
  | orderedList (start : Ordinal) (delimiter : Char) (children : List Node)
  | bulletList (marker : Char) (children : List Node)
  | listItem (children : List Node)
  | fencedCode (fence : Fence) (literal : String)
  | indentedCode (literal : String)
  | htmlBlock (literal : String)
  | link (destination : String) (title : Option String) (children : List Node)
  | image (destination : String) (title : Option String) (children : List Node)
  | emphasis (children : List Node)
  | strong (children : List Node)
  | code (literal : String)
  | htmlInline (literal : String)
  | text (literal : String)
  | softBreak
  | hardBreak
  | thematicBreak
  /-- A construct without a rendering of its own; what it holds is still rendered. -/
  | unsupported (name : String) (children : List Node)

namespace Node

instance : Inhabited Node := ⟨.document []⟩

/-! ## Views of one node -/

/-- The nodes directly inside, none for a leaf. -/
def children : Node → List Node
  | document children | paragraph children | blockQuote children | listItem children
  | emphasis children | strong children => children
  | heading _ children | bulletList _ children | unsupported _ children => children
  | orderedList _ _ children | link _ _ children | image _ _ children => children
  | fencedCode .. | indentedCode _ | htmlBlock _ | code _ | htmlInline _ | text _
  | softBreak | hardBreak | thematicBreak => []

/-- The content of a leaf that carries one. -/
def literal? : Node → Option String
  | fencedCode _ literal => some literal
  | indentedCode literal | htmlBlock literal | code literal | htmlInline literal
  | text literal => some literal
  | _ => none

/-- Whether a node belongs inside a paragraph. -/
def isInline : Node → Bool
  | link .. | image .. | emphasis _ | strong _ | code _ | htmlInline _ | text _
  | softBreak | hardBreak => true
  | _ => false

/-- The name of a node's kind. -/
def kindName : Node → String
  | document _ => "Document"
  | heading .. => "Heading"
  | paragraph _ => "Paragraph"
  | blockQuote _ => "BlockQuote"
  | orderedList .. => "OrderedList"
  | bulletList .. => "BulletList"
  | listItem _ => "ListItem"
  | fencedCode .. => "FencedCodeBlock"
  | indentedCode _ => "IndentedCodeBlock"
  | htmlBlock _ => "HtmlBlock"
  | link .. => "Link"
  | image .. => "Image"
  | emphasis _ => "Emphasis"
  | strong _ => "StrongEmphasis"
  | code _ => "Code"
  | htmlInline _ => "HtmlInline"
  | text _ => "Text"
  | softBreak => "SoftLineBreak"
  | hardBreak => "HardLineBreak"
  | thematicBreak => "ThematicBreak"
  | unsupported name _ => name

/-- How many items a list has, each child counting as one. -/
def itemCount : Node → Nat
  | orderedList _ _ children | bulletList _ children => children.length
  | _ => 0

/-- The number of the last item of an ordered list. -/
def largestPrefix? : Node → Option Ordinal
  | orderedList start _ children => some (start + .clamp ((children.length : Int) - 1))
  | _ => none

/-! ## Recursion over the nesting -/

mutual

/-- **Combines the results for the children with the node above them**,
from the leaves up. -/
def fold {α : Type} (f : Node → List α → α) : Node → α
  | document cs => f (document cs) (foldAll f cs)
  | heading level cs => f (heading level cs) (foldAll f cs)
  | paragraph cs => f (paragraph cs) (foldAll f cs)
  | blockQuote cs => f (blockQuote cs) (foldAll f cs)
  | orderedList start delimiter cs => f (orderedList start delimiter cs) (foldAll f cs)
  | bulletList marker cs => f (bulletList marker cs) (foldAll f cs)
  | listItem cs => f (listItem cs) (foldAll f cs)
  | fencedCode fence literal => f (fencedCode fence literal) []
  | indentedCode literal => f (indentedCode literal) []
  | htmlBlock literal => f (htmlBlock literal) []
  | link destination title cs => f (link destination title cs) (foldAll f cs)
  | image destination title cs => f (image destination title cs) (foldAll f cs)
  | emphasis cs => f (emphasis cs) (foldAll f cs)
  | strong cs => f (strong cs) (foldAll f cs)
  | code literal => f (code literal) []
  | htmlInline literal => f (htmlInline literal) []
  | text literal => f (text literal) []
  | softBreak => f softBreak []
  | hardBreak => f hardBreak []
  | thematicBreak => f thematicBreak []
  | unsupported name cs => f (unsupported name cs) (foldAll f cs)

def foldAll {α : Type} (f : Node → List α → α) : List Node → List α
  | [] => []
  | n :: ns => fold f n :: foldAll f ns

end

@[simp] theorem foldAll_eq_map {α : Type} (f : Node → List α → α) (ns : List Node) :
    foldAll f ns = ns.map (fold f) := by
  induction ns with
  | nil => rfl
  | cons n ns ih => simp [foldAll, ih]

/-- One level of a fold, whatever the kind of the node. -/
theorem fold_eq {α : Type} (f : Node → List α → α) (n : Node) :
    fold f n = f n (n.children.map (fold f)) := by
  cases n <;> simp [fold, children]

mutual

/-- A property passed on from the children to the node above them holds
of every node. -/
theorem inductionOn {P : Node → Prop} (step : ∀ n, (∀ c ∈ n.children, P c) → P n) :
    ∀ n, P n
  | document cs => step _ (inductionOnAll step cs)
  | heading _ cs => step _ (inductionOnAll step cs)
  | paragraph cs => step _ (inductionOnAll step cs)
  | blockQuote cs => step _ (inductionOnAll step cs)
  | orderedList _ _ cs => step _ (inductionOnAll step cs)
  | bulletList _ cs => step _ (inductionOnAll step cs)
  | listItem cs => step _ (inductionOnAll step cs)
  | link _ _ cs => step _ (inductionOnAll step cs)
  | image _ _ cs => step _ (inductionOnAll step cs)
  | emphasis cs => step _ (inductionOnAll step cs)
  | strong cs => step _ (inductionOnAll step cs)
  | unsupported _ cs => step _ (inductionOnAll step cs)
  | fencedCode .. => step _ nofun
  | indentedCode _ => step _ nofun
  | htmlBlock _ => step _ nofun
  | code _ => step _ nofun
  | htmlInline _ => step _ nofun
  | text _ => step _ nofun
  | softBreak => step _ nofun
  | hardBreak => step _ nofun
  | thematicBreak => step _ nofun

theorem inductionOnAll {P : Node → Prop} (step : ∀ n, (∀ c ∈ n.children, P c) → P n) :
    ∀ ns : List Node, ∀ c ∈ ns, P c
  | [] => nofun
  | n :: ns => fun c h =>
    (List.mem_cons.mp h).elim (fun e => e ▸ inductionOn step n) (inductionOnAll step ns c)

end

/-- The number of nodes on the longest way down; a leaf has height one. -/
def height : Node → Nat := fold fun _ below => 1 + below.foldl max 0

/-- The number of nodes. -/
def count : Node → Nat := fold fun _ below => 1 + below.foldl (· + ·) 0

/-- **Every node with its depth, a parent before its children.** The root
is at depth zero. -/
def rows (n : Node) : List (Nat × Node) :=
  fold (fun node below depth => (depth, node) :: below.flatMap (· (depth + 1))) n 0

end Node

end StyledMarkdown
