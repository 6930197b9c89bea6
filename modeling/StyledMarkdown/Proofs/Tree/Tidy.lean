import StyledMarkdown.Proofs.Text.Lines
import StyledMarkdown.Proofs.Tree.Items
/-!
# Tidy documents

The documents that are well formed in the way the markup forms them: runs
of words with single breaks between them, blocks that hold one such run or
lines of code, and lists whose items hold a paragraph and at most a list
behind it.
-/

namespace StyledMarkdown

namespace Node

/-! ## Words and runs -/

/-- **A word**: text or code on one line, in any number of wrappers around
it alone. -/
inductive IsWord : Node → Prop
  | text {literal : String} (hne : literal.toList ≠ []) (hline : '\n' ∉ literal.toList) :
      IsWord (.text literal)
  | code {literal : String} (hne : literal.toList ≠ []) (hline : '\n' ∉ literal.toList) :
      IsWord (.code literal)
  | emphasis {word : Node} (h : IsWord word) : IsWord (.emphasis [word])
  | strong {word : Node} (h : IsWord word) : IsWord (.strong [word])
  | link {destination : String} {title : Option String} {word : Node} (h : IsWord word) :
      IsWord (.link destination title [word])

/-- Whether a node breaks a line, one way or the other. -/
def isBreak : Node → Bool
  | softBreak | hardBreak => true
  | _ => false

/-- **Words with one break between each two of them.** -/
inductive IsRun : List Node → Prop
  | word {node : Node} (h : node.IsWord) : IsRun [node]
  | more {node lineBreak : Node} {rest : List Node} (h : node.IsWord)
      (hbreak : lineBreak.isBreak) (hrest : IsRun rest) : IsRun (node :: lineBreak :: rest)

/-! ## Lists and blocks -/

/-- **A tidy list**, and the items of one: each holds a paragraph and at
most one list behind it, tidy again, and the list holds one item at least. -/
inductive IsTidy : Node → Prop
  | list {node : Node} (hlist : node.isList) (hne : node.children ≠ [])
      (hitems : ∀ item ∈ node.children, item.isItem)
      (htidy : ∀ item ∈ node.children, IsTidy item) : IsTidy node
  | item {run : List Node} (hrun : IsRun run) : IsTidy (.listItem [.paragraph run])
  | itemWithList {run : List Node} {list : Node} (hrun : IsRun run) (hlist : list.isList)
      (htidy : IsTidy list) : IsTidy (.listItem [.paragraph run, list])

/-- The content of a code block: one line or more, none of them empty and
each with its line end. -/
def IsCode (literal : String) : Prop :=
  ∃ lines : List (List Char), lines ≠ [] ∧ (∀ line ∈ lines, line ≠ [] ∧ '\n' ∉ line) ∧
    literal.toList = lines.flatMap (· ++ ['\n'])

/-- **A tidy block.** -/
inductive IsTidyBlock : Node → Prop
  | paragraph {run : List Node} (hrun : IsRun run) : IsTidyBlock (.paragraph run)
  | heading {level : Nat} {run : List Node} (hrun : IsRun run) : IsTidyBlock (.heading level run)
  | blockQuote {run : List Node} (hrun : IsRun run) : IsTidyBlock (.blockQuote [.paragraph run])
  | fencedCode {fence : Fence} {literal : String} (hcode : IsCode literal) :
      IsTidyBlock (.fencedCode fence literal)
  | indentedCode {literal : String} (hcode : IsCode literal) :
      IsTidyBlock (.indentedCode literal)
  | htmlBlock {literal : String} (hne : literal.toList ≠ [])
      (hhead : literal.toList.head? ≠ some '\n') (hapart : Text.NoBlankLine literal.toList) :
      IsTidyBlock (.htmlBlock literal)
  | thematicBreak : IsTidyBlock .thematicBreak
  | list {node : Node} (hlist : node.isList) (htidy : IsTidy node) : IsTidyBlock node

end Node

end StyledMarkdown
