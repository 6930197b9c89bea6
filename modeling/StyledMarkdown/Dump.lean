import StyledMarkdown.Node
import StyledMarkdown.Number.Decimal
import StyledMarkdown.Text.Quoted
/-!
# Dumps of a tree

One line for each node, indented by two spaces below its parent, with
the attributes and the content of the node behind its kind. A node too
far down is an ellipsis, and what it holds is left out.
-/

namespace StyledMarkdown

/-- Nodes with this many nodes above them are elided. -/
def maxDumpDepth : Nat := 256

namespace Node

/-- What a dump says of one node. -/
def describe (node : Node) : String :=
  let attributes := match node with
    | heading level _ => " level=" ++ toString level
    | orderedList start delimiter _ =>
      " start=" ++ String.ofList (decimal start.val) ++ " delimiter=" ++ Text.quotedChar delimiter
    | bulletList marker _ => " marker=" ++ Text.quotedChar marker
    | link destination _ _ | image destination _ _ =>
      " destination=" ++ Text.quoted destination
    | fencedCode fence _ => if fence.info.isEmpty then "" else " info=" ++ Text.quoted fence.info
    | _ => ""
  let content := match node.literal? with
    | some literal => " " ++ Text.quoted literal
    | none => ""
  node.kindName ++ attributes ++ content

/-- The lines of a dump, from a node at some depth. -/
def dumpLines : Node → Nat → List String :=
  fold fun node below depth =>
    let indent := String.ofList (List.replicate (2 * depth) ' ')
    if maxDumpDepth ≤ depth then [indent ++ "..."]
    else (indent ++ node.describe) :: below.flatMap (· (depth + 1))

/-- **The dump of a tree**, each line with its line end. -/
def dump (node : Node) : String :=
  (node.dumpLines 0).foldl (fun text line => text ++ line ++ "\n") ""

end Node

end StyledMarkdown
