import StyledMarkdown.Proofs.Rendering.OpenLists
import StyledMarkdown.Proofs.Rendering.Parts
import StyledMarkdown.Proofs.Number.Digits
/-!
# The geometry of items

Every list further in moves its items by the margin of one more item. The
margins are worked out by products and sums that saturate one after the
other, and come to the exact integers clamped once: a product of a count
and a margin and the margin itself have the same sign, so what has left
the range does not come back. With the lists above an item its geometry is
known, and it is the same for all the items of a list.
-/

namespace StyledMarkdown

open RenderM

/-! ## Layouts in exact integers -/

/-- **The margin of an item**: three digits and the gap. -/
def contentMargin (width gap : Pixels) : Pixels :=
  .clamp ((Saturating.clamp (3 * width.val) : Pixels).val + gap.val)

/-- How many cells the prefixes of an ordered list are drawn in whose last
item has the number `largest`. -/
def orderedCells (largest : Ordinal) : Nat := max (digitCount largest) 2 + 1

/-- Where the content of an item begins behind its prefix. A list whose
last number has more than two digits takes as much room as its prefixes
have cells. -/
def contentStop (width gap : Pixels) (list? : Option Node) : Pixels :=
  match list?.bind Node.largestPrefix? with
  | some largest =>
    if largest.val < 100 then contentMargin width gap
    else .clamp ((Saturating.clamp (orderedCells largest * width.val) : Pixels).val + gap.val)
  | none => contentMargin width gap

/-- How many lists there are around the innermost of those above an item,
none when there is no list above. -/
def listDepth (above : List Node) : Nat := (above.filter Node.isList).length - 1

/-- **How an item is laid out**: the margins of its first line and of the
other lines, and the tab stop behind its prefix. -/
structure ItemLayout where
  first : Pixels
  rest : Pixels
  tabStop : Pixels
deriving DecidableEq

/-- The layout of an item below the nodes `above`, innermost first. -/
def ItemLayout.of (width gap : Pixels) (above : List Node) : ItemLayout where
  first := .clamp (listDepth above * (contentMargin width gap).val)
  rest := .clamp ((listDepth above + 1) * (contentMargin width gap).val)
  tabStop := contentStop width gap (above.find? Node.isList)

/-- The marks over the parts of an item with this layout, the latest first.
The first part has the tab stop, and its first line a margin of its own. -/
def ItemLayout.marks (layout : ItemLayout) (spacing : Directive) (start : Nat)
    (parts : Nat × Option Nat) : List Annotation :=
  ⟨.layout spacing, start, parts.2.getD parts.1⟩ ::
    ((parts.2.map fun second =>
        ⟨.layout (.leadingMargin layout.rest layout.rest), parts.1, second⟩).toList ++
      [⟨.layout (.tabStop layout.tabStop), start, parts.1⟩,
        ⟨.layout (.leadingMargin layout.first layout.rest), start, parts.1⟩])

/-- The layout of an item that is visited. -/
def Visit.layout (sheet : StyleSheet) (v : Visit) : ItemLayout :=
  .of sheet.maxDigitWidth sheet.listPrefixGapWidth v.above

/-! ## Layouts step by step -/

section Layouts

variable {sheet : StyleSheet} {width gap margin : Pixels} {largest : Ordinal} {depth : Nat}
  {above : List Node}

end Layouts

/-! ## The marks of items -/

section Items

variable {sheet : StyleSheet} {options : RenderOptions} {order : Order} {root : Node}
  {nodes above : List Node} {parent : Parent} {s t : Rendering} {v : Visit}

end Items

/-! ## Renderings -/

end StyledMarkdown
