import StyledMarkdown.Proofs.Builder.Items
import StyledMarkdown.Proofs.Rendering.Depth
/-!
# The height of built trees

The nesting limit counts containers, and a tree has levels besides: the
document, a leaf at the end of a way down, and a paragraph where an item
holds inline nodes. There is one such paragraph on a way down at most,
since no item stands inside what is inline. So the tree is three levels
higher than the limit at most, and a rendering that goes as deep does not
fail.
-/

namespace StyledMarkdown

/-! ## Containers inside a paragraph -/

namespace Tag

/-- Whether a container stands inside a paragraph. -/
def isInline : Tag → Bool
  | emphasis | strong | link .. | image .. => true
  | _ => false

/-- Whether a container is a block. One without support is not counted: it
may be of either kind. -/
def isBlock : Tag → Bool
  | emphasis | strong | link .. | image .. | unsupported => false
  | _ => true

end Tag

/-- Whether an event opens a block. -/
def Event.opensBlock : Event → Bool
  | start tag => tag.isBlock
  | _ => false

/-- Whether an event opens an item. -/
def Event.opensItem : Event → Bool
  | start tag => tag.isItem
  | _ => false

/-- **No block opens inside what is inline.** -/
def Tag.KeepsInline (tag : Tag) (event : Event) : Prop := tag.isInline → ¬ event.opensBlock

/-- An item is a block. -/
theorem Tag.isBlock_of_isItem {tag : Tag} (h : tag.isItem) : tag.isBlock := by
  cases tag with
  | listItem => rfl
  | _ => cases h

theorem Tag.not_isInline_of_isBlock {tag : Tag} (h : tag.isBlock) : ¬ tag.isInline := by
  cases tag with
  | emphasis | strong | link | image | unsupported => cases h
  | _ => exact Bool.false_ne_true

/-- A block may hold anything. -/
theorem Tag.keepsInline_of_isBlock {tag : Tag} (h : tag.isBlock) (event : Event) :
    tag.KeepsInline event := fun hinline => absurd hinline (not_isInline_of_isBlock h)

theorem Event.opensBlock_of_opensItem {event : Event} (h : event.opensItem) :
    event.opensBlock := by
  cases event with
  | start tag => exact Tag.isBlock_of_isItem h
  | _ => cases h

theorem Tag.isInline_node (tag : Tag) (children : List Node) (literal : String) :
    (tag.node children literal).isInline = tag.isInline := by
  cases tag <;> rfl

/-! ## Heights -/

namespace Node

/-- A node is as high as its children and one level. -/
theorem height_le_succ_iff {node : Node} {n : Nat} :
    node.height ≤ n + 1 ↔ ∀ child ∈ node.children, child.height ≤ n := by
  have hfits : 0 + node.height ≤ n + 1 ↔
      0 < n + 1 ∧ ∀ child ∈ node.children, 0 + 1 + child.height ≤ n + 1 := node.add_height_le_iff
  rw [Nat.zero_add] at hfits
  rw [hfits]
  constructor
  · rintro ⟨-, hchildren⟩ child hc
    have := hchildren child hc
    omega
  · intro hchildren
    refine ⟨Nat.succ_pos n, fun child hc => ?_⟩
    have := hchildren child hc
    omega

/-- **A node that fits** where so much `room` is left for containers inside
each other. It is no higher than these, a leaf at their end and the
`paragraphs` of items; inside what is inline there are no such
paragraphs. -/
structure Fits (room paragraphs : Nat) (node : Node) : Prop where
  height_le : node.height ≤ room + 1 + paragraphs
  inline_le : node.isInline → node.height ≤ room + 1

theorem Fits.leaf {node : Node} (h : node.children = []) (room paragraphs : Nat) :
    node.Fits room paragraphs := by
  have hheight : node.height ≤ room + 1 := by
    rw [height_le_succ_iff, h]
    exact List.forall_mem_nil _
  exact ⟨Nat.le_add_right_of_le hheight, fun _ => hheight⟩

end Node

section Containers

variable {room paragraphs : Nat} {children : List Node} {tag : Tag}

/-- An item puts a paragraph around what is inline in it, and none around
its blocks. -/
theorem height_le_of_mem_wrapInlineRuns (hparagraphs : 0 < paragraphs)
    (h : ∀ child ∈ children, child.Fits room paragraphs) :
    ∀ node ∈ wrapInlineRuns children, node.height ≤ room + 1 + paragraphs := by
  intro node hnode
  rcases mem_wrapInlineRuns hnode with ⟨hmem, -⟩ | ⟨inner, rfl, hinner, hinline⟩
  · exact (h node hmem).height_le
  · have hparagraph : (Node.paragraph inner).height ≤ room + 1 + 1 :=
      Node.height_le_succ_iff.mpr fun child hc =>
        (h child (hinner.subset hc)).inline_le (hinline child hc)
    omega

/-- The children of a container are the nodes that stood in it, and an item
may have put paragraphs around its own. -/
theorem Tag.mem_children_node {literal : String} {node : Node}
    (h : node ∈ (tag.node children literal).children) :
    node ∈ children ∨ tag.isItem ∧ node ∈ wrapInlineRuns children := by
  cases tag with
  | listItem => exact .inr ⟨rfl, h⟩
  | fencedCode | indentedCode | htmlBlock => cases h
  | _ => exact .inl h

/-- The paragraphs of items that may be around a leaf in a container, where
so many may be in the one around it: none inside what is inline. -/
def Tag.paragraphsInside (tag : Tag) (paragraphs : Nat) : Nat :=
  if tag.isInline then 0 else paragraphs

/-- **A container fits** where there is room for one more than its children
have. -/
theorem Tag.node_fits (literal : String) (hitem : tag.isItem → 0 < paragraphs)
    (h : ∀ child ∈ children, child.Fits room (tag.paragraphsInside paragraphs)) :
    (tag.node children literal).Fits (room + 1) paragraphs := by
  have hinline : (tag.node children literal).isInline = tag.isInline :=
    tag.isInline_node children literal
  unfold paragraphsInside at h
  by_cases htag : tag.isInline
  · rw [if_pos htag] at h
    have hbelow : ∀ node ∈ (tag.node children literal).children, node.height ≤ room + 1 := by
      intro node hnode
      rcases mem_children_node hnode with hmem | ⟨hlistItem, -⟩
      · exact (h node hmem).height_le
      · exact absurd htag (not_isInline_of_isBlock (isBlock_of_isItem hlistItem))
    have hheight : (tag.node children literal).height ≤ room + 1 + 1 :=
      Node.height_le_succ_iff.mpr hbelow
    exact ⟨Nat.le_add_right_of_le hheight, fun _ => hheight⟩
  · rw [if_neg htag] at h
    have hbelow : ∀ node ∈ (tag.node children literal).children,
        node.height ≤ room + 1 + paragraphs := by
      intro node hnode
      rcases mem_children_node hnode with hmem | ⟨hlistItem, hmem⟩
      · exact (h node hmem).height_le
      · exact height_le_of_mem_wrapInlineRuns (hitem hlistItem) h node hmem
    have hheight : (tag.node children literal).height ≤ room + 1 + paragraphs + 1 :=
      Node.height_le_succ_iff.mpr hbelow
    exact ⟨by omega, fun hnode => absurd (hinline ▸ hnode) htag⟩

end Containers

/-! ## Builders -/

namespace Builder

variable {limit room paragraphs folded : Nat} {top : Frame} {frames : List Frame}
  {events : List Event}

theorem fits_take {event : Event} (h : ∀ child ∈ top.children, child.Fits room paragraphs) :
    ∀ child ∈ (top.take event).children, child.Fits room paragraphs := by
  rcases top.take_eq event with ⟨literal, htake⟩ | ⟨leaf, hleaf, htake⟩
  · rw [htake]
    exact h
  · rw [htake]
    have hchildren : leaf.children = [] := by
      cases event <;> cases hleaf <;> rfl
    exact Frame.forall_mem_push (fun _ _ _ => .leaf rfl _ _) h (.leaf hchildren _ _)

/-- **Well nested events add nodes that fit** to the innermost frame, where
`room` more containers are kept open and items among the events have the
paragraphs they need. -/
theorem exists_run_fits (h : WellNested Tag.KeepsInline events)
    (hroom : (top :: frames).length + room = limit + 1)
    (hfull : 0 < folded → limit < (top :: frames).length)
    (hitems : ∀ event ∈ events, event.opensItem → 0 < paragraphs)
    (htop : ∀ child ∈ top.children, child.Fits room paragraphs) :
    ∃ other, run limit events ⟨top :: frames, folded⟩ = ⟨other :: frames, folded⟩ ∧
      other.pending = top.pending ∧ ∀ child ∈ other.children, child.Fits room paragraphs := by
  induction h generalizing top frames folded room paragraphs with
  | nil => exact ⟨top, rfl, rfl, htop⟩
  | content event h =>
    exact ⟨top.take event, step_of_isContent h, top.pending_take event, fits_take htop⟩
  | append h hrest ih ihrest =>
    obtain ⟨hfirst, hsecond⟩ := List.forall_mem_append.mp hitems
    obtain ⟨middle, hrun, hpending, hmiddle⟩ := ih hroom hfull hfirst htop
    obtain ⟨other, hrun', hpending', hother⟩ : ∃ other,
        run limit _ ⟨middle :: frames, folded⟩ = ⟨other :: frames, folded⟩ ∧
          other.pending = middle.pending ∧ _ := ihrest hroom hfull hsecond hmiddle
    exact ⟨other, by rw [run_append, hrun, hrun'], hpending'.trans hpending, hother⟩
  | @enclosed inner tag hadmits h ih =>
    obtain ⟨hitem, hinner⟩ := List.forall_mem_cons.mp hitems
    have hinner : ∀ event ∈ inner, event.opensItem → 0 < paragraphs :=
      (List.forall_mem_append.mp hinner).1
    obtain hlt | ⟨hlt, rfl⟩ := full_or_room hfull
    · -- a folded container leaves its nodes to the frame around it
      obtain ⟨other, hrun, hpending, hother⟩ := ih hroom (fun _ => hlt) hinner htop
      exact ⟨other, run_enclosed_of_full hlt hrun, hpending, hother⟩
    · obtain ⟨below, rfl⟩ : ∃ below, room = below + 1 := ⟨room - 1, by omega⟩
      -- inside what is inline no item opens, so no paragraph is put around anything
      have hinside : ∀ event ∈ inner, event.opensItem → 0 < tag.paragraphsInside paragraphs := by
        intro event hevent hopens
        have hblock : ¬ tag.isInline := fun hinline =>
          hadmits event hevent hinline (Event.opensBlock_of_opensItem hopens)
        rw [Tag.paragraphsInside, if_neg hblock]
        exact hinner event hevent hopens
      have hlength : (({ pending := .container tag } : Frame) :: top :: frames).length + below =
          limit + 1 := by
        rw [List.length_cons]
        omega
      obtain ⟨other, hrun, hpending, hother⟩ := ih hlength
        (fun hpos => absurd hpos (Nat.lt_irrefl 0)) hinside (List.forall_mem_nil _)
      refine ⟨top.push other.toNode, run_enclosed_of_room hlt hrun, top.pending_push _,
        Frame.forall_mem_push (fun _ _ _ => .leaf rfl _ _) htop ?_⟩
      rw [Frame.toNode_of_container hpending]
      exact Tag.node_fits other.literal hitem fun child hc =>
        hother child (List.mem_reverse.mp hc)

end Builder

/-! ## Trees -/

/-- A document, the containers that are kept, the paragraph of an item and
a leaf: what is built is no higher. -/
theorem WellNested.height_ofEvents_le {events : List Event}
    (h : WellNested Tag.KeepsInline events) (limit : Nat) :
    (Node.ofEvents events limit).height ≤ limit + 3 := by
  have hrun : ∃ other, Builder.run limit events {} = ⟨[other], 0⟩ ∧
      other.pending = .document ∧ ∀ child ∈ other.children, child.Fits limit 1 :=
    Builder.exists_run_fits h (Nat.add_comm 1 limit) (fun hpos => absurd hpos (Nat.lt_irrefl 0))
      (fun _ _ _ => Nat.one_pos) (List.forall_mem_nil _)
  obtain ⟨other, hrun, hpending, hfits⟩ := hrun
  rw [Builder.ofEvents_eq_document hrun hpending]
  exact Node.height_le_succ_iff.mpr fun child hc => (hfits child (List.mem_reverse.mp hc)).height_le

/-- **The two limits agree.** What is built under a nesting limit is three
levels higher at most, and a rendering that goes as deep as that does not
fail, whatever the style and the other options. -/
theorem ofEvents_height_le {events : List Event} (h : WellNested Tag.KeepsInline events)
    (limit : Nat) :
    (Node.ofEvents events limit).height ≤ limit + 3 ∧
    ∀ (sheet : StyleSheet) (options : RenderOptions), limit + 3 ≤ options.maxDepth →
      ∃ r, render sheet options (Node.ofEvents events limit) = .ok r := by
  have hheight := h.height_ofEvents_le limit
  exact ⟨hheight, fun sheet options hdepth =>
    exists_render_eq_ok sheet options _ (Nat.le_trans hheight hdepth)⟩

/-- An item with a text of its own, under a limit that folds the emphasis in
it: the document, the list, the item, its paragraph and the text. -/
theorem tight_item_height :
    let emphasized := [Event.start .emphasis, .text "a", .stop]
    let item := Event.start .listItem :: (emphasized ++ [.stop])
    let events := Event.start (.bulletList '-') :: (item ++ [.stop])
    (Node.ofEvents events 2).height = 5 ∧ (Node.ofEvents events 2).height ≤ 2 + 3 ∧
    ∀ sheet, ∃ r, render sheet { maxDepth := 5 } (Node.ofEvents events 2) = .ok r := by
  intro emphasized item events
  have hemphasized : WellNested Tag.KeepsInline emphasized :=
    .enclosed .emphasis (by simp [Tag.KeepsInline, Event.opensBlock]) (.content (.text "a") rfl)
  have hevents : WellNested Tag.KeepsInline events :=
    .enclosed (.bulletList '-') (fun event _ => Tag.keepsInline_of_isBlock rfl event)
      (.enclosed .listItem (fun event _ => Tag.keepsInline_of_isBlock rfl event) hemphasized)
  obtain ⟨hheight, hrender⟩ := ofEvents_height_le hevents 2
  exact ⟨by cbv, hheight, fun sheet => hrender sheet { maxDepth := 5 } (Nat.le_refl 5)⟩

end StyledMarkdown
