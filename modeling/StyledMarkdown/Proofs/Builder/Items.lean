import StyledMarkdown.Proofs.Builder.Frames
import StyledMarkdown.Proofs.Tree.Items
/-!
# Items of built trees

A stream that opens items inside lists only is built into a tree whose
items all stand in lists, wherever the nesting limit cuts it: a list that
is folded folds its items with it.
-/

namespace StyledMarkdown

namespace Tag

def isList : Tag → Bool
  | orderedList .. | bulletList _ => true
  | _ => false

def isItem : Tag → Bool
  | listItem => true
  | _ => false

end Tag

/-- **Whether a stream opens items inside lists only**, where `opened` are
the containers open before it, innermost first. -/
def Listed (opened : List Tag) : List Event → Prop
  | [] => True
  | .start tag :: rest => (tag.isItem → opened.any Tag.isList) ∧ Listed (tag :: opened) rest
  | .stop :: rest => Listed opened.tail rest
  | _ :: rest => Listed opened rest

/-! ## The paragraphs of an item -/

section Runs

variable {nodes run : List Node} {node : Node}

theorem mem_wrapRun (hrun : ∀ child ∈ run, child.isInline) (h : node ∈ wrapRun run)
    (nodes : List Node) :
    ∃ inner, node = .paragraph inner ∧ inner <:+: run.reverse ++ nodes ∧
      ∀ child ∈ inner, child.isInline := by
  unfold wrapRun at h
  split at h
  · cases h
  · exact ⟨run.reverse, List.mem_singleton.mp h, (List.prefix_append _ _).isInfix,
      fun child hc => hrun child (List.mem_reverse.mp hc)⟩

theorem mem_wrapInlineRunsAfter (hrun : ∀ child ∈ run, child.isInline)
    (h : node ∈ wrapInlineRunsAfter run nodes) :
    (node ∈ nodes ∧ ¬ node.isInline) ∨
      ∃ inner, node = .paragraph inner ∧ inner <:+: run.reverse ++ nodes ∧
        ∀ child ∈ inner, child.isInline := by
  -- over the nodes: each continues the run that is open, or ends it and stands behind it
  induction nodes generalizing run with
  | nil =>
    rw [wrapInlineRunsAfter] at h
    exact .inr (mem_wrapRun hrun h [])
  | cons first rest ih =>
    rw [wrapInlineRunsAfter] at h
    split at h
    · rename_i hinline
      rcases ih (List.forall_mem_cons.mpr ⟨hinline, hrun⟩) h with
        ⟨hmem, hblock⟩ | ⟨inner, rfl, hinner, hall⟩
      · exact .inl ⟨List.mem_cons_of_mem _ hmem, hblock⟩
      · rw [List.reverse_cons, List.append_assoc, List.singleton_append] at hinner
        exact .inr ⟨inner, rfl, hinner, hall⟩
    · rename_i hblock
      rcases List.mem_append.mp h with h | h
      · exact .inr (mem_wrapRun hrun h _)
      rcases List.mem_cons.mp h with rfl | h
      · exact .inl ⟨List.mem_cons_self, hblock⟩
      rcases ih (List.forall_mem_nil _) h with ⟨hmem, hblock'⟩ | ⟨inner, rfl, hinner, hall⟩
      · exact .inl ⟨List.mem_cons_of_mem _ hmem, hblock'⟩
      · refine .inr ⟨inner, rfl, hinner.trans ?_, hall⟩
        exact ((List.suffix_cons _ _).trans (List.suffix_append _ _)).isInfix

/-- **What an item holds**: the blocks that stood in it, and paragraphs of
inline nodes that stood there one right behind the other. -/
theorem mem_wrapInlineRuns (h : node ∈ wrapInlineRuns nodes) :
    (node ∈ nodes ∧ ¬ node.isInline) ∨
      ∃ inner, node = .paragraph inner ∧ inner <:+: nodes ∧ ∀ child ∈ inner, child.isInline :=
  mem_wrapInlineRunsAfter (List.forall_mem_nil _) h

end Runs

/-! ## Nodes -/

section Nodes

variable {children : List Node} {inside : Bool}

theorem itemsInLists_leaf {node : Node} (hitem : ¬ node.isItem) (hleaf : node.children = []) :
    node.itemsInLists inside := by
  rw [Node.itemsInLists_iff, hleaf]
  exact ⟨fun h => absurd h hitem, List.forall_mem_nil _⟩

/-- **The node of a container** has its items in lists when the container
is no item outside a list and its children have. -/
theorem Tag.node_itemsInLists (tag : Tag) (literal : String) (hitem : tag.isItem → inside)
    (h : ∀ child ∈ children, child.itemsInLists (inside || tag.isList)) :
    (tag.node children literal).itemsInLists inside := by
  cases tag with
  | listItem =>
    refine Node.itemsInLists_iff.mpr ⟨hitem, fun node hnode => ?_⟩
    rcases mem_wrapInlineRuns hnode with ⟨hmem, -⟩ | ⟨inner, rfl, hinner, -⟩
    · exact h node hmem
    · refine Node.itemsInLists_iff.mpr ⟨nofun, fun child hc => ?_⟩
      rw [show Node.isList (.paragraph inner) = false from rfl, Bool.or_false]
      exact h child (hinner.subset hc)
  | fencedCode | indentedCode | htmlBlock => exact itemsInLists_leaf Bool.false_ne_true rfl
  | _ => exact Node.itemsInLists_iff.mpr ⟨fun h => absurd h Bool.false_ne_true, h⟩

end Nodes

/-! ## Frames -/

def Pending.isList : Pending → Bool
  | document => false
  | container tag => tag.isList

def Pending.isItem : Pending → Bool
  | document => false
  | container tag => tag.isItem

def Frame.isList (frame : Frame) : Bool := frame.pending.isList

def Frame.isItem (frame : Frame) : Bool := frame.pending.isItem

/-- The frames below which every item stands in a list. -/
def Frame.AllListed : List Frame → Prop
  | [] => True
  | frame :: around =>
    (frame.isItem → around.any isList) ∧
      (∀ child ∈ frame.children, child.itemsInLists ((frame :: around).any isList)) ∧
      AllListed around

section Frames

variable {frame : Frame} {around : List Frame} {node : Node}

theorem Frame.toNode_itemsInLists (h : AllListed (frame :: around)) :
    frame.toNode.itemsInLists (around.any isList) := by
  obtain ⟨hitem, hchildren, -⟩ := h
  rw [List.any_cons, Bool.or_comm] at hchildren
  obtain ⟨pending, children, literal⟩ := frame
  cases pending with
  | document =>
    exact Node.itemsInLists_iff.mpr ⟨nofun, fun child hc =>
      hchildren child (List.mem_reverse.mp hc)⟩
  | container tag =>
    exact tag.node_itemsInLists literal hitem fun child hc =>
      hchildren child (List.mem_reverse.mp hc)

/-- A frame with other children is listed when those are. -/
theorem Frame.AllListed.withChildren {other : Frame} (h : AllListed (frame :: around))
    (hpending : other.pending = frame.pending)
    (hchildren : ∀ child ∈ other.children,
      child.itemsInLists ((frame :: around).any Frame.isList)) :
    AllListed (other :: around) := by
  have hlist : other.isList = frame.isList := by
    unfold Frame.isList
    rw [hpending]
  have hitem : other.isItem = frame.isItem := by
    unfold Frame.isItem
    rw [hpending]
  refine ⟨hitem ▸ h.1, ?_, h.2.2⟩
  rw [List.any_cons, hlist, ← List.any_cons]
  exact hchildren

theorem Frame.AllListed.push (h : AllListed (frame :: around))
    (hnode : node.itemsInLists ((frame :: around).any Frame.isList)) :
    AllListed (frame.push node :: around) := by
  refine h.withChildren (frame.pending_push node) ?_
  exact Frame.forall_mem_push (fun _ _ _ => itemsInLists_leaf nofun rfl) h.2.1 hnode

/-- Closing a frame into the next one. -/
theorem Frame.AllListed.close {next : Frame} (h : AllListed (frame :: next :: around)) :
    AllListed (next.push frame.toNode :: around) :=
  h.2.2.push (Frame.toNode_itemsInLists h)

theorem closeAll_itemsInLists (frames : List Frame) (h : Frame.AllListed frames) :
    (Builder.closeAll frames).itemsInLists := by
  fun_induction Builder.closeAll frames with
  | case1 => exact itemsInLists_leaf nofun rfl
  | case2 last => exact Frame.toNode_itemsInLists h
  | case3 top next rest ih => exact ih h.close

end Frames

/-! ## Builders -/

namespace Builder

/-- **The frames of a builder and the containers that are open**, where every
item stands in a list. -/
structure Follows (limit : Nat) (opened : List Tag) (b : Builder) : Prop
    extends Shows limit opened b where
  listed : Frame.AllListed b.frames

variable {limit : Nat} {opened : List Tag} {b : Builder}

theorem Follows.start (limit : Nat) : Follows limit [] {} :=
  ⟨.start limit, nofun, List.forall_mem_nil _, trivial⟩

/-- A change of the innermost frame alone changes nothing that is open. -/
theorem Follows.onTop (h : Follows limit opened b) {change : Frame → Frame}
    (hpending : ∀ frame, (change frame).pending = frame.pending)
    (hchange : ∀ frame around, Frame.AllListed (frame :: around) →
      Frame.AllListed (change frame :: around)) :
    Follows limit opened (b.onTop change) := by
  refine ⟨h.toShows.onTop hpending, ?_⟩
  have hlisted := h.listed
  obtain ⟨frames, folded⟩ := b
  cases frames with
  | nil => exact hlisted
  | cons top rest => exact hchange top rest hlisted

theorem Follows.pushLeaf (h : Follows limit opened b) {node : Node}
    (hitem : ¬ node.isItem) (hleaf : node.children = []) :
    Follows limit opened (b.onTop (·.push node)) :=
  h.onTop (fun frame => frame.pending_push node) fun _ _ hframes =>
    hframes.push (itemsInLists_leaf hitem hleaf)

theorem Follows.addText (h : Follows limit opened b) (content : String) {node : String → Node}
    (hitem : ¬ (node content).isItem) (hleaf : (node content).children = []) :
    Follows limit opened (b.addText content node) := by
  refine h.onTop (fun frame => ?_) fun frame around hframes => ?_
  · split
    · rfl
    · exact frame.pending_push _
  · split
    · exact hframes.withChildren rfl hframes.2.1
    · exact hframes.push (itemsInLists_leaf hitem hleaf)

/-- Unless something is folded, the lists among the frames are those that
are open. -/
theorem Follows.any_isList (h : Follows limit opened b) (hfolded : b.folded = 0) :
    b.frames.any Frame.isList = opened.any Tag.isList := by
  have hmap : b.frames.any Frame.isList = (b.frames.map Frame.pending).any Pending.isList :=
    List.any_map.symm
  rw [hmap, h.frames, hfolded, List.any_append, List.any_map]
  exact Bool.or_false _

theorem Follows.enter (h : Follows limit opened b) (tag : Tag)
    (hitem : tag.isItem → opened.any Tag.isList) :
    Follows limit (tag :: opened) (b.enter limit tag) := by
  refine ⟨h.toShows.enter tag, ?_⟩
  unfold Builder.enter
  split
  · -- past the limit the container is folded, an item of it as well as a list
    exact h.listed
  · rename_i hroom
    rw [← h.any_isList (h.toShows.folded_eq_zero hroom)] at hitem
    exact ⟨hitem, List.forall_mem_nil _, h.listed⟩

theorem Follows.leave (h : Follows limit opened b) : Follows limit opened.tail b.leave := by
  refine ⟨h.toShows.leave, ?_⟩
  have hlisted := h.listed
  obtain ⟨-, hleave⟩ | ⟨-, top, next, rest, hframes, hleave⟩ | ⟨-, -, hleave⟩ := b.leave_cases
  · rw [hleave]
    exact hlisted
  · rw [hframes] at hlisted
    rw [hleave]
    exact hlisted.close
  · rw [hleave]
    exact hlisted

/-- **Frames and containers stay together** along a stream. -/
theorem Follows.run {events : List Event} (h : Follows limit opened b)
    (hlisted : Listed opened events) : ∃ opened', Follows limit opened' (b.run limit events) := by
  induction events generalizing opened b with
  | nil => exact ⟨opened, h⟩
  | cons event events ih =>
    -- one event keeps the frames with the containers, and the rest goes on from there
    cases event with
    | start tag => exact ih (h.enter tag hlisted.1) hlisted.2
    | stop => exact ih h.leave hlisted
    | text content => exact ih (h.addText content nofun rfl) hlisted
    | html content => exact ih (h.addText content nofun rfl) hlisted
    | inlineHtml | code | softBreak | hardBreak | rule =>
      exact ih (h.pushLeaf nofun rfl) hlisted
    | ignored => exact ih h hlisted

end Builder

/-- **Items that open inside lists end up inside lists**, whatever the
limit folds. -/
theorem ofEvents_itemsInLists {events : List Event} (h : Listed [] events) (limit : Nat) :
    (Node.ofEvents events limit).itemsInLists := by
  obtain ⟨_, hfollows⟩ := (Builder.Follows.start limit).run h
  exact closeAll_itemsInLists _ hfollows.listed

end StyledMarkdown
