import Mathlib.Data.List.Chain
import Mathlib.Data.List.Infix
import StyledMarkdown.Proofs.Builder.Height
import StyledMarkdown.Proofs.Rendering.Visits
/-!
# The shape of built trees

A regular stream opens items inside lists and nothing else there, and
knows no container without support. Its tree has one document, the root,
and texts are never neighbours in it; what stands in an item is a block;
and items stand in lists. Folding takes a list away together with its
items, so the last of these holds under every limit. It may leave other
nodes in a list, so that a list has nothing but items is sure only if
nothing was folded.
-/

namespace StyledMarkdown

def Tag.isUnsupported : Tag → Bool
  | unsupported => true
  | _ => false

/-! ## Regular streams -/

/-- **A regular stream**: it is well nested, a list holds items and nothing
else, and items are held by nothing else. `inList` says whether it stands
in a list. -/
inductive Regular (admits : Tag → Event → Prop) : Bool → List Event → Prop
  | nil (inList : Bool) : Regular admits inList []
  | content (event : Event) (h : event.isContent) : Regular admits false [event]
  | append {inList : Bool} {events rest : List Event} (h : Regular admits inList events)
      (hrest : Regular admits inList rest) : Regular admits inList (events ++ rest)
  | enclosed {inList : Bool} {events : List Event} (tag : Tag) (hitem : tag.isItem = inList)
      (hsupported : ¬ tag.isUnsupported) (hadmits : ∀ event ∈ events, admits tag event)
      (h : Regular admits tag.isList events) :
      Regular admits inList (.start tag :: (events ++ [.stop]))

/-- Regular events at the top of a stream, whatever stands in a container. -/
abbrev RegularEvents : List Event → Prop := Regular (fun _ _ => True) false

section Regular

variable {admits : Tag → Event → Prop} {inList : Bool} {events : List Event}

theorem Regular.wellNested (h : Regular admits inList events) : WellNested admits events := by
  induction h with
  | nil => exact .nil
  | content event h => exact .content event h
  | append _ _ ih ihrest => exact ih.append ihrest
  | enclosed tag _ _ hadmits _ ih => exact .enclosed tag hadmits ih

/-- Regular events leave open what was open before them. -/
theorem Regular.listed_append (h : Regular admits inList events) (opened : List Tag)
    (hopened : inList → opened.any Tag.isList) (rest : List Event)
    (hrest : Listed opened rest) : Listed opened (events ++ rest) := by
  induction h generalizing opened rest with
  | nil => exact hrest
  | content event h =>
    cases event with
    | start | stop => cases h
    | _ => exact hrest
  | append _ _ ih ihrest =>
    rw [List.append_assoc]
    exact ih opened hopened _ (ihrest opened hopened rest hrest)
  | enclosed tag hitem _ _ _ ih =>
    have hinside : tag.isList → (tag :: opened).any Tag.isList := by
      intro hlist
      rw [List.any_cons, hlist, Bool.true_or]
    rw [List.cons_append, List.append_assoc]
    exact ⟨fun htag => hopened (hitem ▸ htag), ih (tag :: opened) hinside _ hrest⟩

/-- A regular stream opens items inside lists only. -/
theorem Regular.listed (h : Regular admits false events) : Listed [] events := by
  have hlisted := h.listed_append [] (fun hlist => absurd hlist Bool.false_ne_true) [] trivial
  rwa [List.append_nil] at hlisted

end Regular

namespace Node

def isText : Node → Bool
  | text _ => true
  | _ => false

def isUnsupported : Node → Bool
  | unsupported .. => true
  | _ => false

/-- Two nodes that are not both texts. -/
def Separate (a b : Node) : Prop := ¬ (a.isText ∧ b.isText)

/-- **The shape of a node**, where `inList` says whether it stands in a
list. If the tree is `strict`, nothing but items stands there. -/
structure Shape (strict : Prop) (inList : Bool) (node : Node) : Prop where
  supported : ¬ node.isUnsupported
  item : node.isItem → inList
  entry : strict → inList → node.isItem
  separate : node.children.IsChain Separate
  blocks : node.isItem → ∀ child ∈ node.children, ¬ child.isInline

/-- **A tree below the root** with all its nodes in shape. -/
inductive Shaped (strict : Prop) : Bool → Node → Prop
  | intro {inList : Bool} {node : Node} (below_root : ¬ node.isDocument)
      (here : node.Shape strict inList)
      (below : ∀ child ∈ node.children, Shaped strict node.isList child) :
      Shaped strict inList node

variable {strict : Prop} {inList : Bool} {node : Node} {nodes : List Node}

theorem isInline_of_isText (h : node.isText) : node.isInline := by
  cases node with
  | text => rfl
  | _ => cases h

theorem separate_reverse (h : nodes.IsChain Separate) : nodes.reverse.IsChain Separate :=
  List.isChain_reverse.mpr (h.imp fun _ _ hab hba => hab hba.symm)

theorem separate_of_not_isText (h : ¬ node.isText) (other : Node) : node.Separate other :=
  fun hboth => h hboth.1

/-- **A leaf of content is in shape**, unless it stands in a list where
nothing but items may stand. -/
theorem shaped_leaf {event : Event} (hleaf : node ∈ event.leaf?) (hentry : strict → ¬ inList) :
    node.Shaped strict inList := by
  have hshape : ¬ node.isUnsupported ∧ ¬ node.isDocument ∧ ¬ node.isItem ∧
      node.children = [] := by
    cases event <;> cases hleaf <;> exact ⟨nofun, nofun, nofun, rfl⟩
  obtain ⟨hsupported, hdocument, hitem, hchildren⟩ := hshape
  refine .intro hdocument ⟨hsupported, fun h => absurd h hitem,
    fun hs h => absurd h (hentry hs), ?_, fun h => absurd h hitem⟩ ?_
  · rw [hchildren]
    exact .nil
  · rw [hchildren]
    exact List.forall_mem_nil _

/-- Any text may stand where another one does. -/
theorem Shaped.text {previous : String} (h : (Node.text previous).Shaped strict inList)
    (next : String) : (Node.text next).Shaped strict inList := by
  obtain ⟨-, here, -⟩ := h
  have hleaf : Node.text next ∈ (Event.text next).leaf? := rfl
  exact shaped_leaf hleaf fun hstrict hlist => Bool.false_ne_true (here.entry hstrict hlist)

end Node

/-- **Every place in a tree below the root** has a parent, and a node in
shape. -/
theorem Node.Shaped.of_mem_inOrder {strict : Prop} {root node parent : Node}
    {above around : List Node} (h : root.Shaped strict parent.isList)
    (hmem : (above, node) ∈ root.inOrder .entering (parent :: around)) :
    ¬ node.isDocument ∧ above ≠ [] ∧ node.Shape strict (above.head?.any isList) := by
  -- over the tree: a node is the root of it or stands in one of its children
  induction root using Node.inductionOn generalizing parent around with
  | step root ih =>
    obtain ⟨hdocument, here, below⟩ := h
    rw [inOrder_eq] at hmem
    rcases Order.mem_arrange.mp hmem with hroot | hbelow
    · obtain ⟨rfl, rfl⟩ := Prod.mk.inj hroot
      exact ⟨hdocument, List.cons_ne_nil _ _, here⟩
    · obtain ⟨child, hc, hchild⟩ := List.mem_flatMap.mp hbelow
      exact ih child hc (below child hc) hchild

/-! ## Containers -/

section Containers

variable {strict : Prop} {inList : Bool} {children : List Node} {tag : Tag}

/-- **What an item holds is in shape**, and a block. -/
theorem shaped_of_mem_wrapInlineRuns (hseparate : children.IsChain Node.Separate)
    (h : ∀ child ∈ children, child.Shaped strict false) :
    ∀ node ∈ wrapInlineRuns children, ¬ node.isInline ∧ node.Shaped strict false := by
  intro node hnode
  rcases mem_wrapInlineRuns hnode with ⟨hmem, hblock⟩ | ⟨inner, rfl, hinner, -⟩
  · exact ⟨hblock, h node hmem⟩
  · -- the nodes of a run stand beside each other as they did in the item
    exact ⟨nofun, .intro nofun ⟨nofun, nofun, fun _ => nofun, hseparate.infix hinner, nofun⟩
      fun child hc => h child (hinner.subset hc)⟩

theorem separate_wrapInlineRuns (hseparate : children.IsChain Node.Separate)
    (h : ∀ child ∈ children, child.Shaped strict false) :
    (wrapInlineRuns children).IsChain Node.Separate := by
  have hblocks := shaped_of_mem_wrapInlineRuns hseparate h
  refine (List.pairwise_of_forall_mem_list fun node hnode other _ => ?_).isChain
  exact Node.separate_of_not_isText
    (fun htext => (hblocks node hnode).1 (Node.isInline_of_isText htext)) other

/-- **A container is in shape** when its place is and what it holds is. -/
theorem Tag.node_shaped (literal : String) (hitem : tag.isItem = inList)
    (hsupported : ¬ tag.isUnsupported) (hseparate : children.IsChain Node.Separate)
    (h : ∀ child ∈ children, child.Shaped strict tag.isList) :
    (tag.node children literal).Shaped strict inList := by
  subst hitem
  cases tag with
  | unsupported => exact absurd rfl hsupported
  | listItem =>
    have hinside := shaped_of_mem_wrapInlineRuns hseparate h
    exact .intro nofun ⟨nofun, fun _ => rfl, fun _ _ => rfl, separate_wrapInlineRuns hseparate h,
      fun _ child hc => (hinside child hc).1⟩ fun child hc => (hinside child hc).2
  | fencedCode | indentedCode | htmlBlock =>
    exact .intro nofun ⟨nofun, nofun, fun _ => nofun, .nil, nofun⟩ (List.forall_mem_nil _)
  | _ => exact .intro nofun ⟨nofun, nofun, fun _ => nofun, hseparate, nofun⟩ h

end Containers

/-! ## Frames -/

/-- **A frame of nodes in shape**, latest first. -/
structure Frame.Shaped (strict : Prop) (frame : Frame) : Prop where
  separate : frame.children.IsChain Node.Separate
  children : ∀ child ∈ frame.children, child.Shaped strict frame.isList

namespace Frame

variable {strict : Prop} {frame other : Frame} {node : Node}

theorem isList_eq (h : other.pending = frame.pending) : other.isList = frame.isList :=
  congrArg Pending.isList h

/-- Text that is pushed behind text is no neighbour of it. -/
theorem separate_push (h : frame.children.IsChain Node.Separate) :
    (frame.push node).children.IsChain Node.Separate := by
  unfold push
  split
  · rename_i next previous rest hchildren
    rw [hchildren] at h
    obtain ⟨hhead, htail⟩ := List.isChain_cons.mp h
    exact List.isChain_cons.mpr ⟨hhead, htail⟩
  · rename_i node _ _ htexts
    refine List.isChain_cons.mpr ⟨fun previous hprevious hboth => ?_, h⟩
    obtain ⟨rest, hchildren⟩ := List.head?_eq_some_iff.mp hprevious
    cases node with
    | text next =>
      cases previous with
      | text previous => exact htexts next previous rest rfl hchildren
      | _ => cases hboth.2
    | _ => cases hboth.1

theorem Shaped.start (pending : Pending) : Frame.Shaped strict { pending } :=
  ⟨.nil, List.forall_mem_nil _⟩

theorem Shaped.push (h : frame.Shaped strict) (hnode : node.Shaped strict frame.isList) :
    (frame.push node).Shaped strict := by
  refine ⟨separate_push h.separate, ?_⟩
  rw [isList_eq (frame.pending_push node)]
  exact forall_mem_push (fun _ _ hprevious => hprevious.text _) h.children hnode

/-- **Content keeps a frame in shape**, unless it is the one of a list where
nothing but items may stand. -/
theorem Shaped.take (h : frame.Shaped strict) (event : Event) (hentry : strict → ¬ frame.isList) :
    (frame.take event).Shaped strict := by
  rcases frame.take_eq event with ⟨literal, htake⟩ | ⟨leaf, hleaf, htake⟩
  · rw [htake]
    exact ⟨h.separate, h.children⟩
  · rw [htake]
    exact h.push (Node.shaped_leaf hleaf hentry)

end Frame

/-! ## Streams without folding -/

namespace Builder

/-- **A stream of which nothing is folded**, by a builder that has come to it. -/
def FoldsNothing (limit : Nat) (b : Builder) (events : List Event) : Prop :=
  ∀ before, before <+: events → (b.run limit before).folded = 0

namespace FoldsNothing

variable {limit : Nat} {b : Builder} {event : Event} {events rest : List Event}

theorem folded_eq_zero (h : FoldsNothing limit b events) : b.folded = 0 := h [] List.nil_prefix

theorem left (h : FoldsNothing limit b (events ++ rest)) : FoldsNothing limit b events :=
  fun before hbefore => h before (hbefore.trans (List.prefix_append events rest))

theorem right (h : FoldsNothing limit b (events ++ rest)) :
    FoldsNothing limit (b.run limit events) rest := by
  intro before hbefore
  rw [← run_append]
  exact h (events ++ before) ((List.prefix_append_right_inj events).mpr hbefore)

theorem step (h : FoldsNothing limit b (event :: events)) :
    FoldsNothing limit (b.step limit event) events := by
  have hevents : FoldsNothing limit b ([event] ++ events) := h
  exact hevents.right

end FoldsNothing

/-! ## Builders -/

variable {admits : Tag → Event → Prop} {strict : Prop} {inList : Bool} {limit folded : Nat}
  {top : Frame} {frames : List Frame} {events : List Event}

/-- **Regular events keep the innermost frame in shape**, which is the one
they are meant for unless something is folded. In a strict tree nothing
is. -/
theorem exists_run_shaped (h : Regular admits inList events)
    (hlist : folded = 0 → top.isList = inList)
    (hfull : 0 < folded → limit < (top :: frames).length)
    (hstrict : strict → FoldsNothing limit ⟨top :: frames, folded⟩ events)
    (htop : top.Shaped strict) :
    ∃ other, run limit events ⟨top :: frames, folded⟩ = ⟨other :: frames, folded⟩ ∧
      other.pending = top.pending ∧ other.Shaped strict := by
  induction h generalizing top frames folded with
  | nil => exact ⟨top, rfl, rfl, htop⟩
  | content event h =>
    refine ⟨top.take event, step_of_isContent h, top.pending_take event, htop.take event ?_⟩
    intro hs
    rw [hlist (hstrict hs).folded_eq_zero]
    exact Bool.false_ne_true
  | @append inList events rest h hrest ih ihrest =>
    obtain ⟨middle, hrun, hpending, hmiddle⟩ := ih hlist hfull (fun hs => (hstrict hs).left) htop
    have hlist' : folded = 0 → middle.isList = inList :=
      fun hfolded => (Frame.isList_eq hpending).trans (hlist hfolded)
    have hsecond : strict → FoldsNothing limit ⟨middle :: frames, folded⟩ rest :=
      fun hs => hrun ▸ (hstrict hs).right
    obtain ⟨other, hrun', hpending', hother⟩ := ihrest hlist' hfull hsecond hmiddle
    exact ⟨other, by rw [run_append, hrun, hrun'], hpending'.trans hpending, hother⟩
  | @enclosed inList inner tag hitem hsupported hadmits h ih =>
    have hinside : strict →
        FoldsNothing limit (step limit ⟨top :: frames, folded⟩ (.start tag)) inner :=
      fun hs => (hstrict hs).step.left
    obtain hlt | ⟨hlt, rfl⟩ := full_or_room hfull
    · -- a container is folded, so the tree is not strict and the frame may take anything
      have henter : step limit ⟨top :: frames, folded⟩ (.start tag) =
          ⟨top :: frames, folded + 1⟩ := if_pos hlt
      rw [henter] at hinside
      obtain ⟨other, hrun, hpending, hother⟩ :=
        ih (fun hfolded => absurd hfolded (Nat.succ_ne_zero _)) (fun _ => hlt) hinside htop
      exact ⟨other, run_enclosed_of_full hlt hrun, hpending, hother⟩
    · have henter : step limit ⟨top :: frames, 0⟩ (.start tag) =
          ⟨{ pending := .container tag } :: top :: frames, 0⟩ := if_neg hlt
      rw [henter] at hinside
      obtain ⟨other, hrun, hpending, hother⟩ := ih (fun _ => rfl)
        (fun hpos => absurd hpos (Nat.lt_irrefl 0)) hinside (.start _)
      have hnode : other.toNode.Shaped strict top.isList := by
        have hsame : other.isList = tag.isList := Frame.isList_eq hpending
        rw [Frame.toNode_of_container hpending, hlist rfl]
        refine Tag.node_shaped _ hitem hsupported (Node.separate_reverse hother.separate) ?_
        rw [← hsame]
        exact fun child hc => hother.children child (List.mem_reverse.mp hc)
      exact ⟨top.push other.toNode, run_enclosed_of_room hlt hrun, top.pending_push _,
        htop.push hnode⟩

end Builder

/-! ## Trees -/

theorem Regular.shape_ofEvents {admits : Tag → Event → Prop} {events : List Event}
    (h : Regular admits false events) {limit : Nat} {above : List Node} {node : Node}
    (hmem : (above, node) ∈ (Node.ofEvents events limit).inOrder .entering []) :
    (node.isDocument ↔ above = []) ∧
      node.Shape (Builder.FoldsNothing limit {} events) (above.head?.any Node.isList) := by
  have hrun : ∃ other, Builder.run limit events {} = ⟨[other], 0⟩ ∧
      other.pending = .document ∧ other.Shaped (Builder.FoldsNothing limit {} events) :=
    Builder.exists_run_shaped h (fun _ => rfl) (fun hpos => absurd hpos (Nat.lt_irrefl 0))
      (fun hs => hs) (.start _)
  obtain ⟨other, hrun, hpending, hseparate, hchildren⟩ := hrun
  have hlist : other.isList = false := congrArg Pending.isList hpending
  rw [hlist] at hchildren
  rw [Builder.ofEvents_eq_document hrun hpending, Node.inOrder_eq] at hmem
  rcases Order.mem_arrange.mp hmem with hroot | hbelow
  · obtain ⟨rfl, rfl⟩ := Prod.mk.inj hroot
    exact ⟨⟨fun _ => rfl, fun _ => rfl⟩, nofun, nofun, fun _ => nofun,
      Node.separate_reverse hseparate, nofun⟩
  · obtain ⟨child, hc, hchild⟩ := List.mem_flatMap.mp hbelow
    obtain ⟨hdocument, habove, hshape⟩ :=
      (hchildren child (List.mem_reverse.mp hc)).of_mem_inOrder hchild
    exact ⟨⟨fun h => absurd h hdocument, fun h => absurd h habove⟩, hshape⟩

/-- **The shape of a tree that is built** from a regular stream, whatever
its limit: the root is a document and nothing else is; no node is without
support; texts are never neighbours; an item stands in a list and holds
blocks only; and nothing but items stands in a list, if nothing was
folded. -/
theorem ofEvents_shape {events : List Event} (h : RegularEvents events) (limit : Nat) :
    (Node.ofEvents events limit).isDocument ∧
    ∀ above node, (above, node) ∈ (Node.ofEvents events limit).inOrder .entering [] →
      (node.isDocument ↔ above = []) ∧
      ¬ node.isUnsupported ∧
      node.children.IsChain Node.Separate ∧
      (node.isItem → above.head?.any Node.isList ∧ ∀ child ∈ node.children, ¬ child.isInline) ∧
      (Builder.FoldsNothing limit {} events → above.head?.any Node.isList → node.isItem) := by
  refine ⟨?_, fun above node hmem => ?_⟩
  · have hroot : ([], Node.ofEvents events limit) ∈
        (Node.ofEvents events limit).inOrder .entering [] := by
      rw [Node.inOrder_eq]
      exact Order.mem_arrange.mpr (.inl rfl)
    exact (h.shape_ofEvents hroot).1.mpr rfl
  · obtain ⟨hdocument, hshape⟩ := h.shape_ofEvents hmem
    exact ⟨hdocument, hshape.supported, hshape.separate,
      fun hitem => ⟨hshape.item hitem, hshape.blocks hitem⟩, hshape.entry⟩

/-- A quote in an item, with text on both sides of it, under a limit that
folds the quote: the texts are then one, in one paragraph. -/
theorem folded_quote_shape :
    let quote := [Event.start .blockQuote, .text "b", .stop]
    let item := Event.start .listItem :: ([.text "a"] ++ quote ++ [.text "c"] ++ [.stop])
    let events := Event.start (.bulletList '-') :: (item ++ [.stop])
    let list := Node.bulletList '-' [.listItem [.paragraph [.text "abc"]]]
    Node.ofEvents events 2 = .document [list] ∧
    ¬ Builder.FoldsNothing 2 {} events ∧
    (∀ above node, (above, node) ∈ (Node.document [list]).inOrder .entering [] →
      node.children.IsChain Node.Separate) ∧
    ∀ above node, (above, node) ∈ (Node.ofEvents events 3).inOrder .entering [] →
      above.head?.any Node.isList → node.isItem := by
  intro quote item events list
  have hquote : Regular (fun _ _ => True) false quote :=
    .enclosed .blockQuote rfl nofun (fun _ _ => trivial) (.content (.text "b") rfl)
  have hinner : Regular (fun _ _ => True) false ([.text "a"] ++ quote ++ [.text "c"]) :=
    ((Regular.content (.text "a") rfl).append hquote).append (.content (.text "c") rfl)
  have hevents : RegularEvents events :=
    .enclosed (.bulletList '-') rfl nofun (fun _ _ => trivial)
      (.enclosed .listItem rfl nofun (fun _ _ => trivial) hinner)
  have htree : Node.ofEvents events 2 = .document [list] := by cbv
  have hfolded : ¬ Builder.FoldsNothing 2 {} events := fun h =>
    absurd (h [.start (.bulletList '-'), .start .listItem, .text "a", .start .blockQuote]
      ⟨_, rfl⟩) (Nat.succ_ne_zero 0)
  refine ⟨htree, hfolded, fun above node hmem => ?_, fun above node hmem => ?_⟩
  · rw [← htree] at hmem
    exact ((ofEvents_shape hevents 2).2 above node hmem).2.2.1
  · have hnothing : Builder.FoldsNothing 3 {} events := by
      have hinits : ∀ before ∈ events.inits, (Builder.run 3 before).folded = 0 := by decide
      exact fun before hbefore => hinits before ((List.mem_inits before events).mpr hbefore)
    exact ((ofEvents_shape hevents 3).2 above node hmem).2.2.2.2 hnothing

end StyledMarkdown
