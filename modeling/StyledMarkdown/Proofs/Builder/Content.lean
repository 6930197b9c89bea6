import StyledMarkdown.Proofs.Builder.Events
/-!
# The content of built trees

What a stream carries is what the leaves of its tree hold, in the same
order. Text becomes a leaf of its own, continues the one before or is
collected by a block of code or of markup; inside an item it may be put in
a paragraph; and folded containers leave theirs to the one around them.
None of this loses, doubles or moves any of it.
-/

namespace StyledMarkdown

/-! ## Atoms -/

/-- **What content is made of**: characters, and the breaks and rules
between them. -/
inductive Atom where
  | char (c : Char)
  | softBreak
  | hardBreak
  | rule
deriving DecidableEq

/-- The characters of a text. -/
def Atom.ofText (text : String) : List Atom := text.toList.map char

theorem Atom.ofText_append (text more : String) :
    ofText (text ++ more) = ofText text ++ ofText more := by
  unfold ofText
  rw [String.toList_append, List.map_append]

/-- What an event carries. -/
def Event.atoms : Event → List Atom
  | text content | html content | inlineHtml content | code content => Atom.ofText content
  | softBreak => [.softBreak]
  | hardBreak => [.hardBreak]
  | rule => [.rule]
  | start _ | stop | ignored => []

namespace Node

/-- What a node holds itself. -/
def ownAtoms : Node → List Atom
  | softBreak => [.softBreak]
  | hardBreak => [.hardBreak]
  | thematicBreak => [.rule]
  | node => (node.literal?.map Atom.ofText).getD []

/-- **What the leaves of a tree hold**, in the order of the document. -/
def atoms : Node → List Atom := fold fun node below => node.ownAtoms ++ below.flatten

theorem atoms_eq (node : Node) : node.atoms = node.ownAtoms ++ node.children.flatMap atoms := by
  unfold atoms
  rw [fold_eq, List.flatMap_def]

/-- A leaf holds only what it holds itself. -/
theorem atoms_leaf {node : Node} (h : node.children = []) : node.atoms = node.ownAtoms := by
  rw [atoms_eq, h]
  exact List.append_nil _

end Node

/-! ## Raw blocks -/

/-- Whether a container keeps its text as it is. -/
def Tag.isRaw : Tag → Bool
  | fencedCode _ | indentedCode | htmlBlock => true
  | _ => false

/-- Whether an event may stand in a container that keeps its text. -/
def Event.isRaw : Event → Bool
  | text _ | html _ | ignored => true
  | _ => false

/-- **A block of code or of markup holds text only.** -/
def Tag.Admits (tag : Tag) (event : Event) : Prop := tag.isRaw → event.isRaw

theorem Tag.admits_of_not_isRaw (tag : Tag) (h : ¬ tag.isRaw) (event : Event) :
    tag.Admits event := fun hraw => absurd hraw h

/-! ## Items -/

section Items

variable {nodes run : List Node}

theorem atoms_wrapRun : (wrapRun run).flatMap Node.atoms = run.reverse.flatMap Node.atoms := by
  unfold wrapRun
  cases run with
  | nil => rfl
  | cons node run =>
    rw [List.isEmpty_cons, if_neg Bool.false_ne_true, List.flatMap_singleton, Node.atoms_eq]
    rfl

theorem atoms_wrapInlineRunsAfter : (wrapInlineRunsAfter run nodes).flatMap Node.atoms =
    run.reverse.flatMap Node.atoms ++ nodes.flatMap Node.atoms := by
  induction nodes generalizing run with
  | nil =>
    rw [wrapInlineRunsAfter, atoms_wrapRun]
    exact (List.append_nil _).symm
  | cons node rest ih =>
    rw [wrapInlineRunsAfter]
    split
    · rw [ih, List.reverse_cons, List.flatMap_append, List.flatMap_singleton, List.append_assoc,
        List.flatMap_cons]
    · rw [List.flatMap_append, atoms_wrapRun, List.flatMap_cons, ih]
      rfl

/-- **The paragraphs of an item hold what was in it.** -/
theorem atoms_wrapInlineRuns :
    (wrapInlineRuns nodes).flatMap Node.atoms = nodes.flatMap Node.atoms :=
  atoms_wrapInlineRunsAfter

end Items

/-- **A container holds what its children do**, or its text. -/
theorem Tag.atoms_node (tag : Tag) (children : List Node) (literal : String) :
    (tag.node children literal).atoms =
      if tag.isRaw then Atom.ofText literal else children.flatMap Node.atoms := by
  rw [Node.atoms_eq]
  cases tag with
  | fencedCode | indentedCode | htmlBlock => exact List.append_nil _
  | listItem => exact atoms_wrapInlineRuns
  | _ => rfl

/-! ## Frames -/

namespace Frame

/-- What the nodes in a frame hold. -/
def atoms (frame : Frame) : List Atom := frame.children.reverse.flatMap Node.atoms

/-- **A frame that was given more to hold.** -/
structure Gains (frame other : Frame) (more : List Atom) : Prop where
  pending : other.pending = frame.pending
  atoms : other.atoms = frame.atoms ++ more

variable {frame other last : Frame} {more rest : List Atom} {event : Event}

theorem Gains.refl (frame : Frame) : Gains frame frame [] := ⟨rfl, (List.append_nil _).symm⟩

theorem Gains.trans (h : Gains frame other more) (hrest : Gains other last rest) :
    Gains frame last (more ++ rest) :=
  ⟨hrest.pending.trans h.pending, by rw [hrest.atoms, h.atoms, List.append_assoc]⟩

theorem Gains.collectsLiteral (h : Gains frame other more) :
    other.collectsLiteral = frame.collectsLiteral := collectsLiteral_eq h.pending

/-- **A node that is added is added whole**, and text right after text too. -/
theorem gains_push (frame : Frame) (node : Node) : Gains frame (frame.push node) node.atoms := by
  refine ⟨frame.pending_push node, ?_⟩
  unfold push
  split
  · rename_i next previous rest hchildren
    have htext : ∀ literal, (Node.text literal).atoms = Atom.ofText literal :=
      fun _ => Node.atoms_leaf rfl
    unfold Frame.atoms
    rw [hchildren]
    simp [htext, Atom.ofText_append]
  · unfold Frame.atoms
    simp

theorem gains_push_leaf (frame : Frame) (node : Node) (h : node.children = []) :
    Gains frame (frame.push node) node.ownAtoms := by
  rw [← Node.atoms_leaf h]
  exact frame.gains_push node

/-- **A frame that keeps nodes holds the content it takes.** -/
theorem gains_take (hevent : event.isContent) (hraw : ¬ frame.collectsLiteral) :
    Gains frame (frame.take event) event.atoms := by
  cases event with
  | start | stop => cases hevent
  | text content =>
    have htake : frame.take (.text content) = frame.push (.text content) := if_neg hraw
    rw [htake]
    exact frame.gains_push_leaf (.text content) rfl
  | html content =>
    have htake : frame.take (.html content) = frame.push (.htmlInline content) := if_neg hraw
    rw [htake]
    exact frame.gains_push_leaf (.htmlInline content) rfl
  | inlineHtml content => exact frame.gains_push_leaf (.htmlInline content) rfl
  | code content => exact frame.gains_push_leaf (.code content) rfl
  | softBreak => exact frame.gains_push_leaf .softBreak rfl
  | hardBreak => exact frame.gains_push_leaf .hardBreak rfl
  | rule => exact frame.gains_push_leaf .thematicBreak rfl
  | ignored => exact .refl frame

/-- **A frame that keeps text has it all in one.** -/
theorem exists_take_of_isRaw (hevent : event.isRaw) (hraw : frame.collectsLiteral) :
    ∃ literal, frame.take event = { frame with literal } ∧
      Atom.ofText literal = Atom.ofText frame.literal ++ event.atoms := by
  cases event with
  | text content | html content =>
    exact ⟨frame.literal ++ content, if_pos hraw, Atom.ofText_append _ _⟩
  | ignored => exact ⟨frame.literal, rfl, (List.append_nil _).symm⟩
  | _ => cases hevent

theorem collectsLiteral_container (tag : Tag) (children : List Node) (literal : String) :
    (Frame.mk (.container tag) children literal).collectsLiteral = tag.isRaw := by
  cases tag <;> rfl

/-- A container that closes holds what its frame held. -/
theorem atoms_toNode {tag : Tag} (h : frame.pending = .container tag) : frame.toNode.atoms =
    if tag.isRaw then Atom.ofText frame.literal else frame.atoms := by
  rw [toNode_of_container h]
  exact tag.atoms_node _ _

end Frame

theorem Event.isContent_of_isRaw {event : Event} (h : event.isRaw) : event.isContent := by
  cases event with
  | text | html | ignored => rfl
  | _ => cases h

/-! ## Runs -/

namespace Builder

variable {limit folded : Nat} {top : Frame} {frames : List Frame} {events : List Event}

/-- A block that keeps its text takes all that stands in it. -/
theorem exists_run_of_isRaw (hevents : ∀ event ∈ events, event.isRaw) (htop : top.collectsLiteral) :
    ∃ literal, run limit events ⟨top :: frames, folded⟩ =
        ⟨{ top with literal } :: frames, folded⟩ ∧
      Atom.ofText literal = Atom.ofText top.literal ++ events.flatMap Event.atoms := by
  induction events generalizing top with
  | nil => exact ⟨top.literal, rfl, (List.append_nil _).symm⟩
  | cons event events ih =>
    obtain ⟨hevent, hrest⟩ := List.forall_mem_cons.mp hevents
    obtain ⟨first, htake, hfirst⟩ := top.exists_take_of_isRaw hevent htop
    obtain ⟨literal, hrun, hliteral⟩ := @ih { top with literal := first } hrest htop
    have hstep : step limit ⟨top :: frames, folded⟩ event =
        ⟨{ top with literal := first } :: frames, folded⟩ := by
      rw [step_of_isContent (Event.isContent_of_isRaw hevent), ← htake]
      rfl
    refine ⟨literal, ?_, ?_⟩
    · rw [run_cons, hstep, hrun]
    · rw [hliteral, List.flatMap_cons, ← List.append_assoc]
      exact congrArg (· ++ _) hfirst

/-- **Well nested events only add to the innermost frame**, whatever of
them is folded. -/
theorem exists_run_of_wellNested (h : WellNested Tag.Admits events)
    (htop : ¬ top.collectsLiteral) (hfull : 0 < folded → limit < (top :: frames).length) :
    ∃ other, run limit events ⟨top :: frames, folded⟩ = ⟨other :: frames, folded⟩ ∧
      top.Gains other (events.flatMap Event.atoms) := by
  induction h generalizing top frames folded with
  | nil => exact ⟨top, rfl, .refl top⟩
  | content event h =>
    refine ⟨top.take event, step_of_isContent h, ?_⟩
    rw [List.flatMap_singleton]
    exact Frame.gains_take h htop
  | append h hrest ih ihrest =>
    obtain ⟨middle, hrun, hgains⟩ := ih htop hfull
    have hmiddle : ¬ middle.collectsLiteral := by rwa [hgains.collectsLiteral]
    obtain ⟨other, hrun', hgains'⟩ := ihrest hmiddle hfull
    refine ⟨other, ?_, ?_⟩
    · rw [run_append, hrun, hrun']
    · rw [List.flatMap_append]
      exact hgains.trans hgains'
  | @enclosed inner tag hadmits h ih =>
    have hatoms : (Event.start tag :: (inner ++ [.stop])).flatMap Event.atoms =
        inner.flatMap Event.atoms := by simp [Event.atoms]
    rw [hatoms]
    obtain hlt | ⟨hlt, rfl⟩ := full_or_room hfull
    · -- a folded container leaves its content to the frame around it
      obtain ⟨other, hrun, hgains⟩ := ih htop fun _ => hlt
      exact ⟨other, run_enclosed_of_full hlt hrun, hgains⟩
    · -- the frame of the container holds what stands in it, as text or as nodes
      have hinside : ∃ other, run limit inner ⟨{ pending := .container tag } :: top :: frames, 0⟩ =
          ⟨other :: top :: frames, 0⟩ ∧ other.toNode.atoms = inner.flatMap Event.atoms := by
        have hcollects : Frame.collectsLiteral { pending := .container tag } = tag.isRaw :=
          Frame.collectsLiteral_container tag [] ""
        by_cases hraw : tag.isRaw
        · obtain ⟨literal, hrun, hliteral⟩ := exists_run_of_isRaw
            (fun event hevent => hadmits event hevent hraw) (hcollects.trans hraw)
          refine ⟨_, hrun, ?_⟩
          rw [Frame.atoms_toNode rfl, if_pos hraw, hliteral]
          rfl
        · obtain ⟨other, hrun, hgains⟩ := ih (by rwa [hcollects])
            fun hpos => absurd hpos (Nat.lt_irrefl 0)
          refine ⟨other, hrun, ?_⟩
          rw [Frame.atoms_toNode hgains.pending, if_neg hraw, hgains.atoms]
          rfl
      obtain ⟨other, hrun, hother⟩ := hinside
      refine ⟨top.push other.toNode, run_enclosed_of_room hlt hrun, ?_⟩
      rw [← hother]
      exact top.gains_push _

end Builder

/-! ## Trees -/

theorem WellNested.atoms_ofEvents {events : List Event} (h : WellNested Tag.Admits events)
    (limit : Nat) : (Node.ofEvents events limit).atoms = events.flatMap Event.atoms := by
  have hrun : ∃ other, Builder.run limit events {} = ⟨[other], 0⟩ ∧
      Frame.Gains { pending := .document } other (events.flatMap Event.atoms) :=
    Builder.exists_run_of_wellNested h Bool.false_ne_true
      fun hpos => absurd hpos (Nat.lt_irrefl 0)
  obtain ⟨other, hrun, hgains⟩ := hrun
  rw [Builder.ofEvents_eq_document hrun hgains.pending, Node.atoms_eq]
  exact hgains.atoms

/-- **What a stream carries is what its tree holds**, character by
character and in the same order, under every nesting limit; so the limit
has no part in it. -/
theorem ofEvents_atoms {events : List Event} (h : WellNested Tag.Admits events) :
    (∀ limit, (Node.ofEvents events limit).atoms = events.flatMap Event.atoms) ∧
    ∀ limit limit', (Node.ofEvents events limit).atoms = (Node.ofEvents events limit').atoms :=
  ⟨h.atoms_ofEvents, fun limit limit' => (h.atoms_ofEvents limit).trans
    (h.atoms_ofEvents limit').symm⟩

/-- A block of code and text in quotes, under a limit that folds all but the
outer quote: the code is then text right before the break. -/
theorem quoted_code_keeps_content :
    let code := [Event.start .indentedCode, .text "a", .text "\n", .stop]
    let inner := Event.start .blockQuote :: (code ++ [.softBreak, .code "b"] ++ [.stop])
    let events := Event.start .blockQuote :: (inner ++ [.stop])
    (Node.ofEvents events 1).atoms = [.char 'a', .char '\n', .softBreak, .char 'b'] ∧
    (Node.ofEvents events 1).atoms = (Node.ofEvents events 512).atoms := by
  intro code inner events
  have htext : WellNested Tag.Admits [.text "a", .text "\n"] :=
    .append (.content (.text "a") rfl) (.content (.text "\n") rfl)
  have hcode : WellNested Tag.Admits code :=
    .enclosed .indentedCode (by simp [Tag.Admits, Event.isRaw]) htext
  have hbreak : WellNested Tag.Admits [.softBreak, .code "b"] :=
    .append (.content .softBreak rfl) (.content (.code "b") rfl)
  have hquote : ∀ events : List Event, WellNested Tag.Admits events →
      WellNested Tag.Admits (.start .blockQuote :: (events ++ [.stop])) :=
    fun _ => .enclosed .blockQuote fun event _ => Tag.blockQuote.admits_of_not_isRaw nofun event
  obtain ⟨hatoms, hlimits⟩ := ofEvents_atoms (hquote _ (hquote _ (hcode.append hbreak)))
  exact ⟨hatoms 1, hlimits 1 512⟩

end StyledMarkdown
