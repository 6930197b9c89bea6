import StyledMarkdown.Builder
/-!
# Content and containers of a stream

An event of content changes the innermost frame and nothing else. Events
are well nested when every container that is opened among them is closed
again; a builder that is given them has the frames it had before.
-/

namespace StyledMarkdown

/-- Whether an event neither opens nor closes a container. -/
def Event.isContent : Event → Bool
  | start _ | stop => false
  | _ => true

/-- **Well nested events**: what is opened is closed again, and each
container holds only what it admits. -/
inductive WellNested (admits : Tag → Event → Prop) : List Event → Prop
  | nil : WellNested admits []
  | content (event : Event) (h : event.isContent) : WellNested admits [event]
  | append {events rest : List Event} (h : WellNested admits events)
      (hrest : WellNested admits rest) : WellNested admits (events ++ rest)
  | enclosed {events : List Event} (tag : Tag) (hadmits : ∀ event ∈ events, admits tag event)
      (h : WellNested admits events) : WellNested admits (.start tag :: (events ++ [.stop]))

/-- Well nested events, whatever stands in a container. -/
abbrev BalancedEvents : List Event → Prop := WellNested fun _ _ => True

theorem WellNested.imp {admits admits' : Tag → Event → Prop} {events : List Event}
    (h : WellNested admits events) (himp : ∀ tag event, admits tag event → admits' tag event) :
    WellNested admits' events := by
  induction h with
  | nil => exact .nil
  | content event h => exact .content event h
  | append _ _ ih ihrest => exact ih.append ihrest
  | enclosed tag hadmits _ ih =>
    exact .enclosed tag (fun event hevent => himp tag event (hadmits event hevent)) ih

/-! ## Content -/

theorem Frame.pending_push (frame : Frame) (node : Node) :
    (frame.push node).pending = frame.pending := by
  unfold push
  split <;> rfl

theorem Frame.toNode_of_container {frame : Frame} {tag : Tag}
    (h : frame.pending = .container tag) :
    frame.toNode = tag.node frame.children.reverse frame.literal := by
  unfold toNode
  rw [h]

theorem Frame.toNode_of_document {frame : Frame} (h : frame.pending = .document) :
    frame.toNode = .document frame.children.reverse := by
  unfold toNode
  rw [h]

/-- What a container does with text is told by the container alone. -/
theorem Frame.collectsLiteral_eq {frame other : Frame} (h : frame.pending = other.pending) :
    frame.collectsLiteral = other.collectsLiteral := by
  unfold collectsLiteral
  rw [h]

/-- **A frame behind an event of content.** -/
def Frame.take (frame : Frame) : Event → Frame
  | .text content =>
    if frame.collectsLiteral then frame.pushLiteral content else frame.push (.text content)
  | .html content =>
    if frame.collectsLiteral then frame.pushLiteral content else frame.push (.htmlInline content)
  | .inlineHtml content => frame.push (.htmlInline content)
  | .code content => frame.push (.code content)
  | .softBreak => frame.push .softBreak
  | .hardBreak => frame.push .hardBreak
  | .rule => frame.push .thematicBreak
  | .start _ | .stop | .ignored => frame

/-- The leaf that an event of content is kept as, where nodes are kept. -/
def Event.leaf? : Event → Option Node
  | text content => some (.text content)
  | html content | inlineHtml content => some (.htmlInline content)
  | code content => some (.code content)
  | softBreak => some .softBreak
  | hardBreak => some .hardBreak
  | rule => some .thematicBreak
  | start _ | stop | ignored => none

/-- **A frame takes content as raw text or as a leaf.** -/
theorem Frame.take_eq (frame : Frame) (event : Event) :
    (∃ literal, frame.take event = { frame with literal }) ∨
      ∃ leaf ∈ event.leaf?, frame.take event = frame.push leaf := by
  cases event with
  | start | stop | ignored => exact .inl ⟨frame.literal, rfl⟩
  | text content | html content =>
    by_cases hraw : frame.collectsLiteral
    · exact .inl ⟨frame.literal ++ content, if_pos hraw⟩
    · exact .inr ⟨_, rfl, if_neg hraw⟩
  | _ => exact .inr ⟨_, rfl, rfl⟩

theorem Frame.pending_take (frame : Frame) (event : Event) :
    (frame.take event).pending = frame.pending := by
  rcases frame.take_eq event with ⟨literal, htake⟩ | ⟨leaf, -, htake⟩
  · rw [htake]
  · rw [htake, pending_push]

/-- What holds of the nodes in a frame and of the one that is added holds
of all of them behind it, if text may be continued. -/
theorem Frame.forall_mem_push {p : Node → Prop} {frame : Frame} {node : Node}
    (htext : ∀ previous next, p (.text previous) → p (.text (previous ++ next)))
    (h : ∀ child ∈ frame.children, p child) (hnode : p node) :
    ∀ child ∈ (frame.push node).children, p child := by
  unfold push
  split
  · rename_i next previous rest hchildren
    rw [hchildren] at h
    obtain ⟨hprevious, hrest⟩ := List.forall_mem_cons.mp h
    exact List.forall_mem_cons.mpr ⟨htext previous next hprevious, hrest⟩
  · exact List.forall_mem_cons.mpr ⟨hnode, h⟩

namespace Builder

variable {limit : Nat} {b : Builder} {event : Event}

theorem run_append (limit : Nat) (events rest : List Event) (b : Builder) :
    b.run limit (events ++ rest) = (b.run limit events).run limit rest := List.foldl_append

theorem run_cons (limit : Nat) (event : Event) (rest : List Event) (b : Builder) :
    b.run limit (event :: rest) = (b.step limit event).run limit rest := rfl

theorem onTop_id (b : Builder) : (b.onTop fun top => top) = b := by
  obtain ⟨frames, folded⟩ := b
  cases frames <;> rfl

theorem onTop_onTop (b : Builder) (change next : Frame → Frame) :
    (b.onTop change).onTop next = b.onTop fun top => next (change top) := by
  obtain ⟨frames, folded⟩ := b
  cases frames <;> rfl

@[simp] theorem length_frames_onTop (b : Builder) (change : Frame → Frame) :
    (b.onTop change).frames.length = b.frames.length := by
  obtain ⟨frames, folded⟩ := b
  cases frames <;> rfl

@[simp] theorem folded_onTop (b : Builder) (change : Frame → Frame) :
    (b.onTop change).folded = b.folded := by
  obtain ⟨frames, folded⟩ := b
  cases frames <;> rfl

/-- **Content changes the innermost frame and nothing else.** -/
theorem step_of_isContent (h : event.isContent) :
    b.step limit event = b.onTop (·.take event) := by
  cases event with
  | start | stop => cases h
  | ignored => exact b.onTop_id.symm
  | _ => rfl

section Enclosed

variable {folded : Nat} {top other : Frame} {frames : List Frame} {inner : List Event} {tag : Tag}

/-- A container is past the limit, or has room and nothing is folded. -/
theorem full_or_room (hfull : 0 < folded → limit < (top :: frames).length) :
    limit < (top :: frames).length ∨ ¬ limit < (top :: frames).length ∧ folded = 0 := by
  by_cases hlt : limit < (top :: frames).length
  · exact .inl hlt
  · exact .inr ⟨hlt, Nat.eq_zero_of_not_pos fun hpos => hlt (hfull hpos)⟩

/-- **A container past the limit** leaves what it holds to the frame around it. -/
theorem run_enclosed_of_full (hfull : limit < (top :: frames).length)
    (h : run limit inner ⟨top :: frames, folded + 1⟩ = ⟨other :: frames, folded + 1⟩) :
    run limit (.start tag :: (inner ++ [.stop])) ⟨top :: frames, folded⟩ =
      ⟨other :: frames, folded⟩ := by
  have henter : step limit ⟨top :: frames, folded⟩ (.start tag) = ⟨top :: frames, folded + 1⟩ :=
    if_pos hfull
  rw [run_cons, run_append, henter, h]
  rfl

/-- **A container up to the limit** becomes a node of the frame around it. -/
theorem run_enclosed_of_room (hroom : ¬ limit < (top :: frames).length)
    (h : run limit inner ⟨{ pending := .container tag } :: top :: frames, 0⟩ =
      ⟨other :: top :: frames, 0⟩) :
    run limit (.start tag :: (inner ++ [.stop])) ⟨top :: frames, 0⟩ =
      ⟨top.push other.toNode :: frames, 0⟩ := by
  have henter : step limit ⟨top :: frames, 0⟩ (.start tag) =
      ⟨{ pending := .container tag } :: top :: frames, 0⟩ := if_neg hroom
  rw [run_cons, run_append, henter, h]
  rfl

end Enclosed

/-- Events that leave the frame of the document alone are built into its node. -/
theorem ofEvents_eq_document {events : List Event} {top : Frame}
    (hrun : run limit events {} = ⟨[top], 0⟩) (hpending : top.pending = .document) :
    Node.ofEvents events limit = .document top.children.reverse := by
  rw [Node.ofEvents, hrun, finish, closeAll, Frame.toNode_of_document hpending]

end Builder

end StyledMarkdown
