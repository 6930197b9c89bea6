import StyledMarkdown.Proofs.Rendering.Depth
import StyledMarkdown.Proofs.Rendering.Trimming
import StyledMarkdown.Proofs.Rendering.Visits
/-!
# The spans of a rendering

A node is marked when it is left, so the marks of a rendering stand in the
order in which the nodes are left, each over what was written between the
entering of its node and the leaving. One span a node, but none for a
document and none for a quote that is flattened into another block.
-/

namespace StyledMarkdown

open RenderM

/-! ## The marks of a visit -/

namespace Visit

variable (sheet : StyleSheet) (options : RenderOptions) (v : Visit)

/-- The marks over the parts of an item that is visited, the latest first. -/
def partMarks : List Annotation :=
  v.node.partMarks sheet v.before v.after.writer.buffer v.after.extents

/-- The marks that a node gets when it is left, in the order they are set. -/
def marks : List Annotation :=
  (v.partMarks sheet).reverse ++ v.node.spanMarks sheet options v.parent v.start v.stop

/-- **The span of a node** over its extent. -/
def span : Annotation := ⟨.span (sheet.spanFor v.node v.parent.placement), v.start, v.stop⟩

end Visit

section Marks

variable {sheet : StyleSheet} {options : RenderOptions} {node : Node}
  {nodes above : List Node} {parent : Parent} {s t : Rendering} {v : Visit} {p : Annotation → Bool}

theorem annotations_opening : (opening sheet options node parent s).writer.annotations =
    s.writer.annotations ++ (node.openingMarks sheet s).reverse := List.reverse_append

/-- The parts of an item are worked out from the lists inside it; the item
itself is no list. -/
theorem partMarks_closing :
    node.partMarks sheet s (closing sheet options node parent s t).writer.buffer
        (closing sheet options node parent s t).extents =
      node.partMarks sheet s (node.closed parent t) t.extents := by
  cases node <;> rfl

theorem reverse_spanMarks (start stop : Nat) :
    (node.spanMarks sheet options parent start stop).reverse =
      node.spanMarks sheet options parent start stop := by
  unfold Node.spanMarks
  split <;> rfl

theorem annotations_closing :
    (closing sheet options node (parentOf above) s t).writer.annotations =
      t.writer.annotations ++ (Visit.mk above node s
        (closing sheet options node (parentOf above) s t)).marks sheet options := by
  rw [Visit.marks, Visit.partMarks, partMarks_closing]
  unfold Writer.annotations closing
  rw [List.reverse_append, List.reverse_append, reverse_spanMarks, List.append_assoc]
  rfl

/-- **The marks of a walk** but those over prefixes are those of its visits,
as the nodes are left. -/
theorem Walk.filter_annotations (h : Walk sheet options nodes (parentOf above) s t)
    (hp : ∀ node s, ∀ a ∈ Node.openingMarks sheet node s, p a = false) :
    t.writer.annotations.filter p = s.writer.annotations.filter p ++
      (visits sheet options .leaving nodes above s).flatMap fun v =>
        (v.marks sheet options).filter p := by
  induction h using Walk.inductionAbove with
  | nil =>
    rw [visits]
    exact (List.append_nil _).symm
  | cons node rest above s t u hdepth below after ihbelow ihafter =>
    have hopening : (opening sheet options node (parentOf above) s).writer.annotations.filter p =
        s.writer.annotations.filter p := by
      have hnone : (node.openingMarks sheet s).reverse.filter p = [] :=
        List.filter_eq_nil_iff.mpr fun a ha => by simp [hp node s a (List.mem_reverse.mp ha)]
      rw [annotations_opening, List.filter_append, hnone, List.append_nil]
    rw [visits_cons_of_walk hdepth below, Order.arrange, List.flatMap_append, List.flatMap_append,
      List.flatMap_singleton, ihafter, annotations_closing, List.filter_append, ihbelow, hopening]
    simp only [List.append_assoc]

end Marks

/-! ## Spans -/

/-- Whether an annotation is the span of a node. -/
def Annotation.isSpan (a : Annotation) : Bool := a.span?.isSome

/-- The spans set so far, in their order. -/
def Rendering.spans (s : Rendering) : List Annotation :=
  s.writer.annotations.filter Annotation.isSpan

/-- **Whether a node has a span**, below the nodes `above` it: a document
has none and neither has a quote that is flattened, which is one in
anything but a document. -/
def Node.hasSpan (options : RenderOptions) (above : List Node) : Node → Bool
  | document _ => false
  | blockQuote _ => !options.flattenNestedQuotes || match above with
    | [] | document _ :: _ => true
    | _ => false
  | _ => true

section Spans

variable {sheet : StyleSheet} {options : RenderOptions} {node : Node}
  {nodes above : List Node} {s t : Rendering} {v : Visit}

theorem isMarked_parentOf : node.isMarked options (parentOf above) =
    node.hasSpan options above := by
  cases node with
  | blockQuote =>
    unfold Node.isMarked Node.hasSpan
    cases above with
    | nil => cases options.flattenNestedQuotes <;> rfl
    | cons parent above => cases parent <;> cases options.flattenNestedQuotes <;> rfl
  | _ => rfl

/-- The span of a node is the only one among its marks. -/
theorem filter_marks : (v.marks sheet options).filter Annotation.isSpan =
    if v.node.hasSpan options v.above then [v.span sheet] else [] := by
  have hparts : (v.partMarks sheet).reverse.filter Annotation.isSpan = [] := by
    refine List.filter_eq_nil_iff.mpr fun a ha => ?_
    have hnone := v.node.span?_partMarks sheet v.before _ _ a (List.mem_reverse.mp ha)
    simp [hnone, Annotation.isSpan]
  have hmarked : v.node.isMarked options v.parent = v.node.hasSpan options v.above :=
    isMarked_parentOf
  rw [Visit.marks, List.filter_append, hparts, List.nil_append, Node.spanMarks, hmarked]
  split <;> rfl

theorem flatMap_ite_singleton {α β : Type} (p : α → Bool) (f : α → β) (items : List α) :
    items.flatMap (fun a => if p a then [f a] else []) = (items.filter p).map f := by
  induction items with
  | nil => rfl
  | cons a items ih =>
    rw [List.flatMap_cons, ih]
    cases h : p a <;> simp [h]

/-- **The spans of a walk** are those of its visits, as the nodes are left. -/
theorem Walk.spans_eq (h : Walk sheet options nodes (parentOf above) s t) :
    t.spans = s.spans ++ ((visits sheet options .leaving nodes above s).filter fun v =>
      v.node.hasSpan options v.above).map (Visit.span sheet) := by
  have hp : ∀ node s, ∀ a ∈ Node.openingMarks sheet node s, a.isSpan = false := by
    intro node s a ha
    unfold Annotation.isSpan
    rw [node.span?_openingMarks sheet s a ha]
    rfl
  unfold Rendering.spans
  rw [h.filter_annotations hp, ← flatMap_ite_singleton]
  simp only [filter_marks]

theorem isSpan_onto (leading length : Nat) (a : Annotation) :
    (a.onto leading length).isSpan = a.isSpan := rfl

/-- A node ends behind its beginning. -/
theorem Walk.start_le_stop {order : Order} (h : Walk sheet options nodes (parentOf above) s t)
    (hv : v ∈ visits sheet options order nodes above s) : v.start ≤ v.stop := by
  obtain ⟨-, u, hbelow, hafter⟩ := h.exists_of_mem_visits hv
  unfold Visit.stop
  rw [hafter, Rendering.cursor_eq_size]
  exact (isBoundary_start hbelow.text_isPrefix).le_size

/-- **Trimming keeps the spans of a walk in their order**, and drops exactly
those that nothing is left of. -/
theorem Walk.spans_finish (h : Walk sheet options nodes (parentOf above) {} t) :
    t.writer.finish.annotations.filter Annotation.isSpan =
      (t.spans.filter (·.Kept t.writer.leadingSize (Text.size t.writer.finish.text.toList))).map
        (·.onto t.writer.leadingSize (Text.size t.writer.finish.text.toList)) := by
  refine Writer.filter_annotations_finish_eq_map isSpan_onto fun a ha hspan => ?_
  -- a span is that of a visit, which ends behind its beginning
  have hmem : a ∈ t.spans := List.mem_filter.mpr ⟨ha, hspan⟩
  rw [h.spans_eq] at hmem
  rcases List.mem_append.mp hmem with hmem | hmem
  · cases hmem
  · obtain ⟨v, hv, rfl⟩ := List.mem_map.mp hmem
    exact h.start_le_stop (List.mem_filter.mp hv).1

end Spans

/-! ## Renderings -/

/-- **Every node has its span**, in the order in which the nodes are left,
and no other span is set. It belongs to the node below its parent and lies
over what was written from the entering of the node to the leaving.
Trimming keeps the spans in this order and drops exactly those that no
byte is left of. -/
theorem render_spans {sheet : StyleSheet} {options : RenderOptions} {root : Node} {r : Rendered}
    (h : render sheet options root = .ok r) :
    ∃ t, (visit sheet options root .none).exec {} = (.ok (), t) ∧
      t.writer.finish = r ∧
      let nodes := visits sheet options .leaving [root] [] {}
      (∀ v ∈ nodes, (∃ rest, Reaches sheet options root v.above (v.node :: rest) v.before) ∧
        (visit sheet options v.node v.parent).exec v.before = (.ok (), v.after)) ∧
      nodes.map (fun v => (v.above, v.node)) = root.inOrder .leaving [] ∧
      t.spans = (nodes.filter fun v => v.node.hasSpan options v.above).map (Visit.span sheet) ∧
      let leading := Text.size t.text - Text.size (Text.trimStart t.text)
      let length := Text.size r.text.toList
      r.text.toList = Text.trim t.text ∧
      r.annotations.filter Annotation.isSpan =
        (t.spans.filter (·.Kept leading length)).map (·.onto leading length) := by
  obtain ⟨t, hroot, rfl⟩ := render_eq_ok_iff.mp h
  have hw : Walk sheet options [root] (parentOf []) {} t := hroot
  have hspans : t.spans = ((visits sheet options .leaving [root] [] {}).filter fun v =>
      v.node.hasSpan options v.above).map (Visit.span sheet) := hw.spans_eq
  exact ⟨t, walk_singleton_iff_exec.mp hw, rfl,
    fun v hv => ⟨Reaches.start.exists_of_mem_visits hw hv, hw.exec_of_mem_visits hv⟩,
    map_visits_singleton _ _ _ _ _, hspans, Writer.text_finish _, hw.spans_finish⟩

/-- A quote in a quote, both with text of their own, and a list: the inner
quote is flattened and has no span. -/
theorem nested_quote_spans :
    let inner := Node.blockQuote [.paragraph [.text "é"]]
    let root := Node.document
      [.blockQuote [.paragraph [.text "a"], inner], .bulletList '-' [.listItem []]]
    ∃ r t, render {} {} root = .ok r ∧
      (visit {} {} root .none).exec {} = (.ok (), t) ∧
      t.spans.map (fun a => a.span?.map (·.kind)) =
        [some .text, some .paragraph, some .text, some .paragraph, some .blockQuote,
          some .listItem, some (.bulletList '-')] := by
  intro inner root
  obtain ⟨r, hr⟩ := exists_render_eq_ok {} {} root (by decide)
  obtain ⟨t, hvisit, -, -, hnodes, hspans, -⟩ := render_spans hr
  refine ⟨r, t, hr, hvisit, ?_⟩
  -- the kind of a span is read off the node and the nodes above it
  have hkinds : t.spans.map (fun a => a.span?.map (·.kind)) =
      ((root.inOrder .leaving []).filter fun (above, node) => node.hasSpan {} above).map
        fun (above, node) => some (StyleSheet.spanFor {} node (parentOf above).placement).kind := by
    rw [hspans, ← hnodes, List.filter_map, List.map_map, List.map_map]
    rfl
  rw [hkinds]
  decide +kernel

end StyledMarkdown
