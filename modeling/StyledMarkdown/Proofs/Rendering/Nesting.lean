import StyledMarkdown.Proofs.Rendering.Spans
/-!
# Spans that nest

The spans of a rendering make a tree over its text. A node saves its
cursor before it or a node below it writes anything, and is marked once
all below it are, so the span of a node lies around those of the nodes
below it and behind those of the nodes left earlier. Trimming moves both
ends of all spans alike, and they still nest.
-/

namespace StyledMarkdown

open RenderM

/-! ## Ranges that nest -/

namespace Annotation

variable {a b : Annotation}

/-- Whether an annotation lies within another one. -/
def Within (a b : Annotation) : Prop := b.start ≤ a.start ∧ a.stop ≤ b.stop

/-- **An annotation nests with a later one**: it lies within that one or
ends before it. -/
def Nests (a b : Annotation) : Prop := a.Within b ∨ a.stop ≤ b.start

theorem Within.onto (h : a.Within b) (leading length : Nat) :
    (a.onto leading length).Within (b.onto leading length) := by
  obtain ⟨hstart, hstop⟩ := h
  unfold Within Annotation.onto
  dsimp only
  omega

theorem Nests.onto (h : a.Nests b) (leading length : Nat) :
    (a.onto leading length).Nests (b.onto leading length) := by
  rcases h with hwithin | hbefore
  · exact .inl (hwithin.onto leading length)
  · refine .inr ?_
    unfold Annotation.onto
    dsimp only
    omega

theorem start_le_stop_onto (h : a.start ≤ a.stop) (leading length : Nat) :
    (a.onto leading length).start ≤ (a.onto leading length).stop := by
  unfold Annotation.onto
  dsimp only
  omega

/-- Of annotations that nest the later one ends no earlier. -/
theorem Nests.stop_le (h : a.Nests b) (hb : b.start ≤ b.stop) : a.stop ≤ b.stop := by
  rcases h with ⟨-, hstop⟩ | hbefore
  · exact hstop
  · exact Nat.le_trans hbefore hb

end Annotation

/-! ## The extents of visits -/

section Visits

variable {sheet : StyleSheet} {options : RenderOptions} {order : Order} {node : Node}
  {nodes above : List Node} {parent : Parent} {s t : Rendering} {v w : Visit}

/-- The children of a node begin behind its start. -/
theorem start_le_cursor_opening :
    node.start parent s ≤ (opening sheet options node parent s).cursor := by
  have hlead : node.lead parent <+: node.opens options parent s := lead_isPrefix_opens
  obtain ⟨rest, hopens⟩ := hlead
  rw [Rendering.cursor_eq_size, text_opening, ← hopens, Text.size_append, Text.size_append,
    ← Rendering.cursor_eq_size]
  unfold Node.start
  omega

theorem Visit.cursor_le_start (v : Visit) : v.before.cursor ≤ v.start := Nat.le_add_right _ _

/-- **The span of a node lies around those of the nodes below it.** -/
theorem Walk.within_of_mem_below (h : Walk sheet options nodes (parentOf above) s t)
    (hw : w ∈ visits sheet options order nodes above s) (hv : v ∈ w.below sheet options order) :
    (v.span sheet).Within (w.span sheet) := by
  obtain ⟨hbefore, hafter⟩ := h.text_below hw hv
  have hopening : w.start ≤ (opening sheet options w.node w.parent w.before).cursor :=
    start_le_cursor_opening
  refine ⟨?_, cursor_le_of_isPrefix hafter⟩
  calc w.start ≤ (opening sheet options w.node w.parent w.before).cursor := hopening
    _ ≤ v.before.cursor := cursor_le_of_isPrefix hbefore
    _ ≤ v.start := v.cursor_le_start

/-- **The spans of a walk nest**, in the order in which the nodes are left. -/
theorem Walk.pairwise_nests (h : Walk sheet options nodes (parentOf above) s t) :
    (visits sheet options .leaving nodes above s).Pairwise fun v w =>
      (v.span sheet).Nests (w.span sheet) := by
  refine h.pairwise_leaving.imp_of_mem fun {v w} _ hw hvw => ?_
  rcases hvw with hbefore | hbelow
  · exact .inr (Nat.le_trans (cursor_le_of_isPrefix hbefore) w.cursor_le_start)
  · exact .inl (h.within_of_mem_below hw hbelow)

end Visits

/-! ## The spans of a rendering -/

namespace Rendered

/-- Whether a span of a rendering lies within another one. -/
def Within : GroupSpan × Nat × Nat → GroupSpan × Nat × Nat → Prop
  | (_, start, stop), (_, start', stop') => start' ≤ start ∧ stop ≤ stop'

/-- Whether a span of a rendering ends before another one begins. -/
def Precedes : GroupSpan × Nat × Nat → GroupSpan × Nat × Nat → Prop
  | (_, _, stop), (_, start', _) => stop ≤ start'

theorem spans_eq (r : Rendered) : r.spans =
    (r.annotations.filter Annotation.isSpan).filterMap fun a =>
      a.span?.map fun span => (span, a.start, a.stop) := by
  rw [List.filterMap_filter]
  refine List.filterMap_congr fun a _ => ?_
  unfold Annotation.isSpan
  cases a.span? <;> rfl

end Rendered

open Rendered (Within Precedes)

/-- The span of a node that is visited, with its range on a text of `length`
bytes that began `leading` bytes later. -/
def Visit.placed (sheet : StyleSheet) (leading length : Nat) (v : Visit) : GroupSpan × Nat × Nat :=
  (sheet.spanFor v.node v.parent.placement, ((v.span sheet).onto leading length).start,
    ((v.span sheet).onto leading length).stop)

section Spans

variable {sheet : StyleSheet} {options : RenderOptions} {nodes above : List Node}
  {t : Rendering} {v : Visit} {offset : Nat}

/-- **The spans of a rendering are those of the nodes visited** that are kept. -/
theorem Walk.rendered_spans_eq (h : Walk sheet options nodes (parentOf above) {} t) :
    let leading := t.writer.leadingSize
    let length := Text.size t.writer.finish.text.toList
    t.writer.finish.spans = (((visits sheet options .leaving nodes above {}).filter fun v =>
        v.node.hasSpan options v.above).filter fun v =>
          (v.span sheet).Kept leading length).map (Visit.placed sheet leading length) := by
  intro leading length
  have hspans : t.spans = ((visits sheet options .leaving nodes above {}).filter fun v =>
      v.node.hasSpan options v.above).map (Visit.span sheet) := h.spans_eq
  rw [Rendered.spans_eq, h.spans_finish, hspans, List.filter_map, List.map_map,
    List.filterMap_map, ← List.filterMap_eq_map]
  rfl

/-- A span is kept with every byte of it that is kept. -/
theorem Walk.placed_covers (h : Walk sheet options nodes (parentOf above) {} t)
    (hv : v ∈ visits sheet options .leaving nodes above {}) (hspan : v.node.hasSpan options v.above)
    (hcontains : (v.span sheet).Contains (offset + t.writer.leadingSize))
    (hoffset : offset < Text.size t.writer.finish.text.toList) :
    let placed := v.placed sheet t.writer.leadingSize (Text.size t.writer.finish.text.toList)
    placed ∈ t.writer.finish.spans ∧ placed.2.1 ≤ offset ∧ offset < placed.2.2 := by
  intro placed
  have hspans := h.rendered_spans_eq
  dsimp only at hspans
  have hkept : (v.span sheet).Kept t.writer.leadingSize (Text.size t.writer.finish.text.toList) :=
    .inl ⟨_, hcontains, by omega, by omega⟩
  constructor
  · rw [hspans]
    exact List.mem_map_of_mem (List.mem_filter.mpr
      ⟨List.mem_filter.mpr ⟨hv, hspan⟩, decide_eq_true hkept⟩)
  · obtain ⟨hstart, hstop⟩ := hcontains
    unfold placed Visit.placed Annotation.onto
    dsimp only
    omega

end Spans

/-! ## Renderings -/

/-- **The spans of a rendering nest.** Of any two of them the one set first
lies within the other or ends before it begins, so no two share a part of
their text only, and they are set in the order of their ends. Each is the
span of a node, and lies around those of the nodes below that one. -/
theorem render_spans_nest {sheet : StyleSheet} {options : RenderOptions} {root : Node}
    {r : Rendered} (h : render sheet options root = .ok r) :
    (r.spans.Pairwise fun first second => Within first second ∨ Precedes first second) ∧
    (r.spans.Pairwise fun (_, _, stop) (_, _, stop') => stop ≤ stop') ∧
    ∃ t, (visit sheet options root .none).exec {} = (.ok (), t) ∧
      t.writer.finish = r ∧
      let nodes := visits sheet options .leaving [root] [] {}
      let leading := t.writer.leadingSize
      let length := Text.size r.text.toList
      let kept := (nodes.filter fun v => v.node.hasSpan options v.above).filter fun v =>
        (v.span sheet).Kept leading length
      nodes.map (fun v => (v.above, v.node)) = root.inOrder .leaving [] ∧
      (∀ w ∈ nodes, (w.below sheet options .leaving).map (fun v => (v.above, v.node)) =
        w.node.children.flatMap (Node.inOrder .leaving · (w.node :: w.above))) ∧
      r.spans = kept.map (Visit.placed sheet leading length) ∧
      ∀ w ∈ kept, ∀ v ∈ kept, v ∈ w.below sheet options .leaving →
        Within (v.placed sheet leading length) (w.placed sheet leading length) := by
  obtain ⟨t, hroot, rfl⟩ := render_eq_ok_iff.mp h
  have hw : Walk sheet options [root] (parentOf []) {} t := hroot
  have hspans := hw.rendered_spans_eq
  dsimp only at hspans
  have hnests : (visits sheet options .leaving [root] [] {}).Pairwise fun v w =>
      (v.span sheet).Nests (w.span sheet) := hw.pairwise_nests
  refine ⟨?_, ?_, t, walk_singleton_iff_exec.mp hw, rfl, map_visits_singleton _ _ _ _ _,
    fun w _ => map_visits _ _ _, hspans, fun w hkept v _ hbelow => ?_⟩
  · rw [hspans, List.pairwise_map]
    exact ((hnests.filter _).filter _).imp fun hvw => hvw.onto _ _
  · rw [hspans, List.pairwise_map]
    refine ((hnests.filter _).filter _).imp_of_mem fun {v w} _ hkept hvw => ?_
    have hordered : (w.span sheet).start ≤ (w.span sheet).stop :=
      hw.start_le_stop (List.mem_of_mem_filter (List.mem_of_mem_filter hkept))
    have honto := Annotation.start_le_stop_onto hordered t.writer.leadingSize
      (Text.size t.writer.finish.text.toList)
    exact (hvw.onto _ _).stop_le honto
  · have hmem : w ∈ visits sheet options .leaving [root] [] {} :=
      List.mem_of_mem_filter (List.mem_of_mem_filter hkept)
    exact (hw.within_of_mem_below hmem hbelow).onto _ _

/-- Emphasis in a quoted item, behind a line end that is trimmed away: the
text lies within the emphasis, the paragraph, the item, the list and the
quote, and behind the break. -/
theorem quoted_item_spans_nest :
    let item := Node.listItem [.paragraph [.emphasis [.text "é"]]]
    let root := Node.document [.paragraph [.hardBreak], .blockQuote [.bulletList '-' [item]]]
    ∃ r, render {} {} root = .ok r ∧
      (r.spans.Pairwise fun first second => Within first second ∨ Precedes first second) ∧
      r.spans.map (fun (span, start, stop) => (span.kind, start, stop)) =
        [(.text, 4, 6), (.emphasis, 4, 6), (.paragraph, 4, 6), (.listItem, 0, 6),
          (.bulletList '-', 0, 6), (.blockQuote, 0, 6)] := by
  intro item root
  obtain ⟨r, hr⟩ := exists_render_eq_ok {} {} root (by decide)
  obtain ⟨hnest, -⟩ := render_spans_nest hr
  have hspans : (render {} {} root).toOption.map (fun r =>
      r.spans.map fun (span, start, stop) => (span.kind, start, stop)) =
        some [(.text, 4, 6), (.emphasis, 4, 6), (.paragraph, 4, 6), (.listItem, 0, 6),
          (.bulletList '-', 0, 6), (.blockQuote, 0, 6)] := by decide +kernel
  rw [hr] at hspans
  exact ⟨r, hr, hnest, Option.some.inj hspans⟩

end StyledMarkdown
