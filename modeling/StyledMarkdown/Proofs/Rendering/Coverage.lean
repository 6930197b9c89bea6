import StyledMarkdown.Proofs.Rendering.Nesting
import StyledMarkdown.Proofs.Rendering.Queries
import StyledMarkdown.Proofs.Rendering.Separation
/-!
# Every byte has a span

Nothing is written outside the spans. A document writes nothing of its own
and has no span; what stands in no other block but documents has one, and
begins where the text has come to. So the spans of such siblings follow
each other from the first byte they write to the last, and a byte that has
no span of a sibling over it was written in a document inside. Trimming
moves the text under the spans and leaves it covered.
-/

namespace StyledMarkdown

open RenderM

/-! ## Annotations that follow each other -/

namespace Annotation

/-- **Annotations that follow each other** from one offset to another,
without gap or overlap. -/
def Tiles : Nat → List Annotation → Nat → Prop
  | start, [], stop => start = stop
  | start, a :: rest, stop => a.start = start ∧ a.start ≤ a.stop ∧ Tiles a.stop rest stop

end Annotation

/-! ## Siblings -/

section Siblings

variable (sheet : StyleSheet) (options : RenderOptions)

/-- **The visits of siblings** without those of the nodes below them. -/
def siblings : List Node → List Node → Rendering → List Visit
  | [], _, _ => []
  | node :: rest, above, s =>
    let after := ((visit sheet options node (parentOf above)).exec s).2
    ⟨above, node, s, after⟩ :: siblings rest above after

/-- The visits of the children of the node visited. -/
def Visit.children (v : Visit) : List Visit :=
  siblings sheet options v.node.children (v.node :: v.above)
    (opening sheet options v.node v.parent v.before)

end Siblings

section Visits

variable {sheet : StyleSheet} {options : RenderOptions} {order : Order} {node : Node}
  {nodes above : List Node} {parent : Parent} {s t : Rendering} {v : Visit}

theorem map_siblings (nodes above : List Node) (s : Rendering) :
    (siblings sheet options nodes above s).map (fun v => (v.above, v.node)) =
      nodes.map fun node => (above, node) := by
  induction nodes generalizing s with
  | nil => rfl
  | cons node rest ih => exact congrArg ((above, node) :: ·) (ih _)

theorem place_of_mem_siblings (hv : v ∈ siblings sheet options nodes above s) :
    v.above = above ∧ v.node ∈ nodes := by
  have hplaces : (siblings sheet options nodes above s).map (fun v => (v.above, v.node)) =
      nodes.map fun node => (above, node) := map_siblings _ _ _
  have hmem : (v.above, v.node) ∈ nodes.map fun node => (above, node) := by
    rw [← hplaces]
    exact List.mem_map_of_mem hv
  obtain ⟨node, hnode, hplace⟩ := List.mem_map.mp hmem
  obtain ⟨habove, rfl⟩ := Prod.mk.inj hplace
  exact ⟨habove.symm, hnode⟩

/-- Siblings are visited in the order they stand in, whatever is visited
below them. -/
theorem siblings_sublist (nodes above : List Node) (s : Rendering) :
    (siblings sheet options nodes above s).Sublist (visits sheet options order nodes above s) := by
  induction nodes generalizing s with
  | nil => exact List.nil_sublist _
  | cons node rest ih =>
    rw [visits_cons, siblings, ← List.singleton_append]
    refine List.Sublist.append ?_ (ih _)
    exact List.singleton_sublist.mpr (Order.mem_arrange.mpr (.inl rfl))

/-! ## Blocks that stand in documents only -/

/-- What stands in a document only begins where the text has come to. -/
theorem start_of_outermost (h : parent.placement = .outermost) :
    node.start parent s = s.cursor := by
  cases node with
  | blockQuote =>
    have hquote : parent ≠ .blockQuote := by
      rintro rfl
      cases h
    unfold Node.start Node.lead
    rw [if_neg hquote]
    rfl
  | _ => rfl

theorem hasSpan_of_outermost (h : (parentOf above).placement = .outermost)
    (hnode : ¬ node.isDocument) : node.hasSpan options above := by
  rw [← isMarked_parentOf]
  cases node with
  | document => exact absurd rfl hnode
  | blockQuote =>
    unfold Node.isMarked
    rw [h]
    rfl
  | _ => rfl

/-- A document writes nothing of its own. -/
theorem cursor_opening_of_isDocument (h : node.isDocument) :
    (opening sheet options node parent s).cursor = s.cursor := by
  cases node with
  | document => exact Nat.add_zero _
  | _ => cases h

theorem cursor_closing_of_isDocument (h : node.isDocument) :
    (closing sheet options node parent s t).cursor = t.cursor := by
  cases node with
  | document => exact Nat.add_zero _
  | _ => cases h

/-- **The spans of siblings follow each other** over all that they write,
when none of them leaves anything out of its extent. -/
theorem Walk.tiles (h : Walk sheet options nodes (parentOf above) s t)
    (hstart : ∀ node ∈ nodes, ∀ s, node.start (parentOf above) s = s.cursor) :
    Annotation.Tiles s.cursor ((siblings sheet options nodes above s).map (Visit.span sheet))
      t.cursor := by
  induction nodes generalizing s with
  | nil =>
    obtain _ | _ := h
    rfl
  | cons node rest ih =>
    obtain ⟨hnode, hrest⟩ := List.forall_mem_cons.mp hstart
    have hvisits : Visit.mk above node s ((visit sheet options node (parentOf above)).exec s).2 ∈
        visits sheet options .entering (node :: rest) above s :=
      mem_visits_cons.mpr (.inl (.inl rfl))
    have hordered := h.start_le_stop hvisits
    obtain _ | ⟨hdepth, below, after⟩ := h
    have hafter := ih after hrest
    rw [visit_exec_of_ok hdepth below.exec] at hordered
    rw [siblings, visit_exec_of_ok hdepth below.exec]
    exact ⟨hnode s, hordered, hafter⟩

/-- **Every byte that is written in documents only has a span over it.** -/
theorem Walk.exists_hasSpan (h : Walk sheet options nodes (parentOf above) s t)
    (hplace : (parentOf above).placement = .outermost) {n : Nat} (hstart : s.cursor ≤ n)
    (hstop : n < t.cursor) :
    ∃ v ∈ visits sheet options .leaving nodes above s,
      v.node.hasSpan options v.above ∧ (v.span sheet).Contains n := by
  induction h using Walk.inductionAbove with
  | nil => exact absurd hstop (Nat.not_lt.mpr hstart)
  | cons node rest above s t u hdepth below after ihbelow ihafter =>
    simp only [mem_visits_cons_of_walk hdepth below]
    rcases Nat.lt_or_ge n (closing sheet options node (parentOf above) s t).cursor with hlt | hge
    · by_cases hnode : node.isDocument
      · -- a document leaves its bytes to the nodes in it
        rw [cursor_closing_of_isDocument hnode] at hlt
        obtain ⟨v, hv, hspan⟩ := ihbelow (placement_asParent hnode)
          ((cursor_opening_of_isDocument hnode).trans_le hstart) hlt
        exact ⟨v, .inl (.inr hv), hspan⟩
      · refine ⟨_, .inl (.inl rfl), hasSpan_of_outermost hplace hnode, ?_, hlt⟩
        exact (start_of_outermost hplace).trans_le hstart
    · obtain ⟨v, hv, hspan⟩ := ihafter hplace hge hstop
      exact ⟨v, .inr hv, hspan⟩

/-- **Every byte of the trimmed text has a span over it.** -/
theorem Walk.exists_span (h : Walk sheet options nodes (parentOf above) {} t)
    (hplace : (parentOf above).placement = .outermost) {offset : Nat}
    (hoffset : offset < Text.size t.writer.finish.text.toList) :
    ∃ span ∈ t.writer.finish.spans, span.2.1 ≤ offset ∧ offset < span.2.2 := by
  -- the byte is one of the whole text, behind what is trimmed in front
  have hstop : offset + t.writer.leadingSize < t.cursor := by
    have hsize : t.writer.leadingSize + Text.size t.writer.finish.text.toList ≤ t.cursor :=
      t.writer.leadingSize_add_le
    omega
  obtain ⟨v, hv, hspan, hcontains⟩ := h.exists_hasSpan hplace (Nat.zero_le _) hstop
  exact ⟨_, h.placed_covers hv hspan hcontains hoffset⟩

theorem children_sublist (hv : v ∈ visits sheet options order nodes above s) :
    (v.children sheet options).Sublist (visits sheet options order nodes above s) :=
  (siblings_sublist _ _ _).trans (below_sublist hv)

/-- The spans of the children of a node are set in their order, if each of
them has one. -/
theorem Walk.spans_sublist (h : Walk sheet options nodes (parentOf above) s t)
    (hv : v ∈ visits sheet options .leaving nodes above s)
    (hchildren : ∀ child ∈ v.node.children, child.hasSpan options (v.node :: v.above)) :
    ((v.children sheet options).map (Visit.span sheet)).Sublist t.spans := by
  have hspans : ∀ w ∈ v.children sheet options, w.node.hasSpan options w.above := by
    intro w hw
    obtain ⟨habove, hnode⟩ := place_of_mem_siblings hw
    rw [habove]
    exact hchildren _ hnode
  rw [h.spans_eq, ← List.filter_eq_self.mpr hspans]
  exact (((children_sublist hv).filter _).map _).trans (List.sublist_append_right _ _)

/-- The children of a document that has no document inside have a span each. -/
theorem Walk.spans_children (h : Walk sheet options nodes (parentOf above) s t)
    (hv : v ∈ visits sheet options .leaving nodes above s) (hnode : v.node.isDocument)
    (hchildren : ∀ child ∈ v.node.children, ¬ child.isDocument) :
    ((v.children sheet options).map (Visit.span sheet)).Sublist t.spans :=
  h.spans_sublist hv fun child hc =>
    hasSpan_of_outermost (placement_asParent hnode) (hchildren child hc)

/-- **The spans of the children of a document follow each other** over all
that it writes. -/
theorem Walk.tiles_children (h : Walk sheet options nodes (parentOf above) s t)
    (hv : v ∈ visits sheet options .leaving nodes above s) (hnode : v.node.isDocument) :
    Annotation.Tiles v.before.cursor ((v.children sheet options).map (Visit.span sheet))
      v.after.cursor := by
  obtain ⟨-, u, hbelow, hafter⟩ := h.exists_of_mem_visits hv
  have htiles := hbelow.tiles fun _ _ _ => start_of_outermost (placement_asParent hnode)
  rw [cursor_opening_of_isDocument hnode] at htiles
  rw [hafter, cursor_closing_of_isDocument hnode]
  exact htiles

end Visits

/-! ## Renderings -/

/-- **Every byte of a rendering is attributable**: a node stands at exactly
the offsets of the text. Before the text is trimmed the spans of the
children of a document that has no document among them follow each other,
without gap or overlap, over exactly what the document wrote. -/
theorem render_covers {sheet : StyleSheet} {options : RenderOptions} {root : Node} {r : Rendered}
    (h : render sheet options root = .ok r) :
    (∀ offset, (r.nodeAt? offset).isSome ↔ offset < Text.size r.text.toList) ∧
    ∃ t, (visit sheet options root .none).exec {} = (.ok (), t) ∧
      t.writer.finish = r ∧
      let nodes := visits sheet options .leaving [root] [] {}
      nodes.map (fun v => (v.above, v.node)) = root.inOrder .leaving [] ∧
      ∀ v ∈ nodes, v.node.isDocument → (∀ child ∈ v.node.children, ¬ child.isDocument) →
        let children := v.children sheet options
        (visit sheet options v.node v.parent).exec v.before = (.ok (), v.after) ∧
        v.before.text <+: v.after.text ∧ v.after.text <+: t.text ∧
        children.Sublist nodes ∧
        children.map (fun w => (w.above, w.node)) =
          v.node.children.map (fun child => (v.node :: v.above, child)) ∧
        (children.map (Visit.span sheet)).Sublist t.spans ∧
        Annotation.Tiles (Text.size v.before.text) (children.map (Visit.span sheet))
          (Text.size v.after.text) := by
  have hspans : ∀ a ∈ r.annotations, a.span?.isSome → a.Fits r.text.toList :=
    fun a ha hs => fits_of_render_eq_ok h a ha (.inl hs)
  have hread : ∀ span ∈ r.spans, (r.slice? span.2.1 span.2.2).isSome :=
    fun _ => Rendered.slice?_isSome_of_mem_spans hspans
  obtain ⟨t, hroot, rfl⟩ := render_eq_ok_iff.mp h
  have hw : Walk sheet options [root] (parentOf []) {} t := hroot
  refine ⟨fun offset => ?_, t, walk_singleton_iff_exec.mp hw, rfl,
    map_visits_singleton _ _ _ _ _, fun v hv hnode hchildren => ?_⟩
  · rw [Rendered.nodeAt?_isSome_iff hread]
    refine ⟨?_, hw.exists_span rfl⟩
    rintro ⟨⟨span, start, stop⟩, hspan, -, hlt⟩
    obtain ⟨a, ha, hs, -, rfl⟩ := Rendered.mem_spans_iff.mp hspan
    have hfit := hspans a ha (by rw [hs]; rfl)
    exact Nat.lt_of_lt_of_le hlt hfit.stop_le
  · rw [← Rendering.cursor_eq_size, ← Rendering.cursor_eq_size]
    exact ⟨hw.exec_of_mem_visits hv, hw.text_visit hv, (hw.text_visits hv).2,
      children_sublist hv, map_siblings _ _ _,
      hw.spans_children hv hnode hchildren, hw.tiles_children hv hnode⟩

/-- A quote in a quote behind a line end that is trimmed away: the line end
between the texts has the outer quote, and the children of the document
follow each other over six bytes. -/
theorem nested_quote_covered :
    let inner := Node.blockQuote [.text "b"]
    let root := Node.document [.paragraph [.hardBreak], .blockQuote [.paragraph [.text "é"], inner]]
    let v : Visit := ⟨[], root, {}, ((visit {} {} root .none).exec {}).2⟩
    ∃ r, render {} {} root = .ok r ∧
      (∀ offset, (r.nodeAt? offset).isSome ↔ offset < 4) ∧
      (r.nodeAt? 2).map Node.kindName = some "BlockQuote" ∧
      (v.children {} {}).map (fun w => (w.start, w.stop)) = [(0, 1), (1, 6)] ∧
      Annotation.Tiles 0 ((v.children {} {}).map (Visit.span {})) 6 := by
  intro inner root v
  obtain ⟨r, hr⟩ := exists_render_eq_ok {} {} root (by decide)
  obtain ⟨hnodes, t, -, -, -, htiles⟩ := render_covers hr
  have hv : v ∈ visits {} {} .leaving [root] [] {} := mem_visits_cons.mpr (.inl (.inl rfl))
  obtain ⟨-, -, -, -, -, -, htile⟩ := htiles v hv rfl (by decide)
  have hstop : Text.size v.after.text = 6 := by decide +kernel
  have hanswers : (render {} {} root).toOption.map (fun r =>
      (Text.size r.text.toList, (r.nodeAt? 2).map Node.kindName)) =
        some (4, some "BlockQuote") := by decide +kernel
  rw [hr] at hanswers
  obtain ⟨hsize, hquote⟩ := Prod.mk.inj (Option.some.inj hanswers)
  rw [hsize] at hnodes
  rw [hstop] at htile
  exact ⟨r, hr, hnodes, hquote, by decide +kernel, htile⟩

end StyledMarkdown
