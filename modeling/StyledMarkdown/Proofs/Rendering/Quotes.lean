import StyledMarkdown.Proofs.Rendering.Nesting
import StyledMarkdown.Proofs.Style.Kinds
/-!
# The spans of quotes

Where quotes are flattened a quote has its span by where it stands: as the
root or right in a document. What stands around that document does not
matter, and a quote in any other container has none, be there a quote
further up or not. So the text under the spans of quotes is the text of the
quotes that stand right in a document, with all that is below them.
-/

namespace StyledMarkdown

open RenderM

/-! ## Quotes -/

def Node.isQuote : Node → Bool
  | blockQuote _ => true
  | _ => false

/-- Whether a span is that of a quote. -/
def GroupSpan.isQuote (span : GroupSpan) : Bool := span.kind = .blockQuote

def Annotation.isQuote (a : Annotation) : Bool := a.span?.any GroupSpan.isQuote

namespace Visit

variable (v : Visit)

/-- **A quote that is flattened into none**: it is the root or stands right
in a document. -/
def isOuterQuote : Bool := v.node.isQuote && v.parent.placement = .outermost

/-- **What belongs to an outer quote**: the quote itself and all the nodes
below it. -/
def InOuterQuote : Prop :=
  ∃ inner quote above, v.node :: v.above = inner ++ quote :: above ∧ quote.isQuote ∧
    (parentOf above).placement = .outermost

end Visit

section Quotes

variable {sheet : StyleSheet} {options : RenderOptions} {order : Order} {root node : Node}
  {nodes above inner upper : List Node} {placement : Placement} {s t : Rendering} {v : Visit}

/-- The spans of quotes are those of this kind. -/
theorem isQuote_spanFor : (sheet.spanFor node placement).isQuote = node.isQuote := by
  rw [GroupSpan.isQuote, sheet.kind_spanFor]
  cases node <;> rfl

theorem hasSpan_and_isQuote (hflatten : options.flattenNestedQuotes) :
    (v.node.hasSpan options v.above && v.node.isQuote) = v.isOuterQuote := by
  rw [Visit.isOuterQuote, Bool.and_comm]
  cases hquote : v.node.isQuote with
  | false => rfl
  | true =>
    have hmarked : v.node.isMarked options v.parent =
        (decide (v.parent.placement = .outermost) || !options.flattenNestedQuotes) := by
      cases hnode : v.node with
      | blockQuote => rfl
      | _ => simp [hnode, Node.isQuote] at hquote
    rw [← isMarked_parentOf, ← Visit.parent, hmarked, hflatten, Bool.not_true, Bool.or_false]

/-- **The quotes with a span are the outer ones.** -/
theorem Walk.quote_spans_eq (h : Walk sheet options nodes (parentOf above) s t)
    (hflatten : options.flattenNestedQuotes) :
    t.spans.filter Annotation.isQuote = s.spans.filter Annotation.isQuote ++
      ((visits sheet options .leaving nodes above s).filter Visit.isOuterQuote).map
        (Visit.span sheet) := by
  have hquote : Annotation.isQuote ∘ Visit.span sheet = fun v => v.node.isQuote :=
    funext fun v => isQuote_spanFor
  rw [h.spans_eq, List.filter_append, List.filter_map, hquote, List.filter_filter]
  simp only [Bool.and_comm, hasSpan_and_isQuote hflatten]

/-- Of the outer quotes those have a span in the trimmed text that are kept. -/
theorem Walk.rendered_quote_spans_eq (h : Walk sheet options nodes (parentOf above) {} t)
    (hflatten : options.flattenNestedQuotes) :
    let leading := t.writer.leadingSize
    let length := Text.size t.writer.finish.text.toList
    t.writer.finish.spans.filter (fun span => span.1.isQuote) =
      (((visits sheet options .leaving nodes above {}).filter Visit.isOuterQuote).filter fun v =>
        (v.span sheet).Kept leading length).map (Visit.placed sheet leading length) := by
  intro leading length
  have hspans := h.rendered_spans_eq
  dsimp only at hspans
  have hquote : (fun span : GroupSpan × Nat × Nat => span.1.isQuote) ∘
      Visit.placed sheet leading length = fun v => v.node.isQuote :=
    funext fun v => isQuote_spanFor
  rw [hspans, List.filter_map, hquote, List.filter_filter, List.filter_filter, List.filter_filter]
  refine congrArg (List.map _) (List.filter_congr fun v _ => ?_)
  rw [← hasSpan_and_isQuote hflatten, Bool.and_comm (v.node.hasSpan _ _), Bool.and_left_comm,
    Bool.and_assoc]

/-- **A node above a visit is visited**, and its span lies around. -/
theorem Walk.exists_visit_of_append (h : Walk sheet options [root] (parentOf []) {} t)
    (hv : v ∈ visits sheet options order [root] [] {})
    (hplace : v.node :: v.above = inner ++ node :: upper) :
    ∃ w ∈ visits sheet options order [root] [] {}, w.node = node ∧ w.above = upper ∧
      (v.span sheet).Within (w.span sheet) := by
  -- up from the visit, one node at a time
  induction inner generalizing v with
  | nil =>
    obtain ⟨hnode, habove⟩ := List.cons.inj hplace
    exact ⟨v, hv, hnode, habove, Nat.le_refl _, Nat.le_refl _⟩
  | cons _ inner ih =>
    obtain ⟨-, habove⟩ := List.cons.inj hplace
    rcases exists_visit_above hv with hnil | ⟨u, hu, huabove, hbelow⟩
    · rw [hnil] at habove
      simp at habove
    · obtain ⟨w, hw, hnode, hupper, hstart, hstop⟩ := ih hu (huabove.symm.trans habove)
      obtain ⟨hstart', hstop'⟩ := h.within_of_mem_below hu hbelow
      exact ⟨w, hw, hnode, hupper, Nat.le_trans hstart hstart', Nat.le_trans hstop' hstop⟩

end Quotes

/-! ## Renderings -/

/-- **Which quotes have a span, and what is under it.** Where quotes are
flattened every quote that is the root or stands right in a document has
one span over its extent, and no other quote has one. Trimming drops those
that nothing is left of. A byte of the trimmed text has the span of a quote
over it when it was written by such a quote or by a node below one, and
only then. -/
theorem render_quote_spans {sheet : StyleSheet} {options : RenderOptions} {root : Node}
    {r : Rendered} (h : render sheet options root = .ok r)
    (hflatten : options.flattenNestedQuotes) :
    ∃ t, (visit sheet options root .none).exec {} = (.ok (), t) ∧
      t.writer.finish = r ∧
      let nodes := visits sheet options .leaving [root] [] {}
      let quotes := nodes.filter Visit.isOuterQuote
      let leading := t.writer.leadingSize
      let length := Text.size r.text.toList
      nodes.map (fun v => (v.above, v.node)) = root.inOrder .leaving [] ∧
      (∀ v ∈ nodes, (visit sheet options v.node v.parent).exec v.before = (.ok (), v.after)) ∧
      t.spans.filter Annotation.isQuote = quotes.map (Visit.span sheet) ∧
      r.spans.filter (fun span => span.1.isQuote) =
        (quotes.filter fun v => (v.span sheet).Kept leading length).map
          (Visit.placed sheet leading length) ∧
      ∀ offset < length,
        (∃ span ∈ r.spans, span.1.isQuote ∧ span.2.1 ≤ offset ∧ offset < span.2.2) ↔
          ∃ v ∈ nodes, v.InOuterQuote ∧ (v.span sheet).Contains (offset + leading) := by
  obtain ⟨t, hroot, rfl⟩ := render_eq_ok_iff.mp h
  have hw : Walk sheet options [root] (parentOf []) {} t := hroot
  have hquotes := hw.rendered_quote_spans_eq hflatten
  dsimp only at hquotes
  refine ⟨t, walk_singleton_iff_exec.mp hw, rfl, map_visits_singleton _ _ _ _ _,
    fun v hv => hw.exec_of_mem_visits hv, hw.quote_spans_eq hflatten, hquotes,
    fun offset hoffset => ⟨?_, ?_⟩⟩
  · rintro ⟨span, hspan, hquote, hstart, hstop⟩
    have hmem : span ∈ t.writer.finish.spans.filter fun span => span.1.isQuote :=
      List.mem_filter.mpr ⟨hspan, hquote⟩
    rw [hquotes] at hmem
    obtain ⟨v, hv, rfl⟩ := List.mem_map.mp hmem
    obtain ⟨hv, houter⟩ := List.mem_filter.mp (List.mem_filter.mp hv).1
    obtain ⟨hnode, hplace⟩ := Bool.and_eq_true_iff.mp houter
    exact ⟨v, hv, ⟨[], v.node, v.above, rfl, hnode, of_decide_eq_true hplace⟩,
      Annotation.contains_of_contains_onto ⟨hstart, hstop⟩⟩
  · rintro ⟨v, hv, ⟨inner, quote, upper, hplace, hquote, houter⟩, hstart, hstop⟩
    obtain ⟨w, hwmem, rfl, rfl, hstart', hstop'⟩ := hw.exists_visit_of_append hv hplace
    have hspan : (w.node.hasSpan options w.above && w.node.isQuote) = true := by
      rw [hasSpan_and_isQuote hflatten, Visit.isOuterQuote, hquote, Bool.true_and]
      exact decide_eq_true houter
    obtain ⟨hmem, hcovers⟩ := hw.placed_covers hwmem (Bool.and_eq_true_iff.mp hspan).1
      ⟨Nat.le_trans hstart' hstart, Nat.lt_of_lt_of_le hstop hstop'⟩ hoffset
    exact ⟨_, hmem, isQuote_spanFor.trans hquote, hcovers⟩

/-- Quotes in a quote, in an item and in a document that stands in a quote:
of five quotes three have a span. -/
theorem outer_quotes_have_spans :
    let quote := Node.blockQuote [.paragraph [.text "é"]]
    let root := Node.document [.blockQuote [.paragraph [.text "a"], quote],
      .bulletList '-' [.listItem [quote]], .blockQuote [.document [quote]]]
    let options : RenderOptions := {}
    ∃ r t, options.flattenNestedQuotes ∧ render {} options root = .ok r ∧
      (visit {} options root .none).exec {} = (.ok (), t) ∧
      ((root.inOrder .leaving []).filter fun (_, node) => node.isQuote).length = 5 ∧
      (t.spans.filter Annotation.isQuote).length = 3 := by
  intro quote root options
  obtain ⟨r, hr⟩ := exists_render_eq_ok {} options root (by decide)
  obtain ⟨t, hvisit, -, hnodes, -, hquotes, -⟩ := render_quote_spans hr rfl
  -- where a quote stands is read off the nodes above it
  have hcount : (t.spans.filter Annotation.isQuote).length =
      ((root.inOrder .leaving []).filter fun (above, node) =>
        node.isQuote && decide ((parentOf above).placement = .outermost)).length := by
    rw [hquotes, List.length_map, ← hnodes, List.filter_map, List.length_map]
    rfl
  refine ⟨r, t, rfl, hr, hvisit, by decide +kernel, ?_⟩
  rw [hcount]
  decide +kernel

/-- **A quote in an item has no span**, and there is no quote above it that
it could be flattened into. -/
theorem quote_in_item_has_no_span :
    let quote := Node.blockQuote [.paragraph [.text "a"]]
    let item := Node.listItem [quote]
    let list := Node.bulletList '-' [item]
    let root := Node.document [list]
    let options : RenderOptions := {}
    ([item, list, root], quote) ∈ root.inOrder .leaving [] ∧
      [item, list, root].all (fun node => !node.isQuote) ∧ options.flattenNestedQuotes ∧
      ∃ r, render {} options root = .ok r ∧ r.text = "•\ta" ∧
        r.spans.filter (fun span => span.1.isQuote) = [] := by
  intro quote item list root options
  have hanswers : (render {} options root).toOption.map (fun r =>
      (r.text, (r.spans.filter fun span => span.1.isQuote).length)) = some ("•\ta", 0) := by
    decide +kernel
  obtain ⟨r, hr⟩ := exists_render_eq_ok {} options root (by decide)
  rw [hr] at hanswers
  obtain ⟨htext, hnone⟩ := Prod.mk.inj (Option.some.inj hanswers)
  exact ⟨.tail _ (.tail _ (.head _)), rfl, rfl, r, hr, htext, List.eq_nil_of_length_eq_zero hnone⟩

end StyledMarkdown
