import StyledMarkdown.Proofs.Rendering.Depth
import StyledMarkdown.Proofs.Rendering.Markings
import StyledMarkdown.Proofs.Style.Kinds
/-!
# Flattened quotes

Whether nested quotes are flattened is a question of their spans and of
nothing else. The same text is written and the same annotations are set,
but for the spans of the quotes that stand in anything but a document.
-/

namespace StyledMarkdown

open RenderM

/-- **The span of a quote in anything but a document.** -/
def Marking.isInnerQuote (m : Marking) : Bool :=
  m.annotation.span?.any (fun span => span.kind = .blockQuote) &&
    m.above.head?.any fun parent => !parent.isDocument

theorem unmoved_isInnerQuote : Marking.Unmoved fun m => !m.isInnerQuote := fun _ _ _ => rfl

section Flattening

variable {m : Marking}

theorem not_isInnerQuote_of_span? (h : m.annotation.span? = none) : !m.isInnerQuote := by
  unfold Marking.isInnerQuote
  rw [h]
  rfl

/-- **The span of a node under either option**: only a quote that does not
stand in a document loses it. -/
theorem spanMarks_flattened (sheet : StyleSheet) (options : RenderOptions) (address : Address)
    (above : List Node) (node : Node) (start stop : Nat) :
    node.spanMarks sheet { options with flattenNestedQuotes := true } (parentOf above) start stop =
      (((node.spanMarks sheet { options with flattenNestedQuotes := false } (parentOf above) start
        stop).map (Marking.mk address above node)).filter fun m => !m.isInnerQuote).map
          Marking.annotation := by
  by_cases hquote : ∃ children, node = .blockQuote children
  · obtain ⟨children, rfl⟩ := hquote
    cases above with
    | nil => rfl
    | cons parent above => cases parent <;> rfl
  · have hmarked : node.isMarked { options with flattenNestedQuotes := true } (parentOf above) =
        node.isMarked { options with flattenNestedQuotes := false } (parentOf above) := by
      cases node with
      | blockQuote children => exact absurd ⟨children, rfl⟩ hquote
      | _ => rfl
    have hkept : ∀ m ∈ (node.spanMarks sheet { options with flattenNestedQuotes := false }
        (parentOf above) start stop).map (Marking.mk address above node), !m.isInnerQuote := by
      intro m hm
      obtain ⟨a, ha, rfl⟩ := List.mem_map.mp hm
      obtain rfl := Node.eq_of_mem_spanMarks ha
      have hkind : (sheet.spanFor node (parentOf above).placement).kind ≠ .blockQuote := by
        rw [sheet.kind_spanFor]
        exact mt Node.exists_of_spanKind_eq_blockQuote hquote
      simp [Marking.isInnerQuote, Annotation.span?, hkind]
    rw [List.filter_eq_self.mpr hkept, map_annotation_mk]
    unfold Node.spanMarks
    rw [hmarked]

/-- **Flattening leaves out the spans of inner quotes.** -/
theorem restricts_flattened (sheet : StyleSheet) (options : RenderOptions) :
    Restricts sheet { options with flattenNestedQuotes := false }
      { options with flattenNestedQuotes := true } fun m => !m.isInnerQuote where
  softBreaks := rfl
  maxDepth := rfl
  opening address above node s a ha :=
    not_isInnerQuote_of_span? (node.span?_openingMarks sheet s a ha)
  marks address v := by
    have hparts : ((v.partMarks sheet).reverse.map (Marking.mk address v.above v.node)).filter
        (fun m => !m.isInnerQuote) =
          (v.partMarks sheet).reverse.map (Marking.mk address v.above v.node) := by
      refine List.filter_eq_self.mpr fun m hm => ?_
      obtain ⟨a, ha, rfl⟩ := List.mem_map.mp hm
      exact not_isInnerQuote_of_span?
        (v.node.span?_partMarks sheet v.before _ _ a (List.mem_reverse.mp ha))
    have hspan := spanMarks_flattened sheet options address v.above v.node v.start v.stop
    unfold Visit.marks Visit.parent
    rw [List.map_append, List.filter_append, List.map_append, hparts, map_annotation_mk, ← hspan]

end Flattening

/-- **Flattening removes the spans of nested quotes and changes nothing
else.** A tree that can be rendered without it can be rendered with it, to
the same text. The annotations are those set without it, in the same order,
less the spans of the quotes that have a parent which is no document. The
annotations are told apart by the nodes of the tree that they are set for,
whose spans they are if they are spans. -/
theorem render_flattened {sheet : StyleSheet} {options : RenderOptions} {root : Node}
    {r : Rendered}
    (h : render sheet { options with flattenNestedQuotes := false } root = .ok r) :
    ∃ r', render sheet { options with flattenNestedQuotes := true } root = .ok r' ∧
      r'.text = r.text ∧
      let markings := root.markings sheet { options with flattenNestedQuotes := false }
      (∀ m ∈ markings, (m.above, m.node) ∈ root.inOrder .leaving [] ∧
        ∀ span ∈ m.annotation.span?, span = sheet.spanFor m.node (parentOf m.above).placement) ∧
      r.annotations = markings.map Marking.annotation ∧
      r'.annotations = (markings.filter fun m => !m.isInnerQuote).map Marking.annotation := by
  have hannotations := annotations_eq_of_render_eq_ok h
  obtain ⟨t, hroot, rfl⟩ := render_eq_ok_iff.mp h
  have hw : Walk sheet { options with flattenNestedQuotes := false } [root] (parentOf []) {} t :=
    hroot
  obtain ⟨t', hw', hserves, hrest⟩ :=
    hw.restricted (restricts_flattened sheet options) (.refl {}) 0 []
  have hbuffer : t'.writer.buffer = t.writer.buffer :=
    congrArg (fun s => s.writer.buffer) hserves.core
  obtain ⟨r', hr', htext, hflattened⟩ :=
    render_of_annotations_eq hw' hbuffer hrest
  rw [unmoved_isInnerQuote.filterMap_filter, ← markings_eq_of_walk hroot] at hflattened
  exact ⟨r', hr', htext, fun m hm => node_of_mem_markings hm, hannotations, hflattened⟩

/-- Quotes in a quote, in an item and in a document that stands in a quote:
the first two lose their spans and the third keeps its own. -/
theorem quotes_in_containers_flattened :
    let quote := Node.blockQuote [.paragraph [.text "é"]]
    let root := Node.document [.blockQuote [.paragraph [.text "a"], quote],
      .bulletList '-' [.listItem [quote]], .blockQuote [.document [quote]]]
    ∃ r r', render {} { flattenNestedQuotes := false } root = .ok r ∧
      render {} { flattenNestedQuotes := true } root = .ok r' ∧ r'.text = r.text ∧
      r.spanTexts? "BlockQuote" = some ["é\n", "a\né\n", "é\n", "é", "é"] ∧
      r'.spanTexts? "BlockQuote" = some ["a\né\n", "é", "é"] ∧
      r'.annotations.length + 2 = r.annotations.length := by
  intro quote root
  have hanswers : (render {} { flattenNestedQuotes := false } root).toOption.map (fun r =>
      (r.spanTexts? "BlockQuote", r.annotations.length)) =
        some (some ["é\n", "a\né\n", "é\n", "é", "é"], 20) := by decide +kernel
  have hanswers' : (render {} { flattenNestedQuotes := true } root).toOption.map (fun r =>
      (r.spanTexts? "BlockQuote", r.annotations.length)) =
        some (some ["a\né\n", "é", "é"], 18) := by decide +kernel
  obtain ⟨r, hr⟩ := exists_render_eq_ok {} { flattenNestedQuotes := false } root (by decide)
  rw [hr] at hanswers
  obtain ⟨hquotes, hlength⟩ := Prod.mk.inj (Option.some.inj hanswers)
  obtain ⟨r', hr', htext, -⟩ := @render_flattened {} {} root r hr
  rw [hr'] at hanswers'
  obtain ⟨hquotes', hlength'⟩ := Prod.mk.inj (Option.some.inj hanswers')
  exact ⟨r, r', hr, hr', htext, hquotes, hquotes', by rw [hlength, hlength']⟩

end StyledMarkdown
