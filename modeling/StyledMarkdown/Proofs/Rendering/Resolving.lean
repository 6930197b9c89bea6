import StyledMarkdown.Proofs.Rendering.Nesting
import StyledMarkdown.Proofs.Rendering.Queries
import StyledMarkdown.Proofs.Rendering.Separation
import StyledMarkdown.Proofs.Style.Kinds
import StyledMarkdown.Proofs.Tree.Splicing
/-!
# Spans that resolve back to themselves

A span keeps of its node what its style is made from. So the node that is
rebuilt from it is styled as the first one was, whatever text is put into
it, and the placement matters for a paragraph alone.

Spans are compared by their kinds and directives, and a relative size that
is no number equals nothing. Where the sizes of the headings are numbers
every span is equal to itself.
-/

namespace StyledMarkdown

/-! ## Spans that equal themselves -/

/-- Whether a directive equals itself, as all do but a scaling by what is no
number. -/
def Directive.isDefinite : Directive → Bool
  | relativeSize factor => !factor.isNaN
  | _ => true

/-- The sizes of the headings are numbers, all of them. -/
def StyleSheet.HasNumbers (sheet : StyleSheet) : Prop :=
  ∀ factor ∈ sheet.config.heading.multipliers, factor.isNaN = false

theorem Directive.beq_self_of_isDefinite {directive : Directive} (h : directive.isDefinite) :
    (directive == directive) = true := by
  -- the fields are compared one after the other, by the equality of their types
  cases directive with
  | relativeSize factor =>
    have hnumber : factor.isNaN = false := by simpa [isDefinite] using h
    exact Binary.beq_self hnumber
  | bold | italic | monospace => rfl
  | absoluteSize value | foreground value | tabStop value | link value =>
    have hsame : (value == value) = true := BEq.rfl
    exact hsame
  | paragraphSpacing first second | leadingMargin first second =>
    have hsame : (first == first && second == second) = true := by simp
    exact hsame
  | quoteStripe first second third | listPrefix first second third =>
    have hsame : (first == first && (second == second && third == third)) = true := by simp
    exact hsame

theorem GroupSpan.beq_self_of_isDefinite {span : GroupSpan}
    (h : ∀ directive ∈ span.directives, directive.isDefinite) : (span == span) = true := by
  obtain ⟨kind, directives⟩ := span
  have hdirectives : (directives == directives) = true := by
    induction directives with
    | nil => rfl
    | cons directive rest ih =>
      obtain ⟨hdirective, hrest⟩ := List.forall_mem_cons.mp h
      rw [List.cons_beq_cons, Directive.beq_self_of_isDefinite hdirective, ih hrest]
      rfl
  have hsame : (kind == kind && directives == directives) = true := by
    rw [hdirectives, beq_self_eq_true]
    rfl
  exact hsame

/-! ## The spans of a style sheet -/

/-- The node with another text, if it carries one. -/
def Node.withLiteral (node : Node) (literal : String) : Node :=
  match node with
  | fencedCode fence _ => fencedCode fence literal
  | indentedCode _ => indentedCode literal
  | htmlBlock _ => htmlBlock literal
  | code _ => code literal
  | htmlInline _ => htmlInline literal
  | text _ => text literal
  | other => other

section Spans

variable {sheet : StyleSheet} {node : Node} {placement : Placement}

/-- The size of a heading is one of the six, or the size of the text. -/
theorem isNaN_multiplier (h : sheet.HasNumbers) (level : Nat) :
    ((sheet.config.heading.multiplier? level).getD (singleOfDecimal 1 0)).isNaN = false := by
  have hone : (singleOfDecimal 1 0).isNaN = false := by decide +kernel
  cases hsize : sheet.config.heading.multiplier? level with
  | none => exact hone
  | some factor =>
    unfold HeadingConfig.multiplier? at hsize
    split at hsize
    · cases hsize
    · exact h factor (Vector.mem_of_getElem? hsize)

theorem isDefinite_of_mem_spanFor (h : sheet.HasNumbers) :
    ∀ directive ∈ (sheet.spanFor node placement).directives, directive.isDefinite := by
  have hall : (sheet.spanFor node placement).directives.all Directive.isDefinite = true := by
    cases node with
    | heading level =>
      have hsize := isNaN_multiplier h level
      simp [StyleSheet.spanFor, StyleSheet.paragraphSpacing, Directive.isDefinite, hsize]
    | paragraph => cases placement <;> rfl
    | _ => rfl
  exact List.all_eq_true.mp hall

/-- **The spans of a style sheet equal themselves.** -/
theorem spanFor_beq_self (h : sheet.HasNumbers) (node : Node) (placement : Placement) :
    (sheet.spanFor node placement == sheet.spanFor node placement) = true :=
  GroupSpan.beq_self_of_isDefinite (isDefinite_of_mem_spanFor h)

/-- What is inside a node and the text it carries have no part in its span. -/
theorem spanFor_withChildren (children : List Node) :
    sheet.spanFor (node.withChildren children) placement = sheet.spanFor node placement := by
  cases node <;> rfl

theorem spanFor_withLiteral (literal : String) :
    sheet.spanFor (node.withLiteral literal) placement = sheet.spanFor node placement := by
  cases node <;> rfl

/-- Of a node that is no paragraph the placement has no part in it either. -/
theorem spanFor_of_not_isParagraph (h : ¬ node.isParagraph) (other : Placement) :
    sheet.spanFor node other = sheet.spanFor node placement := by
  cases node with
  | paragraph => exact absurd rfl h
  | _ => rfl

/-- **The node rebuilt from a span has that span**, whatever text it is given. -/
theorem spanFor_toNode (literal : Option String) :
    sheet.spanFor ((sheet.spanFor node placement).toNode literal) placement =
      sheet.spanFor node placement := by
  cases node with
  | paragraph => cases placement <;> rfl
  | _ => rfl

theorem isParagraph_toNode (literal : Option String) :
    ((sheet.spanFor node placement).toNode literal).isParagraph = node.isParagraph := by
  rw [GroupSpan.toNode, sheet.kind_spanFor]
  cases node <;> rfl

/-- The kind of a span and the node rebuilt from it have one name. -/
theorem kindName_toNode (span : GroupSpan) (literal : Option String) :
    (span.toNode literal).kindName = span.kind.name := by
  obtain ⟨kind, directives⟩ := span
  cases kind <;> rfl

/-- Each span of a rendering is that of a node below its parent. -/
theorem exists_node_of_mem_spans {options : RenderOptions} {root : Node} {r : Rendered}
    (h : render sheet options root = .ok r) {span : GroupSpan × Nat × Nat}
    (hspan : span ∈ r.spans) :
    ∃ above node, (above, node) ∈ root.inOrder .leaving [] ∧
      span.1 = sheet.spanFor node (parentOf above).placement := by
  obtain ⟨t, hroot, rfl⟩ := render_eq_ok_iff.mp h
  have hw : Walk sheet options [root] (parentOf []) {} t := hroot
  have hspans := hw.rendered_spans_eq
  dsimp only at hspans
  rw [hspans] at hspan
  obtain ⟨v, hv, rfl⟩ := List.mem_map.mp hspan
  have hvisit : v ∈ visits sheet options .leaving [root] [] {} :=
    List.mem_of_mem_filter (List.mem_of_mem_filter hv)
  have hplaces : (visits sheet options .leaving [root] [] {}).map (fun v => (v.above, v.node)) =
      root.inOrder .leaving [] := map_visits_singleton _ _ _ _ _
  refine ⟨v.above, v.node, ?_, rfl⟩
  rw [← hplaces]
  exact List.mem_map.mpr ⟨v, hvisit, rfl⟩

end Spans

/-! ## Renderings -/

/-- **Spans identify their units.** The node rebuilt from the span of a node,
with any text put into it, has a span equal to that one, where the first
stood and anywhere else if it is no paragraph. The children and the text of
a node have no part in its span, and the span has the name of its node. So
every span of a rendering resolves back to itself from the text under it. -/
theorem spans_resolve {sheet : StyleSheet} (h : sheet.HasNumbers) :
    (∀ node placement literal,
      let span := sheet.spanFor node placement
      (sheet.spanFor (span.toNode literal) placement == span) ∧
      (¬ node.isParagraph →
        ∀ other, sheet.spanFor (span.toNode literal) other == span) ∧
      (∀ children content,
        sheet.spanFor ((node.withChildren children).withLiteral content) placement = span) ∧
      (span.toNode literal).kindName = span.kind.name) ∧
    ∀ options root r, render sheet options root = .ok r →
      ∀ span start stop, (span, start, stop) ∈ r.spans →
        ∃ above node text, (above, node) ∈ root.inOrder .leaving [] ∧
          span = sheet.spanFor node (parentOf above).placement ∧
          r.slice? start stop = some text ∧
          (sheet.spanFor (span.toNode (some text)) (parentOf above).placement == span) ∧
          (¬ node.isParagraph →
            ∀ other, sheet.spanFor (span.toNode (some text)) other == span) := by
  have hresolves : ∀ node placement literal,
      let span := sheet.spanFor node placement
      (sheet.spanFor (span.toNode literal) placement == span) ∧
      (¬ node.isParagraph → ∀ other, sheet.spanFor (span.toNode literal) other == span) := by
    intro node placement literal span
    have hself : (span == span) = true := spanFor_beq_self h node placement
    have hrebuilt : sheet.spanFor (span.toNode literal) placement = span := spanFor_toNode literal
    refine ⟨by rw [hrebuilt, hself], fun hparagraph other => ?_⟩
    have hother : sheet.spanFor (span.toNode literal) other =
        sheet.spanFor (span.toNode literal) placement :=
      spanFor_of_not_isParagraph (by rwa [isParagraph_toNode]) other
    rw [hother, hrebuilt, hself]
  refine ⟨fun node placement literal => ?_, fun options root r hr span start stop hspan => ?_⟩
  · intro span
    obtain ⟨hsame, hanywhere⟩ := hresolves node placement literal
    refine ⟨hsame, hanywhere, fun children content => ?_, kindName_toNode span literal⟩
    rw [spanFor_withLiteral, spanFor_withChildren]
  · obtain ⟨above, node, hplace, rfl⟩ := exists_node_of_mem_spans hr hspan
    have hfits : ∀ a ∈ r.annotations, a.span?.isSome → a.Fits r.text.toList :=
      fun a ha hs => fits_of_render_eq_ok hr a ha (.inl hs)
    obtain ⟨text, htext⟩ :=
      Option.isSome_iff_exists.mp (Rendered.slice?_isSome_of_mem_spans hfits hspan)
    obtain ⟨hsame, hanywhere⟩ := hresolves node (parentOf above).placement (some text)
    exact ⟨above, node, text, hplace, rfl, htext, hsame, hanywhere⟩

/-- A heading, and a quote with a link and code in its paragraph: seven spans,
of which only the one of the paragraph needs its placement. -/
theorem quoted_link_resolves :
    let sheet : StyleSheet := {}
    let link := Node.link "x.com" (some "t") [.text "a"]
    let root := Node.document
      [.heading 2 [.text "é"], .blockQuote [.paragraph [link, .code "b"]]]
    sheet.HasNumbers ∧ ¬ link.isParagraph ∧
      (sheet.spanFor ((sheet.spanFor link .nested).toNode none) .outermost ==
        sheet.spanFor link .nested) ∧
      ∃ r, render sheet {} root = .ok r ∧
        r.spans.map (fun (span, start, stop) => (span.kind, start, stop)) =
          [(.text, 0, 2), (.heading 2, 0, 3), (.text, 3, 4), (.link "x.com", 3, 4), (.code, 4, 5),
            (.paragraph, 3, 5), (.blockQuote, 3, 5)] ∧
        ∀ span start stop, (span, start, stop) ∈ r.spans →
          ∃ placement text, r.slice? start stop = some text ∧
            (sheet.spanFor (span.toNode (some text)) placement == span) := by
  intro sheet link root
  have hnumbers : sheet.HasNumbers := by
    have hall : sheet.config.heading.multipliers.all (fun factor => factor.isNaN = false) := by
      decide +kernel
    intro factor hfactor
    exact of_decide_eq_true (Vector.all_eq_true_iff_forall_mem.mp hall factor hfactor)
  have hlink : ¬ link.isParagraph := Bool.false_ne_true
  obtain ⟨hnodes, hspans⟩ := spans_resolve hnumbers
  obtain ⟨-, hanywhere, -⟩ := hnodes link .nested none
  obtain ⟨r, hr⟩ := exists_render_eq_ok sheet {} root (by decide)
  have hkinds : (render sheet {} root).toOption.map (fun r =>
      r.spans.map fun (span, start, stop) => (span.kind, start, stop)) =
        some [(.text, 0, 2), (.heading 2, 0, 3), (.text, 3, 4), (.link "x.com", 3, 4),
          (.code, 4, 5), (.paragraph, 3, 5), (.blockQuote, 3, 5)] := by decide +kernel
  rw [hr] at hkinds
  refine ⟨hnumbers, hlink, hanywhere hlink .outermost, r, hr, Option.some.inj hkinds,
    fun span start stop hspan => ?_⟩
  obtain ⟨above, node, text, -, -, htext, hsame, -⟩ := hspans {} root r hr span start stop hspan
  exact ⟨(parentOf above).placement, text, htext, hsame⟩

end StyledMarkdown
