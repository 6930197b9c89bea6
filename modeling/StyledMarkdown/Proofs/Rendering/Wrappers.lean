import StyledMarkdown.Proofs.Rendering.Depth
import StyledMarkdown.Proofs.Rendering.Markings
import StyledMarkdown.Proofs.Tree.Splicing
/-!
# Inline wrappers

A wrapper around inline units is transparent: the tree with what is inside
it in its place is rendered to the same text, with the same annotations but
for the span of the wrapper. What is inside stands one level further up then
and below another parent, and neither tells for an inline unit.

The wrapper may stand anywhere in a tree, so it is shown first for the
wrapper alone, then for siblings of which one is changed, then for the node
around them, and from these along the path down to it.
-/

namespace StyledMarkdown

open RenderM
open Rendering (Serves)

/-! ## Changed children -/

section Children

variable {sheet : StyleSheet} {options : RenderOptions} {node : Node} {nodes children : List Node}
  {parent parent' : Parent} {s t : Rendering}

/-- Inline units are rendered alike below any parent. -/
theorem opening_of_isInline (h : node.isInline) (parent' : Parent) :
    opening sheet options node parent' s = opening sheet options node parent s := by
  cases node with
  | link | image | emphasis | strong | code | htmlInline | text | softBreak | hardBreak => rfl
  | _ => cases h

theorem closing_of_isInline (h : node.isInline) (parent' : Parent) :
    closing sheet options node parent' s t = closing sheet options node parent s t := by
  cases node with
  | link | image | emphasis | strong | code | htmlInline | text | softBreak | hardBreak => rfl
  | _ => cases h

/-- **A walk over inline units** goes through below any parent. -/
theorem Walk.anyParent (h : Walk sheet options nodes parent s t)
    (hinline : ∀ node ∈ nodes, node.isInline) (parent' : Parent) :
    Walk sheet options nodes parent' s t := by
  induction nodes generalizing s with
  | nil =>
    cases h
    exact .nil _ _
  | cons node rest ih =>
    obtain ⟨hnode, hrest⟩ := List.forall_mem_cons.mp hinline
    cases h with
    | cons hdepth below after =>
      rw [← opening_of_isInline hnode parent'] at below
      rw [← closing_of_isInline hnode parent'] at after
      exact .cons hdepth below (ih after hrest)

/-- Of what is inside it a node reads only how many items a list has. -/
theorem opening_withChildren
    (h : (node.withChildren children).largestPrefix? = node.largestPrefix?) :
    opening sheet options (node.withChildren children) parent s =
      opening sheet options node parent s := by
  cases node with
  | orderedList start delimiter items =>
    unfold opening Node.enter
    rw [h]
    rfl
  | _ => rfl

theorem closing_withChildren : closing sheet options (node.withChildren children) parent s t =
    closing sheet options node parent s t := by
  cases node <;> rfl

theorem asParent_withChildren : (node.withChildren children).asParent = node.asParent := by
  cases node <;> rfl

theorem largestPrefix?_of_not_isOrdered (h : ¬ node.isOrdered) :
    (node.withChildren children).largestPrefix? = node.largestPrefix? := by
  cases node with
  | orderedList => exact absurd rfl h
  | _ => rfl

theorem largestPrefix?_of_length_eq (h : children.length = node.children.length) :
    (node.withChildren children).largestPrefix? = node.largestPrefix? := by
  cases node with
  | orderedList start delimiter items =>
    have hcount : children.length = items.length := h
    simp only [Node.withChildren, Node.largestPrefix?, hcount]
  | _ => rfl

end Children

/-! ## A wrapper and what is inside it -/

/-- **The marking of a wrapper** at an address: it sets its span and nothing
else. -/
structure Marking.Wraps (sheet : StyleSheet) (wrapper : Node) (place : Address) (m : Marking) :
    Prop where
  address : m.address = place
  node : m.node = wrapper
  mark : m.annotation.mark = .span (sheet.spanFor wrapper (parentOf m.above).placement)

/-- **Siblings that stand for others with a wrapper among them or below**,
at an address: from every state that serves as well they are rendered to one
that does, and set the same annotations but for the one of the wrapper. -/
def Unwraps (sheet : StyleSheet) (options : RenderOptions) (wrapper : Node) (place : Address)
    (nodes nodes' : List Node) (n : Nat) (address : Address) (above : List Node) : Prop :=
  ∀ s s' t, Walk sheet options nodes (parentOf above) s t → Serves s s' →
    ∃ t' front own back, Walk sheet options nodes' (parentOf above) s' t' ∧ Serves t t' ∧
      walkMarkings sheet options nodes n address above s = front ++ own :: back ∧
      own.Wraps sheet wrapper place ∧ (∀ m ∈ front ++ back, m.address ≠ place) ∧
      t'.writer.annotations = s'.writer.annotations ++ (front ++ back).map Marking.annotation

section Unwrapping

variable {sheet : StyleSheet} {options : RenderOptions} {wrapper node parent : Node}
  {nodes nodes' before after children above : List Node} {path : List Nat} {address place : Address}
  {n k : Nat} {s s' t : Rendering} {m : Marking}

/-- The nodes behind different numbers of siblings have nothing in common. -/
theorem address_ne_of_suffix {a b : Address} (ha : (n :: address) <:+ a)
    (hb : (k :: address) <:+ b) (hne : n ≠ k) : a ≠ b := by
  rintro rfl
  have hsuffix := List.suffix_of_suffix_length_le ha hb (Nat.le_refl _)
  exact hne (List.cons.inj (hsuffix.eq_of_length rfl)).1

/-- What is set for other siblings, and below them, is set elsewhere. -/
theorem address_ne_of_mem (hplace : (k :: address) <:+ place)
    (hother : n + nodes.length ≤ k ∨ k < n)
    (hm : m ∈ walkMarkings sheet options nodes n address above s) : m.address ≠ place := by
  obtain ⟨j, hle, hlt, hsuffix⟩ := exists_suffix_of_mem_walkMarkings hm
  have hne : j ≠ k := by omega
  exact address_ne_of_suffix hsuffix hplace hne

/-- A wrapper writes nothing and opens nothing. -/
theorem serves_opening_wrapper (h : wrapper.isWrapper) (hs : Serves s s') {parent : Parent} :
    Serves (opening sheet options wrapper parent s) s' where
  core := by
    rw [hs.core]
    cases wrapper with
    | link | image | emphasis | strong | unsupported => rfl
    | _ => cases h
  depth := Nat.le_succ_of_le hs.depth

theorem core_closing_wrapper (h : wrapper.isWrapper) {parent : Parent} :
    (closing sheet options wrapper parent s t).core = t.core := by
  cases wrapper with
  | link | image | emphasis | strong | unsupported => rfl
  | _ => cases h

theorem openingMarks_wrapper (h : wrapper.isWrapper) : wrapper.openingMarks sheet s = [] := by
  cases wrapper with
  | link | image | emphasis | strong | unsupported => rfl
  | _ => cases h

/-- The only mark of a wrapper is its span. -/
theorem marks_wrapper (h : wrapper.isWrapper) : (Visit.mk above wrapper s t).marks sheet options =
    [(Visit.mk above wrapper s t).span sheet] := by
  cases wrapper with
  | link | image | emphasis | strong | unsupported => rfl
  | _ => cases h

/-- **What is inside a wrapper stands for it.** -/
theorem unwraps_wrapper (hwrapper : wrapper.isWrapper)
    (hinline : ∀ child ∈ wrapper.children, child.isInline) :
    Unwraps sheet options wrapper (n :: address) [wrapper] wrapper.children n address above := by
  intro s s' t hw hs
  obtain ⟨hdepth, u, hbelow, rfl⟩ := walk_singleton_iff.mp hw
  have hbelow : Walk sheet options wrapper.children (parentOf (wrapper :: above))
      (opening sheet options wrapper (parentOf above) s) u := hbelow
  obtain ⟨t', hw', ht, hannotations⟩ :=
    hbelow.served (serves_opening_wrapper hwrapper hs) 0 (n :: address)
  have hserves : Serves (closing sheet options wrapper (parentOf above) s u) t' := by
    refine ⟨ht.core.trans (core_closing_wrapper hwrapper).symm, ?_⟩
    rw [hw'.sameNesting.depth]
    exact hs.depth
  let own := (Visit.mk above wrapper s
    (closing sheet options wrapper (parentOf above) s u)).span sheet
  have hmarks : (Visit.mk above wrapper s
      (closing sheet options wrapper (parentOf above) s u)).marks sheet options = [own] :=
    marks_wrapper hwrapper
  refine ⟨t', walkMarkings sheet options wrapper.children 0 (n :: address) (wrapper :: above)
      (opening sheet options wrapper (parentOf above) s), ⟨n :: address, above, wrapper, own⟩, [],
    hw'.anyParent hinline _, hserves, ?_, ⟨rfl, rfl, rfl⟩, ?_, ?_⟩
  · rw [walkMarkings_cons_of_walk hdepth hbelow, openingMarks_wrapper hwrapper, hmarks,
      walkMarkings]
    rfl
  · intro m hm heq
    rw [List.append_nil] at hm
    obtain ⟨k, -, -, hsuffix⟩ := exists_suffix_of_mem_walkMarkings hm
    have hlength := hsuffix.length_le
    rw [heq, List.length_cons] at hlength
    omega
  · rw [List.append_nil]
    exact hannotations

/-- **One of some siblings is changed.** -/
theorem Unwraps.among
    (h : Unwraps sheet options wrapper place [node] nodes' before.length address above)
    (hplace : (before.length :: address) <:+ place) :
    Unwraps sheet options wrapper place (before ++ ([node] ++ after))
      (before ++ (nodes' ++ after)) 0 address above := by
  intro s s' t hw hs
  obtain ⟨u, hbefore, hrest⟩ := walk_append_iff.mp hw
  obtain ⟨v, hnode, hafter⟩ := walk_append_iff.mp hrest
  obtain ⟨u', hbefore', hu, hfirst⟩ := hbefore.served hs 0 address
  obtain ⟨v', front, own, back, hnode', hv, hmarkings, hown, hothers, hmiddle⟩ :=
    h u u' v hnode hu
  obtain ⟨t', hafter', ht, hlast⟩ := hafter.served hv (before.length + 1) address
  refine ⟨t', walkMarkings sheet options before 0 address above s ++ front, own,
    back ++ walkMarkings sheet options after (before.length + 1) address above v,
    walk_append_iff.mpr ⟨u', hbefore', walk_append_iff.mpr ⟨v', hnode', hafter'⟩⟩, ht, ?_, hown,
    ?_, ?_⟩
  · rw [walkMarkings_append hbefore, walkMarkings_append hnode, Nat.zero_add, hmarkings]
    simp only [List.append_assoc, List.cons_append, List.length_singleton]
  · intro m hm
    simp only [List.mem_append] at hm hothers
    rcases hm with (hm | hm) | hm | hm
    · exact address_ne_of_mem hplace (.inl (by omega)) hm
    · exact hothers m (.inl hm)
    · exact hothers m (.inr hm)
    · exact address_ne_of_mem hplace (.inr (by omega)) hm
  · rw [hlast, hmiddle, hfirst]
    simp only [List.map_append, List.append_assoc]

/-- **What is inside a node is changed.** -/
theorem Unwraps.inside
    (h : Unwraps sheet options wrapper place node.children children 0 (n :: address)
      (node :: above))
    (hchildren : node.children ≠ [])
    (hlast : (node.withChildren children).largestPrefix? = node.largestPrefix?)
    (hplace : address.length + 1 < place.length) :
    Unwraps sheet options wrapper place [node] [node.withChildren children] n address above := by
  intro s s' t hw hs
  obtain ⟨hdepth, u, hbelow, rfl⟩ := walk_singleton_iff.mp hw
  have hopening : Serves (opening sheet options node (parentOf above) s)
      (opening sheet options node (parentOf above) s') := hs.opening
  obtain ⟨u', front, own, back, hbelow', hu, hmarkings, hown, hothers, hannotations⟩ :=
    h _ _ u hbelow hopening
  have hclosing : Serves (closing sheet options node (parentOf above) s u)
      (closing sheet options node (parentOf above) s' u') := hs.closing hu
  have hwhole : Walk sheet options [node.withChildren children] (parentOf above) s'
      (closing sheet options node (parentOf above) s' u') := by
    refine walk_singleton_iff.mpr ⟨Nat.lt_of_le_of_lt hs.depth hdepth, u', ?_, ?_⟩
    · rw [Node.children_withChildren hchildren, asParent_withChildren, opening_withChildren hlast]
      exact hbelow'
    · exact closing_withChildren.symm
  let own' := Marking.mk (n :: address) above node
  refine ⟨_, (node.openingMarks sheet s).reverse.map own' ++ front, own,
    back ++ ((Visit.mk above node s (closing sheet options node (parentOf above) s u)).marks sheet
      options).map own', hwhole, hclosing, ?_, hown, ?_, ?_⟩
  · rw [walkMarkings_cons_of_walk hdepth hbelow, hmarkings, walkMarkings, List.append_nil]
    simp only [List.append_assoc, List.cons_append]
    rfl
  · intro m hm
    have hshort : ∀ marks : List Annotation, m ∈ marks.map own' → m.address ≠ place := by
      intro marks hmem heq
      obtain ⟨a, -, rfl⟩ := List.mem_map.mp hmem
      rw [← heq] at hplace
      exact Nat.lt_irrefl _ hplace
    simp only [List.mem_append] at hm hothers
    rcases hm with (hm | hm) | hm | hm
    · exact hshort _ hm
    · exact hothers m (.inl hm)
    · exact hothers m (.inr hm)
    · exact hshort _ hm
  · rw [annotations_closing, hannotations, annotations_opening, hs.openingMarks,
      hs.marks hclosing]
    simp only [List.map_append, own', map_annotation_mk, List.append_assoc]

/-- **A wrapper is spliced** at the end of a path, of which the first node
stands behind `k` others. -/
theorem unwraps_splice (hparent : node.descend? path = some parent)
    (hmem : parent.children[n]? = some wrapper) (hwrapper : wrapper.isWrapper)
    (hinline : ∀ child ∈ wrapper.children, child.isInline) (hordered : ¬ parent.isOrdered) :
    Unwraps sheet options wrapper (n :: (path.reverse ++ k :: address)) [node]
      [node.splice path n] k address above := by
  -- along the path: right around the wrapper its parent is changed, and further up one child
  induction path generalizing node k address above with
  | nil =>
    obtain rfl : node = parent := Option.some.inj hparent
    obtain ⟨before, after, hchildren, rfl⟩ := Node.exists_siblings hmem
    have hown : Unwraps sheet options wrapper (before.length :: k :: address)
        (before ++ ([wrapper] ++ after)) (before ++ (wrapper.children ++ after)) 0 (k :: address)
        (node :: above) := (unwraps_wrapper hwrapper hinline).among (List.suffix_refl _)
    rw [← hchildren] at hown
    rw [Node.splice_nil hchildren]
    refine hown.inside ?_ (largestPrefix?_of_not_isOrdered hordered) ?_
    · simp [hchildren]
    · simp
  | cons j path ih =>
    obtain ⟨next, hnext, hlast⟩ := Node.descend?_cons_eq_some_iff.mp hparent
    obtain ⟨before, after, hchildren, rfl⟩ := Node.exists_siblings hnext
    have hplace : (before.length :: k :: address) <:+
        n :: (path.reverse ++ before.length :: k :: address) :=
      (List.suffix_append _ _).trans (List.suffix_cons _ _)
    have hbelow : Unwraps sheet options wrapper
        (n :: (path.reverse ++ before.length :: k :: address)) (before ++ ([next] ++ after))
        (before ++ ([next.splice path n] ++ after)) 0 (k :: address) (node :: above) :=
      (ih hlast).among hplace
    rw [← hchildren] at hbelow
    rw [Node.splice_cons hchildren, List.reverse_cons, List.append_assoc, List.singleton_append]
    refine hbelow.inside ?_ (largestPrefix?_of_length_eq ?_) ?_
    · simp [hchildren]
    · simp [hchildren]
    · simp only [List.length_cons, List.length_append]
      omega

end Unwrapping

/-- **Inline wrappers are transparent.** Where a tree can be rendered that
has a link, an image, an emphasis of either kind or an unsupported construct
around inline units, the tree can be rendered with these units in its place,
unless it is right inside an ordered list. The text is the same, and the
annotations are the same ones but for the span of the wrapper, if trimming
has left any of it. -/
theorem render_spliced {sheet : StyleSheet} {options : RenderOptions}
    {root parent wrapper : Node} {path : List Nat} {n : Nat} {r : Rendered}
    (hparent : root.descend? path = some parent) (hmem : parent.children[n]? = some wrapper)
    (hwrapper : wrapper.isWrapper) (hinline : ∀ child ∈ wrapper.children, child.isInline)
    (hordered : ¬ parent.isOrdered) (h : render sheet options root = .ok r) :
    ∃ r' front back, ∃ own : Option Marking,
      render sheet options (root.splice path n) = .ok r' ∧ r'.text = r.text ∧
      root.markings sheet options = front ++ (own.toList ++ back) ∧
      (∀ m ∈ own, m.Wraps sheet wrapper (n :: Node.addressOf path)) ∧
      (∀ m ∈ front ++ back, m.address ≠ n :: Node.addressOf path) ∧
      r.annotations = (front ++ (own.toList ++ back)).map Marking.annotation ∧
      r'.annotations = (front ++ back).map Marking.annotation := by
  have hannotations := annotations_eq_of_render_eq_ok h
  obtain ⟨t, hroot, rfl⟩ := render_eq_ok_iff.mp h
  have hw : Walk sheet options [root] (parentOf []) {} t := hroot
  have hunwraps : Unwraps sheet options wrapper (n :: Node.addressOf path) [root]
      [root.splice path n] 0 [] [] := unwraps_splice hparent hmem hwrapper hinline hordered
  obtain ⟨t', front, own, back, hw', hserves, hmarkings, hown, hothers, hkept⟩ :=
    hunwraps {} {} t hw (.refl {})
  have hbuffer : t'.writer.buffer = t.writer.buffer :=
    congrArg (fun s => s.writer.buffer) hserves.core
  obtain ⟨r', hr', htext, hspliced⟩ := render_of_annotations_eq hw' hbuffer hkept
  let trimmed := Marking.rebase? t.writer.leadingSize (Text.size t.writer.finish.text.toList)
  have hwhole : root.markings sheet options =
      front.filterMap trimmed ++ ((trimmed own).toList ++ back.filterMap trimmed) := by
    rw [markings_eq_of_walk hroot, hmarkings, List.filterMap_append, List.filterMap_cons]
    cases htrimmed : trimmed own <;> simp [trimmed, htrimmed]
  refine ⟨r', front.filterMap trimmed, back.filterMap trimmed, trimmed own, hr', htext, hwhole,
    ?_, ?_, by rw [hannotations, hwhole], by rw [hspliced, List.filterMap_append]⟩
  · intro m hm
    obtain rfl := Marking.eq_of_rebase?_eq_some hm
    exact ⟨hown.address, hown.node, hown.mark⟩
  · intro m hm
    rw [← List.filterMap_append] at hm
    obtain ⟨whole, hwhole, hrebase⟩ := List.mem_filterMap.mp hm
    obtain rfl := Marking.eq_of_rebase?_eq_some hrebase
    exact hothers whole hwhole

/-- An emphasis that holds a link, in an item: what is inside takes its place
between the texts beside it, and of the spans that follow each other only the
one of the emphasis is gone. -/
theorem emphasis_in_item_spliced :
    let link := Node.link "u" none [.text "é", .softBreak]
    let item (inline : List Node) := Node.document
      [.bulletList '-' [.listItem [.paragraph inline]]]
    let root := item [.text "a", .emphasis [link, .code "b"], .text "c"]
    root.splice [0, 0, 0] 1 = item [.text "a", link, .code "b", .text "c"] ∧
    ∃ r r', render {} {} root = .ok r ∧ render {} {} (root.splice [0, 0, 0] 1) = .ok r' ∧
      r'.text = r.text ∧
      r.spans.map (·.1.kind.name) = ["Text", "Text", "SoftLineBreak", "Link", "Code", "Emphasis",
        "Text", "Paragraph", "ListItem", "BulletList"] ∧
      r'.spans.map (·.1.kind.name) = ["Text", "Text", "SoftLineBreak", "Link", "Code",
        "Text", "Paragraph", "ListItem", "BulletList"] := by
  intro link item root
  have hkinds : (render {} {} root).toOption.map (fun r => r.spans.map (·.1.kind.name)) =
      some ["Text", "Text", "SoftLineBreak", "Link", "Code", "Emphasis", "Text", "Paragraph",
        "ListItem", "BulletList"] := by decide +kernel
  have hkinds' : (render {} {} (root.splice [0, 0, 0] 1)).toOption.map
      (fun r => r.spans.map (·.1.kind.name)) = some ["Text", "Text", "SoftLineBreak", "Link",
        "Code", "Text", "Paragraph", "ListItem", "BulletList"] := by decide +kernel
  obtain ⟨r, hr⟩ := exists_render_eq_ok {} {} root (by decide)
  rw [hr] at hkinds
  have hparent : root.descend? [0, 0, 0] =
      some (.paragraph [.text "a", .emphasis [link, .code "b"], .text "c"]) := rfl
  obtain ⟨r', front, back, own, hr', htext, -⟩ := render_spliced (n := 1) hparent rfl rfl
    (by decide) Bool.false_ne_true hr
  rw [hr'] at hkinds'
  exact ⟨rfl, r, r', hr, hr', htext, Option.some.inj hkinds, Option.some.inj hkinds'⟩

end StyledMarkdown
