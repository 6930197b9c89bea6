import StyledMarkdown.Proofs.Rendering.Spans
import StyledMarkdown.Proofs.Tree.Numbering
/-!
# Annotations and their nodes

Every annotation is set for one node, as the node is entered or as it is
left. The markings of a tree are the annotations of its rendering in the
order in which they are set, each with the node it is set for, so what two
renderings have in common can be said of the nodes.

What a walk writes and sets depends neither on the marks that are set
already nor on the cursors that are saved, and on the depth only in that
there has to be room: it goes through from any state with the same core.
-/

namespace StyledMarkdown

open RenderM

/-! ## Markings -/

/-- **An annotation with the node it is set for**: the address of the node
and the nodes above it, innermost first. -/
structure Marking where
  address : Address
  above : List Node
  node : Node
  annotation : Annotation

/-- A marking on a trimmed text, if anything is left of it. -/
def Marking.rebase? (leading length : Nat) (m : Marking) : Option Marking :=
  (Writer.rebase? leading length m.annotation).map fun a => { m with annotation := a }

section Markings

variable (sheet : StyleSheet) (options : RenderOptions)

/-- **The markings of siblings**, of which `n` others stand before the first,
and of the nodes below them, from the state in which the first is entered. -/
def walkMarkings : List Node → Nat → Address → List Node → Rendering → List Marking
  | [], _, _, _, _ => []
  | node :: rest, n, address, above, s =>
    let after := ((visit sheet options node (parentOf above)).exec s).2
    let own := Marking.mk (n :: address) above node
    (node.openingMarks sheet s).reverse.map own ++
      (walkMarkings node.children 0 (n :: address) (node :: above)
          (opening sheet options node (parentOf above) s) ++
        (((Visit.mk above node s after).marks sheet options).map own ++
          walkMarkings rest (n + 1) address above after))
termination_by nodes => sizeOf nodes
decreasing_by
  · have := node.sizeOf_children_le
    simp only [List.cons.sizeOf_spec]
    omega
  · simp only [List.cons.sizeOf_spec]
    omega

/-- **The annotations of a rendered tree, each with its node.** Nothing is
written before the tree is entered. -/
def Node.markings (root : Node) (s : Rendering := {}) : List Marking :=
  let writer := ((visit sheet options root .none).exec s).2.writer
  (walkMarkings sheet options [root] 0 [] [] s).filterMap
    (Marking.rebase? writer.leadingSize (Text.size writer.finish.text.toList))

end Markings

section Walks

variable {sheet : StyleSheet} {options : RenderOptions} {root node : Node}
  {nodes rest more above : List Node} {address : Address} {n : Nat} {s t u : Rendering}
  {m : Marking}

theorem walkMarkings_cons_of_walk (hdepth : s.depth < options.maxDepth)
    (below : Walk sheet options node.children node.asParent
      (opening sheet options node (parentOf above) s) t) :
    walkMarkings sheet options (node :: rest) n address above s =
      (node.openingMarks sheet s).reverse.map (Marking.mk (n :: address) above node) ++
        (walkMarkings sheet options node.children 0 (n :: address) (node :: above)
            (opening sheet options node (parentOf above) s) ++
          (((Visit.mk above node s (closing sheet options node (parentOf above) s t)).marks sheet
              options).map (Marking.mk (n :: address) above node) ++
            walkMarkings sheet options rest (n + 1) address above
              (closing sheet options node (parentOf above) s t))) := by
  rw [walkMarkings, visit_exec_of_ok hdepth below.exec]

theorem map_annotation_mk (address : Address) (above : List Node) (node : Node)
    (marks : List Annotation) :
    (marks.map (Marking.mk address above node)).map Marking.annotation = marks := by
  rw [List.map_map]
  exact List.map_id marks

/-- **The annotations of a walk are those of its markings**, in their order. -/
theorem Walk.annotations_eq (h : Walk sheet options nodes (parentOf above) s t) (n : Nat)
    (address : Address) : t.writer.annotations = s.writer.annotations ++
      (walkMarkings sheet options nodes n address above s).map Marking.annotation := by
  induction h using Walk.inductionAbove generalizing n address with
  | nil =>
    rw [walkMarkings]
    exact (List.append_nil _).symm
  | cons node rest above s t u hdepth below after ihbelow ihafter =>
    rw [walkMarkings_cons_of_walk hdepth below, ihafter (n + 1) address, annotations_closing,
      ihbelow 0 (n :: address), annotations_opening]
    simp only [List.map_append, map_annotation_mk, List.append_assoc]

/-- The walk over siblings is a walk over the first of them and one over the
others. -/
theorem walk_append_iff {parent : Parent} : Walk sheet options (nodes ++ more) parent s u ↔
    ∃ t, Walk sheet options nodes parent s t ∧ Walk sheet options more parent t u := by
  induction nodes generalizing s with
  | nil =>
    constructor
    · intro h
      exact ⟨s, .nil _ _, h⟩
    · rintro ⟨t, hnil, h⟩
      cases hnil
      exact h
  | cons node rest ih =>
    rw [List.cons_append]
    constructor
    · intro h
      cases h with
      | cons hdepth below after =>
        obtain ⟨t, hrest, hmore⟩ := ih.mp after
        exact ⟨t, .cons hdepth below hrest, hmore⟩
    · rintro ⟨t, h, hmore⟩
      cases h with
      | cons hdepth below after => exact .cons hdepth below (ih.mpr ⟨t, after, hmore⟩)

/-- The markings of siblings are those of the first of them and those of the
others. -/
theorem walkMarkings_append (h : Walk sheet options nodes (parentOf above) s t) (n : Nat)
    (address : Address) : walkMarkings sheet options (nodes ++ more) n address above s =
      walkMarkings sheet options nodes n address above s ++
        walkMarkings sheet options more (n + nodes.length) address above t := by
  induction nodes generalizing s n with
  | nil =>
    cases h
    rw [walkMarkings]
    rfl
  | cons node rest ih =>
    cases h with
    | cons hdepth below after =>
      rw [List.cons_append, walkMarkings_cons_of_walk hdepth below,
        walkMarkings_cons_of_walk hdepth below, ih after, List.length_cons]
      simp only [List.append_assoc, Nat.add_assoc, Nat.add_comm 1]

/-- A marking among siblings is at one of them or below it. -/
theorem exists_suffix_of_mem_walkMarkings
    (hm : m ∈ walkMarkings sheet options nodes n address above s) :
    ∃ k, n ≤ k ∧ k < n + nodes.length ∧ (k :: address) <:+ m.address := by
  induction nodes, n, address, above, s using walkMarkings.induct sheet options with
  | case1 =>
    rw [walkMarkings] at hm
    cases hm
  | case2 node rest n address above s after ihbelow ihrest =>
    have hlength : (node :: rest).length = rest.length + 1 := rfl
    have hown : ∀ marks : List Annotation, m ∈ marks.map (Marking.mk (n :: address) above node) →
        ∃ k, n ≤ k ∧ k < n + (node :: rest).length ∧ (k :: address) <:+ m.address := by
      intro marks hmem
      obtain ⟨a, -, rfl⟩ := List.mem_map.mp hmem
      exact ⟨n, Nat.le_refl n, by omega, List.suffix_refl _⟩
    rw [walkMarkings] at hm
    simp only [List.mem_append] at hm
    rcases hm with hopening | hbelow | hclosing | hrest
    · exact hown _ hopening
    · obtain ⟨k, -, -, hsuffix⟩ := ihbelow hbelow
      exact ⟨n, Nat.le_refl n, by omega, (List.suffix_cons _ _).trans hsuffix⟩
    · exact hown _ hclosing
    · obtain ⟨k, hle, hlt, hsuffix⟩ := ihrest hrest
      exact ⟨k, by omega, by omega, hsuffix⟩

/-- The node of a marking is one of the nodes that are walked, and a marking
that is a span is the span of its node. -/
theorem node_of_mem_walkMarkings
    (hm : m ∈ walkMarkings sheet options nodes n address above s) :
    (m.above, m.node) ∈ nodes.flatMap (Node.inOrder .leaving · above) ∧
      ∀ span ∈ m.annotation.span?, span = sheet.spanFor m.node (parentOf m.above).placement := by
  induction nodes, n, address, above, s using walkMarkings.induct sheet options with
  | case1 =>
    rw [walkMarkings] at hm
    cases hm
  | case2 node rest n address above s after ihbelow ihrest =>
    rw [List.flatMap_cons, Node.inOrder_eq, List.mem_append, Order.mem_arrange]
    rw [walkMarkings] at hm
    simp only [List.mem_append, List.mem_map] at hm
    rcases hm with ⟨a, ha, rfl⟩ | hbelow | ⟨a, ha, rfl⟩ | hrest
    · refine ⟨.inl (.inl rfl), fun span hspan => ?_⟩
      rw [node.span?_openingMarks sheet s a (List.mem_reverse.mp ha)] at hspan
      cases hspan
    · obtain ⟨hnode, hspan⟩ := ihbelow hbelow
      exact ⟨.inl (.inr hnode), hspan⟩
    · refine ⟨.inl (.inl rfl), fun span hspan => ?_⟩
      rcases List.mem_append.mp ha with hpart | hown
      · rw [node.span?_partMarks sheet s _ _ a (List.mem_reverse.mp hpart)] at hspan
        cases hspan
      · obtain rfl := Node.eq_of_mem_spanMarks hown
        exact (Option.some.inj hspan).symm
    · obtain ⟨hnode, hspan⟩ := ihrest hrest
      exact ⟨.inr hnode, hspan⟩

end Walks

/-! ## Markings of a rendering -/

section Renderings

variable {sheet sheet' : StyleSheet} {options options' : RenderOptions} {root root' : Node}
  {r : Rendered} {leading length : Nat} {markings : List Marking} {p : Marking → Bool}
  {t t' : Rendering}

theorem map_filterMap_rebase? (leading length : Nat) (markings : List Marking) :
    (markings.filterMap (Marking.rebase? leading length)).map Marking.annotation =
      (markings.map Marking.annotation).filterMap (Writer.rebase? leading length) := by
  rw [List.map_filterMap, List.filterMap_map]
  refine List.filterMap_congr fun m _ => ?_
  unfold Marking.rebase?
  rw [Option.map_map]
  exact Option.map_id'

/-- A property of markings that no range has a part in. -/
def Marking.Unmoved (p : Marking → Bool) : Prop :=
  ∀ leading length m, p { m with annotation := m.annotation.onto leading length } = p m

theorem Marking.Unmoved.filterMap_filter (hp : Marking.Unmoved p) :
    (markings.filter p).filterMap (Marking.rebase? leading length) =
      (markings.filterMap (Marking.rebase? leading length)).filter p := by
  rw [List.filter_filterMap, List.filterMap_filter]
  refine List.filterMap_congr fun m _ => ?_
  unfold Marking.rebase?
  rcases Writer.rebase?_eq_none_or leading length m.annotation with hnone | hsome
  · rw [hnone]
    simp
  · rw [hsome, Option.map_some, Option.filter_some, hp]

theorem Marking.eq_of_rebase?_eq_some {m m' : Marking} (h : m.rebase? leading length = some m') :
    m' = { m with annotation := m.annotation.onto leading length } := by
  obtain ⟨a, ha, rfl⟩ := Option.map_eq_some_iff.mp h
  rw [Writer.eq_of_rebase?_eq_some ha]
  rfl

/-- **A marking of a tree is set for one of its nodes**, and if it is a span
it is the span of that node. -/
theorem node_of_mem_markings {m : Marking} (hm : m ∈ root.markings sheet options) :
    (m.above, m.node) ∈ root.inOrder .leaving [] ∧
      ∀ span ∈ m.annotation.span?, span = sheet.spanFor m.node (parentOf m.above).placement := by
  obtain ⟨whole, hwhole, hrebase⟩ := List.mem_filterMap.mp hm
  obtain rfl := Marking.eq_of_rebase?_eq_some hrebase
  have hnode := node_of_mem_walkMarkings hwhole
  rw [List.flatMap_singleton] at hnode
  exact hnode

/-- A rendering that writes the same text as another one has its annotations
trimmed alike. -/
theorem render_of_annotations_eq (h' : Walk sheet' options' [root'] .none {} t')
    (hbuffer : t'.writer.buffer = t.writer.buffer)
    (hmarkings : t'.writer.annotations = markings.map Marking.annotation) :
    ∃ r', render sheet' options' root' = .ok r' ∧ r'.text = t.writer.finish.text ∧
      r'.annotations = (markings.filterMap (Marking.rebase? t.writer.leadingSize
        (Text.size t.writer.finish.text.toList))).map Marking.annotation := by
  have hleading : t'.writer.leadingSize = t.writer.leadingSize := by
    unfold Writer.leadingSize
    rw [hbuffer]
  have htext : t'.writer.finish.text = t.writer.finish.text := by
    unfold Writer.finish
    rw [hbuffer]
  refine ⟨t'.writer.finish, render_eq_ok_iff.mpr ⟨t', h', rfl⟩, htext, ?_⟩
  rw [map_filterMap_rebase?, ← hmarkings, Writer.annotations_finish, hleading, htext]

theorem markings_eq_of_walk (h : Walk sheet options [root] .none {} t) :
    root.markings sheet options = (walkMarkings sheet options [root] 0 [] [] {}).filterMap
      (Marking.rebase? t.writer.leadingSize (Text.size t.writer.finish.text.toList)) := by
  rw [Node.markings, walk_singleton_iff_exec.mp h]

/-- **The annotations of a rendering are those of its markings.** -/
theorem annotations_eq_of_render_eq_ok (h : render sheet options root = .ok r) :
    r.annotations = (root.markings sheet options).map Marking.annotation := by
  obtain ⟨t, hroot, rfl⟩ := render_eq_ok_iff.mp h
  have hw : Walk sheet options [root] (parentOf []) {} t := hroot
  rw [markings_eq_of_walk hroot, map_filterMap_rebase?, Writer.annotations_finish,
    hw.annotations_eq 0 []]
  rfl

end Renderings

/-! ## States with the same core -/

namespace Rendering

/-- **What a walk reads of a state**: the text, the lists that are open and
those rendered so far. -/
def core (s : Rendering) : Rendering :=
  { s with writer := { s.writer with saved := [], marks := [] }, depth := 0 }

/-- **A state that serves as another one does**: it has the same core, and
room for as many levels at least. -/
structure Serves (s s' : Rendering) : Prop where
  core : s'.core = s.core
  depth : s'.depth ≤ s.depth

theorem Serves.refl (s : Rendering) : Serves s s := ⟨rfl, Nat.le_refl _⟩

end Rendering

open Rendering (Serves)

section Serves

variable {sheet : StyleSheet} {options options' : RenderOptions} {node : Node}
  {nodes above : List Node} {parent : Parent} {s s' t t' : Rendering} {p : Marking → Bool}

theorem openingMarks_core (sheet : StyleSheet) (node : Node) (s : Rendering) :
    node.openingMarks sheet s.core = node.openingMarks sheet s := rfl

theorem core_opening (sheet : StyleSheet) (options : RenderOptions) (node : Node)
    (parent : Parent) (s : Rendering) : (opening sheet options node parent s.core).core =
      (opening sheet options node parent s).core := rfl

/-- The span of a node has no part in the core of the state it leaves. -/
theorem core_closing (sheet : StyleSheet) (options options' : RenderOptions) (node : Node)
    (parent : Parent) (s t : Rendering) : (closing sheet options' node parent s.core t.core).core =
      (closing sheet options node parent s t).core := rfl

theorem Visit.marks_core (sheet : StyleSheet) (options : RenderOptions) (above : List Node)
    (node : Node) (s t : Rendering) : (Visit.mk above node s.core t.core).marks sheet options =
      (Visit.mk above node s t).marks sheet options := rfl

/-- Of the options a node reads on the way down only how a soft break is
written. -/
theorem opening_eq_of_softBreaks
    (h : options'.softBreaksAsHardBreaks = options.softBreaksAsHardBreaks) :
    opening sheet options' node parent s = opening sheet options node parent s := by
  cases node with
  | softBreak =>
    unfold opening Node.opens Node.writing
    rw [h]
  | _ => rfl

theorem Rendering.Serves.opening (h : Serves s s') : Serves (opening sheet options node parent s)
    (StyledMarkdown.opening sheet options node parent s') where
  core := by rw [← core_opening, h.core, core_opening]
  depth := Nat.succ_le_succ h.depth

theorem Rendering.Serves.closing (h : Serves s s') (ht : Serves t t') :
    Serves (closing sheet options node parent s t)
      (StyledMarkdown.closing sheet options' node parent s' t') where
  core := by rw [← core_closing sheet options' options', h.core, ht.core, core_closing]
  depth := h.depth

theorem Rendering.Serves.openingMarks (h : Serves s s') (sheet : StyleSheet) (node : Node) :
    node.openingMarks sheet s' = node.openingMarks sheet s := by
  rw [← openingMarks_core, h.core, openingMarks_core]

theorem Rendering.Serves.marks (h : Serves s s') (ht : Serves t t') :
    (Visit.mk above node s' t').marks sheet options =
      (Visit.mk above node s t).marks sheet options := by
  rw [← Visit.marks_core, h.core, ht.core, Visit.marks_core]

/-- **Options under which a part of the markings is set**, and the same text
is written. -/
structure Restricts (sheet : StyleSheet) (options options' : RenderOptions)
    (p : Marking → Bool) : Prop where
  softBreaks : options'.softBreaksAsHardBreaks = options.softBreaksAsHardBreaks
  maxDepth : options'.maxDepth = options.maxDepth
  opening : ∀ address above node s, ∀ a ∈ Node.openingMarks sheet node s,
    p ⟨address, above, node, a⟩
  marks : ∀ address (v : Visit), v.marks sheet options' =
    (((v.marks sheet options).map (Marking.mk address v.above v.node)).filter p).map
      Marking.annotation

theorem Restricts.refl (sheet : StyleSheet) (options : RenderOptions) :
    Restricts sheet options options fun _ => true where
  softBreaks := rfl
  maxDepth := rfl
  opening _ _ _ _ _ _ := rfl
  marks address v := by rw [List.filter_true, map_annotation_mk]

/-- **A walk goes through from every state that serves as well**, and sets
the markings that are kept. -/
theorem Walk.restricted (h : Walk sheet options nodes (parentOf above) s t)
    (hp : Restricts sheet options options' p) (hs : Serves s s') (n : Nat) (address : Address) :
    ∃ t', Walk sheet options' nodes (parentOf above) s' t' ∧ Serves t t' ∧
      t'.writer.annotations = s'.writer.annotations ++
        ((walkMarkings sheet options nodes n address above s).filter p).map
          Marking.annotation := by
  induction h using Walk.inductionAbove generalizing s' n address with
  | nil above s =>
    refine ⟨s', .nil _ _, hs, ?_⟩
    rw [walkMarkings]
    exact (List.append_nil _).symm
  | cons node rest above s t u hdepth below after ihbelow ihafter =>
    have hopening : opening sheet options' node (parentOf above) s' =
        opening sheet options node (parentOf above) s' := opening_eq_of_softBreaks hp.softBreaks
    obtain ⟨t', hbelow, ht, hannotations⟩ := ihbelow hs.opening 0 (n :: address)
    rw [← hopening] at hbelow hannotations
    have hclosing : Serves (closing sheet options node (parentOf above) s t)
        (closing sheet options' node (parentOf above) s' t') := hs.closing ht
    obtain ⟨u', hafter, hu, hrest⟩ := ihafter hclosing (n + 1) address
    have hroom : s'.depth < options'.maxDepth := by
      rw [hp.maxDepth]
      exact Nat.lt_of_le_of_lt hs.depth hdepth
    refine ⟨u', .cons hroom hbelow hafter, hu, ?_⟩
    have hkept : (((node.openingMarks sheet s).reverse.map
        (Marking.mk (n :: address) above node)).filter p) =
          (node.openingMarks sheet s).reverse.map (Marking.mk (n :: address) above node) := by
      refine List.filter_eq_self.mpr fun m hm => ?_
      obtain ⟨a, ha, rfl⟩ := List.mem_map.mp hm
      exact hp.opening _ _ _ _ a (List.mem_reverse.mp ha)
    have hmarks := hp.marks (n :: address)
      ⟨above, node, s, closing sheet options node (parentOf above) s t⟩
    rw [walkMarkings_cons_of_walk hdepth below, hrest, annotations_closing, hannotations,
      annotations_opening, hs.openingMarks, hs.marks hclosing, hmarks]
    simp only [List.filter_append, List.map_append, hkept, map_annotation_mk, List.append_assoc]

/-- A walk from a state that serves as well sets the same annotations. -/
theorem Walk.served (h : Walk sheet options nodes (parentOf above) s t) (hs : Serves s s')
    (n : Nat) (address : Address) :
    ∃ t', Walk sheet options nodes (parentOf above) s' t' ∧ Serves t t' ∧
      t'.writer.annotations = s'.writer.annotations ++
        (walkMarkings sheet options nodes n address above s).map Marking.annotation := by
  obtain ⟨t', hw, ht, hannotations⟩ := h.restricted (.refl sheet options) hs n address
  rw [List.filter_true] at hannotations
  exact ⟨t', hw, ht, hannotations⟩

end Serves

end StyledMarkdown
