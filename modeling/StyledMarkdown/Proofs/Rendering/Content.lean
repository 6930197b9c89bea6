import Mathlib.Data.List.Forall2
import StyledMarkdown.Proofs.Rendering.Depth
import StyledMarkdown.Proofs.Style.Kinds
import StyledMarkdown.Proofs.Text.Boundary
/-!
# The content of a rendering

The text of a rendering is the content of the leaves of the tree, in their
order, with nothing between them but what the renderer makes itself: line
ends, tabs, spaces, rules and prefixes. Each leaf has a span over its own
content.
-/

namespace StyledMarkdown

open RenderM

/-! ## Portions -/

/-- The content of a leaf, empty for any other node. -/
def Node.content (node : Node) : List Char := (node.literal?.getD "").toList

/-- **The leaves with content**, in the order of the document. -/
def Node.contents : Node → List Node :=
  fold fun node below => if node.literal?.isSome then [node] else below.flatten

theorem Node.contents_eq (node : Node) : node.contents =
    if node.literal?.isSome then [node] else node.children.flatMap contents := by
  unfold contents
  rw [fold_eq, List.flatMap_def]

/-- **What the renderer makes itself.** -/
inductive Generated : List Char → Prop
  | lineEnd : Generated ['\n']
  | tab : Generated ['\t']
  | space : Generated [' ']
  | rule : Generated "---\n".toList
  | listPrefix (context : ListContext) : Generated context.nextPrefix.1.toList

/-- A part of a text: the content of a leaf, or something made. -/
inductive Portion where
  | content (leaf : Node)
  | made (text : List Char)

def Portion.text : Portion → List Char
  | content leaf => leaf.content
  | made text => text

/-- The text of some portions. -/
def joined (portions : List Portion) : List Char := portions.flatMap Portion.text

/-- A leaf and the place of its content. -/
structure Place where
  leaf : Node
  start : Nat

def Place.stop (place : Place) : Nat := place.start + Text.size place.leaf.content

/-- **The places of the leaves** among some portions that begin at `start`. -/
def places (start : Nat) : List Portion → List Place
  | [] => []
  | .content leaf :: rest => ⟨leaf, start⟩ :: places (start + Text.size leaf.content) rest
  | .made text :: rest => places (start + Text.size text) rest

section Places

variable {portions rest : List Portion} {start : Nat}

theorem joined_map_made (pieces : List (List Char)) :
    joined (pieces.map .made) = pieces.flatten := by
  unfold joined
  rw [List.flatMap_map, List.flatMap_def]
  exact congrArg List.flatten (List.map_id pieces)

theorem places_map_made (pieces : List (List Char)) (start : Nat) :
    places start (pieces.map .made) = [] := by
  induction pieces generalizing start with
  | nil => rfl
  | cons piece pieces ih => exact ih _

theorem joined_append : joined (portions ++ rest) = joined portions ++ joined rest :=
  List.flatMap_append

theorem places_append : places start (portions ++ rest) =
    places start portions ++ places (start + Text.size (joined portions)) rest := by
  induction portions generalizing start with
  | nil => rfl
  | cons portion portions ih =>
    have hjoined : joined (portion :: portions) = portion.text ++ joined portions := rfl
    rw [hjoined, Text.size_append, ← Nat.add_assoc]
    cases portion with
    | content leaf => exact congrArg (_ :: ·) ih
    | made text => exact ih

/-- A leaf's place begins where the portions do or later. -/
theorem le_start_of_mem_places {place : Place} (h : place ∈ places start portions) :
    start ≤ place.start := by
  induction portions generalizing start with
  | nil => cases h
  | cons portion portions ih =>
    cases portion with
    | content leaf =>
      rcases List.mem_cons.mp h with rfl | h
      · exact Nat.le_refl _
      · exact Nat.le_trans (Nat.le_add_right _ _) (ih h)
    | made text => exact Nat.le_trans (Nat.le_add_right _ _) (ih h)

theorem content_mem_of_mem_places {place : Place} (h : place ∈ places start portions) :
    .content place.leaf ∈ portions := by
  induction portions generalizing start with
  | nil => cases h
  | cons portion portions ih =>
    cases portion with
    | content leaf =>
      rcases List.mem_cons.mp h with rfl | h
      · exact List.mem_cons_self
      · exact List.mem_cons_of_mem _ (ih h)
    | made text => exact List.mem_cons_of_mem _ (ih h)

/-- **The places of the leaves follow each other** and do not overlap. -/
theorem places_pairwise : (places start portions).Pairwise fun p q => p.stop ≤ q.start := by
  induction portions generalizing start with
  | nil => exact .nil
  | cons portion portions ih =>
    cases portion with
    | content leaf => exact .cons (fun place => le_start_of_mem_places) ih
    | made text => exact ih

end Places

/-- **The text at the place of a leaf is its content.** -/
theorem between_of_mem_places {portions : List Portion} {before : List Char} {place : Place}
    (h : place ∈ places (Text.size before) portions) :
    Text.Between (before ++ joined portions) place.start place.stop place.leaf.content := by
  induction portions generalizing before with
  | nil => cases h
  | cons portion portions ih =>
    have hnext : place ∈ places (Text.size (before ++ portion.text)) portions →
        Text.Between (before ++ joined (portion :: portions)) place.start place.stop
          place.leaf.content := by
      intro hmem
      have hbetween := ih hmem
      rwa [List.append_assoc] at hbetween
    rw [Text.size_append] at hnext
    cases portion with
    | content leaf =>
      rcases List.mem_cons.mp h with rfl | h
      · exact ⟨before, joined portions, rfl, rfl, rfl⟩
      · exact hnext h
    | made text => exact hnext h

/-! ## Spans of content -/

/-- Whether an annotation is the span of a leaf with content. -/
def Annotation.isContent (a : Annotation) : Bool :=
  a.span?.any fun span => (span.kind.toNode "").literal?.isSome

/-- The spans of the leaves with content, in the order they were set. -/
def Rendering.contentSpans (s : Rendering) : List Annotation :=
  s.writer.annotations.filter Annotation.isContent

def Node.isHtmlBlock : Node → Bool
  | htmlBlock _ => true
  | _ => false

/-- **A span that covers the content of a leaf**, and the line end behind
it at most when the leaf is a block of markup. -/
structure Covers (sheet : StyleSheet) (text : List Char) (place : Place) (a : Annotation) :
    Prop where
  mark : ∃ placement, a.mark = .span (sheet.spanFor place.leaf placement)
  start : a.start = place.start
  under : ∃ behind, Text.Between text a.start a.stop (place.leaf.content ++ behind) ∧
    (behind = [] ∨ place.leaf.isHtmlBlock ∧ behind = ['\n'])

theorem Covers.of_isPrefix {sheet : StyleSheet} {text more : List Char} {place : Place}
    {a : Annotation} (h : Covers sheet text place a) (hp : text <+: more) :
    Covers sheet more place a := by
  obtain ⟨behind, hunder, hbehind⟩ := h.under
  exact ⟨h.mark, h.start, behind, hunder.of_isPrefix hp, hbehind⟩

/-! ## Steps of the walk -/

/-- **From one state to a later one the leaves were written**, with their
spans, and nothing else but what the renderer makes. -/
def Rendering.Adds (sheet : StyleSheet) (leaves : List Node) (s t : Rendering) : Prop :=
  ∃ portions spans,
    t.text = s.text ++ joined portions ∧
    (∀ text, Portion.made text ∈ portions → Generated text) ∧
    (places s.cursor portions).map Place.leaf = leaves ∧
    t.contentSpans = s.contentSpans ++ spans ∧
    List.Forall₂ (Covers sheet t.text) (places s.cursor portions) spans

/-- A text that the renderer makes. -/
def IsMade (text : List Char) : Prop :=
  ∃ pieces : List (List Char), text = pieces.flatten ∧ ∀ piece ∈ pieces, Generated piece

theorem IsMade.nil : IsMade [] := ⟨[], rfl, fun _ h => absurd h List.not_mem_nil⟩

theorem Generated.isMade {text : List Char} (h : Generated text) : IsMade text :=
  ⟨[text], (List.append_nil text).symm, List.forall_mem_singleton.mpr h⟩

theorem IsMade.append {text rest : List Char} (h : IsMade text) (hrest : IsMade rest) :
    IsMade (text ++ rest) := by
  obtain ⟨pieces, rfl, hpieces⟩ := h
  obtain ⟨more, rfl, hmore⟩ := hrest
  exact ⟨pieces ++ more, List.flatten_append.symm, List.forall_mem_append.mpr ⟨hpieces, hmore⟩⟩

section Adds

variable {sheet : StyleSheet} {options : RenderOptions} {node : Node} {nodes : List Node}
  {parent : Parent} {s t u : Rendering}

namespace Rendering.Adds

variable {leaves more : List Node}

theorem refl (s : Rendering) : Adds sheet [] s s :=
  ⟨[], [], (List.append_nil _).symm, fun _ h => absurd h List.not_mem_nil, rfl,
    (List.append_nil _).symm, .nil⟩

theorem trans (h : Adds sheet leaves s t) (hmore : Adds sheet more t u) :
    Adds sheet (leaves ++ more) s u := by
  obtain ⟨portions, spans, htext, hmade, hleaves, hspans, hcovers⟩ := h
  obtain ⟨portions', spans', htext', hmade', hleaves', hspans', hcovers'⟩ := hmore
  have hcursor : s.cursor + Text.size (joined portions) = t.cursor := by
    rw [t.cursor_eq_size, htext, Text.size_append, s.cursor_eq_size]
  have hplaces : places s.cursor (portions ++ portions') =
      places s.cursor portions ++ places t.cursor portions' := by
    rw [places_append, hcursor]
  refine ⟨portions ++ portions', spans ++ spans', ?_, ?_, ?_, ?_, ?_⟩
  · rw [htext', htext, joined_append, List.append_assoc]
  · intro text hmem
    rcases List.mem_append.mp hmem with hmem | hmem
    · exact hmade text hmem
    · exact hmade' text hmem
  · rw [hplaces, List.map_append, hleaves, hleaves']
  · rw [hspans', hspans, List.append_assoc]
  · rw [hplaces]
    have hbehind : t.text <+: u.text := ⟨_, htext'.symm⟩
    exact List.rel_append (hcovers.imp fun _ _ hc => hc.of_isPrefix hbehind) hcovers'

/-- What the renderer makes holds no leaf. -/
theorem of_isMade {text : List Char} (hmade : IsMade text) (htext : t.text = s.text ++ text)
    (hspans : t.contentSpans = s.contentSpans) : Adds sheet [] s t := by
  obtain ⟨pieces, rfl, hpieces⟩ := hmade
  refine ⟨pieces.map .made, [], ?_, ?_, ?_, ?_, ?_⟩
  · rw [joined_map_made, htext]
  · intro text hmem
    obtain ⟨piece, hpiece, heq⟩ := List.mem_map.mp hmem
    obtain rfl := Portion.made.inj heq
    exact hpieces piece hpiece
  · rw [places_map_made]
    rfl
  · rw [hspans, List.append_nil]
  · rw [places_map_made]
    exact .nil

end Rendering.Adds

/-! ## What a node makes -/

theorem isMade_missing_lineEnd (b : Buffer) : IsMade (b.missing '\n') := by
  unfold Buffer.missing
  split
  · exact .nil
  · exact Generated.lineEnd.isMade

theorem isMade_missing_tab (b : Buffer) : IsMade (b.missing '\t') := by
  unfold Buffer.missing
  split
  · exact .nil
  · exact Generated.tab.isMade

theorem isMade_nextPrefix (s : Rendering) : IsMade s.nextPrefix := by
  unfold Rendering.nextPrefix ListStack.nextPrefix?
  split
  · exact .nil
  · rename_i context _ _
    exact (Generated.listPrefix context).isMade

theorem isMade_lineEnd_when (p : Prop) [Decidable p] : IsMade (if p then ['\n'] else []) := by
  split
  · exact Generated.lineEnd.isMade
  · exact .nil

/-- **A node without content opens with what the renderer makes.** -/
theorem isMade_opens (h : node.literal? = none) : IsMade (node.opens options parent s) := by
  cases node with
  | blockQuote | orderedList | bulletList => exact isMade_lineEnd_when _
  | listItem => exact (isMade_nextPrefix s).append (isMade_missing_tab _)
  | softBreak =>
    unfold Node.opens Node.writing
    dsimp only
    split
    · exact Generated.lineEnd.isMade
    · exact Generated.space.isMade
  | hardBreak =>
    show IsMade "\n".toList
    exact Generated.lineEnd.isMade
  | thematicBreak => exact Generated.rule.isMade
  | fencedCode | indentedCode | htmlBlock | code | htmlInline | text => cases h
  | _ => exact .nil

theorem isMade_closes (node : Node) (parent : Parent) (t : Rendering) :
    IsMade (node.closes parent t) := by
  unfold Node.closes
  split
  · exact isMade_missing_lineEnd _
  · exact .nil

/-! ## The spans a node sets -/

theorem filter_eq_nil_of_span? {marks : List Annotation} (h : ∀ a ∈ marks, a.span? = none) :
    marks.filter Annotation.isContent = [] := by
  refine List.filter_eq_nil_iff.mpr fun a ha => ?_
  unfold Annotation.isContent
  rw [h a ha]
  exact Bool.false_ne_true

theorem contentSpans_eq (s : Rendering) :
    s.contentSpans = (s.writer.marks.filter Annotation.isContent).reverse :=
  List.filter_reverse

theorem contentSpans_opening :
    (opening sheet options node parent s).contentSpans = s.contentSpans := by
  have hmarks : (opening sheet options node parent s).writer.marks.filter Annotation.isContent =
      s.writer.marks.filter Annotation.isContent := by
    unfold opening
    rw [List.filter_append, filter_eq_nil_of_span? (node.span?_openingMarks sheet s),
      List.nil_append]
  rw [contentSpans_eq, hmarks, ← contentSpans_eq]

/-- The only span a node sets is its own. -/
theorem contentSpans_closing : (closing sheet options node parent s t).contentSpans =
    t.contentSpans ++ ((node.spanMarks sheet options parent (node.start parent s)
      (node.closed parent t).size).filter Annotation.isContent).reverse := by
  have hmarks : (closing sheet options node parent s t).writer.marks.filter Annotation.isContent =
      (node.spanMarks sheet options parent (node.start parent s)
        (node.closed parent t).size).filter Annotation.isContent ++
      t.writer.marks.filter Annotation.isContent := by
    unfold closing
    rw [List.filter_append, List.filter_append,
      filter_eq_nil_of_span? (node.span?_partMarks sheet s _ _), List.nil_append]
  rw [contentSpans_eq, hmarks, List.reverse_append, ← contentSpans_eq]

theorem filter_spanMarks (start stop : Nat) :
    (node.spanMarks sheet options parent start stop).filter Annotation.isContent =
      if node.literal?.isSome then node.spanMarks sheet options parent start stop else [] := by
  have hcontent : Annotation.isContent ⟨.span (sheet.spanFor node parent.placement), start, stop⟩ =
      node.literal?.isSome := by
    unfold Annotation.isContent Annotation.span?
    rw [Option.any_some, sheet.kind_spanFor, node.isSome_literal?_toNode_spanKind]
  unfold Node.spanMarks
  split
  · rw [List.filter_singleton, hcontent]
    cases node.literal?.isSome <;> rfl
  · split <;> rfl

/-- **A node without content adds no leaf of its own.** -/
theorem adds_opening (h : node.literal? = none) :
    Rendering.Adds sheet [] s (opening sheet options node parent s) :=
  .of_isMade (isMade_opens h) text_opening contentSpans_opening

theorem adds_closing (h : node.literal? = none) :
    Rendering.Adds sheet [] t (closing sheet options node parent s t) := by
  refine .of_isMade (isMade_closes node parent t) text_closing ?_
  rw [contentSpans_closing, filter_spanMarks, h]
  exact List.append_nil _

/-! ## Leaves with content -/

theorem opens_of_isSome (h : node.literal?.isSome) :
    node.opens options parent s = node.content := by
  cases node with
  | fencedCode | indentedCode | htmlBlock | code | htmlInline | text => rfl
  | _ => cases h

theorem spanMarks_of_isSome (h : node.literal?.isSome) (stop : Nat) :
    node.spanMarks sheet options parent (node.start parent s) stop =
      [⟨.span (sheet.spanFor node parent.placement), s.cursor, stop⟩] := by
  cases node with
  | fencedCode | indentedCode | htmlBlock | code | htmlInline | text => rfl
  | _ => cases h

/-- Only a block of markup writes a line end behind its content. -/
theorem closes_of_isSome (h : node.literal?.isSome) : node.closes parent t = [] ∨
    node.isHtmlBlock ∧ node.closes parent t = ['\n'] := by
  cases node with
  | htmlBlock literal =>
    have hcloses : (Node.htmlBlock literal).closes parent t = t.writer.buffer.missing '\n' := rfl
    rw [hcloses]
    unfold Buffer.missing
    split
    · exact .inl rfl
    · exact .inr ⟨rfl, rfl⟩
  | fencedCode | indentedCode | code | htmlInline | text => exact .inl rfl
  | _ => cases h

theorem text_leaf (h : node.literal?.isSome) :
    (closing sheet options node parent s (opening sheet options node parent s)).text =
      s.text ++ (node.content ++ node.closes parent (opening sheet options node parent s)) := by
  rw [text_closing, text_opening, opens_of_isSome h, List.append_assoc]

theorem covers_leaf (h : node.literal?.isSome) :
    Covers sheet (closing sheet options node parent s (opening sheet options node parent s)).text
      ⟨node, s.cursor⟩ ⟨.span (sheet.spanFor node parent.placement), s.cursor,
        (node.closed parent (opening sheet options node parent s)).size⟩ := by
  refine ⟨⟨parent.placement, rfl⟩, rfl, node.closes parent (opening sheet options node parent s),
    ⟨s.text, [], ?_, s.cursor_eq_size.symm, ?_⟩, closes_of_isSome h⟩
  · rw [List.append_nil]
    exact text_leaf h
  · have hsize := (closing sheet options node parent s
      (opening sheet options node parent s)).cursor_eq_size
    rw [text_leaf h, Text.size_append, ← s.cursor_eq_size] at hsize
    exact hsize.symm

/-- **A leaf with content adds itself.** -/
theorem adds_leaf (h : node.literal?.isSome) : Rendering.Adds sheet [node] s
    (closing sheet options node parent s (opening sheet options node parent s)) := by
  have hspans : (closing sheet options node parent s
      (opening sheet options node parent s)).contentSpans = s.contentSpans ++
        [⟨.span (sheet.spanFor node parent.placement), s.cursor,
          (node.closed parent (opening sheet options node parent s)).size⟩] := by
    rw [contentSpans_closing, filter_spanMarks, if_pos h, spanMarks_of_isSome h,
      contentSpans_opening]
    rfl
  obtain ⟨pieces, hcloses, hpieces⟩ := isMade_closes node parent
    (opening sheet options node parent s)
  refine ⟨.content node :: pieces.map .made, _, ?_, ?_, ?_, hspans, ?_⟩
  · have hjoined : joined (.content node :: pieces.map .made) =
        node.content ++ joined (pieces.map .made) := rfl
    rw [text_leaf h, hjoined, joined_map_made, hcloses]
  · intro text hmem
    rcases List.mem_cons.mp hmem with heq | hmem
    · cases heq
    · obtain ⟨piece, hpiece, heq⟩ := List.mem_map.mp hmem
      obtain rfl := Portion.made.inj heq
      exact hpieces piece hpiece
  · rw [places, places_map_made]
    rfl
  · rw [places, places_map_made]
    exact .cons (covers_leaf h) .nil

/-- **A walk adds the leaves below it** in their order. -/
theorem Walk.adds (h : Walk sheet options nodes parent s t) :
    Rendering.Adds sheet (nodes.flatMap Node.contents) s t := by
  induction h with
  | nil => exact .refl _
  | @cons node rest parent s t u hdepth below after ihbelow ihafter =>
    rw [List.flatMap_cons, node.contents_eq]
    refine Rendering.Adds.trans ?_ ihafter
    split
    · -- a leaf has no children to walk, so it closes the state it opened
      rename_i hleaf
      have hchildren : node.children = [] := by
        cases node with
        | fencedCode | indentedCode | htmlBlock | code | htmlInline | text => rfl
        | _ => cases hleaf
      rw [hchildren] at below
      obtain rfl : opening sheet options node parent s = t := by
        cases below
        rfl
      exact adds_leaf hleaf
    · rename_i hinner
      have hnone : node.literal? = none := Option.not_isSome_iff_eq_none.mp hinner
      have hbelow : Rendering.Adds sheet (node.children.flatMap Node.contents) s t :=
        (adds_opening hnone).trans ihbelow
      have hclosing : Rendering.Adds sheet [] t (closing sheet options node parent s t) :=
        adds_closing hnone
      have hadds := hbelow.trans hclosing
      rwa [List.append_nil] at hadds

end Adds

/-! ## Renderings -/

/-- **No content is lost, doubled, moved or changed.** The text before
trimming consists of the contents of the leaves, in the order of the
document, and of what the renderer makes itself. The leaves stand one
behind the other, each over exactly its content, and the spans of the
leaves, in the order they were set, each cover the content of theirs. -/
theorem render_keeps_content {sheet : StyleSheet} {options : RenderOptions} {node : Node}
    {r : Rendered} (h : render sheet options node = .ok r) :
    ∃ t portions, (visit sheet options node .none).exec {} = (.ok (), t) ∧
      t.writer.finish = r ∧
      t.text = joined portions ∧
      (∀ text, Portion.made text ∈ portions → Generated text) ∧
      (places 0 portions).map Place.leaf = node.contents ∧
      ((places 0 portions).Pairwise fun p q => p.stop ≤ q.start) ∧
      (∀ p ∈ places 0 portions, Text.slice? t.text p.start p.stop = some p.leaf.content) ∧
      List.Forall₂ (Covers sheet t.text) (places 0 portions) t.contentSpans := by
  obtain ⟨t, hw, hr⟩ := render_eq_ok_iff.mp h
  obtain ⟨portions, spans, htext, hmade, hleaves, hspans, hcovers⟩ := hw.adds
  rw [List.flatMap_singleton] at hleaves
  refine ⟨t, portions, walk_singleton_iff_exec.mp hw, hr, htext, hmade, hleaves, places_pairwise,
    fun p hp => ?_, ?_⟩
  · rw [htext]
    exact (between_of_mem_places hp).slice?_eq
  · rw [hspans]
    exact hcovers

/-- Text and code in a quoted list, with a break between them. -/
theorem quoted_list_keeps_content :
    let item := Node.listItem [.paragraph [.text "a", .softBreak, .code "b"]]
    let root := Node.document [.blockQuote [.bulletList '-' [item]]]
    ∃ t portions, (visit {} {} root .none).exec {} = (.ok (), t) ∧ t.text = joined portions ∧
      (places 0 portions).map Place.leaf = [.text "a", .code "b"] := by
  intro item root
  obtain ⟨r, hr⟩ := exists_render_eq_ok {} {} root (by decide)
  obtain ⟨t, portions, hvisit, -, htext, -, hleaves, -⟩ := render_keeps_content hr
  exact ⟨t, portions, hvisit, htext, hleaves⟩

end StyledMarkdown
