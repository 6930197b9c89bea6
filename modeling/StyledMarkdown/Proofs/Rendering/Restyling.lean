import Mathlib.Data.List.Basic
import StyledMarkdown.Proofs.Rendering.Depth
import StyledMarkdown.Proofs.Rendering.Trimming
/-!
# Style and content

Two style sheets make the same document of a tree: the same text, and
annotations over the same ranges for the same units of markdown, which
differ in measurements and colors at most. A style sheet is asked for
nothing else than these, so two renderings under different ones go through
states that differ in nothing else.
-/

namespace StyledMarkdown

open RenderM

/-! ## Outlines -/

/-- What a directive is for, whatever its measurements and its color. The
cells of a prefix are counted and not measured. -/
inductive DirectiveKind where
  | relativeSize
  | absoluteSize
  | paragraphSpacing
  | bold
  | italic
  | monospace
  | foreground
  | quoteStripe
  | leadingMargin
  | tabStop
  | listPrefix (digits : Nat)
  | link
deriving DecidableEq

def Directive.kind : Directive → DirectiveKind
  | relativeSize _ => .relativeSize
  | absoluteSize _ => .absoluteSize
  | paragraphSpacing .. => .paragraphSpacing
  | bold => .bold
  | italic => .italic
  | monospace => .monospace
  | foreground _ => .foreground
  | quoteStripe .. => .quoteStripe
  | leadingMargin .. => .leadingMargin
  | tabStop _ => .tabStop
  | listPrefix digits .. => .listPrefix digits
  | link _ => .link

/-- **What a mark is for**: a unit of markdown with directives of these
kinds, or one directive of layout. -/
inductive MarkKind where
  | span (kind : SpanKind) (directives : List DirectiveKind)
  | layout (directive : DirectiveKind)
deriving DecidableEq

def Mark.kind : Mark → MarkKind
  | .span group => .span group.kind (group.directives.map Directive.kind)
  | .layout directive => .layout directive.kind

/-- What a mark is for, over the bytes from `start` up to `stop`. -/
structure Outline where
  kind : MarkKind
  start : Nat
  stop : Nat
deriving DecidableEq

/-- **An annotation without its style.** -/
def Annotation.outline (a : Annotation) : Outline := ⟨a.mark.kind, a.start, a.stop⟩

/-- **A rendered document without its style.** -/
def Rendered.outline (r : Rendered) : String × List Outline :=
  (r.text, r.annotations.map Annotation.outline)

/-- An outline on a trimmed text. Only its range decides what is left of it. -/
def Outline.rebase? (leading length : Nat) (o : Outline) : Option Outline :=
  (Writer.rebase? leading length ⟨.layout .bold, o.start, o.stop⟩).map fun a =>
    ⟨o.kind, a.start, a.stop⟩

theorem Writer.outline_rebase? (leading length : Nat) (a : Annotation) :
    (rebase? leading length a).map Annotation.outline = a.outline.rebase? leading length := by
  unfold Outline.rebase? rebase? Annotation.outline
  dsimp only
  rw [Option.map_if, Option.map_if]

/-- **Trimming looks at no style.** -/
theorem Writer.outlines_filterMap (leading length : Nat) (marks : List Annotation) :
    (marks.filterMap (rebase? leading length)).map Annotation.outline =
      (marks.map Annotation.outline).filterMap (Outline.rebase? leading length) := by
  rw [List.map_filterMap, List.filterMap_map]
  exact List.filterMap_congr fun a _ => outline_rebase? leading length a

/-! ## Styles -/

section Styles

variable (sheet sheet' : StyleSheet)

/-- **The span of a node has the same kinds of directives** under every
style sheet. -/
theorem StyleSheet.markKind_spanFor (node : Node) (placement : Placement) :
    (Mark.span (sheet.spanFor node placement)).kind =
      (Mark.span (sheet'.spanFor node placement)).kind := by
  cases node with
  | paragraph => cases placement <;> rfl
  | _ => rfl

/-- The prefixes of a list are as many cells wide under every style sheet. -/
theorem PrefixGeometry.digits_of (context : Option ListContext) :
    (PrefixGeometry.of sheet context).digits = (PrefixGeometry.of sheet' context).digits := by
  rcases context with _ | ⟨kind, depth⟩
  · rfl
  · cases kind <;> rfl

end Styles

/-! ## Two renderings with different styles -/

/-- **Two states that differ in style only.** -/
structure Rendering.Restyled (s s' : Rendering) : Prop where
  buffer : s.writer.buffer = s'.writer.buffer
  saved : s.writer.saved = s'.writer.saved
  outlines : s.writer.marks.map Annotation.outline = s'.writer.marks.map Annotation.outline
  lists : s.lists = s'.lists
  extents : s.extents = s'.extents
  depth : s.depth = s'.depth

namespace Rendering.Restyled

variable {sheet sheet' : StyleSheet} {options : RenderOptions} {node : Node} {parent : Parent}
  {s s' t t' : Rendering}

theorem refl (s : Rendering) : Restyled s s := ⟨rfl, rfl, rfl, rfl, rfl, rfl⟩

theorem cursor (h : Restyled s s') : s.cursor = s'.cursor := congrArg Buffer.size h.buffer

theorem nextPrefix (h : Restyled s s') : s.nextPrefix = s'.nextPrefix := by
  unfold Rendering.nextPrefix
  rw [h.lists]

theorem opens (h : Restyled s s') :
    node.opens options parent s = node.opens options parent s' := by
  unfold Node.opens
  rw [h.lists, h.nextPrefix, h.buffer]

theorem start (h : Restyled s s') : node.start parent s = node.start parent s' := by
  unfold Node.start
  rw [h.cursor]

theorem saves (h : Restyled s s') : node.saves parent s = node.saves parent s' := by
  unfold Node.saves
  rw [h.start]

theorem closed (h : Restyled t t') : node.closed parent t = node.closed parent t' := by
  unfold Node.closed Node.closes
  rw [h.buffer]

theorem openingMarks (h : Restyled s s') (sheet sheet' : StyleSheet) :
    (node.openingMarks sheet s).map Annotation.outline =
      (node.openingMarks sheet' s').map Annotation.outline := by
  cases node with
  | listItem children =>
    have hdigits := PrefixGeometry.digits_of sheet sheet' s'.lists.current?
    simp only [Node.openingMarks, List.map_cons, List.map_nil, Annotation.outline, Mark.kind,
      Directive.kind, h.lists, h.cursor, h.nextPrefix, hdigits]
  | _ => rfl

/-- **Two renderings go below a node alike.** -/
theorem opening (h : Restyled s s') : Restyled (opening sheet options node parent s)
    (StyledMarkdown.opening sheet' options node parent s') where
  buffer := by
    unfold StyledMarkdown.opening
    rw [h.buffer, h.opens]
  saved := by
    unfold StyledMarkdown.opening
    rw [h.saves, h.saved]
  outlines := by
    unfold StyledMarkdown.opening
    rw [List.map_append, List.map_append, h.outlines, h.openingMarks sheet sheet']
  lists := congrArg node.enter h.lists
  extents := h.extents
  depth := congrArg (· + 1) h.depth

theorem partMarks (h : Restyled s s') (ht : Restyled t t') (sheet sheet' : StyleSheet) :
    (node.partMarks sheet s (node.closed parent t) t.extents).map Annotation.outline =
      (node.partMarks sheet' s' (node.closed parent t') t'.extents).map Annotation.outline := by
  cases node with
  | listItem children =>
    unfold Node.partMarks
    rw [ht.closed, ht.extents, h.cursor]
    -- the parts are found in the text, and the sheets only say how far they are indented
    generalize itemBoundaries _ _ _ _ = parts
    obtain ⟨first, _ | second⟩ := parts <;> rfl
  | _ => rfl

theorem spanMarks (sheet sheet' : StyleSheet) (node : Node) (parent : Parent) (start stop : Nat) :
    (node.spanMarks sheet options parent start stop).map Annotation.outline =
      (node.spanMarks sheet' options parent start stop).map Annotation.outline := by
  unfold Node.spanMarks
  split
  · exact congrArg (fun kind => [Outline.mk kind start stop])
      (sheet.markKind_spanFor sheet' node parent.placement)
  · rfl

/-- **Two renderings come back from a node alike.** -/
theorem closing (h : Restyled s s') (ht : Restyled t t') :
    Restyled (closing sheet options node parent s t)
      (StyledMarkdown.closing sheet' options node parent s' t') where
  buffer := ht.closed
  saved := h.saved
  outlines := by
    unfold StyledMarkdown.closing
    simp only [List.map_append]
    rw [spanMarks sheet sheet', h.partMarks ht sheet sheet', ht.outlines, h.start, ht.closed]
  lists := by
    unfold StyledMarkdown.closing
    rw [ht.lists]
  extents := by
    unfold StyledMarkdown.closing
    rw [ht.extents, h.start, ht.closed]
  depth := h.depth

end Rendering.Restyled

section Walks

variable {sheet : StyleSheet} {options : RenderOptions} {nodes : List Node} {parent : Parent}
  {s s' t : Rendering}

open Rendering (Restyled)

/-- **A walk under one style sheet is one under any other**, through states
that differ in style only. -/
theorem Walk.restyled (h : Walk sheet options nodes parent s t) (hs : Restyled s s')
    (sheet' : StyleSheet) :
    ∃ t', Walk sheet' options nodes parent s' t' ∧ Restyled t t' := by
  induction h generalizing s' with
  | nil => exact ⟨s', .nil _ _, hs⟩
  | cons hdepth _ _ ihbelow ihafter =>
    obtain ⟨t', hbelow, ht⟩ := ihbelow hs.opening
    obtain ⟨u', hafter, hu⟩ := ihafter (hs.closing ht)
    exact ⟨u', .cons (hs.depth ▸ hdepth) hbelow hafter, hu⟩

/-- Trimming keeps two renderings alike. -/
theorem Rendering.Restyled.finish {t' : Rendering} (h : Restyled t t') :
    t.writer.finish.outline = t'.writer.finish.outline := by
  unfold Rendered.outline Writer.finish Writer.annotations
  dsimp only
  rw [Writer.outlines_filterMap, Writer.outlines_filterMap, List.map_reverse, List.map_reverse,
    h.buffer, h.outlines]

end Walks

/-- **Style never affects content.** Under any two style sheets a tree and
the options of its rendering give the same error, or the same text with
annotations of the same kinds over the same ranges, in the same order. -/
theorem render_outline_eq (sheet sheet' : StyleSheet) (options : RenderOptions) (root : Node) :
    (render sheet options root).map Rendered.outline =
      (render sheet' options root).map Rendered.outline := by
  have herror : ((visit sheet options root .none).exec {}).1 =
      ((visit sheet' options root .none).exec {}).1 := by
    rw [visit_exec_fst, visit_exec_fst]
  rcases hv : (visit sheet options root .none).exec {} with ⟨e | _, t⟩
  · rw [hv] at herror
    rw [render_eq, render_eq, ← herror, hv]
    rfl
  · obtain ⟨t', hwalk, ht⟩ := (walk_singleton_iff_exec.mpr hv).restyled (.refl {}) sheet'
    have hfinish := ht.finish
    rw [render_eq, render_eq, hv, walk_singleton_iff_exec.mp hwalk]
    exact congrArg Except.ok hfinish

end StyledMarkdown
