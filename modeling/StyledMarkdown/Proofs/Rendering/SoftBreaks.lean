import StyledMarkdown.Proofs.Rendering.Margins
import StyledMarkdown.Proofs.Rendering.Nesting
import StyledMarkdown.Proofs.Rendering.Prefixes
import StyledMarkdown.Proofs.Style.Kinds
import StyledMarkdown.Proofs.Text.Sketch
import StyledMarkdown.Proofs.Tree.Tour
/-!
# Soft breaks

A soft break is written as a line end or as a space, and the conditional line
ends and tabs look at the last character written. They never see the break
itself if text follows it: on the way there only wrappers are entered and
left, which write nothing. So both ways give one sketch of a text, filled in
twice, with the same marks but for those over the parts of items, which are
parted at their line ends.
-/

namespace StyledMarkdown

open RenderM
open Text (Sketch)

/-! ## Kinds of annotations -/

namespace Annotation

/-- Whether an annotation lays out a part of an item. -/
def isPartLayout (a : Annotation) : Bool :=
  match a.mark with
  | .layout (.leadingMargin ..) | .layout (.tabStop _) | .layout (.paragraphSpacing ..) => true
  | _ => false

/-- Whether an annotation is the span of a soft break. -/
def isSoftBreak (a : Annotation) : Bool := a.span?.any fun span => span.kind = .softBreak

end Annotation

open Annotation (isPartLayout isSoftBreak)

namespace Rendering

/-- The marks so far but for those over the parts of items, in their order. -/
def steadyMarks (s : Rendering) : List Annotation :=
  s.writer.annotations.filter (!·.isPartLayout)

/-- The ranges of the soft breaks so far, in their order. -/
def softBreaks (s : Rendering) : List (Nat × Nat) :=
  (s.steadyMarks.filter isSoftBreak).map fun a => (a.start, a.stop)

end Rendering

section Marks

variable {sheet : StyleSheet} {options : RenderOptions} {node : Node} {parent : Parent}
  {above : List Node} {s t : Rendering}

theorem isPartLayout_partMarks (buffer : Buffer) (extents : List Extent) :
    ∀ a ∈ node.partMarks sheet s buffer extents, a.isPartLayout := by
  cases node with
  | listItem =>
    unfold Node.partMarks
    dsimp only
    obtain ⟨first, _ | second⟩ := itemBoundaries buffer extents s.cursor buffer.size
    · simp [partMarks, isPartLayout]
    · simp [partMarks, isPartLayout]
  | _ => exact fun _ ha => absurd ha List.not_mem_nil

theorem not_isPartLayout_openingMarks : ∀ a ∈ node.openingMarks sheet s, !a.isPartLayout := by
  intro a ha
  unfold isPartLayout
  rcases mark_of_mem_openingMarks ha with ⟨_, _, _, hmark⟩ | ⟨_, hmark⟩
  · rw [hmark]
    rfl
  · rw [hmark]
    rfl

theorem not_isPartLayout_spanMarks (start stop : Nat) :
    ∀ a ∈ node.spanMarks sheet options parent start stop, !a.isPartLayout := by
  intro a ha
  obtain rfl := Node.eq_of_mem_spanMarks ha
  rfl

theorem steadyMarks_opening : (opening sheet options node parent s).steadyMarks =
    s.steadyMarks ++ (node.openingMarks sheet s).reverse := by
  have hall : (node.openingMarks sheet s).reverse.filter (!·.isPartLayout) =
      (node.openingMarks sheet s).reverse :=
    List.filter_eq_self.mpr fun a ha => not_isPartLayout_openingMarks a (List.mem_reverse.mp ha)
  unfold Rendering.steadyMarks
  rw [annotations_opening, List.filter_append, hall]

/-- Of the marks a node gets when it is left only its span is over no part
of an item. -/
theorem steadyMarks_closing :
    (closing sheet options node (parentOf above) s t).steadyMarks = t.steadyMarks ++
      node.spanMarks sheet options (parentOf above) (node.start (parentOf above) s)
        (closing sheet options node (parentOf above) s t).cursor := by
  let v := Visit.mk above node s (closing sheet options node (parentOf above) s t)
  have hparts : (v.partMarks sheet).reverse.filter (!·.isPartLayout) = [] := by
    refine List.filter_eq_nil_iff.mpr fun a ha => ?_
    have hpart : a.isPartLayout := isPartLayout_partMarks _ _ a (List.mem_reverse.mp ha)
    rw [hpart]
    exact Bool.false_ne_true
  have hspan : (node.spanMarks sheet options (parentOf above) v.start v.stop).filter
      (!·.isPartLayout) = node.spanMarks sheet options (parentOf above) v.start v.stop :=
    List.filter_eq_self.mpr (not_isPartLayout_spanMarks v.start v.stop)
  unfold Rendering.steadyMarks
  rw [annotations_closing, List.filter_append, Visit.marks, List.filter_append, hparts,
    List.nil_append]
  exact congrArg (_ ++ ·) hspan

theorem softBreaks_opening :
    (opening sheet options node parent s).softBreaks = s.softBreaks := by
  have hnone : (node.openingMarks sheet s).reverse.filter isSoftBreak = [] := by
    refine List.filter_eq_nil_iff.mpr fun a ha => ?_
    unfold isSoftBreak
    rw [node.span?_openingMarks sheet s a (List.mem_reverse.mp ha)]
    exact Bool.false_ne_true
  unfold Rendering.softBreaks
  rw [steadyMarks_opening, List.filter_append, hnone, List.append_nil]

theorem softBreaks_closing_of_not (h : ¬ node.isSoftBreak) :
    (closing sheet options node (parentOf above) s t).softBreaks = t.softBreaks := by
  have hnone : ∀ start stop,
      (node.spanMarks sheet options (parentOf above) start stop).filter isSoftBreak = [] := by
    intro start stop
    refine List.filter_eq_nil_iff.mpr fun a ha => ?_
    obtain rfl := Node.eq_of_mem_spanMarks ha
    have hkind : (sheet.spanFor node (parentOf above).placement).kind ≠ .softBreak := by
      rw [sheet.kind_spanFor]
      intro hsoft
      exact h (congrArg Node.isSoftBreak (Node.eq_of_spanKind_eq_softBreak hsoft))
    simp [isSoftBreak, Annotation.span?, hkind]
  unfold Rendering.softBreaks
  rw [steadyMarks_closing, List.filter_append, hnone, List.append_nil]

/-- A soft break adds its range. -/
theorem softBreaks_closing_softBreak :
    (closing sheet options .softBreak (parentOf above) s t).softBreaks =
      t.softBreaks ++ [(s.cursor, t.cursor)] := by
  unfold Rendering.softBreaks
  rw [steadyMarks_closing, List.filter_append, List.map_append]
  rfl

end Marks

/-! ## What stands between a break and the text behind it -/

section Turns

variable {options options' : RenderOptions} {node : Node} {parent parent' : Parent}
  {s s' : Rendering} {turns : List Turn}

theorem or_of_textNext_entering (h : textNext (.entering node :: turns)) :
    node.hasInk ∨ node.isWrapper ∧ textNext turns := by
  rw [textNext, Bool.or_eq_true, Bool.and_eq_true] at h
  exact h

/-- What has ink opens with it. -/
theorem opens_of_hasInk (h : node.hasInk) : node.opens options parent s ≠ [] := by
  cases node with
  | text | code | htmlInline =>
    simpa [Node.hasInk, Node.opens, Node.writing, Node.literal?] using h
  | _ => cases h

theorem opens_eq_of_hasInk (h : node.hasInk) :
    node.opens options' parent' s' = node.opens options parent s := by
  cases node with
  | text | code | htmlInline => rfl
  | _ => cases h

theorem opens_of_isWrapper (h : node.isWrapper) : node.opens options parent s = [] := by
  cases node with
  | link | image | emphasis | strong | unsupported => rfl
  | _ => cases h

theorem closes_of_isWrapper (h : node.isWrapper) : node.closes parent s = [] := by
  cases node with
  | link | image | emphasis | strong | unsupported => rfl
  | _ => cases h

/-- What a soft break is written as. -/
theorem opens_softBreak : Node.softBreak.opens options parent s =
    [if options.softBreaksAsHardBreaks then '\n' else ' '] := by
  unfold Node.opens Node.writing
  dsimp only
  split <;> rfl

end Turns

/-! ## Two renderings with different breaks -/

/-- The same options, but for the soft breaks, which are written as spaces. -/
def RenderOptions.spaced (options : RenderOptions) : RenderOptions :=
  { options with softBreaksAsHardBreaks := false }

/-- **Two states that differ at soft breaks only**: one sketch makes both of
their texts, with line ends and with spaces, its open breaks are the soft
breaks, and the marks but for those over the parts of items are the same. -/
structure Rendering.Rebroken (sketch : Sketch) (s s' : Rendering) : Prop where
  text : s.text = Sketch.fill sketch '\n'
  text' : s'.text = Sketch.fill sketch ' '
  softBreaks : s.softBreaks = Sketch.breaks 0 sketch
  steadyMarks : s'.steadyMarks = s.steadyMarks
  lists : s'.lists = s.lists
  extents : s'.extents = s.extents
  depth : s'.depth = s.depth

namespace Rendering.Rebroken

variable {sheet : StyleSheet} {options : RenderOptions} {node : Node} {parent : Parent}
  {above : List Node} {sketch more : Sketch} {s s' t t' : Rendering} {turns : List Turn}

theorem init : Rebroken [] {} {} := ⟨rfl, rfl, rfl, rfl, rfl, rfl, rfl⟩

theorem size_eq (h : Rebroken sketch s s') : s'.writer.buffer.size = s.writer.buffer.size := by
  rw [Buffer.size_toList, Buffer.size_toList]
  have hsize : Text.size s'.text = Text.size s.text := by
    rw [h.text, h.text']
    exact Sketch.size_fill rfl rfl sketch
  exact hsize

theorem cursor (h : Rebroken sketch s s') : s'.cursor = s.cursor := h.size_eq

theorem nextPrefix (h : Rebroken sketch s s') : s'.nextPrefix = s.nextPrefix := by
  unfold Rendering.nextPrefix
  rw [h.lists]

theorem openingMarks (h : Rebroken sketch s s') (sheet : StyleSheet) (node : Node) :
    node.openingMarks sheet s' = node.openingMarks sheet s := by
  cases node with
  | listItem children =>
    simp only [Node.openingMarks, h.cursor, h.nextPrefix, h.lists]
  | _ => rfl

/-- A conditional character is missing from both texts or from none, if
neither ends in a soft break. -/
theorem missing_append (h : Rebroken sketch s s') (cs : List Char)
    (hwaits : ¬ Sketch.Waits (sketch ++ cs.map some)) (c : Char) :
    (s'.writer.buffer.append cs).missing c = (s.writer.buffer.append cs).missing c := by
  have htext : (s.writer.buffer.append cs).toList =
      Sketch.fill (sketch ++ cs.map some) '\n' := by
    rw [Buffer.toList_append, Sketch.fill_append_map_some, ← h.text]
    rfl
  have htext' : (s'.writer.buffer.append cs).toList =
      Sketch.fill (sketch ++ cs.map some) ' ' := by
    rw [Buffer.toList_append, Sketch.fill_append_map_some, ← h.text']
    rfl
  unfold Buffer.missing
  rw [Buffer.last?_eq, Buffer.last?_eq, htext, htext', Sketch.getLast?_fill hwaits]

/-- **A node opens alike in both**, and if they still end in a soft break
then, text is next. -/
theorem opens (h : Rebroken sketch s s') (options : RenderOptions) (parent : Parent)
    (hsoft : ¬ node.isSoftBreak)
    (hnext : Sketch.Waits sketch → textNext (.entering node :: turns)) :
    node.opens options.spaced parent s' = node.opens options parent s ∧
      (Sketch.Waits (sketch ++ (node.opens options parent s).map some) → textNext turns) := by
  by_cases hwaits : Sketch.Waits sketch
  · -- what comes right behind the break is text, or a wrapper before text
    rcases or_of_textNext_entering (hnext hwaits) with hink | ⟨hwrapper, hlater⟩
    · have hopens : node.opens options parent s ≠ [] := opens_of_hasInk hink
      refine ⟨opens_eq_of_hasInk hink, fun hstill => ?_⟩
      exact absurd (Sketch.waits_append_map_some.mp hstill).1 hopens
    · rw [opens_of_isWrapper hwrapper, opens_of_isWrapper hwrapper]
      exact ⟨rfl, fun _ => hlater⟩
  · refine ⟨?_, fun hstill => absurd (Sketch.waits_append_map_some.mp hstill).2 hwaits⟩
    cases node with
    | softBreak => exact absurd rfl hsoft
    | orderedList | bulletList =>
      unfold Node.opens
      rw [h.lists]
    | listItem children =>
      unfold Node.opens
      have hprefix : ¬ Sketch.Waits (sketch ++ s.nextPrefix.map some) := fun hstill =>
        hwaits (Sketch.waits_append_map_some.mp hstill).2
      rw [h.nextPrefix, h.missing_append _ hprefix]
    | _ => rfl

/-- **A node closes alike in both**, and if they still end in a soft break
then, text is next. -/
theorem closes (h : Rebroken sketch t t') (parent : Parent)
    (hnext : Sketch.Waits sketch → textNext (.leaving node :: turns)) :
    node.closes parent t' = node.closes parent t ∧
      (Sketch.Waits (sketch ++ (node.closes parent t).map some) → textNext turns) := by
  by_cases hwaits : Sketch.Waits sketch
  · obtain ⟨hwrapper, hlater⟩ := Bool.and_eq_true_iff.mp (hnext hwaits)
    rw [closes_of_isWrapper hwrapper, closes_of_isWrapper hwrapper]
    exact ⟨rfl, fun _ => hlater⟩
  · refine ⟨?_, fun hstill => absurd (Sketch.waits_append_map_some.mp hstill).2 hwaits⟩
    have hmissing := h.missing_append [] (by rwa [List.map_nil, List.append_nil]) '\n'
    rw [Buffer.append_nil, Buffer.append_nil] at hmissing
    unfold Node.closes
    rw [hmissing]

/-- The marks, the lists and the depth are the same below a node. -/
theorem opening (h : Rebroken sketch s s')
    (hopens : node.opens options.spaced parent s' = node.opens options parent s) :
    Rebroken (sketch ++ (node.opens options parent s).map some)
      (opening sheet options node parent s)
      (StyledMarkdown.opening sheet options.spaced node parent s') where
  text := by rw [text_opening, h.text, Sketch.fill_append_map_some]
  text' := by rw [text_opening, hopens, h.text', Sketch.fill_append_map_some]
  softBreaks := by
    rw [softBreaks_opening, h.softBreaks, Sketch.breaks_append_map_some]
  steadyMarks := by
    rw [steadyMarks_opening, steadyMarks_opening, h.steadyMarks, h.openingMarks]
  lists := congrArg node.enter h.lists
  extents := h.extents
  depth := congrArg (· + 1) h.depth

theorem spanMarks (h : Rebroken sketch s s') (stop : Nat) :
    node.spanMarks sheet options.spaced parent (node.start parent s') stop =
      node.spanMarks sheet options parent (node.start parent s) stop := by
  unfold Node.start
  rw [h.cursor]
  cases node <;> rfl

/-- **A node is left alike in both**, if it closes alike and is no soft
break. -/
theorem closing (hs : Rebroken sketch s s') (ht : Rebroken more t t')
    (hsoft : ¬ node.isSoftBreak)
    (hcloses : node.closes (parentOf above) t' = node.closes (parentOf above) t) :
    Rebroken (more ++ (node.closes (parentOf above) t).map some)
      (closing sheet options node (parentOf above) s t)
      (StyledMarkdown.closing sheet options.spaced node (parentOf above) s' t') := by
  have hstart : node.start (parentOf above) s' = node.start (parentOf above) s := by
    unfold Node.start
    rw [hs.cursor]
  have hsize : (node.closed (parentOf above) t').size = (node.closed (parentOf above) t).size := by
    change t'.writer.buffer.size + Text.size (node.closes (parentOf above) t') =
      t.writer.buffer.size + Text.size (node.closes (parentOf above) t)
    rw [hcloses, ht.size_eq]
  refine ⟨?_, ?_, ?_, ?_, ?_, ?_, hs.depth⟩
  · rw [text_closing, ht.text, Sketch.fill_append_map_some]
  · rw [text_closing, hcloses, ht.text', Sketch.fill_append_map_some]
  · rw [softBreaks_closing_of_not hsoft, ht.softBreaks, Sketch.breaks_append_map_some]
  · have hcursor :
        (StyledMarkdown.closing sheet options.spaced node (parentOf above) s' t').cursor =
          (StyledMarkdown.closing sheet options node (parentOf above) s t).cursor := hsize
    rw [steadyMarks_closing, steadyMarks_closing, ht.steadyMarks, hcursor, hs.spanMarks]
  · unfold StyledMarkdown.closing
    rw [ht.lists]
  · unfold StyledMarkdown.closing
    rw [ht.extents, hstart, hsize]

/-- **A soft break is left with one more open break.** -/
theorem closing_softBreak (h : Rebroken sketch s s') (hlines : options.softBreaksAsHardBreaks) :
    Rebroken (sketch ++ [none])
      (StyledMarkdown.closing sheet options .softBreak (parentOf above) s
        (StyledMarkdown.opening sheet options .softBreak (parentOf above) s))
      (StyledMarkdown.closing sheet options.spaced .softBreak (parentOf above) s'
        (StyledMarkdown.opening sheet options.spaced .softBreak (parentOf above) s')) := by
  have hopens : Node.softBreak.opens options (parentOf above) s = ['\n'] := by
    rw [opens_softBreak, if_pos hlines]
  have hopens' : Node.softBreak.opens options.spaced (parentOf above) s' = [' '] := opens_softBreak
  have hcloses (t : Rendering) : Node.softBreak.closes (parentOf above) t = [] := rfl
  have hcursor : (StyledMarkdown.opening sheet options .softBreak (parentOf above) s).cursor =
      s.cursor + 1 := by
    rw [Rendering.cursor_eq_size, Rendering.cursor_eq_size, text_opening, Text.size_append, hopens]
    rfl
  have hcursor' : (StyledMarkdown.opening sheet options.spaced .softBreak (parentOf above)
      s').cursor = s.cursor + 1 := by
    rw [← h.cursor, Rendering.cursor_eq_size, Rendering.cursor_eq_size, text_opening,
      Text.size_append, hopens']
    rfl
  have hstart : s.cursor = 0 + Text.size (Sketch.fill sketch '\n') := by
    rw [Rendering.cursor_eq_size, h.text, Nat.zero_add]
  refine ⟨?_, ?_, ?_, ?_, h.lists, h.extents, h.depth⟩
  · rw [text_closing, text_opening, hcloses, hopens, h.text, Sketch.fill_append, List.append_nil]
    rfl
  · rw [text_closing, text_opening, hcloses, hopens', h.text', Sketch.fill_append, List.append_nil]
    rfl
  · rw [softBreaks_closing_softBreak, softBreaks_opening, h.softBreaks,
      Sketch.breaks_append (c := '\n') rfl, hcursor, hstart]
    rfl
  · have hstop : (StyledMarkdown.closing sheet options.spaced .softBreak (parentOf above) s'
        (StyledMarkdown.opening sheet options.spaced .softBreak (parentOf above) s')).cursor =
        (StyledMarkdown.closing sheet options .softBreak (parentOf above) s
          (StyledMarkdown.opening sheet options .softBreak (parentOf above) s)).cursor :=
      hcursor'.trans hcursor.symm
    rw [steadyMarks_closing, steadyMarks_closing, steadyMarks_opening, steadyMarks_opening,
      h.steadyMarks, h.spanMarks, hstop]
    rfl

end Rendering.Rebroken

open Rendering (Rebroken)

section Walks

variable {sheet : StyleSheet} {options : RenderOptions} {nodes above : List Node}
  {sketch : Sketch} {s s' t t' : Rendering} {turns : List Turn}

/-- **A walk with line ends for its soft breaks is one with spaces.** Behind
the nodes walked come other turns. If text is next wherever a soft break has
been left, the two walks go through states that differ at soft breaks only. -/
theorem Walk.rebroken (h : Walk sheet options nodes (parentOf above) s t)
    (hlines : options.softBreaksAsHardBreaks) (hs : Rebroken sketch s s')
    (hbehind : textBehindBreaks (nodes.flatMap Node.tour ++ turns))
    (hnext : Sketch.Waits sketch → textNext (nodes.flatMap Node.tour ++ turns)) :
    ∃ sketch' t', Walk sheet options.spaced nodes (parentOf above) s' t' ∧
      Rebroken sketch' t t' ∧ (Sketch.Waits sketch' → textNext turns) := by
  induction h using Walk.inductionAbove generalizing s' sketch turns with
  | nil => exact ⟨sketch, s', .nil _ _, hs, hnext⟩
  | cons node rest above s t u hdepth below after ihbelow ihafter =>
    have hturns : (node :: rest).flatMap Node.tour ++ turns =
        .entering node :: (node.children.flatMap Node.tour ++
          (.leaving node :: (rest.flatMap Node.tour ++ turns))) := by
      rw [List.flatMap_cons, Node.tour_eq]
      simp only [List.cons_append, List.append_assoc, List.nil_append]
    rw [hturns] at hbehind hnext
    have hbelow : textBehindBreaks (node.children.flatMap Node.tour ++
        (.leaving node :: (rest.flatMap Node.tour ++ turns))) := hbehind
    have hleft : textBehindBreaks (.leaving node :: (rest.flatMap Node.tour ++ turns)) :=
      textBehindBreaks_of_append hbelow
    obtain ⟨hown, hrest⟩ := Bool.and_eq_true_iff.mp hleft
    have hroom : s'.depth < options.spaced.maxDepth := by
      rw [hs.depth]
      exact hdepth
    by_cases hsoft : node.isSoftBreak
    · -- the text of a break and its span come about in two steps, taken here as one
      obtain rfl := Node.eq_of_isSoftBreak hsoft
      cases below
      obtain ⟨sketch', u', hafter, hu, hlater⟩ :=
        ihafter (hs.closing_softBreak hlines) hrest fun _ => hown
      exact ⟨sketch', u', .cons hroom (.nil _ _) hafter, hu, hlater⟩
    · obtain ⟨hopens, hinside⟩ := hs.opens options (parentOf above) hsoft hnext
      obtain ⟨more, t', hbelow', ht, hend⟩ := ihbelow (hs.opening hopens) hbelow hinside
      obtain ⟨hcloses, houtside⟩ := ht.closes (parentOf above) hend
      obtain ⟨sketch', u', hafter, hu, hlater⟩ :=
        ihafter (hs.closing ht hsoft hcloses) hrest houtside
      exact ⟨sketch', u', .cons hroom hbelow' hafter, hu, hlater⟩

end Walks

/-! ## Renderings -/

/-- The byte of the text at an offset. -/
def Rendered.byte? (r : Rendered) (offset : Nat) : Option UInt8 := r.text.toUTF8.data[offset]?

/-- Whether the byte at an offset is under the span of a soft break. -/
def Rendered.IsUnderSoftBreak (r : Rendered) (offset : Nat) : Prop :=
  ∃ a ∈ r.annotations, a.isSoftBreak ∧ a.Contains offset

section Finished

variable {sketch : Sketch} {t t' : Rendering} {offset : Nat}

theorem Rendering.Rebroken.leadingSize (h : Rebroken sketch t t') :
    t'.writer.leadingSize = t.writer.leadingSize := by
  have htext : t.writer.buffer.toList = Sketch.fill sketch '\n' := h.text
  have htext' : t'.writer.buffer.toList = Sketch.fill sketch ' ' := h.text'
  unfold Writer.leadingSize
  rw [htext, htext', Sketch.trimStart_fill rfl, Sketch.trimStart_fill rfl,
    Sketch.size_fill (c := ' ') (d := '\n') rfl rfl,
    Sketch.size_fill (c := ' ') (d := '\n') rfl rfl]

theorem Rendering.Rebroken.size_finish (h : Rebroken sketch t t') :
    Text.size t'.writer.finish.text.toList = Text.size t.writer.finish.text.toList := by
  have htext : t.writer.buffer.toList = Sketch.fill sketch '\n' := h.text
  have htext' : t'.writer.buffer.toList = Sketch.fill sketch ' ' := h.text'
  rw [Writer.text_finish, Writer.text_finish, htext, htext', Sketch.trim_fill rfl,
    Sketch.trim_fill rfl]
  exact Sketch.size_fill rfl rfl _

/-- **Trimming keeps the same marks of two renderings** but for those over
the parts of items. -/
theorem Rendering.Rebroken.steady_finish (h : Rebroken sketch t t') :
    t'.writer.finish.annotations.filter (!·.isPartLayout) =
      t.writer.finish.annotations.filter (!·.isPartLayout) := by
  have hmark : ∀ leading length (a : Annotation),
      (!(a.onto leading length).isPartLayout) = !a.isPartLayout := fun _ _ _ => rfl
  have hsteady := h.steadyMarks
  unfold Rendering.steadyMarks at hsteady
  rw [Writer.filter_annotations_finish hmark, Writer.filter_annotations_finish hmark, hsteady,
    h.leadingSize, h.size_finish]

theorem not_isPartLayout_of_isSoftBreak {a : Annotation} (h : a.isSoftBreak) :
    !a.isPartLayout := by
  obtain ⟨_ | _, start, stop⟩ := a
  · rfl
  · cases h

/-- A byte that is kept is under a soft break if it was before. -/
theorem isUnderSoftBreak_iff (h : offset < Text.size t.writer.finish.text.toList) :
    t.writer.finish.IsUnderSoftBreak offset ↔ ∃ range ∈ t.softBreaks,
      range.1 ≤ t.writer.leadingSize + offset ∧ t.writer.leadingSize + offset < range.2 := by
  unfold Rendered.IsUnderSoftBreak Rendering.softBreaks Rendering.steadyMarks
  rw [Writer.annotations_finish]
  constructor
  · rintro ⟨a, ha, hsoft, hcontains⟩
    obtain ⟨whole, hwhole, hrebase⟩ := List.mem_filterMap.mp ha
    obtain rfl := Writer.eq_of_rebase?_eq_some hrebase
    obtain ⟨hstart, hstop⟩ := Annotation.contains_of_contains_onto hcontains
    have hsteady : !whole.isPartLayout := not_isPartLayout_of_isSoftBreak hsoft
    refine ⟨(whole.start, whole.stop), List.mem_map_of_mem ?_, by omega, by omega⟩
    exact List.mem_filter.mpr ⟨List.mem_filter.mpr ⟨hwhole, hsteady⟩, hsoft⟩
  · rintro ⟨range, hrange, hstart, hstop⟩
    obtain ⟨a, ha, rfl⟩ := List.mem_map.mp hrange
    obtain ⟨hsteady, hsoft⟩ := List.mem_filter.mp ha
    dsimp only at hstart hstop
    have hkept : a.Kept t.writer.leadingSize (Text.size t.writer.finish.text.toList) :=
      .inl ⟨_, ⟨hstart, hstop⟩, Nat.le_add_right _ _, Nat.add_lt_add_left h _⟩
    have hrebase : Writer.rebase? t.writer.leadingSize (Text.size t.writer.finish.text.toList) a =
        some (a.onto t.writer.leadingSize (Text.size t.writer.finish.text.toList)) := by
      rw [Writer.rebase?_eq (by omega), if_pos hkept]
    refine ⟨_, List.mem_filterMap.mpr ⟨a, (List.mem_filter.mp hsteady).1, hrebase⟩, hsoft, ?_⟩
    unfold Annotation.Contains Annotation.onto
    dsimp only
    omega

theorem not_isUnderSoftBreak_of_le (h : Text.size t.writer.finish.text.toList ≤ offset) :
    ¬ t.writer.finish.IsUnderSoftBreak offset := by
  rintro ⟨a, ha, -, -, hstop⟩
  rw [Writer.annotations_finish] at ha
  obtain ⟨whole, -, hrebase⟩ := List.mem_filterMap.mp ha
  obtain rfl := Writer.eq_of_rebase?_eq_some hrebase
  dsimp only at hstop
  omega

theorem byte?_finish (w : Writer) (offset : Nat) :
    w.finish.byte? offset = (Text.bytes (Text.trim w.buffer.toList))[offset]? := by
  rw [← Writer.text_finish]
  exact Text.getElem?_data_toUTF8 _ _

/-- **The texts differ at the soft breaks and nowhere else.** -/
theorem Rendering.Rebroken.byte?_finish (h : Rebroken sketch t t') (offset : Nat) :
    (t.writer.finish.IsUnderSoftBreak offset →
      t.writer.finish.byte? offset = some '\n'.val.toUInt8 ∧
        t'.writer.finish.byte? offset = some ' '.val.toUInt8) ∧
    (¬ t.writer.finish.IsUnderSoftBreak offset →
      t'.writer.finish.byte? offset = t.writer.finish.byte? offset) := by
  have hsize := h.size_finish
  rw [StyledMarkdown.byte?_finish, StyledMarkdown.byte?_finish]
  rw [Writer.text_finish, Writer.text_finish] at hsize
  rcases Nat.lt_or_ge offset (Text.size (Text.trim t.writer.buffer.toList)) with hlt | hge
  · rw [isUnderSoftBreak_iff (by rwa [Writer.text_finish]), h.softBreaks]
    have hlt' : offset < Text.size (Text.trim t'.writer.buffer.toList) := by rwa [hsize]
    have hleading : Text.size t'.writer.buffer.toList -
        Text.size (Text.trimStart t'.writer.buffer.toList) = t.writer.leadingSize := h.leadingSize
    have hwhole : t.writer.buffer.toList = Sketch.fill sketch '\n' := h.text
    have hwhole' : t'.writer.buffer.toList = Sketch.fill sketch ' ' := h.text'
    have hfits : t.writer.leadingSize + offset < Text.size (Sketch.fill sketch '\n') := by
      have hle := t.writer.leadingSize_add_le
      rw [Writer.text_finish, Writer.cursor, Buffer.size_toList, hwhole] at hle
      rw [hwhole] at hlt
      omega
    rw [Text.getElem?_bytes_trim hlt, Text.getElem?_bytes_trim hlt', hleading, hwhole, hwhole']
    have hbytes := Sketch.getElem?_bytes_fill 0 (c := '\n') (d := ' ') rfl rfl hfits
    rw [Nat.zero_add] at hbytes
    rw [← hwhole] at hbytes ⊢
    rcases hbytes with ⟨hunder, hbytes⟩ | ⟨hnone, hsame⟩
    · exact ⟨fun _ => hbytes, fun hnot => absurd hunder hnot⟩
    · refine ⟨?_, fun _ => hsame.symm⟩
      rintro ⟨range, hmem, hrange⟩
      exact absurd hrange (hnone range hmem)
  · have hnone : ¬ t.writer.finish.IsUnderSoftBreak offset :=
      not_isUnderSoftBreak_of_le (by rwa [Writer.text_finish])
    refine ⟨fun hunder => absurd hunder hnone, fun _ => ?_⟩
    rw [List.getElem?_eq_none (by rwa [Text.length_bytes, hsize]),
      List.getElem?_eq_none (by rwa [Text.length_bytes])]

/-- The kinds of annotations that are over no part of an item are the same
in two renderings that differ at most in the others. -/
theorem filter_annotations_eq {r r' : Rendered} {p : Annotation → Bool}
    (h : r'.annotations.filter (!·.isPartLayout) = r.annotations.filter (!·.isPartLayout))
    (hp : ∀ a, p a → !a.isPartLayout) : r'.annotations.filter p = r.annotations.filter p := by
  have hfilter : ∀ annotations : List Annotation,
      (annotations.filter (!·.isPartLayout)).filter p = annotations.filter p := by
    intro annotations
    rw [List.filter_filter]
    refine List.filter_congr fun a _ => ?_
    cases hkind : p a with
    | false => rfl
    | true => exact hp a hkind
  rw [← hfilter, h, hfilter]

end Finished

/-- **How soft breaks are written tells for nothing else.** Where text follows
every soft break of a tree, the tree can be rendered with spaces if it can be
rendered with line ends, to a text of as many bytes: a line end stands for a
space at the bytes under the soft breaks, and the other bytes are the same.
So are the spans with their ranges, the marks over prefixes and all other
annotations but the layout of the parts of items. -/
theorem render_soft_breaks {sheet : StyleSheet} {options : RenderOptions} {root : Node}
    {r : Rendered} (hbreaks : root.breaksGoOn)
    (h : render sheet { options with softBreaksAsHardBreaks := true } root = .ok r) :
    ∃ r', render sheet { options with softBreaksAsHardBreaks := false } root = .ok r' ∧
      r'.text.utf8ByteSize = r.text.utf8ByteSize ∧
      (∀ offset, r.IsUnderSoftBreak offset →
        r.byte? offset = some '\n'.val.toUInt8 ∧ r'.byte? offset = some ' '.val.toUInt8) ∧
      (∀ offset, ¬ r.IsUnderSoftBreak offset → r'.byte? offset = r.byte? offset) ∧
      r'.spans = r.spans ∧
      r'.annotations.filter Annotation.isListPrefix =
        r.annotations.filter Annotation.isListPrefix ∧
      r'.annotations.filter (!·.isPartLayout) = r.annotations.filter (!·.isPartLayout) := by
  obtain ⟨t, hroot, rfl⟩ := render_eq_ok_iff.mp h
  have hw : Walk sheet { options with softBreaksAsHardBreaks := true } [root] (parentOf []) {} t :=
    hroot
  have hbehind : textBehindBreaks ([root].flatMap Node.tour ++ []) := by
    rw [List.flatMap_singleton, List.append_nil]
    exact hbreaks
  obtain ⟨sketch, t', hw', ht, -⟩ := hw.rebroken rfl .init hbehind nofun
  have hsteady := ht.steady_finish
  have hspans : t'.writer.finish.annotations.filter Annotation.isSpan =
      t.writer.finish.annotations.filter Annotation.isSpan := by
    refine filter_annotations_eq hsteady fun a ha => ?_
    obtain ⟨_ | _, start, stop⟩ := a
    · rfl
    · cases ha
  have hprefixes : t'.writer.finish.annotations.filter Annotation.isListPrefix =
      t.writer.finish.annotations.filter Annotation.isListPrefix := by
    refine filter_annotations_eq hsteady fun a ha => ?_
    unfold Annotation.isListPrefix at ha
    unfold isPartLayout
    split at ha
    · rename_i hmark
      rw [hmark]
      rfl
    · cases ha
  refine ⟨t'.writer.finish, render_eq_ok_iff.mpr ⟨t', hw', rfl⟩, ?_,
    fun offset => (ht.byte?_finish offset).1, fun offset => (ht.byte?_finish offset).2, ?_,
    hprefixes, hsteady⟩
  · rw [Text.utf8ByteSize_eq, Text.utf8ByteSize_eq, ht.size_finish]
  · rw [Rendered.spans_eq, Rendered.spans_eq, hspans]

/-- An item with two soft breaks, the first at the end of an emphasis and
with a link behind it. The bytes differ at these, and the spans do not; with
line ends the item has two parts, and so one margin more. -/
theorem breaks_in_item_rebroken :
    let root := Node.document [.bulletList '-' [.listItem [.paragraph
      [.emphasis [.text "é", .softBreak], .link "u" none [.code "b"], .softBreak, .text "c"]]]]
    root.breaksGoOn ∧ ∃ r r', render {} { softBreaksAsHardBreaks := true } root = .ok r ∧
      render {} { softBreaksAsHardBreaks := false } root = .ok r' ∧
      r.text = "•\té\nb\nc" ∧ r'.text = "•\té b c" ∧ r'.spans = r.spans ∧
      r.spanTexts? "SoftLineBreak" = some ["\n", "\n"] ∧
      r'.spanTexts? "SoftLineBreak" = some [" ", " "] ∧
      r'.annotations.length + 1 = r.annotations.length := by
  intro root
  have hanswers : (render {} { softBreaksAsHardBreaks := true } root).toOption.map (fun r =>
      (r.text, r.spanTexts? "SoftLineBreak", r.annotations.length)) =
        some ("•\té\nb\nc", some ["\n", "\n"], 16) := by decide +kernel
  have hanswers' : (render {} { softBreaksAsHardBreaks := false } root).toOption.map (fun r =>
      (r.text, r.spanTexts? "SoftLineBreak", r.annotations.length)) =
        some ("•\té b c", some [" ", " "], 15) := by decide +kernel
  obtain ⟨r, hr⟩ := exists_render_eq_ok {} { softBreaksAsHardBreaks := true } root (by decide)
  rw [hr] at hanswers
  obtain ⟨htext, hrest⟩ := Prod.mk.inj (Option.some.inj hanswers)
  obtain ⟨hbreaks, hlength⟩ := Prod.mk.inj hrest
  have hbehind : root.breaksGoOn := by decide
  obtain ⟨r', hr', -, -, -, hspans, -⟩ := @render_soft_breaks {} {} root r hbehind hr
  rw [hr'] at hanswers'
  obtain ⟨htext', hrest'⟩ := Prod.mk.inj (Option.some.inj hanswers')
  obtain ⟨hbreaks', hlength'⟩ := Prod.mk.inj hrest'
  exact ⟨hbehind, r, r', hr, hr', htext, htext', hspans, hbreaks, hbreaks',
    by rw [hlength, hlength']⟩

end StyledMarkdown
