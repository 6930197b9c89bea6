import StyledMarkdown.Proofs.Markup.Items
import StyledMarkdown.Proofs.Rendering.Depth
import StyledMarkdown.Proofs.Rendering.Ranges
/-!
# Questions about a rendering

Every question that quotes the text of a rendering has an answer, because
the ranges it asks for fit the text.
-/

namespace StyledMarkdown

open Text (IsBoundary)

namespace Rendered

variable {r : Rendered} {a : Annotation}

/-! ## Spans -/

theorem mem_spans_iff {span : GroupSpan} {start stop : Nat} : (span, start, stop) ∈ r.spans ↔
    ∃ a ∈ r.annotations, a.span? = some span ∧ a.start = start ∧ a.stop = stop := by
  unfold spans
  rw [List.mem_filterMap]
  constructor
  · rintro ⟨a, ha, h⟩
    obtain ⟨s, hs, heq⟩ := Option.map_eq_some_iff.mp h
    obtain ⟨rfl, rfl, rfl⟩ : s = span ∧ a.start = start ∧ a.stop = stop := by simpa using heq
    exact ⟨a, ha, hs, rfl, rfl⟩
  · rintro ⟨a, ha, hs, rfl, rfl⟩
    exact ⟨a, ha, by rw [hs]; rfl⟩

theorem slice?_isSome (h : a.Fits r.text.toList) : (r.slice? a.start a.stop).isSome := by
  unfold slice?
  rw [Option.isSome_map]
  exact h.slice?_isSome

/-- **The spans of a rendering can be read**, when their ranges fit. -/
theorem slice?_isSome_of_mem_spans
    (h : ∀ a ∈ r.annotations, a.span?.isSome → a.Fits r.text.toList)
    {span : GroupSpan × Nat × Nat} (hs : span ∈ r.spans) :
    (r.slice? span.2.1 span.2.2).isSome := by
  obtain ⟨span, start, stop⟩ := span
  obtain ⟨a, ha, hspan, rfl, rfl⟩ := mem_spans_iff.mp hs
  exact slice?_isSome (h a ha (by rw [hspan]; rfl))

/-! ## Answers -/

theorem isSome_mapM {α β : Type} {f : α → Option β} {items : List α}
    (h : ∀ item ∈ items, (f item).isSome) : (items.mapM f).isSome := by
  induction items with
  | nil => rfl
  | cons item rest ih =>
    obtain ⟨hitem, hrest⟩ := List.forall_mem_cons.mp h
    obtain ⟨b, hb⟩ := Option.isSome_iff_exists.mp hitem
    obtain ⟨bs, hbs⟩ := Option.isSome_iff_exists.mp (ih hrest)
    rw [List.mapM_cons, hb, hbs]
    rfl

/-- One span is tighter than another over less text, or over as much by
priority. -/
theorem tighter_iff {s t : GroupSpan × Nat × Nat} : tighter s t ↔
    s.2.2 - s.2.1 < t.2.2 - t.2.1 ∨
      s.2.2 - s.2.1 = t.2.2 - t.2.1 ∧ s.1.priority.rank < t.1.priority.rank := by
  obtain ⟨s, start, stop⟩ := s
  obtain ⟨t, start', stop'⟩ := t
  simp [tighter]

/-- **The first of the tightest spans**: it is tighter than each span before
it, and no span behind it is tighter. -/
structure FirstTightest (before : List (GroupSpan × Nat × Nat)) (span : GroupSpan × Nat × Nat)
    (behind : List (GroupSpan × Nat × Nat)) : Prop where
  before : ∀ t ∈ before, tighter span t
  behind : ∀ t ∈ behind, ¬ tighter t span

theorem exists_foldl_tighter (best : GroupSpan × Nat × Nat)
    (spans : List (GroupSpan × Nat × Nat)) :
    ∃ before span behind, best :: spans = before ++ span :: behind ∧
      spans.foldl (fun best t => if tighter t best then t else best) best = span ∧
      FirstTightest before span behind := by
  induction spans generalizing best with
  | nil => exact ⟨[], best, [], rfl, rfl, List.forall_mem_nil _, List.forall_mem_nil _⟩
  | cons t rest ih =>
    rw [List.foldl_cons]
    by_cases htight : tighter t best
    · -- the span read is the best so far, and the best of all is no less tight
      rw [if_pos htight]
      obtain ⟨before, span, behind, hsplit, hfold, hfirst⟩ := ih t
      have hbest : tighter span best := by
        rcases List.cons_eq_append_iff.mp hsplit with ⟨-, hspan⟩ | ⟨before', hbefore, -⟩
        · obtain ⟨rfl, -⟩ := List.cons.inj hspan
          exact htight
        · have ht : tighter span t := hfirst.before t (by simp [hbefore])
          rw [tighter_iff] at ht htight ⊢
          omega
      refine ⟨best :: before, span, behind, by rw [hsplit]; rfl, hfold, ?_, hfirst.behind⟩
      exact List.forall_mem_cons.mpr ⟨hbest, hfirst.before⟩
    · rw [if_neg htight]
      obtain ⟨before, span, behind, hsplit, hfold, hfirst⟩ := ih best
      rcases List.cons_eq_append_iff.mp hsplit with ⟨rfl, hspan⟩ | ⟨before', rfl, rfl⟩
      · -- the best so far stays the best
        obtain ⟨rfl, rfl⟩ := List.cons.inj hspan
        refine ⟨[], span, t :: behind, rfl, hfold, List.forall_mem_nil _, ?_⟩
        exact List.forall_mem_cons.mpr ⟨htight, hfirst.behind⟩
      · -- a span behind is tighter than the best so far, and so than the span read
        obtain ⟨hbest, hbefore⟩ := List.forall_mem_cons.mp hfirst.before
        have ht : tighter span t := by
          rw [tighter_iff] at hbest htight ⊢
          omega
        refine ⟨best :: t :: before', span, behind, rfl, hfold, ?_, hfirst.behind⟩
        exact List.forall_mem_cons.mpr ⟨hbest, List.forall_mem_cons.mpr ⟨ht, hbefore⟩⟩

/-- **The tightest of some spans is the first of the tightest.** -/
theorem exists_tightest? {spans : List (GroupSpan × Nat × Nat)} (h : spans ≠ []) :
    ∃ before span behind, spans = before ++ span :: behind ∧ tightest? spans = some span ∧
      FirstTightest before span behind := by
  cases spans with
  | nil => exact absurd rfl h
  | cons best rest =>
    obtain ⟨before, span, behind, hsplit, hfold, hfirst⟩ := exists_foldl_tighter best rest
    exact ⟨before, span, behind, hsplit, congrArg some hfold, hfirst⟩

/-- The spans that cover an offset. -/
def covering (r : Rendered) (offset : Nat) : List (GroupSpan × Nat × Nat) :=
  r.spans.filter fun (_, start, stop) => start ≤ offset && offset < stop

theorem mem_covering_iff {offset : Nat} {span : GroupSpan × Nat × Nat} :
    span ∈ r.covering offset ↔ span ∈ r.spans ∧ span.2.1 ≤ offset ∧ offset < span.2.2 := by
  unfold covering
  rw [List.mem_filter, Bool.and_eq_true, decide_eq_true_eq, decide_eq_true_eq]

/-- The node at an offset is read off the tightest span that covers it. -/
theorem nodeAt?_eq (r : Rendered) (offset : Nat) : r.nodeAt? offset =
    (tightest? (r.covering offset)).bind fun span =>
      (r.slice? span.2.1 span.2.2).bind fun literal => some (span.1.toNode (some literal)) := rfl

/-- **A node stands at every offset that a span covers**, and only there. -/
theorem nodeAt?_isSome_iff (h : ∀ span ∈ r.spans, (r.slice? span.2.1 span.2.2).isSome)
    (offset : Nat) : (r.nodeAt? offset).isSome ↔
      ∃ span ∈ r.spans, span.2.1 ≤ offset ∧ offset < span.2.2 := by
  rw [nodeAt?_eq]
  by_cases hc : r.covering offset = []
  · rw [hc]
    refine ⟨nofun, fun ⟨span, hs⟩ => ?_⟩
    have hmem := mem_covering_iff.mpr hs
    rw [hc] at hmem
    cases hmem
  · obtain ⟨before, span, behind, hsplit, htightest, -⟩ := exists_tightest? hc
    obtain ⟨hmem, hcovers⟩ := mem_covering_iff.mp (show span ∈ r.covering offset by simp [hsplit])
    obtain ⟨literal, hliteral⟩ := Option.isSome_iff_exists.mp (h span hmem)
    rw [htightest, Option.bind_some, hliteral]
    exact ⟨fun _ => ⟨span, hmem, hcovers⟩, fun _ => rfl⟩

/-- The texts under the spans of a kind can all be read. -/
theorem spanTexts?_isSome (h : ∀ span ∈ r.spans, (r.slice? span.2.1 span.2.2).isSome)
    (kind : String) : (r.spanTexts? kind).isSome :=
  isSome_mapM fun span hs => h span (List.mem_filter.mp hs).1

end Rendered

/-! ## Renderings -/

/-- **No question about a rendering cuts a character.** The spans of a
rendering lie in its text between characters, so the texts under them can
be read and a node found at every offset that one of them covers. When
every item stands in a list, as in a tree built from events that open items
inside lists only, so do the other annotations. -/
theorem render_ranges_fit {sheet : StyleSheet} {options : RenderOptions} {node : Node}
    {r : Rendered} (h : render sheet options node = .ok r) :
    (∀ a ∈ r.annotations, a.span?.isSome →
      a.start ≤ a.stop ∧ a.stop ≤ Text.size r.text.toList ∧
        IsBoundary r.text.toList a.start ∧ IsBoundary r.text.toList a.stop) ∧
    (∀ kind, (r.spanTexts? kind).isSome) ∧
    (∀ offset, (r.nodeAt? offset).isSome ↔
      ∃ span ∈ r.spans, span.2.1 ≤ offset ∧ offset < span.2.2) ∧
    (node.itemsInLists → ∀ a ∈ r.annotations,
      a.start ≤ a.stop ∧ a.stop ≤ Text.size r.text.toList ∧
        IsBoundary r.text.toList a.start ∧ IsBoundary r.text.toList a.stop ∧
        (r.textAt? a).isSome) ∧
    (∀ events limit, Listed [] events → (Node.ofEvents events limit).itemsInLists) := by
  have hfits := fits_of_render_eq_ok h
  have hspans : ∀ a ∈ r.annotations, a.span?.isSome → a.Fits r.text.toList :=
    fun a ha hs => hfits a ha (.inl hs)
  have hread : ∀ span ∈ r.spans, (r.slice? span.2.1 span.2.2).isSome :=
    fun _ => Rendered.slice?_isSome_of_mem_spans hspans
  refine ⟨fun a ha hs => ?_, Rendered.spanTexts?_isSome hread, Rendered.nodeAt?_isSome_iff hread,
    fun hitems a ha => ?_, fun _ limit hl => ofEvents_itemsInLists hl limit⟩
  · have hfit := hspans a ha hs
    exact ⟨hfit.ordered, hfit.stop_le, hfit.start, hfit.stop⟩
  · have hfit := hfits a ha (.inr hitems)
    exact ⟨hfit.ordered, hfit.stop_le, hfit.start, hfit.stop, Rendered.slice?_isSome hfit⟩

/-- A list in an item, with characters of more than a byte in both: the
parts of the outer item end where the inner list begins. -/
theorem nested_list_ranges_fit :
    let inner := Node.bulletList '-' [.listItem [.paragraph [.text "ü"]]]
    let root := Node.document [.bulletList '-' [.listItem [.paragraph [.text "é"], inner]]]
    ∃ r, render {} {} root = .ok r ∧ (∀ kind, (r.spanTexts? kind).isSome) ∧
      ∀ a ∈ r.annotations, (r.textAt? a).isSome := by
  intro inner root
  obtain ⟨r, hr⟩ := exists_render_eq_ok {} {} root (by decide)
  obtain ⟨-, hkinds, -, hitems, -⟩ := render_ranges_fit hr
  refine ⟨r, hr, hkinds, fun a ha => ?_⟩
  obtain ⟨-, -, -, -, hread⟩ := hitems (by decide) a ha
  exact hread

/-- **The annotations of a text of markdown** all lie in the text between
characters, and what is under them can be read. -/
theorem ofMarkdown_ranges_fit {sheet : StyleSheet} {options : RenderOptions} {text : String}
    {limit : Nat} {r : Rendered} (h : render sheet options (Node.ofMarkdown text limit) = .ok r) :
    ∀ a ∈ r.annotations, a.Fits r.text.toList ∧ (r.textAt? a).isSome := by
  intro a ha
  have hfit := fits_of_render_eq_ok h a ha (.inr (ofMarkdown_itemsInLists text limit))
  exact ⟨hfit, Rendered.slice?_isSome hfit⟩

end StyledMarkdown
