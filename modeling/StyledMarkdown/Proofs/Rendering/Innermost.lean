import StyledMarkdown.Proofs.Rendering.Nesting
import StyledMarkdown.Proofs.Rendering.Queries
/-!
# The innermost unit

The spans over one offset belong to nodes of which each lies below the
next, so they make a chain. The tightest of them has the least text under
it and lies within all the others. Trimming may leave several with one and
the same range: of these the priority decides, and where it does not, the
span that was set first, which is that of the deepest node.
-/

namespace StyledMarkdown

open RenderM
open Rendered (Within FirstTightest tighter tighter_iff)

/-! ## Chains of spans -/

/-- **The innermost of the spans over an offset.** Its range lies within that
of every other one. Of the spans over the same range none goes before it by
priority, and none that was set before it has its priority. -/
structure Rendered.Innermost (before : List (GroupSpan × Nat × Nat))
    (span : GroupSpan × Nat × Nat) (behind : List (GroupSpan × Nat × Nat)) : Prop where
  within : ∀ other ∈ before ++ behind, Within span other
  priority : ∀ other ∈ before ++ behind, other.2 = span.2 →
    span.1.priority.rank ≤ other.1.priority.rank
  first : ∀ other ∈ before, other.2 = span.2 → span.1.priority.rank < other.1.priority.rank

section Chains

variable {before behind : List (GroupSpan × Nat × Nat)} {span other : GroupSpan × Nat × Nat}

/-- Of two spans that begin before they end, the one within the other is no
longer; and where it is not shorter, both have one range. -/
theorem range_eq_of_within (h : Within other span) (hordered : other.2.1 ≤ other.2.2)
    (htight : tighter span other) : other.2 = span.2 := by
  obtain ⟨hstart, hstop⟩ : span.2.1 ≤ other.2.1 ∧ other.2.2 ≤ span.2.2 := h
  rw [tighter_iff] at htight
  have hfirst : other.2.1 = span.2.1 := by omega
  have hlast : other.2.2 = span.2.2 := by omega
  exact Prod.ext hfirst hlast

theorem within_of_range_eq (h : other.2 = span.2) : Within span other := by
  obtain ⟨other, start, stop⟩ := other
  obtain ⟨span, start', stop'⟩ := span
  obtain ⟨rfl, rfl⟩ : start = start' ∧ stop = stop' := by simpa using h
  exact ⟨Nat.le_refl _, Nat.le_refl _⟩

/-- **The first of the tightest spans in a chain is the innermost.** -/
theorem Rendered.FirstTightest.innermost (h : FirstTightest before span behind)
    (hchain : (before ++ span :: behind).Pairwise Within)
    (hordered : ∀ other ∈ before, other.2.1 ≤ other.2.2) :
    Rendered.Innermost before span behind := by
  obtain ⟨-, hbehind, hbefore⟩ := List.pairwise_append.mp hchain
  have hsame : ∀ other ∈ before, other.2 = span.2 := by
    intro other hother
    have hwithin : Within other span := hbefore other hother span List.mem_cons_self
    exact range_eq_of_within hwithin (hordered other hother) (h.before other hother)
  have hfirst : ∀ other ∈ before, other.2 = span.2 →
      span.1.priority.rank < other.1.priority.rank := by
    intro other hother hrange
    have htight := h.before other hother
    rw [tighter_iff, hrange] at htight
    omega
  refine ⟨fun other hother => ?_, fun other hother hrange => ?_, hfirst⟩
  · rcases List.mem_append.mp hother with hother | hother
    · exact within_of_range_eq (hsame other hother)
    · exact List.rel_of_pairwise_cons hbehind hother
  · rcases List.mem_append.mp hother with hother | hother
    · exact Nat.le_of_lt (hfirst other hother hrange)
    · have htight := h.behind other hother
      rw [tighter_iff, hrange] at htight
      omega

end Chains

/-! ## The nodes over an offset -/

section Visits

variable {sheet : StyleSheet} {options : RenderOptions} {nodes above : List Node}
  {s t : Rendering} {v w : Visit} {shared : List Visit} {leading length offset : Nat}

/-- A node below another one is deeper. -/
theorem length_above_lt (h : v ∈ w.below sheet options .leaving) :
    w.above.length < v.above.length := by
  have hsuffix : w.node :: w.above <:+ v.above := above_isSuffix h
  have hlength := hsuffix.length_le
  rw [List.length_cons] at hlength
  omega

/-- **The nodes whose spans cover one offset lie below each other**, in the
order in which they are left. -/
theorem Walk.pairwise_below (h : Walk sheet options nodes (parentOf above) s t)
    (hshared : shared.Sublist (visits sheet options .leaving nodes above s))
    (hcovers : ∀ v ∈ shared, ((v.span sheet).onto leading length).Contains offset) :
    shared.Pairwise fun v w => v ∈ w.below sheet options .leaving := by
  refine (h.pairwise_leaving.sublist hshared).imp_of_mem fun {v w} hv hw hvw => ?_
  rcases hvw with hbefore | hbelow
  · -- the second span would begin behind the end of the first
    have hstop : v.stop ≤ w.before.cursor := cursor_le_of_isPrefix hbefore
    have hstart : w.before.cursor ≤ w.start := w.cursor_le_start
    obtain ⟨-, hend⟩ := Annotation.contains_of_contains_onto (hcovers v hv)
    obtain ⟨hbegin, -⟩ := Annotation.contains_of_contains_onto (hcovers w hw)
    change offset + leading < v.stop at hend
    change w.start ≤ offset + leading at hbegin
    omega
  · exact hbelow

/-- The spans over an offset are those of the nodes that are kept and cover it. -/
theorem Walk.exists_covering (h : Walk sheet options nodes (parentOf above) {} t)
    (offset : Nat) :
    let leading := t.writer.leadingSize
    let length := Text.size t.writer.finish.text.toList
    ∃ shared : List Visit, shared.Sublist (visits sheet options .leaving nodes above {}) ∧
      t.writer.finish.covering offset = shared.map (Visit.placed sheet leading length) ∧
      ∀ v ∈ shared, ((v.span sheet).onto leading length).Contains offset := by
  intro leading length
  have hspans := h.rendered_spans_eq
  dsimp only at hspans
  unfold Rendered.covering
  rw [hspans, List.filter_map]
  refine ⟨_, ?_, rfl, fun v hv => ?_⟩
  · exact List.filter_sublist.trans (List.filter_sublist.trans List.filter_sublist)
  · have hcovers := (List.mem_filter.mp hv).2
    simp only [Function.comp_apply, Bool.and_eq_true, decide_eq_true_eq] at hcovers
    exact hcovers

end Visits

/-! ## Renderings -/

/-- **The node at an offset is that of the innermost span.** The spans over
an offset that has one make a chain. The node is made of one of them, with
the text under it as its content: the one within all the others, of several
with that range the one with the highest priority, and of several with that
priority the one set first. It is the span of a node that lies below the
nodes of all the spans set later, so it is the deepest of these. -/
theorem render_innermost {sheet : StyleSheet} {options : RenderOptions} {root : Node}
    {r : Rendered} {offset : Nat} (h : render sheet options root = .ok r)
    (hcovered : ∃ span ∈ r.spans, span.2.1 ≤ offset ∧ offset < span.2.2) :
    (r.covering offset).Pairwise Within ∧
    ∃ before span start stop behind literal,
      r.covering offset = before ++ (span, start, stop) :: behind ∧
      Rendered.Innermost before (span, start, stop) behind ∧
      r.slice? start stop = some literal ∧
      r.nodeAt? offset = some (span.toNode (some literal)) ∧
      ∃ t, (visit sheet options root .none).exec {} = (.ok (), t) ∧
        t.writer.finish = r ∧
        let nodes := visits sheet options .leaving [root] [] {}
        let placed := Visit.placed sheet t.writer.leadingSize (Text.size r.text.toList)
        nodes.map (fun v => (v.above, v.node)) = root.inOrder .leaving [] ∧
        ∃ inner v outer, (inner ++ v :: outer).Sublist nodes ∧
          before = inner.map placed ∧ (span, start, stop) = placed v ∧
          behind = outer.map placed ∧
          ∀ w ∈ outer, v ∈ w.below sheet options .leaving ∧
            w.above.length < v.above.length := by
  have hread : ∀ span ∈ r.spans, (r.slice? span.2.1 span.2.2).isSome := fun _ =>
    Rendered.slice?_isSome_of_mem_spans fun a ha hs => fits_of_render_eq_ok h a ha (.inl hs)
  obtain ⟨t, hroot, rfl⟩ := render_eq_ok_iff.mp h
  have hw : Walk sheet options [root] (parentOf []) {} t := hroot
  obtain ⟨shared, hshared, hcovering, hcovers⟩ := hw.exists_covering offset
  have hbelow := hw.pairwise_below hshared hcovers
  have hchain : (t.writer.finish.covering offset).Pairwise Within := by
    rw [hcovering, List.pairwise_map]
    refine hbelow.imp_of_mem fun {v w} _ hmem hvw => ?_
    exact (hw.within_of_mem_below (hshared.subset hmem) hvw).onto _ _
  have hne : t.writer.finish.covering offset ≠ [] := by
    obtain ⟨span, hspan, hcover⟩ := hcovered
    exact List.ne_nil_of_mem (Rendered.mem_covering_iff.mpr ⟨hspan, hcover⟩)
  obtain ⟨before, ⟨span, start, stop⟩, behind, hsplit, htightest, hfirst⟩ :=
    Rendered.exists_tightest? hne
  have hinnermost : Rendered.Innermost before (span, start, stop) behind := by
    refine hfirst.innermost (hsplit ▸ hchain) fun other hother => ?_
    have hmem : other ∈ t.writer.finish.covering offset := by simp [hsplit, hother]
    obtain ⟨-, hstart, hstop⟩ := Rendered.mem_covering_iff.mp hmem
    omega
  obtain ⟨literal, hliteral⟩ : ∃ literal, t.writer.finish.slice? start stop = some literal := by
    have hmem : (span, start, stop) ∈ t.writer.finish.covering offset := by simp [hsplit]
    exact Option.isSome_iff_exists.mp (hread _ (Rendered.mem_covering_iff.mp hmem).1)
  refine ⟨hchain, before, span, start, stop, behind, literal, hsplit, hinnermost, hliteral, ?_, t,
    walk_singleton_iff_exec.mp hw, rfl, map_visits_singleton _ _ _ _ _, ?_⟩
  · rw [Rendered.nodeAt?_eq, htightest, Option.bind_some, hliteral]
    rfl
  · -- the nodes stand in the order of their spans
    rw [hcovering] at hsplit
    obtain ⟨inner, rest, rfl, hinner, hrest⟩ := List.map_eq_append_iff.mp hsplit
    obtain ⟨v, outer, rfl, hv, houter⟩ := List.map_eq_cons_iff.mp hrest
    refine ⟨inner, v, outer, hshared, hinner.symm, hv.symm, houter.symm, fun w hmem => ?_⟩
    obtain ⟨-, hcons, -⟩ := List.pairwise_append.mp hbelow
    have hvw := List.rel_of_pairwise_cons hcons hmem
    exact ⟨hvw, length_above_lt hvw⟩

/-- A construct without a rendering of its own around strong text, and a
heading of one emphasis: its line end is trimmed away, so all spans of the
heading have one range. The placeholder goes before what is in it by
priority. The emphasis goes before its text by priority, and before the
heading as the deeper of the two. -/
theorem emphasis_in_heading_innermost :
    let root := Node.document [.paragraph [.unsupported "Math" [.strong [.text "b"]]],
      .heading 1 [.emphasis [.text "é"]]]
    ∃ r, render {} {} root = .ok r ∧ (r.covering 2).Pairwise Within ∧
      (r.covering 2).map (fun span => (span.1.kind, span.2)) =
        [(.text, 2, 4), (.emphasis, 2, 4), (.heading 1, 2, 4)] ∧
      (r.nodeAt? 0).map Node.kindName = some "Document" ∧
      (r.nodeAt? 2).map Node.kindName = some "Emphasis" := by
  intro root
  obtain ⟨r, hr⟩ := exists_render_eq_ok {} {} root (by decide)
  have hanswers : (render {} {} root).toOption.map (fun r =>
      ((r.covering 2).map (fun span => (span.1.kind, span.2)),
        (r.nodeAt? 0).map Node.kindName, (r.nodeAt? 2).map Node.kindName)) =
      some ([(.text, 2, 4), (.emphasis, 2, 4), (.heading 1, 2, 4)],
        some "Document", some "Emphasis") := by decide +kernel
  rw [hr] at hanswers
  obtain ⟨hcovering, hnames⟩ := Prod.mk.inj (Option.some.inj hanswers)
  obtain ⟨hzero, htwo⟩ := Prod.mk.inj hnames
  have hcovered : ∃ span ∈ r.spans, span.2.1 ≤ 2 ∧ 2 < span.2.2 := by
    obtain ⟨span, hspan⟩ := List.exists_mem_of_ne_nil (r.covering 2) fun hnil => by
      rw [hnil] at hcovering
      cases hcovering
    exact ⟨span, Rendered.mem_covering_iff.mp hspan⟩
  obtain ⟨hchain, -⟩ := render_innermost hr hcovered
  exact ⟨r, hr, hchain, hcovering, hzero, htwo⟩

end StyledMarkdown
