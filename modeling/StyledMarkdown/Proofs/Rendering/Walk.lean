import StyledMarkdown.Proofs.Rendering.Levels
/-!
# Walks

What `visit` does to the state, for every kind of node at once: where the
children succeed it goes from `opening` through them to `closing`, and
where they fail it fails as they do. A `Walk` is a rendering without the
steps it is made of, one rule for a node and one for the end of a list of
siblings, and `walk_iff` says that nothing is lost.
-/

namespace StyledMarkdown

open RenderM
open Rendering (SameNesting)

/-! ## The level run through -/

section Success

variable {sheet : StyleSheet} {options : RenderOptions} {node : Node} {parent : Parent}
  {content : RenderM Unit} {s t : Rendering}

theorem exec_spanned_of_ok (hb : Balanced content) (h : content.exec s.saving = (.ok (), t)) :
    (spanned sheet node parent content).exec s =
      (.ok (), s.resuming t []
        [⟨.span (sheet.spanFor node parent.placement), s.cursor, t.cursor⟩]) := by
  unfold spanned
  rw [exec_bind_of_ok (exec_enclose_of_ok (fun _ => hb) h)]
  rfl

/-- A step with a line end behind it. -/
theorem exec_ended_of_ok (h : content.exec s = (.ok (), t)) :
    (do content; lineIfNeeded : RenderM Unit).exec s =
      (.ok (), t.writing (t.writer.buffer.missing '\n')) := by
  rw [exec_bind_of_ok h, exec_lineIfNeeded]

theorem exec_renderQuote_of_ok {children : List Node} (hb : Balanced content)
    (h : content.exec (s.writing ((Node.blockQuote children).lead parent)).saving = (.ok (), t)) :
    (renderQuote sheet options (.blockQuote children) parent content).exec s =
      (.ok (), s.resuming t (t.writer.buffer.missing '\n')
        ((Node.blockQuote children).spanMarks sheet options parent
          ((Node.blockQuote children).start parent s)
          (t.writing (t.writer.buffer.missing '\n')).cursor)) := by
  have hquote := exec_enclose_of_ok (fun _ => hb.bind fun _ => .lineIfNeeded)
    (exec_ended_of_ok h)
  unfold renderQuote Node.spanMarks Node.isMarked
  refine (exec_line_when _ _ _).trans ((exec_bind_of_ok hquote).trans ?_)
  split <;> rfl

theorem exec_within_of_ok {kind : ListKind} (hb : Balanced content)
    (h : content.exec { s with lists := s.lists.push kind } = (.ok (), t)) :
    (within kind content).exec s = (.ok (), { t with lists := ⟨t.lists.contexts.tail⟩ }) := by
  rw [exec_within kind hb, h]

theorem exec_renderList_of_ok {kind : ListKind} (hb : Balanced content)
    (h : content.exec
      { s.saving.writing (if s.lists.isActive then ['\n'] else []) with
        lists := s.lists.push kind } = (.ok (), t)) :
    (renderList sheet node parent kind content).exec s =
      (.ok (),
        { s.resuming t (t.writer.buffer.missing '\n')
            [⟨.span (sheet.spanFor node parent.placement), s.cursor,
              (t.writing (t.writer.buffer.missing '\n')).cursor⟩] with
          lists := ⟨t.lists.contexts.tail⟩
          extents := ⟨s.cursor, (t.writing (t.writer.buffer.missing '\n')).cursor⟩ ::
            t.extents }) := by
  have hitems : (do
      if (← get).lists.isActive then line
      within kind content
      lineIfNeeded : RenderM Unit).exec s.saving =
      (.ok (), { t with lists := ⟨t.lists.contexts.tail⟩ }.writing
        (t.writer.buffer.missing '\n')) :=
    (exec_line_when _ _ _).trans (exec_ended_of_ok (exec_within_of_ok hb h))
  unfold renderList
  rw [exec_bind_of_ok (exec_enclose_of_ok (fun _ => items_balanced kind hb) hitems)]
  rfl

theorem exec_layOutItem (geometry : PrefixGeometry) (start : Nat) (s : Rendering) :
    (layOutItem sheet geometry start).exec s =
      (.ok (), s.resuming s [] (partMarks sheet geometry start
        (itemBoundaries s.writer.buffer s.extents start s.cursor))) := by
  unfold layOutItem partMarks Rendering.cursor
  rw [exec_bind_of_ok (exec_get s)]
  rcases itemBoundaries s.writer.buffer s.extents start s.writer.cursor with ⟨first, _ | second⟩
  · rfl
  · rfl

/-- The content of an item begins behind its prefix. -/
theorem exec_prefixed (text : String) (first second : Directive) (content : RenderM Unit)
    (s : Rendering) :
    (do
      write text
      let stop ← cursor
      setLayout first s.cursor stop
      setLayout second s.cursor stop
      tabIfNeeded
      content
      lineIfNeeded : RenderM Unit).exec s =
    (do content; lineIfNeeded : RenderM Unit).exec
      ((s.resuming s text.toList
          [⟨.layout second, s.cursor, s.cursor + Text.size text.toList⟩,
            ⟨.layout first, s.cursor, s.cursor + Text.size text.toList⟩]).writing
        ((s.writer.buffer.append text.toList).missing '\t')) := by
  change (tabIfNeeded >>= fun _ => do content; lineIfNeeded).exec (s.resuming s text.toList
        [⟨.layout second, s.cursor, s.cursor + Text.size text.toList⟩,
          ⟨.layout first, s.cursor, s.cursor + Text.size text.toList⟩]) = _
  rw [exec_bind_of_ok (exec_tabIfNeeded _)]
  rfl

/-- The state in which the content of an item is rendered, as the steps
before it leave it. -/
theorem opening_listItem (options : RenderOptions) (children : List Node) :
    { opening sheet options (.listItem children) parent s with depth := s.depth } =
      (Rendering.resuming
          (Rendering.saving { s with lists := s.lists.nextPrefix?.2 })
          (Rendering.saving { s with lists := s.lists.nextPrefix?.2 }) s.nextPrefix
          ((Node.listItem children).openingMarks sheet s)).writing
        ((s.writer.buffer.append s.nextPrefix).missing '\t') := by
  simp only [opening, Node.opens, Rendering.resuming, Rendering.saving, Rendering.writing,
    Node.enter, Node.saves, Node.start, Node.lead, Text.size_nil, Nat.add_zero,
    Buffer.append_append]
  rfl

theorem exec_takePrefix (s : Rendering) : takePrefix.exec s =
    (.ok (s.lists.nextPrefix?.1.getD ""), { s with lists := s.lists.nextPrefix?.2 }) := rfl

theorem exec_renderItem_of_ok (options : RenderOptions) {children : List Node}
    (hb : Balanced content)
    (h : content.exec { opening sheet options (.listItem children) parent s with
      depth := s.depth } = (.ok (), t)) :
    (renderItem sheet node parent content).exec s =
      (.ok (), s.resuming t (t.writer.buffer.missing '\n')
        (⟨.span (sheet.spanFor node parent.placement), s.cursor,
            (t.writing (t.writer.buffer.missing '\n')).cursor⟩ ::
          partMarks sheet (PrefixGeometry.of sheet s.lists.current?) s.cursor
            (itemBoundaries (t.writer.buffer.append (t.writer.buffer.missing '\n')) t.extents
              s.cursor (t.writing (t.writer.buffer.missing '\n')).cursor))) := by
  rw [opening_listItem] at h
  have hprefixed := exec_enclose_of_ok (fun start => prefixed_balanced _ _ _ hb start)
    ((exec_prefixed _ _ _ _ _).trans (exec_ended_of_ok h))
  unfold renderItem
  rw [exec_bind_of_ok (exec_get s), exec_bind_of_ok (exec_takePrefix s),
    exec_bind_of_ok hprefixed, exec_bind_of_ok (exec_layOutItem _ _ _)]
  rfl

/-- Whether a node is written by its children or its text alone. -/
def Node.isPlain : Node → Bool
  | .document _ | .blockQuote _ | .orderedList .. | .bulletList .. | .listItem _ => false
  | _ => true

theorem exec_inside_of_ok (hp : node.isPlain)
    (h : (visitAll sheet options node.children node.asParent).exec
      (opening sheet options node parent s) = (.ok (), t)) :
    (inside options node parent (visitAll sheet options node.children node.asParent)).exec
      (Rendering.saving { s with depth := s.depth + 1 }) =
      (.ok (), t.writing (node.closes parent t)) := by
  -- the text of a leaf is what it opens with, and nothing follows
  have hleaf : node.children = [] → opening sheet options node parent s = t := by
    intro hc
    rw [hc] at h
    exact (Prod.mk.inj h).2
  cases node with
  | document | blockQuote | orderedList | bulletList | listItem => cases hp
  | heading => exact exec_ended_of_ok h
  | paragraph children =>
    change (visitAll sheet options children .other >>= fun _ =>
      if parent.placement = .outermost then lineIfNeeded else pure ()).exec
        (Rendering.saving { s with depth := s.depth + 1 }) = _
    refine (exec_bind_of_ok h).trans ?_
    unfold Node.closes Node.endsLine
    by_cases hout : parent.placement = .outermost
    · simp only [hout, if_true, decide_true]
      exact exec_lineIfNeeded t
    · simp only [hout, if_false, decide_false]
      rfl
  | htmlBlock =>
    rw [← hleaf rfl]
    exact exec_ended_of_ok (exec_write _ _)
  | link | image | emphasis | strong | unsupported => exact h
  | _ =>
    rw [← hleaf rfl]
    exact exec_write _ _

theorem exec_framed_of_ok
    (h : (visitAll sheet options node.children node.asParent).exec
      (opening sheet options node parent s) = (.ok (), t)) :
    (framed sheet options node parent
        (visitAll sheet options node.children node.asParent)).exec
      { s with depth := s.depth + 1 } =
      (.ok (), { closing sheet options node parent s t with depth := t.depth }) := by
  have hb : Balanced (visitAll sheet options node.children node.asParent) := visitAll_balanced _ _
  cases node with
  | document children =>
    -- a document saves no cursor, so those of `s` are still those of `t`
    have hs : t.writer.saved = s.writer.saved := by
      have hn := (hb (opening sheet options (.document children) parent s)).saved
      rwa [h] at hn
    unfold closing
    rw [← hs]
    exact h
  | blockQuote children => exact exec_renderQuote_of_ok hb h
  | orderedList | bulletList => exact exec_renderList_of_ok hb h
  | listItem children => exact exec_renderItem_of_ok options hb h
  | _ => exact exec_spanned_of_ok (inside_balanced hb) (exec_inside_of_ok rfl h)

/-- **A node whose children are rendered is rendered**, from `opening`
through the children to `closing`. -/
theorem visit_exec_of_ok (hdepth : s.depth < options.maxDepth)
    (h : (visitAll sheet options node.children node.asParent).exec
      (opening sheet options node parent s) = (.ok (), t)) :
    (visit sheet options node parent).exec s =
      (.ok (), closing sheet options node parent s t) := by
  -- the children are balanced, so the level left is the one entered
  have ht : t.depth = s.depth + 1 := by
    have hb : Balanced (visitAll sheet options node.children node.asParent) :=
      visitAll_balanced _ _
    have hn := (hb (opening sheet options node parent s)).depth
    rwa [h] at hn
  rw [visit_eq, exec_deeper, if_neg (Nat.not_le.mpr hdepth), exec_framed_of_ok h]
  dsimp only
  rw [ht]
  rfl

end Success

/-! ## The level cut short -/

section Failure

variable {sheet : StyleSheet} {options : RenderOptions} {node : Node} {parent : Parent}
  {content : RenderM Unit} {s : Rendering} {e : RenderError}

theorem exec_spanned_of_error (hb : Balanced content) (h : (content.exec s.saving).1 = .error e) :
    ((spanned sheet node parent content).exec s).1 = .error e :=
  exec_bind_of_error (exec_enclose_of_error (fun _ => hb) h)

theorem exec_renderQuote_of_error {children : List Node} (hb : Balanced content)
    (h : (content.exec (s.writing ((Node.blockQuote children).lead parent)).saving).1 =
      .error e) :
    ((renderQuote sheet options (.blockQuote children) parent content).exec s).1 = .error e := by
  have hquote := exec_enclose_of_error (fun _ => hb.bind fun _ => .lineIfNeeded)
    (exec_bind_of_error h)
  unfold renderQuote
  exact (congrArg Prod.fst (exec_line_when _ _ _)).trans (exec_bind_of_error hquote)

theorem exec_within_of_error {kind : ListKind} (hb : Balanced content)
    (h : (content.exec { s with lists := s.lists.push kind }).1 = .error e) :
    ((within kind content).exec s).1 = .error e := by
  rw [exec_within kind hb]
  exact h

theorem exec_renderList_of_error {kind : ListKind} (hb : Balanced content)
    (h : (content.exec
      { s.saving.writing (if s.lists.isActive then ['\n'] else []) with
        lists := s.lists.push kind }).1 = .error e) :
    ((renderList sheet node parent kind content).exec s).1 = .error e := by
  have hitems : ((do
      if (← get).lists.isActive then line
      within kind content
      lineIfNeeded : RenderM Unit).exec s.saving).1 = .error e :=
    (congrArg Prod.fst (exec_line_when _ _ _)).trans
      (exec_bind_of_error (exec_within_of_error hb h))
  exact exec_bind_of_error (exec_enclose_of_error (fun _ => items_balanced kind hb) hitems)

theorem exec_renderItem_of_error (options : RenderOptions) {children : List Node}
    (hb : Balanced content)
    (h : (content.exec { opening sheet options (.listItem children) parent s with
      depth := s.depth }).1 = .error e) :
    ((renderItem sheet node parent content).exec s).1 = .error e := by
  rw [opening_listItem] at h
  have hprefixed := exec_enclose_of_error (fun start => prefixed_balanced _ _ _ hb start)
    ((congrArg Prod.fst (exec_prefixed _ _ _ _ _)).trans (exec_bind_of_error h))
  unfold renderItem
  rw [exec_bind_of_ok (exec_get s), exec_bind_of_ok (exec_takePrefix s)]
  exact exec_bind_of_error hprefixed

theorem exec_inside_of_error (hp : node.isPlain)
    (h : ((visitAll sheet options node.children node.asParent).exec
      (opening sheet options node parent s)).1 = .error e) :
    ((inside options node parent (visitAll sheet options node.children node.asParent)).exec
      (Rendering.saving { s with depth := s.depth + 1 })).1 = .error e := by
  cases node with
  | document | blockQuote | orderedList | bulletList | listItem => cases hp
  | heading | paragraph => exact exec_bind_of_error h
  | link | image | emphasis | strong | unsupported => exact h
  | _ => cases h

theorem exec_framed_of_error
    (h : ((visitAll sheet options node.children node.asParent).exec
      (opening sheet options node parent s)).1 = .error e) :
    ((framed sheet options node parent
        (visitAll sheet options node.children node.asParent)).exec
      { s with depth := s.depth + 1 }).1 = .error e := by
  have hb : Balanced (visitAll sheet options node.children node.asParent) := visitAll_balanced _ _
  cases node with
  | document children => exact h
  | blockQuote children => exact exec_renderQuote_of_error hb h
  | orderedList | bulletList => exact exec_renderList_of_error hb h
  | listItem children => exact exec_renderItem_of_error options hb h
  | _ => exact exec_spanned_of_error (inside_balanced hb) (exec_inside_of_error rfl h)

/-- **A node whose children fail fails as they do.** -/
theorem visit_exec_of_error (hdepth : s.depth < options.maxDepth)
    (h : ((visitAll sheet options node.children node.asParent).exec
      (opening sheet options node parent s)).1 = .error e) :
    ((visit sheet options node parent).exec s).1 = .error e := by
  rw [visit_eq, exec_deeper, if_neg (Nat.not_le.mpr hdepth)]
  exact exec_framed_of_error h

/-- A node at the limit is not entered. -/
theorem visit_exec_of_le (h : options.maxDepth ≤ s.depth) :
    (visit sheet options node parent).exec s = (.error (.depthExceeded options.maxDepth), s) := by
  rw [visit_eq, exec_deeper, if_pos h]

end Failure

/-! ## Walks -/

/-- **A walk over siblings** from one state to another: each node is
entered within the depth limit, its children are walked from `opening`,
and its siblings from `closing`. -/
inductive Walk (sheet : StyleSheet) (options : RenderOptions) :
    List Node → Parent → Rendering → Rendering → Prop
  | nil (parent : Parent) (s : Rendering) : Walk sheet options [] parent s s
  | cons {node : Node} {rest : List Node} {parent : Parent} {s t u : Rendering}
      (hdepth : s.depth < options.maxDepth)
      (below : Walk sheet options node.children node.asParent
        (opening sheet options node parent s) t)
      (after : Walk sheet options rest parent (closing sheet options node parent s t) u) :
      Walk sheet options (node :: rest) parent s u

section Walks

variable {sheet : StyleSheet} {options : RenderOptions} {node : Node} {nodes : List Node}
  {parent : Parent} {s t u : Rendering}

/-- A walk is a rendering of the siblings that succeeds. -/
theorem Walk.exec (h : Walk sheet options nodes parent s t) :
    (visitAll sheet options nodes parent).exec s = (.ok (), t) := by
  induction h with
  | nil => rfl
  | cons hdepth _ _ ihbelow ihafter =>
    rw [visitAll_cons, exec_bind_of_ok (visit_exec_of_ok hdepth ihbelow)]
    exact ihafter

/-- What a node does that is rendered. -/
theorem exists_of_visit_exec (h : (visit sheet options node parent).exec s = (.ok (), u)) :
    s.depth < options.maxDepth ∧ ∃ t,
      (visitAll sheet options node.children node.asParent).exec
        (opening sheet options node parent s) = (.ok (), t) ∧
      u = closing sheet options node parent s t := by
  have hdepth : s.depth < options.maxDepth := by
    rcases Nat.lt_or_ge s.depth options.maxDepth with hlt | hle
    · exact hlt
    · rw [visit_exec_of_le hle] at h
      cases h
  refine ⟨hdepth, ?_⟩
  rcases hbelow : (visitAll sheet options node.children node.asParent).exec
    (opening sheet options node parent s) with ⟨e | _, t⟩
  · have herr := visit_exec_of_error hdepth (congrArg Prod.fst hbelow)
    rw [h] at herr
    cases herr
  · rw [visit_exec_of_ok hdepth hbelow] at h
    exact ⟨t, rfl, (Prod.mk.inj h).2.symm⟩

theorem exists_of_visitAll_cons_exec {rest : List Node}
    (h : (visitAll sheet options (node :: rest) parent).exec s = (.ok (), u)) :
    ∃ t, (visit sheet options node parent).exec s = (.ok (), t) ∧
      (visitAll sheet options rest parent).exec t = (.ok (), u) := by
  rw [visitAll_cons, exec_bind] at h
  rcases hv : (visit sheet options node parent).exec s with ⟨e | _, t⟩
  · rw [hv] at h
    cases h
  · rw [hv] at h
    exact ⟨t, rfl, h⟩

/-- **A rendering of siblings that succeeds is a walk**, once each of them
has a walk below it. -/
theorem walk_of_exec_of
    (hnodes : ∀ node ∈ nodes, ∀ parent s t,
      (visitAll sheet options node.children parent).exec s = (.ok (), t) →
        Walk sheet options node.children parent s t)
    (h : (visitAll sheet options nodes parent).exec s = (.ok (), u)) :
    Walk sheet options nodes parent s u := by
  -- over the siblings; what is below each of them is a walk by assumption
  induction nodes generalizing s with
  | nil =>
    obtain rfl : s = u := (Prod.mk.inj h).2
    exact .nil parent s
  | cons node rest ih =>
    obtain ⟨t, hvisit, hrest⟩ := exists_of_visitAll_cons_exec h
    obtain ⟨hdepth, v, hbelow, rfl⟩ := exists_of_visit_exec hvisit
    exact .cons hdepth (hnodes node List.mem_cons_self _ _ _ hbelow)
      (ih (fun n hn => hnodes n (List.mem_cons_of_mem _ hn)) hrest)

theorem walk_children_of_exec (node : Node) : ∀ parent s t,
    (visitAll sheet options node.children parent).exec s = (.ok (), t) →
      Walk sheet options node.children parent s t := by
  induction node using Node.inductionOn with
  | step node ih => exact fun _ _ _ => walk_of_exec_of ih

/-- **Walks are the renderings that succeed.** -/
theorem walk_iff : Walk sheet options nodes parent s t ↔
    (visitAll sheet options nodes parent).exec s = (.ok (), t) :=
  ⟨Walk.exec, walk_of_exec_of fun node _ => walk_children_of_exec node⟩

/-- The walk over one node. -/
theorem walk_singleton_iff : Walk sheet options [node] parent s u ↔
    s.depth < options.maxDepth ∧ ∃ t,
      Walk sheet options node.children node.asParent (opening sheet options node parent s) t ∧
      u = closing sheet options node parent s t := by
  constructor
  · rintro (_ | ⟨hdepth, below, _ | _⟩)
    exact ⟨hdepth, _, below, rfl⟩
  · rintro ⟨hdepth, t, below, rfl⟩
    exact .cons hdepth below (.nil _ _)

/-- A walk leaves the nesting as it found it. -/
theorem Walk.sameNesting (h : Walk sheet options nodes parent s t) : SameNesting s t := by
  have hb : Balanced (visitAll sheet options nodes parent) := visitAll_balanced _ _
  have hn := hb s
  rwa [h.exec] at hn

theorem walk_singleton_iff_exec : Walk sheet options [node] parent s t ↔
    (visit sheet options node parent).exec s = (.ok (), t) := by
  rw [walk_iff, visitAll_cons, exec_bind]
  rcases (visit sheet options node parent).exec s with ⟨e | _, u⟩
  · exact ⟨nofun, nofun⟩
  · exact Iff.rfl

/-! ## The text and the lists on the way -/

@[simp] theorem text_opening : (opening sheet options node parent s).text =
    s.text ++ node.opens options parent s := Buffer.toList_append ..

@[simp] theorem text_closing : (closing sheet options node parent s t).text =
    t.text ++ node.closes parent t := Buffer.toList_append ..

/-- A walk only adds to the text. -/
theorem Walk.text_isPrefix (h : Walk sheet options nodes parent s t) : s.text <+: t.text := by
  induction h with
  | nil => exact List.prefix_refl _
  | cons _ _ _ ihbelow ihafter =>
    rw [text_opening] at ihbelow
    rw [text_closing] at ihafter
    exact (List.prefix_append _ _).trans
      (ihbelow.trans ((List.prefix_append _ _).trans ihafter))

/-- The children of a list have a list open around them, and so have those
of a node inside one. -/
theorem isActive_opening : (opening sheet options node parent s).lists.isActive =
    (s.lists.isActive || node.isList) := by
  cases node with
  | listItem =>
    -- the prefix of an item changes the counter of a list and not which are open
    have h := length_nextPrefix? s.lists
    unfold opening Node.enter ListStack.isActive Node.isList
    cases hc : s.lists.contexts <;> cases hn : s.lists.nextPrefix?.2.contexts <;> simp_all
  | orderedList | bulletList => exact (Bool.or_true _).symm
  | _ => exact (Bool.or_false _).symm

/-- A node leaves the nesting as it found it. -/
theorem sameNesting_closing (hdepth : s.depth < options.maxDepth)
    (below : Walk sheet options node.children node.asParent
      (opening sheet options node parent s) t) :
    SameNesting s (closing sheet options node parent s t) :=
  (walk_singleton_iff.mpr ⟨hdepth, t, below, rfl⟩).sameNesting

theorem render_eq : render sheet options node =
    ((visit sheet options node .none).exec {}).1.map fun _ =>
      ((visit sheet options node .none).exec {}).2.writer.finish := rfl

/-- **A document is rendered when there is a walk over it**, and the result
is what the writer makes of the state the walk ends in. -/
theorem render_eq_ok_iff {r : Rendered} : render sheet options node = .ok r ↔
    ∃ t, Walk sheet options [node] .none {} t ∧ t.writer.finish = r := by
  rw [render_eq]
  constructor
  · intro h
    rcases hv : (visit sheet options node .none).exec {} with ⟨e | _, t⟩
    · rw [hv] at h
      cases h
    · rw [hv] at h
      exact ⟨t, walk_singleton_iff_exec.mpr hv, Except.ok.inj h⟩
  · rintro ⟨t, hw, rfl⟩
    rw [walk_singleton_iff_exec.mp hw]
    rfl

end Walks

end StyledMarkdown
