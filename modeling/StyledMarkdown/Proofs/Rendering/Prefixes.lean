import Mathlib.Data.List.Forall2
import StyledMarkdown.Proofs.Rendering.Ends
import StyledMarkdown.Proofs.Rendering.Spans
import StyledMarkdown.Proofs.Tree.Numbering
/-!
# The prefixes of items

The open lists are a stack with a counter in each, and an item takes the
number of the innermost. What a counter has come to is how many items of
its list stand before in the document: the lists inside an item are
entered and left between two of them, and leave the counters around them
alone. A prefix holds no blank, so no trimming cuts it.
-/

namespace StyledMarkdown

open RenderM

/-! ## Lists that count their items -/

/-- **An open list that `taken` prefixes were taken of.** -/
def ListContext.Counts (context : ListContext) (list : Node) (taken : Nat) : Prop :=
  match list, context.kind with
  | .orderedList start _ _, .ordered _ counter _ =>
    counter.val = min (start.val + taken) (Saturating.greatest : Ordinal).val
  | .bulletList .., .bulleted _ => True
  | _, _ => False

namespace ListContext

variable {context : ListContext} {list : Node} {taken : Nat}

/-- **The next prefix is that of the next item**, and the list goes on
counting. -/
theorem Counts.nextPrefix (h : context.Counts list taken) :
    context.nextPrefix.1.toList = list.itemPrefix taken ∧
      context.nextPrefix.2.Counts list (taken + 1) := by
  obtain ⟨kind, depth⟩ := context
  cases list with
  | orderedList start =>
    cases kind with
    | ordered _ counter =>
      have hcounter : counter.val = min (start.val + taken) (Saturating.greatest : Ordinal).val := h
      refine ⟨?_, ?_⟩
      · rw [Node.itemPrefix, ← hcounter]
        exact String.toList_ofList
      · have hone : (1 : Ordinal).val = 1 := by decide
        have hpos := capacity_pos (64 - 1)
        have hlower := start.lower
        show (counter + 1).val = min (start.val + (taken + 1 : Nat)) _
        rw [Saturating.val_add, Saturating.val_clamp, hone, hcounter, Saturating.val_greatest]
        omega
    | bulleted => exact h.elim
  | bulletList =>
    cases kind with
    | ordered => exact h.elim
    | bulleted => exact ⟨rfl, trivial⟩
  | _ => exact h.elim

end ListContext

/-- **A list is entered with no prefix taken.** -/
theorem Node.exists_context_of_isList {list : Node} (h : list.isList) (lists : ListStack) :
    ∃ context, (list.enter lists).contexts = context :: lists.contexts ∧ context.Counts list 0 := by
  cases list with
  | orderedList start =>
    refine ⟨_, rfl, ?_⟩
    have hupper := start.upper
    show start.val = min (start.val + 0) _
    rw [Saturating.val_greatest]
    omega
  | bulletList => exact ⟨_, rfl, trivial⟩
  | _ => cases h

/-- Only lists and items change the lists that are open. -/
theorem Node.enter_eq {node : Node} (hlist : ¬ node.isList) (hitem : ¬ node.isItem)
    (lists : ListStack) : node.enter lists = lists := by
  cases node with
  | orderedList | bulletList => exact absurd rfl hlist
  | listItem => exact absurd rfl hitem
  | _ => rfl

namespace ListStack

/-- **The open lists are those above a node**, and each has counted its
items before that node. -/
def Numbers (lists : ListStack) (earlier : List Site) (above : List (Address × Node)) : Prop :=
  List.Forall₂ (fun l context => context.Counts l.2 (earlier.countP (Site.isIn l.1)))
    (above.filter (·.2.isList)) lists.contexts

section Numbers

variable {lists : ListStack} {earlier : List Site} {above : List (Address × Node)}
  {address : Address} {node : Node} {n : Nat}

theorem filter_isList_cons_of_isList (h : node.isList) :
    ((address, node) :: above).filter (·.2.isList) =
      (address, node) :: above.filter (·.2.isList) := List.filter_cons_of_pos h

theorem filter_isList_cons_of_not_isList (h : ¬ node.isList) :
    ((address, node) :: above).filter (·.2.isList) = above.filter (·.2.isList) :=
  List.filter_cons_of_neg h

/-- An item in a list has a list open around it. -/
theorem Numbers.isActive (h : lists.Numbers earlier above)
    (hlist : (Site.mk above node).list?.isSome) : lists.isActive := by
  obtain ⟨l, hl, hp⟩ := List.find?_isSome.mp hlist
  have hmem : l ∈ above.filter (·.2.isList) := List.mem_filter.mpr ⟨hl, hp⟩
  obtain ⟨_ | ⟨context, contexts⟩⟩ := lists
  · cases h.length_eq.symm ▸ List.length_pos_of_mem hmem
  · rfl

/-- An item takes its prefix from the list it belongs to, and no list
around that one counts it. -/
theorem Numbers.nextPrefix (h : lists.Numbers earlier above) (ha : Ancestors address above)
    (hlist : (Site.mk above node).list?.isSome) :
    (lists.nextPrefix?.1.getD "").toList = (Site.mk above node).listPrefix earlier ∧
      lists.nextPrefix?.2.Numbers (earlier ++ [⟨above, node⟩]) above := by
  obtain ⟨l, hl⟩ := Option.isSome_iff_exists.mp hlist
  obtain ⟨around, habove, hother⟩ := ha.exists_around hl
  obtain ⟨contexts⟩ := lists
  unfold Numbers at h ⊢
  rw [habove] at h ⊢
  cases h with
  | @cons _ context _ contexts hcounts hcontexts =>
    obtain ⟨htext, hnext⟩ := hcounts.nextPrefix
    refine ⟨?_, .cons ?_ ?_⟩
    · rw [Site.listPrefix, hl]
      exact htext
    · rw [Site.countP_append_singleton hl, if_pos rfl]
      exact hnext
    · refine ((List.forall₂_and_left _ _).mpr ⟨hother, hcontexts⟩).imp fun l' context' hc => ?_
      rw [Site.countP_append_singleton hl, if_neg hc.1]
      exact hc.2

/-- **A list is entered without items**, and every other node leaves the
open lists as they are until it is an item. -/
theorem Numbers.enter (h : lists.Numbers earlier above) (ha : Ancestors address above)
    (hfresh : Fresh earlier address n)
    (hinside : node.isItem → (Site.mk above node).list?.isSome) :
    (node.enter lists).Numbers (earlier ++ [⟨above, node⟩].filter (·.node.isItem))
      ((n :: address, node) :: above) := by
  by_cases hitem : node.isItem
  · obtain ⟨children, rfl⟩ := Node.exists_of_isItem hitem
    exact (h.nextPrefix ha (hinside rfl)).2
  rw [Node.filter_isItem_own_of_not hitem, List.append_nil]
  by_cases hlist : node.isList
  · obtain ⟨context, hcontexts, hcounts⟩ := Node.exists_context_of_isList hlist lists
    unfold Numbers
    rw [filter_isList_cons_of_isList hlist, hcontexts]
    refine .cons ?_ h
    rw [hfresh.countP_eq_zero]
    exact hcounts
  · unfold Numbers
    rw [filter_isList_cons_of_not_isList hlist, Node.enter_eq hlist hitem]
    exact h

/-- A list that is left is no longer open. -/
theorem Numbers.leave (h : lists.Numbers earlier ((address, node) :: above)) :
    ListStack.Numbers (if node.isList then ⟨lists.contexts.tail⟩ else lists) earlier above := by
  unfold Numbers at h ⊢
  by_cases hlist : node.isList
  · rw [filter_isList_cons_of_isList hlist] at h
    rw [if_pos hlist]
    generalize lists.contexts = contexts at h
    cases h with
    | cons _ hcontexts => exact hcontexts
  · rw [filter_isList_cons_of_not_isList hlist] at h
    rw [if_neg hlist]
    exact h

end Numbers

end ListStack

/-! ## The marks over prefixes -/

/-- Whether an annotation lies over the prefix of an item. -/
def Annotation.isListPrefix (a : Annotation) : Bool :=
  match a.mark with
  | .layout (.listPrefix ..) => true
  | _ => false

/-- The marks over prefixes set so far, in their order. -/
def Rendering.prefixMarks (s : Rendering) : List Annotation :=
  s.writer.annotations.filter Annotation.isListPrefix

/-- **A mark over a part of a text** that has no blank. -/
structure Annotation.LiesOver (a : Annotation) (text part : List Char) : Prop where
  between : Text.Between text a.start a.stop part
  solid : Text.IsSolid part

/-- **From one state to a later one these prefixes were written**, each
with a mark of its own over it, and no other mark lies over a prefix. -/
def Rendering.Prefixed (prefixes : List (List Char)) (s t : Rendering) : Prop :=
  s.text <+: t.text ∧ ∃ marks, t.prefixMarks = s.prefixMarks ++ marks ∧
    List.Forall₂ (fun text a => a.LiesOver t.text text) prefixes marks

namespace Rendering.Prefixed

variable {prefixes more : List (List Char)} {s t u : Rendering}

/-- Nothing that is written without such a mark is a prefix. -/
theorem of_isPrefix (htext : s.text <+: t.text) (hmarks : t.prefixMarks = s.prefixMarks) :
    Prefixed [] s t :=
  ⟨htext, [], by rw [hmarks, List.append_nil], .nil⟩

theorem refl (s : Rendering) : Prefixed [] s s := of_isPrefix (List.prefix_refl _) rfl

theorem trans (h : Prefixed prefixes s t) (hmore : Prefixed more t u) :
    Prefixed (prefixes ++ more) s u := by
  obtain ⟨htext, marks, hmarks, hover⟩ := h
  obtain ⟨htext', marks', hmarks', hover'⟩ := hmore
  refine ⟨htext.trans htext', marks ++ marks', ?_, ?_⟩
  · rw [hmarks', hmarks, List.append_assoc]
  · exact List.rel_append
      (hover.imp fun _ _ ho => ⟨ho.between.of_isPrefix htext', ho.solid⟩) hover'

end Rendering.Prefixed

section Steps

variable {sheet : StyleSheet} {options : RenderOptions} {node : Node} {parent : Parent}
  {s t : Rendering}

/-- An item begins with the prefix that it takes. -/
theorem between_opening (hitem : node.isItem) :
    Text.Between (opening sheet options node parent s).text s.cursor
      (s.cursor + Text.size s.nextPrefix) s.nextPrefix := by
  obtain ⟨children, rfl⟩ := Node.exists_of_isItem hitem
  exact ⟨s.text, (s.writer.buffer.append s.nextPrefix).missing '\t', text_opening,
    s.cursor_eq_size.symm, rfl⟩

theorem prefixMarks_opening : (opening sheet options node parent s).prefixMarks =
    s.prefixMarks ++ (node.openingMarks sheet s).reverse.filter Annotation.isListPrefix := by
  unfold Rendering.prefixMarks
  rw [annotations_opening, List.filter_append]

/-- **An item opens with its prefix**, under a mark. -/
theorem prefixed_opening (hsolid : node.isItem → Text.IsSolid s.nextPrefix) :
    Rendering.Prefixed (if node.isItem then [s.nextPrefix] else []) s
      (opening sheet options node parent s) := by
  have htext : s.text <+: (opening sheet options node parent s).text := by
    rw [text_opening]
    exact List.prefix_append _ _
  cases node with
  | listItem children =>
    exact ⟨htext, _, prefixMarks_opening, .cons ⟨between_opening rfl, hsolid rfl⟩ .nil⟩
  | _ => exact .of_isPrefix htext (prefixMarks_opening.trans (List.append_nil _))

/-- No mark over a part of an item lies over its prefix. -/
theorem isListPrefix_partMarks (buffer : Buffer) (extents : List Extent) :
    ∀ a ∈ node.partMarks sheet s buffer extents, ¬ a.isListPrefix := by
  cases node with
  | listItem =>
    unfold Node.partMarks
    dsimp only
    obtain ⟨first, _ | second⟩ := itemBoundaries buffer extents s.cursor buffer.size
    · simp [partMarks, Annotation.isListPrefix]
    · simp [partMarks, Annotation.isListPrefix]
  | _ => exact fun _ ha => absurd ha List.not_mem_nil

theorem isListPrefix_spanMarks (start stop : Nat) :
    ∀ a ∈ node.spanMarks sheet options parent start stop, ¬ a.isListPrefix := by
  intro a ha
  rw [Node.eq_of_mem_spanMarks ha]
  exact Bool.false_ne_true

theorem prefixMarks_closing :
    (closing sheet options node parent s t).prefixMarks = t.prefixMarks := by
  unfold Rendering.prefixMarks Writer.annotations closing
  dsimp only
  rw [List.filter_reverse, List.filter_reverse, List.filter_append, List.filter_append,
    List.filter_eq_nil_iff.mpr (isListPrefix_spanMarks _ _),
    List.filter_eq_nil_iff.mpr (isListPrefix_partMarks _ _), List.nil_append, List.nil_append]

/-- No prefix is written when a node is left. -/
theorem Rendering.Prefixed.closing {u : Rendering} {prefixes : List (List Char)}
    (h : Rendering.Prefixed prefixes u t) :
    Rendering.Prefixed prefixes u (closing sheet options node parent s t) := by
  rw [← List.append_nil prefixes]
  refine h.trans (.of_isPrefix ?_ prefixMarks_closing)
  rw [text_closing]
  exact List.prefix_append _ _

end Steps

/-! ## Walks -/

section Walks

variable {sheet : StyleSheet} {options : RenderOptions} {node : Node} {nodes : List Node}
  {parent : Parent} {s t : Rendering}

/-- **A node takes the prefix of the item that it is**, if it is one. -/
theorem prefixed_own {earlier : List Site} {above : List (Address × Node)} {address : Address}
    (h : s.lists.Numbers earlier above) (ha : Ancestors address above)
    (hinside : node.isItem → (Site.mk above node).list?.isSome) :
    Rendering.Prefixed (prefixesBehind earlier ([Site.mk above node].filter (·.node.isItem))) s
      (opening sheet options node parent s) := by
  have hopening : Rendering.Prefixed (if node.isItem then [s.nextPrefix] else []) s
      (opening sheet options node parent s) :=
    prefixed_opening fun hitem => isSolid_nextPrefix (h.isActive (hinside hitem))
  by_cases hitem : node.isItem
  · rw [if_pos hitem] at hopening
    rwa [Node.filter_isItem_own hitem, prefixesBehind, prefixesBehind,
      ← (h.nextPrefix ha (hinside hitem)).1]
  · rw [if_neg hitem] at hopening
    rwa [Node.filter_isItem_own_of_not hitem]

/-- **A walk writes the prefixes of the items it passes**, and the lists
open around them count on. -/
theorem Walk.prefixed (h : Walk sheet options nodes parent s t) :
    ∀ n address above earlier, Ancestors address above → Fresh earlier address n →
      s.lists.Numbers earlier above →
      (∀ node ∈ nodes, node.itemsInLists (above.any (·.2.isList))) →
      let items := (Node.sitesFrom nodes n address above).filter (·.node.isItem)
      t.lists.Numbers (earlier ++ items) above ∧
        Rendering.Prefixed (prefixesBehind earlier items) s t := by
  induction h with
  | nil =>
    intro n address above earlier _ _ hnumbers _
    refine ⟨?_, .refl _⟩
    exact (List.append_nil earlier).symm ▸ hnumbers
  | @cons node rest parent s t u hdepth below after ihbelow ihafter =>
    intro n address above earlier ha hfresh hnumbers hitems
    obtain ⟨hnode, hrest⟩ := List.forall_mem_cons.mp hitems
    obtain ⟨hinside, hchildren⟩ := Node.itemsInLists_iff.mp hnode
    have hlist : node.isItem → (Site.mk above node).list?.isSome := fun hitem =>
      List.find?_isSome.mpr (List.any_eq_true.mp (hinside hitem))
    -- the children of a node stand behind it, and its siblings behind them
    obtain ⟨hbelow, hprefixed⟩ := ihbelow 0 (n :: address) ((n :: address, node) :: above)
      (earlier ++ [Site.mk above node].filter (·.node.isItem)) (ha.down n node)
      (hfresh.down.append (ha.fresh_own _)) (hnumbers.enter ha hfresh hlist)
      (by rw [List.any_cons, Bool.or_comm]; exact hchildren)
    have hclosed := hbelow.leave
    rw [List.append_assoc, ← Node.filter_isItem_sites] at hclosed
    obtain ⟨hafter, hprefixed'⟩ :=
      ihafter (n + 1) address above _ ha (hfresh.next ha _) hclosed hrest
    dsimp only
    rw [Node.sitesFrom_cons, List.filter_append, prefixesBehind_append, ← List.append_assoc]
    refine ⟨hafter, .trans ?_ hprefixed'⟩
    rw [Node.filter_isItem_sites, prefixesBehind_append]
    exact ((prefixed_own hnumbers ha hlist).trans hprefixed).closing

/-- An item counts in the innermost list only. -/
theorem Node.tail_enter (h : ¬ node.isList) (lists : ListStack) :
    (node.enter lists).contexts.tail = lists.contexts.tail := by
  cases node with
  | orderedList | bulletList => exact absurd rfl h
  | listItem =>
    show lists.nextPrefix?.2.contexts.tail = _
    unfold ListStack.nextPrefix?
    split <;> rename_i hcontexts
    · rfl
    · rw [hcontexts]
      rfl
  | _ => rfl

/-- A list leaves the lists around it as they were, if its children do. -/
theorem lists_closing_of_isList (hlist : node.isList)
    (htail : t.lists.contexts.tail = (opening sheet options node parent s).lists.contexts.tail) :
    (closing sheet options node parent s t).lists = s.lists := by
  obtain ⟨context, hcontexts, -⟩ := Node.exists_context_of_isList hlist s.lists
  have hopening : (opening sheet options node parent s).lists.contexts =
      context :: s.lists.contexts := hcontexts
  unfold closing
  rw [if_pos hlist, htail, hopening]
  rfl

/-- **The lists around the innermost one do not count on the way.** -/
theorem Walk.tail_contexts (h : Walk sheet options nodes parent s t) :
    t.lists.contexts.tail = s.lists.contexts.tail := by
  induction h with
  | nil => rfl
  | @cons node rest parent s t u hdepth below after ihbelow ihafter =>
    rw [ihafter]
    by_cases hlist : node.isList
    · rw [lists_closing_of_isList hlist ihbelow]
    · have hclosing : (closing sheet options node parent s t).lists = t.lists := if_neg hlist
      rw [hclosing, ihbelow]
      exact Node.tail_enter hlist s.lists

end Walks

/-! ## Trimming -/

section Trimming

variable {w : Writer} {a : Annotation} {part : List Char} {parts : List (List Char)}
  {marks : List Annotation}

/-- **A part without blanks is trimmed nowhere**, and neither is the mark
over it. -/
theorem Annotation.LiesOver.finish (h : a.LiesOver w.buffer.toList part) :
    Writer.rebase? w.leadingSize (Text.size w.finish.text.toList) a =
        some (a.onto w.leadingSize (Text.size w.finish.text.toList)) ∧
      w.finish.textAt? (a.onto w.leadingSize (Text.size w.finish.text.toList)) =
        some (String.ofList part) := by
  obtain ⟨hstart, hstop, hbetween⟩ : w.leadingSize ≤ a.start ∧
      a.stop ≤ w.leadingSize + Text.size w.finish.text.toList ∧
      Text.Between w.finish.text.toList (a.start - w.leadingSize) (a.stop - w.leadingSize)
        part := by
    rw [Writer.text_finish]
    exact h.between.trim h.solid
  obtain ⟨-, -, -, -, hsize⟩ := h.between
  have hpos : Text.size part ≠ 0 := fun h0 => h.solid.ne_nil (Text.eq_nil_of_size_eq_zero h0)
  have hkept : a.Kept w.leadingSize (Text.size w.finish.text.toList) :=
    Annotation.kept_iff.mpr (.inl (by omega))
  refine ⟨?_, ?_⟩
  · rw [Writer.rebase?_eq (by omega), if_pos hkept]
  · have honto : a.onto w.leadingSize (Text.size w.finish.text.toList) =
        ⟨a.mark, a.start - w.leadingSize, a.stop - w.leadingSize⟩ := by
      unfold Annotation.onto
      rw [Nat.min_eq_left (by omega), Nat.min_eq_left (by omega)]
    rw [honto, Rendered.textAt?, Rendered.slice?, hbetween.slice?_eq]
    rfl

theorem textAt?_finish
    (h : List.Forall₂ (fun part a => a.LiesOver w.buffer.toList part) parts marks) :
    (marks.filterMap (Writer.rebase? w.leadingSize (Text.size w.finish.text.toList))).map
      w.finish.textAt? = parts.map fun part => some (String.ofList part) := by
  induction h with
  | nil => rfl
  | cons hover _ ih =>
    obtain ⟨hrebase, htext⟩ := hover.finish
    rw [List.filterMap_cons_some hrebase, List.map_cons, List.map_cons, htext, ih]

end Trimming

/-! ## Renderings -/

/-- **The prefixes of a rendering are those of the items**, in the order of
the document: below a bulleted list the bullet, and below an ordered one
the number it starts with and one more for every item before in the same
list, up to the greatest number there is. Trimming takes nothing from
them, and however deep lists are nested, those around a list go on
counting where they were. -/
theorem render_numbers_items {sheet : StyleSheet} {options : RenderOptions} {root : Node}
    {r : Rendered} (h : render sheet options root = .ok r) (hitems : root.itemsInLists) :
    (r.annotations.filter Annotation.isListPrefix).map r.textAt? =
      root.itemPrefixes.map (fun text => some (String.ofList text)) ∧
    ∀ list parent s t, list.isList → (visit sheet options list parent).exec s = (.ok (), t) →
      t.lists = s.lists := by
  obtain ⟨t, hw, rfl⟩ := render_eq_ok_iff.mp h
  refine ⟨?_, fun list parent s t hlist hvisit => ?_⟩
  · obtain ⟨-, -, marks, hmarks, hover⟩ := hw.prefixed 0 [] [] [] ⟨nofun, .nil⟩ nofun .nil
      (List.forall_mem_singleton.mpr hitems)
    rw [Node.sitesFrom_cons, Node.sitesFrom_nil, List.append_nil] at hover
    rw [Writer.filter_annotations_finish fun _ _ _ => rfl]
    have hnew : t.writer.annotations.filter Annotation.isListPrefix = marks := hmarks
    rw [hnew, textAt?_finish hover, Node.itemPrefixes_eq]
    rfl
  · obtain ⟨-, u, hbelow, rfl⟩ := walk_singleton_iff.mp (walk_singleton_iff_exec.mpr hvisit)
    exact lists_closing_of_isList hlist hbelow.tail_contexts

/-- Two lists in the first item of a third, which counts up to the greatest
number: it goes on behind them, and stays there. -/
theorem nested_lists_number_items :
    let inner := Node.orderedList (.clamp (-1)) '.' [.listItem [], .listItem []]
    let item := Node.listItem [.bulletList '-' [.listItem [.paragraph [.text "é"], inner]]]
    let root := Node.document
      [.orderedList (.clamp 9223372036854775806) '.' [item, .listItem [], .listItem []]]
    ∃ r, render {} {} root = .ok r ∧
      (r.annotations.filter Annotation.isListPrefix).map r.textAt? =
        [some "9223372036854775806.", some "•", some "-1.", some "0.",
          some "9223372036854775807.", some "9223372036854775807."] := by
  intro inner item root
  obtain ⟨r, hr⟩ := exists_render_eq_ok {} {} root (by decide)
  have hprefixes : root.itemPrefixes.map (fun text => some (String.ofList text)) =
      [some "9223372036854775806.", some "•", some "-1.", some "0.",
        some "9223372036854775807.", some "9223372036854775807."] := by decide +kernel
  exact ⟨r, hr, (render_numbers_items hr (by decide)).1.trans hprefixes⟩

end StyledMarkdown
