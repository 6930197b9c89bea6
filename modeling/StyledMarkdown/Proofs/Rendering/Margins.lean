import StyledMarkdown.Proofs.Rendering.Parts
/-!
# Margins that do not compete

Where every item stands right in a list, no byte of a text is under two
margins of items, nor under two of their spacings. Items that follow each
other have their marks in their own ranges. An item inside another one
stands in a list inside it, behind the line end that this list begins
with, and the marks of the outer item go no further than that line end.
-/

namespace StyledMarkdown

open RenderM

/-! ## Marks that are apart -/

namespace Annotation

variable {a b : Annotation}

/-- **Two annotations that no byte is under both of.** -/
def Apart (a b : Annotation) : Prop := ∀ n, ¬ (a.Contains n ∧ b.Contains n)

theorem Apart.symm (h : a.Apart b) : b.Apart a := fun n hn => h n hn.symm

theorem apart_of_le (h : a.stop ≤ b.start) : a.Apart b := by
  rintro n ⟨⟨-, hstop⟩, hstart, -⟩
  omega

theorem Apart.onto (h : a.Apart b) (leading length : Nat) :
    (a.onto leading length).Apart (b.onto leading length) := fun _ hn =>
  h _ ⟨contains_of_contains_onto hn.1, contains_of_contains_onto hn.2⟩

/-- Whether an annotation is the margin of a part of an item. -/
def isMargin (a : Annotation) : Bool :=
  match a.mark with
  | .layout (.leadingMargin ..) => true
  | _ => false

/-- Whether an annotation is the spacing of an item. -/
def isSpacing (a : Annotation) : Bool :=
  match a.mark with
  | .layout (.paragraphSpacing ..) => true
  | _ => false

end Annotation

open Annotation (Apart apart_of_le isMargin isSpacing)

/-- The marks over a prefix say how it is written. -/
theorem mark_of_mem_openingMarks {sheet : StyleSheet} {node : Node} {s : Rendering}
    {a : Annotation} (h : a ∈ node.openingMarks sheet s) :
    (∃ digits width color, a.mark = .layout (.listPrefix digits width color)) ∨
      ∃ size, a.mark = .layout (.absoluteSize size) := by
  cases node with
  | listItem children =>
    rcases List.mem_cons.mp h with rfl | h
    · exact .inl ⟨_, _, _, rfl⟩
    · obtain rfl := List.mem_singleton.mp h
      exact .inr ⟨_, rfl⟩
  | _ => cases h

/-- **A kind of mark that belongs to the parts of items**: no span and no
mark over a prefix is of the kind, and the parts of one item have at most
`most` marks of it, which are apart. -/
structure PartKind (p : Annotation → Bool) (most : Nat) : Prop where
  onto : ∀ leading length a, p (a.onto leading length) = p a
  openingMarks : ∀ sheet node s, ∀ a ∈ Node.openingMarks sheet node s, p a = false
  span : ∀ span start stop, p ⟨.span span, start, stop⟩ = false
  apart : ∀ sheet geometry start parts,
    ((partMarks sheet geometry start parts).filter p).Pairwise Apart
  length_le : ∀ sheet geometry start parts,
    ((partMarks sheet geometry start parts).filter p).length ≤ most

/-- An item has a margin for its first part and one for its second. -/
theorem isMargin_partKind : PartKind isMargin 2 where
  onto _ _ _ := rfl
  openingMarks sheet node s a ha := by
    unfold isMargin
    rcases mark_of_mem_openingMarks ha with ⟨_, _, _, hmark⟩ | ⟨_, hmark⟩
    · rw [hmark]
    · rw [hmark]
  span _ _ _ := rfl
  apart sheet geometry start parts := by
    obtain ⟨first, _ | second⟩ := parts
    · exact List.pairwise_singleton _ _
    · -- the second part begins where the first one ends
      refine List.pairwise_pair.mpr (Apart.symm (apart_of_le ?_))
      exact Nat.le_refl first
  length_le sheet geometry start parts := by
    obtain ⟨first, _ | second⟩ := parts
    · exact Nat.le_succ 1
    · exact Nat.le_refl 2

/-- An item has one spacing, over both of its parts. -/
theorem isSpacing_partKind : PartKind isSpacing 1 where
  onto _ _ _ := rfl
  openingMarks sheet node s a ha := by
    unfold isSpacing
    rcases mark_of_mem_openingMarks ha with ⟨_, _, _, hmark⟩ | ⟨_, hmark⟩
    · rw [hmark]
    · rw [hmark]
  span _ _ _ := rfl
  apart sheet geometry start parts := by
    obtain ⟨first, _ | second⟩ := parts
    · exact List.pairwise_singleton _ _
    · exact List.pairwise_singleton _ _
  length_le sheet geometry start parts := by
    obtain ⟨first, _ | second⟩ := parts
    · exact Nat.le_refl 1
    · exact Nat.le_refl 1

/-! ## The marks of one item -/

/-- **Whether every item of a tree stands right in a list.** -/
def Node.itemsRightInLists (root : Node) : Bool :=
  (root.inOrder .entering []).all fun (above, node) =>
    !node.isItem || above.head?.any Node.isList

/-- How many items a tree has, at any level. -/
def Node.itemsWithin (root : Node) : Nat :=
  (root.inOrder .leaving []).countP fun (_, node) => node.isItem

section Item

variable {sheet : StyleSheet} {options : RenderOptions} {order : Order} {root : Node}
  {t : Rendering} {v w first : Visit} {p : Annotation → Bool} {most : Nat}

theorem head?_of_itemsRightInLists (h : root.itemsRightInLists)
    (hv : v ∈ visits sheet options order [root] [] {}) (hitem : v.node.isItem) :
    v.above.head?.any Node.isList := by
  have hmem : (v.above, v.node) ∈ root.inOrder .entering [] := by
    rw [← map_visits_singleton sheet options root [] {}]
    exact List.mem_map.mpr ⟨v, (mem_visits_iff _ _ _ _).mp hv, rfl⟩
  have hhead := List.all_eq_true.mp h _ hmem
  simpa [hitem] using hhead

theorem any_of_head? {above : List Node} (h : above.head?.any Node.isList) :
    above.any Node.isList := by
  cases above with
  | nil => cases h
  | cons node above => exact List.any_eq_true.mpr ⟨node, List.mem_cons_self, h⟩

/-- The marks over the parts of an item begin in it and end with its last
part. -/
theorem range_of_mem_partMarks {geometry : PrefixGeometry} {start : Nat} {parts : Nat × Option Nat}
    (hstart : start ≤ parts.1) (hsecond : ∀ second, parts.2 = some second → parts.1 ≤ second) :
    ∀ a ∈ partMarks sheet geometry start parts,
      start ≤ a.start ∧ a.stop ≤ parts.2.getD parts.1 := by
  obtain ⟨first, second⟩ := parts
  cases second with
  | none =>
    simp only [partMarks, Option.getD_none, Option.map_none, Option.toList_none, List.nil_append,
      List.forall_mem_cons, List.not_mem_nil, false_imp_iff, implies_true, and_true, Nat.le_refl]
  | some second =>
    have hle : first ≤ second := hsecond second rfl
    simp only [partMarks, Option.getD_some, Option.map_some, Option.toList_some,
      List.singleton_append, List.forall_mem_cons, List.not_mem_nil, false_imp_iff, implies_true,
      and_true, Nat.le_refl, true_and]
    exact ⟨hstart, hle, hle⟩

/-- The parts of an item do not go beyond the line end that the first list
inside it begins with. -/
theorem getD_partEnds_le {lineEnd stop list : Nat} (h : lineEnd ≤ list) :
    (partEnds lineEnd stop (some list)).2.getD (partEnds lineEnd stop (some list)).1 ≤
      list + 1 := by
  unfold partEnds
  dsimp only
  split
  · exact Nat.le_succ list
  · exact Nat.succ_le_succ h

/-- **The marks of an item lie in its own range**, before the lists inside
it. -/
theorem Walk.range_of_mem_partMarks (hw : Walk sheet options [root] (parentOf []) {} t)
    (hv : v ∈ visits sheet options order [root] [] {}) (hitem : v.node.isItem)
    (hinside : v.above.any Node.isList) :
    ∀ a ∈ v.partMarks sheet, v.start ≤ a.start ∧ a.stop ≤ v.stop ∧
      ∀ first, v.firstList? sheet options = some first → a.stop ≤ first.start + 1 := by
  have hactive : v.before.lists.isActive := (isActive_of_mem_visits hw hv).trans hinside
  obtain ⟨line, rest, -, -, hstop, hlist, hparts⟩ := hw.itemBoundaries_eq hv hitem hactive
  obtain ⟨hfirst, hsecond⟩ := partEnds_ordered hstop fun l hl => (hlist l hl).2
  rw [partMarks_of_isItem hitem, hparts]
  intro a ha
  obtain ⟨hstart, hend⟩ := StyledMarkdown.range_of_mem_partMarks
    (show v.start ≤ v.start + Text.size line + 1 by omega) (fun second h => (hsecond second h).1)
    a ha
  refine ⟨hstart, Nat.le_trans hend ?_, fun first hlists => Nat.le_trans hend ?_⟩
  · cases hparts2 : (partEnds (v.start + Text.size line) v.stop
      ((v.firstList? sheet options).map Visit.start)).2 with
    | none => exact hfirst
    | some second => exact (hsecond second hparts2).2
  · rw [hlists]
    exact getD_partEnds_le (hlist _ (by rw [hlists]; rfl)).1

/-- **An item inside another one stands behind the first list inside that
one**, and behind the line end this list begins with. -/
theorem Walk.exists_firstList? (hw : Walk sheet options [root] (parentOf []) {} t)
    (hv : v ∈ w.below sheet options .entering) (hhead : v.above.head?.any Node.isList)
    (hwmem : w ∈ visits sheet options .entering [root] [] {}) (hwitem : w.node.isItem)
    (hinside : w.above.any Node.isList) :
    ∃ first, w.firstList? sheet options = some first ∧ first.start + 1 ≤ v.before.cursor := by
  obtain ⟨-, _, hbelow, -⟩ := hw.exists_of_mem_visits hwmem
  -- the list around the item is inside the outer one, since that is no list itself
  obtain ⟨list, hlistmem, habove, hvlist⟩ : ∃ u ∈ w.below sheet options .entering,
      v.above = u.node :: u.above ∧ v ∈ u.below sheet options .entering := by
    rcases exists_visit_above hv with habove | hexists
    · rw [habove] at hhead
      exact absurd hhead (Node.not_isList_of_isItem hwitem)
    · exact hexists
  have hlist : list.node.isList := by
    rw [habove] at hhead
    exact hhead
  have hroot := mem_visits_of_mem_below hwmem hlistmem
  have hactive : list.before.lists.isActive := by
    obtain ⟨node, hnode, hnodelist⟩ := List.any_eq_true.mp hinside
    rw [isActive_of_mem_visits hw hroot]
    exact List.any_eq_true.mpr ⟨node,
      (above_isSuffix hlistmem).subset (List.mem_cons_of_mem _ hnode), hnodelist⟩
  have hopens : list.before.cursor + 1 ≤ v.before.cursor := by
    have hle := cursor_le_of_isPrefix (hw.text_below hroot hvlist).1
    rw [Rendering.cursor_eq_size, text_opening, opens_of_isList hlist, if_pos hactive,
      Text.size_append, ← list.before.cursor_eq_size] at hle
    exact hle
  cases hfirst : w.firstList? sheet options with
  | none => exact absurd hlist (List.find?_eq_none.mp hfirst list hlistmem)
  | some first =>
    have hle := hbelow.start_le_of_find? (fun _ h => h) hfirst hlistmem hlist
    rw [start_eq_cursor (.inl hlist)] at hle
    exact ⟨first, rfl, by omega⟩

theorem partMarks_of_not_isItem (h : ¬ v.node.isItem) : v.partMarks sheet = [] := by
  unfold Visit.partMarks
  cases hnode : v.node with
  | listItem => rw [hnode] at h; exact absurd rfl h
  | _ => rfl

/-- The marks of a kind are those that are set over the parts of items. -/
theorem PartKind.filter_annotations (hp : PartKind p most)
    (hw : Walk sheet options [root] (parentOf []) {} t) :
    t.writer.annotations.filter p = (visits sheet options .leaving [root] [] {}).flatMap fun v =>
      ((v.partMarks sheet).filter p).reverse := by
  have hspan : ∀ v : Visit,
      (v.node.spanMarks sheet options v.parent v.start v.stop).filter p = [] := by
    refine fun v => List.filter_eq_nil_iff.mpr fun a ha => ?_
    rw [Node.eq_of_mem_spanMarks ha, hp.span]
    exact Bool.false_ne_true
  rw [hw.filter_annotations (hp.openingMarks sheet)]
  simp only [Visit.marks, List.filter_append, hspan, List.append_nil, List.filter_reverse]
  rfl

/-- **The marks of a kind are apart** in a text whose items all stand right
in a list. -/
theorem Walk.pairwise_apart (hw : Walk sheet options [root] (parentOf []) {} t)
    (hitems : root.itemsRightInLists) (hp : PartKind p most) :
    (t.writer.annotations.filter p).Pairwise Apart := by
  have hrange : ∀ v ∈ visits sheet options .leaving [root] [] {},
      ∀ a ∈ ((v.partMarks sheet).filter p).reverse,
        v.node.isItem ∧ v.above.head?.any Node.isList ∧ v.start ≤ a.start ∧ a.stop ≤ v.stop ∧
          ∀ first, v.firstList? sheet options = some first → a.stop ≤ first.start + 1 := by
    intro v hv a ha
    have hmem : a ∈ v.partMarks sheet := List.mem_of_mem_filter (List.mem_reverse.mp ha)
    by_cases hitem : v.node.isItem
    · have hhead := head?_of_itemsRightInLists hitems hv hitem
      exact ⟨hitem, hhead, hw.range_of_mem_partMarks hv hitem (any_of_head? hhead) a hmem⟩
    · rw [partMarks_of_not_isItem hitem] at hmem
      cases hmem
  rw [hp.filter_annotations hw]
  refine List.pairwise_flatMap.mpr ⟨fun v _ => List.pairwise_reverse.mpr ?_,
    hw.pairwise_leaving.imp_of_mem fun {v w} hv hw' hvw a ha b hb => ?_⟩
  · by_cases hitem : v.node.isItem
    · rw [partMarks_of_isItem hitem]
      exact (hp.apart _ _ _ _).imp Apart.symm
    · rw [partMarks_of_not_isItem hitem]
      exact .nil
  · obtain ⟨hitem, hhead, hstart, hstop, -⟩ := hrange v hv a ha
    obtain ⟨hitem', hhead', hstart', -, hlists⟩ := hrange w hw' b hb
    rcases hvw with hbefore | hbelow
    · -- the second item begins behind the first one
      have hle : v.stop ≤ w.before.cursor := cursor_le_of_isPrefix hbefore
      rw [← start_eq_cursor (.inr hitem')] at hle
      exact apart_of_le (by omega)
    · -- the first item is inside the second one, so behind the first list in it
      obtain ⟨first, hfirst, hle⟩ := hw.exists_firstList? ((mem_visits_iff _ _ _ _).mp hbelow)
        hhead ((mem_visits_iff _ _ _ _).mp hw') hitem' (any_of_head? hhead')
      have hend := hlists first hfirst
      rw [← start_eq_cursor (.inr hitem)] at hle
      exact (apart_of_le (by omega)).symm

theorem length_flatMap_le {α β : Type} {f : α → List β} {q : α → Bool} {items : List α}
    (hle : ∀ a ∈ items, (f a).length ≤ most) (hnil : ∀ a ∈ items, ¬ q a → f a = []) :
    (items.flatMap f).length ≤ most * items.countP q := by
  induction items with
  | nil => exact Nat.le_refl 0
  | cons a items ih =>
    obtain ⟨ha, hle⟩ := List.forall_mem_cons.mp hle
    obtain ⟨hnila, hnil⟩ := List.forall_mem_cons.mp hnil
    have hitems := ih hle hnil
    rw [List.flatMap_cons, List.length_append]
    by_cases hq : q a
    · rw [List.countP_cons_of_pos hq, Nat.mul_succ, Nat.add_comm]
      exact Nat.add_le_add hitems ha
    · rwa [List.countP_cons_of_neg hq, hnila hq, List.length_nil, Nat.zero_add]

/-- **An item has no more marks of a kind** than its parts can have. -/
theorem Walk.length_marks_le (hw : Walk sheet options [root] (parentOf []) {} t)
    (hp : PartKind p most) :
    (t.writer.annotations.filter p).length ≤ most * root.itemsWithin := by
  have hitems : root.itemsWithin =
      (visits sheet options .leaving [root] [] {}).countP fun v => v.node.isItem := by
    rw [Node.itemsWithin, ← map_visits_singleton sheet options root [] {},
      List.countP_map]
    rfl
  rw [hp.filter_annotations hw, hitems]
  refine length_flatMap_le (fun v _ => ?_) fun v _ hitem => ?_
  · rw [List.length_reverse]
    by_cases hitem : v.node.isItem
    · rw [partMarks_of_isItem hitem]
      exact hp.length_le _ _ _ _
    · rw [partMarks_of_not_isItem hitem]
      exact Nat.zero_le most
  · rw [partMarks_of_not_isItem hitem]
    rfl

end Item

/-! ## Renderings -/

/-- Trimming keeps marks apart and adds none. -/
theorem Writer.pairwise_apart_finish {w : Writer} {p : Annotation → Bool} {most : Nat}
    (hp : PartKind p most) (h : (w.annotations.filter p).Pairwise Apart) :
    (w.finish.annotations.filter p).Pairwise Apart := by
  rw [Writer.filter_annotations_finish hp.onto]
  refine h.filterMap _ fun a b hab a' ha' b' hb' => ?_
  obtain rfl := Writer.eq_of_rebase?_eq_some ha'
  obtain rfl := Writer.eq_of_rebase?_eq_some hb'
  exact hab.onto _ _

/-- **No byte is under two margins of items, nor under two spacings**, where
every item stands right in a list. An item has two margins at most and one
spacing. -/
theorem render_margins_apart {sheet : StyleSheet} {options : RenderOptions} {root : Node}
    {r : Rendered} (h : render sheet options root = .ok r) (hitems : root.itemsRightInLists) :
    (r.annotations.filter isMargin).Pairwise Apart ∧
    (r.annotations.filter isSpacing).Pairwise Apart ∧
    (r.annotations.filter isMargin).length ≤ 2 * root.itemsWithin ∧
    (r.annotations.filter isSpacing).length ≤ root.itemsWithin := by
  obtain ⟨t, hw, rfl⟩ := render_eq_ok_iff.mp h
  have hle : ∀ {p most}, PartKind p most →
      (t.writer.finish.annotations.filter p).length ≤ most * root.itemsWithin := by
    intro p most hp
    rw [Writer.filter_annotations_finish hp.onto]
    exact Nat.le_trans (List.length_filterMap_le _ _) (hw.length_marks_le hp)
  refine ⟨Writer.pairwise_apart_finish isMargin_partKind (hw.pairwise_apart hitems
      isMargin_partKind), Writer.pairwise_apart_finish isSpacing_partKind (hw.pairwise_apart hitems
      isSpacing_partKind), hle isMargin_partKind, ?_⟩
  rw [← Nat.one_mul root.itemsWithin]
  exact hle isSpacing_partKind

/-- Numbered items in a bulleted one, and a bulleted one in the first of them. -/
theorem nested_list_margins_apart :
    let innermost := Node.bulletList '*' [.listItem [.paragraph [.text "c"]]]
    let inner := Node.orderedList 1 '.'
      [.listItem [.paragraph [.text "b"], innermost], .listItem []]
    let root := Node.document [.bulletList '-' [.listItem [.paragraph [.text "a"], inner]]]
    ∃ r, render {} {} root = .ok r ∧
      (r.annotations.filter isMargin).Pairwise Apart ∧
      (r.annotations.filter isSpacing).Pairwise Apart ∧
      (r.annotations.filter isMargin).length ≤ 2 * root.itemsWithin ∧
      (r.annotations.filter isSpacing).length ≤ root.itemsWithin := by
  intro innermost inner root
  obtain ⟨r, hr⟩ := exists_render_eq_ok {} {} root (by decide)
  exact ⟨r, hr, render_margins_apart hr (by decide)⟩

end StyledMarkdown
