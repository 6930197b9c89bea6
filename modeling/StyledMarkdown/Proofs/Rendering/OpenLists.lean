import StyledMarkdown.Proofs.Rendering.Visits
/-!
# The open lists at a position

Lists are entered and left on the way, and their counters go up, so the
open lists of a state depend on all that was rendered before it. But for
the counters they do not: at every position of a tree they are the lists
above, entered one inside the other. Where the prefix of an item stands is
worked out without the counters, so it can be read off the nodes above.
-/

namespace StyledMarkdown

open RenderM

/-! ## Lists without their counts -/

/-- An open list as it was entered, before any prefix was taken of it. -/
def ListContext.entered (context : ListContext) : ListContext :=
  match context.kind with
  | .ordered start _ largestPrefix => { context with kind := .ordered start start largestPrefix }
  | .bulleted _ => context

namespace ListStack

variable (lists : ListStack)

/-- **The open lists as they were entered.** -/
def entered : ListStack := ⟨lists.contexts.map ListContext.entered⟩

/-- Taking a prefix changes a counter and nothing else. -/
theorem entered_nextPrefix? : lists.nextPrefix?.2.entered = lists.entered := by
  obtain ⟨_ | ⟨⟨kind, depth⟩, contexts⟩⟩ := lists
  · rfl
  · cases kind with
    | ordered => rfl
    | bulleted => rfl

theorem entered_enter (node : Node) : (node.enter lists).entered =
    if node.isList then node.enter lists.entered else lists.entered := by
  have hdepth : lists.entered.depth = lists.depth := List.length_map _
  cases node with
  | orderedList | bulletList =>
    simp only [Node.enter, Node.isList, if_true, push, hdepth]
    rfl
  | listItem => exact lists.entered_nextPrefix?
  | _ => rfl

end ListStack

/-- **The lists that are open below some nodes**, the innermost first:
those among them, entered one inside the other. -/
def listsBelow (above : List Node) : ListStack := (above.filter Node.isList).foldr Node.enter {}

section Lists

variable {sheet : StyleSheet} {options : RenderOptions} {order : Order} {root node : Node}
  {above nodes siblings : List Node} {parent : Parent} {s t : Rendering} {v : Visit}

theorem listsBelow_cons : listsBelow (node :: above) =
    if node.isList then node.enter (listsBelow above) else listsBelow above := by
  unfold listsBelow
  by_cases hlist : node.isList
  · rw [List.filter_cons_of_pos hlist, List.foldr_cons, if_pos hlist]
  · rw [List.filter_cons_of_neg hlist, if_neg hlist]

/-- Entering a list puts one more around what was open. -/
theorem tail_enter_of_isList (h : node.isList) (lists : ListStack) :
    (node.enter lists).contexts.tail = lists.contexts := by
  cases node with
  | orderedList | bulletList => rfl
  | _ => cases h

/-- **Walks leave the open lists as they were**, but for their counters. -/
theorem Walk.entered_lists (h : Walk sheet options nodes parent s t) :
    t.lists.entered = s.lists.entered := by
  induction h with
  | nil => rfl
  | @cons node rest parent s t u hdepth below after ihbelow ihafter =>
    have hopening : t.lists.entered =
        if node.isList then node.enter s.lists.entered else s.lists.entered :=
      ihbelow.trans (s.lists.entered_enter node)
    rw [ihafter]
    by_cases hlist : node.isList
    · -- the list that is left is the one entered, so those around it are back
      have hclosing : (closing sheet options node parent s t).lists = ⟨t.lists.contexts.tail⟩ :=
        if_pos hlist
      have htail : (ListStack.mk t.lists.contexts.tail).entered =
          ⟨t.lists.entered.contexts.tail⟩ := congrArg ListStack.mk List.map_tail
      rw [hclosing, htail, hopening, if_pos hlist, tail_enter_of_isList hlist]
    · have hclosing : (closing sheet options node parent s t).lists = t.lists := if_neg hlist
      rw [hclosing, hopening, if_neg hlist]

/-- **The open lists at a position are those above it**, but for their
counters. -/
theorem Reaches.entered_lists (h : Reaches sheet options root above siblings s) :
    s.lists.entered = listsBelow above := by
  induction h with
  | start => rfl
  | next _ hvisit ih => rw [(walk_singleton_iff_exec.mpr hvisit).entered_lists, ih]
  | @down above rest node s _ ih =>
    have hopening : (opening sheet options node (parentOf above) s).lists =
        node.enter s.lists := rfl
    rw [hopening, s.lists.entered_enter, ih, listsBelow_cons]

/-! ## The geometry of prefixes -/

/-- Where a prefix stands has nothing to do with the counter of its list. -/
theorem PrefixGeometry.of_entered (sheet : StyleSheet) (lists : ListStack) :
    PrefixGeometry.of sheet lists.entered.current? = PrefixGeometry.of sheet lists.current? := by
  obtain ⟨_ | ⟨⟨kind, depth⟩, contexts⟩⟩ := lists
  · rfl
  · cases kind with
    | ordered => rfl
    | bulleted => rfl

/-- **Where the prefix of an item stands** can be read off the lists above
it. -/
theorem Walk.geometry_eq (hw : Walk sheet options [root] (parentOf []) {} t)
    (hv : v ∈ visits sheet options order [root] [] {}) :
    PrefixGeometry.of sheet v.before.lists.current? =
      PrefixGeometry.of sheet (listsBelow v.above).current? := by
  obtain ⟨rest, hreach⟩ := Reaches.start.exists_of_mem_visits hw hv
  rw [← PrefixGeometry.of_entered, hreach.entered_lists]

end Lists

end StyledMarkdown
