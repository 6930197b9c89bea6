import StyledMarkdown.Proofs.Rendering.Coverage
import StyledMarkdown.Proofs.Rendering.Parts
/-!
# Items tile their list

A list writes a line end before its items when there is a list around it,
and one behind them when the last of them left none. But an item ends its
last line whatever it holds, so behind the items nothing is ever missing:
they follow each other from where the list begins, or the byte behind its
line end, to where it ends.
-/

namespace StyledMarkdown

/-! ## Items -/

section Items

variable {sheet : StyleSheet} {options : RenderOptions} {order : Order} {root node : Node}
  {nodes above : List Node} {s t : Rendering} {v list : Visit}

theorem hasSpan_of_isList_or_isItem (h : node.isList ∨ node.isItem) :
    node.hasSpan options above := by
  cases node with
  | orderedList | bulletList | listItem => rfl
  | _ => simp [Node.isList, Node.isItem] at h

/-- **An item is not empty and ends with a line end.** -/
theorem Walk.exists_line_of_isItem (hw : Walk sheet options nodes (parentOf above) s t)
    (hv : v ∈ visits sheet options order nodes above s) (hitem : v.node.isItem) :
    v.start < v.stop ∧ ∃ line, v.after.text = v.before.text ++ (line ++ ['\n']) := by
  obtain ⟨written, htext, hmem, hlast⟩ :=
    exists_written_of_isItem hitem (hw.exec_of_mem_visits hv)
  -- what the item writes holds a line end, so it is not empty and ends as the text does
  rw [htext, List.getLast?_append_of_ne_nil _ (List.ne_nil_of_mem hmem)] at hlast
  obtain ⟨line, rfl⟩ := List.getLast?_eq_some_iff.mp hlast
  refine ⟨?_, line, htext⟩
  have hstart : v.start = v.before.cursor := start_eq_cursor (.inr hitem)
  have hstop : v.stop = Text.size v.before.text + Text.size (line ++ ['\n']) := by
    rw [← Text.size_append, ← htext]
    exact v.after.cursor_eq_size
  have hpos : 0 < Text.size (line ++ ['\n']) := by
    have hone : ('\n').utf8Size = 1 := rfl
    rw [Text.size_append, Text.size_cons]
    omega
  rw [hstart, hstop, v.before.cursor_eq_size]
  omega

theorem head?_siblings (h : nodes ≠ []) :
    (siblings sheet options nodes above s).head?.map Visit.before = some s := by
  cases nodes with
  | nil => exact absurd rfl h
  | cons node rest => rfl

/-- **The spans of the items of a list follow each other** up to its end,
from where its children begin. -/
theorem Walk.tiles_items (hw : Walk sheet options nodes (parentOf above) s t)
    (hv : list ∈ visits sheet options order nodes above s)
    (hne : list.node.children ≠ []) (hitems : ∀ child ∈ list.node.children, child.isItem) :
    Annotation.Tiles (opening sheet options list.node list.parent list.before).cursor
      ((list.children sheet options).map (Visit.span sheet)) list.stop := by
  obtain ⟨-, u, hbelow, hafter⟩ := hw.exists_of_mem_visits hv
  have hends : ∀ child ∈ list.node.children, child.endsLine (parentOf (list.node :: list.above)) :=
    fun child hc => Node.endsLine_of_isList_or_isItem (.inr (hitems child hc))
  -- the last item left a line end, so the list adds none
  have hstop : list.stop = u.cursor := by
    have hlast : u.text.getLast? = some '\n' := hbelow.getLast?_of_endsLine hne hends
    unfold Visit.stop
    rw [hafter, Rendering.cursor_eq_size, Rendering.cursor_eq_size, text_closing_of_getLast? hlast]
  rw [hstop]
  exact hbelow.tiles fun child hc _ => Node.start_eq_cursor (.inr (hitems child hc))

/-- **A list around the items that tile it** writes before them the line
end of a nested list and nothing else. -/
theorem Walk.items_of_isList (hw : Walk sheet options [root] (parentOf []) {} t)
    (hv : list ∈ visits sheet options order [root] [] {}) (hlist : list.node.isList)
    (hne : list.node.children ≠ []) (hitems : ∀ child ∈ list.node.children, child.isItem) :
    let line := if list.above.any Node.isList then ['\n'] else []
    let items := list.children sheet options
    items.head?.map (·.before.text) = some (list.before.text ++ line) ∧
    Annotation.Tiles (list.start + Text.size line) (items.map (Visit.span sheet)) list.stop ∧
    ∀ item ∈ items, item.start < item.stop ∧
      ∃ written, item.after.text = item.before.text ++ (written ++ ['\n']) := by
  intro line items
  have hactive : list.before.lists.isActive = list.above.any Node.isList :=
    isActive_of_mem_visits hw hv
  have hopening : (opening sheet options list.node list.parent list.before).text =
      list.before.text ++ line := by
    rw [text_opening, opens_of_isList hlist, hactive]
  have hstart : list.start = list.before.cursor := start_eq_cursor (.inl hlist)
  refine ⟨?_, ?_, fun item hitem => ?_⟩
  · have hhead : items.head?.map Visit.before =
        some (opening sheet options list.node list.parent list.before) := head?_siblings hne
    have htexts := congrArg (Option.map Rendering.text) hhead
    rw [Option.map_map, Option.map_some, hopening] at htexts
    exact htexts
  · have htiles : Annotation.Tiles _ (items.map (Visit.span sheet)) list.stop :=
      hw.tiles_items hv hne hitems
    rw [Rendering.cursor_eq_size, hopening, Text.size_append, ← Rendering.cursor_eq_size,
      ← hstart] at htiles
    exact htiles
  · obtain ⟨-, hchild⟩ := place_of_mem_siblings hitem
    exact hw.exists_line_of_isItem ((children_sublist hv).subset hitem) (hitems _ hchild)

end Items

/-! ## Renderings -/

/-- **The items of a list tile it.** Before the text is trimmed the items of
a list that holds nothing else follow each other, without gap or overlap,
from where the span of the list begins to where it ends; when there is
another list around it, from behind the line end that the list begins with.
No item is empty, and each ends with a line end, whatever it holds. -/
theorem render_items_tile {sheet : StyleSheet} {options : RenderOptions} {root : Node}
    {r : Rendered} (h : render sheet options root = .ok r) :
    ∃ t, (visit sheet options root .none).exec {} = (.ok (), t) ∧ t.writer.finish = r ∧
    let nodes := visits sheet options .leaving [root] [] {}
    nodes.map (fun v => (v.above, v.node)) = root.inOrder .leaving [] ∧
    ∀ list ∈ nodes, list.node.isList → list.node.children ≠ [] →
      (∀ child ∈ list.node.children, child.isItem) →
      let line := if list.above.any Node.isList then ['\n'] else []
      let items := list.children sheet options
      list.start = Text.size list.before.text ∧ list.stop = Text.size list.after.text ∧
      list.after.text <+: t.text ∧ list.span sheet ∈ t.spans ∧
      items.Sublist nodes ∧
      items.map (fun item => (item.above, item.node)) =
        list.node.children.map (fun child => (list.node :: list.above, child)) ∧
      (items.map (Visit.span sheet)).Sublist t.spans ∧
      items.head?.map (·.before.text) = some (list.before.text ++ line) ∧
      Annotation.Tiles (list.start + Text.size line) (items.map (Visit.span sheet)) list.stop ∧
      ∀ item ∈ items,
        item.start = Text.size item.before.text ∧ item.stop = Text.size item.after.text ∧
        item.start < item.stop ∧
        ∃ written, item.after.text = item.before.text ++ (written ++ ['\n']) := by
  obtain ⟨t, hroot, hfinish⟩ := render_eq_ok_iff.mp h
  have hw : Walk sheet options [root] (parentOf []) {} t := hroot
  refine ⟨t, walk_singleton_iff_exec.mp hw, hfinish, map_visits_singleton _ _ _ _ _,
    fun list hv hlist hne hitems => ?_⟩
  obtain ⟨hhead, htiles, hlines⟩ := hw.items_of_isList hv hlist hne hitems
  have hspan : list.span sheet ∈ t.spans := by
    rw [hw.spans_eq]
    refine List.mem_append_right _ (List.mem_map_of_mem (List.mem_filter.mpr ⟨hv, ?_⟩))
    exact hasSpan_of_isList_or_isItem (.inl hlist)
  have hspans := hw.spans_sublist hv fun child hc =>
    hasSpan_of_isList_or_isItem (.inr (hitems child hc))
  refine ⟨(start_eq_cursor (.inl hlist)).trans list.before.cursor_eq_size,
    list.after.cursor_eq_size, (hw.text_visits hv).2, hspan, children_sublist hv,
    map_siblings _ _ _, hspans, hhead, htiles, fun item hitem => ?_⟩
  have hchild : item.node.isItem := hitems _ (place_of_mem_siblings hitem).2
  exact ⟨(start_eq_cursor (.inr hchild)).trans item.before.cursor_eq_size,
    item.after.cursor_eq_size, hlines item hitem⟩

/-- A list right in an item, with code that ends no line in its first item
and nothing in its second: the line end of the list is before the items,
and each of them ends with one of its own. -/
theorem nested_list_items_tile :
    let inner := Node.bulletList '-' [.listItem [.indentedCode "x"], .listItem []]
    let item := Node.listItem [inner]
    let outer := Node.orderedList 1 '.' [item]
    let root := Node.document [outer]
    let before := opening {} {} item .other
      (opening {} {} outer .document (opening {} {} root .none {}))
    let list : Visit :=
      ⟨[item, outer, root], inner, before, ((visit {} {} inner .other).exec before).2⟩
    ∃ r, render {} {} root = .ok r ∧ list ∈ visits {} {} .leaving [root] [] {} ∧
      (list.start, list.stop) = (3, 15) ∧
      (list.children {} {}).map (fun item => (item.start, item.stop)) = [(4, 10), (10, 15)] ∧
      Annotation.Tiles 4 ((list.children {} {}).map (Visit.span {})) 15 ∧
      ∀ item ∈ list.children {} {},
        ∃ written, item.after.text = item.before.text ++ (written ++ ['\n']) := by
  intro inner item outer root before list
  obtain ⟨r, hr⟩ := exists_render_eq_ok {} {} root (by decide)
  have hv : list ∈ visits {} {} .leaving [root] [] {} := by
    refine mem_visits_cons.mpr (.inl (.inr ?_))
    refine mem_visits_cons.mpr (.inl (.inr ?_))
    refine mem_visits_cons.mpr (.inl (.inr ?_))
    exact mem_visits_cons.mpr (.inl (.inl rfl))
  obtain ⟨t, -, -, -, hlists⟩ := render_items_tile hr
  obtain ⟨-, -, -, -, -, -, -, -, htiles, hitems⟩ := hlists list hv rfl (by decide) (by decide)
  have hextent : (list.start, list.stop) = (3, 15) := by decide +kernel
  obtain ⟨hstart, hstop⟩ := Prod.mk.inj hextent
  rw [hstart, hstop] at htiles
  exact ⟨r, hr, hv, hextent, by decide +kernel, htiles, fun item hitem => (hitems item hitem).2.2.2⟩

end StyledMarkdown
