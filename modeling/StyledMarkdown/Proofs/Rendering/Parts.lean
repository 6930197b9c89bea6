import Mathlib.Data.List.Find
import StyledMarkdown.Proofs.Rendering.Ends
import StyledMarkdown.Proofs.Rendering.Spans
/-!
# The parts of an item

An item below a list has a first line, and what follows it up to the first
list inside the item. Where these parts end is worked out from the line
ends of the text and from all the lists rendered so far; of these lists the
only ones that count are those inside the item, and the first of them in
the document is the one that begins first.
-/

namespace StyledMarkdown

open RenderM

/-! ## Lists that are nested in a range -/

section NestedList

variable {extents : List Extent} {start stop n : Nat}

theorem nestedList?_eq_some_iff : nestedList? extents start stop = some n ↔
    (∃ e ∈ extents, (start < e.start ∧ e.stop ≤ stop) ∧ e.start = n) ∧
      ∀ e ∈ extents, start < e.start ∧ e.stop ≤ stop → n ≤ e.start := by
  have hmem : ∀ m, m ∈ (extents.filter fun e => start < e.start && e.stop ≤ stop).map Extent.start ↔
      ∃ e ∈ extents, (start < e.start ∧ e.stop ≤ stop) ∧ e.start = m := by
    intro m
    simp only [List.mem_map, List.mem_filter, Bool.and_eq_true, decide_eq_true_eq, and_assoc]
  rw [nestedList?, List.min?_eq_some_iff, hmem]
  refine and_congr_right fun _ => ⟨fun h e he hrange => ?_, fun h m hm => ?_⟩
  · exact h _ ((hmem _).mpr ⟨e, he, hrange, rfl⟩)
  · obtain ⟨e, he, hrange, rfl⟩ := (hmem m).mp hm
    exact h e he hrange

theorem nestedList?_eq_none_iff : nestedList? extents start stop = none ↔
    ∀ e ∈ extents, ¬ (start < e.start ∧ e.stop ≤ stop) := by
  simp only [nestedList?, List.min?_eq_none_iff, List.map_eq_nil_iff, List.filter_eq_nil_iff,
    Bool.and_eq_true, decide_eq_true_eq]

end NestedList

/-! ## The lists of a walk -/

/-- The extent of a node that is visited. -/
def Visit.extent (v : Visit) : Extent := ⟨v.start, v.stop⟩

/-- **The first list below a node**, in the order of the document. -/
def Visit.firstList? (sheet : StyleSheet) (options : RenderOptions) (v : Visit) : Option Visit :=
  (v.below sheet options .entering).find? fun w => w.node.isList

section Lists

variable {sheet : StyleSheet} {options : RenderOptions} {order : Order} {root node : Node}
  {nodes above : List Node} {parent : Parent} {s t : Rendering} {v w first : Visit} {e : Extent}

theorem mem_extents_closing : e ∈ (closing sheet options node parent s t).extents ↔
    node.isList ∧ e = ⟨node.start parent s, (node.closed parent t).size⟩ ∨ e ∈ t.extents := by
  by_cases hlist : node.isList
  · rw [extents_closing_of_isList hlist, List.mem_cons, and_iff_right hlist]
  · rw [extents_closing_of_not_isList hlist]
    simp [hlist]

/-- **The lists recorded on a walk** are those it visits, each with its
extent. -/
theorem Walk.mem_extents_iff (h : Walk sheet options nodes (parentOf above) s t) :
    e ∈ t.extents ↔ e ∈ s.extents ∨
      ∃ v ∈ visits sheet options order nodes above s, v.node.isList ∧ v.extent = e := by
  induction h using Walk.inductionAbove with
  | nil => simp [visits]
  | cons node rest above s t u hdepth below after ihbelow ihafter =>
    have hopening : (opening sheet options node (parentOf above) s).extents = s.extents := rfl
    have hcons := @mem_visits_cons_of_walk sheet options order node rest above s t
    rw [ihafter, mem_extents_closing, ihbelow, hopening]
    constructor
    · rintro ((⟨hlist, rfl⟩ | hold | ⟨v, hv, hlist⟩) | ⟨v, hv, hlist⟩)
      · exact .inr ⟨_, (hcons hdepth below).mpr (.inl (.inl rfl)), hlist, rfl⟩
      · exact .inl hold
      · exact .inr ⟨v, (hcons hdepth below).mpr (.inl (.inr hv)), hlist⟩
      · exact .inr ⟨v, (hcons hdepth below).mpr (.inr hv), hlist⟩
    · rintro (hold | ⟨v, hv, hlist⟩)
      · exact .inl (.inr (.inl hold))
      · rcases (hcons hdepth below).mp hv with (rfl | hv) | hv
        · exact .inl (.inl ⟨hlist.1, hlist.2.symm⟩)
        · exact .inl (.inr (.inr ⟨v, hv, hlist⟩))
        · exact .inr ⟨v, hv, hlist⟩

theorem start_eq_cursor (h : v.node.isList ∨ v.node.isItem) : v.start = v.before.cursor :=
  Node.start_eq_cursor h

theorem eq_or_rel_of_find?_eq_some {α : Type} {R : α → α → Prop} {p : α → Bool} {items : List α}
    {a b : α} (hitems : items.Pairwise R) (hfind : items.find? p = some a) (hb : b ∈ items)
    (hp : p b) : b = a ∨ R a b := by
  obtain ⟨-, before, behind, rfl, hbefore⟩ := List.find?_eq_some_iff_append.mp hfind
  rcases List.mem_append.mp hb with hb | hb
  · have := hbefore b hb
    simp [hp] at this
  · rcases List.mem_cons.mp hb with rfl | hb
    · exact .inl rfl
    · exact .inr ((List.pairwise_cons.mp (List.pairwise_append.mp hitems).2.1).1 b hb)

/-- **Of the lists of some kind the first one begins first.** -/
theorem Walk.start_le_of_find? {p : Visit → Bool} (hp : ∀ w, p w → w.node.isList)
    (h : Walk sheet options nodes (parentOf above) s t)
    (hfirst : (visits sheet options .entering nodes above s).find? p = some first)
    (hv : v ∈ visits sheet options .entering nodes above s) (hpv : p v) :
    first.start ≤ v.start := by
  have hfirstlist := hp first (List.find?_some hfirst)
  rw [start_eq_cursor (.inl hfirstlist), start_eq_cursor (.inl (hp v hpv))]
  rcases eq_or_rel_of_find?_eq_some h.pairwise_entering hfirst hv hpv with rfl | hle
  · exact Nat.le_refl _
  · exact cursor_le_of_isPrefix hle

end Lists

/-! ## Where the parts end -/

/-- **The ends of the parts of an item** whose first line ends at `lineEnd`
and whose first list, if there is one, begins at `list`. The first part is
the first line. The second one runs up to the list, or to the end of the
item where there is no list, and there is none when nothing is left for
it: when the list begins with the end of the first line, or the item ends
there. -/
def partEnds (lineEnd stop : Nat) (list : Option Nat) : Nat × Option Nat :=
  (lineEnd + 1,
    match list with
    | some list => if lineEnd < list then some list else none
    | none => if lineEnd + 1 < stop then some stop else none)

section PartEnds

variable {buffer : Buffer} {extents : List Extent} {before line rest : List Char}
  {start stop lineEnd : Nat}

theorem innerLineEnd?_eq (hline : '\n' ∉ line) :
    innerLineEnd? (line ++ '\n' :: rest) start stop =
      if start + Text.size line < stop - 1 then some (start + Text.size line) else none := by
  unfold innerLineEnd?
  rw [lineEnd?_append hline]
  by_cases hlt : start + Text.size line < stop - 1
  · simp [hlt, guard]
  · simp [hlt, guard]

/-- **The boundaries of an item are the ends of its parts**, when the list
found begins at or behind the end of its first line and before its own. -/
theorem itemBoundaries_eq (hbuffer : buffer.toList = before ++ (line ++ '\n' :: rest))
    (hline : '\n' ∉ line)
    (hlist : ∀ list, nestedList? extents (Text.size before) buffer.size = some list →
      Text.size before + Text.size line ≤ list ∧ list < buffer.size) :
    itemBoundaries buffer extents (Text.size before) buffer.size =
      partEnds (Text.size before + Text.size line) buffer.size
        (nestedList? extents (Text.size before) buffer.size) := by
  have hsize : buffer.size = Text.size before + Text.size line + 1 + Text.size rest := by
    rw [Buffer.size_toList, hbuffer, Text.size_append, Text.size_append, Text.size_cons]
    have : ('\n').utf8Size = 1 := rfl
    omega
  rw [itemBoundaries, Buffer.since_eq hbuffer, ← innerLineEnd?.eq_1, innerLineEnd?_eq hline]
  unfold partEnds
  cases hn : nestedList? extents (Text.size before) buffer.size with
  | none =>
    by_cases hinner : Text.size before + Text.size line < buffer.size - 1
    · rw [if_pos hinner]
      dsimp only
      rw [if_pos (by omega)]
    · -- the first line end is the last character
      have hend : buffer.size = Text.size before + Text.size line + 1 := by omega
      rw [if_neg hinner]
      dsimp only
      rw [if_neg (by omega), hend]
  | some list =>
    obtain ⟨hle, hlt⟩ := hlist list hn
    by_cases hinner : Text.size before + Text.size line < buffer.size - 1
    · rw [if_pos hinner]
      dsimp only
      by_cases heq : Text.size before + Text.size line = list
      · rw [if_pos heq, if_neg (by omega), heq]
      · rw [if_neg heq, if_pos (by omega)]
    · -- the list begins with the last character, which is the first line end
      have heq : Text.size before + Text.size line = list := by omega
      rw [if_neg hinner]
      dsimp only
      rw [if_neg (by omega), heq]

/-- The parts lie in the item, the second behind the first. -/
theorem partEnds_ordered {list : Option Nat} (hstop : lineEnd < stop)
    (hlist : ∀ l, list = some l → l < stop) :
    (partEnds lineEnd stop list).1 ≤ stop ∧ ∀ second, (partEnds lineEnd stop list).2 = some second →
      (partEnds lineEnd stop list).1 ≤ second ∧ second ≤ stop := by
  unfold partEnds
  refine ⟨hstop, fun second hsecond => ?_⟩
  cases list with
  | none =>
    simp only at hsecond ⊢
    split at hsecond
    · obtain rfl := Option.some.inj hsecond
      omega
    · cases hsecond
  | some l =>
    have := hlist l rfl
    simp only at hsecond ⊢
    split at hsecond
    · obtain rfl := Option.some.inj hsecond
      omega
    · cases hsecond

end PartEnds

/-! ## Items below a list -/

section Items

variable {sheet : StyleSheet} {options : RenderOptions} {order : Order} {root node : Node}
  {above nodes siblings : List Node} {parent : Parent} {s t : Rendering} {v : Visit}

/-- No list that is reached behind has been recorded yet. -/
theorem Reaches.sound (h : Reaches sheet options root above nodes s) : s.Sound False := by
  induction h with
  | start => exact ⟨fun _ ha => absurd ha List.not_mem_nil, fun _ he => absurd he List.not_mem_nil⟩
  | next _ hvisit ih => exact (walk_singleton_iff_exec.mpr hvisit).sound ih False.elim
  | down _ ih => exact ih.opening

/-- An item below a list begins with its prefix. -/
theorem cursor_lt_cursor_opening (hitem : node.isItem) (hactive : s.lists.isActive) :
    s.cursor < (opening sheet options node parent s).cursor := by
  obtain ⟨children, rfl⟩ := Node.exists_of_isItem hitem
  have hpos : Text.size s.nextPrefix ≠ 0 := fun h =>
    (isSolid_nextPrefix hactive).ne_nil (Text.eq_nil_of_size_eq_zero h)
  rw [Rendering.cursor_eq_size, Rendering.cursor_eq_size, text_opening, Text.size_append,
    Node.opens, Text.size_append]
  omega

/-- **The first list below a node that begins behind the start of it**, in
the order of the document. -/
def Visit.listBehind? (sheet : StyleSheet) (options : RenderOptions) (v : Visit) : Option Visit :=
  (v.below sheet options .entering).find? fun w => w.node.isList && v.start < w.start

/-- **The list found for an item** is the first one inside it that begins
behind its start. -/
theorem Reaches.nestedList?_eq
    (hreach : Reaches sheet options root v.above (v.node :: siblings) v.before)
    (hw : Walk sheet options nodes (parentOf above) s t)
    (hv : v ∈ visits sheet options order nodes above s) (hitem : v.node.isItem) :
    nestedList? v.after.extents v.start v.stop =
      (v.listBehind? sheet options).map Visit.start := by
  obtain ⟨-, u, hbelow, hafter⟩ := hw.exists_of_mem_visits hv
  have hstart : v.start = v.before.cursor := start_eq_cursor (.inr hitem)
  -- the lists recorded before the item begin no later than it does, and those in it end in it
  have hmem : ∀ e, e ∈ v.after.extents ∧ v.start < e.start ∧ e.stop ≤ v.stop ↔
      ∃ w ∈ v.below sheet options .entering,
        (w.node.isList && decide (v.start < w.start)) = true ∧ w.extent = e := by
    intro e
    rw [hafter, extents_closing_of_not_isList (Node.not_isList_of_isItem hitem),
      hbelow.mem_extents_iff]
    simp only [Bool.and_eq_true, decide_eq_true_eq]
    constructor
    · rintro ⟨hold | ⟨w, hinside, hlist, rfl⟩, hlt, -⟩
      · have : e.start ≤ v.before.cursor := hreach.sound.extents e hold
        omega
      · exact ⟨w, hinside, ⟨hlist, hlt⟩, rfl⟩
    · rintro ⟨w, hinside, ⟨hlist, hlt⟩, rfl⟩
      have hends := (hw.text_below ((mem_visits_iff .entering _ _ _).mp hv) hinside).2
      exact ⟨.inr ⟨w, hinside, hlist, rfl⟩, hlt, cursor_le_of_isPrefix hends⟩
  cases hfirst : v.listBehind? sheet options with
  | none =>
    refine nestedList?_eq_none_iff.mpr fun e he hrange => ?_
    obtain ⟨w, hinside, hp, -⟩ := (hmem e).mp ⟨he, hrange⟩
    exact List.find?_eq_none.mp hfirst w hinside hp
  | some first =>
    rw [Visit.listBehind?] at hfirst
    have hp := List.find?_some hfirst
    obtain ⟨he, hrange⟩ := (hmem first.extent).mpr
      ⟨first, List.mem_of_find?_eq_some hfirst, hp, rfl⟩
    refine nestedList?_eq_some_iff.mpr ⟨⟨first.extent, he, hrange, rfl⟩, fun e he hrange => ?_⟩
    obtain ⟨w, hinside, hp, rfl⟩ := (hmem e).mp ⟨he, hrange⟩
    exact hbelow.start_le_of_find? (fun _ h => (Bool.and_eq_true_iff.mp h).1) hfirst hinside hp

/-- Behind a prefix every list of an item begins behind the start of it. -/
theorem Walk.listBehind?_eq (hw : Walk sheet options [root] (parentOf []) {} t)
    (hv : v ∈ visits sheet options order [root] [] {}) (hitem : v.node.isItem)
    (hactive : v.before.lists.isActive) :
    v.listBehind? sheet options = v.firstList? sheet options := by
  refine List.find?_congr fun w hbelow => ?_
  by_cases hlist : w.node.isList
  · have hle := cursor_le_of_isPrefix
      (hw.text_below ((mem_visits_iff .entering _ _ _).mp hv) hbelow).1
    have hopening : v.before.cursor < (opening sheet options v.node v.parent v.before).cursor :=
      cursor_lt_cursor_opening hitem hactive
    have hlt : v.start < w.start := by
      rw [start_eq_cursor (.inl hlist), start_eq_cursor (.inr hitem)]
      omega
    rw [decide_eq_true hlt, Bool.and_true]
  · rw [Bool.eq_false_of_not_eq_true hlist, Bool.false_and]

/-- **The list found for an item below a list is the first one inside it.** -/
theorem Walk.nestedList?_eq (hw : Walk sheet options [root] (parentOf []) {} t)
    (hv : v ∈ visits sheet options order [root] [] {}) (hitem : v.node.isItem)
    (hactive : v.before.lists.isActive) :
    nestedList? v.after.extents v.start v.stop =
      (v.firstList? sheet options).map Visit.start := by
  obtain ⟨rest, hreach⟩ := Reaches.start.exists_of_mem_visits hw hv
  rw [hreach.nestedList?_eq hw hv hitem, hw.listBehind?_eq hv hitem hactive]

/-- **An item ends its last line**, and as a tab stands in front of what is
in it, the line end is its own. -/
theorem exists_written_of_isItem (hitem : node.isItem)
    (hvisit : (visit sheet options node parent).exec s = (.ok (), t)) :
    ∃ written, t.text = s.text ++ written ∧ '\n' ∈ written ∧ t.text.getLast? = some '\n' := by
  obtain ⟨-, u, hexec, rfl⟩ := exists_of_visit_exec hvisit
  have hlast : (closing sheet options node parent s u).text.getLast? = some '\n' :=
    getLast?_closing_of_endsLine (Node.endsLine_of_isList_or_isItem (.inr hitem))
  have htab : (opening sheet options node parent s).text.getLast? = some '\t' := by
    obtain ⟨children, rfl⟩ := Node.exists_of_isItem hitem
    rw [← (s.writer.buffer.append s.nextPrefix).last?_append_missing '\t', Buffer.last?_eq,
      Buffer.append_append]
    rfl
  obtain ⟨behind, hbehind⟩ := (walk_iff.mpr hexec).text_isPrefix.trans
    (text_isPrefix_closing sheet options node parent s u)
  have hne : behind ≠ [] := by
    rintro rfl
    rw [← hbehind, List.append_nil, htab] at hlast
    cases hlast
  refine ⟨node.opens options parent s ++ behind, ?_, ?_, hlast⟩
  · rw [← hbehind, text_opening, List.append_assoc]
  · rw [← hbehind, List.getLast?_append_of_ne_nil _ hne] at hlast
    exact List.mem_append_right _ (List.mem_of_getLast? hlast)

/-- **The parts of an item below a list** end where the tree says. -/
theorem Walk.itemBoundaries_eq (hw : Walk sheet options [root] (parentOf []) {} t)
    (hv : v ∈ visits sheet options order [root] [] {}) (hitem : v.node.isItem)
    (hactive : v.before.lists.isActive) :
    ∃ line rest, v.after.text = v.before.text ++ (line ++ '\n' :: rest) ∧ '\n' ∉ line ∧
      v.start + Text.size line < v.stop ∧
      (∀ list, (v.firstList? sheet options).map Visit.start = some list →
        v.start + Text.size line ≤ list ∧ list < v.stop) ∧
      itemBoundaries v.after.writer.buffer v.after.extents v.start v.stop =
        partEnds (v.start + Text.size line) v.stop
          ((v.firstList? sheet options).map Visit.start) := by
  obtain ⟨rest, hreach⟩ := Reaches.start.exists_of_mem_visits hw hv
  obtain ⟨-, u, hbelow, hafter⟩ := hw.exists_of_mem_visits hv
  obtain ⟨written, htext, hmem, -⟩ :=
    exists_written_of_isItem hitem (hw.exec_of_mem_visits hv)
  obtain ⟨line, rest, rfl, hline⟩ := List.eq_append_cons_of_mem hmem
  have hlist := hw.nestedList?_eq hv hitem hactive
  have hstart : v.start = Text.size v.before.text :=
    (start_eq_cursor (.inr hitem)).trans v.before.cursor_eq_size
  have hextents : ∀ e ∈ v.after.extents, Text.size v.before.text < e.start →
      e.BeginsLine (v.before.text ++ (line ++ '\n' :: rest)) := by
    have hlists := beginsLine_of_mem_extents hreach.sound.extents hbelow.listsSince hactive
    rw [← htext, hafter, extents_closing_of_not_isList (Node.not_isList_of_isItem hitem)]
    exact hlists
  have hfirst : ∀ list, (v.firstList? sheet options).map Visit.start = some list →
      v.start + Text.size line ≤ list ∧ list < v.stop := by
    intro list hsome
    rw [← hlist] at hsome
    obtain ⟨⟨e, he, hrange, rfl⟩, -⟩ := nestedList?_eq_some_iff.mp hsome
    rw [hstart] at hsome hrange ⊢
    obtain ⟨-, -, m, hm, hle⟩ := nestedList?_fit hextents hsome
    rw [lineEnd?_append hline, Option.some.injEq] at hm
    have hlt : e.start < e.stop := (hextents e he hrange.1).1
    omega
  have hstop : v.start + Text.size line < v.stop := by
    have hsize : v.stop = Text.size v.after.text := v.after.cursor_eq_size
    rw [hsize, htext, Text.size_append, Text.size_append, Text.size_cons, hstart]
    have := Char.utf8Size_pos '\n'
    omega
  refine ⟨line, rest, htext, hline, hstop, hfirst, ?_⟩
  rw [← hlist, hstart]
  exact StyledMarkdown.itemBoundaries_eq htext hline fun list hsome => by
    rw [← hstart] at hsome ⊢
    exact hfirst list (hlist.symm.trans hsome)

theorem partMarks_of_isItem (hitem : v.node.isItem) : v.partMarks sheet =
    partMarks sheet (PrefixGeometry.of sheet v.before.lists.current?) v.start
      (itemBoundaries v.after.writer.buffer v.after.extents v.start v.stop) := by
  obtain ⟨children, hnode⟩ := Node.exists_of_isItem hitem
  rw [start_eq_cursor (.inr hitem), Visit.partMarks, hnode]
  rfl

/-- An item is marked with its parts, and then with its span. -/
theorem Walk.exists_marks_of_isItem (h : Walk sheet options nodes (parentOf above) s t)
    (hv : v ∈ visits sheet options order nodes above s) (hitem : v.node.isItem) :
    ∃ older, v.after.writer.marks = v.span sheet :: (v.partMarks sheet ++ older) := by
  obtain ⟨-, u, -, hafter⟩ := h.exists_of_mem_visits hv
  refine ⟨u.writer.marks, ?_⟩
  have hparts : v.partMarks sheet =
      v.node.partMarks sheet v.before (v.node.closed v.parent u) u.extents := by
    unfold Visit.partMarks
    rw [hafter]
    exact partMarks_closing
  have hmarked : v.node.isMarked options v.parent := by
    obtain ⟨children, hnode⟩ := Node.exists_of_isItem hitem
    rw [hnode]
    rfl
  have hspan : v.node.spanMarks sheet options v.parent v.start v.stop = [v.span sheet] :=
    if_pos hmarked
  have hmarks : v.after.writer.marks = v.node.spanMarks sheet options v.parent v.start v.stop ++
      (v.node.partMarks sheet v.before (v.node.closed v.parent u) u.extents ++ u.writer.marks) := by
    unfold Visit.stop
    rw [hafter]
    rfl
  rw [hmarks, hspan, hparts]
  rfl

end Items

/-! ## Renderings -/

/-- **An item below a list has its parts where the tree says.** It ends with
a line end. Its first part is its first line, up to the first line end at
or behind its start; its second part runs from there to the first list
inside it, which begins with a line end and so not before the first one,
or to its own end where there is no list. The margins, the tab stop and
the spacing of the item lie over exactly these parts. -/
theorem render_item_parts {sheet : StyleSheet} {options : RenderOptions} {root : Node}
    {r : Rendered} (h : render sheet options root = .ok r) :
    ∃ t, (visit sheet options root .none).exec {} = (.ok (), t) ∧
    (visits sheet options .entering [root] [] {}).map (fun v => (v.above, v.node)) =
      root.inOrder .entering [] ∧
    ∀ item ∈ visits sheet options .entering [root] [] {},
      item.node.isItem → item.above.any Node.isList →
      (visit sheet options item.node item.parent).exec item.before = (.ok (), item.after) ∧
      item.after.text <+: t.text ∧
      ∃ line rest older,
        let lineEnd := item.start + Text.size line
        let list := (item.firstList? sheet options).map Visit.start
        let parts := partEnds lineEnd item.stop list
        item.start = Text.size item.before.text ∧
        item.after.text = item.before.text ++ (line ++ '\n' :: rest) ∧ '\n' ∉ line ∧
        item.after.text.getLast? = some '\n' ∧
        (∀ l, list = some l → lineEnd ≤ l) ∧
        itemBoundaries item.after.writer.buffer item.after.extents item.start item.stop = parts ∧
        item.after.writer.marks = item.span sheet ::
          (partMarks sheet (PrefixGeometry.of sheet item.before.lists.current?) item.start parts ++
            older) ∧
        item.start < parts.1 ∧ parts.1 ≤ item.stop ∧
        ∀ second, parts.2 = some second → parts.1 ≤ second ∧ second ≤ item.stop := by
  obtain ⟨t, hroot, -⟩ := render_eq_ok_iff.mp h
  have hw : Walk sheet options [root] (parentOf []) {} t := hroot
  refine ⟨t, walk_singleton_iff_exec.mp hw, map_visits_singleton _ _ _ _ _,
    fun item hmem hitem hinside => ⟨hw.exec_of_mem_visits hmem,
      (hw.text_visits hmem).2, ?_⟩⟩
  have hactive : item.before.lists.isActive := (isActive_of_mem_visits hw hmem).trans hinside
  have hstart : item.start = Text.size item.before.text :=
    (start_eq_cursor (.inr hitem)).trans item.before.cursor_eq_size
  obtain ⟨line, rest, htext, hline, hstop, hlist, hparts⟩ :=
    hw.itemBoundaries_eq hmem hitem hactive
  obtain ⟨_, -, -, hlast⟩ := exists_written_of_isItem hitem (hw.exec_of_mem_visits hmem)
  obtain ⟨older, hmarks⟩ := hw.exists_marks_of_isItem hmem hitem
  obtain ⟨hfirst, hsecond⟩ := partEnds_ordered hstop fun l hl => (hlist l hl).2
  rw [partMarks_of_isItem hitem, hparts] at hmarks
  refine ⟨line, rest, older, hstart, htext, hline, hlast, fun l hl => (hlist l hl).1, hparts,
    hmarks, ?_, hfirst, hsecond⟩
  show item.start < item.start + Text.size line + 1
  omega

/-- A list in an item, behind a paragraph with a break in it: the first part
ends in the paragraph and the second one where the list begins. -/
theorem list_behind_break_parts :
    let inner := Node.bulletList '-' [.listItem []]
    let item := Node.listItem [.paragraph [.text "é", .hardBreak, .text "b"], inner]
    let list := Node.bulletList '-' [item]
    let root := Node.document [list]
    ∃ r v line rest, render {} {} root = .ok r ∧ v ∈ visits {} {} .entering [root] [] {} ∧
      v.node = item ∧ v.above = [list, root] ∧
      v.after.text = v.before.text ++ (line ++ '\n' :: rest) ∧ '\n' ∉ line ∧
      itemBoundaries v.after.writer.buffer v.after.extents v.start v.stop =
        partEnds (v.start + Text.size line) v.stop ((v.firstList? {} {}).map Visit.start) := by
  intro inner item list root
  obtain ⟨r, hr⟩ := exists_render_eq_ok {} {} root (by decide)
  obtain ⟨t, -, hnodes, hitems⟩ := render_item_parts hr
  have hmem : ([list, root], item) ∈ root.inOrder .entering [] :=
    .tail _ (.tail _ (.head _))
  rw [← hnodes] at hmem
  obtain ⟨v, hv, hplace⟩ := List.mem_map.mp hmem
  obtain ⟨habove, hnode⟩ := Prod.mk.inj hplace
  obtain ⟨-, -, line, rest, -, -, htext, hline, -, -, hparts, -⟩ :=
    hitems v hv (by rw [hnode]; rfl) (by rw [habove]; rfl)
  exact ⟨r, v, line, rest, hr, hv, hnode, habove, htext, hline, hparts⟩

end StyledMarkdown
