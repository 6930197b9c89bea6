import StyledMarkdown.Proofs.Rendering.Depth
import StyledMarkdown.Proofs.Rendering.Parts
/-!
# Items outside any list

An item that stands in no list has no prefix, and a list in it begins
without a line end of its own. So the end of the first part is looked for
where no line end may be: one byte behind the start of the list, which cuts
a bullet, or behind a line end that comes after the list. This file says
when the parts of such an item lie in its range all the same.
-/

namespace StyledMarkdown

open RenderM
open Text (IsBoundary)

/-- **Parts that fit a range of a text**: both end in the range and cut no
character, and the second part comes behind the first. -/
structure PartsFit (text : List Char) (start stop : Nat) (parts : Nat × Option Nat) : Prop where
  start_le : start ≤ parts.1
  first_le : parts.1 ≤ stop
  first : IsBoundary text parts.1
  second : ∀ second, parts.2 = some second →
    parts.1 ≤ second ∧ second ≤ stop ∧ IsBoundary text second

section PartsFit

variable {text : List Char} {start stop first last : Nat}

theorem partsFit_none_iff (hle : start ≤ first) (hstop : stop = Text.size text) :
    PartsFit text start stop (first, none) ↔ IsBoundary text first := by
  refine ⟨PartsFit.first, fun h => ⟨hle, hstop ▸ h.le_size, h, ?_⟩⟩
  rintro _ ⟨⟩

theorem partsFit_some_iff (hle : start ≤ first) (hfirst : IsBoundary text first)
    (hlast : IsBoundary text last) (hstop : stop = Text.size text) :
    PartsFit text start stop (first, some last) ↔ first ≤ last := by
  refine ⟨fun h => (h.second last rfl).1, fun h => ⟨hle, hstop ▸ hfirst.le_size, hfirst, ?_⟩⟩
  rintro _ ⟨rfl⟩
  exact ⟨h, hstop ▸ hlast.le_size, hlast⟩

/-- **The marks of an item fit its text when its parts do**, and only then. -/
theorem forall_partMarks_fit_iff {parts : Nat × Option Nat} (sheet : StyleSheet)
    (geometry : PrefixGeometry) (hstart : IsBoundary text start) :
    (∀ a ∈ partMarks sheet geometry start parts, a.Fits text) ↔
      PartsFit text start (Text.size text) parts := by
  refine ⟨fun h => ?_, fun h => partMarks_fit sheet geometry hstart h.start_le h.first
    fun second hsecond => ⟨(h.second second hsecond).1, (h.second second hsecond).2.2⟩⟩
  obtain ⟨first, second⟩ := parts
  have htab : Annotation.Fits ⟨.layout (.tabStop geometry.tabLocation), start, first⟩ text :=
    h _ (.tail _ (List.mem_append_right _ (.head _)))
  refine ⟨htab.ordered, htab.stop_le, htab.stop, ?_⟩
  rintro second rfl
  have hmargin : Annotation.Fits _ text := h _ (.tail _ (List.mem_append_left _ (.head _)))
  exact ⟨hmargin.ordered, hmargin.stop_le, hmargin.stop⟩

end PartsFit

/-! ## Boundaries around any list -/

section Boundaries

variable {buffer : Buffer} {extents : List Extent} {before line rest : List Char}

/-- **The boundaries of an item that ends its first line** and holds a list
that begins anywhere. Where the item is that one line, the first part ends
one byte behind the start of the list; where it goes on, the list must not
begin before the line ends. -/
theorem partsFit_itemBoundaries_iff
    (hbuffer : buffer.toList = before ++ (line ++ '\n' :: rest)) (hline : '\n' ∉ line)
    (hlists : ∀ list, nestedList? extents (Text.size before) buffer.size = some list →
      Text.size before < list ∧ IsBoundary buffer.toList list) :
    PartsFit buffer.toList (Text.size before) buffer.size
        (itemBoundaries buffer extents (Text.size before) buffer.size) ↔
      ∀ list, nestedList? extents (Text.size before) buffer.size = some list →
        if rest = [] then IsBoundary buffer.toList (list + 1)
        else Text.size before + Text.size line ≤ list := by
  have hstop : buffer.size = Text.size buffer.toList := buffer.size_toList
  have hsize : buffer.size = Text.size before + Text.size line + 1 + Text.size rest := by
    rw [hstop, hbuffer, Text.size_append, Text.size_append, Text.size_cons]
    have : ('\n').utf8Size = 1 := rfl
    omega
  have hbehind : IsBoundary buffer.toList (Text.size before + Text.size line + 1) := by
    have hb := isBoundary_succ_of_newline (before ++ line) rest
    rwa [Text.size_append, List.append_assoc, ← hbuffer] at hb
  rw [itemBoundaries, Buffer.since_eq hbuffer, ← innerLineEnd?.eq_1, innerLineEnd?_eq hline]
  by_cases hrest : rest = []
  · -- the first line end is the last character
    have hlast : ¬ Text.size before + Text.size line < buffer.size - 1 := by
      rw [hsize, hrest, Text.size_nil]
      omega
    rw [if_neg hlast]
    cases hnested : nestedList? extents (Text.size before) buffer.size with
    | none =>
      have hend : IsBoundary buffer.toList buffer.size := hstop ▸ Text.isBoundary_size _
      exact iff_of_true ((partsFit_none_iff (by omega) hstop).mpr hend) (by simp)
    | some list =>
      have hlt := (hlists list hnested).1
      simp only [Option.some.injEq, forall_eq', if_pos hrest]
      exact partsFit_none_iff (by omega) hstop
  · have hpos : Text.size rest ≠ 0 := mt Text.eq_nil_of_size_eq_zero hrest
    rw [if_pos (by omega)]
    cases hnested : nestedList? extents (Text.size before) buffer.size with
    | none =>
      have hend : IsBoundary buffer.toList buffer.size := hstop ▸ Text.isBoundary_size _
      exact iff_of_true ((partsFit_some_iff (by omega) hbehind hend hstop).mpr (by omega))
        (by simp)
    | some list =>
      have hlist := (hlists list hnested).2
      simp only [Option.some.injEq, forall_eq', if_neg hrest]
      by_cases heq : Text.size before + Text.size line = list
      · -- the list begins with the line end
        rw [if_pos heq, ← heq]
        exact iff_of_true ((partsFit_none_iff (by omega) hstop).mpr hbehind) (Nat.le_refl _)
      · rw [if_neg heq, partsFit_some_iff (by omega) hbehind hlist hstop]
        omega

end Boundaries

/-! ## Items -/

section Items

variable {sheet : StyleSheet} {options : RenderOptions} {root item : Node}
  {nodes above rest : List Node} {s t : Rendering} {v list : Visit}

/-- A list below a node begins at a boundary of the text that the node
leaves. -/
theorem Walk.isBoundary_listBehind (hw : Walk sheet options nodes (parentOf above) s t)
    (hv : v ∈ visits sheet options .entering nodes above s)
    (hlist : v.listBehind? sheet options = some list) :
    v.start < list.start ∧ IsBoundary v.after.text list.start := by
  rw [Visit.listBehind?] at hlist
  have hp := List.find?_some hlist
  simp only [Bool.and_eq_true, decide_eq_true_eq] at hp
  have hbelow := List.mem_of_find?_eq_some hlist
  refine ⟨hp.2, ?_⟩
  rw [start_eq_cursor (.inl hp.1)]
  exact isBoundary_cursor ((hw.text_visit (mem_visits_of_mem_below hv hbelow)).trans
    (hw.text_below hv hbelow).2)

/-- **When the parts of an item outside any list fit.** The item ends its
last line, and a list in it matters when it begins behind the start of the
item. Without one the parts fit. An item of one line has its first part
end one byte behind the start of the first such list, so a character of
one byte must stand there. In an item of more lines the first such list
must not begin before the first line ends. These are the items whose marks
cut no character and end where they begin or behind. -/
theorem loose_item_parts_fit_iff (hreach : Reaches sheet options root above (item :: rest) s)
    (hitem : item.isItem) (hloose : above.any Node.isList = false)
    (hvisit : (visit sheet options item (parentOf above)).exec s = (.ok (), t)) :
    let v : Visit := ⟨above, item, s, t⟩
    let parts := itemBoundaries t.writer.buffer t.extents v.start v.stop
    let marks := partMarks sheet (PrefixGeometry.of sheet none) v.start parts
    ∃ line behind older,
      t.text = s.text ++ (line ++ '\n' :: behind) ∧ '\n' ∉ line ∧
      t.writer.marks = v.span sheet :: (marks ++ older) ∧
      (PartsFit t.text v.start v.stop parts ↔
        ∀ list, v.listBehind? sheet options = some list →
          if behind = [] then IsBoundary t.text (list.start + 1)
          else v.start + Text.size line ≤ list.start) ∧
      (PartsFit t.text v.start v.stop parts ↔ ∀ a ∈ marks, a.Fits t.text) := by
  intro v parts marks
  have hactive : s.lists.isActive = false := hreach.isActive.trans hloose
  have hstart : v.start = Text.size s.text :=
    (start_eq_cursor (v := v) (.inr hitem)).trans s.cursor_eq_size
  have hstop : v.stop = Text.size t.text := t.cursor_eq_size
  obtain ⟨written, htext, hmem, -⟩ := exists_written_of_isItem hitem hvisit
  obtain ⟨line, behind, rfl, hline⟩ := List.eq_append_cons_of_mem hmem
  have hw : Walk sheet options [item] (parentOf above) s t := walk_singleton_iff_exec.mpr hvisit
  have hv : v ∈ visits sheet options .entering [item] above s :=
    mem_visits_cons.mpr (.inl (.inl (by rw [hvisit])))
  obtain ⟨older, hmarks⟩ := hw.exists_marks_of_isItem hv hitem
  rw [partMarks_of_isItem hitem] at hmarks
  have hcurrent : s.lists.current? = none := by
    rw [ListStack.current?, contexts_of_not_isActive hactive]
    rfl
  rw [hcurrent] at hmarks
  refine ⟨line, behind, older, htext, hline, hmarks, ?_, ?_⟩
  · have hnested : nestedList? t.extents v.start v.stop =
        (v.listBehind? sheet options).map Visit.start := hreach.nestedList?_eq hw hv hitem
    have hfit := @partsFit_itemBoundaries_iff _ t.extents _ _ _ htext hline
    have hsize : t.writer.buffer.size = v.stop := rfl
    rw [hsize, ← hstart, hnested] at hfit
    refine (hfit fun start hsome => ?_).trans ?_
    · obtain ⟨list, hlist, rfl⟩ := Option.map_eq_some_iff.mp hsome
      exact hw.isBoundary_listBehind hv hlist
    · cases v.listBehind? sheet options <;> simp [Rendering.text]
  · have hbegins : IsBoundary t.text v.start := by
      rw [hstart, htext]
      exact Text.isBoundary_of_append _ _
    rw [hstop]
    exact (forall_partMarks_fit_iff sheet _ hbegins).symm

/-- A list behind a line end of a loose item takes nothing from its first
part, and the text behind the list is in no part. -/
theorem list_behind_break_in_loose_item_fits :
    let list := Node.bulletList '-' [.listItem [.text "a"]]
    let item := Node.listItem [.text "é", .hardBreak, list, .text "b"]
    let root := Node.document [item]
    let s := opening {} {} root .none {}
    let t := ((visit {} {} item .document).exec s).2
    let v : Visit := ⟨[root], item, s, t⟩
    Reaches {} {} root [root] [item] s ∧ item.isItem ∧ [root].any Node.isList = false ∧
      (visit {} {} item .document).exec s = (.ok (), t) ∧
      t.text = "\té\n•\ta\nb\n".toList ∧
      PartsFit t.text v.start v.stop (itemBoundaries t.writer.buffer t.extents v.start v.stop) := by
  intro list item root s t v
  have hreach : Reaches {} {} root [root] [item] s := .down .start
  have hvisit : (visit {} {} item .document).exec s = (.ok (), t) :=
    visit_exec_of_fits (by decide +kernel)
  obtain ⟨_, _, _, -, -, -, -, hfit⟩ := loose_item_parts_fit_iff hreach rfl (by decide) hvisit
  exact ⟨hreach, rfl, by decide, hvisit, by decide +kernel, hfit.mpr (by decide +kernel)⟩

/-- **A list that begins an item outside any list has its bullet cut.** The
text of the item is one line, so its first part ends one byte behind the
start of the list, inside the bullet. -/
theorem bullet_in_loose_item_cut :
    let list := Node.bulletList '-' [.listItem [.text "a"]]
    let item := Node.listItem [list]
    let root := Node.document [item]
    let s := opening {} {} root .none {}
    let t := ((visit {} {} item .document).exec s).2
    Reaches {} {} root [root] [item] s ∧ item.isItem ∧ [root].any Node.isList = false ∧
      (visit {} {} item .document).exec s = (.ok (), t) ∧
      t.text = "\t•\ta\n".toList ∧
      itemBoundaries t.writer.buffer t.extents 0 t.cursor = (2, none) ∧
      ¬ IsBoundary t.text 2 := by
  intro list item root s t
  exact ⟨.down .start, rfl, by decide, visit_exec_of_fits (by decide +kernel),
    by decide +kernel, by decide +kernel, by decide +kernel⟩

/-- A list of two items ends a line behind its start, and the second part of
the item around it would end before it begins. -/
example :
    let entry := Node.listItem [.text "a"]
    let t := ((visit {} {} (.listItem [.bulletList '-' [entry, entry]]) .document).exec {}).2
    itemBoundaries t.writer.buffer t.extents 0 t.cursor = (7, some 1) := by decide +kernel

end Items

end StyledMarkdown
