import StyledMarkdown.Proofs.Rendering.Coverage
import StyledMarkdown.Proofs.Tree.Tidy
/-!
# No blank lines

A tidy document is rendered without a blank line. What a run of words adds
to the text is a phrase, and what a block or an item adds are lines: where
the phrase inside ends, the block ends the line, and where a list inside
has ended it already the item adds nothing. A list in an item begins with a
line end, which ends the line of the paragraph before it.
-/

namespace StyledMarkdown

open RenderM
open Text (IsPhrase IsLines NoBlankLine)

/-- **From one state to a later one a text was added** of some kind. -/
def Rendering.Gains (s t : Rendering) (kind : List Char → Prop) : Prop :=
  ∃ added, t.text = s.text ++ added ∧ kind added

section Steps

variable {sheet : StyleSheet} {options : RenderOptions} {node : Node}
  {nodes rest above : List Node} {parent : Parent} {s t u : Rendering}

theorem Rendering.Gains.trans (h : s.Gains t IsLines) (hmore : t.Gains u IsLines) :
    s.Gains u IsLines := by
  obtain ⟨added, htext, hlines⟩ := h
  obtain ⟨more, hmoretext, hmorelines⟩ := hmore
  refine ⟨added ++ more, ?_, hlines.append hmorelines⟩
  rw [hmoretext, htext, List.append_assoc]

theorem Walk.exists_of_cons (h : Walk sheet options (node :: rest) parent s t) :
    ∃ u, Walk sheet options [node] parent s u ∧ Walk sheet options rest parent u t := by
  obtain ⟨u, hvisit, hrest⟩ := exists_of_walk_cons h
  exact ⟨u, walk_singleton_iff_exec.mpr hvisit, hrest⟩

/-- What does not end its line adds what it writes itself and then what its
children add. -/
theorem Walk.text_of_not_endsLine (h : Walk sheet options [node] parent s t)
    (hends : ¬ node.endsLine parent) :
    ∃ inner outer, Walk sheet options node.children node.asParent inner outer ∧
      inner.text = s.text ++ (node.writing options).toList ∧ t.text = outer.text := by
  obtain ⟨-, u, hbelow, rfl⟩ := walk_singleton_iff.mp h
  refine ⟨_, u, hbelow, ?_, ?_⟩
  · rw [text_opening, opens_of_not_endsLine hends]
  · rw [text_closing, closes_of_not_endsLine hends, List.append_nil]

theorem Walk.text_of_leaf (h : Walk sheet options [node] parent s t)
    (hends : ¬ node.endsLine parent) (hleaf : node.children = []) :
    t.text = s.text ++ (node.writing options).toList := by
  obtain ⟨inner, outer, hbelow, hinner, houter⟩ := h.text_of_not_endsLine hends
  rw [hleaf] at hbelow
  obtain _ | _ := hbelow
  rw [houter, hinner]

/-- A phrase behind which a node ends its line. -/
theorem Rendering.Gains.closing {before : Rendering} (h : before.Gains t IsPhrase)
    (hends : node.endsLine parent) :
    before.Gains (closing sheet options node parent s t) IsLines := by
  obtain ⟨phrase, htext, hphrase⟩ := h
  have hlast : t.text.getLast? ≠ some '\n' := by
    rw [htext, List.getLast?_append_of_ne_nil _ hphrase.ne_nil]
    exact hphrase.last
  have hcloses : node.closes parent t = ['\n'] := by
    unfold Node.closes Buffer.missing
    rw [if_pos hends, Buffer.last?_eq]
    exact if_neg hlast
  refine ⟨phrase ++ ['\n'], ?_, .of_isPhrase hphrase⟩
  rw [text_closing, hcloses, htext, List.append_assoc]

/-- A block that writes nothing before the phrase inside it. -/
theorem Walk.gains_ended (h : Walk sheet options [node] parent s t) (hends : node.endsLine parent)
    (hopens : node.opens options parent s = [])
    (hbelow : ∀ u, Walk sheet options node.children node.asParent
      (opening sheet options node parent s) u →
        (opening sheet options node parent s).Gains u IsPhrase) : s.Gains t IsLines := by
  obtain ⟨-, u, hw, rfl⟩ := walk_singleton_iff.mp h
  obtain ⟨phrase, htext, hphrase⟩ := hbelow u hw
  rw [text_opening, hopens, List.append_nil] at htext
  have hgains : s.Gains u IsPhrase := ⟨phrase, htext, hphrase⟩
  exact hgains.closing hends

/-- **Siblings that add lines each add lines together**, and so do those
before each of them. -/
theorem Walk.gains_lines (h : Walk sheet options nodes (parentOf above) s t)
    (hnodes : ∀ node ∈ nodes, ∀ u v, u.lists.isActive = s.lists.isActive →
      Walk sheet options [node] (parentOf above) u v → u.Gains v IsLines) :
    s.Gains t IsLines ∧ ∀ v ∈ siblings sheet options nodes above s, s.Gains v.before IsLines := by
  have hrefl : ∀ s : Rendering, s.Gains s IsLines := fun s =>
    ⟨[], (List.append_nil _).symm, .nil⟩
  induction nodes generalizing s with
  | nil =>
    cases h
    exact ⟨hrefl _, nofun⟩
  | cons node rest ih =>
    obtain ⟨hnode, hrest⟩ := List.forall_mem_cons.mp hnodes
    obtain ⟨u, hvisit, hwalk⟩ := exists_of_walk_cons h
    have hw : Walk sheet options [node] (parentOf above) s u := walk_singleton_iff_exec.mpr hvisit
    have hadds : s.Gains u IsLines := hnode s u rfl hw
    have hactive : u.lists.isActive = s.lists.isActive := hw.sameNesting.isActive
    obtain ⟨hafter, hbefore⟩ := ih hwalk fun node hn v w hv =>
      hrest node hn v w (hv.trans hactive)
    refine ⟨hadds.trans hafter, fun v hv => ?_⟩
    rw [siblings, hvisit] at hv
    rcases List.mem_cons.mp hv with rfl | hv
    · exact hrefl s
    · exact hadds.trans (hbefore v hv)

end Steps

/-! ## Runs, lists and blocks -/

section Tidy

variable {sheet : StyleSheet} {options : RenderOptions} {node : Node}
  {nodes run above : List Node} {parent : Parent} {s t : Rendering}

/-- A word is written on one line. -/
theorem Walk.gains_word (hword : node.IsWord) (h : Walk sheet options [node] parent s t) :
    s.Gains t fun added => added ≠ [] ∧ '\n' ∉ added := by
  induction hword generalizing parent s t with
  | text hne hline | code hne hline =>
    exact ⟨_, h.text_of_leaf Bool.false_ne_true rfl, hne, hline⟩
  | emphasis _ ih | strong _ ih | link _ ih =>
    obtain ⟨inner, outer, hbelow, hinner, houter⟩ := h.text_of_not_endsLine Bool.false_ne_true
    obtain ⟨added, htext, hkind⟩ := ih hbelow
    refine ⟨added, ?_, hkind⟩
    rw [houter, htext, hinner]
    exact congrArg (· ++ added) (List.append_nil _)

/-- A break is written as one character. -/
theorem Walk.text_of_isBreak (hbreak : node.isBreak) (h : Walk sheet options [node] parent s t) :
    ∃ c, t.text = s.text ++ [c] := by
  have hline : "\n".toList = ['\n'] := by decide
  have hspace : " ".toList = [' '] := by decide
  cases node with
  | softBreak =>
    have htext : t.text =
        s.text ++ (if options.softBreaksAsHardBreaks then "\n" else " ").toList :=
      h.text_of_leaf Bool.false_ne_true rfl
    split at htext
    · exact ⟨'\n', hline ▸ htext⟩
    · exact ⟨' ', hspace ▸ htext⟩
  | hardBreak =>
    have htext : t.text = s.text ++ "\n".toList := h.text_of_leaf Bool.false_ne_true rfl
    exact ⟨'\n', hline ▸ htext⟩
  | _ => cases hbreak

/-- **A run adds a phrase**, however its breaks are written. -/
theorem Walk.gains_run (hrun : Node.IsRun run) (h : Walk sheet options run parent s t) :
    s.Gains t IsPhrase := by
  induction hrun generalizing s with
  | word hword =>
    obtain ⟨added, htext, hne, hline⟩ := h.gains_word hword
    exact ⟨added, htext, .of_not_mem hne hline⟩
  | more hword hbreak _ ih =>
    obtain ⟨first, hfirst, hbehind⟩ := h.exists_of_cons
    obtain ⟨second, hsecond, hrest⟩ := hbehind.exists_of_cons
    obtain ⟨word, hwordtext, hne, hline⟩ := hfirst.gains_word hword
    obtain ⟨c, hbreaktext⟩ := hsecond.text_of_isBreak hbreak
    obtain ⟨phrase, htext, hphrase⟩ := ih hrest
    refine ⟨word ++ c :: phrase, ?_, (IsPhrase.of_not_mem hne hline).append_cons c hphrase⟩
    rw [htext, hbreaktext, hwordtext]
    simp

/-- A paragraph inside another block leaves its line to that. -/
theorem Walk.gains_nested_paragraph (hrun : Node.IsRun run) (hplace : parent.placement = .nested)
    (h : Walk sheet options [.paragraph run] parent s t) : s.Gains t IsPhrase := by
  have hends : ¬ (Node.paragraph run).endsLine parent := by
    simp [Node.endsLine, hplace]
  obtain ⟨inner, outer, hbelow, hinner, houter⟩ := h.text_of_not_endsLine hends
  obtain ⟨phrase, htext, hphrase⟩ := hbelow.gains_run hrun
  refine ⟨phrase, ?_, hphrase⟩
  rw [houter, htext, hinner]
  exact congrArg (· ++ phrase) (List.append_nil _)

theorem lineEnd_not_mem_missing_tab (b : Buffer) : '\n' ∉ b.missing '\t' := by
  unfold Buffer.missing
  split
  · exact List.not_mem_nil
  · decide

/-- What stands before the content of an item stands on its first line. -/
theorem lineEnd_not_mem_opens (hitem : node.isItem) (hactive : s.lists.isActive) :
    '\n' ∉ node.opens options parent s := by
  obtain ⟨children, rfl⟩ := Node.exists_of_isItem hitem
  rw [Node.opens]
  exact fun h => (List.mem_append.mp h).elim (isSolid_nextPrefix hactive).lineEnd_not_mem
    (lineEnd_not_mem_missing_tab _)

/-- The first paragraph of an item adds a phrase, its prefix included. -/
theorem Walk.gains_first_paragraph (hitem : node.isItem) (hactive : s.lists.isActive)
    (hrun : Node.IsRun run)
    (h : Walk sheet options [.paragraph run] .other (opening sheet options node parent s) t) :
    s.Gains t IsPhrase := by
  obtain ⟨phrase, htext, hphrase⟩ := h.gains_nested_paragraph hrun rfl
  refine ⟨node.opens options parent s ++ phrase, ?_,
    hphrase.append_left (lineEnd_not_mem_opens hitem hactive)⟩
  rw [htext, text_opening, List.append_assoc]

/-- **A tidy item adds lines, and so does a tidy list** behind the line end
that it may begin with. -/
theorem Walk.gains_tidy (htidy : node.IsTidy) (h : Walk sheet options [node] parent s t) :
    (node.isItem → s.lists.isActive → s.Gains t IsLines) ∧
      (node.isList → (opening sheet options node parent s).Gains t IsLines) := by
  -- by the nesting of lists, where each item is in a list
  induction htidy generalizing parent s t with
  | @list node hlist hne hitems _ ih =>
    refine ⟨fun hitem => absurd hlist (Node.not_isList_of_isItem hitem), fun _ => ?_⟩
    obtain ⟨-, u, hbelow, rfl⟩ := walk_singleton_iff.mp h
    have hbelow : Walk sheet options node.children (parentOf [node])
        (opening sheet options node parent s) u := hbelow
    have hactive : (opening sheet options node parent s).lists.isActive := by
      rw [isActive_opening, hlist, Bool.or_true]
    obtain ⟨added, htext, hlines⟩ := (hbelow.gains_lines fun item hmem v w hv hw =>
      (ih item hmem hw).1 (hitems item hmem) (hv.trans hactive)).1
    -- the last item has ended its line
    have hlast : u.text.getLast? = some '\n' := hbelow.getLast?_of_endsLine hne fun item hmem =>
      Node.endsLine_of_isList_or_isItem (.inr (hitems item hmem))
    exact ⟨added, (text_closing_of_getLast? hlast).trans htext, hlines⟩
  | item hrun =>
    refine ⟨fun hitem hactive => ?_, nofun⟩
    obtain ⟨-, u, hbelow, rfl⟩ := walk_singleton_iff.mp h
    exact (hbelow.gains_first_paragraph hitem hactive hrun).closing rfl
  | itemWithList hrun hlist _ ih =>
    refine ⟨fun hitem hactive => ?_, nofun⟩
    obtain ⟨-, u, hbelow, rfl⟩ := walk_singleton_iff.mp h
    obtain ⟨behind, hfirst, hrest⟩ := hbelow.exists_of_cons
    obtain ⟨phrase, hphrasetext, hphrase⟩ := hfirst.gains_first_paragraph hitem hactive hrun
    obtain ⟨added, htext, hlines⟩ := (ih hrest).2 hlist
    have hbehind : behind.lists.isActive := by
      rw [hfirst.sameNesting.isActive, isActive_opening, hactive, Bool.true_or]
    have hlast : u.text.getLast? = some '\n' := hrest.getLast?_of_endsLine (List.cons_ne_nil _ _)
      (List.forall_mem_singleton.mpr (Node.endsLine_of_isList_or_isItem (.inl hlist)))
    refine ⟨phrase ++ '\n' :: added, ?_, hphrase.append_lines hlines⟩
    rw [text_closing_of_getLast? hlast, htext, text_opening, opens_of_isList hlist,
      if_pos hbehind, hphrasetext]
    simp

theorem isLines_of_isCode {literal : String} (h : Node.IsCode literal) :
    IsLines literal.toList := by
  obtain ⟨lines, -, hlines, heq⟩ := h
  rw [heq]
  exact .of_lines hlines

/-- **A tidy block adds lines** when it stands in a document. -/
theorem Walk.gains_block (hblock : node.IsTidyBlock) (hplace : parent.placement = .outermost)
    (hactive : s.lists.isActive = false) (h : Walk sheet options [node] parent s t) :
    s.Gains t IsLines := by
  have hquote : parent ≠ .blockQuote := by
    rintro rfl
    cases hplace
  cases hblock with
  | paragraph hrun =>
    exact h.gains_ended (decide_eq_true hplace) rfl fun u hu => hu.gains_run hrun
  | heading hrun => exact h.gains_ended rfl rfl fun u hu => hu.gains_run hrun
  | blockQuote hrun =>
    have hopens : ∀ children, (Node.blockQuote children).opens options parent s = [] := by
      rintro children
      exact if_neg hquote
    exact h.gains_ended rfl (hopens _) fun u hu => hu.gains_nested_paragraph hrun rfl
  | fencedCode hcode | indentedCode hcode =>
    exact ⟨_, h.text_of_leaf Bool.false_ne_true rfl, isLines_of_isCode hcode⟩
  | @htmlBlock literal hne hhead hapart =>
    obtain ⟨-, u, hbelow, rfl⟩ := walk_singleton_iff.mp h
    have htext : u.text = s.text ++ literal.toList := by
      cases hbelow
      exact text_opening
    by_cases hlast : literal.toList.getLast? = some '\n'
    · have hulast : u.text.getLast? = some '\n' := by
        rw [htext, List.getLast?_append_of_ne_nil _ hne, hlast]
      refine ⟨_, (text_closing_of_getLast? hulast).trans htext, hhead, fun c hc => ?_, hapart⟩
      exact Option.some.inj (hc.symm.trans hlast)
    · have hgains : s.Gains u IsPhrase := ⟨_, htext, hne, hhead, hlast, hapart⟩
      exact hgains.closing rfl
  | thematicBreak =>
    have hrule : "---\n".toList = ['-', '-', '-'] ++ ['\n'] := by decide
    refine ⟨_, h.text_of_leaf Bool.false_ne_true rfl, ?_⟩
    exact hrule ▸ IsLines.of_isPhrase (.of_not_mem (by decide) (by decide))
  | list hlist htidy =>
    obtain ⟨added, htext, hlines⟩ := (h.gains_tidy htidy).2 hlist
    refine ⟨added, ?_, hlines⟩
    rw [htext, text_opening, opens_of_isList hlist, hactive, if_neg Bool.false_ne_true,
      List.append_nil]

end Tidy

/-! ## Renderings -/

theorem isInfix_trim (text : List Char) : Text.trim text <:+: text := by
  obtain ⟨leading, trailing, htext, -⟩ := Text.exists_trim text
  exact ⟨leading, trailing, by rw [List.append_assoc]; exact htext.symm⟩

/-- **A tidy document is rendered without a blank line**, whatever the
options, and before the text is trimmed each of its blocks begins a line. -/
theorem render_no_blank_lines {sheet : StyleSheet} {options : RenderOptions} {blocks : List Node}
    {r : Rendered} (h : render sheet options (.document blocks) = .ok r)
    (htidy : ∀ block ∈ blocks, block.IsTidyBlock) :
    NoBlankLine r.text.toList ∧
    ∃ t, (visit sheet options (.document blocks) .none).exec {} = (.ok (), t) ∧
      t.writer.finish = r ∧ NoBlankLine t.text ∧
      let root : Visit := ⟨[], .document blocks, {}, t⟩
      let tops := root.children sheet options
      tops.map (fun v => (v.above, v.node)) = blocks.map (fun block => ([root.node], block)) ∧
      ∀ block ∈ tops,
        (visit sheet options block.node block.parent).exec block.before = (.ok (), block.after) ∧
        block.before.text <+: t.text ∧ block.start = Text.size block.before.text ∧
        (block.start = 0 ∨ block.before.text.getLast? = some '\n') := by
  obtain ⟨t, hw, rfl⟩ := render_eq_ok_iff.mp h
  obtain ⟨-, u, hbelow, ht⟩ := walk_singleton_iff.mp hw
  have hbelow : Walk sheet options blocks (parentOf [.document blocks])
      (opening sheet options (.document blocks) .none {}) u := hbelow
  have hends : ¬ (Node.document blocks).endsLine .none := Bool.false_ne_true
  have htext : t.text = u.text := by
    rw [ht, text_closing, closes_of_not_endsLine hends, List.append_nil]
  obtain ⟨⟨written, hwritten, hlines⟩, hbefore⟩ := hbelow.gains_lines fun block hblock v w hv hvw =>
    hvw.gains_block (htidy block hblock) rfl hv
  -- the document has written nothing when its first block is entered
  have hempty : (opening sheet options (.document blocks) .none {}).text = [] := rfl
  rw [hempty, List.nil_append] at hwritten
  have hapart : NoBlankLine t.text := by
    rw [htext, hwritten]
    exact hlines.apart
  refine ⟨?_, t, walk_singleton_iff_exec.mp hw, rfl, hapart, map_siblings _ _ _,
    fun v hv => ?_⟩
  · rw [Writer.text_finish]
    exact hapart.of_isInfix (isInfix_trim _)
  · have hmem : v ∈ visits sheet options .entering blocks [.document blocks]
        (opening sheet options (.document blocks) .none {}) := (siblings_sublist _ _ _).subset hv
    obtain ⟨habove, -⟩ := place_of_mem_siblings hv
    obtain ⟨before, hbeforetext, hbeforelines⟩ := hbefore v hv
    rw [hempty, List.nil_append] at hbeforetext
    have hplace : v.parent.placement = .outermost := by
      rw [Visit.parent, habove]
      rfl
    have hstart : v.start = Text.size v.before.text :=
      (start_of_outermost hplace).trans v.before.cursor_eq_size
    refine ⟨hbelow.exec_of_mem_visits hmem, ?_, hstart, ?_⟩
    · rw [htext]
      exact (hbelow.text_visit hmem).trans (hbelow.text_visits hmem).2
    · rw [hstart, hbeforetext]
      rcases hbeforelines.eq_nil_or_getLast? with hnil | hlast
      · exact .inl (congrArg Text.size hnil)
      · exact .inr hlast

/-- A document of blocks of several kinds, among them a list in a list. -/
theorem tidy_blocks_rendered :
    let run := [Node.text "é", .softBreak, .strong [.code "b"]]
    let inner := Node.orderedList 9 '.' [.listItem [.paragraph run]]
    let list := Node.bulletList '-' [.listItem [.paragraph run, inner], .listItem [.paragraph run]]
    let blocks := [list, .blockQuote [.paragraph run], .fencedCode {} "c\nd\n",
      .htmlBlock "<p>", .thematicBreak, .paragraph run]
    (∀ block ∈ blocks, block.IsTidyBlock) ∧
    ∃ r, render {} {} (.document blocks) = .ok r ∧
      r.text = "•\té\nb\n9.\té\nb\n•\té\nb\né\nb\nc\nd\n<p>\n---\né\nb" ∧
      NoBlankLine r.text.toList := by
  intro run inner list blocks
  have hrun : Node.IsRun run :=
    .more (.text (by decide) (by decide)) rfl (.word (.strong (.code (by decide) (by decide))))
  have hinner : inner.IsTidy :=
    .list rfl (by decide) (List.forall_mem_singleton.mpr rfl)
      (List.forall_mem_singleton.mpr (.item hrun))
  have hlist : list.IsTidy := by
    refine .list rfl (by decide) ?_ ?_
    · exact List.forall_mem_cons.mpr ⟨rfl, List.forall_mem_singleton.mpr rfl⟩
    · exact List.forall_mem_cons.mpr
        ⟨.itemWithList hrun rfl hinner, List.forall_mem_singleton.mpr (.item hrun)⟩
  have hcode : Node.IsCode "c\nd\n" := ⟨[['c'], ['d']], by decide, by decide, by decide⟩
  have hblocks : ∀ block ∈ blocks, block.IsTidyBlock := by
    simp only [blocks, List.forall_mem_cons]
    exact ⟨.list rfl hlist, .blockQuote hrun, .fencedCode hcode,
      .htmlBlock (by decide) (by decide) (.of_not_mem (by decide)), .thematicBreak,
      .paragraph hrun, List.forall_mem_nil _⟩
  obtain ⟨r, hr⟩ := exists_render_eq_ok {} {} (.document blocks) (by decide)
  have htext : (render {} {} (.document blocks)).toOption.map Rendered.text =
      some "•\té\nb\n9.\té\nb\n•\té\nb\né\nb\nc\nd\n<p>\n---\né\nb" := by decide +kernel
  rw [hr] at htext
  exact ⟨hblocks, r, hr, Option.some.inj htext, (render_no_blank_lines hr hblocks).1⟩

end StyledMarkdown
