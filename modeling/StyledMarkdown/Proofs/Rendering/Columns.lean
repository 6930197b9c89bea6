import StyledMarkdown.Proofs.Rendering.Coverage
import StyledMarkdown.Proofs.Rendering.Geometry
import StyledMarkdown.Proofs.Rendering.Margins
import StyledMarkdown.Proofs.Rendering.Prefixes
/-!
# The columns of prefixes

The prefixes of a list are drawn in cells, one character in each, and how
many cells there are is worked out from the number of the last item. From
zero on that number has the most digits and the column is just as wide as
the widest prefix, three cells at least. Below zero it is the first number
that is the longest, by the sign and perhaps by digits, and there may be
too few cells for it.
-/

namespace StyledMarkdown

/-! ## The numbers of a list -/

/-- **The number of an item** behind so many others of a list that begins
with `start`; it stays at the greatest number there is. -/
def itemNumber (start : Ordinal) (earlier : Nat) : Ordinal := .clamp (start.val + earlier)

section Numbers

variable {start : Ordinal} {earlier items : Nat}

theorem val_itemNumber (start : Ordinal) (earlier : Nat) : (itemNumber start earlier).val =
    min (start.val + earlier) (Saturating.greatest : Ordinal).val := by
  have hlower := start.lower
  have hpos := capacity_pos (64 - 1)
  rw [itemNumber, Saturating.val_clamp, Saturating.val_greatest]
  omega

theorem itemNumber_zero (start : Ordinal) : itemNumber start 0 = start := by
  rw [itemNumber, Int.natCast_zero, Int.add_zero, Saturating.clamp_val]

theorem itemPrefix_orderedList (start : Ordinal) (delimiter : Char) (children : List Node)
    (earlier : Nat) : (Node.orderedList start delimiter children).itemPrefix earlier =
      decimal (itemNumber start earlier).val ++ ['.'] := by
  rw [Node.itemPrefix, val_itemNumber]

/-- **The number that the column of a list of so many items is sized by.** -/
def lastNumber (start : Ordinal) (items : Nat) : Ordinal := start + .clamp ((items : Int) - 1)

theorem val_lastNumber (start : Ordinal) (h : 0 < items) : (lastNumber start items).val =
    min (start.val + min ((items : Int) - 1) (Saturating.greatest : Ordinal).val)
      (Saturating.greatest : Ordinal).val := by
  have hlower := start.lower
  have hpos := capacity_pos (64 - 1)
  rw [lastNumber, Saturating.val_add, Saturating.val_clamp, Saturating.val_clamp,
    Saturating.val_greatest]
  omega

/-- From zero on it is the number of the last item. -/
theorem lastNumber_succ (hstart : 0 ≤ start.val) (items : Nat) :
    lastNumber start (items + 1) = itemNumber start items := by
  have hlast : (lastNumber start (items + 1)).val = _ := val_lastNumber start (Nat.succ_pos items)
  have hitem := val_itemNumber start items
  refine Saturating.ext_val ?_
  omega

/-- **No number of a list has more digits than the one it is sized by**,
unless the list begins so far below zero that its first number has. -/
theorem digitCount_itemNumber_le (h : earlier < items)
    (hstart : -10 < start.val ∨ (decimal start.val).length ≤ digitCount (lastNumber start items)) :
    digitCount (itemNumber start earlier) ≤ digitCount (lastNumber start items) := by
  have hitem := val_itemNumber start earlier
  have hlast := val_lastNumber start (Nat.zero_lt_of_lt h)
  have hgreatest : (Saturating.greatest : Ordinal).val = 9223372036854775807 := by decide
  by_cases hfits : (items : Int) - 1 ≤ (Saturating.greatest : Ordinal).val
  · refine digitCount_mono ?_
    omega
  · -- so many items do not fit between the first number and the greatest one, and the last
    -- number has all the digits there are
    have hnineteen : ¬ digitCount (lastNumber start items) ≤ 18 := by
      intro hfew
      have hsmall : (lastNumber start items).val.toNat < Nat.pow 10 18 :=
        (digitCount_le_iff (by decide)).mp hfew
      have hpow : Nat.pow 10 18 = 1000000000000000000 := by decide
      have hbegins : -(Nat.pow 10 18 : Int) < start.val := by
        rcases hstart with hnear | hshort
        · omega
        · by_cases hneg : start.val < 0
          · exact (length_decimal_le_iff_of_neg hneg (by decide)).mp (by omega)
          · omega
      omega
    have hall := digitCount_le (itemNumber start earlier)
    omega

/-- **When the cells of a list have room for all its prefixes.** -/
theorem prefixes_fit_iff :
    (∀ earlier < items, (decimal (itemNumber start earlier).val).length + 1 ≤
      orderedCells (lastNumber start items)) ↔
    items = 0 ∨ -10 < start.val ∨
      (decimal start.val).length ≤ digitCount (lastNumber start items) := by
  have hten : ∀ z : Int, z < 0 → ((decimal z).length ≤ 2 ↔ -10 < z) := fun z hz =>
    length_decimal_le_iff_of_neg hz Nat.one_pos
  constructor
  · intro hfit
    rcases Nat.eq_zero_or_pos items with hnone | hpos
    · exact .inl hnone
    refine .inr ?_
    by_cases hnear : -10 < start.val
    · exact .inl hnear
    -- two digits and more: the first number has no room but that of the digits counted
    have hfirst := hfit 0 hpos
    rw [itemNumber_zero] at hfirst
    have hlong := hten start.val (by omega)
    unfold orderedCells at hfirst
    omega
  · rintro hroom earlier hlt
    have hstart := hroom.resolve_left (Nat.ne_of_gt (Nat.zero_lt_of_lt hlt))
    have hdigits := digitCount_itemNumber_le hlt hstart
    unfold orderedCells
    by_cases hneg : (itemNumber start earlier).val < 0
    · have hle : start.val ≤ (itemNumber start earlier).val := by
        have hitem := val_itemNumber start earlier
        have hupper := start.upper
        rw [Saturating.val_greatest] at hitem
        omega
      have hshorter := length_decimal_mono_of_neg hle hneg
      have hshort := hten (itemNumber start earlier).val hneg
      omega
    · rw [length_decimal_of_nonneg (by omega)]
      omega

/-- **From zero on the last prefix is the widest.** -/
theorem max?_length_prefixes (hstart : 0 ≤ start.val) (hpos : 0 < items) :
    ((List.range items).map fun earlier =>
      (decimal (itemNumber start earlier).val).length + 1).max? =
        some (digitCount (lastNumber start items) + 1) := by
  have hlength : ∀ earlier, (decimal (itemNumber start earlier).val).length =
      digitCount (itemNumber start earlier) := by
    intro earlier
    have hitem := val_itemNumber start earlier
    have hgreatest : 0 ≤ (Saturating.greatest : Ordinal).val := by decide
    exact length_decimal_of_nonneg (by omega)
  refine List.max?_eq_some_iff.mpr ⟨?_, ?_⟩
  · obtain ⟨last, rfl⟩ := Nat.exists_eq_succ_of_ne_zero (Nat.ne_of_gt hpos)
    refine List.mem_map.mpr ⟨last, List.mem_range.mpr (Nat.lt_succ_self last), ?_⟩
    rw [hlength, lastNumber_succ hstart]
  · intro length hmem
    obtain ⟨earlier, hlt, rfl⟩ := List.mem_map.mp hmem
    rw [hlength]
    exact Nat.succ_le_succ (digitCount_itemNumber_le (List.mem_range.mp hlt) (.inl (by omega)))

end Numbers

/-! ## The prefixes of the items of a list -/

section Items

variable {sheet : StyleSheet} {options : RenderOptions} {list : Node} {nodes above : List Node}
  {s t : Rendering} {context : ListContext} {contexts : List ListContext} {taken : Nat}

/-- **Only the items of a list count in it.** A walk of which no item stands
right in the list around it leaves the open lists as they were. -/
theorem Walk.lists_eq (h : Walk sheet options nodes (parentOf above) s t)
    (hitems : ∀ v ∈ visits sheet options .entering nodes above s, v.node.isItem →
      v.above.head?.any Node.isList)
    (habove : ¬ above.head?.any Node.isList) : t.lists = s.lists := by
  induction h using Walk.inductionAbove with
  | nil => rfl
  | cons node rest above s t u hdepth below after ihbelow ihafter =>
    simp only [mem_visits_cons_of_walk hdepth below] at hitems
    have hitem : ¬ node.isItem := fun hitem => habove (hitems _ (.inl (.inl rfl)) hitem)
    have hclosing : (closing sheet options node (parentOf above) s t).lists = s.lists := by
      by_cases hlist : node.isList
      · exact lists_closing_of_isList hlist below.tail_contexts
      · have hopening : (opening sheet options node (parentOf above) s).lists = s.lists :=
          Node.enter_eq hlist hitem s.lists
        have hbelow := ihbelow (fun v hv => hitems v (.inl (.inr hv))) hlist
        exact (if_neg hlist).trans (hbelow.trans hopening)
    rw [ihafter (fun v hv => hitems v (.inr hv)) habove, hclosing]

/-- **The items of a list take its prefixes in turn**, whatever they hold. -/
theorem Walk.nextPrefix_siblings (h : Walk sheet options nodes (parentOf above) s t)
    (hright : ∀ v ∈ visits sheet options .entering nodes above s, v.node.isItem →
      v.above.head?.any Node.isList)
    (hitems : ∀ node ∈ nodes, node.isItem) (hlists : s.lists.contexts = context :: contexts)
    (hcounts : context.Counts list taken) :
    (siblings sheet options nodes above s).map (·.before.nextPrefix) =
      (List.range' taken nodes.length).map list.itemPrefix := by
  induction nodes generalizing s context taken with
  | nil => rfl
  | cons node rest ih =>
    obtain ⟨hitem, hrest⟩ := List.forall_mem_cons.mp hitems
    obtain _ | @⟨_, _, _, _, u, _, hdepth, below, after⟩ := h
    simp only [mem_visits_cons_of_walk hdepth below] at hright
    obtain ⟨htaken, hnext⟩ := nextPrefix_eq hlists
    obtain ⟨htext, hcounts'⟩ := hcounts.nextPrefix
    have hlist : ¬ node.isList := Node.not_isList_of_isItem hitem
    have hbelow := below.lists_eq (fun v hv => hright v (.inl (.inr hv))) hlist
    -- what is inside the item leaves the lists as the item does that takes its prefix
    have hclosing : (closing sheet options node (parentOf above) s u).lists.contexts =
        context.nextPrefix.2 :: contexts := by
      obtain ⟨children, rfl⟩ := Node.exists_of_isItem hitem
      exact (congrArg ListStack.contexts hbelow).trans hnext
    have hothers := ih after (fun v hv => hright v (.inr hv)) hrest hclosing hcounts'
    rw [siblings, visit_exec_of_ok hdepth below.exec, List.map_cons, hothers, List.length_cons,
      List.range'_succ, List.map_cons, htaken, htext]

end Items

/-! ## The cells of prefixes -/

/-- How many cells the prefix of an item is drawn in. -/
def Visit.cells (sheet : StyleSheet) (v : Visit) : Nat :=
  (PrefixGeometry.of sheet v.before.lists.current?).digits

/-- How many cells an annotation over a prefix draws it in. -/
def Annotation.cells? (a : Annotation) : Option Nat :=
  match a.mark with
  | .layout (.listPrefix digits _ _) => some digits
  | _ => none

/-- **The prefixes of a rendering** and the cells they are drawn in. -/
def Rendered.prefixes (r : Rendered) : List (Option Nat × Option String) :=
  (r.annotations.filter Annotation.isListPrefix).map fun a => (a.cells?, r.textAt? a)

/-- The mark over the prefix of an item that is visited. -/
def Visit.prefixMark (sheet : StyleSheet) (v : Visit) : Annotation where
  mark := .layout (.listPrefix (v.cells sheet)
    (PrefixGeometry.of sheet v.before.lists.current?).digitWidth sheet.listPrefixColor)
  start := v.before.cursor
  stop := v.before.cursor + Text.size v.before.nextPrefix

section Cells

variable {sheet : StyleSheet} {options : RenderOptions} {order : Order} {root : Node}
  {nodes above : List Node} {s t : Rendering} {v list : Visit}

/-- **The marks over prefixes are those of the items**, as they are entered. -/
theorem Walk.prefixMarks_eq (h : Walk sheet options nodes (parentOf above) s t) :
    t.prefixMarks = s.prefixMarks ++
      ((visits sheet options .entering nodes above s).filter (·.node.isItem)).map
        (Visit.prefixMark sheet) := by
  induction h using Walk.inductionAbove with
  | nil =>
    rw [visits]
    exact (List.append_nil _).symm
  | cons node rest above s t u hdepth below after ihbelow ihafter =>
    have hown : ∀ below : List Visit, (((Visit.mk above node s
        (closing sheet options node (parentOf above) s t)) :: below).filter (·.node.isItem)).map
          (Visit.prefixMark sheet) =
        (node.openingMarks sheet s).reverse.filter Annotation.isListPrefix ++
          (below.filter (·.node.isItem)).map (Visit.prefixMark sheet) := by
      intro below
      cases node <;> rfl
    rw [visits_cons_of_walk hdepth below, Order.arrange, List.filter_append, List.map_append, hown,
      ihafter, prefixMarks_closing, ihbelow, prefixMarks_opening]
    simp only [List.append_assoc]

/-- The mark over a prefix lies over what the item took. -/
theorem Walk.liesOver_prefixMark (hw : Walk sheet options [root] (parentOf []) {} t)
    (hv : v ∈ visits sheet options order [root] [] {}) (hitem : v.node.isItem)
    (hinside : v.above.any Node.isList) :
    (v.prefixMark sheet).LiesOver t.text v.before.nextPrefix := by
  obtain ⟨-, u, hbelow, hafter⟩ := hw.exists_of_mem_visits hv
  have htext : (opening sheet options v.node v.parent v.before).text <+: t.text := by
    have hclosing := text_isPrefix_closing sheet options v.node v.parent v.before u
    rw [← hafter] at hclosing
    exact hbelow.text_isPrefix.trans (hclosing.trans (hw.text_visits hv).2)
  exact ⟨(between_opening hitem).of_isPrefix htext,
    isSolid_nextPrefix ((isActive_of_mem_visits hw hv).trans hinside)⟩

/-- **The prefixes of a rendering are those of the items**, in the order of
the document. -/
theorem Walk.prefixes_finish (hw : Walk sheet options [root] (parentOf []) {} t)
    (hitems : root.itemsRightInLists) : t.writer.finish.prefixes =
      ((visits sheet options .entering [root] [] {}).filter (·.node.isItem)).map fun item =>
        (some (item.cells sheet), some (String.ofList item.before.nextPrefix)) := by
  have hmarks : t.writer.annotations.filter Annotation.isListPrefix =
      ((visits sheet options .entering [root] [] {}).filter (·.node.isItem)).map
        (Visit.prefixMark sheet) := hw.prefixMarks_eq
  have hover : ∀ item ∈ (visits sheet options .entering [root] [] {}).filter (·.node.isItem),
      (item.prefixMark sheet).LiesOver t.text item.before.nextPrefix := by
    intro item hmem
    obtain ⟨hv, hitem⟩ := List.mem_filter.mp hmem
    have hhead := head?_of_itemsRightInLists hitems hv hitem
    exact hw.liesOver_prefixMark hv hitem (any_of_head? hhead)
  generalize (visits sheet options .entering [root] [] {}).filter (·.node.isItem) = items
    at hmarks hover
  -- no prefix is cut, so every mark stays and is moved along with its text
  have hkept : (items.map (Visit.prefixMark sheet)).filterMap
      (Writer.rebase? t.writer.leadingSize (Text.size t.writer.finish.text.toList)) =
        items.map fun item => (item.prefixMark sheet).onto t.writer.leadingSize
          (Text.size t.writer.finish.text.toList) := by
    rw [List.filterMap_map, ← List.filterMap_eq_map]
    exact List.filterMap_congr fun item hmem => (hover item hmem).finish.1
  rw [Rendered.prefixes, Writer.filter_annotations_finish fun _ _ _ => rfl, hmarks, hkept,
    List.map_map]
  refine List.map_congr_left fun item hmem => ?_
  exact congrArg (Prod.mk (some (item.cells sheet))) (hover item hmem).finish.2

/-- The items of a list are among those of the rendering. -/
theorem children_sublist_items (hv : list ∈ visits sheet options order nodes above s)
    (hitems : ∀ child ∈ list.node.children, child.isItem) :
    (list.children sheet options).Sublist
      ((visits sheet options order nodes above s).filter (·.node.isItem)) := by
  have hall : ∀ item ∈ list.children sheet options, item.node.isItem := fun item hitem =>
    hitems _ (place_of_mem_siblings hitem).2
  rw [← List.filter_eq_self.mpr hall]
  exact (children_sublist hv).filter _

/-- **The column of an ordered list of items**: its prefixes are those of
its numbers in turn, and all are drawn in the same cells. -/
theorem Walk.column_of_orderedList (hw : Walk sheet options [root] (parentOf []) {} t)
    (hright : root.itemsRightInLists) (hv : list ∈ visits sheet options .entering [root] [] {})
    {start : Ordinal} {delimiter : Char} {children : List Node}
    (hnode : list.node = .orderedList start delimiter children)
    (hitems : ∀ child ∈ children, child.isItem) :
    let column := list.children sheet options
    column.Sublist ((visits sheet options .entering [root] [] {}).filter (·.node.isItem)) ∧
    column.map (fun item => (item.above, item.node)) =
      children.map (fun child => (list.node :: list.above, child)) ∧
    column.map (·.before.nextPrefix.length) = (List.range children.length).map (fun earlier =>
      (decimal (itemNumber start earlier).val).length + 1) ∧
    ∀ item ∈ column, item.cells sheet = orderedCells (lastNumber start children.length) := by
  have hlist : list.node.isList := by rw [hnode]; rfl
  obtain rfl : list.node.children = children := by rw [hnode]; rfl
  obtain ⟨-, u, hbelow, -⟩ := hw.exists_of_mem_visits hv
  obtain ⟨context, hcontexts, hcounts⟩ := Node.exists_context_of_isList hlist list.before.lists
  refine ⟨children_sublist_items hv hitems, map_siblings _ _ _, ?_, fun item hitem => ?_⟩
  · have hprefixes : (list.children sheet options).map (·.before.nextPrefix) =
        (List.range' 0 list.node.children.length).map list.node.itemPrefix := by
      refine hbelow.nextPrefix_siblings (fun v hvbelow => ?_) hitems hcontexts hcounts
      exact head?_of_itemsRightInLists hright (mem_visits_of_mem_below hv hvbelow)
    have hlength : ∀ earlier, (list.node.itemPrefix earlier).length =
        (decimal (itemNumber start earlier).val).length + 1 := by
      intro earlier
      rw [hnode, itemPrefix_orderedList, List.length_append, List.length_singleton]
    have hlengths := congrArg (List.map List.length) hprefixes
    rw [List.map_map, List.map_map, ← List.range_eq_range'] at hlengths
    exact hlengths.trans (List.map_congr_left fun earlier _ => hlength earlier)
  · have hmem := (children_sublist hv).subset hitem
    unfold Visit.cells
    rw [hw.geometry_eq hmem, (place_of_mem_siblings hitem).1, listsBelow_cons, if_pos hlist, hnode]
    rfl

end Cells

/-! ## Renderings -/

/-- **When the prefixes of an ordered list have room in their cells.** They
do when the list has no items, begins above minus ten, or has a last number
with as many digits as the first one has characters. Everywhere else the
first prefix is too long: its sign and its digits are not counted. -/
theorem render_prefixes_fit_iff {sheet : StyleSheet} {options : RenderOptions} {root : Node}
    {r : Rendered} (h : render sheet options root = .ok r) (hright : root.itemsRightInLists) :
    let nodes := visits sheet options .entering [root] [] {}
    let items := nodes.filter (·.node.isItem)
    nodes.map (fun v => (v.above, v.node)) = root.inOrder .entering [] ∧
    r.prefixes = items.map (fun item =>
      (some (item.cells sheet), some (String.ofList item.before.nextPrefix))) ∧
    ∀ list ∈ nodes, ∀ start delimiter children,
      list.node = .orderedList start delimiter children → (∀ child ∈ children, child.isItem) →
      let column := list.children sheet options
      column.Sublist items ∧
      column.map (fun item => (item.above, item.node)) =
        children.map (fun child => (list.node :: list.above, child)) ∧
      ((∀ item ∈ column, item.before.nextPrefix.length ≤ item.cells sheet) ↔
        children = [] ∨ -10 < start.val ∨
          (decimal start.val).length ≤ digitCount (list.node.largestPrefix?.getD start)) := by
  obtain ⟨t, hw, rfl⟩ := render_eq_ok_iff.mp h
  refine ⟨map_visits_singleton _ _ _ _ _, hw.prefixes_finish hright,
    fun list hv start delimiter children hnode hitems => ?_⟩
  have hlast : list.node.largestPrefix?.getD start = lastNumber start children.length := by
    rw [hnode]
    rfl
  obtain ⟨hsublist, hplaces, hlengths, hcells⟩ := hw.column_of_orderedList hright hv hnode hitems
  refine ⟨hsublist, hplaces, ?_⟩
  have hfit : (∀ item ∈ list.children sheet options,
      item.before.nextPrefix.length ≤ item.cells sheet) ↔
      ∀ length ∈ (list.children sheet options).map (·.before.nextPrefix.length),
        length ≤ orderedCells (lastNumber start children.length) := by
    rw [List.forall_mem_map]
    exact forall₂_congr fun item hitem => by rw [hcells item hitem]
  rw [hlast, hfit, hlengths, List.forall_mem_map, ← List.length_eq_zero_iff]
  simp only [List.mem_range]
  exact prefixes_fit_iff

/-- A list that begins with a negative digit, and has numbers on both sides
of zero: three cells are enough. -/
theorem negative_digits_fit :
    let first := Node.listItem [.paragraph [.text "a"], .bulletList '-' [.listItem []]]
    let numbered := Node.orderedList (.clamp (-1)) '.' [first, .listItem []]
    let root := Node.document [numbered]
    let before := opening {} {} root .none {}
    let list : Visit := ⟨[root], numbered, before, ((visit {} {} numbered .document).exec before).2⟩
    ∃ r, render {} {} root = .ok r ∧ list ∈ visits {} {} .entering [root] [] {} ∧
      r.prefixes = [(some 3, some "-1."), (some 1, some "•"), (some 3, some "0.")] ∧
      ∀ item ∈ list.children {} {}, item.before.nextPrefix.length ≤ item.cells {} := by
  intro first numbered root before list
  have hanswer : (render {} {} root).toOption.map Rendered.prefixes =
      some [(some 3, some "-1."), (some 1, some "•"), (some 3, some "0.")] := by decide +kernel
  obtain ⟨r, hr, hprefixes⟩ := exists_render_of_answer hanswer
  have hv : list ∈ visits {} {} .entering [root] [] {} :=
    mem_visits_cons.mpr (.inl (.inr (mem_visits_cons.mpr (.inl (.inl rfl)))))
  obtain ⟨-, -, hlists⟩ := render_prefixes_fit_iff hr (by decide)
  obtain ⟨-, -, hfit⟩ := hlists list hv (.clamp (-1)) '.' [first, .listItem []] rfl (by decide)
  exact ⟨r, hr, hv, hprefixes, hfit.mpr (.inr (.inl (by decide)))⟩

/-- **The prefix of a list that begins with minus ten does not fit**: it has
four characters and three cells. -/
theorem minus_ten_does_not_fit :
    let root := Node.document
      [.orderedList (.clamp (-10)) '.' [.listItem [.paragraph [.text "a"]]]]
    root.itemsRightInLists ∧ ∃ r, render {} {} root = .ok r ∧
      r.prefixes = [(some 3, some "-10.")] ∧ 3 < "-10.".length := by
  intro root
  have hanswer : (render {} {} root).toOption.map Rendered.prefixes =
      some [(some 3, some "-10.")] := by decide +kernel
  obtain ⟨r, hr, hprefixes⟩ := exists_render_of_answer hanswer
  exact ⟨by decide, r, hr, hprefixes, by decide⟩

/-- **The column of an ordered list is no wider than its prefixes.** When
the list begins from zero on, its prefixes have as many cells as the
longest of them has characters, and three at least. -/
theorem render_column_tight {sheet : StyleSheet} {options : RenderOptions} {root : Node}
    {r : Rendered} (h : render sheet options root = .ok r) (hright : root.itemsRightInLists) :
    let nodes := visits sheet options .entering [root] [] {}
    let items := nodes.filter (·.node.isItem)
    nodes.map (fun v => (v.above, v.node)) = root.inOrder .entering [] ∧
    r.prefixes = items.map (fun item =>
      (some (item.cells sheet), some (String.ofList item.before.nextPrefix))) ∧
    ∀ list ∈ nodes, ∀ start delimiter children,
      list.node = .orderedList start delimiter children → (∀ child ∈ children, child.isItem) →
      children ≠ [] → 0 ≤ start.val →
      let column := list.children sheet options
      column.Sublist items ∧
      column.map (fun item => (item.above, item.node)) =
        children.map (fun child => (list.node :: list.above, child)) ∧
      ∃ widest, (column.map (·.before.nextPrefix.length)).max? = some widest ∧
        ∀ item ∈ column, item.cells sheet = max 3 widest := by
  obtain ⟨t, hw, rfl⟩ := render_eq_ok_iff.mp h
  refine ⟨map_visits_singleton _ _ _ _ _, hw.prefixes_finish hright,
    fun list hv start delimiter children hnode hitems hne hstart => ?_⟩
  obtain ⟨hsublist, hplaces, hlengths, hcells⟩ := hw.column_of_orderedList hright hv hnode hitems
  refine ⟨hsublist, hplaces, digitCount (lastNumber start children.length) + 1, ?_,
    fun item hitem => ?_⟩
  · rw [hlengths]
    exact max?_length_prefixes hstart (List.length_pos_iff.mpr hne)
  · rw [hcells item hitem]
    unfold orderedCells
    omega

/-- Three items behind each other up to the greatest number: all have as
many cells as its prefix. -/
theorem greatest_number_column_tight :
    let inner := Node.orderedList 98 '.' [.listItem [], .listItem [], .listItem []]
    let numbered := Node.orderedList (.clamp 9223372036854775806) '.'
      [.listItem [inner], .listItem [], .listItem []]
    let root := Node.document [numbered]
    let before := opening {} {} root .none {}
    let list : Visit := ⟨[root], numbered, before, ((visit {} {} numbered .document).exec before).2⟩
    ∃ r, render {} {} root = .ok r ∧ list ∈ visits {} {} .entering [root] [] {} ∧
      r.prefixes = [(some 20, some "9223372036854775806."), (some 4, some "98."),
        (some 4, some "99."), (some 4, some "100."), (some 20, some "9223372036854775807."),
        (some 20, some "9223372036854775807.")] ∧
      ∃ widest, ((list.children {} {}).map (·.before.nextPrefix.length)).max? = some widest ∧
        ∀ item ∈ list.children {} {}, item.cells {} = max 3 widest := by
  intro inner numbered root before list
  have hanswer : (render {} {} root).toOption.map Rendered.prefixes =
      some [(some 20, some "9223372036854775806."), (some 4, some "98."),
        (some 4, some "99."), (some 4, some "100."), (some 20, some "9223372036854775807."),
        (some 20, some "9223372036854775807.")] := by decide +kernel
  obtain ⟨r, hr, hprefixes⟩ := exists_render_of_answer hanswer
  have hv : list ∈ visits {} {} .entering [root] [] {} :=
    mem_visits_cons.mpr (.inl (.inr (mem_visits_cons.mpr (.inl (.inl rfl)))))
  obtain ⟨-, -, hlists⟩ := render_column_tight hr (by decide)
  obtain ⟨-, -, htight⟩ := hlists list hv (.clamp 9223372036854775806) '.'
    [.listItem [inner], .listItem [], .listItem []] rfl (by decide) (by decide) (by decide)
  exact ⟨r, hr, hv, hprefixes, htight⟩

end StyledMarkdown
