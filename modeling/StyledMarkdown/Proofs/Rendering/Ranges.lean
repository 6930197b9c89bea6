import StyledMarkdown.Proofs.Rendering.Walk
import StyledMarkdown.Proofs.Text.Boundary
/-!
# The ranges of annotations

A range fits a text when it begins and ends between characters, in that
order. The spans always do, since both of their ends were cursors. The
parts of an item end one byte behind a line end or behind the start of a
nested list, so they do where such a list begins with a line end: below
another list. Trimming moves the ranges and they still fit.
-/

namespace StyledMarkdown

open Text (IsBoundary)

/-- **A mark whose range fits a text.** -/
structure Annotation.Fits (a : Annotation) (text : List Char) : Prop where
  ordered : a.start ≤ a.stop
  start : IsBoundary text a.start
  stop : IsBoundary text a.stop

namespace Annotation.Fits

variable {a : Annotation} {text more : List Char}

/-- A range that fits a text fits a longer one. -/
theorem of_isPrefix (h : a.Fits text) (hp : text <+: more) : a.Fits more :=
  ⟨h.ordered, h.start.of_isPrefix hp, h.stop.of_isPrefix hp⟩

theorem stop_le (h : a.Fits text) : a.stop ≤ Text.size text := h.stop.le_size

instance (a : Annotation) (text : List Char) : Decidable (a.Fits text) :=
  decidable_of_iff (a.start ≤ a.stop ∧ IsBoundary text a.start ∧ IsBoundary text a.stop)
    ⟨fun ⟨hordered, hstart, hstop⟩ => ⟨hordered, hstart, hstop⟩,
      fun h => ⟨h.ordered, h.start, h.stop⟩⟩

/-- What is under a range that fits can be read. -/
theorem slice?_isSome (h : a.Fits text) : (Text.slice? text a.start a.stop).isSome :=
  Text.slice?_isSome h.ordered h.start h.stop

end Annotation.Fits

/-! ## The parts of an item -/

/-- An extent that begins with a line end. -/
def Extent.BeginsLine (e : Extent) (text : List Char) : Prop :=
  e.start < e.stop ∧ ∃ before after, text = before ++ '\n' :: after ∧ Text.size before = e.start

theorem Extent.BeginsLine.of_isPrefix {e : Extent} {text more : List Char}
    (h : e.BeginsLine text) (hp : text <+: more) : e.BeginsLine more := by
  obtain ⟨hlt, before, after, rfl, hsize⟩ := h
  obtain ⟨rest, rfl⟩ := hp
  exact ⟨hlt, before, after ++ rest, by simp, hsize⟩

/-- Behind a line end there is a boundary. -/
theorem isBoundary_succ_of_newline (before after : List Char) :
    IsBoundary (before ++ '\n' :: after) (Text.size before + 1) := by
  refine ⟨before ++ ['\n'], after, by simp, ?_⟩
  rw [Text.size_append]
  rfl

/-- The line end in a text that ends its first line and not its last. -/
def innerLineEnd? (text : List Char) (start stop : Nat) : Option Nat := do
  let index := start + (← lineEnd? text)
  guard (index < stop - 1)
  return index

section Boundaries

variable {buffer : Buffer} {extents : List Extent} {before after : List Char} {n list : Nat}

theorem exists_of_innerLineEnd?_eq_some {start stop : Nat}
    (h : innerLineEnd? after start stop = some n) :
    ∃ m, lineEnd? after = some m ∧ n = start + m ∧ n < stop - 1 := by
  unfold innerLineEnd? at h
  obtain ⟨m, hm, h⟩ := Option.bind_eq_some_iff.mp h
  obtain ⟨_, hguard, h⟩ := Option.bind_eq_some_iff.mp h
  obtain rfl := Option.some.inj h
  by_cases hlt : start + m < stop - 1
  · exact ⟨m, hm, rfl, hlt⟩
  · cases (if_neg hlt).symm.trans hguard

/-- Behind an inner line end there is a boundary within the text. -/
theorem innerLineEnd?_fit (h : innerLineEnd? after (Text.size before)
      (Text.size (before ++ after)) = some n) :
    Text.size before ≤ n + 1 ∧ n + 1 ≤ Text.size (before ++ after) ∧
      IsBoundary (before ++ after) (n + 1) := by
  obtain ⟨m, hm, rfl, hlt⟩ := exists_of_innerLineEnd?_eq_some h
  obtain ⟨line, rest, rfl, -, rfl⟩ := exists_of_lineEnd?_eq_some hm
  refine ⟨by omega, by omega, ?_⟩
  have hb := isBoundary_succ_of_newline (before ++ line) rest
  rwa [Text.size_append, List.append_assoc] at hb

theorem exists_of_nestedList?_eq_some {start stop : Nat}
    (h : nestedList? extents start stop = some n) :
    ∃ e ∈ extents, start < e.start ∧ e.start = n := by
  obtain ⟨e, he, rfl⟩ := List.mem_map.mp (List.min?_mem h)
  obtain ⟨he, hrange⟩ := List.mem_filter.mp he
  simp only [Bool.and_eq_true, decide_eq_true_eq] at hrange
  exact ⟨e, he, hrange.1, rfl⟩

/-- **A nested list begins with a line end of its item**, none of which
comes before the first. -/
theorem nestedList?_fit {stop : Nat}
    (hextents : ∀ e ∈ extents, Text.size before < e.start → e.BeginsLine (before ++ after))
    (h : nestedList? extents (Text.size before) stop = some list) :
    IsBoundary (before ++ after) list ∧ IsBoundary (before ++ after) (list + 1) ∧
      ∃ m, lineEnd? after = some m ∧ Text.size before + m ≤ list := by
  obtain ⟨e, he, hlt, rfl⟩ := exists_of_nestedList?_eq_some h
  obtain ⟨-, first, rest, htext, hfirst⟩ := hextents e he hlt
  -- the list begins behind the start, so its line end is one of the text behind it
  obtain ⟨line, rfl, rfl⟩ := Text.exists_append_of_size_le htext (by omega)
  obtain ⟨m, hm, hle⟩ := exists_lineEnd?_of_mem line rest
  have hb := isBoundary_succ_of_newline (before ++ line) rest
  rw [← htext, hfirst] at hb
  refine ⟨⟨_, _, htext, hfirst⟩, hb, m, hm, ?_⟩
  rw [← hfirst, Text.size_append]
  omega

/-- **The boundaries of an item's parts** lie between characters and in
order, when the lists nested in the item begin with a line end. -/
theorem itemBoundaries_fit (hbuffer : buffer.toList = before ++ after)
    (hextents : ∀ e ∈ extents, Text.size before < e.start → e.BeginsLine buffer.toList) :
    let boundaries := itemBoundaries buffer extents (Text.size before) buffer.size
    Text.size before ≤ boundaries.1 ∧ IsBoundary buffer.toList boundaries.1 ∧
      ∀ second, boundaries.2 = some second →
        boundaries.1 ≤ second ∧ IsBoundary buffer.toList second := by
  rw [itemBoundaries, Buffer.since_eq hbuffer, Buffer.size_toList, hbuffer,
    ← innerLineEnd?.eq_1]
  rw [hbuffer] at hextents
  have hstop : Text.size before ≤ Text.size (before ++ after) := by simp
  rcases hp : innerLineEnd? after (Text.size before) (Text.size (before ++ after)) with
    _ | paragraph <;>
  rcases hl : nestedList? extents (Text.size before) (Text.size (before ++ after)) with _ | list
  · refine ⟨hstop, Text.isBoundary_size _, ?_⟩
    rintro _ ⟨⟩
  · obtain ⟨-, hb, m, -, hle⟩ := nestedList?_fit hextents hl
    refine ⟨show Text.size before ≤ list + 1 by omega, hb, ?_⟩
    rintro _ ⟨⟩
  · obtain ⟨hle, hlast, hb⟩ := innerLineEnd?_fit hp
    refine ⟨hle, hb, ?_⟩
    rintro _ ⟨rfl⟩
    exact ⟨hlast, Text.isBoundary_size _⟩
  · obtain ⟨hle, -, hb⟩ := innerLineEnd?_fit hp
    obtain ⟨hlist, hbehind, m, hm, hfirst⟩ := nestedList?_fit hextents hl
    obtain ⟨_, hm', rfl, -⟩ := exists_of_innerLineEnd?_eq_some hp
    -- the line end inside is the first of all, and the list begins with another or with it
    obtain rfl := Option.some.inj (hm.symm.trans hm')
    dsimp only
    split
    · refine ⟨show Text.size before ≤ list + 1 by omega, hbehind, ?_⟩
      rintro _ ⟨⟩
    · refine ⟨hle, hb, ?_⟩
      rintro _ ⟨rfl⟩
      exact ⟨show Text.size before + m + 1 ≤ list by omega, hlist⟩

end Boundaries

/-- The marks over the parts of an item fit when its boundaries do. -/
theorem partMarks_fit {text : List Char} {start : Nat} {boundaries : Nat × Option Nat}
    (sheet : StyleSheet) (geometry : PrefixGeometry) (hstart : IsBoundary text start)
    (hle : start ≤ boundaries.1) (hfirst : IsBoundary text boundaries.1)
    (hsecond : ∀ second, boundaries.2 = some second →
      boundaries.1 ≤ second ∧ IsBoundary text second) :
    ∀ a ∈ partMarks sheet geometry start boundaries, a.Fits text := by
  obtain ⟨first, second⟩ := boundaries
  cases second with
  | none =>
    simp only [partMarks, Option.getD_none, Option.map_none, Option.toList_none, List.nil_append,
      List.forall_mem_cons, List.not_mem_nil, false_imp_iff, implies_true, and_true]
    exact ⟨⟨hle, hstart, hfirst⟩, ⟨hle, hstart, hfirst⟩, ⟨hle, hstart, hfirst⟩⟩
  | some second =>
    obtain ⟨hbetween, hlast⟩ := hsecond second rfl
    simp only [partMarks, Option.getD_some, Option.map_some, Option.toList_some,
      List.singleton_append, List.forall_mem_cons, List.not_mem_nil, false_imp_iff, implies_true,
      and_true]
    exact ⟨⟨Nat.le_trans hle hbetween, hstart, hlast⟩, ⟨hbetween, hfirst, hlast⟩,
      ⟨hle, hstart, hfirst⟩, ⟨hle, hstart, hfirst⟩⟩

/-! ## The lists rendered on the way -/

section Extents

variable {sheet : StyleSheet} {options : RenderOptions} {node : Node} {nodes : List Node}
  {parent : Parent} {s t : Rendering}

theorem cursor_le_of_isPrefix (h : s.text <+: t.text) : s.cursor ≤ t.cursor := by
  obtain ⟨rest, h⟩ := h
  rw [t.cursor_eq_size, ← h, Text.size_append, s.cursor_eq_size]
  exact Nat.le_add_right _ _

/-- A list inside a list opens with a line end. -/
theorem opens_of_isList (hlist : node.isList) :
    node.opens options parent s = if s.lists.isActive then ['\n'] else [] := by
  cases node with
  | orderedList | bulletList => rfl
  | _ => cases hlist

/-- Lists and items write nothing in front of their extents. -/
theorem Node.start_eq_cursor (h : node.isList ∨ node.isItem) : node.start parent s = s.cursor := by
  cases node with
  | orderedList | bulletList | listItem => rfl
  | _ => simp [Node.isList, Node.isItem] at h

/-- A list inside a list begins with a line end. -/
theorem beginsLine_of_isList (hlist : node.isList) (hactive : s.lists.isActive)
    (hbelow : (opening sheet options node parent s).text <+: t.text) :
    Extent.BeginsLine ⟨node.start parent s, (node.closed parent t).size⟩
      (closing sheet options node parent s t).text := by
  have hstart : node.start parent s = s.cursor := Node.start_eq_cursor (.inl hlist)
  obtain ⟨rest, hrest⟩ := hbelow
  have htext : (closing sheet options node parent s t).text =
      s.text ++ '\n' :: (rest ++ node.closes parent t) := by
    rw [text_closing, ← hrest, text_opening, opens_of_isList hlist, if_pos hactive]
    simp
  refine ⟨?_, s.text, rest ++ node.closes parent t, htext, ?_⟩
  · have hsize : (node.closed parent t).size =
        Text.size (closing sheet options node parent s t).text :=
      (closing sheet options node parent s t).cursor_eq_size
    rw [htext] at hsize
    simp only [Text.size_append, Text.size_cons] at hsize
    have := Char.utf8Size_pos '\n'
    have := s.cursor_eq_size
    show node.start parent s < (node.closed parent t).size
    omega
  · exact s.cursor_eq_size.symm.trans hstart.symm

/-- The lists that a state `t` has and an earlier state `s` has not begin
behind that one and, inside another list, with a line end. -/
def Rendering.ListsSince (s t : Rendering) : Prop :=
  ∀ e ∈ t.extents, e ∈ s.extents ∨
    s.cursor ≤ e.start ∧ (s.lists.isActive → e.BeginsLine t.text)

theorem extents_closing_of_isList (h : node.isList) :
    (closing sheet options node parent s t).extents =
      ⟨node.start parent s, (node.closed parent t).size⟩ :: t.extents := if_pos h

theorem extents_closing_of_not_isList (h : ¬ node.isList) :
    (closing sheet options node parent s t).extents = t.extents := if_neg h

theorem listsSince_closing (hbelow : (opening sheet options node parent s).text <+: t.text)
    (h : Rendering.ListsSince (opening sheet options node parent s) t) :
    Rendering.ListsSince s (closing sheet options node parent s t) := by
  have hinner : ∀ e ∈ t.extents, e ∈ s.extents ∨ s.cursor ≤ e.start ∧
      (s.lists.isActive → e.BeginsLine (closing sheet options node parent s t).text) := by
    intro e he
    rcases h e he with hold | ⟨hle, hbegins⟩
    · exact .inl hold
    · have hopen : s.cursor ≤ (opening sheet options node parent s).cursor :=
        cursor_le_of_isPrefix (by rw [text_opening]; exact List.prefix_append _ _)
      refine .inr ⟨Nat.le_trans hopen hle, fun hactive => ?_⟩
      rw [isActive_opening, hactive, Bool.true_or] at hbegins
      rw [text_closing]
      exact (hbegins rfl).of_isPrefix (List.prefix_append _ _)
  intro e he
  by_cases hlist : node.isList
  · rw [extents_closing_of_isList hlist] at he
    rcases List.mem_cons.mp he with rfl | he
    · exact .inr ⟨Nat.le_add_right _ _, fun hactive => beginsLine_of_isList hlist hactive hbelow⟩
    · exact hinner e he
  · rw [extents_closing_of_not_isList hlist] at he
    exact hinner e he

/-- **The lists rendered on a walk** begin behind the place where the walk
did and, inside another list, with a line end. -/
theorem Walk.listsSince (h : Walk sheet options nodes parent s t) : Rendering.ListsSince s t := by
  induction h with
  | nil => exact fun e he => .inl he
  | @cons node rest parent s t u hdepth below after ihbelow ihafter =>
    have hclosing := listsSince_closing below.text_isPrefix ihbelow
    have hnesting := sameNesting_closing hdepth below
    have htext : s.text <+: (closing sheet options node parent s t).text :=
      (walk_singleton_iff.mpr ⟨hdepth, t, below, rfl⟩).text_isPrefix
    intro e he
    rcases ihafter e he with he | ⟨hle, hbegins⟩
    · rcases hclosing e he with he | ⟨hle, hbegins⟩
      · exact .inl he
      · exact .inr ⟨hle, fun hactive => (hbegins hactive).of_isPrefix after.text_isPrefix⟩
    · rw [hnesting.isActive] at hbegins
      exact .inr ⟨Nat.le_trans (cursor_le_of_isPrefix htext) hle, hbegins⟩

end Extents

/-! ## The marks set on the way -/

/-- **A sound state**: its spans fit its text, and so do all its marks if
every item is `listed`; no list begins behind the cursor. -/
structure Rendering.Sound (listed : Prop) (s : Rendering) : Prop where
  marks : ∀ a ∈ s.writer.marks, a.span?.isSome ∨ listed → a.Fits s.text
  extents : ∀ e ∈ s.extents, e.start ≤ s.cursor

section Soundness

variable {sheet : StyleSheet} {options : RenderOptions} {node : Node} {nodes : List Node}
  {parent : Parent} {s t : Rendering} {listed : Prop}

/-- What was a cursor is a boundary ever after. -/
theorem isBoundary_cursor {text : List Char} (h : s.text <+: text) : IsBoundary text s.cursor := by
  obtain ⟨rest, rfl⟩ := h
  exact ⟨s.text, rest, rfl, s.cursor_eq_size.symm⟩

theorem isBoundary_cursor_add {text written : List Char} (h : s.text ++ written <+: text) :
    IsBoundary text (s.cursor + Text.size written) := by
  obtain ⟨rest, rfl⟩ := h
  refine ⟨s.text ++ written, rest, rfl, ?_⟩
  rw [Text.size_append, s.cursor_eq_size]

theorem openingMarks_fit : ∀ a ∈ node.openingMarks sheet s,
    a.Fits (opening sheet options node parent s).text := by
  cases node with
  | listItem children =>
    have hfits : ∀ mark, Annotation.Fits ⟨mark, s.cursor, s.cursor + Text.size s.nextPrefix⟩
        (opening sheet options (.listItem children) parent s).text := by
      intro mark
      rw [text_opening]
      refine ⟨Nat.le_add_right _ _, isBoundary_cursor (List.prefix_append _ _),
        isBoundary_cursor_add ?_⟩
      rw [Node.opens, ← List.append_assoc]
      exact List.prefix_append _ _
    intro a ha
    rcases List.mem_cons.mp ha with rfl | ha
    · exact hfits _
    · rcases List.mem_singleton.mp ha with rfl
      exact hfits _
  | _ =>
    intro a ha
    cases ha

theorem lead_isPrefix_opens : node.lead parent <+: node.opens options parent s := by
  cases node with
  | blockQuote => exact List.prefix_refl _
  | _ => exact List.nil_prefix

/-- The extent of a node begins at a boundary. -/
theorem isBoundary_start (hbelow : (opening sheet options node parent s).text <+: t.text) :
    IsBoundary (closing sheet options node parent s t).text (node.start parent s) := by
  refine isBoundary_cursor_add (List.IsPrefix.trans ?_ (hbelow.trans ?_))
  · rw [text_opening]
    exact (List.prefix_append_right_inj _).mpr lead_isPrefix_opens
  · rw [text_closing]
    exact List.prefix_append _ _

theorem size_closed : (node.closed parent t).size =
    Text.size (closing sheet options node parent s t).text :=
  (closing sheet options node parent s t).cursor_eq_size

theorem spanMarks_fit (hbelow : (opening sheet options node parent s).text <+: t.text) :
    ∀ a ∈ node.spanMarks sheet options parent (node.start parent s) (node.closed parent t).size,
      a.Fits (closing sheet options node parent s t).text := by
  have hstart : IsBoundary (closing sheet options node parent s t).text (node.start parent s) :=
    isBoundary_start hbelow
  intro a ha
  obtain rfl := Node.eq_of_mem_spanMarks ha
  rw [size_closed]
  exact ⟨hstart.le_size, hstart, Text.isBoundary_size _⟩

/-- The lists behind the start of a node below a list are those rendered
since it began, and begin with a line end. -/
theorem beginsLine_of_mem_extents (hold : ∀ e ∈ s.extents, e.start ≤ s.cursor)
    (hlists : Rendering.ListsSince (opening sheet options node parent s) t)
    (hactive : s.lists.isActive) :
    ∀ e ∈ t.extents, Text.size s.text < e.start → e.BeginsLine (node.closed parent t).toList := by
  intro e he hlt
  rcases hlists e he with he | ⟨-, hbegins⟩
  · have := hold e he
    rw [s.cursor_eq_size] at this
    omega
  · rw [isActive_opening, hactive] at hbegins
    exact (hbegins rfl).of_isPrefix (by
      rw [Node.closed, Buffer.toList_append]
      exact List.prefix_append _ _)

/-- The parts of an item below a list fit. -/
theorem itemMarks_fit (hold : ∀ e ∈ s.extents, e.start ≤ s.cursor)
    (hbelow : (opening sheet options node parent s).text <+: t.text)
    (hlists : Rendering.ListsSince (opening sheet options node parent s) t)
    (hactive : node.isItem → s.lists.isActive) :
    ∀ a ∈ node.partMarks sheet s (node.closed parent t) t.extents,
      a.Fits (closing sheet options node parent s t).text := by
  cases node with
  | listItem children =>
    have hclosing : s.text <+: (closing sheet options (.listItem children) parent s t).text := by
      rw [text_closing]
      rw [text_opening] at hbelow
      exact (List.prefix_append _ _).trans (hbelow.trans (List.prefix_append _ _))
    obtain ⟨rest, hrest⟩ := hclosing
    obtain ⟨hle, hfirst, hsecond⟩ := itemBoundaries_fit hrest.symm
      (beginsLine_of_mem_extents hold hlists (hactive rfl))
    unfold Node.partMarks
    rw [s.cursor_eq_size]
    exact partMarks_fit _ _ ⟨s.text, rest, hrest.symm, rfl⟩ hle hfirst hsecond
  | _ =>
    intro a ha
    cases ha

theorem Rendering.Sound.opening (h : s.Sound listed) :
    (opening sheet options node parent s).Sound listed := by
  have htext : s.text <+: (StyledMarkdown.opening sheet options node parent s).text := by
    rw [text_opening]
    exact List.prefix_append _ _
  refine ⟨fun a ha hkind => ?_, fun e he =>
    Nat.le_trans (h.extents e he) (cursor_le_of_isPrefix htext)⟩
  rcases List.mem_append.mp ha with ha | ha
  · exact openingMarks_fit a ha
  · exact (h.marks a ha hkind).of_isPrefix htext

theorem Rendering.Sound.closing (hs : s.Sound listed) (ht : t.Sound listed)
    (hbelow : (StyledMarkdown.opening sheet options node parent s).text <+: t.text)
    (hlists : Rendering.ListsSince (StyledMarkdown.opening sheet options node parent s) t)
    (hlisted : listed → node.isItem → s.lists.isActive) :
    (closing sheet options node parent s t).Sound listed := by
  have htext : t.text <+: (StyledMarkdown.closing sheet options node parent s t).text := by
    rw [text_closing]
    exact List.prefix_append _ _
  constructor
  · -- a mark is the span of the node, one over a part of an item, or an older one
    intro a ha hkind
    rcases List.mem_append.mp ha with ha | ha
    · exact spanMarks_fit hbelow a ha
    rcases List.mem_append.mp ha with ha | ha
    · rw [node.span?_partMarks sheet s _ _ a ha] at hkind
      refine itemMarks_fit hs.extents hbelow hlists (hlisted ?_) a ha
      simpa using hkind
    · exact (ht.marks a ha hkind).of_isPrefix htext
  · have hcursor : ∀ n, n ≤ t.cursor →
        n ≤ (StyledMarkdown.closing sheet options node parent s t).cursor :=
      fun n hn => Nat.le_trans hn (cursor_le_of_isPrefix htext)
    intro e he
    by_cases hlist : node.isList
    · rw [extents_closing_of_isList hlist] at he
      rcases List.mem_cons.mp he with rfl | he
      · rw [Rendering.cursor_eq_size]
        exact (isBoundary_start hbelow).le_size
      · exact hcursor _ (ht.extents e he)
    · rw [extents_closing_of_not_isList hlist] at he
      exact hcursor _ (ht.extents e he)

/-- **A walk keeps a state sound**, if the items on it are listed. -/
theorem Walk.sound (h : Walk sheet options nodes parent s t) (hs : s.Sound listed)
    (hlisted : listed → ∀ node ∈ nodes, node.itemsInLists s.lists.isActive) : t.Sound listed := by
  induction h with
  | nil => exact hs
  | @cons node rest parent s t u hdepth below after ihbelow ihafter =>
    -- the lists open below the node and behind it are those the tree says
    have hnode := fun hl => Node.itemsInLists_iff.mp ((List.forall_mem_cons.mp (hlisted hl)).1)
    refine ihafter (hs.closing (ihbelow hs.opening fun hl => ?_) below.text_isPrefix
      below.listsSince fun hl => (hnode hl).1) fun hl => ?_
    · rw [isActive_opening]
      exact (hnode hl).2
    · rw [(sameNesting_closing hdepth below).isActive]
      exact (List.forall_mem_cons.mp (hlisted hl)).2

end Soundness

/-! ## Trimming -/

section Trimming

variable {w : Writer} {a b : Annotation} {leading length : Nat}

/-- What trimming makes of a mark: the same mark over a range moved along. -/
theorem Writer.eq_of_rebase?_eq_some (h : rebase? leading length a = some b) :
    b = ⟨a.mark, min (a.start - leading) length, min (a.stop - leading) length⟩ := by
  unfold rebase? at h
  dsimp only at h
  split at h
  · exact (Option.some.inj h).symm
  · cases h

/-- **A mark that fits the text fits the trimmed text.** -/
theorem Writer.rebase?_fit {whole : List Char} (ha : a.Fits whole)
    (h : rebase? (Text.size whole - Text.size (Text.trimStart whole))
      (Text.size (Text.trim whole)) a = some b) : b.Fits (Text.trim whole) := by
  obtain rfl := Writer.eq_of_rebase?_eq_some h
  obtain ⟨before, after, htext, hsize, -⟩ := Text.exists_trim whole
  obtain ⟨hordered, hstart, hstop⟩ := ha
  rw [htext] at hstart hstop
  rw [← hsize]
  refine ⟨?_, hstart.clamp, hstop.clamp⟩
  dsimp only
  omega

/-- Each annotation of a finished text comes from a mark over the whole
text, and fits when that does. -/
theorem Writer.exists_of_mem_finish (hb : b ∈ w.finish.annotations) :
    ∃ a ∈ w.marks, b.mark = a.mark ∧
      (a.Fits w.buffer.toList → b.Fits w.finish.text.toList) := by
  obtain ⟨a, ha, hrebase⟩ := List.mem_filterMap.mp hb
  have hmark := congrArg Annotation.mark (Writer.eq_of_rebase?_eq_some hrebase)
  refine ⟨a, List.mem_reverse.mp ha, hmark, fun hfits => ?_⟩
  rw [Buffer.size_toList] at hrebase
  have htext : w.finish.text.toList = Text.trim w.buffer.toList := String.toList_ofList
  rw [htext]
  exact Writer.rebase?_fit hfits hrebase

end Trimming

/-- **The ranges of a rendering fit its text**: those of the spans, and all
of them when every item stands in a list. -/
theorem fits_of_render_eq_ok {sheet : StyleSheet} {options : RenderOptions} {node : Node}
    {r : Rendered} (h : render sheet options node = .ok r) :
    ∀ a ∈ r.annotations, a.span?.isSome ∨ node.itemsInLists → a.Fits r.text.toList := by
  obtain ⟨t, hw, rfl⟩ := render_eq_ok_iff.mp h
  have hstart : Rendering.Sound node.itemsInLists {} :=
    ⟨fun _ ha => absurd ha List.not_mem_nil, fun _ he => absurd he List.not_mem_nil⟩
  have hsound := hw.sound hstart fun hl => List.forall_mem_singleton.mpr hl
  intro b hb hkind
  obtain ⟨a, ha, hmark, hfits⟩ := Writer.exists_of_mem_finish hb
  have hspan : b.span? = a.span? := by
    unfold Annotation.span?
    rw [hmark]
  rw [hspan] at hkind
  exact hfits (hsound.marks a ha hkind)

end StyledMarkdown
