import StyledMarkdown.Proofs.Rendering.Content
import StyledMarkdown.Proofs.Rendering.Ends
/-!
# Lines between blocks

Two blocks that follow each other in a container stand on lines of their
own when the first one ends with a line end or the second one begins with
one. All blocks end with one but the nested paragraph, which leaves that
to its container; and a container ends its last line only, so a paragraph
in a quote or an item may run into the block behind it.
-/

namespace StyledMarkdown

open RenderM

/-! ## Texts on lines of their own -/

/-- Whether a text has a character other than a line end. -/
def Visible (text : List Char) : Prop := ∃ c ∈ text, c ≠ '\n'

/-- The line ends behind the last other character of one text and before
the first other character of the next. -/
def lineEndsBetween (first second : List Char) : List Char :=
  first.reverse.takeWhile (· == '\n') ++ second.takeWhile (· == '\n')

/-- **The second of two texts starts on a line of its own.** -/
def Separated (first second : List Char) : Prop := '\n' ∈ lineEndsBetween first second

theorem mem_takeWhile_lineEnd_iff (text : List Char) :
    '\n' ∈ text.takeWhile (· == '\n') ↔ text.head? = some '\n' := by
  cases text with
  | nil => simp
  | cons c text =>
    by_cases hc : c = '\n'
    · simp [hc]
    · simp [hc]

theorem separated_iff {first second : List Char} : Separated first second ↔
    first.getLast? = some '\n' ∨ second.head? = some '\n' := by
  unfold Separated lineEndsBetween
  rw [List.mem_append, mem_takeWhile_lineEnd_iff, mem_takeWhile_lineEnd_iff, List.head?_reverse]

/-! ## Blocks -/

namespace Node

def isParagraph : Node → Bool
  | paragraph _ => true
  | _ => false

/-- **A block**; the content of a block of code is empty or ends its line. -/
def IsBlock : Node → Prop
  | paragraph _ | heading .. | blockQuote _ | orderedList .. | bulletList .. | htmlBlock _ => True
  | fencedCode _ literal | indentedCode literal =>
    literal.toList = [] ∨ literal.toList.getLast? = some '\n'
  | _ => False

end Node

section Blocks

variable {options : RenderOptions} {node container : Node} {parent : Parent}

theorem placement_asParent (h : container.isDocument) :
    container.asParent.placement = .outermost := by
  cases container with
  | document => rfl
  | _ => cases h

/-- **A block ends with a line end**, unless it is a nested paragraph. -/
theorem lastWritten_of_isBlock (hblock : node.IsBlock)
    (h : node.isParagraph = false ∨ parent.placement = .outermost)
    (hwrites : node.lastWritten options parent ≠ none) :
    node.lastWritten options parent = some '\n' := by
  cases node with
  | paragraph children =>
    rw [Node.lastWritten_eq]
    refine if_pos ?_
    rcases h with h | h
    · cases h
    · exact decide_eq_true h
  | heading | blockQuote | orderedList | bulletList | htmlBlock =>
    rw [Node.lastWritten_eq]
    rfl
  | fencedCode fence literal | indentedCode literal =>
    rw [Node.lastWritten_eq] at hwrites ⊢
    rcases hblock with hempty | hends
    · exact absurd (congrArg List.getLast? hempty) hwrites
    · exact hends
  | _ => exact hblock.elim

end Blocks

/-! ## Blocks behind each other -/

theorem startsLine_eq_true_iff {text : List Char} :
    startsLine text = some true ↔ text.head? = some '\n' := by
  cases text with
  | nil => exact ⟨nofun, nofun⟩
  | cons c text => simp [startsLine]

/-- **When a node begins a line behind another one** can be read off the
tree: the first one ends its line, or the second one begins with a line end
behind the character that the first one leaves. -/
theorem separated_written_iff {sheet : StyleSheet} {options : RenderOptions} {a b : Node}
    {parent : Parent} {s t u : Rendering} {first second : List Char}
    (ha : Walk sheet options [a] parent s t) (hfirst : t.text = s.text ++ first)
    (hb : Walk sheet options [b] parent t u) (hsecond : u.text = t.text ++ second)
    (hne : first ≠ []) : Separated first second ↔
      a.lastWritten options parent = some '\n' ∨
        b.begins options (a.lastWritten options parent) s.lists.isActive parent = some true := by
  have hlast : a.lastWritten options parent = first.getLast? := getLast?_written ha hfirst hne
  -- the second node sees the last character of the first and the lists above them both
  have hbehind : t.text.getLast? = first.getLast? := by
    obtain ⟨c, hc⟩ := Option.ne_none_iff_exists'.mp (mt List.getLast?_eq_none_iff.mp hne)
    rw [hfirst, List.getLast?_append, hc]
    rfl
  have hbegins : startsLine second =
      b.begins options (a.lastWritten options parent) s.lists.isActive parent := by
    obtain ⟨written, hwritten, hstarts⟩ := hb.begins
    obtain rfl : second = written := List.append_cancel_left (hsecond.symm.trans hwritten)
    rw [hstarts, List.findSome?_singleton, hbehind, ha.sameNesting.isActive, hlast]
  rw [separated_iff, ← startsLine_eq_true_iff, hbegins, hlast]

/-- **When a block and what stands behind it are on lines of their own.**
A rendering comes through every position of the tree, and in whatever state
it comes to a block and another node behind it, they are when the block is
no paragraph or the container is the document. A paragraph in a quote or an
item is not ended by its container: behind it there is a line end only if
the last character it leaves is one, or the node behind it begins with one,
as a list inside a list and a quote right inside a quote do. -/
theorem blocks_separated_iff {sheet : StyleSheet} {options : RenderOptions} {root : Node}
    {r : Rendered} {container a b : Node} {above rest : List Node}
    (h : render sheet options root = .ok r)
    (hposition : Position root (container :: above) (a :: b :: rest)) (ha : a.IsBlock) :
    (∃ s, Reaches sheet options root (container :: above) (a :: b :: rest) s) ∧
    ∀ s, Reaches sheet options root (container :: above) (a :: b :: rest) s →
      ∃ t u first second,
        (visit sheet options a container.asParent).exec s = (.ok (), t) ∧
        t.text = s.text ++ first ∧
        (visit sheet options b container.asParent).exec t = (.ok (), u) ∧
        u.text = t.text ++ second ∧
        (Visible first → Visible second → (Separated first second ↔
          a.isParagraph = false ∨ container.isDocument ∨
            a.lastWritten options container.asParent = some '\n' ∨
            b.begins options (a.lastWritten options container.asParent)
              ((container :: above).any Node.isList) container.asParent = some true)) := by
  refine ⟨exists_reaches hposition h, fun s hreach => ?_⟩
  obtain ⟨v, hw⟩ := hreach.exists_walk h
  change Walk sheet options (a :: b :: rest) container.asParent s v at hw
  obtain ⟨t, hvisit, hrest⟩ := exists_of_walk_cons hw
  obtain ⟨u, hvisit', -⟩ := exists_of_walk_cons hrest
  have hwalk := walk_singleton_iff_exec.mpr hvisit
  have hwalk' := walk_singleton_iff_exec.mpr hvisit'
  obtain ⟨first, hfirst⟩ := hwalk.text_isPrefix
  obtain ⟨second, hsecond⟩ := hwalk'.text_isPrefix
  refine ⟨t, u, first, second, hvisit, hfirst.symm, hvisit', hsecond.symm, ?_⟩
  intro hvisible _
  have hne : first ≠ [] := by
    obtain ⟨c, hc, -⟩ := hvisible
    exact List.ne_nil_of_mem hc
  rw [separated_written_iff hwalk hfirst.symm hwalk' hsecond.symm hne, hreach.isActive]
  constructor
  · rintro (hends | hbegins)
    · exact .inr (.inr (.inl hends))
    · exact .inr (.inr (.inr hbegins))
  · -- a block that writes anything ends its line, unless it is a nested paragraph
    have hwrites : a.lastWritten options container.asParent ≠ none := by
      rw [getLast?_written hwalk hfirst.symm hne]
      exact mt List.getLast?_eq_none_iff.mp hne
    rintro (hkind | hdocument | hends | hbegins)
    · exact .inl (lastWritten_of_isBlock ha (.inl hkind) hwrites)
    · exact .inl (lastWritten_of_isBlock ha (.inr (placement_asParent hdocument)) hwrites)
    · exact .inl hends
    · exact .inr hbegins

/-- What siblings write is visible when one of their leaves is. -/
theorem visible_of_mem_contents {sheet : StyleSheet} {options : RenderOptions}
    {nodes : List Node} {parent : Parent} {s t : Rendering} {written : List Char} (leaf : Node)
    (h : Walk sheet options nodes parent s t) (htext : t.text = s.text ++ written)
    (hleaf : leaf ∈ nodes.flatMap Node.contents) (hvisible : Visible leaf.content) :
    Visible written := by
  obtain ⟨portions, _, hjoined, _, hleaves, _⟩ := h.adds
  obtain rfl : written = joined portions := List.append_cancel_left (htext.symm.trans hjoined)
  rw [← hleaves] at hleaf
  obtain ⟨place, hplace, rfl⟩ := List.mem_map.mp hleaf
  obtain ⟨c, hc, hne⟩ := hvisible
  exact ⟨c, List.mem_flatMap.mpr ⟨_, content_mem_of_mem_places hplace, hc⟩, hne⟩

/-- A list behind the paragraph of an item, which begins with a line end
inside another list only. -/
theorem list_in_item_separated :
    let inner := Node.bulletList '-' [.listItem [.paragraph [.text "b"]]]
    let item := Node.listItem [.paragraph [.text "a"], inner]
    let list := Node.bulletList '-' [item]
    let root := Node.document [list]
    ∃ s t u first second,
      Reaches {} {} root [item, list, root] [.paragraph [.text "a"], inner] s ∧
      (visit {} {} (.paragraph [.text "a"]) .other).exec s = (.ok (), t) ∧
      t.text = s.text ++ first ∧
      (visit {} {} inner .other).exec t = (.ok (), u) ∧
      u.text = t.text ++ second ∧
      Visible first ∧ Visible second ∧ Separated first second := by
  intro inner item list root
  obtain ⟨r, hr⟩ := exists_render_eq_ok {} {} root (by decide)
  have hposition : Position root [item, list, root] [.paragraph [.text "a"], inner] :=
    .down (.down (.down .start))
  obtain ⟨⟨s, hreach⟩, hall⟩ := blocks_separated_iff hr hposition trivial
  obtain ⟨t, u, first, second, ha, hfirst, hb, hsecond, hiff⟩ := hall s hreach
  have hv : Visible first := visible_of_mem_contents (.text "a")
    (walk_singleton_iff_exec.mpr ha) hfirst List.mem_cons_self ⟨'a', by decide⟩
  have hv' : Visible second := visible_of_mem_contents (.text "b")
    (walk_singleton_iff_exec.mpr hb) hsecond List.mem_cons_self ⟨'b', by decide⟩
  have hseparated := (hiff hv hv').mpr (.inr (.inr (.inr (by decide))))
  exact ⟨s, t, u, first, second, hreach, ha, hfirst, hb, hsecond, hv, hv', hseparated⟩

/-- A nested paragraph of plain text writes the text and nothing else. -/
theorem exists_visit_nested_paragraph (sheet : StyleSheet) (options : RenderOptions)
    (s : Rendering) (parent : Parent) (content : String) (hparent : parent.placement = .nested)
    (hdepth : s.depth + 1 < options.maxDepth) :
    ∃ t, (visit sheet options (.paragraph [.text content]) parent).exec s = (.ok (), t) ∧
      t.text = s.text ++ content.toList ∧ t.depth = s.depth := by
  have hw : Walk sheet options [.paragraph [.text content]] parent s _ :=
    .cons (Nat.lt_of_succ_lt hdepth) (.cons hdepth (.nil _ _) (.nil _ _)) (.nil _ _)
  have hcloses : ∀ t, (Node.paragraph [.text content]).closes parent t = [] := by
    intro t
    unfold Node.closes Node.endsLine
    rw [hparent]
    rfl
  refine ⟨_, walk_singleton_iff_exec.mp hw, ?_, rfl⟩
  have hopens : (Node.paragraph [.text content]).opens options parent s = [] := rfl
  rw [text_closing, hcloses, List.append_nil, text_closing, text_opening, text_opening, hopens,
    List.append_nil]
  exact List.append_nil _

/-- **Two paragraphs of a quote run into each other**: no line end stands
between them. -/
theorem quoted_paragraphs_joined :
    let quote := Node.blockQuote [.paragraph [.text "a"], .paragraph [.text "b"]]
    let root := Node.document [quote]
    (render {} {} root).toOption.map Rendered.text = some "ab" ∧
    ∃ s t u,
      Reaches {} {} root [quote, root] [.paragraph [.text "a"], .paragraph [.text "b"]] s ∧
      (visit {} {} (.paragraph [.text "a"]) .blockQuote).exec s = (.ok (), t) ∧
      t.text = s.text ++ ['a'] ∧
      (visit {} {} (.paragraph [.text "b"]) .blockQuote).exec t = (.ok (), u) ∧
      u.text = t.text ++ ['b'] ∧
      Visible ['a'] ∧ Visible ['b'] ∧ ¬ Separated ['a'] ['b'] := by
  intro quote root
  have hreach : Reaches {} {} root [quote, root]
      [.paragraph [.text "a"], .paragraph [.text "b"]]
      (opening {} {} quote .document (opening {} {} root .none {})) := .down (.down .start)
  obtain ⟨t, ha, hfirst, hdepth⟩ := exists_visit_nested_paragraph {} {}
    (opening {} {} quote .document (opening {} {} root .none {})) .blockQuote "a" rfl (by decide)
  obtain ⟨u, hb, hsecond, -⟩ := exists_visit_nested_paragraph {} {} t .blockQuote "b" rfl
    (by rw [hdepth]; decide)
  refine ⟨by decide +kernel, _, t, u, hreach, ha, hfirst, hb, hsecond, ?_, ?_, ?_⟩
  · exact ⟨'a', by decide⟩
  · exact ⟨'b', by decide⟩
  · unfold Separated
    decide

end StyledMarkdown
