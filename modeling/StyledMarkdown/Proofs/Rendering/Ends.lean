import StyledMarkdown.Proofs.Rendering.Position
import StyledMarkdown.Proofs.Text.Boundary
/-!
# How the text of a node begins and ends

The last character that a node leaves and whether it begins with a line
end can be read off the tree. Both matter for the lines of a text: a line
end is often written only where one is missing.
-/

namespace StyledMarkdown

open RenderM

/-! ## Ends -/

section Ends

variable {α : Type} {f : α → Option Char} {first second : Option Char} {items : List α}

theorem foldl_or : items.foldl (fun last item => (f item).or last) (first.or second) =
    (items.foldl (fun last item => (f item).or last) first).or second := by
  induction items generalizing first with
  | nil => rfl
  | cons item items ih => rw [List.foldl_cons, ← Option.or_assoc, ih, List.foldl_cons]

theorem foldl_or_eq_none_iff : items.foldl (fun last item => (f item).or last) first = none ↔
    first = none ∧ ∀ item ∈ items, f item = none := by
  induction items generalizing first with
  | nil => simp
  | cons item items ih =>
    rw [List.foldl_cons, ih, Option.or_eq_none_iff, List.forall_mem_cons, and_assoc,
      and_left_comm]

end Ends

namespace Node

/-- **The last character that a node leaves behind**, if it writes any. -/
def lastWritten (options : RenderOptions) : Node → Parent → Option Char :=
  fold fun node below parent =>
    if node.endsLine parent then some '\n'
    else below.foldl (fun last child => (child node.asParent).or last)
      (node.writing options).toList.getLast?

theorem lastWritten_eq (options : RenderOptions) (node : Node) (parent : Parent) :
    node.lastWritten options parent = if node.endsLine parent then some '\n'
      else node.children.foldl (fun last child =>
        (child.lastWritten options node.asParent).or last)
          (node.writing options).toList.getLast? := by
  unfold lastWritten
  rw [fold_eq, List.foldl_map]

end Node

section LastWritten

variable {sheet : StyleSheet} {options : RenderOptions} {node : Node} {nodes : List Node}
  {parent : Parent} {s t : Rendering}

theorem opens_of_not_endsLine (h : ¬ node.endsLine parent) :
    node.opens options parent s = (node.writing options).toList := by
  cases node with
  | heading | blockQuote | orderedList | bulletList | listItem | htmlBlock => exact absurd rfl h
  | _ => rfl

/-- Lists and items end their last line. -/
theorem Node.endsLine_of_isList_or_isItem (h : node.isList ∨ node.isItem) :
    node.endsLine parent := by
  cases node with
  | orderedList | bulletList | listItem => rfl
  | _ => simp [Node.isList, Node.isItem] at h

theorem getLast?_closing_of_endsLine (h : node.endsLine parent) :
    (closing sheet options node parent s t).text.getLast? = some '\n' := by
  have hlast := t.writer.buffer.last?_append_missing '\n'
  rw [Buffer.last?_eq] at hlast
  have hcloses : node.closes parent t = t.writer.buffer.missing '\n' := if_pos h
  rw [text_closing, hcloses, ← hlast, Buffer.toList_append]
  rfl

theorem closes_of_not_endsLine (h : ¬ node.endsLine parent) : node.closes parent t = [] :=
  if_neg h

/-- Nothing is written behind a line end when a node is left. -/
theorem text_closing_of_getLast? (h : t.text.getLast? = some '\n') :
    (closing sheet options node parent s t).text = t.text := by
  have hmissing : t.writer.buffer.missing '\n' = [] := if_pos (t.writer.buffer.last?_eq.trans h)
  rw [text_closing, Node.closes, hmissing, ite_self, List.append_nil]

/-- **What siblings leave behind** is what the last of them does that
writes anything. -/
theorem Walk.getLast?_text (h : Walk sheet options nodes parent s t) :
    t.text.getLast? =
      nodes.foldl (fun last node => (node.lastWritten options parent).or last)
        s.text.getLast? := by
  induction h with
  | nil => rfl
  | @cons node rest parent s t u hdepth below after ihbelow ihafter =>
    have hnode : (closing sheet options node parent s t).text.getLast? =
        (node.lastWritten options parent).or s.text.getLast? := by
      rw [node.lastWritten_eq]
      split
      · rename_i hends
        exact getLast?_closing_of_endsLine hends
      · rename_i hends
        rw [text_closing, closes_of_not_endsLine hends, List.append_nil, ihbelow, text_opening,
          opens_of_not_endsLine hends, List.getLast?_append, foldl_or]
    rw [ihafter, hnode, List.foldl_cons]

/-- Siblings that all end their last line leave a line end behind. -/
theorem Walk.getLast?_of_endsLine (h : Walk sheet options nodes parent s t) (hne : nodes ≠ [])
    (hends : ∀ node ∈ nodes, node.endsLine parent) : t.text.getLast? = some '\n' := by
  obtain ⟨init, last, rfl⟩ := (List.eq_nil_or_concat nodes).resolve_left hne
  have hlast : last.endsLine parent := hends last (List.concat_eq_append ▸ List.mem_concat_self)
  rw [h.getLast?_text, List.concat_eq_append, List.foldl_append, List.foldl_cons, List.foldl_nil,
    last.lastWritten_eq, if_pos hlast, Option.some_or]

/-- Siblings that leave nothing behind write nothing. -/
theorem Walk.text_eq (h : Walk sheet options nodes parent s t)
    (hnone : ∀ node ∈ nodes, node.lastWritten options parent = none) : t.text = s.text := by
  induction h with
  | nil => rfl
  | @cons node rest parent s t u hdepth below after ihbelow ihafter =>
    obtain ⟨hnode, hrest⟩ := List.forall_mem_cons.mp hnone
    rw [node.lastWritten_eq] at hnode
    split at hnode
    · cases hnode
    · rename_i hends
      obtain ⟨hwriting, hchildren⟩ := foldl_or_eq_none_iff.mp hnode
      rw [ihafter hrest, text_closing, closes_of_not_endsLine hends, List.append_nil,
        ihbelow hchildren, text_opening, opens_of_not_endsLine hends,
        List.getLast?_eq_none_iff.mp hwriting, List.append_nil]

/-- **The last character of what a node writes.** -/
theorem getLast?_written (h : Walk sheet options [node] parent s t) {written : List Char}
    (htext : t.text = s.text ++ written) (hne : written ≠ []) :
    node.lastWritten options parent = written.getLast? := by
  have hlast := h.getLast?_text
  rw [htext, List.getLast?_append, List.foldl_cons, List.foldl_nil] at hlast
  -- a node that leaves no character writes nothing at all
  cases hw : node.lastWritten options parent with
  | none =>
    have heq := h.text_eq (List.forall_mem_singleton.mpr hw)
    rw [htext] at heq
    exact absurd (List.append_right_eq_self.mp heq) hne
  | some c =>
    obtain ⟨d, hd⟩ := Option.ne_none_iff_exists'.mp (mt List.getLast?_eq_none_iff.mp hne)
    rw [hw, hd] at hlast
    rw [hd]
    exact hlast.symm

end LastWritten

/-! ## Beginnings -/

/-- Whether a text begins with a line end; an empty one does neither. -/
def startsLine (text : List Char) : Option Bool := text.head?.map (· == '\n')

theorem startsLine_append (text rest : List Char) :
    startsLine (text ++ rest) = (startsLine text).or (startsLine rest) := by
  cases text with
  | nil => rfl
  | cons c text => rfl

theorem startsLine_eq_none_iff {text : List Char} : startsLine text = none ↔ text = [] := by
  cases text with
  | nil => exact ⟨fun _ => rfl, fun _ => rfl⟩
  | cons c text => exact ⟨nofun, nofun⟩

theorem startsLine_eq_false {text : List Char} (hne : text ≠ []) (h : '\n' ∉ text) :
    startsLine text = some false := by
  cases text with
  | nil => exact absurd rfl hne
  | cons c text =>
    have hc : c ≠ '\n' := fun heq => h (heq ▸ List.mem_cons_self)
    exact congrArg some (beq_false_of_ne hc)

namespace Node

/-- Whether what a node writes before its children begins with a line end,
behind a text that ends with `last` and, `inside` a list, below one. -/
def opensLine (options : RenderOptions) (last : Option Char) (inside : Bool) (parent : Parent)
    (node : Node) : Option Bool :=
  match node with
  | blockQuote _ => if parent = .blockQuote then some true else none
  | orderedList .. | bulletList .. => if inside then some true else none
  | listItem _ => if inside || last != some '\t' then some false else none
  | _ => startsLine (node.writing options).toList

/-- **Whether a node begins with a line end**, if it writes anything. -/
def begins (options : RenderOptions) (last : Option Char) : Node → Bool → Parent → Option Bool :=
  fold fun node below inside parent =>
    (node.opensLine options last inside parent).or
      ((below.findSome? fun child => child (inside || node.isList) node.asParent).or
        (if node.endsLine parent && last != some '\n' then some true else none))

theorem begins_eq (options : RenderOptions) (last : Option Char) (node : Node) (inside : Bool)
    (parent : Parent) : node.begins options last inside parent =
      (node.opensLine options last inside parent).or
        ((node.children.findSome? fun child =>
          child.begins options last (inside || node.isList) node.asParent).or
        (if node.endsLine parent && last != some '\n' then some true else none)) := by
  unfold begins
  rw [fold_eq, List.findSome?_map]
  rfl

end Node

/-- **From one state to a later one something was written** that begins
with a line end or does not, or nothing was. -/
def Rendering.Begins (s t : Rendering) (begins : Option Bool) : Prop :=
  ∃ written, t.text = s.text ++ written ∧ startsLine written = begins

namespace Rendering.Begins

variable {s t u : Rendering} {begins more : Option Bool}

theorem refl (s : Rendering) : Begins s s none := ⟨[], (List.append_nil _).symm, rfl⟩

theorem text_eq (h : Begins s t none) : t.text = s.text := by
  obtain ⟨written, htext, hstarts⟩ := h
  rw [htext, startsLine_eq_none_iff.mp hstarts, List.append_nil]

/-- What comes first decides, and what comes later only where nothing was
written before it. -/
theorem trans (h : Begins s t begins) (hmore : t.text = s.text → Begins t u more)
    (hgrows : t.text <+: u.text) : Begins s u (begins.or more) := by
  cases begins with
  | none =>
    obtain ⟨written, htext, hstarts⟩ := hmore h.text_eq
    rw [h.text_eq] at htext
    exact ⟨written, htext, hstarts⟩
  | some b =>
    obtain ⟨written, htext, hstarts⟩ := h
    obtain ⟨rest, hrest⟩ := hgrows
    refine ⟨written ++ rest, ?_, ?_⟩
    · rw [← hrest, htext, List.append_assoc]
    · rw [startsLine_append, hstarts]
      rfl

end Rendering.Begins

section Begins

variable {sheet : StyleSheet} {options : RenderOptions} {node : Node} {nodes : List Node}
  {parent : Parent} {s t : Rendering}

/-- An integer is written in digits, behind a minus sign perhaps. -/
theorem eq_or_isDigit_of_mem_decimal {n : Int} {c : Char} (h : c ∈ decimal n) :
    c = '-' ∨ c.isDigit := by
  have hdigits : c ∈ Nat.toDigits 10 n.natAbs → c.isDigit :=
    Nat.isDigit_of_mem_toDigits (by decide) (by decide)
  unfold decimal at h
  split at h
  · exact (List.mem_cons.mp h).imp_right hdigits
  · exact .inr (hdigits h)

theorem not_isBlank_of_mem_decimal {n : Int} {c : Char} (h : c ∈ decimal n) :
    ¬ Text.isBlank c := by
  rcases eq_or_isDigit_of_mem_decimal h with rfl | hdigit
  · decide
  · have hrange : 48 ≤ c.toNat ∧ c.toNat ≤ 57 := by
      simpa [Char.isDigit, UInt32.le_iff_toNat_le] using hdigit
    simp only [Text.isBlank, Bool.or_eq_true, Bool.and_eq_true, decide_eq_true_eq, beq_iff_eq]
    omega

/-- A prefix holds no blank, so it stands on the line of its item. -/
theorem ListContext.isSolid_nextPrefix (context : ListContext) :
    Text.IsSolid context.nextPrefix.1.toList := by
  unfold ListContext.nextPrefix
  split
  · rw [String.toList_ofList]
    refine ⟨List.append_ne_nil_of_right_ne_nil _ (List.cons_ne_nil _ _), fun c hc => ?_⟩
    rcases List.mem_append.mp hc with hc | hc
    · exact not_isBlank_of_mem_decimal hc
    · obtain rfl := List.mem_singleton.mp hc
      decide
  · have hbullet : bullet.toList = ['•'] := by decide
    dsimp only
    rw [hbullet]
    exact ⟨List.cons_ne_nil _ _, List.forall_mem_singleton.mpr (by decide)⟩

/-- An item takes the next prefix of the innermost list. -/
theorem nextPrefix_eq {context : ListContext} {contexts : List ListContext}
    (hlists : s.lists.contexts = context :: contexts) :
    s.nextPrefix = context.nextPrefix.1.toList ∧
      s.lists.nextPrefix?.2.contexts = context.nextPrefix.2 :: contexts := by
  unfold Rendering.nextPrefix ListStack.nextPrefix?
  rw [hlists]
  exact ⟨rfl, rfl⟩

theorem isSolid_nextPrefix (h : s.lists.isActive) : Text.IsSolid s.nextPrefix := by
  obtain ⟨context, contexts, hlists⟩ :
      ∃ context contexts, s.lists.contexts = context :: contexts := by
    unfold ListStack.isActive at h
    cases hc : s.lists.contexts with
    | nil => simp [hc] at h
    | cons context contexts => exact ⟨context, contexts, rfl⟩
  rw [(nextPrefix_eq hlists).1]
  exact context.isSolid_nextPrefix

theorem contexts_of_not_isActive (h : s.lists.isActive = false) : s.lists.contexts = [] := by
  unfold ListStack.isActive at h
  simpa using h

theorem nextPrefix_of_not_isActive (h : s.lists.isActive = false) : s.nextPrefix = [] := by
  unfold Rendering.nextPrefix ListStack.nextPrefix?
  rw [contexts_of_not_isActive h]
  rfl

theorem startsLine_missing (b : Buffer) (c : Char) : startsLine (b.missing c) =
    if b.toList.getLast? != some c then some (c == '\n') else none := by
  unfold Buffer.missing
  rw [Buffer.last?_eq]
  by_cases h : b.toList.getLast? = some c
  · rw [if_pos h, if_neg (by simp [h])]
    rfl
  · rw [if_neg h, if_pos (by simpa using h)]
    rfl

theorem startsLine_lineEnd_when (p : Prop) [Decidable p] :
    startsLine (if p then ['\n'] else []) = if p then some true else none := by
  split <;> rfl

theorem startsLine_opens : startsLine (node.opens options parent s) =
    node.opensLine options s.text.getLast? s.lists.isActive parent := by
  cases node with
  | blockQuote | orderedList | bulletList => exact startsLine_lineEnd_when _
  | listItem =>
    unfold Node.opens Node.opensLine
    cases hactive : s.lists.isActive with
    | true =>
      have hsolid : Text.IsSolid s.nextPrefix := isSolid_nextPrefix hactive
      rw [startsLine_append, startsLine_eq_false hsolid.ne_nil hsolid.lineEnd_not_mem]
      rfl
    | false =>
      rw [nextPrefix_of_not_isActive hactive, List.nil_append, Buffer.append_nil,
        startsLine_missing]
      rfl
  | _ => rfl

theorem begins_closing : Rendering.Begins t (closing sheet options node parent s t)
    (if node.endsLine parent && t.text.getLast? != some '\n' then some true else none) := by
  refine ⟨_, text_closing, ?_⟩
  unfold Node.closes
  split
  · rename_i hends
    rw [hends, Bool.true_and]
    exact startsLine_missing _ _
  · rename_i hends
    rw [if_neg (by simp [hends])]
    rfl

/-- **Siblings begin as the first of them does that writes anything.** -/
theorem Walk.begins (h : Walk sheet options nodes parent s t) :
    Rendering.Begins s t (nodes.findSome? fun node =>
      node.begins options s.text.getLast? s.lists.isActive parent) := by
  induction h with
  | nil => exact .refl _
  | @cons node rest parent s t u hdepth below after ihbelow ihafter =>
    have hopening : Rendering.Begins s (opening sheet options node parent s)
        (node.opensLine options s.text.getLast? s.lists.isActive parent) :=
      ⟨_, text_opening, startsLine_opens⟩
    have hclosing : t.text <+: (closing sheet options node parent s t).text := by
      rw [text_closing]
      exact List.prefix_append _ _
    have hnode : Rendering.Begins s (closing sheet options node parent s t)
        (node.begins options s.text.getLast? s.lists.isActive parent) := by
      rw [node.begins_eq]
      -- the children and the end matter only as long as nothing is written, and till then
      -- the text ends as it did
      refine hopening.trans (fun hsame => ?_) (below.text_isPrefix.trans hclosing)
      rw [isActive_opening, hsame] at ihbelow
      refine ihbelow.trans (fun hsame' => ?_) hclosing
      rw [← hsame, ← hsame']
      exact begins_closing
    have hrest : Rendering.Begins s u
        ((node.begins options s.text.getLast? s.lists.isActive parent).or
          (rest.findSome? fun node =>
            node.begins options s.text.getLast? s.lists.isActive parent)) := by
      refine hnode.trans (fun hsame => ?_) after.text_isPrefix
      rw [hsame, (sameNesting_closing hdepth below).isActive] at ihafter
      exact ihafter
    rw [List.findSome?_cons]
    cases hb : node.begins options s.text.getLast? s.lists.isActive parent with
    | none =>
      rw [hb] at hrest
      exact hrest
    | some b =>
      rw [hb] at hrest
      exact hrest

end Begins

end StyledMarkdown
