import Mathlib.Data.List.Forall2
import StyledMarkdown.Proofs.Rendering.Depth
import StyledMarkdown.Proofs.Rendering.Parts
/-!
# Rendering is local

What a node adds to a rendering depends on the lists that are open, the
depth and the last character of the text, and on nothing else that was
rendered before: two renderings that agree in these add the same text, and
marks and lists at the same distance from where they began. The lists
rendered earlier begin no later than that, so they are in the range of no
item that comes behind.
-/

namespace StyledMarkdown

open RenderM

/-! ## Positions that have moved -/

/-- **Two positions at the same distance** from two others. -/
def Moved (origin origin' n n' : Nat) : Prop := n' + origin = n + origin'

/-- Two annotations with the same mark over ranges that have moved. -/
structure MovedMark (origin origin' : Nat) (a a' : Annotation) : Prop where
  mark : a'.mark = a.mark
  start : Moved origin origin' a.start a'.start
  stop : Moved origin origin' a.stop a'.stop

/-- Two extents that have moved. -/
structure MovedExtent (origin origin' : Nat) (e e' : Extent) : Prop where
  start : Moved origin origin' e.start e'.start
  stop : Moved origin origin' e.stop e'.stop

/-- **Two lists that have grown alike** at their heads, each from its own
beginning. -/
def GrownAlike {α : Type} (moved : α → α → Prop) (old new old' new' : List α) : Prop :=
  ∃ added added', new = added ++ old ∧ new' = added' ++ old' ∧ List.Forall₂ moved added added'

section Moved

variable {α : Type} {moved : α → α → Prop} {old new old' new' more more' : List α}
  {origin origin' m m' n n' : Nat}

theorem GrownAlike.refl : GrownAlike moved old old old' old' := ⟨[], [], rfl, rfl, .nil⟩

theorem GrownAlike.append (h : GrownAlike moved old new old' new')
    (hmore : List.Forall₂ moved more more') :
    GrownAlike moved old (more ++ new) old' (more' ++ new') := by
  obtain ⟨added, added', rfl, rfl, hadded⟩ := h
  exact ⟨more ++ added, more' ++ added', (List.append_assoc ..).symm, (List.append_assoc ..).symm,
    List.rel_append hmore hadded⟩

theorem GrownAlike.exists_added (h : GrownAlike moved old new old' new')
    (heq : ∀ a a', moved a a' → a' = a) : ∃ added, new = added ++ old ∧ new' = added ++ old' := by
  obtain ⟨added, added', hnew, hnew', hadded⟩ := h
  obtain rfl : added' = added := List.forall₂_eq_eq_eq ▸ hadded.flip.imp fun a' a h => heq a a' h
  exact ⟨added', hnew, hnew'⟩

theorem Moved.eq (h : Moved origin origin n n') : n' = n := Nat.add_right_cancel h

theorem MovedMark.eq {a a' : Annotation} (h : MovedMark origin origin a a') : a' = a := by
  obtain ⟨mark, start, stop⟩ := a
  obtain ⟨mark', start', stop'⟩ := a'
  obtain rfl : mark' = mark := h.mark
  obtain rfl : start' = start := h.start.eq
  obtain rfl : stop' = stop := h.stop.eq
  rfl

theorem MovedExtent.eq {e e' : Extent} (h : MovedExtent origin origin e e') : e' = e := by
  obtain ⟨start, stop⟩ := e
  obtain ⟨start', stop'⟩ := e'
  obtain rfl : start' = start := h.start.eq
  obtain rfl : stop' = stop := h.stop.eq
  rfl

theorem Moved.add (h : Moved origin origin' n n') (k : Nat) :
    Moved origin origin' (n + k) (n' + k) := by
  unfold Moved at *
  omega

theorem Moved.le_iff (hm : Moved origin origin' m m') (hn : Moved origin origin' n n') :
    m ≤ n ↔ m' ≤ n' := by
  unfold Moved at *
  omega

theorem Moved.eq_iff (hm : Moved origin origin' m m') (hn : Moved origin origin' n n') :
    m = n ↔ m' = n' := by
  unfold Moved at *
  omega

theorem Moved.min (hm : Moved origin origin' m m') (hn : Moved origin origin' n n') :
    Moved origin origin' (min m n) (min m' n') := by
  unfold Moved at *
  omega

theorem Moved.min? {ns ns' : List Nat} (h : List.Forall₂ (Moved origin origin') ns ns') :
    Option.Rel (Moved origin origin') ns.min? ns'.min? := by
  cases h with
  | nil => exact .none
  | cons hn hns => exact .some (List.rel_foldl (fun _ _ hm _ _ hn => hm.min hn) hn hns)

end Moved

/-! ## The parts of an item that has moved -/

section Parts

variable {old old' extents extents' : List Extent} {origin origin' start start' stop stop' : Nat}
  {buffer buffer' : Buffer} {before before' after : List Char} {parts parts' : Nat × Option Nat}

theorem filter_nested_eq_nil (h : ∀ e ∈ old, e.start ≤ start) :
    (old.filter fun e => start < e.start && e.stop ≤ stop) = [] :=
  List.filter_eq_nil_iff.mpr fun e he => by
    have := h e he
    simp only [Bool.and_eq_true, decide_eq_true_eq]
    omega

/-- **The lists rendered earlier are nested in no range that begins where
they do or behind them**, so the list found moves along with the others. -/
theorem nestedList?_moved
    (h : GrownAlike (MovedExtent origin origin') old extents old' extents')
    (hold : ∀ e ∈ old, e.start ≤ start) (hold' : ∀ e ∈ old', e.start ≤ start')
    (hstart : Moved origin origin' start start') (hstop : Moved origin origin' stop stop') :
    Option.Rel (Moved origin origin') (nestedList? extents start stop)
      (nestedList? extents' start' stop') := by
  obtain ⟨added, added', rfl, rfl, hadded⟩ := h
  unfold nestedList?
  rw [List.filter_append, filter_nested_eq_nil hold, List.append_nil, List.filter_append,
    filter_nested_eq_nil hold', List.append_nil]
  refine Moved.min? (List.rel_map (fun _ _ he => he.start) (List.rel_filter ?_ hadded))
  intro e e' he
  have hlt := not_congr (he.start.le_iff hstart)
  simp only [Bool.and_eq_true, decide_eq_true_eq, ← Nat.not_le, hlt, he.stop.le_iff hstop]

/-- The same text has its inner line end at the same distance. -/
theorem innerLineEnd?_moved (after : List Char) (h : Moved origin origin' start start') :
    Option.Rel (Moved origin origin') (innerLineEnd? after start (start + Text.size after))
      (innerLineEnd? after start' (start' + Text.size after)) := by
  cases hend : lineEnd? after with
  | none =>
    unfold innerLineEnd?
    rw [hend]
    exact .none
  | some n =>
    obtain ⟨line, rest, rfl, hline, rfl⟩ := exists_of_lineEnd?_eq_some hend
    have hsize : Text.size (line ++ '\n' :: rest) = Text.size line + 1 + Text.size rest := by
      rw [Text.size_append, Text.size_cons, Nat.add_assoc]
      rfl
    rw [innerLineEnd?_eq hline, innerLineEnd?_eq hline, hsize]
    by_cases hinner : 0 < Text.size rest
    · rw [if_pos (by omega), if_pos (by omega)]
      exact .some (h.add _)
    · rw [if_neg (by omega), if_neg (by omega)]
      exact .none

/-- **The boundaries of an item move along** with it and the lists found. -/
theorem itemBoundaries_moved (hbuffer : buffer.toList = before ++ after)
    (hbuffer' : buffer'.toList = before' ++ after)
    (hstart : Moved origin origin' (Text.size before) (Text.size before'))
    (hlist : Option.Rel (Moved origin origin')
      (nestedList? extents (Text.size before) buffer.size)
      (nestedList? extents' (Text.size before') buffer'.size)) :
    let parts := itemBoundaries buffer extents (Text.size before) buffer.size
    let parts' := itemBoundaries buffer' extents' (Text.size before') buffer'.size
    Moved origin origin' parts.1 parts'.1 ∧
      Option.Rel (Moved origin origin') parts.2 parts'.2 := by
  have hline := innerLineEnd?_moved after hstart
  have hstop : Moved origin origin' buffer.size buffer'.size := by
    rw [Buffer.size_toList, hbuffer, Buffer.size_toList, hbuffer', Text.size_append,
      Text.size_append]
    exact hstart.add _
  rw [← Text.size_append, ← Text.size_append, ← hbuffer, ← hbuffer', ← Buffer.size_toList,
    ← Buffer.size_toList] at hline
  rw [itemBoundaries, Buffer.since_eq hbuffer, ← innerLineEnd?.eq_1, itemBoundaries,
    Buffer.since_eq hbuffer', ← innerLineEnd?.eq_1]
  generalize innerLineEnd? after _ _ = paragraph at hline ⊢
  generalize innerLineEnd? after _ _ = paragraph' at hline ⊢
  generalize nestedList? extents _ _ = list at hlist ⊢
  generalize nestedList? extents' _ _ = list' at hlist ⊢
  cases hline with
  | none =>
    cases hlist with
    | none => exact ⟨hstop, .none⟩
    | some hl => exact ⟨hl.add 1, .none⟩
  | @some paragraph paragraph' hp =>
    cases hlist with
    | none => exact ⟨hp.add 1, .some hstop⟩
    | @some list list' hl =>
      dsimp only
      by_cases heq : paragraph = list
      · rw [if_pos heq, if_pos ((hp.eq_iff hl).mp heq)]
        exact ⟨hl.add 1, .none⟩
      · rw [if_neg heq, if_neg (mt (hp.eq_iff hl).mpr heq)]
        exact ⟨hp.add 1, .some hl⟩

/-- The marks over the parts of an item move along with the parts. -/
theorem partMarks_moved (sheet : StyleSheet) (geometry : PrefixGeometry)
    (hstart : Moved origin origin' start start') (hfirst : Moved origin origin' parts.1 parts'.1)
    (hsecond : Option.Rel (Moved origin origin') parts.2 parts'.2) :
    List.Forall₂ (MovedMark origin origin') (partMarks sheet geometry start parts)
      (partMarks sheet geometry start' parts') := by
  obtain ⟨first, second⟩ := parts
  obtain ⟨first', second'⟩ := parts'
  cases hsecond with
  | none =>
    exact .cons ⟨rfl, hstart, hfirst⟩ (.cons ⟨rfl, hstart, hfirst⟩
      (.cons ⟨rfl, hstart, hfirst⟩ .nil))
  | some hsecond =>
    exact .cons ⟨rfl, hstart, hsecond⟩ (.cons ⟨rfl, hfirst, hsecond⟩
      (.cons ⟨rfl, hstart, hfirst⟩ (.cons ⟨rfl, hstart, hfirst⟩ .nil)))

end Parts

/-! ## Two renderings in step -/

namespace Rendering

/-- **Two states that look alike to what comes next**: the same lists are
open, at the same depth, and the texts end with the same character or are
both empty. -/
structure Alike (s s' : Rendering) : Prop where
  lists : s'.lists = s.lists
  depth : s'.depth = s.depth
  last : s'.text.getLast? = s.text.getLast?

/-- **Two renderings in step**, one from `s` to `t` and the other from `s'`
to `t'`: they have added the same text, and the same marks and lists up to
the distance between `s` and `s'`. -/
structure InStep (s s' t t' : Rendering) : Prop where
  alike : Alike t t'
  text : ∃ written, t.text = s.text ++ written ∧ t'.text = s'.text ++ written
  marks : GrownAlike (MovedMark s.cursor s'.cursor) s.writer.marks t.writer.marks
    s'.writer.marks t'.writer.marks
  extents : GrownAlike (MovedExtent s.cursor s'.cursor) s.extents t.extents s'.extents t'.extents

/-- **A state that knows no list behind its cursor.** -/
def Settled (s : Rendering) : Prop := ∀ e ∈ s.extents, e.start ≤ s.cursor

theorem InStep.refl {s s' : Rendering} (h : Alike s s') : InStep s s' s s' where
  alike := h
  text := ⟨[], (List.append_nil _).symm, (List.append_nil _).symm⟩
  marks := .refl
  extents := .refl

end Rendering

open Rendering (Alike InStep)

section InStep

variable {sheet : StyleSheet} {options : RenderOptions} {node : Node} {nodes : List Node}
  {parent : Parent} {s s' t t' u u' : Rendering}

/-- Positions that two renderings in step have come to. -/
theorem Rendering.InStep.cursor (h : InStep s s' t t') :
    Moved s.cursor s'.cursor t.cursor t'.cursor := by
  obtain ⟨written, htext, htext'⟩ := h.text
  unfold Moved
  simp only [Rendering.cursor_eq_size, htext, htext', Text.size_append]
  omega

theorem Rendering.Alike.missing (h : Alike t t') (c : Char) :
    t'.writer.buffer.missing c = t.writer.buffer.missing c := by
  unfold Buffer.missing
  rw [Buffer.last?_eq, Buffer.last?_eq]
  exact congrArg (fun last => if last = some c then [] else [c]) h.last

theorem Rendering.Alike.nextPrefix (h : Alike t t') : t'.nextPrefix = t.nextPrefix := by
  unfold Rendering.nextPrefix
  rw [h.lists]

/-- States that look alike open a node with the same text. -/
theorem Rendering.Alike.opens (h : Alike t t') :
    node.opens options parent t' = node.opens options parent t := by
  cases node with
  | orderedList | bulletList => exact congrArg (fun lists : ListStack =>
      if lists.isActive then ['\n'] else []) h.lists
  | listItem =>
    -- the prefix is written first, and a tab where the prefix does not end with one
    have hlast : (t'.writer.buffer.append t.nextPrefix).last? =
        (t.writer.buffer.append t.nextPrefix).last? := by
      rw [Buffer.last?_eq, Buffer.last?_eq, Buffer.toList_append, Buffer.toList_append,
        List.getLast?_append, List.getLast?_append]
      exact congrArg _ h.last
    unfold Node.opens Buffer.missing
    rw [h.nextPrefix, hlast]
  | _ => rfl

theorem Rendering.Alike.closes (h : Alike t t') :
    node.closes parent t' = node.closes parent t := by
  unfold Node.closes
  rw [h.missing]

theorem Rendering.InStep.openingMarks (h : InStep s s' t t') :
    List.Forall₂ (MovedMark s.cursor s'.cursor) (node.openingMarks sheet t)
      (node.openingMarks sheet t') := by
  cases node with
  | listItem children =>
    unfold Node.openingMarks
    rw [h.alike.lists, h.alike.nextPrefix]
    exact .cons ⟨rfl, h.cursor, h.cursor.add _⟩ (.cons ⟨rfl, h.cursor, h.cursor.add _⟩ .nil)
  | _ => exact .nil

/-- **Two renderings in step go below a node in step.** -/
theorem Rendering.InStep.opening (h : InStep s s' t t') :
    InStep s s' (opening sheet options node parent t) (opening sheet options node parent t') where
  alike :=
    { lists := congrArg node.enter h.alike.lists
      depth := congrArg (· + 1) h.alike.depth
      last := by
        rw [text_opening, text_opening, h.alike.opens, List.getLast?_append, List.getLast?_append,
          h.alike.last] }
  text := by
    obtain ⟨written, htext, htext'⟩ := h.text
    refine ⟨written ++ node.opens options parent t, ?_, ?_⟩
    · rw [text_opening, htext, List.append_assoc]
    · rw [text_opening, htext', h.alike.opens, List.append_assoc]
  marks := h.marks.append h.openingMarks
  extents := h.extents

/-- What one of two renderings in step writes in between the other writes
as well. -/
theorem Rendering.InStep.exists_written (h : InStep s s' t t') (hu : InStep s s' u u')
    (hbelow : t.text <+: u.text) :
    ∃ after, u.text = t.text ++ after ∧ u'.text = t'.text ++ after := by
  obtain ⟨written, htext, htext'⟩ := h.text
  obtain ⟨more, hmore, hmore'⟩ := hu.text
  obtain ⟨after, hafter⟩ := hbelow
  refine ⟨after, hafter.symm, ?_⟩
  rw [hmore, htext, List.append_assoc, List.append_cancel_left_eq] at hafter
  rw [hmore', htext', ← hafter, List.append_assoc]

theorem Rendering.InStep.closed (hu : InStep s s' u u') (node : Node) (parent : Parent) :
    Moved s.cursor s'.cursor (node.closed parent u).size (node.closed parent u').size := by
  have hsize : ∀ u : Rendering, (node.closed parent u).size =
      u.cursor + Text.size (node.closes parent u) := fun _ => rfl
  rw [hsize, hsize, hu.alike.closes]
  exact hu.cursor.add _

/-- **Items in step have their parts in step**: the lists rendered before
both of them began have no part in it. -/
theorem Rendering.InStep.partMarks (h : InStep s s' t t') (hu : InStep s s' u u')
    (hbelow : t.text <+: u.text) (hs : s.Settled) (hs' : s'.Settled) :
    List.Forall₂ (MovedMark s.cursor s'.cursor)
      (node.partMarks sheet t (node.closed parent u) u.extents)
      (node.partMarks sheet t' (node.closed parent u') u'.extents) := by
  cases node with
  | listItem children =>
    obtain ⟨after, hafter, hafter'⟩ := h.exists_written hu hbelow
    obtain ⟨written, htext, htext'⟩ := h.text
    have hstart := h.cursor
    -- the lists rendered before the two runs began are behind neither cursor
    have hlist := nestedList?_moved hu.extents
      (fun e he => Nat.le_trans (hs e he) (cursor_le_of_isPrefix ⟨written, htext.symm⟩))
      (fun e he => Nat.le_trans (hs' e he) (cursor_le_of_isPrefix ⟨written, htext'.symm⟩))
      hstart (hu.closed (.listItem children) parent)
    have hbuffer : ((Node.listItem children).closed parent u).toList =
        t.text ++ (after ++ (Node.listItem children).closes parent u) := by
      rw [← List.append_assoc, ← hafter]
      exact Buffer.toList_append _ _
    have hbuffer' : ((Node.listItem children).closed parent u').toList =
        t'.text ++ (after ++ (Node.listItem children).closes parent u) := by
      rw [← List.append_assoc, ← hafter', ← hu.alike.closes]
      exact Buffer.toList_append _ _
    rw [t.cursor_eq_size, t'.cursor_eq_size] at hstart hlist
    obtain ⟨hfirst, hsecond⟩ := itemBoundaries_moved hbuffer hbuffer' hstart hlist
    unfold Node.partMarks
    rw [h.alike.lists, t.cursor_eq_size, t'.cursor_eq_size]
    exact partMarks_moved sheet _ hstart hfirst hsecond
  | _ => exact .nil

/-- The extent of a node begins at the same distance in two renderings. -/
theorem Rendering.InStep.start (h : InStep s s' t t') (node : Node) (parent : Parent) :
    Moved s.cursor s'.cursor (node.start parent t) (node.start parent t') := h.cursor.add _

theorem Rendering.InStep.spanMarks (h : InStep s s' t t') (hu : InStep s s' u u') :
    List.Forall₂ (MovedMark s.cursor s'.cursor)
      (node.spanMarks sheet options parent (node.start parent t) (node.closed parent u).size)
      (node.spanMarks sheet options parent (node.start parent t')
        (node.closed parent u').size) := by
  unfold Node.spanMarks
  split
  · exact .cons ⟨rfl, h.start node parent, hu.closed node parent⟩ .nil
  · exact .nil

/-- **Two renderings in step come back from a node in step.** -/
theorem Rendering.InStep.closing (h : InStep s s' t t') (hu : InStep s s' u u')
    (hbelow : t.text <+: u.text) (hs : s.Settled) (hs' : s'.Settled) :
    InStep s s' (closing sheet options node parent t u)
      (closing sheet options node parent t' u') where
  alike :=
    { lists := by
        unfold StyledMarkdown.closing
        rw [hu.alike.lists]
      depth := h.alike.depth
      last := by
        rw [text_closing, text_closing, hu.alike.closes, List.getLast?_append,
          List.getLast?_append, hu.alike.last] }
  text := by
    obtain ⟨written, htext, htext'⟩ := hu.text
    refine ⟨written ++ node.closes parent u, ?_, ?_⟩
    · rw [text_closing, htext, List.append_assoc]
    · rw [text_closing, htext', hu.alike.closes, List.append_assoc]
  marks := (hu.marks.append (h.partMarks hu hbelow hs hs')).append (h.spanMarks hu)
  extents := by
    by_cases hlist : node.isList
    · rw [extents_closing_of_isList hlist, extents_closing_of_isList hlist]
      exact hu.extents.append (.cons ⟨h.start node parent, hu.closed node parent⟩ .nil)
    · rw [extents_closing_of_not_isList hlist, extents_closing_of_not_isList hlist]
      exact hu.extents

/-- **A walk has another one in step with it** from every state that looks
alike. -/
theorem Walk.inStep (hw : Walk sheet options nodes parent t u) (h : InStep s s' t t')
    (hs : s.Settled) (hs' : s'.Settled) :
    ∃ u', Walk sheet options nodes parent t' u' ∧ InStep s s' u u' := by
  induction hw generalizing t' with
  | nil => exact ⟨t', .nil _ _, h⟩
  | @cons node rest parent t v u hdepth below after ihbelow ihafter =>
    obtain ⟨v', below', hv⟩ := ihbelow h.opening
    have hprefix : t.text <+: v.text :=
      (text_isPrefix_opening sheet options node parent t).trans below.text_isPrefix
    obtain ⟨u', after', hu⟩ := ihafter (h.closing hv hprefix hs hs')
    exact ⟨u', .cons (h.alike.depth ▸ hdepth) below' after', hu⟩

end InStep

/-! ## Earlier lists -/

section Earlier

variable {sheet : StyleSheet} {options : RenderOptions} {node : Node} {parent : Parent}
  {s t t' : Rendering} {earlier : List Extent}

theorem Buffer.ext_toList {b b' : Buffer} (h : b'.toList = b.toList) : b' = b :=
  ext_reversed (List.reverse_injective h)

/-- Renderings in step from states that differ in the lists rendered earlier
end in states that differ in these only. -/
theorem Rendering.InStep.exists_eq (h : InStep s { s with extents := earlier } t t')
    (hsaved : t'.writer.saved = t.writer.saved) :
    ∃ added, t.extents = added ++ s.extents ∧ t' = { t with extents := added ++ earlier } := by
  obtain ⟨written, htext, htext'⟩ := h.text
  obtain ⟨marks, hmarks, hmarks'⟩ := h.marks.exists_added fun _ _ => MovedMark.eq
  obtain ⟨added, hadded, hadded'⟩ := h.extents.exists_added fun _ _ => MovedExtent.eq
  have hbuffer : t'.writer.buffer = t.writer.buffer := Buffer.ext_toList (htext'.trans htext.symm)
  have hwriter : t'.writer = t.writer :=
    (Writer.mk.injEq ..).mpr ⟨hbuffer, hsaved, hmarks'.trans hmarks.symm⟩
  exact ⟨added, hadded,
    (Rendering.mk.injEq ..).mpr ⟨hwriter, h.alike.lists, hadded', h.alike.depth⟩⟩

/-- **The lists rendered earlier stay as they are**, and nothing else that a
node leaves depends on them. -/
theorem visit_exec_earlier (hs : s.Settled) (hearlier : ∀ e ∈ earlier, e.start ≤ s.cursor)
    (ht : (visit sheet options node parent).exec s = (.ok (), t)) :
    ∃ added, t.extents = added ++ s.extents ∧
      (visit sheet options node parent).exec { s with extents := earlier } =
        (.ok (), { t with extents := added ++ earlier }) := by
  have hw := walk_singleton_iff_exec.mpr ht
  have halike : Alike s { s with extents := earlier } := ⟨rfl, rfl, rfl⟩
  obtain ⟨t', hw', hstep⟩ := hw.inStep (.refl halike) hs hearlier
  have hsaved : t'.writer.saved = t.writer.saved :=
    hw'.sameNesting.saved.trans hw.sameNesting.saved.symm
  obtain ⟨added, hadded, rfl⟩ := hstep.exists_eq hsaved
  exact ⟨added, hadded, walk_singleton_iff_exec.mp hw'⟩

end Earlier

/-! ## Renderings -/

/-- A state that some rendering comes through. -/
def Rendering.Reachable (s : Rendering) : Prop :=
  ∃ sheet options root above siblings, Reaches sheet options root above siblings s

theorem Rendering.Reachable.settled {s : Rendering} (h : s.Reachable) : s.Settled := by
  obtain ⟨_, _, _, _, _, hreach⟩ := h
  exact hreach.sound.extents

theorem Reaches.reachable {sheet : StyleSheet} {options : RenderOptions} {root : Node}
    {above siblings : List Node} {s : Rendering}
    (h : Reaches sheet options root above siblings s) : s.Reachable := ⟨_, _, _, _, _, h⟩

/-- **Rendering is local.** From two states of renderings that have the same
lists open, at the same depth, behind texts that end alike, a node succeeds
or fails in the same way. Where it succeeds it adds the same text, and the
same marks and lists up to the distance between the states, and leaves the
same lists open. The lists rendered earlier have no part in it: whichever
they are, so long as none is behind the cursor, the states differ in
nothing else. -/
theorem visit_local (sheet : StyleSheet) (options : RenderOptions) (node : Node)
    (parent : Parent) {s s' : Rendering} (hs : s.Reachable) (hs' : s'.Reachable)
    (h : Alike s s') :
    ((visit sheet options node parent).exec s').1 = ((visit sheet options node parent).exec s).1 ∧
    ∀ t, (visit sheet options node parent).exec s = (.ok (), t) →
      (∃ t', (visit sheet options node parent).exec s' = (.ok (), t') ∧ InStep s s' t t') ∧
      ∃ added, t.extents = added ++ s.extents ∧
        ∀ earlier : List Extent, (∀ e ∈ earlier, e.start ≤ s.cursor) →
          (visit sheet options node parent).exec { s with extents := earlier } =
            (.ok (), { t with extents := added ++ earlier }) := by
  refine ⟨?_, fun t ht => ?_⟩
  · rw [visit_exec_fst, visit_exec_fst, h.depth]
  · have hw := walk_singleton_iff_exec.mpr ht
    obtain ⟨t', hw', hstep⟩ := hw.inStep (.refl h) hs.settled hs'.settled
    obtain ⟨added, hadded, -⟩ :=
      visit_exec_earlier hs.settled (List.forall_mem_nil _) ht
    refine ⟨⟨t', walk_singleton_iff_exec.mp hw', hstep⟩, added, hadded, fun earlier hearlier => ?_⟩
    obtain ⟨added', hadded', hexec⟩ := visit_exec_earlier hs.settled hearlier ht
    obtain rfl : added' = added := List.append_cancel_right (hadded'.symm.trans hadded)
    exact hexec

/-- An item with a list in it, behind another such item in one document and
behind a heading in another. -/
theorem item_behind_item_local :
    let item := Node.listItem [.paragraph [.text "a"], .bulletList '*' [.listItem []]]
    ∃ s s' t t', Rendering.Reachable s ∧ Rendering.Reachable s' ∧ s.extents ≠ [] ∧
      s'.extents = [] ∧ s.cursor ≠ s'.cursor ∧
      (visit {} {} item .other).exec s = (.ok (), t) ∧
      (visit {} {} item .other).exec s' = (.ok (), t') ∧ InStep s s' t t' := by
  intro item
  have hstart : Reaches {} {} (.document [.bulletList '-' [item, item]]) _ _ _ := .start
  have hstart' : Reaches {} {} (.document [.heading 1 [.text "é"], .bulletList '-' [item]]) _ _ _ :=
    .start
  have hreach := hstart.down.down.next (visit_exec_of_fits (by decide +kernel))
  have hreach' := (hstart'.down.next (visit_exec_of_fits (by decide +kernel))).down
  obtain ⟨-, hlocal⟩ := visit_local {} {} item .other hreach.reachable hreach'.reachable
    ⟨by decide +kernel, by decide +kernel, by decide +kernel⟩
  obtain ⟨⟨t', hvisit', hstep⟩, -⟩ := hlocal _ (visit_exec_of_fits (by decide +kernel))
  exact ⟨_, _, _, t', hreach.reachable, hreach'.reachable, by decide +kernel, by decide +kernel,
    by decide +kernel, visit_exec_of_fits (by decide +kernel), hvisit', hstep⟩

end StyledMarkdown
