import StyledMarkdown.ListStack
import StyledMarkdown.Proofs.Operations.Brackets
/-!
# Runs on the open lists

Lists are entered and left in any order, and prefixes are taken of the
innermost one on the way. A list stays where it is, and keeps its number,
through all that is done to the lists inside it. So each open list can be
told from the push that entered it and the prefixes taken behind that push
with nothing else open inside, and the list that is left is the one entered
last.
-/

namespace StyledMarkdown

open Brackets

namespace ListStack

/-! ## Operations -/

/-- What can be done to the open lists. -/
inductive Op where
  | pushOrdered (start largestPrefix : Ordinal)
  | pushBulleted (marker : Char)
  | pop
  | nextPrefix
deriving DecidableEq

/-- A push opens a bracket and a pop closes one. -/
def Op.side : Op → Side
  | pushOrdered .. | pushBulleted _ => .opening
  | pop => .closing
  | nextPrefix => .neither

/-- **The open lists behind an operation.** One that fails leaves them as
they were. -/
def step (lists : ListStack) : Op → ListStack
  | .pushOrdered start largestPrefix => lists.pushOrdered start largestPrefix
  | .pushBulleted marker => lists.pushBulleted marker
  | .pop =>
    match lists.pop with
    | .ok (_, rest) => rest
    | .error _ => lists
  | .nextPrefix => lists.nextPrefix?.2

/-- **The open lists behind a run**, which begins with none. -/
def run (ops : List Op) (lists : ListStack := {}) : ListStack := ops.foldl step lists

/-- **How many prefixes a run takes of the list around it**: those taken
while nothing that it enters is open. -/
def taken (ops : List Op) : Nat :=
  (List.range ops.length).countP fun time =>
    ops[time]? = some .nextPrefix ∧ level Op.side (ops.take time) = 0

/-- **The list that a push enters**, inside so many others and with so many
prefixes taken of it. Its number stays at the greatest one there is. -/
def Op.Enters (depth taken : Nat) (context : ListContext) : Op → Prop
  | pushOrdered start largestPrefix =>
    ∃ counter : Ordinal,
      counter.val = min (start.val + taken) (Saturating.greatest : Ordinal).val ∧
        context = ⟨.ordered start counter largestPrefix, depth⟩
  | pushBulleted marker => context = ⟨.bulleted marker, depth⟩
  | pop | nextPrefix => False

variable {lists : ListStack} {op opening : Op} {ops before inside : List Op}
  {context other : ListContext} {contexts : List ListContext} {depth n : Nat}

/-! ## The list of a push -/

theorem Op.Enters.unique (h : op.Enters depth n context) (hother : op.Enters depth n other) :
    other = context := by
  cases op with
  | pushOrdered =>
    obtain ⟨counter, hcounter, rfl⟩ := h
    obtain ⟨counter', hcounter', rfl⟩ := hother
    rw [Saturating.ext_val (hcounter'.trans hcounter.symm)]
  | pushBulleted => exact hother.trans h.symm
  | pop | nextPrefix => exact h.elim

/-- One more prefix is taken, and the number goes up until it is the greatest. -/
theorem Op.Enters.nextPrefix (h : op.Enters depth n context) :
    op.Enters depth (n + 1) context.nextPrefix.2 := by
  cases op with
  | pushOrdered start largestPrefix =>
    obtain ⟨counter, hcounter, rfl⟩ := h
    refine ⟨counter + 1, ?_, rfl⟩
    have hone : (1 : Ordinal).val = 1 := by decide
    have hlower := start.lower
    have hpos := capacity_pos (64 - 1)
    rw [Saturating.val_add, Saturating.val_clamp, hone, hcounter, Saturating.val_greatest]
    omega
  | pushBulleted =>
    subst h
    rfl
  | pop | nextPrefix => exact h.elim

/-- A push enters its list in front of the others, with no prefix taken. -/
theorem contexts_step_of_opens (h : op.side = .opening) (lists : ListStack) :
    ∃ context, (lists.step op).contexts = context :: lists.contexts ∧
      op.Enters lists.depth 0 context := by
  cases op with
  | pushOrdered start largestPrefix =>
    refine ⟨_, rfl, start, ?_, rfl⟩
    have hupper := start.upper
    rw [Saturating.val_greatest]
    omega
  | pushBulleted => exact ⟨_, rfl, rfl⟩
  | pop | nextPrefix => cases h

/-! ## Steps -/

theorem contexts_step_pop (lists : ListStack) :
    (lists.step .pop).contexts = lists.contexts.tail := by
  obtain ⟨_ | ⟨context, contexts⟩⟩ := lists <;> rfl

theorem contexts_step_nextPrefix (lists : ListStack) :
    (lists.step .nextPrefix).contexts =
      lists.contexts.modifyHead fun context => context.nextPrefix.2 := by
  obtain ⟨_ | ⟨context, contexts⟩⟩ := lists <;> rfl

theorem run_cons (op : Op) (ops : List Op) (lists : ListStack) :
    run (op :: ops) lists = run ops (lists.step op) := rfl

theorem run_concat (ops : List Op) (op : Op) (lists : ListStack) :
    run (ops ++ [op]) lists = (run ops lists).step op :=
  List.foldl_concat step lists op ops

theorem run_append (ops more : List Op) (lists : ListStack) :
    run (ops ++ more) lists = run more (run ops lists) :=
  List.foldl_append

theorem taken_concat (ops : List Op) (op : Op) : taken (ops ++ [op]) =
    taken ops + if op = .nextPrefix ∧ level Op.side ops = 0 then 1 else 0 := by
  have hlast : (ops ++ [op])[ops.length]? = some op := List.getElem?_concat_length
  have htake : (ops ++ [op]).take ops.length = ops := List.take_left
  unfold taken
  rw [List.length_append, List.length_singleton, List.range_succ, List.countP_append,
    List.countP_singleton, hlast, htake]
  congr 1
  · refine List.countP_congr fun time htime => ?_
    have hlt : time < ops.length := List.mem_range.mp htime
    rw [List.getElem?_append_left hlt, List.take_append_of_le_length (Nat.le_of_lt hlt)]
  · simp

/-- **There is a list open for each push that no pop belongs to.** -/
theorem depth_run (ops : List Op) : (run ops).depth = level Op.side ops := by
  have hstep : ∀ (lists : ListStack) (op : Op),
      op.side.next lists.depth = (lists.step op).depth := by
    intro lists op
    unfold depth
    cases op with
    | pushOrdered | pushBulleted => rfl
    | pop =>
      rw [contexts_step_pop, List.length_tail]
      rfl
    | nextPrefix =>
      rw [contexts_step_nextPrefix, List.length_modifyHead]
      rfl
  exact (List.foldl_hom depth hstep).symm

/-! ## Inside a list -/

/-- **All that is done inside a list leaves the lists around it alone**, and
of the list itself prefixes are taken while it is the innermost one. -/
theorem contexts_inside (h : StaysInside Op.side inside)
    (hcontexts : lists.contexts = context :: contexts) (henters : op.Enters depth 0 context) :
    ∃ above context', (run inside lists).contexts = above ++ context' :: contexts ∧
      above.length = level Op.side inside ∧ op.Enters depth (taken inside) context' := by
  induction inside using List.reverseRecOn with
  | nil => exact ⟨[], context, hcontexts, rfl, henters⟩
  | append_singleton inside next ih =>
    obtain ⟨hinside, hclosing⟩ := StaysInside.concat_iff.mp h
    obtain ⟨above, context', hrun, hlength, hcontext'⟩ := ih hinside
    rw [run_concat, level_concat, taken_concat, ← hlength]
    cases next with
    | pushOrdered | pushBulleted =>
      -- a list is entered in front of those that are open
      exact ⟨_ :: above, context', congrArg (List.cons _) hrun, rfl, hcontext'⟩
    | pop =>
      -- there is a list inside to leave
      have hpos := hclosing rfl
      obtain ⟨innermost, above, rfl⟩ := List.exists_cons_of_length_pos (hlength ▸ hpos)
      exact ⟨above, context', by rw [contexts_step_pop, hrun]; rfl, rfl, hcontext'⟩
    | nextPrefix =>
      rw [contexts_step_nextPrefix, hrun]
      cases above with
      | nil => exact ⟨[], _, rfl, rfl, hcontext'.nextPrefix⟩
      | cons innermost above => exact ⟨_ :: above, context', rfl, rfl, hcontext'⟩

/-- **Where the list of a push stands** that is still open: inside those that
were open before it, and behind those opened since. -/
theorem exists_contexts_run (h : LeavesOpen Op.side ops before opening inside) :
    ∃ above context, (run ops).contexts = above ++ context :: (run before).contexts ∧
      above.length = level Op.side inside ∧
      opening.Enters (level Op.side before) (taken inside) context := by
  obtain ⟨entered, hentered, henters⟩ := contexts_step_of_opens h.opens (run before)
  rw [depth_run] at henters
  rw [h.split, run_append, run_cons]
  exact contexts_inside h.stays hentered henters

/-- Counted from the outermost, the list of a push stands behind those that
were open before it. -/
theorem exists_getElem?_reverse (h : LeavesOpen Op.side ops before opening inside) :
    ∃ context, (run ops).contexts.reverse[level Op.side before]? = some context ∧
      opening.Enters (level Op.side before) (taken inside) context := by
  obtain ⟨above, context, hcontexts, -, henters⟩ := exists_contexts_run h
  refine ⟨context, ?_, henters⟩
  have hlength : (run before).contexts.reverse.length = level Op.side before := by
    rw [List.length_reverse]
    exact depth_run before
  rw [hcontexts, List.reverse_append, List.reverse_cons, List.append_assoc, ← hlength,
    List.getElem?_append_right (Nat.le_refl _), Nat.sub_self]
  rfl

/-- The list of the last push that is still open is the one left next. -/
theorem pop_run (h : LeavesLast Op.side ops before opening inside) :
    ∃ context, (run ops).pop = .ok (context, run before) ∧
      opening.Enters (level Op.side before) (taken inside) context := by
  obtain ⟨above, context, hcontexts, hlength, henters⟩ := exists_contexts_run h.toLeavesOpen
  have hnone : above = [] := List.length_eq_zero_iff.mp (hlength.trans h.level_eq_zero)
  refine ⟨context, ?_, henters⟩
  unfold pop
  rw [hcontexts, hnone]
  rfl

theorem pop_eq_error_iff : lists.pop = .error .listUnderflow ↔ lists.depth = 0 := by
  obtain ⟨_ | ⟨context, contexts⟩⟩ := lists
  · exact ⟨fun _ => rfl, fun _ => rfl⟩
  · exact ⟨nofun, nofun⟩

theorem depth_pos_of_pop {rest : ListStack} (h : lists.pop = .ok (context, rest)) :
    0 < lists.depth := by
  refine Nat.pos_of_ne_zero fun hzero => ?_
  rw [pop_eq_error_iff.mpr hzero] at h
  cases h

/-! ## Any run -/

/-- **The open lists behind any run** are those of the pushes that no pop
belongs to, the outermost first. The list at a position has that depth, and
its number is the one it starts with and one more for each prefix taken while
it was the innermost list, up to the greatest number there is. A pop gives the
list of the last of these pushes as it is then, and the lists around it are as
they were before that push, whatever was entered and left inside. It fails
when every list that was entered has been left, and changes nothing then. -/
theorem run_lists (ops : List Op) :
    let lists := run ops
    (∀ depth context, lists.contexts.reverse[depth]? = some context ↔
      ∃ before opening inside, LeavesOpen Op.side ops before opening inside ∧
        level Op.side before = depth ∧ opening.Enters depth (taken inside) context) ∧
    (∀ context rest, lists.pop = .ok (context, rest) ↔
      ∃ before opening inside, LeavesLast Op.side ops before opening inside ∧
        opening.Enters (level Op.side before) (taken inside) context ∧ rest = run before) ∧
    (∀ context rest, lists.pop = .ok (context, rest) → run (ops ++ [.pop]) = rest) ∧
    (lists.pop = .error .listUnderflow ↔
      ∀ before opening inside, ¬ LeavesOpen Op.side ops before opening inside) ∧
    (lists.pop = .error .listUnderflow → run (ops ++ [.pop]) = lists) := by
  intro lists
  have hdepth : lists.depth = level Op.side ops := depth_run ops
  refine ⟨fun depth context => ⟨fun h => ?_, ?_⟩, fun context rest => ⟨fun h => ?_, ?_⟩,
    fun context rest h => ?_, ?_, fun h => ?_⟩
  · -- some push has come to that level, and its list is the one that stands there
    have hlt : depth < level Op.side ops := by
      obtain ⟨hlt, -⟩ := List.getElem?_eq_some_iff.mp h
      rwa [List.length_reverse, ← ListStack.depth, hdepth] at hlt
    obtain ⟨before, opening, inside, hopen, rfl⟩ := exists_leavesOpen hlt
    obtain ⟨context', hcontext', henters⟩ := exists_getElem?_reverse hopen
    obtain rfl : context' = context := Option.some.inj (hcontext'.symm.trans h)
    exact ⟨before, opening, inside, hopen, rfl, henters⟩
  · rintro ⟨before, opening, inside, hopen, rfl, henters⟩
    obtain ⟨context', hcontext', henters'⟩ := exists_getElem?_reverse hopen
    rw [hcontext', henters.unique henters']
  · have hpos : 0 < level Op.side ops := hdepth ▸ depth_pos_of_pop h
    obtain ⟨before, opening, inside, hlast⟩ := exists_leavesLast hpos
    obtain ⟨context', hpop, henters⟩ := pop_run hlast
    obtain ⟨rfl, rfl⟩ := Prod.mk.inj (Except.ok.inj (hpop.symm.trans h))
    exact ⟨before, opening, inside, hlast, henters, rfl⟩
  · rintro ⟨before, opening, inside, hlast, henters, rfl⟩
    obtain ⟨context', hpop, henters'⟩ := pop_run hlast
    rw [hpop, henters.unique henters']
  · have hpop : (run ops).pop = .ok (context, rest) := h
    rw [run_concat, step, hpop]
  · rw [pop_eq_error_iff, hdepth]
    exact level_eq_zero_iff
  · have hpop : (run ops).pop = .error .listUnderflow := h
    rw [run_concat, step, hpop]

/-- What happens in the list inside does not count for the one around it. -/
example : (run [.pushOrdered 3 5, .nextPrefix, .pushBulleted '-', .nextPrefix, .pop,
    .nextPrefix]).contexts = [⟨.ordered 3 5 5, 0⟩] := by decide

end ListStack

end StyledMarkdown
