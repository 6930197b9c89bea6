import StyledMarkdown.Proofs.Operations.Brackets
import StyledMarkdown.Proofs.Rendering.Steps
import StyledMarkdown.Proofs.Text.Boundary
/-!
# Runs on a writer

What is done to a writer only adds to its text, and cursors are saved and
retrieved like brackets. The cursor that is retrieved is the one saved last
of those still waiting, so behind it stands all that was written since, with
whatever was saved and retrieved in between. The saved cursors are in order,
since the text never gets shorter.
-/

namespace StyledMarkdown

open Brackets

namespace Writer

/-! ## Operations -/

/-- What can be done to a writer. -/
inductive Op where
  | write (content : String)
  | appendIfNeeded (c : Char)
  | line
  | lineIfNeeded
  | space
  | spaceIfNeeded
  | tab
  | tabIfNeeded
  | saveCursor
  | retrieveCursor
  | set (mark : Mark) (start stop : Nat)
  | setSpan (span : GroupSpan) (start : Nat)
  | setLayout (directive : Directive) (start stop : Nat)

/-- A save opens a bracket and a retrieve closes one. -/
def Op.side : Op → Side
  | saveCursor => .opening
  | retrieveCursor => .closing
  | _ => .neither

/-- **The writer behind an operation.** One that fails leaves it as it was. -/
def step (w : Writer) : Op → Writer
  | .write content => w.write content
  | .appendIfNeeded c => (w.appendIfNeeded c).2
  | .line => w.line
  | .lineIfNeeded => w.lineIfNeeded.2
  | .space => w.space
  | .spaceIfNeeded => w.spaceIfNeeded.2
  | .tab => w.tab
  | .tabIfNeeded => w.tabIfNeeded.2
  | .saveCursor => w.saveCursor.2
  | .retrieveCursor =>
    match w.retrieveCursor with
    | .ok (_, after) => after
    | .error _ => w
  | .set mark start stop => w.set mark start stop
  | .setSpan span start => w.setSpan span start
  | .setLayout directive start stop => w.setLayout directive start stop

/-- **The writer behind a run**, which begins with nothing written. -/
def run (ops : List Op) (w : Writer := {}) : Writer := ops.foldl step w

/-- The text so far. -/
def text (w : Writer) : List Char := w.buffer.toList

/-- A character, unless the text ends with it. -/
def missing (text : List Char) (c : Char) : List Char :=
  if text.getLast? = some c then [] else [c]

/-- **What an operation adds to a text.** -/
def Op.added (text : List Char) : Op → List Char
  | write content => content.toList
  | appendIfNeeded c => missing text c
  | line => ['\n']
  | lineIfNeeded => missing text '\n'
  | space => [' ']
  | spaceIfNeeded => missing text ' '
  | tab => ['\t']
  | tabIfNeeded => missing text '\t'
  | _ => []

/-- **What a run adds to a text**, operation by operation. -/
def written (text : List Char) : List Op → List Char
  | [] => []
  | op :: ops => op.added text ++ written (text ++ op.added text) ops

variable {w : Writer} {op opening : Op} {ops before inside : List Op}

/-! ## Steps -/

theorem cursor_eq (w : Writer) : w.cursor = Text.size w.text := w.buffer.size_toList

/-- **An operation adds to the text**, and no more than that. -/
theorem text_step (w : Writer) (op : Op) : (w.step op).text = w.text ++ op.added w.text := by
  have happend : ∀ c, (w.appendIfNeeded c).2.text = w.text ++ missing w.text c := by
    intro c
    unfold text missing
    rw [w.appendIfNeeded_eq, Buffer.toList_append, Buffer.missing, Buffer.last?_eq]
  cases op with
  | write content => exact w.buffer.toList_append content.toList
  | line => exact w.buffer.toList_append ['\n']
  | space => exact w.buffer.toList_append [' ']
  | tab => exact w.buffer.toList_append ['\t']
  | appendIfNeeded c => exact happend c
  | lineIfNeeded => exact happend '\n'
  | spaceIfNeeded => exact happend ' '
  | tabIfNeeded => exact happend '\t'
  | retrieveCursor =>
    obtain ⟨buffer, _ | ⟨start, saved⟩, marks⟩ := w <;> exact (List.append_nil _).symm
  | saveCursor | set | setSpan | setLayout => exact (List.append_nil _).symm

/-- The saved cursors change with a save and a retrieve alone. -/
theorem saved_step (w : Writer) (op : Op) : (w.step op).saved =
    match op.side with
    | .opening => w.cursor :: w.saved
    | .closing => w.saved.tail
    | .neither => w.saved := by
  have happend : ∀ c, (w.appendIfNeeded c).2.saved = w.saved := by
    intro c
    rw [w.appendIfNeeded_eq]
  cases op with
  | appendIfNeeded c => exact happend c
  | lineIfNeeded => exact happend '\n'
  | spaceIfNeeded => exact happend ' '
  | tabIfNeeded => exact happend '\t'
  | retrieveCursor => obtain ⟨buffer, _ | ⟨start, saved⟩, marks⟩ := w <;> rfl
  | write | line | space | tab | saveCursor | set | setSpan | setLayout => rfl

/-- The cursor does not go back. -/
theorem cursor_le_step (w : Writer) (op : Op) : w.cursor ≤ (w.step op).cursor := by
  rw [cursor_eq, cursor_eq, text_step, Text.size_append]
  exact Nat.le_add_right _ _

theorem run_cons (op : Op) (ops : List Op) (w : Writer) : run (op :: ops) w = run ops (w.step op) :=
  rfl

theorem run_concat (ops : List Op) (op : Op) (w : Writer) :
    run (ops ++ [op]) w = (run ops w).step op :=
  List.foldl_concat step w op ops

theorem run_append (ops more : List Op) (w : Writer) : run (ops ++ more) w = run more (run ops w) :=
  List.foldl_append

/-- **A run adds to the text** what its operations do. -/
theorem text_run (ops : List Op) (w : Writer) :
    (run ops w).text = w.text ++ written w.text ops := by
  induction ops generalizing w with
  | nil => exact (List.append_nil _).symm
  | cons op ops ih =>
    rw [run_cons, ih, text_step, List.append_assoc]
    rfl

/-! ## The saved cursors -/

/-- **The saved cursors are in order**, the innermost the greatest, and none
is beyond the cursor. -/
theorem pairwise_run (ops : List Op) :
    ((run ops).cursor :: (run ops).saved).Pairwise fun later earlier => earlier ≤ later := by
  induction ops using List.reverseRecOn with
  | nil => exact List.pairwise_singleton _ _
  | append_singleton ops op ih =>
    obtain ⟨hcursor, hsaved⟩ := List.pairwise_cons.mp ih
    have hle : (run ops).cursor ≤ ((run ops).step op).cursor := (run ops).cursor_le_step op
    have hcursor' : ∀ start ∈ (run ops).saved, start ≤ ((run ops).step op).cursor :=
      fun start hstart => Nat.le_trans (hcursor start hstart) hle
    rw [run_concat, saved_step]
    cases op.side with
    | opening => exact .cons (List.forall_mem_cons.mpr ⟨hle, hcursor'⟩) ih
    | closing =>
      exact .cons (fun start hstart => hcursor' start (List.mem_of_mem_tail hstart)) hsaved.tail
    | neither => exact .cons hcursor' hsaved

/-- **A cursor is saved for each save that no retrieve belongs to.** -/
theorem savedDepth_run (ops : List Op) : (run ops).savedDepth = level Op.side ops := by
  have hstep : ∀ (w : Writer) (op : Op), op.side.next w.savedDepth = (w.step op).savedDepth := by
    intro w op
    unfold savedDepth
    rw [saved_step]
    cases op.side with
    | closing => exact List.length_tail.symm
    | opening | neither => rfl
  exact (List.foldl_hom savedDepth hstep).symm

/-- What is done behind a save leaves the cursors saved before alone, until
a retrieve belongs to that save. -/
theorem saved_inside (h : StaysInside Op.side inside) (w : Writer) :
    ∃ above, (run inside w).saved = above ++ w.saved ∧
      above.length = level Op.side inside := by
  induction inside using List.reverseRecOn with
  | nil => exact ⟨[], rfl, rfl⟩
  | append_singleton inside op ih =>
    obtain ⟨hinside, hclosing⟩ := StaysInside.concat_iff.mp h
    obtain ⟨above, hsaved, hlength⟩ := ih hinside
    rw [run_concat, level_concat, ← hlength, saved_step, hsaved]
    cases hside : op.side with
    | opening => exact ⟨_ :: above, rfl, rfl⟩
    | closing =>
      obtain ⟨start, above, rfl⟩ := List.exists_cons_of_length_pos (hlength ▸ hclosing hside)
      exact ⟨above, rfl, rfl⟩
    | neither => exact ⟨above, rfl, rfl⟩

/-- The bracket of a writer is opened by a save. -/
theorem Op.eq_of_side (h : op.side = .opening) : op = .saveCursor := by
  cases op with
  | saveCursor => rfl
  | _ => cases h

/-- **A retrieve gives the cursor of the save it belongs to**, and what was
written since stands behind it. -/
theorem retrieveCursor_run (h : LeavesLast Op.side ops before .saveCursor inside) :
    (run ops).retrieveCursor =
        .ok ((run before).cursor, { run ops with saved := (run before).saved }) ∧
      (run ops).text = (run before).text ++ written (run before).text inside := by
  have hrun : run ops = run inside ((run before).step .saveCursor) := by
    rw [h.split, run_append, run_cons]
  obtain ⟨above, hsaved, hlength⟩ := saved_inside h.stays ((run before).step .saveCursor)
  have hnone : above = [] := List.length_eq_zero_iff.mp (hlength.trans h.level_eq_zero)
  rw [← hrun, hnone] at hsaved
  refine ⟨?_, ?_⟩
  · have hcons : (run ops).saved = (run before).cursor :: (run before).saved := hsaved
    unfold retrieveCursor
    rw [hcons]
  · rw [hrun]
    exact text_run inside _

theorem retrieveCursor_eq_error_iff :
    w.retrieveCursor = .error .cursorUnderflow ↔ w.savedDepth = 0 := by
  obtain ⟨buffer, _ | ⟨start, saved⟩, marks⟩ := w
  · exact ⟨fun _ => rfl, fun _ => rfl⟩
  · exact ⟨nofun, nofun⟩

theorem savedDepth_pos_of_retrieveCursor {start : Nat} {after : Writer}
    (h : w.retrieveCursor = .ok (start, after)) : 0 < w.savedDepth := by
  refine Nat.pos_of_ne_zero fun hzero => ?_
  rw [retrieveCursor_eq_error_iff.mpr hzero] at h
  cases h

/-! ## Any run -/

/-- **A writer behind any run.** Its text goes on from what it was at every
point before. The saved cursors go up from the first one to the last, and
none is beyond the cursor. A retrieve gives the cursor of the last save that no
retrieve belongs to yet: what stands from there to the cursor is all that was
written since that save, and the cursors saved before it are left. With no
such save it fails, and changes nothing. -/
theorem run_writes (ops : List Op) :
    let w := run ops
    (∀ more, w.text <+: (run (ops ++ more)).text) ∧
    (w.saved.reverse.Pairwise (· ≤ ·) ∧ ∀ start ∈ w.saved, start ≤ w.cursor) ∧
    (∀ start after, w.retrieveCursor = .ok (start, after) ↔
      ∃ before inside, LeavesLast Op.side ops before .saveCursor inside ∧
        start = (run before).cursor ∧ after = { w with saved := (run before).saved } ∧
        w.text = (run before).text ++ written (run before).text inside ∧
        Text.slice? w.text start w.cursor = some (written (run before).text inside)) ∧
    (∀ start after, w.retrieveCursor = .ok (start, after) →
      run (ops ++ [.retrieveCursor]) = after) ∧
    (w.retrieveCursor = .error .cursorUnderflow ↔
      ∀ before inside, ¬ LeavesOpen Op.side ops before .saveCursor inside) ∧
    (w.retrieveCursor = .error .cursorUnderflow → run (ops ++ [.retrieveCursor]) = w) := by
  intro w
  have hdepth : w.savedDepth = level Op.side ops := savedDepth_run ops
  obtain ⟨hcursor, hsaved⟩ := List.pairwise_cons.mp (pairwise_run ops)
  refine ⟨fun more => ?_, ⟨List.pairwise_reverse.mpr hsaved, hcursor⟩,
    fun start after => ⟨fun h => ?_, ?_⟩, fun start after h => ?_, ?_, fun h => ?_⟩
  · rw [run_append, text_run more]
    exact List.prefix_append _ _
  · have hpos : 0 < level Op.side ops := hdepth ▸ savedDepth_pos_of_retrieveCursor h
    obtain ⟨before, opening, inside, hlast⟩ := exists_leavesLast hpos
    obtain rfl := Op.eq_of_side hlast.opens
    obtain ⟨hretrieve, htext⟩ := retrieveCursor_run hlast
    obtain ⟨rfl, rfl⟩ := Prod.mk.inj (Except.ok.inj (hretrieve.symm.trans h))
    refine ⟨before, inside, hlast, rfl, rfl, htext, ?_⟩
    have hslice := Text.slice?_append (run before).text (written (run before).text inside) []
    rwa [List.append_nil, ← htext, ← Text.size_append, ← htext, ← cursor_eq, ← cursor_eq] at hslice
  · rintro ⟨before, inside, hlast, rfl, rfl, -, -⟩
    exact (retrieveCursor_run hlast).1
  · have hretrieve : (run ops).retrieveCursor = .ok (start, after) := h
    rw [run_concat, step, hretrieve]
  · rw [retrieveCursor_eq_error_iff, hdepth, level_eq_zero_iff]
    refine ⟨fun hnone before inside => hnone before _ inside, ?_⟩
    intro hnone before opening inside hopen
    obtain rfl := Op.eq_of_side hopen.opens
    exact hnone before inside hopen
  · have hretrieve : (run ops).retrieveCursor = .error .cursorUnderflow := h
    rw [run_concat, step, hretrieve]

/-- The inner retrieve leaves what the outer save remembered. -/
example : (run [.write "a", .saveCursor, .write "bc", .saveCursor, .lineIfNeeded, .lineIfNeeded,
    .retrieveCursor]).saved = [1] := by decide

end Writer

end StyledMarkdown
