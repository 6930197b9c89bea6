import StyledMarkdown.Renderer
/-!
# Steps of a rendering

What each step gives from a state, and the state it leaves behind. The
three steps around a step (`enclose`, `deeper`, `within`) put back what
they changed however the step inside ends, so every step is balanced: it
leaves as many saved cursors, open lists and levels of depth as it found.
-/

namespace StyledMarkdown

/-! ## Buffers -/

namespace Buffer

variable (b : Buffer)

theorem ext_reversed {b c : Buffer} (h : b.reversed = c.reversed) : b = c := by
  obtain ⟨r, n, hb⟩ := b
  obtain ⟨q, m, hc⟩ := c
  obtain rfl : r = q := h
  obtain rfl : n = m := hb.trans hc.symm
  rfl

@[simp] theorem append_nil : b.append [] = b := rfl

@[simp] theorem append_append (s t : List Char) : (b.append s).append t = b.append (s ++ t) :=
  ext_reversed (by simp [append])

/-- What is missing for the text to end with a character. -/
def missing (c : Char) : List Char := if b.last? = some c then [] else [c]

theorem last?_append_missing (c : Char) : (b.append (b.missing c)).last? = some c := by
  unfold missing
  split
  · assumption
  · rfl

end Buffer

theorem Writer.appendIfNeeded_eq (w : Writer) (c : Char) :
    (w.appendIfNeeded c).2 = { w with buffer := w.buffer.append (w.buffer.missing c) } := by
  unfold appendIfNeeded Buffer.missing
  split <;> rfl

/-! ## States -/

namespace Rendering

/-- The text written so far. -/
def text (s : Rendering) : List Char := s.writer.buffer.toList

/-- The position of the next byte. -/
def cursor (s : Rendering) : Nat := s.writer.cursor

theorem cursor_eq_size (s : Rendering) : s.cursor = Text.size s.text :=
  s.writer.buffer.size_toList

/-- The state with some more text. -/
def writing (s : Rendering) (cs : List Char) : Rendering :=
  { s with writer := { s.writer with buffer := s.writer.buffer.append cs } }

/-- The state with the cursor saved. -/
def saving (s : Rendering) : Rendering :=
  { s with writer := { s.writer with saved := s.cursor :: s.writer.saved } }

/-- A later state `t` with the cursors of `s`, some more text and some more marks. -/
def resuming (s t : Rendering) (cs : List Char) (marks : List Annotation) : Rendering :=
  { t with
    writer :=
      { buffer := t.writer.buffer.append cs
        saved := s.writer.saved
        marks := marks ++ t.writer.marks } }

/-- **Two states nested alike**: the same saved cursors, the same depth and
the same number of open lists. -/
structure SameNesting (s t : Rendering) : Prop where
  saved : t.writer.saved = s.writer.saved
  depth : t.depth = s.depth
  lists : t.lists.contexts.length = s.lists.contexts.length

namespace SameNesting

variable {s t u : Rendering}

theorem refl (s : Rendering) : SameNesting s s := ⟨rfl, rfl, rfl⟩

theorem trans (h₁ : SameNesting s t) (h₂ : SameNesting t u) : SameNesting s u :=
  ⟨h₂.saved.trans h₁.saved, h₂.depth.trans h₁.depth, h₂.lists.trans h₁.lists⟩

/-- Whether a list is open is part of the nesting. -/
theorem isActive (h : SameNesting s t) : t.lists.isActive = s.lists.isActive := by
  have hl := h.lists
  unfold ListStack.isActive
  cases hs : s.lists.contexts <;> cases ht : t.lists.contexts <;> simp_all

end SameNesting

end Rendering

open Rendering (SameNesting)

namespace RenderM

variable {α β : Type} {s t : Rendering} {e : RenderError}

/-- What a step gives from a state, and the state it leaves. -/
def exec (step : RenderM α) (s : Rendering) : Except RenderError α × Rendering :=
  step.run s

/-! ## What the steps do -/

/-- **A step after a step** runs from the state the first one leaves, if
that one succeeds. -/
theorem exec_bind (step : RenderM α) (next : α → RenderM β) (s : Rendering) :
    (step >>= next).exec s = match step.exec s with
      | (.ok a, t) => (next a).exec t
      | (.error e, t) => (.error e, t) := by
  change ExceptT.bindCont next (step.run s).1 (step.run s).2 = _
  rcases h : step.exec s with ⟨_ | _, t⟩ <;> simp only [exec] at h <;> rw [h] <;> rfl

theorem exec_bind_of_ok {step : RenderM α} {next : α → RenderM β} {a : α}
    (h : step.exec s = (.ok a, t)) : (step >>= next).exec s = (next a).exec t := by
  rw [exec_bind, h]

theorem exec_bind_of_error {step : RenderM α} {next : α → RenderM β}
    (h : (step.exec s).1 = .error e) : ((step >>= next).exec s).1 = .error e := by
  rw [exec_bind]
  rcases hs : step.exec s with ⟨_ | _, _⟩ <;> simp_all

theorem exec_get (s : Rendering) : (get : RenderM Rendering).exec s = (.ok s, s) := rfl

theorem exec_write (content : String) (s : Rendering) :
    (write content).exec s = (.ok (), s.writing content.toList) := rfl

theorem exec_lineIfNeeded (s : Rendering) :
    lineIfNeeded.exec s = (.ok (), s.writing (s.writer.buffer.missing '\n')) := by
  unfold Rendering.writing
  rw [← Writer.appendIfNeeded_eq]
  rfl

theorem exec_tabIfNeeded (s : Rendering) :
    tabIfNeeded.exec s = (.ok (), s.writing (s.writer.buffer.missing '\t')) := by
  unfold Rendering.writing
  rw [← Writer.appendIfNeeded_eq]
  rfl

/-- A line end that is written in some states only. -/
theorem exec_line_when (p : Prop) [Decidable p] (step : RenderM Unit) (s : Rendering) :
    (if p then do line; step else step : RenderM Unit).exec s =
      step.exec (s.writing (if p then ['\n'] else [])) := by
  split <;> rfl

/-- **A level further down** fails at once past the limit, and otherwise
does what the step inside does, one level deeper. -/
theorem exec_deeper (maxDepth : Nat) (body : RenderM Unit) (s : Rendering) :
    (deeper maxDepth body).exec s =
      if maxDepth ≤ s.depth then (.error (.depthExceeded maxDepth), s)
      else
        let (result, t) := body.exec { s with depth := s.depth + 1 }
        (result, { t with depth := t.depth - 1 }) := rfl

/-! ## Balance -/

/-- **A step is balanced** when it leaves the nesting as it found it,
whether it succeeds or fails. -/
def Balanced (step : RenderM α) : Prop := ∀ s, SameNesting s (step.exec s).2

theorem Balanced.pure (a : α) : Balanced (pure a) := SameNesting.refl

theorem Balanced.bind {step : RenderM α} {next : α → RenderM β} (h : Balanced step)
    (hnext : ∀ a, Balanced (next a)) : Balanced (step >>= next) := by
  intro s
  rw [exec_bind]
  have hs := h s
  rcases hr : step.exec s with ⟨_ | a, t⟩
  · simpa [hr] using hs
  · exact (show SameNesting s t by simpa [hr] using hs).trans (hnext a t)

theorem Balanced.ite {p : Prop} [Decidable p] {step other : RenderM α} (h : Balanced step)
    (hother : Balanced other) : Balanced (if p then step else other) := by
  split
  · exact h
  · exact hother

theorem Balanced.get : Balanced (get : RenderM Rendering) := SameNesting.refl

/-- **A change of the writer that saves and retrieves no cursor is
balanced**, and most steps are one. -/
theorem Balanced.onWriter (f : Writer → Writer) (h : ∀ w, (f w).saved = w.saved) :
    Balanced (modify fun s => { s with writer := f s.writer } : RenderM PUnit) :=
  fun s => ⟨h s.writer, rfl, rfl⟩

theorem Balanced.write (content : String) : Balanced (write content) :=
  .onWriter (·.write content) fun _ => rfl

theorem Balanced.line : Balanced line := .onWriter Writer.line fun _ => rfl

theorem Balanced.setSpan (span : GroupSpan) (start : Nat) : Balanced (setSpan span start) :=
  .onWriter (·.setSpan span start) fun _ => rfl

theorem Balanced.setLayout (directive : Directive) (start stop : Nat) :
    Balanced (setLayout directive start stop) :=
  .onWriter (·.setLayout directive start stop) fun _ => rfl

theorem Balanced.appendIfNeeded (c : Char) :
    Balanced (modify fun s => { s with writer := (s.writer.appendIfNeeded c).2 }
      : RenderM PUnit) :=
  .onWriter (fun w => (w.appendIfNeeded c).2) fun w => by rw [Writer.appendIfNeeded_eq]

theorem Balanced.lineIfNeeded : Balanced lineIfNeeded := .appendIfNeeded '\n'

theorem Balanced.tabIfNeeded : Balanced tabIfNeeded := .appendIfNeeded '\t'

theorem length_nextPrefix? (lists : ListStack) :
    lists.nextPrefix?.2.contexts.length = lists.contexts.length := by
  unfold ListStack.nextPrefix?
  split <;> simp_all

theorem Balanced.takePrefix : Balanced takePrefix :=
  fun s => ⟨rfl, rfl, length_nextPrefix? s.lists⟩

/-! ## Steps around a step -/

/-- **What `enclose` does around a balanced step**: the cursor it saved is
the one it retrieves. -/
theorem exec_enclose {body : Nat → RenderM Unit} (h : ∀ start, Balanced (body start))
    (s : Rendering) :
    (enclose body).exec s =
      let (result, t) := (body s.cursor).exec s.saving
      (result.map fun () => s.cursor, s.resuming t [] []) := by
  -- the step inside leaves the saved cursors alone, so the one on top is its own
  have hb := (h s.cursor s.saving).saved
  unfold exec Rendering.saving Rendering.cursor at *
  unfold enclose Writer.saveCursor Writer.retrieveCursor
  dsimp only [ExceptT.run_mk] at hb ⊢
  generalize ExceptT.run (body s.writer.cursor) _ = r at hb ⊢
  obtain ⟨result, t⟩ := r
  dsimp only at hb ⊢
  rw [hb]
  rfl

theorem exec_enclose_of_ok {body : Nat → RenderM Unit} (h : ∀ start, Balanced (body start))
    (hbody : (body s.cursor).exec s.saving = (.ok (), t)) :
    (enclose body).exec s = (.ok s.cursor, s.resuming t [] []) := by
  rw [exec_enclose h, hbody]
  rfl

theorem exec_enclose_of_error {body : Nat → RenderM Unit} (h : ∀ start, Balanced (body start))
    (hbody : ((body s.cursor).exec s.saving).1 = .error e) :
    ((enclose body).exec s).1 = .error e := by
  rw [exec_enclose h]
  dsimp only
  rw [hbody]
  rfl

theorem Balanced.enclose {body : Nat → RenderM Unit} (h : ∀ start, Balanced (body start)) :
    Balanced (enclose body) := by
  intro s
  rw [exec_enclose h]
  have hb := h s.cursor s.saving
  exact ⟨rfl, hb.depth, hb.lists⟩

theorem Balanced.deeper {body : RenderM Unit} (maxDepth : Nat) (h : Balanced body) :
    Balanced (deeper maxDepth body) := by
  intro s
  rw [exec_deeper]
  split
  · exact SameNesting.refl s
  · have hb := h { s with depth := s.depth + 1 }
    exact ⟨hb.saved, by simp [hb.depth], hb.lists⟩

/-- **What `within` does around a balanced step**: the list it leaves is
the one it entered. -/
theorem exec_within (kind : ListKind) {body : RenderM Unit} (h : Balanced body) (s : Rendering) :
    (within kind body).exec s =
      let (result, t) := body.exec { s with lists := s.lists.push kind }
      (result, { t with lists := ⟨t.lists.contexts.tail⟩ }) := by
  have hb : _ = s.lists.contexts.length + 1 := (h { s with lists := s.lists.push kind }).lists
  unfold exec within ListStack.pop at *
  dsimp only [ExceptT.run_mk]
  generalize body.run { s with lists := s.lists.push kind } = r at hb ⊢
  obtain ⟨result, t⟩ := r
  dsimp only at hb ⊢
  -- the list that was entered is still open, so there is one to leave
  cases hc : t.lists.contexts with
  | nil => simp [hc] at hb
  | cons _ _ => rfl

theorem Balanced.within (kind : ListKind) {body : RenderM Unit} (h : Balanced body) :
    Balanced (within kind body) := by
  intro s
  rw [exec_within kind h]
  have hb := h { s with lists := s.lists.push kind }
  have hl : _ = s.lists.contexts.length + 1 := hb.lists
  exact ⟨hb.saved, hb.depth, by rw [List.length_tail, hl, Nat.add_sub_cancel]⟩

end RenderM

end StyledMarkdown
