import Mathlib.Data.List.Basic
import Mathlib.Data.List.Induction
/-!
# Brackets in a sequence

Some elements of a sequence open a bracket and some close one. A closing
element belongs to the bracket opened last of those still open; with none
open it closes nothing. What stands inside a bracket is told by counting: it
nowhere closes more than it has opened. So the brackets that a sequence
leaves open can be given by where they stand in it, and there is one of them
for every level it has come to.
-/

namespace StyledMarkdown

/-- What an element does to the brackets of its sequence. -/
inductive Side where
  | opening
  | closing
  | neither
deriving DecidableEq

/-- How many brackets are open behind an element when `n` are open before it. -/
def Side.next (n : Nat) : Side → Nat
  | opening => n + 1
  | closing => n - 1
  | neither => n

namespace Brackets

section Definitions

variable {α : Type} (side : α → Side)

/-- **The number of brackets that a sequence leaves open.** -/
def level (elements : List α) : Nat := elements.foldl (fun n a => (side a).next n) 0

/-- **A sequence that stays inside the brackets around it**: none of its
first parts closes more than it opens. -/
def StaysInside (elements : List α) : Prop :=
  ∀ part, part <+: elements →
    part.countP (side · = .closing) ≤ part.countP (side · = .opening)

/-- **A bracket that a sequence leaves open**, with what stands before it
and what stands inside it. -/
structure LeavesOpen (elements before : List α) (opening : α) (inside : List α) : Prop where
  split : elements = before ++ opening :: inside
  opens : side opening = .opening
  stays : StaysInside side inside

/-- **The bracket that a closing element would close**: inside of it all
others are closed. -/
structure LeavesLast (elements before : List α) (opening : α) (inside : List α) : Prop
    extends LeavesOpen side elements before opening inside where
  level_eq_zero : level side inside = 0

end Definitions

variable {α : Type} {side : α → Side} {elements before inside : List α} {a opening : α}

/-! ## Levels -/

theorem level_concat (elements : List α) (a : α) :
    level side (elements ++ [a]) = (side a).next (level side elements) :=
  List.foldl_concat ..

namespace StaysInside

theorem nil : StaysInside side [] := by
  intro part hpart
  rw [List.prefix_nil.mp hpart]
  exact Nat.le_refl 0

theorem of_concat (h : StaysInside side (elements ++ [a])) : StaysInside side elements :=
  fun part hpart => h part (hpart.trans (List.prefix_append elements [a]))

/-- **Inside of a bracket nothing is closed in vain**, so what is open is
what was opened and not closed. -/
theorem level_add_closed (h : StaysInside side elements) :
    level side elements + elements.countP (side · = .closing) =
      elements.countP (side · = .opening) := by
  induction elements using List.reverseRecOn with
  | nil => rfl
  | append_singleton elements a ih =>
    have hbefore := ih h.of_concat
    have hall := h _ (List.prefix_refl _)
    rw [level_concat]
    rw [List.countP_append, List.countP_append, List.countP_singleton,
      List.countP_singleton] at hall ⊢
    cases hside : side a <;> simp [hside, Side.next] at hall ⊢ <;> omega

/-- **One element more** stays inside unless it closes what nothing opened. -/
theorem concat_iff : StaysInside side (elements ++ [a]) ↔
    StaysInside side elements ∧ (side a = .closing → 0 < level side elements) := by
  constructor
  · intro h
    refine ⟨h.of_concat, fun hside => ?_⟩
    have hlevel := h.of_concat.level_add_closed
    have hall := h _ (List.prefix_refl _)
    rw [List.countP_append, List.countP_append, List.countP_singleton,
      List.countP_singleton] at hall
    simp [hside] at hall
    omega
  · rintro ⟨h, hclosing⟩ part hpart
    rcases List.prefix_concat_iff.mp hpart with rfl | hpart
    · have hlevel := h.level_add_closed
      rw [List.countP_append, List.countP_append, List.countP_singleton, List.countP_singleton]
      cases hside : side a with
      | closing =>
        have hpos := hclosing hside
        simp
        omega
      | opening | neither =>
        simp
        omega
    · exact h part hpart

/-- **What is open around a sequence that stays inside** is open behind it
as well. -/
theorem level_append (h : StaysInside side inside) (before : List α) :
    level side (before ++ inside) = level side before + level side inside := by
  induction inside using List.reverseRecOn with
  | nil => rw [List.append_nil]; rfl
  | append_singleton inside a ih =>
    obtain ⟨hinside, hclosing⟩ := concat_iff.mp h
    rw [← List.append_assoc, level_concat, level_concat, ih hinside]
    cases hside : side a with
    | closing =>
      have hpos := hclosing hside
      simp only [Side.next]
      omega
    | opening => exact Nat.add_assoc _ _ _
    | neither => rfl

end StaysInside

/-! ## Brackets left open -/

/-- A bracket that is left open is one level above what stands before it. -/
theorem LeavesOpen.level_eq (h : LeavesOpen side elements before opening inside) :
    level side elements = level side before + 1 + level side inside := by
  rw [h.split, List.append_cons, h.stays.level_append, level_concat, h.opens]
  rfl

/-- A bracket stays open unless the next element closes it. -/
theorem LeavesOpen.concat (h : LeavesOpen side elements before opening inside)
    (hclosing : side a = .closing → 0 < level side inside) :
    LeavesOpen side (elements ++ [a]) before opening (inside ++ [a]) where
  split := by rw [h.split, List.append_assoc, List.cons_append]
  opens := h.opens
  stays := StaysInside.concat_iff.mpr ⟨h.stays, hclosing⟩

/-- **For every level a bracket is left open there.** -/
theorem exists_leavesOpen {n : Nat} (h : n < level side elements) :
    ∃ before opening inside, LeavesOpen side elements before opening inside ∧
      level side before = n := by
  induction elements using List.reverseRecOn with
  | nil => cases h
  | append_singleton elements a ih =>
    rw [level_concat] at h
    cases hside : side a with
    | opening =>
      rw [hside] at h
      rcases Nat.lt_succ_iff_lt_or_eq.mp h with hlt | rfl
      · obtain ⟨before, opening, inside, hopen, hlevel⟩ := ih hlt
        exact ⟨before, opening, inside ++ [a],
          hopen.concat fun hclosing => absurd (hside.symm.trans hclosing) nofun, hlevel⟩
      · exact ⟨elements, a, [], ⟨rfl, hside, .nil⟩, rfl⟩
    | closing =>
      -- a bracket below the last one has that one inside
      rw [hside] at h
      have hlt : n < level side elements - 1 := h
      obtain ⟨before, opening, inside, hopen, rfl⟩ := ih (by omega)
      have hlevel := hopen.level_eq
      exact ⟨before, opening, inside ++ [a], hopen.concat fun _ => by omega, rfl⟩
    | neither =>
      rw [hside] at h
      obtain ⟨before, opening, inside, hopen, hlevel⟩ := ih h
      exact ⟨before, opening, inside ++ [a],
        hopen.concat fun hclosing => absurd (hside.symm.trans hclosing) nofun, hlevel⟩

/-- **A closing element has a bracket to close** as long as one is open. -/
theorem exists_leavesLast (h : 0 < level side elements) :
    ∃ before opening inside, LeavesLast side elements before opening inside := by
  obtain ⟨before, opening, inside, hopen, hbefore⟩ :=
    exists_leavesOpen (Nat.sub_lt h Nat.one_pos)
  have hlevel := hopen.level_eq
  exact ⟨before, opening, inside, ⟨hopen, by omega⟩⟩

/-- Nothing is open when no bracket is left open. -/
theorem level_eq_zero_iff : level side elements = 0 ↔
    ∀ before opening inside, ¬ LeavesOpen side elements before opening inside := by
  constructor
  · intro h before opening inside hopen
    have hlevel := hopen.level_eq
    omega
  · intro h
    rcases Nat.eq_zero_or_pos (level side elements) with hzero | hpos
    · exact hzero
    · obtain ⟨before, opening, inside, hlast⟩ := exists_leavesLast hpos
      exact absurd hlast.toLeavesOpen (h before opening inside)

end Brackets

end StyledMarkdown
