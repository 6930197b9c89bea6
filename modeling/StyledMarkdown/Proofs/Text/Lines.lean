import Mathlib.Data.List.Chain
/-!
# Texts without a blank line

A text has no blank line when no two line ends follow each other. Whether
that stays so when texts are joined depends on the seam, so two kinds of
text are told apart by their ends: phrases, which stand within their lines,
and lines, which end the last of them.
-/

namespace StyledMarkdown

namespace Text

/-- **No two line ends in a row.** -/
def NoBlankLine (text : List Char) : Prop := ¬ ['\n', '\n'] <:+: text

section NoBlankLine

variable {text a b : List Char}

/-- A text without a blank line is one whose neighbours are not both line
ends. -/
theorem noBlankLine_iff :
    NoBlankLine text ↔ text.IsChain fun c d => ¬ (c = '\n' ∧ d = '\n') := by
  constructor
  · intro h
    induction text with
    | nil => exact .nil
    | cons c text ih =>
      have htext : text.IsChain fun c d => ¬ (c = '\n' ∧ d = '\n') :=
        ih fun hpart => h (hpart.trans (List.suffix_cons c text).isInfix)
      refine List.isChain_cons.mpr ⟨?_, htext⟩
      rintro d hd ⟨rfl, rfl⟩
      obtain ⟨rest, rfl⟩ := List.head?_eq_some_iff.mp hd
      exact h ⟨[], rest, rfl⟩
  · rintro h ⟨before, after, rfl⟩
    have hpair := (List.isChain_append.mp (List.isChain_append.mp h).1).2.1
    exact (List.isChain_cons_cons.mp hpair).1 ⟨rfl, rfl⟩

namespace NoBlankLine

theorem of_isInfix (h : NoBlankLine b) (hpart : a <:+: b) : NoBlankLine a :=
  fun hpair => h (hpair.trans hpart)

theorem of_not_mem (h : '\n' ∉ text) : NoBlankLine text :=
  fun hpair => h (hpair.subset List.mem_cons_self)

/-- **Two texts are joined without a blank line** unless the first ends with
a line end and the second begins with one. -/
theorem append (ha : NoBlankLine a) (hb : NoBlankLine b)
    (hseam : a.getLast? = some '\n' → b.head? ≠ some '\n') : NoBlankLine (a ++ b) := by
  rw [noBlankLine_iff] at ha hb ⊢
  refine List.isChain_append.mpr ⟨ha, hb, ?_⟩
  rintro c hc d hd ⟨rfl, rfl⟩
  exact hseam hc hd

theorem cons (c : Char) (h : NoBlankLine text) (hhead : text.head? ≠ some '\n') :
    NoBlankLine (c :: text) := by
  have hfirst : NoBlankLine [c] := noBlankLine_iff.mpr (.singleton c)
  exact hfirst.append h fun _ => hhead

end NoBlankLine

end NoBlankLine

/-! ## Phrases and lines -/

/-- **A text within its lines**: it is not empty, neither begins nor ends
with a line end, and has no blank line. -/
structure IsPhrase (text : List Char) : Prop where
  ne_nil : text ≠ []
  head : text.head? ≠ some '\n'
  last : text.getLast? ≠ some '\n'
  apart : NoBlankLine text

/-- **A text of whole lines**: it does not begin with a line end, ends with
one if it is not empty, and has no blank line. -/
structure IsLines (text : List Char) : Prop where
  head : text.head? ≠ some '\n'
  last : ∀ c ∈ text.getLast?, c = '\n'
  apart : NoBlankLine text

section Kinds

variable {text a b : List Char}

theorem head?_append_ne (ha : a.head? ≠ some '\n') (hb : b.head? ≠ some '\n') :
    (a ++ b).head? ≠ some '\n' := by
  cases a with
  | nil => exact hb
  | cons c a => exact ha

namespace IsPhrase

/-- A phrase on one line. -/
theorem of_not_mem (hne : text ≠ []) (h : '\n' ∉ text) : IsPhrase text :=
  ⟨hne, fun hhead => h (List.mem_of_head? hhead), fun hlast => h (List.mem_of_getLast? hlast),
    .of_not_mem h⟩

/-- A phrase with something on its first line before it. -/
theorem append_left (h : '\n' ∉ a) (hb : IsPhrase b) : IsPhrase (a ++ b) where
  ne_nil := List.append_ne_nil_of_right_ne_nil _ hb.ne_nil
  head := head?_append_ne (fun hhead => h (List.mem_of_head? hhead)) hb.head
  last := by
    rw [List.getLast?_append_of_ne_nil _ hb.ne_nil]
    exact hb.last
  apart := (NoBlankLine.of_not_mem h).append hb.apart fun _ => hb.head

/-- **Two phrases around one character**, which may be a line end. -/
theorem append_cons (ha : IsPhrase a) (c : Char) (hb : IsPhrase b) : IsPhrase (a ++ c :: b) where
  ne_nil := List.append_ne_nil_of_left_ne_nil ha.ne_nil _
  head := by
    rw [List.head?_append_of_ne_nil _ ha.ne_nil]
    exact ha.head
  last := by
    rw [List.getLast?_append_of_ne_nil _ (List.cons_ne_nil _ _),
      List.getLast?_cons_of_ne_nil hb.ne_nil]
    exact hb.last
  apart := ha.apart.append (hb.apart.cons c hb.head) fun hlast => absurd hlast ha.last

/-- **A phrase that ends its line, with lines behind it.** -/
theorem append_lines (ha : IsPhrase a) (hb : IsLines b) : IsLines (a ++ '\n' :: b) where
  head := by
    rw [List.head?_append_of_ne_nil _ ha.ne_nil]
    exact ha.head
  last := by
    intro c hc
    rw [List.getLast?_append_of_ne_nil _ (List.cons_ne_nil _ _), List.getLast?_cons] at hc
    cases hlast : b.getLast? with
    | none =>
      rw [hlast] at hc
      exact (Option.some.inj hc).symm
    | some d =>
      rw [hlast] at hc
      exact hb.last c (hlast.trans hc)
  apart := ha.apart.append (hb.apart.cons '\n' hb.head) fun hlast => absurd hlast ha.last

end IsPhrase

namespace IsLines

theorem nil : IsLines [] :=
  ⟨nofun, nofun, .of_not_mem List.not_mem_nil⟩

theorem append (ha : IsLines a) (hb : IsLines b) : IsLines (a ++ b) where
  head := head?_append_ne ha.head hb.head
  last := by
    intro c hc
    rw [List.getLast?_append] at hc
    rcases Option.or_eq_some_iff.mp hc with hlast | ⟨-, hlast⟩
    · exact hb.last c hlast
    · exact ha.last c hlast
  apart := ha.apart.append hb.apart fun _ => hb.head

/-- A phrase with the end of its line. -/
theorem of_isPhrase (h : IsPhrase text) : IsLines (text ++ ['\n']) := h.append_lines .nil

/-- **Lines that each hold something** and are ended one by one. -/
theorem of_lines {lines : List (List Char)} (h : ∀ line ∈ lines, line ≠ [] ∧ '\n' ∉ line) :
    IsLines (lines.flatMap (· ++ ['\n'])) := by
  induction lines with
  | nil => exact .nil
  | cons line lines ih =>
    obtain ⟨⟨hne, hline⟩, hlines⟩ := List.forall_mem_cons.mp h
    rw [List.flatMap_cons]
    exact (of_isPhrase (.of_not_mem hne hline)).append (ih hlines)

theorem eq_nil_or_getLast? (h : IsLines text) : text = [] ∨ text.getLast? = some '\n' := by
  cases hlast : text.getLast? with
  | none => exact .inl (List.getLast?_eq_none_iff.mp hlast)
  | some c =>
    obtain rfl := h.last c hlast
    exact .inr rfl

end IsLines

end Kinds

end Text

end StyledMarkdown
