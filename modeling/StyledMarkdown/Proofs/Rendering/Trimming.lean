import Mathlib.Data.List.Basic
import StyledMarkdown.Proofs.Rendering.Ranges
/-!
# Annotations on a trimmed text

Trimming keeps a part of a text, and with it the annotations that a byte
of this part is under; of the empty ones, those that stand in it or at
either end. The annotations kept stay in their order, with their marks,
and a byte of the trimmed text is under the annotations it was under
before.
-/

namespace StyledMarkdown

namespace Annotation

variable {leading length : Nat} {a b : Annotation}

/-- Whether a byte of the text is under an annotation. -/
def Contains (a : Annotation) (offset : Nat) : Prop := a.start ≤ offset ∧ offset < a.stop

/-- **An annotation that is kept** with the `length` bytes behind the
`leading` ones: one of these is under it, or it is empty and stands among
them or at either end. -/
def Kept (leading length : Nat) (a : Annotation) : Prop :=
  (∃ n, a.Contains n ∧ leading ≤ n ∧ n < leading + length) ∨
    a.start = a.stop ∧ leading ≤ a.start ∧ a.start ≤ leading + length

theorem kept_iff : a.Kept leading length ↔
    max a.start leading < min a.stop (leading + length) ∨
      a.start = a.stop ∧ leading ≤ a.start ∧ a.start ≤ leading + length := by
  refine or_congr_left ⟨?_, fun h => ?_⟩
  · rintro ⟨n, ⟨hstart, hstop⟩, hleading, hlength⟩
    omega
  · exact ⟨max a.start leading, ⟨by omega, by omega⟩, by omega, by omega⟩

instance (leading length : Nat) (a : Annotation) : Decidable (a.Kept leading length) :=
  decidable_of_iff _ kept_iff.symm

/-- An annotation moved along with the bytes kept and clamped to them. -/
def onto (leading length : Nat) (a : Annotation) : Annotation :=
  ⟨a.mark, min (a.start - leading) length, min (a.stop - leading) length⟩

/-- A byte of the trimmed text under an annotation was under it before. -/
theorem contains_of_contains_onto {n : Nat} (h : (a.onto leading length).Contains n) :
    a.Contains (n + leading) := by
  obtain ⟨hstart, hstop⟩ := h
  unfold onto at hstart hstop
  dsimp only at hstart hstop
  exact ⟨by omega, by omega⟩

end Annotation

namespace Writer

variable {leading length : Nat} {a : Annotation} {w : Writer}

theorem rebase?_eq (h : a.start ≤ a.stop) : rebase? leading length a =
    if a.Kept leading length then some (a.onto leading length) else none := by
  have hkept : (min (a.start - leading) length < min (a.stop - leading) length ∨
      a.stop ≤ a.start ∧ leading ≤ a.start ∧ a.start - leading ≤ length) ↔
        a.Kept leading length := by
    refine Iff.trans ?_ Annotation.kept_iff.symm
    omega
  unfold rebase? Annotation.onto
  simp only [Bool.or_eq_true, Bool.and_eq_true, decide_eq_true_eq, hkept]

/-- How many bytes trimming takes away in front. -/
def leadingSize (w : Writer) : Nat :=
  Text.size w.buffer.toList - Text.size (Text.trimStart w.buffer.toList)

theorem text_finish (w : Writer) : w.finish.text.toList = Text.trim w.buffer.toList :=
  String.toList_ofList

/-- What is kept of a text lies within it. -/
theorem leadingSize_add_le (w : Writer) :
    w.leadingSize + Text.size w.finish.text.toList ≤ w.cursor := by
  obtain ⟨leading, trailing, htext, hsize, -, -⟩ := Text.exists_trim w.buffer.toList
  have hwhole := congrArg Text.size htext
  rw [Text.size_append, Text.size_append, hsize] at hwhole
  rw [text_finish, leadingSize, cursor, Buffer.size_toList]
  omega

/-- What a mark becomes that is trimmed, if anything. -/
theorem rebase?_eq_none_or (leading length : Nat) (a : Annotation) :
    rebase? leading length a = none ∨ rebase? leading length a = some (a.onto leading length) := by
  unfold rebase? Annotation.onto
  dsimp only
  split
  · exact .inr rfl
  · exact .inl rfl

theorem annotations_finish (w : Writer) : w.finish.annotations = w.annotations.filterMap
    (rebase? w.leadingSize (Text.size w.finish.text.toList)) := by
  rw [text_finish, leadingSize, ← Buffer.size_toList]
  rfl

/-- The annotations of a kind that is told by the mark are trimmed among
themselves. -/
theorem filter_annotations_finish {p : Annotation → Bool}
    (hmark : ∀ leading length a, p (a.onto leading length) = p a) :
    w.finish.annotations.filter p = (w.annotations.filter p).filterMap
      (rebase? w.leadingSize (Text.size w.finish.text.toList)) := by
  rw [annotations_finish, List.filter_filterMap, List.filterMap_filter]
  refine List.filterMap_congr fun a _ => ?_
  rcases rebase?_eq_none_or w.leadingSize (Text.size w.finish.text.toList) a with hnone | hsome
  · rw [hnone, ite_self]
    rfl
  · rw [hsome, Option.filter_some, hmark]

/-- **Trimming keeps the annotations of a kind in their order**, and drops
exactly those that nothing is left of. -/
theorem filter_annotations_finish_eq_map {p : Annotation → Bool}
    (hmark : ∀ leading length a, p (a.onto leading length) = p a)
    (h : ∀ a ∈ w.annotations, p a → a.start ≤ a.stop) :
    w.finish.annotations.filter p = ((w.annotations.filter p).filter
        (·.Kept w.leadingSize (Text.size w.finish.text.toList))).map
      (·.onto w.leadingSize (Text.size w.finish.text.toList)) := by
  rw [filter_annotations_finish hmark]
  generalize hannotations : w.annotations.filter p = annotations
  rw [← List.filterMap_eq_map, List.filterMap_filter]
  refine List.filterMap_congr fun a ha => ?_
  rw [← hannotations] at ha
  obtain ⟨hmem, hp⟩ := List.mem_filter.mp ha
  rw [rebase?_eq (h a hmem hp)]
  simp only [decide_eq_true_eq, Function.comp_apply]

/-- An annotation that is kept lies, moved along with the text, over the
bytes of its range that are. -/
theorem range_onto (h : a.Kept leading length) :
    leading + (a.onto leading length).start = max a.start leading ∧
      leading + (a.onto leading length).stop = min a.stop (leading + length) := by
  have hmeets := Annotation.kept_iff.mp h
  unfold Annotation.onto
  dsimp only
  omega

/-- **What is under an annotation that is kept**: the part of the whole text
that is both under it and kept. -/
theorem exists_slice?_onto {whole : List Char} (ha : a.Fits whole) :
    let kept := Text.trim whole
    let leading := Text.size whole - Text.size (Text.trimStart whole)
    let length := Text.size kept
    a.Kept leading length →
      (a.onto leading length).Fits kept ∧
      ∃ part, Text.slice? kept (a.onto leading length).start (a.onto leading length).stop =
          some part ∧
        Text.slice? whole (max a.start leading) (min a.stop (leading + length)) = some part := by
  intro kept leading length hkept
  have hfits : (a.onto leading length).Fits kept :=
    rebase?_fit ha ((rebase?_eq ha.ordered).trans (if_pos hkept))
  obtain ⟨part, hpart⟩ := Text.exists_between hfits.ordered hfits.start hfits.stop
  refine ⟨hfits, part, hpart.slice?_eq, ?_⟩
  obtain ⟨front, back, htext, hsize, -⟩ := Text.exists_trim whole
  -- the trimmed text stands in the whole one behind what is cut off in front
  have hwhole := hpart.append_left front back
  obtain ⟨hstart, hstop⟩ := range_onto hkept
  rw [← htext, hsize, hstart, hstop] at hwhole
  exact hwhole.slice?_eq

/-- **Trimming a text with annotations on it.** The text loses the blanks at
both ends and nothing else. Of the annotations those are kept, with their
marks and in their order, that a byte of the kept text is under, and of the
empty ones those that stand in it or at either end. Each of them fits the
kept text, and what is under it is the part of the whole text that is both
under the annotation and kept. -/
theorem finish_keeps (h : ∀ a ∈ w.annotations, a.Fits w.buffer.toList) :
    let whole := w.buffer.toList
    let kept := w.finish.text.toList
    let leading := Text.size whole - Text.size (Text.trimStart whole)
    let length := Text.size kept
    (∃ front back, whole = front ++ (kept ++ back) ∧ Text.size front = leading ∧
      (∀ c ∈ front, Text.isBlank c) ∧ (∀ c ∈ back, Text.isBlank c) ∧
      (∀ c ∈ kept.head?, ¬ Text.isBlank c) ∧ ∀ c ∈ kept.getLast?, ¬ Text.isBlank c) ∧
    w.finish.annotations =
      (w.annotations.filter (·.Kept leading length)).map (·.onto leading length) ∧
    ∀ a ∈ w.annotations, a.Kept leading length →
      (a.onto leading length).mark = a.mark ∧ (a.onto leading length).Fits kept ∧
      ∃ part, Text.slice? kept (a.onto leading length).start (a.onto leading length).stop =
          some part ∧
        Text.slice? whole (max a.start leading) (min a.stop (leading + length)) = some part := by
  intro whole kept leading length
  have htrim : kept = Text.trim whole := w.text_finish
  refine ⟨?_, ?_, fun a ha hkept => ⟨rfl, ?_⟩⟩
  · obtain ⟨front, back, hwhole, hsize, hfront, hback⟩ := Text.exists_trim whole
    rw [htrim]
    exact ⟨front, back, hwhole, hsize, hfront, hback,
      fun c hc => Text.not_isBlank_of_mem_head?_trim hc,
      fun c hc => Text.not_isBlank_of_mem_getLast?_trim hc⟩
  · have hall := filter_annotations_finish_eq_map (w := w) (p := fun _ => true)
      (fun _ _ _ => rfl) fun a ha _ => (h a ha).ordered
    simp only [List.filter_true] at hall
    exact hall
  · have hslice := exists_slice?_onto (h a ha)
    rw [← htrim] at hslice
    exact hslice hkept

/-- Marks over a text with a blank of three bytes in front: of those with a
byte of the kept text one reaches beyond either end of it, and of the empty
ones the one at its end is kept and the one in front of it is not. -/
theorem straddling_marks_kept :
    let w := ((((({} : Writer).write "\u3000é b\n").setLayout .bold 0 5).setLayout .italic 5 8
      |>.setLayout .monospace 7 8).setLayout .bold 7 7).setLayout .italic 0 0
    (∀ a ∈ w.annotations, a.Fits w.buffer.toList) ∧
    w.finish.text.toList = ['é', ' ', 'b'] ∧
    w.finish.annotations.map (fun a => (a.layout?.map Directive.toText, a.start, a.stop)) =
      [(some "bold", 0, 2), (some "italic", 2, 4), (some "bold", 4, 4)] ∧
    ∃ part, Text.slice? ['é', ' ', 'b'] 2 4 = some part ∧
      Text.slice? w.buffer.toList 5 7 = some part := by
  intro w
  have hfits : ∀ a ∈ w.annotations, a.Fits w.buffer.toList := by decide +kernel
  obtain ⟨-, hkept, hmarks⟩ := finish_keeps hfits
  have htext : w.finish.text.toList = ['é', ' ', 'b'] := by decide +kernel
  rw [htext] at hkept hmarks
  refine ⟨hfits, htext, ?_, ?_⟩
  · rw [hkept]
    decide +kernel
  · obtain ⟨-, -, hslice⟩ := hmarks ⟨.layout .italic, 5, 8⟩ (.tail _ (.head _)) (by decide +kernel)
    exact hslice

end Writer

end StyledMarkdown
