import StyledMarkdown.Proofs.Text.Boundary
/-!
# Texts with open breaks

A sketch is a text in which the breaks are still to be written, all of them
with the same character: two texts that differ at some breaks only are one
sketch, filled in twice. With characters of one byte each the two are equally
long, with blanks they are trimmed alike, and their bytes differ at the breaks
and nowhere else.
-/

namespace StyledMarkdown

namespace Text

/-! ## Bytes -/

/-- **The bytes of a text** in its UTF-8 form. -/
def bytes (cs : List Char) : List UInt8 := cs.flatMap String.utf8EncodeChar

theorem bytes_append (s t : List Char) : bytes (s ++ t) = bytes s ++ bytes t :=
  List.flatMap_append

theorem bytes_cons (c : Char) (cs : List Char) :
    bytes (c :: cs) = String.utf8EncodeChar c ++ bytes cs := List.flatMap_cons

theorem bytes_cons_of_utf8Size {c : Char} (h : c.utf8Size = 1) (cs : List Char) :
    bytes (c :: cs) = c.val.toUInt8 :: bytes cs := by
  rw [bytes_cons, String.utf8EncodeChar_eq_singleton h, List.singleton_append]

theorem length_bytes (cs : List Char) : (bytes cs).length = size cs := by
  induction cs with
  | nil => rfl
  | cons c cs ih => rw [bytes_cons, List.length_append, String.length_utf8EncodeChar, ih, size_cons]

/-- The bytes of a text are those of the string it makes. -/
theorem getElem?_data_toUTF8 (text : String) (n : Nat) :
    text.toUTF8.data[n]? = (bytes text.toList)[n]? := by
  have hbytes : text.toUTF8 = (bytes text.toList).toByteArray := String.utf8Encode_toList.symm
  rw [hbytes, List.data_toByteArray, List.getElem?_toArray]

theorem utf8ByteSize_eq (text : String) : text.utf8ByteSize = size text.toList := by
  have hbytes : text.toUTF8 = (bytes text.toList).toByteArray := String.utf8Encode_toList.symm
  rw [← length_bytes, ← String.size_toByteArray]
  exact (congrArg ByteArray.size hbytes).trans List.size_toByteArray

/-- A byte of a trimmed text is one of the whole text, further on. -/
theorem getElem?_bytes_trim {cs : List Char} {n : Nat} (h : n < size (trim cs)) :
    (bytes (trim cs))[n]? = (bytes cs)[size cs - size (trimStart cs) + n]? := by
  obtain ⟨leading, trailing, htext, hsize, -, -⟩ := exists_trim cs
  have hbytes : bytes cs = bytes leading ++ (bytes (trim cs) ++ bytes trailing) := by
    rw [← bytes_append, ← bytes_append, ← htext]
  rw [← hsize, ← length_bytes leading, hbytes, List.getElem?_append_right (Nat.le_add_right _ _),
    Nat.add_sub_cancel_left, List.getElem?_append_left (by rwa [length_bytes])]

/-! ## Sketches -/

/-- **A text in which some breaks are open.** -/
abbrev Sketch := List (Option Char)

namespace Sketch

/-- The text with a character at every open break. -/
def fill (sketch : Sketch) (lineBreak : Char) : List Char := sketch.map (·.getD lineBreak)

/-- The ranges of the open breaks, with a byte each, of a sketch that begins
at an offset. -/
def breaks (start : Nat) : Sketch → List (Nat × Nat)
  | [] => []
  | none :: rest => (start, start + 1) :: breaks (start + 1) rest
  | some c :: rest => breaks (start + c.utf8Size) rest

/-- Whether nothing is written yet behind an open break. -/
def Waits (sketch : Sketch) : Prop := sketch.getLast? = some none

section Filled

variable {sketch rest : Sketch} {cs : List Char} {c d : Char} {n start : Nat}

theorem fill_append : fill (sketch ++ rest) c = fill sketch c ++ fill rest c := List.map_append

/-- What is written for good stays as it is. -/
theorem fill_append_map_some : fill (sketch ++ cs.map some) c = fill sketch c ++ cs := by
  unfold fill
  rw [List.map_append, List.map_map]
  exact congrArg (_ ++ ·) (List.map_id cs)

theorem fill_none_cons : fill (none :: sketch) c = c :: fill sketch c := rfl

theorem fill_some_cons : fill (some d :: sketch) c = d :: fill sketch c := rfl

/-- **It makes no difference to the length** with which character of one byte
a sketch is filled in. -/
theorem size_fill (hc : c.utf8Size = 1) (hd : d.utf8Size = 1) (sketch : Sketch) :
    size (fill sketch c) = size (fill sketch d) := by
  induction sketch with
  | nil => rfl
  | cons glyph rest ih =>
    cases glyph with
    | none => rw [fill_none_cons, fill_none_cons, size_cons, size_cons, hc, hd, ih]
    | some _ => rw [fill_some_cons, fill_some_cons, size_cons, size_cons, ih]

theorem breaks_append (hc : c.utf8Size = 1) (start : Nat) (sketch rest : Sketch) :
    breaks start (sketch ++ rest) =
      breaks start sketch ++ breaks (start + size (fill sketch c)) rest := by
  induction sketch generalizing start with
  | nil => rfl
  | cons glyph sketch ih =>
    cases glyph with
    | none =>
      rw [List.cons_append, breaks, breaks, ih, fill_none_cons, size_cons, hc, Nat.add_assoc]
      rfl
    | some d =>
      rw [List.cons_append, breaks, breaks, ih, fill_some_cons, size_cons, Nat.add_assoc]

/-- What is written for good adds no open break. -/
theorem breaks_append_map_some : breaks start (sketch ++ cs.map some) = breaks start sketch := by
  have hnone : ∀ start, breaks start (cs.map some) = [] := by
    induction cs with
    | nil => exact fun _ => rfl
    | cons c cs ih => exact fun _ => ih _
  rw [breaks_append (c := ' ') rfl, hnone, List.append_nil]

theorem le_of_mem_breaks {range : Nat × Nat} (h : range ∈ breaks start sketch) :
    start ≤ range.1 := by
  induction sketch generalizing start with
  | nil => cases h
  | cons glyph rest ih =>
    cases glyph with
    | none =>
      rcases List.mem_cons.mp h with rfl | h
      · exact Nat.le_refl _
      · exact Nat.le_of_succ_le (ih h)
    | some c => exact Nat.le_trans (Nat.le_add_right _ _) (ih h)

/-- Text behind an open break closes it. -/
theorem waits_append_map_some : Waits (sketch ++ cs.map some) ↔ cs = [] ∧ Waits sketch := by
  unfold Waits
  rw [List.getLast?_append, List.getLast?_map]
  rcases hlast : cs.getLast? with _ | c
  · simp [List.getLast?_eq_none_iff.mp hlast]
  · have hne : cs ≠ [] := by
      rintro rfl
      cases hlast
    simp [hne]

/-- Texts that end in no open break end alike. -/
theorem getLast?_fill (h : ¬ Waits sketch) (c d : Char) :
    (fill sketch c).getLast? = (fill sketch d).getLast? := by
  unfold fill
  rw [List.getLast?_map, List.getLast?_map]
  unfold Waits at h
  rcases hlast : sketch.getLast? with _ | _ | last
  · rfl
  · exact absurd hlast h
  · rfl

end Filled

/-! ## Trimmed sketches -/

section Trimmed

variable {c d : Char}

/-- Whether a character of a sketch is blank, as all that is written at an
open break is. -/
def isBlank (glyph : Option Char) : Bool := glyph.all Text.isBlank

theorem trimStart_fill (hc : Text.isBlank c) (sketch : Sketch) :
    trimStart (fill sketch c) = fill (sketch.dropWhile isBlank) c := by
  have hblank : Text.isBlank ∘ (Option.getD · c) = isBlank := by
    funext glyph
    cases glyph with
    | none => exact hc
    | some d => rfl
  unfold trimStart fill
  rw [List.dropWhile_map, hblank]

theorem trim_fill (hc : Text.isBlank c) (sketch : Sketch) : trim (fill sketch c) =
    fill ((sketch.dropWhile isBlank).reverse.dropWhile isBlank).reverse c := by
  have hreverse (sketch : Sketch) : (fill sketch c).reverse = fill sketch.reverse c :=
    List.map_reverse.symm
  have hend := trimStart_fill hc (sketch.dropWhile isBlank).reverse
  unfold trimStart at hend
  rw [trim, trimStart_fill hc, trimEnd, hreverse, hend, hreverse]

end Trimmed

/-! ## Bytes of a sketch -/

section Bytes

variable {c d : Char}

/-- **The bytes of a sketch that is filled in**: each is the one at an open
break, or the same whatever the sketch is filled in with. -/
theorem getElem?_bytes_fill (start : Nat) (hc : c.utf8Size = 1) (hd : d.utf8Size = 1)
    {sketch : Sketch} {n : Nat} (hn : n < size (fill sketch c)) :
    ((∃ range ∈ breaks start sketch, range.1 ≤ start + n ∧ start + n < range.2) ∧
      (bytes (fill sketch c))[n]? = some c.val.toUInt8 ∧
      (bytes (fill sketch d))[n]? = some d.val.toUInt8) ∨
    ((∀ range ∈ breaks start sketch, ¬ (range.1 ≤ start + n ∧ start + n < range.2)) ∧
      (bytes (fill sketch c))[n]? = (bytes (fill sketch d))[n]?) := by
  induction sketch generalizing start n with
  | nil => cases hn
  | cons glyph rest ih =>
    cases glyph with
    | none =>
      rw [fill_none_cons, size_cons, hc] at hn
      rw [fill_none_cons, fill_none_cons, bytes_cons_of_utf8Size hc, bytes_cons_of_utf8Size hd,
        breaks]
      cases n with
      | zero =>
        have hmem : (start, start + 1) ∈ (start, start + 1) :: breaks (start + 1) rest :=
          List.mem_cons_self
        exact .inl ⟨⟨_, hmem, by omega, by omega⟩, rfl, rfl⟩
      | succ n =>
        have hshift : start + (n + 1) = start + 1 + n := by omega
        rw [List.getElem?_cons_succ, List.getElem?_cons_succ, hshift]
        have hlt : n < size (fill rest c) := by omega
        rcases ih (start + 1) hlt with ⟨⟨range, hmem, hrange⟩, hbytes⟩ | h
        · exact .inl ⟨⟨range, List.mem_cons_of_mem _ hmem, hrange⟩, hbytes⟩
        · refine .inr ⟨List.forall_mem_cons.mpr ⟨?_, h.1⟩, h.2⟩
          omega
    | some glyph =>
      have hlength : (String.utf8EncodeChar glyph).length = glyph.utf8Size :=
        String.length_utf8EncodeChar glyph
      rw [fill_some_cons, size_cons] at hn
      rw [fill_some_cons, fill_some_cons, bytes_cons, bytes_cons, breaks]
      rcases Nat.lt_or_ge n glyph.utf8Size with hlt | hge
      · refine .inr ⟨fun range hmem => ?_, ?_⟩
        · have hle := le_of_mem_breaks hmem
          omega
        · rw [List.getElem?_append_left (by omega), List.getElem?_append_left (by omega)]
      · obtain ⟨m, rfl⟩ := Nat.exists_eq_add_of_le hge
        rw [List.getElem?_append_right (by omega), List.getElem?_append_right (by omega), hlength,
          Nat.add_sub_cancel_left, ← Nat.add_assoc]
        exact ih _ (by omega)

end Bytes

end Sketch

end Text

end StyledMarkdown
