import StyledMarkdown.Renderer
import StyledMarkdown.Rendered
/-!
# Boundaries

The offsets that cut no character. A boundary stays one when the text
grows at either end, and when it is trimmed; a range between two
boundaries has a text.
-/

namespace StyledMarkdown

namespace Text

/-- **An offset that cuts no character of a text.** -/
def IsBoundary (cs : List Char) (n : Nat) : Prop :=
  ∃ first rest, cs = first ++ rest ∧ size first = n

section Boundary

variable {cs before mid after : List Char} {n start stop : Nat}

theorem isBoundary_of_append (first rest : List Char) : IsBoundary (first ++ rest) (size first) :=
  ⟨first, rest, rfl, rfl⟩

theorem isBoundary_zero (cs : List Char) : IsBoundary cs 0 := ⟨[], cs, rfl, rfl⟩

theorem isBoundary_size (cs : List Char) : IsBoundary cs (size cs) :=
  ⟨cs, [], (List.append_nil cs).symm, rfl⟩

theorem IsBoundary.le_size (h : IsBoundary cs n) : n ≤ size cs := by
  obtain ⟨first, rest, rfl, rfl⟩ := h
  simp

theorem IsBoundary.append_right (h : IsBoundary cs n) (after : List Char) :
    IsBoundary (cs ++ after) n := by
  obtain ⟨first, rest, rfl, rfl⟩ := h
  exact ⟨first, rest ++ after, List.append_assoc .., rfl⟩

/-- A boundary stays one in a longer text. -/
theorem IsBoundary.of_isPrefix (h : IsBoundary cs n) (hp : cs <+: after) : IsBoundary after n := by
  obtain ⟨rest, rfl⟩ := hp
  exact h.append_right rest

theorem eq_nil_of_size_eq_zero (h : size cs = 0) : cs = [] := by
  cases cs with
  | nil => rfl
  | cons c cs =>
    have := c.utf8Size_pos
    rw [size_cons] at h
    omega

/-- A text that ends where another one begins further on is its first part. -/
theorem exists_append_of_size_le {first rest first' rest' : List Char}
    (h : first ++ rest = first' ++ rest') (hle : size first ≤ size first') :
    ∃ mid, first' = first ++ mid ∧ rest = mid ++ rest' := by
  -- the shorter of the two firsts begins the longer one, whichever that is
  rcases List.append_eq_append_iff.mp h with ⟨mid, hfirst, hrest⟩ | ⟨mid, hfirst, hrest⟩
  · exact ⟨mid, hfirst, hrest⟩
  · have hmid : mid = [] := eq_nil_of_size_eq_zero (by rw [hfirst, size_append] at hle; omega)
    subst hmid
    exact ⟨[], by rw [hfirst, List.append_nil, List.append_nil], by rw [hrest]; rfl⟩

/-! ## Slices -/

theorem split?_append (first rest : List Char) :
    split? (size first) (first ++ rest) = some (first, rest) := by
  induction first with
  | nil => cases rest <;> rfl
  | cons c first ih =>
    -- a character has a byte at least, so there is something left to split
    obtain ⟨m, hm⟩ : ∃ m, c.utf8Size + size first = m + 1 :=
      ⟨c.utf8Size + size first - 1, by have := c.utf8Size_pos; omega⟩
    have hrest : m + 1 - c.utf8Size = size first := by omega
    rw [size_cons, hm, List.cons_append, split?, if_pos (by omega), hrest, ih]
    rfl

theorem isSome_split?_iff : (split? n cs).isSome ↔ IsBoundary cs n := by
  constructor
  · intro h
    obtain ⟨⟨first, rest⟩, hsplit⟩ := Option.isSome_iff_exists.mp h
    exact ⟨first, rest, split?_eq_some hsplit⟩
  · rintro ⟨first, rest, rfl, rfl⟩
    rw [split?_append]
    rfl

instance (cs : List Char) (n : Nat) : Decidable (IsBoundary cs n) :=
  decidable_of_iff _ isSome_split?_iff

theorem slice?_append (before mid after : List Char) :
    slice? (before ++ (mid ++ after)) (size before) (size before + size mid) = some mid := by
  have hsub : size before + size mid - size before = size mid := by omega
  rw [slice?, if_pos (Nat.le_add_right _ _), split?_append]
  dsimp only [bind, Option.bind]
  rw [hsub, split?_append]
  rfl

/-! ## Trimming -/

theorem exists_trimStart (cs : List Char) : ∃ leading,
    cs = leading ++ trimStart cs ∧ ∀ c ∈ leading, isBlank c :=
  ⟨cs.takeWhile isBlank, List.takeWhile_append_dropWhile.symm,
    List.all_eq_true.mp List.all_takeWhile⟩

theorem exists_trimEnd (cs : List Char) : ∃ trailing,
    cs = trimEnd cs ++ trailing ∧ ∀ c ∈ trailing, isBlank c := by
  refine ⟨(cs.reverse.takeWhile isBlank).reverse, ?_, fun c hc => ?_⟩
  · rw [trimEnd, ← List.reverse_append, List.takeWhile_append_dropWhile, List.reverse_reverse]
  · exact List.all_eq_true.mp List.all_takeWhile c (List.mem_reverse.mp hc)

/-- What trimming takes away stands on either side of what it leaves, and is
blank. -/
theorem exists_trim (cs : List Char) : ∃ leading trailing,
    cs = leading ++ (trim cs ++ trailing) ∧ size leading = size cs - size (trimStart cs) ∧
      (∀ c ∈ leading, isBlank c) ∧ ∀ c ∈ trailing, isBlank c := by
  obtain ⟨leading, hstart, hleading⟩ := exists_trimStart cs
  obtain ⟨trailing, hend, htrailing⟩ := exists_trimEnd (trimStart cs)
  refine ⟨leading, trailing, hstart.trans (congrArg (leading ++ ·) hend), ?_, hleading, htrailing⟩
  have hsize := congrArg size hstart
  rw [size_append] at hsize
  omega

theorem not_isBlank_of_mem_head?_trimStart {c : Char} (h : c ∈ (trimStart cs).head?) :
    ¬ isBlank c := by
  have hhead := List.head?_dropWhile_not isBlank cs
  rw [← trimStart, Option.mem_def.mp h] at hhead
  simpa using hhead

/-- A trimmed text does not begin with a blank. -/
theorem not_isBlank_of_mem_head?_trim {c : Char} (h : c ∈ (trim cs).head?) : ¬ isBlank c := by
  obtain ⟨trailing, hend, -⟩ := exists_trimEnd (trimStart cs)
  have hstart : c ∈ (trimStart cs).head? := by
    rw [hend, List.head?_append, ← trim, Option.mem_def.mp h]
    rfl
  exact not_isBlank_of_mem_head?_trimStart hstart

/-- A trimmed text does not end with a blank. -/
theorem not_isBlank_of_mem_getLast?_trim {c : Char} (h : c ∈ (trim cs).getLast?) :
    ¬ isBlank c := by
  have hstart : c ∈ (trimStart (trimStart cs).reverse).head? := by
    rwa [trim, trimEnd, List.getLast?_reverse] at h
  exact not_isBlank_of_mem_head?_trimStart hstart

/-- A text that is not empty and holds no blank. -/
structure IsSolid (cs : List Char) : Prop where
  ne_nil : cs ≠ []
  not_blank : ∀ c ∈ cs, ¬ isBlank c

/-- Blanks in front of a text stand before every part of it that is solid. -/
theorem exists_append_of_blank {leading rest : List Char}
    (h : leading ++ rest = before ++ (mid ++ after)) (hleading : ∀ c ∈ leading, isBlank c)
    (hmid : IsSolid mid) :
    ∃ inner, before = leading ++ inner ∧ rest = inner ++ (mid ++ after) := by
  rcases List.append_eq_append_iff.mp h with ⟨inner, hbefore, hrest⟩ | ⟨blanks, hleads, hrest⟩
  · exact ⟨inner, hbefore, hrest⟩
  · cases blanks with
    | nil => exact ⟨[], by simpa using hleads.symm, by simpa using hrest.symm⟩
    | cons c blanks =>
      -- the part would begin with a blank
      obtain ⟨d, mid, rfl⟩ := List.exists_cons_of_ne_nil hmid.ne_nil
      obtain rfl : d = c := (List.cons.inj hrest).1
      exact absurd (hleading d (by simp [hleads])) (hmid.not_blank d List.mem_cons_self)

theorem IsSolid.lineEnd_not_mem (h : IsSolid cs) : '\n' ∉ cs := fun hmem =>
  h.not_blank '\n' hmem (by decide)

theorem IsSolid.reverse (h : IsSolid cs) : IsSolid cs.reverse :=
  ⟨mt List.reverse_eq_nil_iff.mp h.ne_nil, fun c hc => h.not_blank c (List.mem_reverse.mp hc)⟩

/-- A boundary moved along with a text that loses both its ends, and
clamped to what is left, is a boundary again. -/
theorem IsBoundary.clamp (h : IsBoundary (before ++ (mid ++ after)) n) :
    IsBoundary mid (min (n - size before) (size mid)) := by
  obtain ⟨first, rest, heq, rfl⟩ := h
  -- the boundary lies in the part cut off in front, in what is left, or behind it
  rcases Nat.le_total (size first) (size before) with hle | hle
  · rw [Nat.sub_eq_zero_of_le hle, Nat.zero_min]
    exact isBoundary_zero mid
  obtain ⟨inner, rfl, hinner⟩ := exists_append_of_size_le heq hle
  rw [size_append, Nat.add_sub_cancel_left]
  rcases Nat.le_total (size inner) (size mid) with hmid | hmid
  · obtain ⟨last, rfl, -⟩ := exists_append_of_size_le hinner.symm hmid
    rw [Nat.min_eq_left hmid]
    exact isBoundary_of_append inner last
  · rw [Nat.min_eq_right hmid]
    exact isBoundary_size mid

end Boundary

/-! ## Parts -/

/-- A part of a text from one offset to another. -/
def Between (text : List Char) (start stop : Nat) (part : List Char) : Prop :=
  ∃ before after, text = before ++ (part ++ after) ∧ size before = start ∧ start + size part = stop

namespace Between

variable {text more part : List Char} {start stop : Nat}

theorem of_isPrefix (h : Between text start stop part) (hp : text <+: more) :
    Between more start stop part := by
  obtain ⟨before, after, rfl, hstart, hstop⟩ := h
  obtain ⟨rest, rfl⟩ := hp
  exact ⟨before, after ++ rest, by simp, hstart, hstop⟩

theorem slice?_eq (h : Between text start stop part) : slice? text start stop = some part := by
  obtain ⟨before, after, rfl, rfl, rfl⟩ := h
  exact slice?_append before part after

/-- A part of a text is one of every text around it, further on. -/
theorem append_left (h : Between text start stop part) (front back : List Char) :
    Between (front ++ (text ++ back)) (size front + start) (size front + stop) part := by
  obtain ⟨before, after, rfl, rfl, rfl⟩ := h
  refine ⟨front ++ before, after ++ back, by simp only [List.append_assoc], size_append _ _, ?_⟩
  rw [Nat.add_assoc]

/-- **Trimming leaves a part without blanks whole**, and moves it along
with the text. -/
theorem trim (h : Between text start stop part) (hpart : IsSolid part) :
    let leading := size text - size (trimStart text)
    leading ≤ start ∧ stop ≤ leading + size (Text.trim text) ∧
      Between (Text.trim text) (start - leading) (stop - leading) part := by
  obtain ⟨before, after, htext, rfl, rfl⟩ := h
  obtain ⟨leading, trailing, hparts, hsize, hleading, htrailing⟩ := exists_trim text
  dsimp only
  rw [← hsize]
  obtain ⟨inner, rfl, hrest⟩ := exists_append_of_blank (hparts.symm.trans htext) hleading hpart
  -- what is cut off at the end stands in front once everything is reversed
  have hreversed : trailing.reverse ++ (Text.trim text).reverse =
      after.reverse ++ (part.reverse ++ inner.reverse) := by
    rw [← List.reverse_append, hrest]
    simp
  obtain ⟨behind, -, htrim⟩ := exists_append_of_blank hreversed
    (fun c hc => htrailing c (List.mem_reverse.mp hc)) hpart.reverse
  have hkept : Text.trim text = inner ++ (part ++ behind.reverse) := by
    rw [← List.reverse_reverse (Text.trim text), htrim]
    simp
  rw [hkept]
  simp only [size_append]
  refine ⟨by omega, by omega, inner, behind.reverse, rfl, by omega, by omega⟩

end Between

section Slices

variable {cs : List Char} {start stop : Nat}

/-- **A range between boundaries in order has a part of the text.** -/
theorem exists_between (hle : start ≤ stop) (hstart : IsBoundary cs start)
    (hstop : IsBoundary cs stop) : ∃ part, Between cs start stop part := by
  obtain ⟨before, rest, rfl, rfl⟩ := hstart
  obtain ⟨first, after, h, rfl⟩ := hstop
  obtain ⟨mid, rfl, rfl⟩ := exists_append_of_size_le h hle
  exact ⟨mid, before, after, rfl, rfl, (size_append _ _).symm⟩

theorem slice?_isSome (hle : start ≤ stop) (hstart : IsBoundary cs start)
    (hstop : IsBoundary cs stop) : (slice? cs start stop).isSome := by
  obtain ⟨part, hpart⟩ := exists_between hle hstart hstop
  rw [hpart.slice?_eq]
  rfl

end Slices

end Text

/-! ## Line ends -/

/-- **The first line end** stands behind a text without one. -/
theorem exists_of_lineEnd?_eq_some {cs : List Char} {n : Nat} (h : lineEnd? cs = some n) :
    ∃ line rest, cs = line ++ '\n' :: rest ∧ '\n' ∉ line ∧ Text.size line = n := by
  induction cs generalizing n with
  | nil => cases h
  | cons c cs ih =>
    rw [lineEnd?] at h
    by_cases hc : c = '\n'
    · rw [if_pos hc] at h
      exact ⟨[], cs, by rw [hc]; rfl, List.not_mem_nil, Option.some.inj h⟩
    · rw [if_neg hc, Option.map_eq_some_iff] at h
      obtain ⟨m, hm, rfl⟩ := h
      obtain ⟨line, rest, rfl, hline, rfl⟩ := ih hm
      exact ⟨c :: line, rest, rfl, by simp [hline, Ne.symm hc], rfl⟩

/-- The line end behind a text without one is the first. -/
theorem lineEnd?_append {line : List Char} (h : '\n' ∉ line) (rest : List Char) :
    lineEnd? (line ++ '\n' :: rest) = some (Text.size line) := by
  induction line with
  | nil => rfl
  | cons c line ih =>
    obtain ⟨hc, hline⟩ := not_or.mp (mt List.mem_cons.mpr h)
    rw [List.cons_append, lineEnd?, if_neg (Ne.symm hc), ih hline]
    rfl

/-- A text with a line end has a first one, and no later. -/
theorem exists_lineEnd?_of_mem (line rest : List Char) :
    ∃ n, lineEnd? (line ++ '\n' :: rest) = some n ∧ n ≤ Text.size line := by
  induction line with
  | nil => exact ⟨0, rfl, Nat.le_refl 0⟩
  | cons c line ih =>
    obtain ⟨n, hn, hle⟩ := ih
    rw [List.cons_append, lineEnd?]
    split
    · exact ⟨0, rfl, Nat.zero_le _⟩
    · exact ⟨c.utf8Size + n, by rw [hn]; rfl, Nat.add_le_add_left hle _⟩

/-! ## Ends of a buffer -/

theorem Buffer.takeEnd_append (last rest taken : List Char) :
    takeEnd (Text.size last) (last ++ rest) taken = last.reverse ++ taken := by
  induction last generalizing taken with
  | nil => cases rest <;> rfl
  | cons c last ih =>
    have hpos := c.utf8Size_pos
    rw [List.cons_append, takeEnd, Text.size_cons, if_neg (by omega), Nat.add_sub_cancel_left, ih,
      List.reverse_cons, List.append_assoc]
    rfl

/-- **What was written since a boundary** is what stands behind it. -/
theorem Buffer.since_eq {b : Buffer} {before after : List Char}
    (h : b.toList = before ++ after) : b.since (Text.size before) = after := by
  have hreversed : b.reversed = after.reverse ++ before.reverse := by
    rw [← List.reverse_append, ← h, toList, List.reverse_reverse]
  have hsize : b.size - Text.size before = Text.size after.reverse := by
    rw [size_toList, h, Text.size_append, Text.size_reverse, Nat.add_sub_cancel_left]
  rw [since, hsize, hreversed, takeEnd_append, List.reverse_reverse, List.append_nil]

end StyledMarkdown
