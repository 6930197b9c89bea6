import StyledMarkdown.Config
import StyledMarkdown.Proofs.Number.Hexadecimal
/-!
# Reading and writing colors

A color is written as a hash sign and eight digits, and these are read back
as the same color; six digits are read as eight with full opacity in front.
Besides these a text is read that has a plus sign in the place of its first
digit: the numeral behind the hash sign may have a sign, which takes one of
its places, so the sign passes for a zero.
-/

namespace StyledMarkdown

namespace Color

open Numeral (isHexDigit value padded)

/-! ## Texts -/

/-- **A color as it is to be written**: a hash sign and six or eight
hexadecimal digits. -/
def IsWritten (s : String) : Prop :=
  ∃ digits, s.toList = '#' :: digits ∧ (digits.length = 6 ∨ digits.length = 8) ∧
    ∀ c ∈ digits, isHexDigit c

/-- A plus sign in the place of the first digit. -/
def IsSigned (s : String) : Prop :=
  ∃ digits, s.toList = '#' :: '+' :: digits ∧ (digits.length = 5 ∨ digits.length = 7) ∧
    ∀ c ∈ digits, isHexDigit c

/-- The text of a color is the hash sign and its eight digits. -/
theorem toList_toText (c : Color) : c.toText.toList = '#' :: padded 8 c.argb.toNat :=
  String.toList_ofList

section Reading

variable {s : String} {numeral digits : List Char} {c : Color} {n : Nat}

/-- The sign is no digit. -/
theorem head_ne_plus (h : ∀ c ∈ digits, isHexDigit c) (rest : List Char) :
    digits ≠ '+' :: rest := by
  rintro rfl
  have hplus : isHexDigit '+' = true := h '+' List.mem_cons_self
  exact absurd hplus (by decide)

/-- A text with a sign is not one as it is to be written. -/
theorem not_isWritten_of_isSigned (h : IsSigned s) : ¬ IsWritten s := by
  rintro ⟨digits, hdigits, -, hhex⟩
  obtain ⟨rest, hrest, -, -⟩ := h
  have hplus : digits = '+' :: rest := (List.cons.inj (hdigits.symm.trans hrest)).2
  exact head_ne_plus hhex rest hplus

/-! ## Numerals -/

/-- **A numeral is digits**, one at least, with a sign in front or without. -/
theorem hexNumeral?_eq_some_iff : hexNumeral? numeral = some n ↔
    ∃ digits, (numeral = digits ∨ numeral = '+' :: digits) ∧ digits ≠ [] ∧
      (∀ c ∈ digits, isHexDigit c) ∧ value 16 digits = n := by
  have hread : ∀ digits : List Char,
      (if digits.isEmpty || !digits.all isHexDigit then none else some (value 16 digits)) =
        some n ↔ digits ≠ [] ∧ (∀ c ∈ digits, isHexDigit c) ∧ value 16 digits = n := by
    intro digits
    simp [List.isEmpty_iff, and_assoc]
  unfold hexNumeral?
  split
  · rename_i digits
    rw [hread]
    constructor
    · intro h
      exact ⟨digits, .inr rfl, h⟩
    · rintro ⟨other, rfl | hother, hne, hhex, hvalue⟩
      · exact absurd rfl (head_ne_plus hhex digits)
      · obtain ⟨-, rfl⟩ := List.cons.inj hother
        exact ⟨hne, hhex, hvalue⟩
  · rename_i hsign
    rw [hread]
    constructor
    · intro h
      exact ⟨numeral, .inl rfl, h⟩
    · rintro ⟨digits, rfl | hother, h⟩
      · exact h
      · exact absurd hother (hsign digits)

theorem hexNumeral?_of_isHexDigit (hne : digits ≠ []) (h : ∀ c ∈ digits, isHexDigit c) :
    hexNumeral? digits = some (value 16 digits) :=
  hexNumeral?_eq_some_iff.mpr ⟨digits, .inl rfl, hne, h, rfl⟩

/-- **What is read behind the hash sign** is told by the numeral and its length. -/
theorem parse?_eq (hs : s.toList = '#' :: numeral) : parse? s =
    match hexNumeral? numeral, numeral.length with
    | some n, 6 => some ⟨0xff000000 ||| n.toUInt32⟩
    | some n, 8 => some ⟨n.toUInt32⟩
    | _, _ => none := by
  unfold parse?
  rw [hs]
  rfl

/-- A text is read when a numeral of six or of eight characters stands behind
the hash sign. -/
theorem exists_parse?_iff : (∃ c, parse? s = some c) ↔
    ∃ numeral n, s.toList = '#' :: numeral ∧ hexNumeral? numeral = some n ∧
      (numeral.length = 6 ∨ numeral.length = 8) := by
  unfold parse?
  split
  · rename_i numeral hs
    rw [hs]
    split
    · rename_i n hnumeral hlength
      exact ⟨fun _ => ⟨numeral, n, rfl, hnumeral, .inl hlength⟩, fun _ => ⟨_, rfl⟩⟩
    · rename_i n hnumeral hlength
      exact ⟨fun _ => ⟨numeral, n, rfl, hnumeral, .inr hlength⟩, fun _ => ⟨_, rfl⟩⟩
    · rename_i hnotSix hnotEight
      refine ⟨nofun, ?_⟩
      rintro ⟨other, n, hother, hnumeral, hlength⟩
      obtain ⟨-, rfl⟩ := List.cons.inj hother
      rcases hlength with hlength | hlength
      · exact absurd hlength (hnotSix n hnumeral)
      · exact absurd hlength (hnotEight n hnumeral)
  · rename_i hhash
    refine ⟨nofun, ?_⟩
    rintro ⟨numeral, n, hs, -⟩
    exact absurd hs (hhash numeral)

theorem parse_eq_ok_iff : Color.parse s = .ok c ↔ parse? s = some c := by
  unfold Color.parse
  cases parse? s <;> simp

/-- What is not read is named in the error. -/
theorem parse_eq_error (h : ¬ ∃ c, Color.parse s = .ok c) :
    Color.parse s = .error (.invalidColor s) := by
  unfold Color.parse at h ⊢
  cases hread : parse? s with
  | none => rfl
  | some c =>
    rw [hread] at h
    exact absurd ⟨c, rfl⟩ h

/-- **A text is read when it is written as a color is to be**, or with a sign
in the place of the first digit. -/
theorem exists_parse_iff : (∃ c, Color.parse s = .ok c) ↔ IsWritten s ∨ IsSigned s := by
  simp only [parse_eq_ok_iff]
  rw [exists_parse?_iff]
  constructor
  · rintro ⟨numeral, n, hs, hnumeral, hlength⟩
    obtain ⟨digits, rfl | rfl, -, hhex, -⟩ := hexNumeral?_eq_some_iff.mp hnumeral
    · exact .inl ⟨numeral, hs, hlength, hhex⟩
    · rw [List.length_cons] at hlength
      exact .inr ⟨digits, hs, by omega, hhex⟩
  · rintro (⟨digits, hs, hlength, hhex⟩ | ⟨digits, hs, hlength, hhex⟩)
    · have hne : digits ≠ [] := List.ne_nil_of_length_pos (by omega)
      exact ⟨digits, _, hs, hexNumeral?_of_isHexDigit hne hhex, hlength⟩
    · have hne : digits ≠ [] := List.ne_nil_of_length_pos (by omega)
      have hnumeral : hexNumeral? ('+' :: digits) = some (value 16 digits) :=
        hexNumeral?_eq_some_iff.mpr ⟨digits, .inr rfl, hne, hhex, rfl⟩
      exact ⟨'+' :: digits, _, hs, hnumeral, by rw [List.length_cons]; omega⟩

/-- **The sign passes for a zero.** -/
theorem parse?_plus (digits : List Char) :
    parse? (String.ofList ('#' :: '+' :: digits)) =
      parse? (String.ofList ('#' :: '0' :: digits)) := by
  by_cases hne : digits = []
  · -- a sign alone and a zero alone are both too short
    rw [hne]
    rfl
  · have hempty : digits.isEmpty = false := by simpa using hne
    have hplus : hexNumeral? ('+' :: digits) =
        if digits.isEmpty || !digits.all isHexDigit then none else some (value 16 digits) := rfl
    have hzero : hexNumeral? ('0' :: digits) =
        if !digits.all isHexDigit then none else some (value 16 digits) := rfl
    have hnumeral : hexNumeral? ('+' :: digits) = hexNumeral? ('0' :: digits) := by
      rw [hplus, hzero, hempty, Bool.false_or]
    rw [parse?_eq String.toList_ofList, parse?_eq String.toList_ofList, hnumeral]
    rfl

/-! ## Texts that are written -/

theorem parse?_of_length_eight (hs : s.toList = '#' :: digits) (hlength : digits.length = 8)
    (h : ∀ c ∈ digits, isHexDigit c) : parse? s = some ⟨(value 16 digits).toUInt32⟩ := by
  have hne : digits ≠ [] := List.ne_nil_of_length_pos (by omega)
  rw [parse?_eq hs, hexNumeral?_of_isHexDigit hne h, hlength]
  rfl

theorem parse?_of_length_six (hs : s.toList = '#' :: digits) (hlength : digits.length = 6)
    (h : ∀ c ∈ digits, isHexDigit c) :
    parse? s = some ⟨0xff000000 ||| (value 16 digits).toUInt32⟩ := by
  have hne : digits ≠ [] := List.ne_nil_of_length_pos (by omega)
  rw [parse?_eq hs, hexNumeral?_of_isHexDigit hne h, hlength]
  rfl

/-- **Six digits are eight with full opacity in front.** -/
theorem parse?_opaque (hs : s.toList = '#' :: digits) (hlength : digits.length = 6)
    (h : ∀ c ∈ digits, isHexDigit c) :
    parse? s = parse? (String.ofList ('#' :: 'f' :: 'f' :: digits)) := by
  have hfront : ∀ c ∈ 'f' :: 'f' :: digits, isHexDigit c :=
    List.forall_mem_cons.mpr ⟨rfl, List.forall_mem_cons.mpr ⟨rfl, h⟩⟩
  have hlong : ('f' :: 'f' :: digits).length = 8 := by simp [hlength]
  have hlt : value 16 digits < Nat.pow 16 6 := hlength ▸ Numeral.value_lt h
  have hvalue : value 16 ('f' :: 'f' :: digits) = 255 * Nat.pow 16 6 + value 16 digits :=
    hlength ▸ Numeral.value_append 16 ['f', 'f'] digits
  rw [parse?_of_length_six hs hlength h,
    parse?_of_length_eight String.toList_ofList hlong hfront, hvalue]
  have hbits : (0xff000000 ||| (value 16 digits).toUInt32).toNat =
      (255 * Nat.pow 16 6 + value 16 digits).toUInt32.toNat := by
    -- the digits lie below the bits of the opacity
    have hnat : (value 16 digits).toUInt32.toNat = value 16 digits :=
      Nat.mod_eq_of_lt (Nat.lt_trans hlt (by decide))
    have hsum : (255 * Nat.pow 16 6 + value 16 digits).toUInt32.toNat =
        255 * Nat.pow 16 6 + value 16 digits := by
      have hpow : Nat.pow 16 6 = 16777216 := rfl
      exact Nat.mod_eq_of_lt (by omega)
    have hor : 2 ^ 24 * 255 + value 16 digits = 2 ^ 24 * 255 ||| value 16 digits :=
      Nat.two_pow_add_eq_or_of_lt hlt 255
    rw [UInt32.toNat_or, hnat, hsum]
    exact hor.symm
  rw [UInt32.toNat_inj.mp hbits]

/-- **A color is written with the digits that it is read from**, in lower
case. -/
theorem exists_parse?_toText (hs : s.toList = '#' :: digits) (hlength : digits.length = 8)
    (h : ∀ c ∈ digits, isHexDigit c) :
    ∃ c, parse? s = some c ∧ c.toText.toList = '#' :: digits.map Char.toLower := by
  have hne : digits ≠ [] := List.ne_nil_of_length_pos (by omega)
  have hlt : value 16 digits < Nat.pow 16 8 := hlength ▸ Numeral.value_lt h
  have hnat : (value 16 digits).toUInt32.toNat = value 16 digits := Nat.mod_eq_of_lt hlt
  have hpadded : padded 8 (value 16 digits) = digits.map Char.toLower :=
    hlength ▸ Numeral.padded_value hne h
  refine ⟨_, parse?_of_length_eight hs hlength h, ?_⟩
  rw [toList_toText, hnat, hpadded]

end Reading

end Color

open Color (IsWritten IsSigned)

/-! ## What is read -/

/-- **Which texts are read as colors**: those that are written as colors are
to be, and those with a sign in the place of the first digit. All others
give an error that names them. So it is by the sign alone that reading
admits more than it is to; the sign passes for a zero. -/
theorem written_colors_read_iff (s : String) :
    ((((∃ c, Color.parse s = .ok c) ↔ IsWritten s) ∧
        (IsWritten s ∨ Color.parse s = .error (.invalidColor s))) ↔ ¬ IsSigned s) ∧
    ((∃ c, Color.parse s = .ok c) ↔ IsWritten s ∨ IsSigned s) ∧
    ((∃ c, Color.parse s = .ok c) ∨ Color.parse s = .error (.invalidColor s)) ∧
    ∀ digits, Color.parse? (String.ofList ('#' :: '+' :: digits)) =
      Color.parse? (String.ofList ('#' :: '0' :: digits)) := by
  have hread : (∃ c, Color.parse s = .ok c) ↔ IsWritten s ∨ IsSigned s := Color.exists_parse_iff
  have hanswer : (∃ c, Color.parse s = .ok c) ∨ Color.parse s = .error (.invalidColor s) := by
    by_cases h : ∃ c, Color.parse s = .ok c
    · exact .inl h
    · exact .inr (Color.parse_eq_error h)
  refine ⟨⟨?_, fun hsigned => ?_⟩, hread, hanswer, Color.parse?_plus⟩
  · rintro ⟨hwritten, -⟩ hsigned
    exact Color.not_isWritten_of_isSigned hsigned (hwritten.mp (hread.mpr (.inr hsigned)))
  · have hwritten : (∃ c, Color.parse s = .ok c) ↔ IsWritten s :=
      hread.trans (or_iff_left hsigned)
    exact ⟨hwritten, hanswer.imp_left hwritten.mp⟩

/-- A plus sign and five digits are read, though six digits are to stand there. -/
theorem signed_color_read :
    Color.parse "#+12345" = .ok ⟨0xff012345⟩ ∧
    ¬ ((∃ c, Color.parse "#+12345" = .ok c) ↔ IsWritten "#+12345") := by
  have hread : Color.parse "#+12345" = .ok ⟨0xff012345⟩ := by rfl
  have hhex : ∀ c ∈ "12345".toList, Numeral.isHexDigit c := List.all_eq_true.mp (by decide)
  have hsigned : IsSigned "#+12345" := ⟨"12345".toList, rfl, .inl rfl, hhex⟩
  exact ⟨hread, fun hiff => Color.not_isWritten_of_isSigned hsigned (hiff.mp ⟨_, hread⟩)⟩

/-! ## Both ways -/

/-- **A color that is written is read back**, whatever its channels are. And
digits that are read are written as they were, in lower case: eight of
them, or six behind the two of full opacity. -/
theorem colors_round_trip :
    (∀ c : Color, Color.parse c.toText = .ok c) ∧
    ∀ s digits, s.toList = '#' :: digits → (∀ c ∈ digits, Numeral.isHexDigit c) →
      (digits.length = 8 → ∃ c, Color.parse s = .ok c ∧ c.toText = s.map Char.toLower) ∧
      (digits.length = 6 → ∃ c, Color.parse s = .ok c ∧
        c.toText = String.ofList ('#' :: 'f' :: 'f' :: digits.map Char.toLower)) := by
  refine ⟨fun c => ?_, fun s digits hs hhex => ⟨fun hlength => ?_, fun hlength => ?_⟩⟩
  · have hlt : c.argb.toNat < Nat.pow 16 (7 + 1) := c.argb.toNat_lt
    obtain ⟨hpadded, hvalue⟩ := Numeral.value_padded hlt
    have hlength : (Numeral.padded 8 c.argb.toNat).length = 8 :=
      Numeral.length_padded (by decide) hlt
    have hread := Color.parse?_of_length_eight (Color.toList_toText c) hlength hpadded
    rw [hvalue] at hread
    exact Color.parse_eq_ok_iff.mpr (hread.trans (by simp))
  · obtain ⟨c, hread, htext⟩ := Color.exists_parse?_toText hs hlength hhex
    refine ⟨c, Color.parse_eq_ok_iff.mpr hread, String.toList_inj.mp ?_⟩
    rw [htext, String.toList_map, hs]
    rfl
  · have hfront : ∀ c ∈ 'f' :: 'f' :: digits, Numeral.isHexDigit c :=
      List.forall_mem_cons.mpr ⟨rfl, List.forall_mem_cons.mpr ⟨rfl, hhex⟩⟩
    have hlong : ('f' :: 'f' :: digits).length = 8 := by simp [hlength]
    obtain ⟨c, hread, htext⟩ := Color.exists_parse?_toText String.toList_ofList hlong hfront
    rw [← Color.parse?_opaque hs hlength hhex] at hread
    refine ⟨c, Color.parse_eq_ok_iff.mpr hread, String.toList_inj.mp ?_⟩
    rw [htext, String.toList_ofList]
    rfl

/-- Digits of either case, with an opacity and without one. -/
theorem mixed_case_colors_round_trip :
    Color.parse (Color.mk 0x0000fade).toText = .ok ⟨0x0000fade⟩ ∧
    (∃ c, Color.parse "#80Ab4fF0" = .ok c ∧ c.toText = "#80ab4ff0") ∧
    ∃ c, Color.parse "#1A4f8B" = .ok c ∧ c.toText = "#ff1a4f8b" := by
  obtain ⟨hcolors, htexts⟩ := colors_round_trip
  have hlong : ∀ c ∈ "80Ab4fF0".toList, Numeral.isHexDigit c := List.all_eq_true.mp (by decide)
  have hshort : ∀ c ∈ "1A4f8B".toList, Numeral.isHexDigit c := List.all_eq_true.mp (by decide)
  obtain ⟨c, hread, htext⟩ := (htexts "#80Ab4fF0" "80Ab4fF0".toList rfl hlong).1 rfl
  obtain ⟨c', hread', htext'⟩ := (htexts "#1A4f8B" "1A4f8B".toList rfl hshort).2 rfl
  have hlower : "#80Ab4fF0".map Char.toLower = "#80ab4ff0" := by
    refine String.toList_inj.mp ?_
    rw [String.toList_map]
    decide
  exact ⟨hcolors _, ⟨c, hread, htext.trans hlower⟩, c', hread', htext'.trans (by decide)⟩

end StyledMarkdown
