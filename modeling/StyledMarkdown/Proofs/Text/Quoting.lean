import StyledMarkdown.Proofs.Number.Hexadecimal
import StyledMarkdown.Text.Quoted
/-!
# Reading quoted texts back

A character between quotes is written so that it can be read back, and what
follows it begins where it ends. No character begins as the quote does, so
the first bare quote is the closing one: a quoted text tells itself where it
ends, whatever it holds and whatever stands behind it. It keeps to one line.
-/

namespace StyledMarkdown

namespace Text

/-- **A way of writing that says itself where it ends**: what was written,
and what follows, can be told from the whole. -/
def SelfDelimiting {α : Type} (written : α → List Char) : Prop :=
  ∀ a b rest rest', written a ++ rest = written b ++ rest' → a = b ∧ rest = rest'

/-- **Reads a character as it stands between quotes**, and what follows it. -/
def readChar? : List Char → Option (Char × List Char)
  | [] => none
  | '\\' :: '0' :: rest => some ('\x00', rest)
  | '\\' :: 't' :: rest => some ('\t', rest)
  | '\\' :: 'r' :: rest => some ('\r', rest)
  | '\\' :: 'n' :: rest => some ('\n', rest)
  | '\\' :: 'u' :: '\x7b' :: rest =>
    some (Char.ofNat (Numeral.value 16 (rest.takeWhile Numeral.isHexDigit)),
      (rest.dropWhile Numeral.isHexDigit).tail)
  | '\\' :: c :: rest => some (c, rest)
  | c :: rest => some (c, rest)

/-- The quotes in use. -/
def IsQuote (quote : Char) : Prop := quote = '"' ∨ quote = '\''

variable {quote c : Char} {rest rest' : List Char}

/-! ## Characters -/

theorem readChar?_codePoint (c : Char) (rest : List Char) :
    readChar? (codePoint c ++ rest) = some (c, rest) := by
  obtain ⟨hdigits, hvalue⟩ := Numeral.value_toDigits c.toNat
  have htake : (Nat.toDigits 16 c.toNat ++ '\x7d' :: rest).takeWhile Numeral.isHexDigit =
      Nat.toDigits 16 c.toNat := by
    rw [List.takeWhile_append_of_pos hdigits, List.takeWhile_cons_of_neg (by decide),
      List.append_nil]
  have hdrop : (Nat.toDigits 16 c.toNat ++ '\x7d' :: rest).dropWhile Numeral.isHexDigit =
      '\x7d' :: rest := by
    rw [List.dropWhile_append_of_pos hdigits, List.dropWhile_cons_of_neg (by decide)]
  have hread : codePoint c ++ rest =
      '\\' :: 'u' :: '\x7b' :: (Nat.toDigits 16 c.toNat ++ '\x7d' :: rest) := by
    simp [codePoint]
  rw [hread, readChar?, htake, hdrop, hvalue, Char.ofNat_toNat]
  rfl

/-- **A character is read back** from how it is written between quotes. -/
theorem readChar?_escapeChar (hquote : IsQuote quote) (c : Char) (rest : List Char) :
    readChar? (escapeChar quote c ++ rest) = some (c, rest) := by
  -- the cases are those of the character, in the order in which it is looked at
  unfold escapeChar
  split
  · subst c; rfl
  split
  · subst c; rfl
  split
  · subst c; rfl
  split
  · subst c; rfl
  split
  · rename_i h
    have hc : c = '\\' ∨ c = '"' ∨ c = '\'' := by
      rcases hquote with rfl | rfl <;> simp at h <;> tauto
    rcases hc with rfl | rfl | rfl <;> rfl
  split
  · exact readChar?_codePoint c rest
  · rename_i h _
    have hc : c ≠ '\\' := by
      rintro rfl
      simp at h
    rw [List.singleton_append, readChar?]
    all_goals
      intros
      contradiction

theorem escapeChar_selfDelimiting (hquote : IsQuote quote) :
    SelfDelimiting (escapeChar quote) := by
  intro a b rest rest' h
  have hread := congrArg readChar? h
  rw [readChar?_escapeChar hquote, readChar?_escapeChar hquote] at hread
  exact Prod.mk.inj (Option.some.inj hread)

/-- **What stands between quotes for a character**: an escape on one line, or
the character itself, which then is no quote and ends no line. -/
theorem escapeChar_cases (quote c : Char) :
    (∃ tail, escapeChar quote c = '\\' :: tail ∧ '\n' ∉ tail) ∨
      (escapeChar quote c = [c] ∧ c ≠ quote ∧ c ≠ '\n') := by
  unfold escapeChar
  split
  · exact .inl ⟨_, rfl, by decide⟩
  split
  · exact .inl ⟨_, rfl, by decide⟩
  split
  · exact .inl ⟨_, rfl, by decide⟩
  split
  · exact .inl ⟨_, rfl, by decide⟩
  rename_i hline
  split
  · exact .inl ⟨_, rfl, fun h => hline (List.mem_singleton.mp h).symm⟩
  rename_i hother
  split
  · refine .inl ⟨_, rfl, fun h => ?_⟩
    have hdigit : '\n' ∈ Nat.toDigits 16 c.toNat := by simpa using h
    exact absurd ((Numeral.value_toDigits c.toNat).1 _ hdigit) (by decide)
  · have hc : c ≠ '\\' ∧ c ≠ quote := by simpa using hother
    exact .inr ⟨rfl, hc.2, hline⟩

/-- **No character begins as the quote does**, not even the quote itself. -/
theorem escapeChar_append_ne (hquote : IsQuote quote) (c : Char) (rest rest' : List Char) :
    escapeChar quote c ++ rest ≠ quote :: rest' := by
  intro h
  rcases escapeChar_cases quote c with ⟨tail, hescape, -⟩ | ⟨hself, hne, -⟩
  · rw [hescape] at h
    have hslash : quote = '\\' := (List.cons.inj h).1.symm
    rcases hquote with rfl | rfl <;> exact absurd hslash (by decide)
  · rw [hself] at h
    exact hne (List.cons.inj h).1

theorem lineEnd_not_mem_escapeChar (quote c : Char) : '\n' ∉ escapeChar quote c := by
  rcases escapeChar_cases quote c with ⟨tail, hescape, htail⟩ | ⟨hself, -, hne⟩
  · rw [hescape]
    exact List.not_mem_cons_of_ne_of_not_mem (by decide) htail
  · rw [hself]
    exact fun h => hne (List.mem_singleton.mp h).symm

/-! ## Texts -/

/-- **The characters of a text up to the quote** are read back, with what
follows it. -/
theorem escaped_selfDelimiting (hquote : IsQuote quote) :
    SelfDelimiting fun cs : List Char => cs.flatMap (escapeChar quote) ++ [quote] := by
  intro a b rest rest' h
  simp only [List.append_assoc, List.singleton_append] at h
  -- over the first text, character by character, until either comes to its quote
  induction a generalizing b with
  | nil =>
    cases b with
    | nil => exact ⟨rfl, (List.cons.inj h).2⟩
    | cons d b =>
      rw [List.flatMap_cons, List.append_assoc] at h
      exact absurd h.symm (escapeChar_append_ne hquote d _ _)
  | cons c a ih =>
    rw [List.flatMap_cons, List.append_assoc] at h
    cases b with
    | nil => exact absurd h (escapeChar_append_ne hquote c _ _)
    | cons d b =>
      rw [List.flatMap_cons, List.append_assoc] at h
      obtain ⟨rfl, hmore⟩ := escapeChar_selfDelimiting hquote c d _ _ h
      obtain ⟨rfl, hrest⟩ := ih b hmore
      exact ⟨rfl, hrest⟩

/-- **A quoted text tells itself where it ends.** -/
theorem quoted_selfDelimiting : SelfDelimiting fun s : String => (quoted s).toList := by
  intro a b rest rest' h
  simp only [quoted, String.toList_ofList, List.cons_append] at h
  obtain ⟨htext, hrest⟩ := escaped_selfDelimiting (.inl rfl) a.toList b.toList rest rest'
    (List.cons.inj h).2
  exact ⟨String.toList_injective htext, hrest⟩

/-- **And so does a quoted character.** -/
theorem quotedChar_selfDelimiting : SelfDelimiting fun c : Char => (quotedChar c).toList := by
  intro a b rest rest' h
  simp only [quotedChar, String.toList_ofList, List.cons_append, List.append_assoc] at h
  obtain ⟨rfl, hmore⟩ := escapeChar_selfDelimiting (.inr rfl) a b _ _ (List.cons.inj h).2
  exact ⟨rfl, (List.cons.inj hmore).2⟩

theorem lineEnd_not_mem_quoted (s : String) : '\n' ∉ (quoted s).toList := by
  have hescaped : ∀ c ∈ s.toList, '\n' ∉ escapeChar '"' c :=
    fun c _ => lineEnd_not_mem_escapeChar '"' c
  simpa [quoted] using hescaped

theorem lineEnd_not_mem_quotedChar (c : Char) : '\n' ∉ (quotedChar c).toList := by
  have hescaped : '\n' ∉ escapeChar '\'' c := lineEnd_not_mem_escapeChar '\'' c
  simpa [quotedChar] using hescaped

end Text

end StyledMarkdown
