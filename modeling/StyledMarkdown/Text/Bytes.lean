/-!
# Byte offsets

Positions in a text are counted in the bytes of its UTF-8 form. An offset
is a boundary when some first part of the text has that many bytes, and
only boundaries cut a text: `slice?` has no answer between them.
-/

namespace StyledMarkdown.Text

/-- The number of bytes of a text. -/
def size : List Char → Nat
  | [] => 0
  | c :: cs => c.utf8Size + size cs

@[simp] theorem size_nil : size [] = 0 := rfl

@[simp] theorem size_cons (c : Char) (cs : List Char) : size (c :: cs) = c.utf8Size + size cs := rfl

@[simp] theorem size_append (s t : List Char) : size (s ++ t) = size s + size t := by
  induction s with
  | nil => simp
  | cons c s ih => simp [ih, Nat.add_assoc]

@[simp] theorem size_reverse (s : List Char) : size s.reverse = size s := by
  induction s with
  | nil => rfl
  | cons c s ih => simp [ih, Nat.add_comm]

/-- Splits a text after `n` bytes, when that is a boundary. -/
def split? : Nat → List Char → Option (List Char × List Char)
  | 0, cs => some ([], cs)
  | _ + 1, [] => none
  | n + 1, c :: cs =>
    if c.utf8Size ≤ n + 1 then
      (split? (n + 1 - c.utf8Size) cs).map fun (first, rest) => (c :: first, rest)
    else none

/-- **The part of a text from one offset to another**, when both are
boundaries in order. -/
def slice? (cs : List Char) (start stop : Nat) : Option (List Char) :=
  if start ≤ stop then do
    let (_, rest) ← split? start cs
    let (part, _) ← split? (stop - start) rest
    return part
  else none

/-- The two parts make up the text, and the first has the bytes asked for. -/
theorem split?_eq_some {n : Nat} {cs first rest : List Char}
    (h : split? n cs = some (first, rest)) : cs = first ++ rest ∧ size first = n := by
  fun_induction split? n cs generalizing first rest with
  | case1 cs => simp_all
  | case2 n => simp at h
  | case3 n c cs fits ih =>
    simp only [Option.map_eq_some_iff, Prod.mk.injEq] at h
    obtain ⟨⟨f, r⟩, hs, rfl, rfl⟩ := h
    obtain ⟨hcs, hsize⟩ := ih hs
    refine ⟨by simp [hcs], ?_⟩
    simp only [size_cons, hsize]
    omega
  | case4 => simp at h

end StyledMarkdown.Text
