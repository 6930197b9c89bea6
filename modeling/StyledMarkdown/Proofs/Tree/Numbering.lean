import StyledMarkdown.ListStack
import StyledMarkdown.Proofs.Tree.Items
/-!
# Numbers of items

What stands before an item can be read off the tree: below a bulleted list
the bullet, and below an ordered one the number that the list starts with
and one more for every item before it in the same list. Equal lists may
stand at several places, so it is the address that tells two lists apart.
-/

namespace StyledMarkdown

/-! ## Places in a tree -/

/-- **Where a node stands**: how many siblings stand before it and, further
up, before each node above it. -/
abbrev Address := List Nat

/-- A node with those above it, innermost first, and their addresses. -/
structure Site where
  above : List (Address × Node)
  node : Node

namespace Node

/-- **The nodes of a tree**, in the order of the document. -/
def sites : Node → Address → List (Address × Node) → List Site :=
  fold fun node below address above =>
    ⟨above, node⟩ :: below.zipIdx.flatMap fun (sites, n) =>
      sites (n :: address) ((address, node) :: above)

/-- The nodes of some siblings and below them; `n` siblings stand before
these. -/
def sitesFrom (nodes : List Node) (n : Nat) (address : Address) (above : List (Address × Node)) :
    List Site :=
  (nodes.zipIdx n).flatMap fun (node, n) => node.sites (n :: address) above

theorem sites_eq (node : Node) (address : Address) (above : List (Address × Node)) :
    node.sites address above =
      ⟨above, node⟩ :: sitesFrom node.children 0 address ((address, node) :: above) := by
  unfold sites sitesFrom
  rw [fold_eq, List.zipIdx_map, List.flatMap_map]
  rfl

theorem sitesFrom_nil (n : Nat) (address : Address) (above : List (Address × Node)) :
    sitesFrom [] n address above = [] := rfl

theorem sitesFrom_cons (node : Node) (rest : List Node) (n : Nat) (address : Address)
    (above : List (Address × Node)) : sitesFrom (node :: rest) n address above =
      node.sites (n :: address) above ++ sitesFrom rest (n + 1) address above := by
  unfold sitesFrom
  rw [List.zipIdx_cons, List.flatMap_cons]

theorem filter_isItem_own {node : Node} (h : node.isItem) (above : List (Address × Node)) :
    [Site.mk above node].filter (·.node.isItem) = [⟨above, node⟩] := List.filter_cons_of_pos h

theorem filter_isItem_own_of_not {node : Node} (h : ¬ node.isItem)
    (above : List (Address × Node)) : [Site.mk above node].filter (·.node.isItem) = [] :=
  List.filter_cons_of_neg h

/-- The items of a node are itself, if it is one, and those below it. -/
theorem filter_isItem_sites (node : Node) (address : Address) (above : List (Address × Node)) :
    (node.sites address above).filter (·.node.isItem) =
      [Site.mk above node].filter (·.node.isItem) ++
        (sitesFrom node.children 0 address ((address, node) :: above)).filter (·.node.isItem) := by
  rw [sites_eq, ← List.singleton_append, List.filter_append]

/-- **The items of a tree**, in the order of the document. -/
def items (root : Node) : List Site := (root.sites [0] []).filter (·.node.isItem)

/-- The prefix of an item behind so many others of its list. No number goes
beyond the greatest one there is. -/
def itemPrefix (list : Node) (earlier : Nat) : List Char :=
  match list with
  | orderedList start _ _ =>
    decimal (min (start.val + earlier) (Saturating.greatest : Ordinal).val) ++ ['.']
  | bulletList .. => bullet.toList
  | _ => []

end Node

namespace Site

/-- **The list that an item belongs to**: the innermost one above it. -/
def list? (site : Site) : Option (Address × Node) := site.above.find? (·.2.isList)

/-- Whether an item belongs to the list at an address. -/
def isIn (address : Address) (site : Site) : Bool := site.list?.any (·.1 == address)

/-- The prefix of an item behind the items before it in the document. -/
def listPrefix (item : Site) (earlier : List Site) : List Char :=
  match item.list? with
  | none => []
  | some (address, list) => list.itemPrefix (earlier.countP (isIn address))

theorem isIn_eq {item : Site} {l : Address × Node} (h : item.list? = some l) (address : Address) :
    item.isIn address = (l.1 == address) := by
  unfold isIn
  rw [h]
  rfl

/-- An item counts for the list it belongs to and for no other. -/
theorem countP_append_singleton {item : Site} {l : Address × Node} (h : item.list? = some l)
    (earlier : List Site) (address : Address) :
    (earlier ++ [item]).countP (isIn address) =
      earlier.countP (isIn address) + if l.1 = address then 1 else 0 := by
  rw [List.countP_append, List.countP_singleton, isIn_eq h]
  simp only [beq_iff_eq]

end Site

/-- **The prefixes of the items of a tree**, in the order of the document. -/
def Node.itemPrefixes (root : Node) : List (List Char) :=
  root.items.mapIdx fun n item => item.listPrefix (root.items.take n)

/-! ## Numbering item by item -/

/-- The prefixes of items that stand behind others. -/
def prefixesBehind (earlier : List Site) : List Site → List (List Char)
  | [] => []
  | item :: items => item.listPrefix earlier :: prefixesBehind (earlier ++ [item]) items

section Behind

variable {earlier items more : List Site}

theorem prefixesBehind_append : prefixesBehind earlier (items ++ more) =
    prefixesBehind earlier items ++ prefixesBehind (earlier ++ items) more := by
  induction items generalizing earlier with
  | nil => rw [List.append_nil]; rfl
  | cons item items ih =>
    rw [List.cons_append, prefixesBehind, ih, List.append_assoc, List.singleton_append]
    rfl

theorem prefixesBehind_eq : prefixesBehind earlier items =
    items.mapIdx fun n item => item.listPrefix (earlier ++ items.take n) := by
  induction items generalizing earlier with
  | nil => rfl
  | cons item items ih =>
    rw [prefixesBehind, ih, List.mapIdx_cons]
    simp

end Behind

theorem Node.itemPrefixes_eq (root : Node) : root.itemPrefixes = prefixesBehind [] root.items := by
  rw [prefixesBehind_eq]
  rfl

/-! ## Addresses -/

/-- **The nodes above the siblings at an address**, each inside the next. -/
structure Ancestors (address : Address) (above : List (Address × Node)) : Prop where
  suffix : ∀ l ∈ above, l.1 <:+ address
  pairwise : above.Pairwise fun l l' => l'.1.length < l.1.length

/-- No item of `earlier` belongs to a list among the siblings at an address
behind the first `n`, or to one below them. -/
def Fresh (earlier : List Site) (address : Address) (n : Nat) : Prop :=
  ∀ item ∈ earlier, ∀ l ∈ item.list?, ∀ m, n ≤ m → ¬ (m :: address) <:+ l.1

section Addresses

variable {earlier items : List Site} {address : Address} {above : List (Address × Node)}
  {node : Node} {n : Nat}

theorem Ancestors.down (h : Ancestors address above) (n : Nat) (node : Node) :
    Ancestors (n :: address) ((n :: address, node) :: above) := by
  refine ⟨List.forall_mem_cons.mpr ⟨List.suffix_refl _, fun l hl => ?_⟩,
    List.pairwise_cons.mpr ⟨fun l hl => ?_, h.pairwise⟩⟩
  · exact (h.suffix l hl).trans (List.suffix_cons _ _)
  · exact Nat.lt_succ_of_le (h.suffix l hl).length_le

/-- The innermost of the lists above some siblings stands first among them,
and the others are at other addresses. -/
theorem Ancestors.exists_around (h : Ancestors address above) {l : Address × Node}
    (hl : above.find? (·.2.isList) = some l) :
    ∃ around, above.filter (·.2.isList) = l :: around ∧ ∀ l' ∈ around, l.1 ≠ l'.1 := by
  obtain ⟨around, heq⟩ := List.head?_eq_some_iff.mp (List.head?_filter.trans hl)
  refine ⟨around, heq, fun l' hl' hsame => ?_⟩
  have hpairwise := h.pairwise.filter (·.2.isList)
  rw [heq] at hpairwise
  have hlt := List.rel_of_pairwise_cons hpairwise hl'
  rw [hsame] at hlt
  exact Nat.lt_irrefl _ hlt

/-- Nothing above some siblings lies below one of them. -/
theorem Ancestors.not_suffix (h : Ancestors address above) {l : Address × Node} (hl : l ∈ above)
    (m : Nat) {further : Address} (hle : address.length ≤ further.length) :
    ¬ (m :: further) <:+ l.1 := by
  intro hsuffix
  have hlength := hsuffix.length_le
  have habove := (h.suffix l hl).length_le
  rw [List.length_cons] at hlength
  omega

theorem Fresh.append (h : Fresh earlier address n) (hitems : Fresh items address n) :
    Fresh (earlier ++ items) address n := List.forall_mem_append.mpr ⟨h, hitems⟩

theorem Fresh.down (h : Fresh earlier address n) : Fresh earlier (n :: address) 0 :=
  fun item hitem l hl _ _ hsuffix =>
    h item hitem l hl n (Nat.le_refl n) ((List.suffix_cons _ _).trans hsuffix)

/-- A list that is reached has no items yet. -/
theorem Fresh.countP_eq_zero (h : Fresh earlier address n) :
    earlier.countP (Site.isIn (n :: address)) = 0 := by
  refine List.countP_eq_zero.mpr fun item hitem hin => ?_
  obtain ⟨l, hl, heq⟩ := (Option.any_eq_true ..).mp hin
  exact h item hitem l hl n (Nat.le_refl n) ⟨[], (eq_of_beq heq).symm⟩

/-- The list of a node lies above the siblings it stands among or is one of
them, or is below one. -/
theorem mem_above_or_suffix_of_mem_sites (node : Node) : ∀ address above,
    ∀ site ∈ node.sites address above, ∀ l ∈ site.list?, l ∈ above ∨ address <:+ l.1 := by
  induction node using Node.inductionOn with
  | step node ih =>
    intro address above site hsite l hl
    rw [Node.sites_eq] at hsite
    rcases List.mem_cons.mp hsite with rfl | hsite
    · exact .inl (List.mem_of_find?_eq_some hl)
    · obtain ⟨⟨child, m⟩, hchild, hsite⟩ := List.mem_flatMap.mp hsite
      have hmem : child ∈ node.children := List.fst_mem_of_mem_zipIdx hchild
      rcases ih child hmem _ _ site hsite l hl with habove | hbelow
      · rcases List.mem_cons.mp habove with rfl | habove
        · exact .inr (List.suffix_refl _)
        · exact .inl habove
      · exact .inr ((List.suffix_cons _ _).trans hbelow)

/-- A node among some siblings belongs to a list above them. -/
theorem Ancestors.fresh_own (h : Ancestors address above) (p : Site → Bool) :
    Fresh ([⟨above, node⟩].filter p) (n :: address) 0 := by
  intro item hitem l hl m _
  obtain rfl := List.mem_singleton.mp (List.mem_filter.mp hitem).1
  exact h.not_suffix (List.mem_of_find?_eq_some hl) m (Nat.le_succ _)

/-- The items of a node belong to no list behind it. -/
theorem Ancestors.fresh_sites (h : Ancestors address above) (p : Site → Bool) :
    Fresh ((node.sites (n :: address) above).filter p) address (n + 1) := by
  intro item hitem l hl m hm hsuffix
  have hmem := (List.mem_filter.mp hitem).1
  rcases mem_above_or_suffix_of_mem_sites node _ _ item hmem l hl with habove | hbelow
  · exact h.not_suffix habove m (Nat.le_refl _) hsuffix
  · -- one sibling is not the other
    have heq := (List.suffix_of_suffix_length_le hsuffix hbelow (Nat.le_refl _)).eq_of_length rfl
    have := (List.cons.inj heq).1
    omega

theorem Fresh.next (h : Fresh earlier address n) (ha : Ancestors address above)
    (p : Site → Bool) :
    Fresh (earlier ++ (node.sites (n :: address) above).filter p) address (n + 1) :=
  .append (fun item hitem l hl m hm => h item hitem l hl m (Nat.le_of_succ_le hm))
    (ha.fresh_sites p)

end Addresses

end StyledMarkdown
