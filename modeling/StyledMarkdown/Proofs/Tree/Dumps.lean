import StyledMarkdown.Proofs.Markup.Items
import StyledMarkdown.Proofs.Tree.Descriptions
/-!
# Dumps that tell the tree

A dump has one line for each node that is not too far down, in the order in
which the nodes are entered, and the indentation says how many nodes are
above. So the lines of a node and of those below it end where a line is
indented no further, and a tree that nothing is left out of can be told from
its dump, but for what the lines do not show.
-/

namespace StyledMarkdown

/-! ## Lines -/

namespace Text

/-- The lines of what is left of a text, where `line` is the one that is
open, latest character first. -/
def linesFrom (line : List Char) : List Char → List (List Char)
  | [] => if line.isEmpty then [] else [line.reverse]
  | c :: cs => if c = '\n' then line.reverse :: linesFrom [] cs else linesFrom (c :: line) cs

/-- **The lines of a text**, each without its line end. -/
def lines (text : List Char) : List (List Char) := linesFrom [] text

/-- How many spaces a line begins with. -/
def indentation (line : List Char) : Nat := (line.takeWhile (· = ' ')).length

section Lines

variable {line rest : List Char}

theorem linesFrom_append (hline : '\n' ∉ line) (start rest : List Char) :
    linesFrom start (line ++ '\n' :: rest) = (start.reverse ++ line) :: linesFrom [] rest := by
  induction line generalizing start with
  | nil => rw [List.nil_append, linesFrom, if_pos rfl, List.append_nil]
  | cons c line ih =>
    obtain ⟨hc, hline⟩ := List.ne_and_not_mem_of_not_mem_cons hline
    rw [List.cons_append, linesFrom, if_neg (Ne.symm hc), ih hline, List.reverse_cons,
      List.append_assoc, List.singleton_append]

/-- **Lines that are ended one by one** are the lines of the whole. -/
theorem lines_flatMap {all : List (List Char)} (h : ∀ line ∈ all, '\n' ∉ line) :
    lines (all.flatMap (· ++ ['\n'])) = all := by
  induction all with
  | nil => rfl
  | cons line all ih =>
    obtain ⟨hline, hall⟩ := List.forall_mem_cons.mp h
    have hfirst := linesFrom_append hline [] (all.flatMap (· ++ ['\n']))
    rw [List.flatMap_cons, List.append_assoc, List.singleton_append]
    exact hfirst.trans (congrArg (line :: ·) (ih hall))

/-- A line is indented up to what is no space. -/
theorem indentation_replicate_append (n : Nat) (hrest : ∀ c ∈ rest.head?, c ≠ ' ') :
    indentation (List.replicate n ' ' ++ rest) = n := by
  have hspaces : ∀ c ∈ List.replicate n ' ', decide (c = ' ') = true :=
    fun c hc => decide_eq_true (List.eq_of_mem_replicate hc)
  have hstop : rest.takeWhile (· = ' ') = [] := by
    cases rest with
    | nil => rfl
    | cons c rest => exact List.takeWhile_cons_of_neg (by simpa using hrest c rfl)
  rw [indentation, List.takeWhile_append_of_pos hspaces, hstop, List.append_nil,
    List.length_replicate]

end Lines

end Text

namespace Node

/-! ## What a dump shows -/

/-- **A tree as its dump shows it**: links and images without their titles,
and fences without the marks they are made of. -/
def shown : Node → Node := fold fun node below => node.shownHere.withChildren below

/-- **Whether every node of a tree has a rendering of its own.** -/
def isSupported : Node → Bool := fold fun node below => !node.isUnsupported && below.all id

/-- A node too far down is an ellipsis, and others are described. -/
def entry (depth : Nat) (node : Node) : List Char :=
  if depth = maxDumpDepth then "...".toList else node.describe.toList

/-- **The line of a node** below so many others. -/
def line (depth : Nat) (node : Node) : List Char :=
  List.replicate (2 * depth) ' ' ++ node.entry depth

/-- The lines of a node and of those below it. -/
def lines (depth : Nat) (node : Node) : List (List Char) :=
  (node.dumpLines depth).map String.toList

variable {node a b : Node} {nodes as bs above : List Node} {depth : Nat}
  {rest rest' : List (List Char)}

/-- A tree shows its label over what its children show. -/
theorem shown_eq (node : Node) :
    node.shown = node.label.withChildren (node.children.map shown) := by
  unfold shown
  rw [fold_eq]
  cases node <;> rfl

theorem isSupported_iff : node.isSupported ↔
    ¬ node.isUnsupported ∧ ∀ child ∈ node.children, child.isSupported := by
  unfold isSupported
  rw [fold_eq, Bool.and_eq_true, List.all_map, List.all_eq_true, Bool.not_eq_true',
    Bool.not_eq_true]
  rfl

/-- Every node of such a tree has one, and the other way round. -/
theorem isSupported_iff_inOrder (node : Node) (above : List Node) : node.isSupported ↔
    ∀ v ∈ node.inOrder .entering above, ¬ v.2.isUnsupported := by
  induction node using inductionOn generalizing above with
  | step node ih =>
    rw [isSupported_iff, inOrder_eq]
    constructor
    · rintro ⟨hnode, hchildren⟩ v hv
      rcases Order.mem_arrange.mp hv with rfl | hbelow
      · exact hnode
      · obtain ⟨child, hc, hchild⟩ := List.mem_flatMap.mp hbelow
        exact (ih child hc _).mp (hchildren child hc) v hchild
    · intro h
      refine ⟨h (above, node) (Order.mem_arrange.mpr (.inl rfl)), fun child hc => ?_⟩
      exact (ih child hc (node :: above)).mpr fun v hv =>
        h v (Order.mem_arrange.mpr (.inr (List.mem_flatMap.mpr ⟨child, hc, hv⟩)))

/-! ## The lines of a node -/

theorem ne_space_of_mem_head?_entry (h : ¬ node.isUnsupported) (depth : Nat) :
    ∀ c ∈ (node.entry depth).head?, c ≠ ' ' := by
  unfold entry
  split
  · simp
  · exact ne_space_of_mem_head?_describe h

/-- **A line is indented by two spaces for each node above**, and no further. -/
theorem indentation_line (h : ¬ node.isUnsupported) (depth : Nat) :
    Text.indentation (node.line depth) = 2 * depth :=
  Text.indentation_replicate_append _ (ne_space_of_mem_head?_entry h depth)

theorem lineEnd_not_mem_line (h : ¬ node.isUnsupported) (depth : Nat) :
    '\n' ∉ node.line depth := by
  have hentry : '\n' ∉ node.entry depth := by
    unfold entry
    split
    · simp
    · exact lineEnd_not_mem_describe h
  unfold line
  simp [hentry]

theorem dumpLines_eq (node : Node) (depth : Nat) : node.dumpLines depth =
    if maxDumpDepth ≤ depth then [String.ofList (List.replicate (2 * depth) ' ') ++ "..."]
    else (String.ofList (List.replicate (2 * depth) ' ') ++ node.describe) ::
      node.children.flatMap (dumpLines · (depth + 1)) := by
  unfold dumpLines
  rw [fold_eq]
  dsimp only
  rw [List.flatMap_map]

/-- **The lines of a node are its own and those of its children**, if these
are not left out. -/
theorem lines_eq (h : depth ≤ maxDumpDepth) : node.lines depth = node.line depth ::
    if depth = maxDumpDepth then [] else node.children.flatMap (lines (depth + 1)) := by
  unfold lines line entry
  rw [dumpLines_eq]
  by_cases hdepth : depth = maxDumpDepth
  · simp [hdepth]
  · rw [if_neg (by omega), if_neg hdepth, if_neg hdepth, List.map_cons, List.map_flatMap,
      String.toList_append, String.toList_ofList]

/-- **The lines of a tree are those of its nodes**, in the order in which
they are entered, of all that are not too far down. -/
theorem map_line_inOrder (node : Node) (above : List Node) :
    ((node.inOrder .entering above).filter (·.1.length ≤ maxDumpDepth)).map
        (fun v => v.2.line v.1.length) =
      if above.length ≤ maxDumpDepth then node.lines above.length else [] := by
  induction node using inductionOn generalizing above with
  | step node ih =>
    have hchildren : ((node.children.flatMap (inOrder .entering · (node :: above))).filter
        (·.1.length ≤ maxDumpDepth)).map (fun v => v.2.line v.1.length) =
          if above.length + 1 ≤ maxDumpDepth then
            node.children.flatMap (lines (above.length + 1)) else [] := by
      rw [List.filter_flatMap, List.map_flatMap, List.flatMap_congr fun child hc => ih child hc _,
        List.length_cons]
      split
      · rfl
      · exact List.flatMap_eq_nil_iff.mpr fun _ _ => rfl
    rw [inOrder_eq, Order.arrange]
    -- at the last depth the node itself is kept, and its children are not
    by_cases habove : above.length ≤ maxDumpDepth
    · rw [List.filter_cons_of_pos (by simpa using habove), List.map_cons, hchildren,
        if_pos habove, lines_eq habove]
      by_cases hlast : above.length = maxDumpDepth
      · rw [if_pos hlast, if_neg (by omega)]
      · rw [if_neg hlast, if_pos (by omega)]
    · rw [List.filter_cons_of_neg (by simpa using habove), hchildren, if_neg (by omega),
        if_neg habove]

theorem toList_dump (node : Node) : node.dump.toList = (node.lines 0).flatMap (· ++ ['\n']) := by
  have hfold : ∀ (lines : List String) (text : String),
      (lines.foldl (fun text line => text ++ line ++ "\n") text).toList =
        text.toList ++ (lines.map String.toList).flatMap (· ++ ['\n']) := by
    intro lines
    induction lines with
    | nil => simp
    | cons line lines ih =>
      intro text
      rw [List.foldl_cons, ih]
      simp
  exact hfold _ ""

/-- **The lines of a dump** are those of its root. -/
theorem lines_dump (h : node.isSupported) : Text.lines node.dump.toList = node.lines 0 := by
  have hmap := node.map_line_inOrder []
  rw [List.length_nil, if_pos (Nat.zero_le _)] at hmap
  rw [toList_dump]
  refine Text.lines_flatMap fun line hline => ?_
  rw [← hmap] at hline
  obtain ⟨v, hv, rfl⟩ := List.mem_map.mp hline
  exact lineEnd_not_mem_line
    ((isSupported_iff_inOrder node []).mp h v (List.mem_of_mem_filter hv)) _

/-! ## What is not shown -/

theorem describe_shownHere (node : Node) : node.shownHere.describe = node.describe := by
  cases node <;> rfl

theorem describe_withChildren (node : Node) (nodes : List Node) :
    (node.withChildren nodes).describe = node.describe := by
  cases node <;> rfl

theorem describe_shown (node : Node) : node.shown.describe = node.describe := by
  rw [shown_eq, label, describe_withChildren, describe_withChildren, describe_shownHere]

theorem children_shown (node : Node) : node.shown.children = node.children.map shown := by
  rw [shown_eq]
  cases node <;> rfl

theorem dumpLines_shown (node : Node) (depth : Nat) :
    node.shown.dumpLines depth = node.dumpLines depth := by
  induction node using inductionOn generalizing depth with
  | step node ih =>
    rw [dumpLines_eq, dumpLines_eq node, describe_shown, children_shown, List.flatMap_map,
      List.flatMap_congr fun child hc => ih child hc (depth + 1)]

/-- **What is not shown makes no difference** to a dump. -/
theorem dump_shown (node : Node) : node.shown.dump = node.dump := by
  rw [dump, dumpLines_shown, dump]

/-! ## Trees that stand in a dump in full -/

/-- **Whether nothing is left out of the lines of a node** below so many
others: each node has a rendering, and none is too far down. -/
structure InFull (depth : Nat) (node : Node) : Prop where
  supported : node.isSupported
  fits : depth + node.height ≤ maxDumpDepth

/-- What follows the lines of a node below so many others is not below it. -/
def Shallow (depth : Nat) (rest : List (List Char)) : Prop :=
  ∀ line ∈ rest.head?, Text.indentation line ≤ 2 * depth

namespace InFull

theorem child (h : node.InFull depth) : ∀ child ∈ node.children, child.InFull (depth + 1) :=
  fun child hc => ⟨(isSupported_iff.mp h.supported).2 child hc,
    (node.add_height_le_iff.mp h.fits).2 child hc⟩

theorem lines_eq (h : node.InFull depth) : node.lines depth =
    node.line depth :: node.children.flatMap (lines (depth + 1)) := by
  have hdepth := (node.add_height_le_iff.mp h.fits).1
  rw [Node.lines_eq (Nat.le_of_lt hdepth), if_neg (Nat.ne_of_lt hdepth)]

theorem indentation_line (h : node.InFull depth) :
    Text.indentation (node.line depth) = 2 * depth :=
  Node.indentation_line (isSupported_iff.mp h.supported).1 depth

/-- A line tells the label of its node. -/
theorem label_eq_of_line_eq (ha : a.InFull depth) (hb : b.InFull depth)
    (h : a.line depth = b.line depth) : a.label = b.label := by
  have hdepth := Nat.ne_of_lt (a.add_height_le_iff.mp ha.fits).1
  rw [line, line, entry, entry, if_neg hdepth, if_neg hdepth] at h
  exact label_eq_of_describe_eq (isSupported_iff.mp ha.supported).1
    (isSupported_iff.mp hb.supported).1 (List.append_cancel_left h)

/-- Lines that go on with a node further down go on below. -/
theorem not_shallow (h : node.InFull (depth + 1)) :
    ¬ Shallow depth (node.lines (depth + 1) ++ rest) := by
  intro hshallow
  have hle := hshallow (node.line (depth + 1)) (by rw [h.lines_eq]; rfl)
  rw [h.indentation_line] at hle
  omega

/-- Lines that go on with a sibling do not go on below. -/
theorem shallow_append (h : ∀ node ∈ nodes, node.InFull depth) (hrest : Shallow depth rest) :
    Shallow depth (nodes.flatMap (lines depth) ++ rest) := by
  cases nodes with
  | nil => exact hrest
  | cons node nodes =>
    intro line hline
    have hnode := h node List.mem_cons_self
    rw [List.flatMap_cons, hnode.lines_eq] at hline
    obtain rfl := Option.some.inj hline
    exact Nat.le_of_eq hnode.indentation_line

end InFull

theorem Shallow.succ (h : Shallow depth rest) : Shallow (depth + 1) rest :=
  fun line hline => Nat.le_trans (h line hline) (by omega)

/-- **Whether a node is told by its lines**, whatever follows these: another
node with the same lines shows the same, and then the same follows. -/
def Told (depth : Nat) (a : Node) : Prop :=
  ∀ ⦃b : Node⦄ ⦃rest rest'⦄, b.InFull depth → Shallow depth rest → Shallow depth rest' →
    a.lines depth ++ rest = b.lines depth ++ rest' → a.shown = b.shown ∧ rest = rest'

/-- **Siblings are told by their lines** if each of them is: the next line
belongs to another sibling as long as it is indented further than what
follows them all. -/
theorem shown_of_flatMap_lines (htold : ∀ a ∈ as, a.Told (depth + 1))
    (has : ∀ a ∈ as, a.InFull (depth + 1)) (hbs : ∀ b ∈ bs, b.InFull (depth + 1))
    (hrest : Shallow depth rest) (hrest' : Shallow depth rest')
    (h : as.flatMap (lines (depth + 1)) ++ rest = bs.flatMap (lines (depth + 1)) ++ rest') :
    as.map shown = bs.map shown ∧ rest = rest' := by
  induction as generalizing bs with
  | nil =>
    cases bs with
    | nil => exact ⟨rfl, h⟩
    | cons b bs =>
      -- what follows would begin with the line of a sibling
      rw [List.flatMap_nil, List.nil_append, List.flatMap_cons, List.append_assoc] at h
      exact absurd (h ▸ hrest) (hbs b List.mem_cons_self).not_shallow
  | cons a as ih =>
    obtain ⟨ha, has⟩ := List.forall_mem_cons.mp has
    obtain ⟨htolda, htold⟩ := List.forall_mem_cons.mp htold
    cases bs with
    | nil =>
      rw [List.flatMap_nil, List.nil_append, List.flatMap_cons, List.append_assoc] at h
      exact absurd (h ▸ hrest') ha.not_shallow
    | cons b bs =>
      obtain ⟨hb, hbs⟩ := List.forall_mem_cons.mp hbs
      rw [List.flatMap_cons, List.append_assoc, List.flatMap_cons, List.append_assoc] at h
      obtain ⟨hshown, hmore⟩ := htolda hb (InFull.shallow_append has hrest.succ)
        (InFull.shallow_append hbs hrest'.succ) h
      obtain ⟨hall, hend⟩ := ih htold has hbs hmore
      exact ⟨by rw [List.map_cons, List.map_cons, hshown, hall], hend⟩

/-- **A node that stands in a dump in full is told by its lines.** -/
theorem InFull.told (h : a.InFull depth) : a.Told depth := by
  induction a using inductionOn generalizing depth with
  | step a ih =>
    intro b rest rest' hb hrest hrest' hlines
    rw [h.lines_eq, hb.lines_eq, List.cons_append, List.cons_append] at hlines
    obtain ⟨hline, hbelow⟩ := List.cons.inj hlines
    have htold : ∀ child ∈ a.children, child.Told (depth + 1) :=
      fun child hc => ih child hc (h.child child hc)
    obtain ⟨hchildren, hend⟩ :=
      shown_of_flatMap_lines htold h.child hb.child hrest hrest' hbelow
    exact ⟨by rw [shown_eq, shown_eq, h.label_eq_of_line_eq hb hline, hchildren], hend⟩

/-- Trees that stand in a dump in full show the same if they have the same dump. -/
theorem shown_eq_of_dump_eq (ha : a.InFull 0) (hb : b.InFull 0) (h : a.dump = b.dump) :
    a.shown = b.shown := by
  have hlines : a.lines 0 ++ [] = b.lines 0 ++ [] := by
    rw [← lines_dump ha.supported, h, lines_dump hb.supported]
  have hnothing : Shallow 0 [] := nofun
  exact (ha.told hb hnothing hnothing hlines).1

/-! ## Documents -/

end Node

/-- The nodes built from regular events have renderings of their own. -/
theorem Regular.isSupported_ofEvents {admits : Tag → Event → Prop} {events : List Event}
    (h : Regular admits false events) (limit : Nat) :
    (Node.ofEvents events limit).isSupported :=
  (Node.isSupported_iff_inOrder _ []).mpr fun _ hv => (h.shape_ofEvents hv).2.supported

/-- And so have those of a text of markdown. -/
theorem ofMarkdown_isSupported (text : String) (limit : Nat) :
    (Node.ofMarkdown text limit).isSupported := by
  unfold Node.ofMarkdown
  exact (Markup.events_regular text).isSupported_ofEvents limit

/-- **A dump tells the tree**, as long as every node has a rendering of its
own, which is so for each tree that is built from regular events. The lines
are those of the nodes with at most `maxDumpDepth` others above them, in the
order in which they are entered: each is indented by two spaces for each node
above, and describes the node, or is an ellipsis if the node is as far down
as that. And two trees that are not too high have the same dump just if they
are the same but for the titles of links and images and the marks that
fences are made of. -/
theorem dump_tells_tree (a b : Node) (ha : a.isSupported) (hb : b.isSupported) :
    (∀ events limit, RegularEvents events → (Node.ofEvents events limit).isSupported) ∧
      List.Forall₂ (fun line v => Text.indentation line = 2 * v.1.length ∧
          line.drop (2 * v.1.length) =
            if v.1.length = maxDumpDepth then "...".toList else v.2.describe.toList)
        (Text.lines a.dump.toList)
        ((a.inOrder .entering []).filter (·.1.length ≤ maxDumpDepth)) ∧
      (a.height ≤ maxDumpDepth → b.height ≤ maxDumpDepth →
        (a.dump = b.dump ↔ a.shown = b.shown)) := by
  refine ⟨fun _ limit hevents => hevents.isSupported_ofEvents limit, ?_,
    fun hha hhb => ⟨?_, fun h => ?_⟩⟩
  · have hlines := Node.lines_dump ha
    have hmap := a.map_line_inOrder []
    rw [List.length_nil, if_pos (Nat.zero_le _)] at hmap
    rw [hlines, ← hmap, List.forall₂_map_left_iff, List.forall₂_same]
    intro v hv
    refine ⟨Node.indentation_line ?_ _, ?_⟩
    · exact (Node.isSupported_iff_inOrder a []).mp ha v (List.mem_of_mem_filter hv)
    · exact List.drop_left' List.length_replicate
  · exact Node.shown_eq_of_dump_eq ⟨ha, by omega⟩ ⟨hb, by omega⟩
  · rw [← a.dump_shown, h, b.dump_shown]

/-- A link with a title and one without: their documents are told apart by
nothing else, so their dumps are the same. -/
theorem titled_link_told :
    let titled := Node.document [.paragraph [.link "x.com" (some "t") [.text "a"]]]
    let plain := Node.document [.paragraph [.link "x.com" none [.text "a"]]]
    titled.isSupported ∧ plain.isSupported ∧
      titled.height ≤ maxDumpDepth ∧ plain.height ≤ maxDumpDepth ∧ titled.shown = plain ∧
      (Text.lines titled.dump.toList).map Text.indentation = [0, 2, 4, 6] ∧
      List.Forall₂ (fun line v => Text.indentation line = 2 * v.1.length ∧
          line.drop (2 * v.1.length) =
            if v.1.length = maxDumpDepth then "...".toList else v.2.describe.toList)
        (Text.lines titled.dump.toList)
        ((titled.inOrder .entering []).filter (·.1.length ≤ maxDumpDepth)) ∧
      titled.dump = plain.dump := by
  intro titled plain
  obtain ⟨-, hlines, htold⟩ := dump_tells_tree titled plain rfl rfl
  exact ⟨rfl, rfl, by decide, by decide, rfl, by decide +kernel, hlines,
    (htold (by decide) (by decide)).mpr rfl⟩

end StyledMarkdown
