import StyledMarkdown.Proofs.Rendering.Steps
import StyledMarkdown.Proofs.Tree.Items
/-!
# One level of the walk

Every node is rendered alike: something is written before its children
(`opening`), the children are rendered, and something is written and
marked after them (`closing`). `visit_exec_of_ok` says so for every kind
of node at once, so that whatever holds of a rendering is proved of these
two and of the children, and never of the twenty-one kinds.
-/

namespace StyledMarkdown

open RenderM

namespace Node

/-- What a node is to its children. -/
def asParent : Node → Parent
  | document _ => .document
  | blockQuote _ => .blockQuote
  | _ => .other

/-- What a leaf writes. -/
def writing (options : RenderOptions) : Node → String
  | softBreak => if options.softBreaksAsHardBreaks then "\n" else " "
  | hardBreak => "\n"
  | thematicBreak => "---\n"
  | node => node.literal?.getD ""

/-- Whether a node ends the line it stands on. -/
def endsLine (parent : Parent) : Node → Bool
  | heading .. | blockQuote _ | orderedList .. | bulletList .. | listItem _ | htmlBlock _ => true
  | paragraph _ => parent.placement = .outermost
  | _ => false

/-- What a node writes and leaves out of its extent: the line end of a
quote right inside a quote. -/
def lead (parent : Parent) : Node → List Char
  | blockQuote _ => if parent = .blockQuote then ['\n'] else []
  | _ => []

end Node

/-! ## Before the children -/

section Opening

variable (sheet : StyleSheet) (options : RenderOptions) (node : Node) (parent : Parent)
  (s : Rendering)

/-- The prefix that the next item takes. -/
def Rendering.nextPrefix : List Char := (s.lists.nextPrefix?.1.getD "").toList

/-- **What a node writes before its children.** -/
def Node.opens : List Char :=
  match node with
  | .blockQuote _ => node.lead parent
  | .orderedList .. | .bulletList .. => if s.lists.isActive then ['\n'] else []
  | .listItem _ => s.nextPrefix ++ (s.writer.buffer.append s.nextPrefix).missing '\t'
  | _ => (node.writing options).toList

/-- The lists that are open around the children of a node. -/
def Node.enter (lists : ListStack) : ListStack :=
  match node with
  | .orderedList start _ _ => lists.push (.ordered start start (node.largestPrefix?.getD start))
  | .bulletList marker _ => lists.push (.bulleted marker)
  | .listItem _ => lists.nextPrefix?.2
  | _ => lists

/-- Where the extent of a node begins. -/
def Node.start : Nat := s.cursor + Text.size (node.lead parent)

/-- The cursor that a node saves; a document saves none. -/
def Node.saves : List Nat :=
  match node with
  | .document _ => []
  | _ => [node.start parent s]

/-- The marks over the prefix of an item, the latest first. -/
def Node.openingMarks : List Annotation :=
  match node with
  | .listItem _ =>
    let stop := s.cursor + Text.size s.nextPrefix
    let geometry := PrefixGeometry.of sheet s.lists.current?
    [⟨.layout (.listPrefix geometry.digits geometry.digitWidth sheet.listPrefixColor), s.cursor,
        stop⟩,
      ⟨.layout (.absoluteSize sheet.baseFontSize), s.cursor, stop⟩]
  | _ => []

/-- **The state in which the children of a node are rendered.** -/
def opening : Rendering where
  writer :=
    { buffer := s.writer.buffer.append (node.opens options parent s)
      saved := node.saves parent s ++ s.writer.saved
      marks := node.openingMarks sheet s ++ s.writer.marks }
  lists := node.enter s.lists
  extents := s.extents
  depth := s.depth + 1

end Opening

/-! ## After the children -/

section Closing

variable (sheet : StyleSheet) (options : RenderOptions) (node : Node) (parent : Parent)
  (s t : Rendering)

/-- What a node writes after its children. -/
def Node.closes : List Char :=
  if node.endsLine parent then t.writer.buffer.missing '\n' else []

/-- Whether a node gets a span. -/
def Node.isMarked : Bool :=
  match node with
  | .document _ => false
  | .blockQuote _ => parent.placement = .outermost || !options.flattenNestedQuotes
  | _ => true

/-- The span of a node over its extent. -/
def Node.spanMarks (start stop : Nat) : List Annotation :=
  if node.isMarked options parent then
    [⟨.span (sheet.spanFor node parent.placement), start, stop⟩]
  else []

/-- The marks over the parts of an item, the latest first. -/
def partMarks (geometry : PrefixGeometry) (start : Nat) (boundaries : Nat × Option Nat) :
    List Annotation :=
  let margin := geometry.indentation + sheet.listItemContentMargin
  ⟨.layout (.paragraphSpacing sheet.listItemSpacingBefore sheet.listItemSpacingAfter), start,
      boundaries.2.getD boundaries.1⟩ ::
    ((boundaries.2.map fun second =>
        ⟨.layout (.leadingMargin margin margin), boundaries.1, second⟩).toList ++
      [⟨.layout (.tabStop geometry.tabLocation), start, boundaries.1⟩,
        ⟨.layout (.leadingMargin geometry.indentation margin), start, boundaries.1⟩])

/-- The marks over the parts of a node that is an item. -/
def Node.partMarks (buffer : Buffer) (extents : List Extent) : List Annotation :=
  match node with
  | .listItem _ =>
    StyledMarkdown.partMarks sheet (PrefixGeometry.of sheet s.lists.current?) s.cursor
      (itemBoundaries buffer extents s.cursor buffer.size)
  | _ => []

/-- The buffer once a node is rendered whose children end in the state `t`. -/
def Node.closed : Buffer := t.writer.buffer.append (node.closes parent t)

/-- **The state that a node leaves** which was entered in the state `s` and
whose children end in the state `t`. -/
def closing : Rendering where
  writer :=
    { buffer := node.closed parent t
      saved := s.writer.saved
      marks := node.spanMarks sheet options parent (node.start parent s)
          (node.closed parent t).size ++
        (node.partMarks sheet s (node.closed parent t) t.extents ++ t.writer.marks) }
  lists := if node.isList then ⟨t.lists.contexts.tail⟩ else t.lists
  extents :=
    if node.isList then ⟨node.start parent s, (node.closed parent t).size⟩ :: t.extents
    else t.extents
  depth := s.depth

end Closing

/-! ## Spans among the marks -/

section Spans

variable (sheet : StyleSheet) (node : Node) (s : Rendering)

/-- No mark over a prefix is a span. -/
theorem Node.span?_openingMarks : ∀ a ∈ node.openingMarks sheet s, a.span? = none := by
  cases node with
  | listItem => simp [Node.openingMarks, Annotation.span?]
  | _ => exact fun _ ha => absurd ha List.not_mem_nil

theorem span?_partMarks (geometry : PrefixGeometry) (start : Nat)
    (boundaries : Nat × Option Nat) :
    ∀ a ∈ partMarks sheet geometry start boundaries, a.span? = none := by
  obtain ⟨first, _ | second⟩ := boundaries
  · simp [partMarks, Annotation.span?]
  · simp [partMarks, Annotation.span?]

/-- No mark over a part of an item is a span. -/
theorem Node.span?_partMarks (buffer : Buffer) (extents : List Extent) :
    ∀ a ∈ node.partMarks sheet s buffer extents, a.span? = none := by
  cases node with
  | listItem => exact StyledMarkdown.span?_partMarks _ _ _ _
  | _ => exact fun _ ha => absurd ha List.not_mem_nil

/-- The marks over the extent of a node are its span, if it has one. -/
theorem Node.eq_of_mem_spanMarks {sheet : StyleSheet} {options : RenderOptions} {node : Node}
    {parent : Parent} {start stop : Nat} {a : Annotation}
    (h : a ∈ node.spanMarks sheet options parent start stop) :
    a = ⟨.span (sheet.spanFor node parent.placement), start, stop⟩ := by
  unfold Node.spanMarks at h
  split at h
  · exact List.mem_singleton.mp h
  · cases h

end Spans

/-! ## The level as a step -/

section Levels

variable (sheet : StyleSheet) (options : RenderOptions)

/-- What a unit without a rendering of its own form holds: its children or
its text, and a line end behind a block. -/
def inside (node : Node) (parent : Parent) (content : RenderM Unit) : RenderM Unit :=
  match node with
  | .heading _ _ => do
    content
    lineIfNeeded
  | .paragraph _ => do
    content
    if parent.placement = .outermost then lineIfNeeded
  | .htmlBlock literal => do
    write literal
    lineIfNeeded
  | .link .. | .image .. | .emphasis _ | .strong _ | .unsupported .. => content
  | leaf => write (leaf.writing options)

/-- A node rendered around the rendering of its children. -/
def framed (node : Node) (parent : Parent) (content : RenderM Unit) : RenderM Unit :=
  match node with
  | .document _ => content
  | .blockQuote _ => renderQuote sheet options node parent content
  | .orderedList start _ _ =>
    renderList sheet node parent (.ordered start start (node.largestPrefix?.getD start)) content
  | .bulletList marker _ => renderList sheet node parent (.bulleted marker) content
  | .listItem _ => renderItem sheet node parent content
  | _ => spanned sheet node parent (inside options node parent content)

/-- **One level of the walk as a step**, whatever the kind of the node. -/
theorem visit_eq (node : Node) (parent : Parent) :
    visit sheet options node parent = deeper options.maxDepth
      (framed sheet options node parent (visitAll sheet options node.children node.asParent)) := by
  cases node <;> rfl

theorem visitAll_cons (node : Node) (rest : List Node) (parent : Parent) :
    visitAll sheet options (node :: rest) parent = (do
      visit sheet options node parent
      visitAll sheet options rest parent) := rfl

end Levels

/-! ## Balance -/

section Balance

variable {sheet : StyleSheet} {options : RenderOptions} {node : Node} {parent : Parent}
  {content : RenderM Unit}

theorem spanned_balanced (h : Balanced content) : Balanced (spanned sheet node parent content) :=
  (Balanced.enclose fun _ => h).bind fun _ => .setSpan _ _

theorem renderQuote_balanced (h : Balanced content) :
    Balanced (renderQuote sheet options node parent content) := by
  have hquote : Balanced (do
      let start ← enclose fun _ => do
        content
        lineIfNeeded
      if parent.placement = .outermost || !options.flattenNestedQuotes then
        setSpan (sheet.spanFor node parent.placement) start) :=
    .bind (.enclose fun _ => h.bind fun _ => .lineIfNeeded) fun _ =>
      .ite (.setSpan _ _) (.pure _)
  unfold renderQuote
  exact .ite (Balanced.line.bind fun _ => hquote) hquote

/-- The items of a list between its line ends. -/
theorem items_balanced (kind : ListKind) (h : Balanced content) : Balanced (do
    if (← get).lists.isActive then line
    within kind content
    lineIfNeeded) := by
  have hitems : Balanced (do
      within kind content
      lineIfNeeded) := (Balanced.within kind h).bind fun _ => .lineIfNeeded
  exact Balanced.get.bind fun _ => .ite (Balanced.line.bind fun _ => hitems) hitems

theorem renderList_balanced (kind : ListKind) (h : Balanced content) :
    Balanced (renderList sheet node parent kind content) :=
  (Balanced.enclose fun _ => items_balanced kind h).bind fun _ =>
    (Balanced.setSpan _ _).bind fun _ => fun _ => ⟨rfl, rfl, rfl⟩

theorem layOutItem_balanced (geometry : PrefixGeometry) (start : Nat) :
    Balanced (layOutItem sheet geometry start) := by
  unfold layOutItem
  refine Balanced.get.bind fun s => (Balanced.setLayout _ _ _).bind fun _ =>
    (Balanced.setLayout _ _ _).bind fun _ => ?_
  dsimp only
  split
  · exact (Balanced.setLayout _ _ _).bind fun _ => .setLayout _ _ _
  · exact .setLayout _ _ _

/-- The content of an item behind its prefix. -/
theorem prefixed_balanced (first second : Directive) (text : String) (h : Balanced content)
    (start : Nat) : Balanced (do
      write text
      let stop ← cursor
      setLayout first start stop
      setLayout second start stop
      tabIfNeeded
      content
      lineIfNeeded) := by
  have hcursor : Balanced cursor := Rendering.SameNesting.refl
  exact (Balanced.write _).bind fun _ => hcursor.bind fun _ => (Balanced.setLayout _ _ _).bind
    fun _ => (Balanced.setLayout _ _ _).bind fun _ => Balanced.tabIfNeeded.bind fun _ =>
      h.bind fun _ => .lineIfNeeded

theorem renderItem_balanced (h : Balanced content) :
    Balanced (renderItem sheet node parent content) := by
  unfold renderItem
  exact Balanced.get.bind fun _ => Balanced.takePrefix.bind fun _ =>
    (Balanced.enclose fun start => prefixed_balanced _ _ _ h start).bind fun _ =>
      (layOutItem_balanced _ _).bind fun _ => .setSpan _ _

theorem inside_balanced (h : Balanced content) : Balanced (inside options node parent content) := by
  cases node with
  | heading => exact h.bind fun _ => .lineIfNeeded
  | paragraph => exact h.bind fun _ => .ite .lineIfNeeded (.pure _)
  | htmlBlock => exact (Balanced.write _).bind fun _ => .lineIfNeeded
  | link | image | emphasis | strong | unsupported => exact h
  | _ => exact .write _

theorem framed_balanced (h : Balanced content) :
    Balanced (framed sheet options node parent content) := by
  cases node with
  | document => exact h
  | blockQuote => exact renderQuote_balanced h
  | orderedList | bulletList => exact renderList_balanced _ h
  | listItem => exact renderItem_balanced h
  | _ => exact spanned_balanced (inside_balanced h)

theorem visitAll_balanced_of (nodes : List Node)
    (h : ∀ node ∈ nodes, ∀ parent, Balanced (visit sheet options node parent)) (parent : Parent) :
    Balanced (visitAll sheet options nodes parent) := by
  induction nodes with
  | nil => exact .pure ()
  | cons node rest ih =>
    rw [visitAll_cons]
    exact (h node List.mem_cons_self parent).bind fun _ =>
      ih fun node hn => h node (List.mem_cons_of_mem _ hn)

/-- **Every node leaves the nesting as it found it**, whether it can be
rendered or not. -/
theorem visit_balanced (node : Node) : ∀ parent, Balanced (visit sheet options node parent) := by
  -- the steps of a node are balanced around any balanced step, so around its children
  induction node using Node.inductionOn with
  | step node ih =>
    intro parent
    rw [visit_eq]
    exact .deeper _ (framed_balanced (visitAll_balanced_of _ ih _))

theorem visitAll_balanced (nodes : List Node) (parent : Parent) :
    Balanced (visitAll sheet options nodes parent) :=
  visitAll_balanced_of nodes (fun node _ => visit_balanced node) parent

end Balance

end StyledMarkdown
