import StyledMarkdown.Proofs.Rendering.Position
/-!
# Visits

A rendering that succeeds visits every node of the tree once, between the
state in which the node is entered and the one in which it is left. The
visits are listed in either order: as the nodes are entered, which is the
order of the document, or as they are left. What lies between two visits
is a matter of texts: a visit comes behind another one or lies below it.
-/

namespace StyledMarkdown

open RenderM

/-! ## Orders of a tree -/

/-- Whether a node is listed as it is entered, before the nodes below it,
or as it is left, behind them. -/
inductive Order where
  | entering
  | leaving

namespace Order

variable {α β : Type} {order : Order} {a b : α} {below : List α}

/-- A node with those below it. -/
def arrange (order : Order) (a : α) (below : List α) : List α :=
  match order with
  | entering => a :: below
  | leaving => below ++ [a]

theorem mem_arrange : b ∈ order.arrange a below ↔ b = a ∨ b ∈ below := by
  cases order with
  | entering => exact List.mem_cons
  | leaving => rw [arrange, List.mem_append, List.mem_singleton, or_comm]

theorem map_arrange (f : α → β) :
    (order.arrange a below).map f = order.arrange (f a) (below.map f) := by
  cases order with
  | entering => rfl
  | leaving => exact List.map_append

end Order

namespace Node

/-- **The nodes of a tree in an order**, each with the nodes above it,
innermost first. -/
def inOrder (order : Order) : Node → List Node → List (List Node × Node) :=
  fold fun node below above => order.arrange (above, node) (below.flatMap (· (node :: above)))

theorem inOrder_eq (order : Order) (node : Node) (above : List Node) :
    node.inOrder order above = order.arrange (above, node)
      (node.children.flatMap (inOrder order · (node :: above))) := by
  unfold inOrder
  rw [fold_eq, List.flatMap_map]

theorem sizeOf_children_le (node : Node) : sizeOf node.children ≤ sizeOf node := by
  cases node with
  | fencedCode =>
    simp only [children, fencedCode.sizeOf_spec, List.nil.sizeOf_spec]
    omega
  | _ => simp [children]

end Node

/-! ## The visits of a rendering -/

/-- **A node as it is rendered**: the nodes above it, innermost first, and
the states in which it is entered and left. -/
structure Visit where
  above : List Node
  node : Node
  before : Rendering
  after : Rendering

namespace Visit

variable (v : Visit)

/-- What the node stands in. -/
def parent : Parent := parentOf v.above

/-- Where the extent of the node begins. -/
def start : Nat := v.node.start v.parent v.before

/-- Where the node ends. -/
def stop : Nat := v.after.cursor

end Visit

section Visits

variable (sheet : StyleSheet) (options : RenderOptions) (order : Order)

/-- **The visits of siblings** and of the nodes below them, from the state
in which the first of them is entered. -/
def visits : List Node → List Node → Rendering → List Visit
  | [], _, _ => []
  | node :: rest, above, s =>
    let after := ((visit sheet options node (parentOf above)).exec s).2
    order.arrange ⟨above, node, s, after⟩
        (visits node.children (node :: above) (opening sheet options node (parentOf above) s)) ++
      visits rest above after
termination_by nodes => sizeOf nodes
decreasing_by
  · have := node.sizeOf_children_le
    simp only [List.cons.sizeOf_spec]
    omega
  · simp only [List.cons.sizeOf_spec]
    omega

/-- The visits of the nodes below the one visited. -/
def Visit.below (v : Visit) : List Visit :=
  visits sheet options order v.node.children (v.node :: v.above)
    (opening sheet options v.node v.parent v.before)

end Visits

section Nodes

variable {sheet : StyleSheet} {options : RenderOptions} {order : Order} {node : Node}
  {nodes rest above : List Node} {s t : Rendering} {v w : Visit}

theorem visits_cons : visits sheet options order (node :: rest) above s =
    order.arrange ⟨above, node, s, ((visit sheet options node (parentOf above)).exec s).2⟩
        (visits sheet options order node.children (node :: above)
          (opening sheet options node (parentOf above) s)) ++
      visits sheet options order rest above
        ((visit sheet options node (parentOf above)).exec s).2 := by
  rw [visits]

/-- A node is visited before the nodes below it and those behind it. -/
theorem mem_visits_cons : v ∈ visits sheet options order (node :: rest) above s ↔
    (v = ⟨above, node, s, ((visit sheet options node (parentOf above)).exec s).2⟩ ∨
      v ∈ visits sheet options order node.children (node :: above)
        (opening sheet options node (parentOf above) s)) ∨
    v ∈ visits sheet options order rest above
      ((visit sheet options node (parentOf above)).exec s).2 := by
  rw [visits_cons, List.mem_append, Order.mem_arrange]

/-- **Every node is visited once**, in the order of the tree. -/
theorem map_visits (nodes above : List Node) (s : Rendering) :
    (visits sheet options order nodes above s).map (fun v => (v.above, v.node)) =
      nodes.flatMap (Node.inOrder order · above) := by
  induction nodes, above, s using visits.induct sheet options with
  | case1 => rw [visits]; rfl
  | case2 node rest above s after ihbelow ihrest =>
    rw [visits_cons, List.map_append, Order.map_arrange, ihbelow, ihrest, List.flatMap_cons,
      Node.inOrder_eq]

theorem map_visits_singleton (sheet : StyleSheet) (options : RenderOptions) (node : Node)
    (above : List Node) (s : Rendering) :
    (visits sheet options order [node] above s).map (fun v => (v.above, v.node)) =
      node.inOrder order above := by
  rw [map_visits, List.flatMap_singleton]

/-- The visits are the same in both orders. -/
theorem mem_visits_iff (order' : Order) (nodes above : List Node) (s : Rendering) :
    v ∈ visits sheet options order nodes above s ↔
      v ∈ visits sheet options order' nodes above s := by
  induction nodes, above, s using visits.induct sheet options with
  | case1 => rw [visits, visits]
  | case2 node rest above s after ihbelow ihrest =>
    rw [mem_visits_cons, mem_visits_cons, ihbelow, ihrest]

end Nodes

/-! ## Visits on a walk -/

section Walks

variable {sheet : StyleSheet} {options : RenderOptions} {order : Order} {root node : Node}
  {nodes rest above : List Node} {s t : Rendering} {v w : Visit}

/-- **Induction along a walk** that keeps the nodes above. -/
theorem Walk.inductionAbove
    {motive : ∀ nodes above s t, Walk sheet options nodes (parentOf above) s t → Prop}
    (nil : ∀ above s, motive [] above s s (.nil _ s))
    (cons : ∀ node rest above s t u (hdepth : s.depth < options.maxDepth)
      (below : Walk sheet options node.children (parentOf (node :: above))
        (opening sheet options node (parentOf above) s) t)
      (after : Walk sheet options rest (parentOf above)
        (closing sheet options node (parentOf above) s t) u),
      motive _ _ _ _ below → motive _ _ _ _ after →
        motive (node :: rest) above s u (.cons hdepth below after))
    {nodes above : List Node} {s t : Rendering}
    (h : Walk sheet options nodes (parentOf above) s t) : motive nodes above s t h := by
  have hall : ∀ parent, Walk sheet options nodes parent s t → ∀ above,
      parentOf above = parent → ∀ h, motive nodes above s t h := by
    clear h
    intro parent hwalk
    induction hwalk with
    | nil =>
      rintro above rfl -
      exact nil _ _
    | cons hdepth below after ihbelow ihafter =>
      rintro above rfl -
      exact cons _ _ _ _ _ _ hdepth below after (ihbelow (_ :: above) rfl below)
        (ihafter above rfl after)
  exact hall _ h above rfl h

/-- The visits on a walk over a node and those behind it. -/
theorem visits_cons_of_walk (hdepth : s.depth < options.maxDepth)
    (below : Walk sheet options node.children node.asParent
      (opening sheet options node (parentOf above) s) t) :
    visits sheet options order (node :: rest) above s =
      order.arrange ⟨above, node, s, closing sheet options node (parentOf above) s t⟩
          (visits sheet options order node.children (node :: above)
            (opening sheet options node (parentOf above) s)) ++
        visits sheet options order rest above
          (closing sheet options node (parentOf above) s t) := by
  rw [visits_cons, visit_exec_of_ok hdepth below.exec]

theorem mem_visits_cons_of_walk (hdepth : s.depth < options.maxDepth)
    (below : Walk sheet options node.children node.asParent
      (opening sheet options node (parentOf above) s) t) :
    v ∈ visits sheet options order (node :: rest) above s ↔
      (v = ⟨above, node, s, closing sheet options node (parentOf above) s t⟩ ∨
        v ∈ visits sheet options order node.children (node :: above)
          (opening sheet options node (parentOf above) s)) ∨
      v ∈ visits sheet options order rest above
        (closing sheet options node (parentOf above) s t) := by
  rw [visits_cons_of_walk hdepth below, List.mem_append, Order.mem_arrange]

/-- **A visit is a walk below a node** with what the node adds around it. -/
theorem Walk.exists_of_mem_visits (h : Walk sheet options nodes (parentOf above) s t)
    (hv : v ∈ visits sheet options order nodes above s) :
    v.before.depth < options.maxDepth ∧ ∃ u,
      Walk sheet options v.node.children (parentOf (v.node :: v.above))
        (opening sheet options v.node v.parent v.before) u ∧
      v.after = closing sheet options v.node v.parent v.before u := by
  induction h using Walk.inductionAbove with
  | nil =>
    rw [visits] at hv
    cases hv
  | cons node rest above s t u hdepth below after ihbelow ihafter =>
    rcases (mem_visits_cons_of_walk hdepth below).mp hv with (rfl | hv) | hv
    · exact ⟨hdepth, t, below, rfl⟩
    · exact ihbelow hv
    · exact ihafter hv

theorem Walk.exec_of_mem_visits (h : Walk sheet options nodes (parentOf above) s t)
    (hv : v ∈ visits sheet options order nodes above s) :
    (visit sheet options v.node v.parent).exec v.before = (.ok (), v.after) := by
  obtain ⟨hdepth, u, hbelow, hafter⟩ := h.exists_of_mem_visits hv
  rw [hafter]
  exact visit_exec_of_ok hdepth hbelow.exec

theorem text_isPrefix_opening (sheet : StyleSheet) (options : RenderOptions) (node : Node)
    (parent : Parent) (s : Rendering) :
    s.text <+: (opening sheet options node parent s).text := by
  rw [text_opening]
  exact List.prefix_append _ _

theorem text_isPrefix_closing (sheet : StyleSheet) (options : RenderOptions) (node : Node)
    (parent : Parent) (s t : Rendering) :
    t.text <+: (closing sheet options node parent s t).text := by
  rw [text_closing]
  exact List.prefix_append _ _

/-- A visit goes on from a text that the walk has written, and the walk from
the text that the visit leaves. -/
theorem Walk.text_visits (h : Walk sheet options nodes (parentOf above) s t)
    (hv : v ∈ visits sheet options order nodes above s) :
    s.text <+: v.before.text ∧ v.after.text <+: t.text := by
  induction h using Walk.inductionAbove with
  | nil =>
    rw [visits] at hv
    cases hv
  | cons node rest above s t u hdepth below after ihbelow ihafter =>
    have hopening := text_isPrefix_opening sheet options node (parentOf above) s
    have hclosing := text_isPrefix_closing sheet options node (parentOf above) s t
    rcases (mem_visits_cons_of_walk hdepth below).mp hv with (rfl | hv) | hv
    · exact ⟨List.prefix_refl _, after.text_isPrefix⟩
    · obtain ⟨hbefore, hafter⟩ := ihbelow hv
      exact ⟨hopening.trans hbefore, hafter.trans (hclosing.trans after.text_isPrefix)⟩
    · obtain ⟨hbefore, hafter⟩ := ihafter hv
      exact ⟨hopening.trans (below.text_isPrefix.trans (hclosing.trans hbefore)), hafter⟩

/-- What lies below a visit is written between its prefix and its end. -/
theorem Walk.text_below (h : Walk sheet options nodes (parentOf above) s t)
    (hw : w ∈ visits sheet options order nodes above s) (hv : v ∈ w.below sheet options order) :
    (opening sheet options w.node w.parent w.before).text <+: v.before.text ∧
      v.after.text <+: w.after.text := by
  obtain ⟨-, u, hbelow, hafter⟩ := h.exists_of_mem_visits hw
  obtain ⟨hv, hu⟩ := hbelow.text_visits hv
  rw [hafter]
  exact ⟨hv, hu.trans (text_isPrefix_closing _ _ _ _ _ _)⟩

/-- A visit only adds to the text. -/
theorem Walk.text_visit (h : Walk sheet options nodes (parentOf above) s t)
    (hv : v ∈ visits sheet options order nodes above s) : v.before.text <+: v.after.text :=
  (walk_singleton_iff_exec.mpr (h.exec_of_mem_visits hv)).text_isPrefix

/-! ## Visits below and behind each other -/

/-- **What lies below a visit is visited**, in the same order. -/
theorem below_sublist (hv : v ∈ visits sheet options order nodes above s) :
    (v.below sheet options order).Sublist (visits sheet options order nodes above s) := by
  induction nodes, above, s using visits.induct sheet options with
  | case1 =>
    rw [visits] at hv
    cases hv
  | case2 node rest above s after ihbelow ihrest =>
    rw [visits_cons]
    have hnode : ∀ inner : List Visit, inner.Sublist
        (order.arrange ⟨above, node, s, after⟩ inner) := by
      intro inner
      cases order with
      | entering => exact List.sublist_cons_self _ _
      | leaving => exact List.sublist_append_left _ _
    rcases mem_visits_cons.mp hv with (rfl | hv) | hv
    · exact (hnode _).trans (List.sublist_append_left _ _)
    · exact ((ihbelow hv).trans (hnode _)).trans (List.sublist_append_left _ _)
    · exact (ihrest hv).trans (List.sublist_append_right _ _)

theorem mem_visits_of_mem_below (hw : w ∈ visits sheet options order nodes above s)
    (hv : v ∈ w.below sheet options order) : v ∈ visits sheet options order nodes above s :=
  (below_sublist hw).subset hv

/-- The nodes above a walk are above all its visits. -/
theorem above_isSuffix (hv : v ∈ visits sheet options order nodes above s) : above <:+ v.above := by
  induction nodes, above, s using visits.induct sheet options with
  | case1 =>
    rw [visits] at hv
    cases hv
  | case2 node rest above s after ihbelow ihrest =>
    rcases mem_visits_cons.mp hv with (rfl | hv) | hv
    · exact List.suffix_refl _
    · exact (List.suffix_cons _ _).trans (ihbelow hv)
    · exact ihrest hv

/-- **The node right above a visit is visited**, unless the walk began below
it. -/
theorem exists_visit_above (hv : v ∈ visits sheet options order nodes above s) :
    v.above = above ∨ ∃ u ∈ visits sheet options order nodes above s,
      v.above = u.node :: u.above ∧ v ∈ u.below sheet options order := by
  induction nodes, above, s using visits.induct sheet options with
  | case1 =>
    rw [visits] at hv
    cases hv
  | case2 node rest above s after ihbelow ihrest =>
    simp only [mem_visits_cons] at hv ⊢
    rcases hv with (rfl | hv) | hv
    · exact .inl rfl
    · rcases ihbelow hv with habove | ⟨u, hu, habove, hbelow⟩
      · exact .inr ⟨_, .inl (.inl rfl), habove, hv⟩
      · exact .inr ⟨u, .inl (.inr hu), habove, hbelow⟩
    · rcases ihrest hv with habove | ⟨u, hu, habove, hbelow⟩
      · exact .inl habove
      · exact .inr ⟨u, .inr hu, habove, hbelow⟩

/-- **Of two nodes the one left first lies below the other or before it.** -/
theorem Walk.pairwise_leaving (h : Walk sheet options nodes (parentOf above) s t) :
    (visits sheet options .leaving nodes above s).Pairwise fun v w =>
      v.after.text <+: w.before.text ∨ v ∈ w.below sheet options .leaving := by
  induction h using Walk.inductionAbove with
  | nil =>
    rw [visits]
    exact .nil
  | cons node rest above s t u hdepth below after ihbelow ihafter =>
    have hclosing := text_isPrefix_closing sheet options node (parentOf above) s t
    rw [visits_cons_of_walk hdepth below, Order.arrange]
    refine List.pairwise_append.mpr ⟨List.pairwise_append.mpr ⟨ihbelow, List.pairwise_singleton _ _,
      fun v hv w hw => ?_⟩, ihafter, fun v hv w hw => .inl ?_⟩
    · obtain rfl := List.mem_singleton.mp hw
      exact .inr hv
    · -- the nodes behind are entered once the node is left and all below it are
      refine List.IsPrefix.trans ?_ (after.text_visits hw).1
      rcases List.mem_append.mp hv with hv | hv
      · exact (below.text_visits hv).2.trans hclosing
      · obtain rfl := List.mem_singleton.mp hv
        exact List.prefix_refl _

/-- **Nodes are entered where the text has come to**, one after the other. -/
theorem Walk.pairwise_entering (h : Walk sheet options nodes (parentOf above) s t) :
    (visits sheet options .entering nodes above s).Pairwise fun v w =>
      v.before.text <+: w.before.text := by
  induction h using Walk.inductionAbove with
  | nil =>
    rw [visits]
    exact .nil
  | cons node rest above s t u hdepth below after ihbelow ihafter =>
    have hopening := text_isPrefix_opening sheet options node (parentOf above) s
    have hclosing := text_isPrefix_closing sheet options node (parentOf above) s t
    have hbehind := hopening.trans (below.text_isPrefix.trans hclosing)
    rw [visits_cons_of_walk hdepth below, Order.arrange]
    refine List.pairwise_append.mpr ⟨List.pairwise_cons.mpr ⟨fun v hv => ?_, ihbelow⟩, ihafter,
      fun v hv w hw => List.IsPrefix.trans ?_ (after.text_visits hw).1⟩
    · exact hopening.trans (below.text_visits hv).1
    · rcases List.mem_cons.mp hv with rfl | hv
      · exact hbehind
      · exact (below.text_visit hv).trans ((below.text_visits hv).2.trans hclosing)

/-! ## Visits and positions -/

/-- **A visit is at a position that the rendering reaches.** -/
theorem Reaches.exists_of_mem_visits (hreach : Reaches sheet options root above nodes s)
    (h : Walk sheet options nodes (parentOf above) s t)
    (hv : v ∈ visits sheet options order nodes above s) :
    ∃ rest, Reaches sheet options root v.above (v.node :: rest) v.before := by
  induction h using Walk.inductionAbove with
  | nil =>
    rw [visits] at hv
    cases hv
  | cons node rest above s t u hdepth below after ihbelow ihafter =>
    rcases (mem_visits_cons_of_walk hdepth below).mp hv with (rfl | hv) | hv
    · exact ⟨rest, hreach⟩
    · exact ihbelow hreach.down hv
    · exact ihafter (hreach.next (visit_exec_of_ok hdepth below.exec)) hv

/-- **The lists that are open around a visit** are those above it. -/
theorem isActive_of_mem_visits (h : Walk sheet options [root] (parentOf []) {} t)
    (hv : v ∈ visits sheet options order [root] [] {}) :
    v.before.lists.isActive = v.above.any Node.isList := by
  obtain ⟨rest, hreach⟩ := Reaches.start.exists_of_mem_visits h hv
  exact hreach.isActive

end Walks

end StyledMarkdown
