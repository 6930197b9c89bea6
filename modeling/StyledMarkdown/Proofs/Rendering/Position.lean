import StyledMarkdown.Proofs.Rendering.Walk
/-!
# Positions in a tree

A position is a place between the children of a node: the nodes above it,
innermost first, and the siblings behind it. A rendering that succeeds
comes through every position of the tree, in one state each, and its lists
are open there when there is a list above.
-/

namespace StyledMarkdown

open RenderM

/-- **The positions of a tree**, by the nodes above and the siblings behind. -/
inductive Position (root : Node) : List Node → List Node → Prop
  | start : Position root [] [root]
  | next {above rest : List Node} {node : Node} (h : Position root above (node :: rest)) :
      Position root above rest
  | down {above rest : List Node} {node : Node} (h : Position root above (node :: rest)) :
      Position root (node :: above) node.children

/-- What the siblings at a position stand in. -/
def parentOf (above : List Node) : Parent := (above.head?.map Node.asParent).getD .none

/-- **The states in which a rendering comes through the positions** of a
tree. -/
inductive Reaches (sheet : StyleSheet) (options : RenderOptions) (root : Node) :
    List Node → List Node → Rendering → Prop
  | start : Reaches sheet options root [] [root] {}
  | next {above rest : List Node} {node : Node} {s t : Rendering}
      (h : Reaches sheet options root above (node :: rest) s)
      (hvisit : (visit sheet options node (parentOf above)).exec s = (.ok (), t)) :
      Reaches sheet options root above rest t
  | down {above rest : List Node} {node : Node} {s : Rendering}
      (h : Reaches sheet options root above (node :: rest) s) :
      Reaches sheet options root (node :: above) node.children
        (opening sheet options node (parentOf above) s)

section Reaches

variable {sheet : StyleSheet} {options : RenderOptions} {root node : Node}
  {above rest siblings : List Node} {s t : Rendering} {r : Rendered}

/-- The first of some siblings is visited and the others are walked. -/
theorem exists_of_walk_cons {parent : Parent}
    (h : Walk sheet options (node :: rest) parent s t) :
    ∃ u, (visit sheet options node parent).exec s = (.ok (), u) ∧
      Walk sheet options rest parent u t := by
  obtain ⟨u, hvisit, hrest⟩ := exists_of_visitAll_cons_exec h.exec
  exact ⟨u, hvisit, walk_iff.mpr hrest⟩

/-- What is below a node that is walked is walked as well. -/
theorem exists_walk_children {parent : Parent}
    (h : Walk sheet options (node :: rest) parent s t) :
    ∃ u, Walk sheet options node.children node.asParent
      (opening sheet options node parent s) u := by
  cases h with
  | cons _ below _ => exact ⟨_, below⟩

/-- **From every position that is reached the siblings are walked**, if the
whole tree is rendered. -/
theorem Reaches.exists_walk (h : Reaches sheet options root above siblings s)
    (hr : render sheet options root = .ok r) :
    ∃ t, Walk sheet options siblings (parentOf above) s t := by
  induction h with
  | start =>
    obtain ⟨t, hw, -⟩ := render_eq_ok_iff.mp hr
    exact ⟨t, hw⟩
  | next _ hvisit ih =>
    obtain ⟨t, hw⟩ := ih
    obtain ⟨u, hvisit', hrest⟩ := exists_of_walk_cons hw
    -- a node leaves one state only, so the walk goes on from the state reached
    obtain rfl := (Prod.mk.inj (hvisit.symm.trans hvisit')).2
    exact ⟨t, hrest⟩
  | down _ ih =>
    obtain ⟨t, hw⟩ := ih
    exact exists_walk_children hw

/-- **Every position of a tree is reached**, if the whole tree is rendered. -/
theorem exists_reaches (h : Position root above siblings)
    (hr : render sheet options root = .ok r) :
    ∃ s, Reaches sheet options root above siblings s := by
  induction h with
  | start => exact ⟨_, .start⟩
  | next _ ih =>
    obtain ⟨s, hs⟩ := ih
    obtain ⟨t, hw⟩ := hs.exists_walk hr
    obtain ⟨u, hvisit, -⟩ := exists_of_walk_cons hw
    exact ⟨u, hs.next hvisit⟩
  | down _ ih =>
    obtain ⟨s, hs⟩ := ih
    exact ⟨_, hs.down⟩

/-- **The lists that are open at a position** are those above it. -/
theorem Reaches.isActive (h : Reaches sheet options root above siblings s) :
    s.lists.isActive = above.any Node.isList := by
  induction h with
  | start => rfl
  | next _ hvisit ih =>
    rw [(walk_singleton_iff_exec.mpr hvisit).sameNesting.isActive]
    exact ih
  | down _ ih => rw [isActive_opening, ih, List.any_cons, Bool.or_comm]

end Reaches

end StyledMarkdown
