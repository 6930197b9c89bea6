import StyledMarkdown.Proofs.Rendering.Walk
/-!
# The depth limit

A rendering fails for one reason: the tree is higher than the limit. The
limit has no other effect, and a rendering that fails leaves the cursors,
the lists and the depth as they were all the same.
-/

namespace StyledMarkdown

open RenderM
open Rendering (SameNesting)

/-! ## Heights -/

theorem foldl_max_le_iff {m : Nat} (heights : List Nat) (first : Nat) :
    heights.foldl max first ≤ m ↔ first ≤ m ∧ ∀ h ∈ heights, h ≤ m := by
  induction heights generalizing first with
  | nil => simp
  | cons h rest ih =>
    rw [List.foldl_cons, ih, List.forall_mem_cons, Nat.max_le, and_assoc]

namespace Node

theorem height_eq (node : Node) :
    node.height = 1 + (node.children.map height).foldl max 0 := fold_eq _ node

/-- A node fits below a depth when it does itself and its children fit one
level further down. -/
theorem add_height_le_iff (node : Node) {depth limit : Nat} : depth + node.height ≤ limit ↔
    depth < limit ∧ ∀ child ∈ node.children, depth + 1 + child.height ≤ limit := by
  have hbelow := foldl_max_le_iff (m := limit - depth - 1) (node.children.map height) 0
  rw [height_eq]
  constructor
  · intro h
    refine ⟨by omega, fun child hc => ?_⟩
    have := (hbelow.mp (by omega)).2 _ (List.mem_map_of_mem hc)
    omega
  · rintro ⟨hdepth, hchildren⟩
    have := hbelow.mpr ⟨Nat.zero_le _, fun h hh => ?_⟩
    · omega
    · obtain ⟨child, hc, rfl⟩ := List.mem_map.mp hh
      have := hchildren child hc
      omega

end Node

/-! ## What the limit decides -/

section Limit

variable {sheet : StyleSheet} {options : RenderOptions} {node : Node} {nodes : List Node}
  {parent : Parent} {s t : Rendering}

/-- What siblings give that are rendered at a depth: they succeed if all of
them fit, and there is one way to fail. -/
def outcome (options : RenderOptions) (nodes : List Node) (depth : Nat) :
    Except RenderError Unit :=
  if ∀ node ∈ nodes, depth + node.height ≤ options.maxDepth then .ok ()
  else .error (.depthExceeded options.maxDepth)

theorem outcome_cons_of_ok {rest : List Node} {depth : Nat}
    (h : outcome options [node] depth = .ok ()) :
    outcome options (node :: rest) depth = outcome options rest depth := by
  have hfits : depth + node.height ≤ options.maxDepth := by
    by_cases hf : depth + node.height ≤ options.maxDepth
    · exact hf
    · simp [outcome, hf] at h
  simp [outcome, hfits]

theorem outcome_cons_of_error {rest : List Node} {depth : Nat} {e : RenderError}
    (h : outcome options [node] depth = .error e) :
    outcome options (node :: rest) depth = .error e := by
  by_cases hf : depth + node.height ≤ options.maxDepth
  · simp [outcome, hf] at h
  · simp [outcome, hf] at h ⊢
    exact h

/-- A node gives what its children give, one level further down. -/
theorem outcome_singleton {depth : Nat} (h : depth < options.maxDepth) :
    outcome options [node] depth = outcome options node.children (depth + 1) := by
  have hiff : (∀ n ∈ [node], depth + n.height ≤ options.maxDepth) ↔
      ∀ child ∈ node.children, depth + 1 + child.height ≤ options.maxDepth := by
    rw [List.forall_mem_singleton, node.add_height_le_iff, and_iff_right h]
  exact ite_congr (propext hiff) (fun _ => rfl) fun _ => rfl

theorem outcome_of_le {depth : Nat} (h : options.maxDepth ≤ depth) :
    outcome options [node] depth = .error (.depthExceeded options.maxDepth) := by
  have hf : ¬ depth + node.height ≤ options.maxDepth := by
    rw [Node.add_height_le_iff]
    omega
  simp [outcome, hf]

theorem visitAll_exec_fst_of
    (hnodes : ∀ node ∈ nodes, ∀ parent s,
      ((visit sheet options node parent).exec s).1 = outcome options [node] s.depth) :
    ((visitAll sheet options nodes parent).exec s).1 = outcome options nodes s.depth := by
  induction nodes generalizing s with
  | nil => rfl
  | cons node rest ih =>
    have hnode := hnodes node List.mem_cons_self parent s
    have hdepth : ((visit sheet options node parent).exec s).2.depth = s.depth :=
      (visit_balanced node parent s).depth
    rw [visitAll_cons, exec_bind]
    rcases hv : (visit sheet options node parent).exec s with ⟨e | _, t⟩
    · rw [hv] at hnode
      exact (outcome_cons_of_error hnode.symm).symm
    · rw [hv] at hnode hdepth
      rw [outcome_cons_of_ok hnode.symm, ← hdepth]
      exact ih fun n hn => hnodes n (List.mem_cons_of_mem _ hn)

/-- **The height of a node decides whether it is rendered**, and nothing
else does: not its siblings, nor the text, nor the lists that are open. -/
theorem visit_exec_fst (node : Node) : ∀ parent s,
    ((visit sheet options node parent).exec s).1 = outcome options [node] s.depth := by
  -- over the tree: the children of a node decide for it, unless it is too deep itself
  induction node using Node.inductionOn with
  | step node ih =>
    intro parent s
    rcases Nat.lt_or_ge s.depth options.maxDepth with hlt | hge
    · have hbelow : ((visitAll sheet options node.children node.asParent).exec
          (opening sheet options node parent s)).1 = outcome options node.children (s.depth + 1) :=
        visitAll_exec_fst_of ih
      rw [outcome_singleton hlt, ← hbelow]
      rcases hb : (visitAll sheet options node.children node.asParent).exec
        (opening sheet options node parent s) with ⟨e | _, t⟩
      · exact visit_exec_of_error hlt (congrArg Prod.fst hb)
      · rw [visit_exec_of_ok hlt hb]
    · rw [visit_exec_of_le hge, outcome_of_le hge]

/-- A node that fits below the limit is rendered. -/
theorem visit_exec_of_fits (hfits : s.depth + node.height ≤ options.maxDepth) :
    (visit sheet options node parent).exec s =
      (.ok (), ((visit sheet options node parent).exec s).2) := by
  have hok : outcome options [node] s.depth = .ok () := by simp [outcome, hfits]
  exact Prod.ext ((visit_exec_fst node parent s).trans hok) rfl

/-- **The limit is only a limit**: a walk that stays within another one is
a walk under that one too. -/
theorem Walk.withLimit (h : Walk sheet options nodes parent s t) (limit : Nat)
    (hfits : ∀ node ∈ nodes, s.depth + node.height ≤ limit) :
    Walk sheet { options with maxDepth := limit } nodes parent s t := by
  -- the states on the way do not read the limit, so they are the same under both
  induction h with
  | nil => exact .nil _ _
  | @cons node rest parent s t u hdepth below after ihbelow ihafter =>
    obtain ⟨hnode, hrest⟩ := List.forall_mem_cons.mp hfits
    obtain ⟨hlt, hchildren⟩ := node.add_height_le_iff.mp hnode
    exact .cons hlt (ihbelow hchildren) (ihafter hrest)

end Limit

/-! ## Renderings -/

theorem render_eq_map (sheet : StyleSheet) (options : RenderOptions) (node : Node) :
    render sheet options node = (outcome options [node] 0).map fun () =>
      ((visit sheet options node .none).exec {}).2.writer.finish := by
  have hfst : ((visit sheet options node .none).exec {}).1 = outcome options [node] 0 :=
    visit_exec_fst node .none {}
  rw [← hfst]
  rfl

/-- A document within the limit is rendered. -/
theorem exists_render_eq_ok (sheet : StyleSheet) (options : RenderOptions) (node : Node)
    (h : node.height ≤ options.maxDepth) : ∃ r, render sheet options node = .ok r := by
  have hok : outcome options [node] 0 = .ok () := by simp [outcome, h]
  rw [render_eq_map, hok]
  exact ⟨_, rfl⟩

/-- What a rendering is found to have it has been rendered with. -/
theorem exists_render_of_answer {α : Type} {sheet : StyleSheet} {options : RenderOptions}
    {root : Node} {f : Rendered → α} {a : α}
    (h : (render sheet options root).toOption.map f = some a) :
    ∃ r, render sheet options root = .ok r ∧ f r = a := by
  cases hr : render sheet options root with
  | error e =>
    rw [hr] at h
    cases h
  | ok r =>
    rw [hr] at h
    exact ⟨r, rfl, Option.some.inj h⟩

/-- **A document is rendered unless it is higher than the limit.** The error
then names the limit, and is never one of the two underflows; whatever is
rendered below leaves the nesting as it found it; and a limit that is
high enough has no part in the result. -/
theorem render_fails_iff_too_high (sheet : StyleSheet) (options : RenderOptions) (node : Node) :
    (∀ e, render sheet options node = .error e ↔
      options.maxDepth < node.height ∧ e = .depthExceeded options.maxDepth) ∧
    (∀ below parent s, SameNesting s ((visit sheet options below parent).exec s).2) ∧
    (∀ r, render sheet options node = .ok r → ∀ limit, node.height ≤ limit →
      render sheet { options with maxDepth := limit } node = .ok r) := by
  refine ⟨fun e => ?_, visit_balanced, fun r hr limit hlimit => ?_⟩
  · rw [render_eq_map]
    by_cases hfits : node.height ≤ options.maxDepth
    · have hok : outcome options [node] 0 = .ok () := by simp [outcome, hfits]
      rw [hok]
      exact ⟨nofun, fun h => absurd h.1 (Nat.not_lt.mpr hfits)⟩
    · have herr : outcome options [node] 0 = .error (.depthExceeded options.maxDepth) := by
        simp [outcome, hfits]
      rw [herr]
      constructor
      · intro h
        exact ⟨Nat.not_le.mp hfits, (Except.error.inj h).symm⟩
      · rintro ⟨_, rfl⟩
        rfl
  · obtain ⟨t, hw, rfl⟩ := render_eq_ok_iff.mp hr
    refine render_eq_ok_iff.mpr ⟨t, hw.withLimit limit ?_, rfl⟩
    simpa using hlimit

end StyledMarkdown
