import Mathlib.Data.List.Chain
import StyledMarkdown.Builder
/-!
# Runs of inline nodes

What an item holds is cut into segments: each block is one of its own, and
inline nodes that stand one right behind the other make up a run. Wrapping
keeps the blocks and puts each run into a paragraph, so the cut says which of
the paragraphs are new ones. There is one cut only in which no run could be
longer, and it is the one that wrapping makes.
-/

namespace StyledMarkdown

/-- A segment of what an item holds. -/
inductive Segment where
  | block (node : Node)
  | run (nodes : List Node)

namespace Segment

/-- The nodes that a segment stands for. -/
def nodes : Segment → List Node
  | block node => [node]
  | run nodes => nodes

/-- The block that a segment becomes: a run is put into a paragraph. -/
def wrapped : Segment → Node
  | block node => node
  | run nodes => .paragraph nodes

def isRun : Segment → Bool
  | block _ => false
  | run _ => true

/-- Whether a segment is a block, or a run of inline nodes that is not empty. -/
def IsProper : Segment → Prop
  | block node => ¬ node.isInline
  | run nodes => nodes ≠ [] ∧ ∀ node ∈ nodes, node.isInline

end Segment

/-- **How the blocks of an item come from its nodes**: the nodes are cut into
segments, no two of them runs side by side, and each segment becomes one
block. -/
structure Wraps (segments : List Segment) (nodes blocks : List Node) : Prop where
  nodes_eq : segments.flatMap Segment.nodes = nodes
  blocks_eq : segments.map Segment.wrapped = blocks
  proper : ∀ segment ∈ segments, segment.IsProper
  apart : segments.IsChain fun a b => ¬ (a.isRun ∧ b.isRun)

section Wraps

variable {segments before after : List Segment} {segment : Segment} {node : Node}
  {nodes blocks run rest : List Node}

/-! ## Cuts -/

theorem Segment.not_isInline_wrapped (h : segment.IsProper) : ¬ segment.wrapped.isInline := by
  cases segment with
  | block node => exact h
  | run nodes => exact Bool.false_ne_true

namespace Wraps

theorem nil : Wraps [] [] [] := ⟨rfl, rfl, List.forall_mem_nil _, .nil⟩

/-- A segment is cut off in front, unless two runs would meet. -/
theorem cons (hsegment : segment.IsProper) (h : Wraps segments nodes blocks)
    (hapart : ∀ next ∈ segments.head?, ¬ (segment.isRun ∧ next.isRun)) :
    Wraps (segment :: segments) (segment.nodes ++ nodes) (segment.wrapped :: blocks) where
  nodes_eq := by rw [List.flatMap_cons, h.nodes_eq]
  blocks_eq := by rw [List.map_cons, h.blocks_eq]
  proper := List.forall_mem_cons.mpr ⟨hsegment, h.proper⟩
  apart := List.isChain_cons.mpr ⟨hapart, h.apart⟩

/-- **No block is inline**, the new paragraphs included. -/
theorem not_isInline (h : Wraps segments nodes blocks) (hnode : node ∈ blocks) :
    ¬ node.isInline := by
  rw [← h.blocks_eq] at hnode
  obtain ⟨segment, hsegment, rfl⟩ := List.mem_map.mp hnode
  exact Segment.not_isInline_wrapped (h.proper segment hsegment)

/-- **A run is as long as it can be**: no inline node stands right before it
or right behind it. -/
theorem maximal (h : Wraps (before ++ .run run :: after) nodes blocks) :
    (∀ last ∈ (before.flatMap Segment.nodes).getLast?, ¬ last.isInline) ∧
      ∀ next ∈ (after.flatMap Segment.nodes).head?, ¬ next.isInline := by
  obtain ⟨-, hafter, hbefore⟩ := List.isChain_append.mp h.apart
  have hproper := List.forall_mem_append.mp h.proper
  refine ⟨fun last hlast => ?_, fun next hnext => ?_⟩
  · rcases List.eq_nil_or_concat' before with rfl | ⟨first, segment, rfl⟩
    · cases hlast
    · have hapart := hbefore segment List.getLast?_concat (.run run) rfl
      have hsegment := hproper.1 segment List.mem_concat_self
      cases segment with
      | run => exact absurd ⟨rfl, rfl⟩ hapart
      | block node =>
        rw [List.flatMap_append] at hlast
        obtain rfl : last = node := by simpa [Segment.nodes, eq_comm] using hlast
        exact hsegment
  · cases after with
    | nil => cases hnext
    | cons segment after =>
      have hapart := (List.isChain_cons_cons.mp hafter).1
      have hsegment := hproper.2 segment (List.mem_cons_of_mem _ List.mem_cons_self)
      cases segment with
      | run => exact absurd ⟨rfl, rfl⟩ hapart
      | block node =>
        obtain rfl := Option.some.inj hnext
        exact hsegment

/-- Blocks are cut into themselves. -/
theorem blocks_self (h : ∀ node ∈ blocks, ¬ node.isInline) :
    Wraps (blocks.map .block) blocks blocks := by
  induction blocks with
  | nil => exact .nil
  | cons node blocks ih =>
    obtain ⟨hnode, hblocks⟩ := List.forall_mem_cons.mp h
    have hproper : Segment.IsProper (.block node) := hnode
    exact (ih hblocks).cons hproper fun _ _ hboth => nomatch hboth.1

end Wraps

/-! ## Wrapping -/

/-- Inline nodes join the run that is open. -/
theorem wrapInlineRunsAfter_append (hnodes : ∀ node ∈ nodes, node.isInline) (run rest : List Node) :
    wrapInlineRunsAfter run (nodes ++ rest) = wrapInlineRunsAfter (nodes.reverse ++ run) rest := by
  induction nodes generalizing run with
  | nil => rfl
  | cons node nodes ih =>
    obtain ⟨hnode, hnodes⟩ := List.forall_mem_cons.mp hnodes
    rw [List.cons_append, wrapInlineRunsAfter, if_pos hnode, ih hnodes, List.reverse_cons,
      List.append_assoc, List.singleton_append]

/-- A block ends the run that is open, and so does the end. -/
theorem wrapInlineRunsAfter_of_head? (hnext : ∀ next ∈ nodes.head?, ¬ next.isInline)
    (run : List Node) : wrapInlineRunsAfter run nodes = wrapRun run ++ wrapInlineRuns nodes := by
  cases nodes with
  | nil => exact (List.append_nil _).symm
  | cons node nodes =>
    have hnode : ¬ node.isInline := hnext node rfl
    rw [wrapInlineRuns, wrapInlineRunsAfter, if_neg hnode, wrapInlineRunsAfter, if_neg hnode]
    rfl

/-- **Wrapping puts each run of a cut into a paragraph**, whatever the cut. -/
theorem Wraps.eq_wrapInlineRuns (h : Wraps segments nodes blocks) :
    blocks = wrapInlineRuns nodes := by
  induction segments generalizing nodes blocks with
  | nil =>
    obtain ⟨rfl, rfl, -, -⟩ := h
    rfl
  | cons segment segments ih =>
    have hrest : Wraps segments (segments.flatMap Segment.nodes) (segments.map Segment.wrapped) :=
      ⟨rfl, rfl, (List.forall_mem_cons.mp h.proper).2, (List.isChain_cons.mp h.apart).2⟩
    have hsegment := (List.forall_mem_cons.mp h.proper).1
    rw [← h.nodes_eq, ← h.blocks_eq, List.map_cons, List.flatMap_cons, ih hrest]
    cases segment with
    | block node =>
      have hnode : ¬ node.isInline := hsegment
      rw [Segment.nodes, List.singleton_append, wrapInlineRuns, wrapInlineRuns,
        wrapInlineRunsAfter, if_neg hnode]
      rfl
    | run inner =>
      -- behind a run there is a block or nothing, so it is wrapped as a whole
      obtain ⟨hne, hinner⟩ := hsegment
      have hfirst : Wraps ([] ++ .run inner :: segments) nodes blocks := h
      have hnext := hfirst.maximal.2
      have hwrap : wrapRun inner.reverse = [.paragraph inner] := by
        unfold wrapRun
        rw [if_neg (by simpa using hne), List.reverse_reverse]
      have hwhole : wrapInlineRuns (inner ++ segments.flatMap Segment.nodes) =
          wrapRun (inner.reverse ++ []) ++ wrapInlineRuns (segments.flatMap Segment.nodes) :=
        (wrapInlineRunsAfter_append hinner [] _).trans (wrapInlineRunsAfter_of_head? hnext _)
      rw [Segment.nodes, hwhole, List.append_nil, hwrap]
      rfl

/-- An open run that ends becomes a segment, unless it is empty. -/
theorem Wraps.exists_wrapRun (h : Wraps segments nodes blocks)
    (hrun : ∀ node ∈ run, node.isInline) (hnext : ∀ next ∈ segments.head?, ¬ next.isRun) :
    ∃ segments, Wraps segments (run.reverse ++ nodes) (wrapRun run ++ blocks) := by
  cases run with
  | nil => exact ⟨segments, h⟩
  | cons last run =>
    have hproper : Segment.IsProper (.run (last :: run).reverse) :=
      ⟨by simp, fun node hnode => hrun node (List.mem_reverse.mp hnode)⟩
    exact ⟨_, h.cons hproper fun next hmem hboth => hnext next hmem hboth.2⟩

/-- **The cut that wrapping makes** behind an open run. -/
theorem exists_wraps (hrun : ∀ node ∈ run, node.isInline) (nodes : List Node) :
    ∃ segments, Wraps segments (run.reverse ++ nodes) (wrapInlineRunsAfter run nodes) := by
  -- over the nodes: one that is inline makes the open run longer, and a block ends it
  induction nodes generalizing run with
  | nil =>
    have hlast := Wraps.nil.exists_wrapRun hrun fun _ hmem => nomatch hmem
    rwa [List.append_nil (wrapRun run)] at hlast
  | cons node nodes ih =>
    rw [wrapInlineRunsAfter]
    split
    · rename_i hnode
      obtain ⟨segments, h⟩ := ih (List.forall_mem_cons.mpr ⟨hnode, hrun⟩)
      rw [List.reverse_cons, List.append_assoc] at h
      exact ⟨segments, h⟩
    · rename_i hnode
      obtain ⟨segments, h⟩ := ih (List.forall_mem_nil _)
      have hblock : Wraps (.block node :: segments) (node :: nodes)
          (node :: wrapInlineRunsAfter [] nodes) :=
        h.cons hnode fun _ _ hboth => nomatch hboth.1
      refine hblock.exists_wrapRun hrun fun next hmem => ?_
      obtain rfl := Option.some.inj hmem
      exact Bool.false_ne_true

/-- **Wrapping puts each maximal run of inline nodes into a paragraph** and
keeps the blocks. What comes out holds no inline node, gives back the nodes in
order when the new paragraphs are replaced by what they hold, and is the only
list of blocks that comes from a cut into blocks and runs without two runs side
by side. No inline node stands right before or behind such a run. Wrapping
once more changes nothing. -/
theorem wrapInlineRuns_wraps (nodes : List Node) :
    (∃ segments, Wraps segments nodes (wrapInlineRuns nodes)) ∧
    (∀ segments blocks, Wraps segments nodes blocks → blocks = wrapInlineRuns nodes ∧
      ∀ before run after, segments = before ++ .run run :: after →
        (∀ last ∈ (before.flatMap Segment.nodes).getLast?, ¬ last.isInline) ∧
          ∀ next ∈ (after.flatMap Segment.nodes).head?, ¬ next.isInline) ∧
    (∀ node ∈ wrapInlineRuns nodes, ¬ node.isInline) ∧
    wrapInlineRuns (wrapInlineRuns nodes) = wrapInlineRuns nodes := by
  obtain ⟨segments, hwraps⟩ : ∃ segments, Wraps segments nodes (wrapInlineRuns nodes) :=
    exists_wraps (List.forall_mem_nil _) nodes
  refine ⟨⟨segments, hwraps⟩, fun segments' blocks h => ⟨h.eq_wrapInlineRuns, ?_⟩,
    fun node => hwraps.not_isInline, ?_⟩
  · rintro before run after rfl
    exact h.maximal
  · exact (Wraps.blocks_self fun node => hwraps.not_isInline).eq_wrapInlineRuns.symm

end Wraps

end StyledMarkdown
