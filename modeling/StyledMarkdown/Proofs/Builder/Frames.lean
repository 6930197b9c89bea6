import StyledMarkdown.Proofs.Builder.Events
/-!
# The frames of a builder

Whatever the events are, the frames show which containers are open: each
has a frame above the one of the document, but those past the limit are
only counted. So an end closes the innermost container, or nothing when
the document alone is open, and with an end for every container open the
document alone is left. `finish` closes the frames at one go; closing one
container after the other comes to the same, though while there are folded
ones no frame is closed by it.
-/

namespace StyledMarkdown

/-! ## The containers of a stream -/

/-- The containers open behind an event, innermost first. An end too many
closes none. -/
def Event.track (opened : List Tag) : Event → List Tag
  | start tag => tag :: opened
  | stop => opened.tail
  | _ => opened

/-- **The containers that a stream leaves open**, innermost first. -/
def leftOpen (events : List Event) : List Tag := events.foldl Event.track []

namespace Builder

variable {limit : Nat} {opened : List Tag} {b : Builder} {document : Frame}
  {above : List Frame}

/-! ## Ends -/

/-- **What an end does**: it is counted off against what is folded, or
closes the innermost frame into the next one. A single frame stays. -/
theorem leave_cases (b : Builder) :
    (0 < b.folded ∧ b.leave = { b with folded := b.folded - 1 }) ∨
    (b.folded = 0 ∧ ∃ top next rest, b.frames = top :: next :: rest ∧
      b.leave = { b with frames := next.push top.toNode :: rest }) ∨
    (b.folded = 0 ∧ b.frames.length ≤ 1 ∧ b.leave = b) := by
  obtain ⟨frames, folded⟩ := b
  cases folded with
  | succ folded => exact .inl ⟨Nat.succ_pos folded, rfl⟩
  | zero =>
    match frames with
    | [] => exact .inr (.inr ⟨rfl, Nat.zero_le 1, rfl⟩)
    | [_] => exact .inr (.inr ⟨rfl, Nat.le_refl 1, rfl⟩)
    | top :: next :: rest => exact .inr (.inl ⟨rfl, top, next, rest, rfl, rfl⟩)

/-- **The lowest frame stays where it is** when a container ends. It takes
in the node of a container that stood right on it, if that is the one. -/
theorem exists_lowest_leave (h : b.frames = above ++ [document]) :
    ∃ above' document', b.leave.frames = above' ++ [document'] ∧
      (document' = document ∨ ∃ child ∈ above, document' = document.push child.toNode) := by
  obtain ⟨-, hleave⟩ | ⟨-, top, next, rest, hframes, hleave⟩ | ⟨-, -, hleave⟩ := b.leave_cases
  · exact ⟨above, document, by rw [hleave, h], .inl rfl⟩
  · rw [hframes] at h
    match above with
    | [] => simp at h
    | [child] =>
      obtain ⟨rfl, hrest⟩ := List.cons.inj h
      obtain ⟨rfl, rfl⟩ := List.cons.inj hrest
      exact ⟨[], next.push top.toNode, by rw [hleave]; rfl,
        .inr ⟨top, List.mem_singleton_self _, rfl⟩⟩
    | child :: around :: above =>
      obtain ⟨-, hrest⟩ := List.cons.inj h
      obtain ⟨-, rfl⟩ := List.cons.inj hrest
      exact ⟨next.push top.toNode :: above, document, by rw [hleave]; rfl, .inl rfl⟩
  · exact ⟨above, document, by rw [hleave, h], .inl rfl⟩

/-- A single frame stays as it is. -/
theorem frames_leave_of_length_le (h : b.frames.length ≤ 1) : b.leave.frames = b.frames := by
  obtain ⟨-, hleave⟩ | ⟨-, top, next, rest, hframes, -⟩ | ⟨-, -, hleave⟩ := b.leave_cases
  · rw [hleave]
  · rw [hframes] at h
    simp at h
  · rw [hleave]

/-- An end leaves less to close: a folded container, or else a frame. -/
theorem folded_add_length_leave_lt (h : 1 < b.frames.length) :
    b.leave.folded + b.leave.frames.length < b.folded + b.frames.length := by
  obtain ⟨hfolded, hleave⟩ | ⟨-, top, next, rest, hframes, hleave⟩ | ⟨-, hle, -⟩ := b.leave_cases
  · rw [hleave]
    dsimp only
    omega
  · rw [hleave, hframes]
    dsimp only [List.length_cons]
    omega
  · omega

/-- **An end more makes no difference to the tree.** -/
theorem finish_leave (b : Builder) : b.leave.finish = b.finish := by
  obtain ⟨-, hleave⟩ | ⟨-, top, next, rest, hframes, hleave⟩ | ⟨-, -, hleave⟩ := b.leave_cases
  · rw [hleave]
    rfl
  · rw [hleave, finish, finish, hframes, closeAll]
  · rw [hleave]

/-! ## Closing one container after the other -/

/-- **Closes the innermost container** as long as there is one besides the
document. A folded one takes its turn and no frame with it, so it is both
together that get less. -/
def drain (b : Builder) : Builder :=
  if 1 < b.frames.length then b.leave.drain else b
termination_by b.folded + b.frames.length
decreasing_by exact folded_add_length_leave_lt ‹_›

/-- Drained frames are what there is to finish. -/
theorem finish_drain (b : Builder) : b.drain.finish = b.finish := by
  fun_induction drain b with
  | case1 b _ ih => rw [ih, finish_leave]
  | case2 => rfl

theorem drain_of_length_le (h : b.frames.length ≤ 1) : b.drain = b := by
  rw [drain, if_neg (Nat.not_lt.mpr h)]

theorem frames_drain_leave (b : Builder) : b.leave.drain.frames = b.drain.frames := by
  by_cases h : 1 < b.frames.length
  · rw [drain.eq_1 b, if_pos h]
  · have hframes : b.leave.frames = b.frames := frames_leave_of_length_le (Nat.not_lt.mp h)
    rw [drain_of_length_le (Nat.not_lt.mp h), drain_of_length_le (by rw [hframes]; omega), hframes]

/-! ## Frames and containers -/

/-- **The frames show the containers that are open**, each above those
around it and all above the document. Past the limit they are folded, and
the folded ones are the innermost. -/
structure Shows (limit : Nat) (opened : List Tag) (b : Builder) : Prop where
  frames : b.frames.map Frame.pending =
    (opened.drop b.folded).map Pending.container ++ [.document]
  folded : b.folded = opened.length - limit

namespace Shows

theorem start (limit : Nat) : Shows limit [] {} := ⟨rfl, (Nat.zero_sub limit).symm⟩

theorem length_frames (h : Shows limit opened b) :
    b.frames.length = min opened.length limit + 1 := by
  have hlength := congrArg List.length h.frames
  rw [List.length_map, List.length_append, List.length_map, List.length_drop, h.folded,
    List.length_singleton] at hlength
  omega

theorem onTop (h : Shows limit opened b) {change : Frame → Frame}
    (hchange : ∀ frame, (change frame).pending = frame.pending) :
    Shows limit opened (b.onTop change) := by
  obtain ⟨hframes, hfolded⟩ := h
  obtain ⟨frames, folded⟩ := b
  cases frames with
  | nil => exact ⟨hframes, hfolded⟩
  | cons top rest =>
    exact ⟨(congrArg (· :: rest.map Frame.pending) (hchange top)).trans hframes, hfolded⟩

/-- While there is room for a frame nothing is folded. -/
theorem folded_eq_zero (h : Shows limit opened b) (hroom : ¬ limit < b.frames.length) :
    b.folded = 0 := by
  have hlength := h.length_frames
  have hfolded := h.folded
  omega

theorem enter (h : Shows limit opened b) (tag : Tag) :
    Shows limit (tag :: opened) (b.enter limit tag) := by
  have hlength := h.length_frames
  have hfolded := h.folded
  unfold Builder.enter
  split
  · -- at the limit the container is folded and counted, as the innermost one
    refine ⟨h.frames, ?_⟩
    dsimp only [List.length_cons]
    omega
  · rename_i hroom
    have hnone : b.folded = 0 := h.folded_eq_zero hroom
    refine ⟨?_, ?_⟩
    · have hframes := h.frames
      dsimp only
      rw [hnone] at hframes ⊢
      exact congrArg (Pending.container tag :: ·) hframes
    · dsimp only [List.length_cons]
      omega

theorem leave (h : Shows limit opened b) : Shows limit opened.tail b.leave := by
  have hlength := h.length_frames
  obtain ⟨hframes, hfolded⟩ := h
  obtain ⟨hpos, hleave⟩ | ⟨hnone, top, next, rest, htop, hleave⟩ | ⟨hnone, hle, hleave⟩ :=
    b.leave_cases
  · -- what is folded is innermost, so the frames are those of the containers around it
    have hdrop : opened.tail.drop (b.folded - 1) = opened.drop b.folded := by
      rw [List.drop_tail, Nat.sub_add_cancel hpos]
    rw [hleave]
    refine ⟨?_, ?_⟩
    · dsimp only
      rw [hdrop, hframes]
    · dsimp only
      rw [List.length_tail]
      omega
  · rw [hnone] at hframes hfolded
    rw [htop] at hframes
    cases opened with
    | nil => simp at hframes
    | cons tag opened =>
      have htail := (List.cons.inj hframes).2
      rw [hleave]
      refine ⟨?_, ?_⟩
      · dsimp only
        rw [hnone]
        exact (congrArg (· :: rest.map Frame.pending) (next.pending_push _)).trans htail
      · dsimp only [List.tail_cons]
        rw [List.length_cons] at hfolded
        omega
  · -- a single frame is the document's, and nothing is open
    have hopened : opened = [] := List.eq_nil_of_length_eq_zero (by omega)
    subst hopened
    rw [hleave]
    exact ⟨hframes, hfolded⟩

/-- **One event** keeps the frames together with the containers. -/
theorem step (h : Shows limit opened b) (event : Event) :
    Shows limit (event.track opened) (b.step limit event) := by
  cases event with
  | start tag => exact h.enter tag
  | stop => exact h.leave
  | _ =>
    rw [step_of_isContent rfl]
    exact h.onTop fun frame => frame.pending_take _

/-- **And so does a whole stream.** -/
theorem run (h : Shows limit opened b) (events : List Event) :
    Shows limit (events.foldl Event.track opened) (b.run limit events) := by
  induction events generalizing opened b with
  | nil => exact h
  | cons event events ih => exact ih (h.step event)

/-- The document has its frame below those of the containers. -/
theorem exists_document (h : Shows limit opened b) :
    ∃ above document, b.frames = above ++ [document] ∧ document.pending = .document ∧
      above.map Frame.pending = (opened.drop b.folded).map Pending.container := by
  obtain ⟨above, lowest, hsplit, habove, hlowest⟩ := List.map_eq_append_iff.mp h.frames
  obtain ⟨document, rfl, hdocument⟩ := List.map_eq_singleton_iff.mp hlowest
  exact ⟨above, document, hsplit, hdocument, habove⟩

/-- Where nothing is open there is the frame of the document alone. -/
theorem eq_single (h : Shows limit [] b) :
    ∃ document, b = ⟨[document], 0⟩ ∧ document.pending = .document := by
  obtain ⟨above, document, hframes, hdocument, habove⟩ := h.exists_document
  rw [List.drop_nil, List.map_nil, List.map_eq_nil_iff] at habove
  have hfolded : b.folded = 0 := h.folded.trans (Nat.zero_sub limit)
  obtain ⟨frames, folded⟩ := b
  subst habove hframes hfolded
  exact ⟨document, rfl, hdocument⟩

end Shows

/-! ## Ends for what is open -/

theorem foldl_track_stops (opened : List Tag) :
    (List.replicate opened.length Event.stop).foldl Event.track opened = [] := by
  induction opened with
  | nil => rfl
  | cons tag opened ih => exact ih

theorem finish_run_stops (limit n : Nat) (b : Builder) :
    (b.run limit (List.replicate n .stop)).finish = b.finish := by
  induction n generalizing b with
  | zero => rfl
  | succ n ih =>
    rw [List.replicate_succ, run_cons, ih]
    exact b.finish_leave

theorem frames_drain_run_stops (limit n : Nat) (b : Builder) :
    (b.run limit (List.replicate n .stop)).drain.frames = b.drain.frames := by
  induction n generalizing b with
  | zero => rfl
  | succ n ih =>
    rw [List.replicate_succ, run_cons, ih]
    exact b.frames_drain_leave

/-- **An end for each container open** leaves the frame of the document, and
draining leaves the same one. -/
theorem Shows.exists_run_stops (h : Shows limit opened b) :
    ∃ document, b.run limit (List.replicate opened.length .stop) = ⟨[document], 0⟩ ∧
      b.drain.frames = [document] ∧ document.pending = .document := by
  have hstops := h.run (List.replicate opened.length .stop)
  rw [foldl_track_stops] at hstops
  obtain ⟨document, hrun, hdocument⟩ := hstops.eq_single
  have hsingle : Builder.drain ⟨[document], 0⟩ = ⟨[document], 0⟩ :=
    drain_of_length_le (Nat.le_refl 1)
  refine ⟨document, hrun, ?_, hdocument⟩
  rw [← frames_drain_run_stops limit opened.length b, hrun, hsingle]

end Builder

/-! ## Any stream -/

/-- **A builder has its frames in order behind any stream**, balanced or
not, and under any limit. The document is at the bottom and only there,
below a frame for each container open, up to the limit; only past it is
anything folded. An end takes no document away. Closing one container after
the other comes to an end with the frame of the document alone, the node of
which is the tree, and an end for each container open, the folded ones
too, brings the builder there and leaves the tree as it is. -/
theorem run_frames_in_order (limit : Nat) (events : List Event) :
    let b := Builder.run limit events
    let opened := leftOpen events
    let ends := List.replicate opened.length Event.stop
    b.frames.map Frame.pending = (opened.drop b.folded).map Pending.container ++ [.document] ∧
    (1 ≤ b.frames.length ∧ b.frames.length ≤ limit + 1) ∧
    (0 < b.folded → b.frames.length = limit + 1) ∧
    b.folded + (b.frames.length - 1) = opened.length ∧
    (∃ above document, b.frames = above ++ [document] ∧ document.pending = .document ∧
      (above = [] → (b.step limit .stop).frames = [document]) ∧
      ∃ above' document', (b.step limit .stop).frames = above' ++ [document'] ∧
        (document' = document ∨ ∃ child ∈ above, document' = document.push child.toNode)) ∧
    ∃ document, b.drain.frames = [document] ∧ document.pending = .document ∧
      b.finish = document.toNode ∧ b.finish = .document document.children.reverse ∧
      Builder.run limit (events ++ ends) = ⟨[document], 0⟩ ∧
      Node.ofEvents (events ++ ends) limit = Node.ofEvents events limit := by
  intro b opened ends
  have hshows : Builder.Shows limit opened b := (Builder.Shows.start limit).run events
  have hlength : b.frames.length = min opened.length limit + 1 := hshows.length_frames
  have hfolded : b.folded = opened.length - limit := hshows.folded
  refine ⟨hshows.frames, ⟨by omega, by omega⟩, by omega, by omega, ?_, ?_⟩
  · obtain ⟨above, document, hframes, hdocument, -⟩ := hshows.exists_document
    refine ⟨above, document, hframes, hdocument, fun habove => ?_,
      Builder.exists_lowest_leave hframes⟩
    rw [habove] at hframes
    have hsingle : b.leave.frames = b.frames :=
      Builder.frames_leave_of_length_le (by rw [hframes]; exact Nat.le_refl 1)
    exact hsingle.trans hframes
  · obtain ⟨document, hrun, hdrain, hdocument⟩ := hshows.exists_run_stops
    have hfinish : b.finish = document.toNode := by
      rw [← b.finish_drain, Builder.finish, hdrain, Builder.closeAll]
    refine ⟨document, hdrain, hdocument, hfinish, ?_, ?_, ?_⟩
    · rw [hfinish, Frame.toNode_of_document hdocument]
    · rw [Builder.run_append]
      exact hrun
    · unfold Node.ofEvents
      rw [Builder.run_append, Builder.finish_run_stops]

end StyledMarkdown
