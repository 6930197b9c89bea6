import StyledMarkdown.Proofs.Builder.Events
/-!
# The nesting limit

Folding a container is the same as not having it: a builder with a limit
makes of a stream what one without makes of the stream that lost each
container beyond the limit, its start and its stop. What such a container
holds goes to the innermost one kept.
-/

namespace StyledMarkdown

/-! ## Streams without what is too deep -/

/-- **A stream without the containers beyond a limit**, where `depth` of
them are open before it. What these containers hold is kept. -/
def stripDeep (limit : Nat) : Nat → List Event → List Event
  | _, [] => []
  | depth, .start tag :: rest =>
    if depth < limit then .start tag :: stripDeep limit (depth + 1) rest
    else stripDeep limit (depth + 1) rest
  | depth, .stop :: rest =>
    if limit < depth then stripDeep limit (depth - 1) rest
    else .stop :: stripDeep limit (depth - 1) rest
  | depth, event :: rest => event :: stripDeep limit depth rest

section Streams

variable {limit depth : Nat} {events : List Event}

theorem stripDeep_cons_of_isContent {event : Event} (h : event.isContent) (limit depth : Nat)
    (rest : List Event) :
    stripDeep limit depth (event :: rest) = event :: stripDeep limit depth rest := by
  cases event with
  | start | stop => cases h
  | _ => rfl

theorem stripDeep_enclosed_of {inner : List Event}
    (h : ∀ rest, stripDeep limit (depth + 1) (inner ++ rest) =
      stripDeep limit (depth + 1) inner ++ stripDeep limit (depth + 1) rest)
    (tag : Tag) (rest : List Event) :
    stripDeep limit depth (.start tag :: (inner ++ .stop :: rest)) =
      if depth < limit then
        .start tag :: (stripDeep limit (depth + 1) inner ++ .stop :: stripDeep limit depth rest)
      else stripDeep limit (depth + 1) inner ++ stripDeep limit depth rest := by
  have hstop : stripDeep limit (depth + 1) (.stop :: rest) =
      if limit < depth + 1 then stripDeep limit depth rest
      else .stop :: stripDeep limit depth rest := rfl
  rw [stripDeep, h, hstop]
  by_cases hdepth : depth < limit
  · rw [if_pos hdepth, if_pos hdepth, if_neg (by omega)]
  · rw [if_neg hdepth, if_neg hdepth, if_pos (by omega)]

/-- Balanced events leave the depth as it was. -/
theorem stripDeep_append (h : BalancedEvents events) (limit depth : Nat) (rest : List Event) :
    stripDeep limit depth (events ++ rest) =
      stripDeep limit depth events ++ stripDeep limit depth rest := by
  induction h generalizing depth rest with
  | nil => rfl
  | content event h =>
    rw [List.singleton_append, stripDeep_cons_of_isContent h, stripDeep_cons_of_isContent h]
    rfl
  | append h hrest ih ihrest => rw [List.append_assoc, ih, ihrest, ih, List.append_assoc]
  | @enclosed inner tag _ h ih =>
    rw [List.cons_append, List.append_assoc, List.singleton_append,
      stripDeep_enclosed_of (ih (depth + 1)), stripDeep_enclosed_of (ih (depth + 1))]
    split
    · rw [List.cons_append, List.append_assoc]
      rfl
    · rw [List.append_assoc]
      rfl

/-- **A container is kept or lost with both its ends**, by its depth alone. -/
theorem stripDeep_enclosed (h : BalancedEvents events) (limit depth : Nat) (tag : Tag)
    (rest : List Event) :
    stripDeep limit depth (.start tag :: (events ++ .stop :: rest)) =
      if depth < limit then
        .start tag :: (stripDeep limit (depth + 1) events ++ .stop :: stripDeep limit depth rest)
      else stripDeep limit (depth + 1) events ++ stripDeep limit depth rest :=
  stripDeep_enclosed_of (stripDeep_append h limit (depth + 1)) tag rest

/-- **At the limit only content is left.** -/
theorem stripDeep_of_le (h : BalancedEvents events) (hdepth : limit ≤ depth) :
    stripDeep limit depth events = events.filter Event.isContent := by
  induction h generalizing depth with
  | nil => rfl
  | content event h =>
    rw [stripDeep_cons_of_isContent h, List.filter_cons_of_pos h]
    rfl
  | append h hrest ih ihrest =>
    rw [stripDeep_append h, ih hdepth, ihrest hdepth, List.filter_append]
  | @enclosed inner tag _ h ih =>
    rw [stripDeep_enclosed h, if_neg (Nat.not_lt.mpr hdepth), ih (Nat.le_succ_of_le hdepth)]
    simp [stripDeep, Event.isContent]

/-- A limit that no container reaches is none. -/
theorem stripDeep_eq_self (h : depth + events.length ≤ limit) :
    stripDeep limit depth events = events := by
  induction events generalizing depth with
  | nil => rfl
  | cons event events ih =>
    rw [List.length_cons] at h
    cases event with
    | start tag => rw [stripDeep, if_pos (by omega), ih (by omega)]
    | stop => rw [stripDeep, if_neg (by omega), ih (by omega)]
    | _ => rw [stripDeep_cons_of_isContent rfl, ih (by omega)]

end Streams

/-! ## Two builders side by side -/

namespace Builder

/-- **A builder that folds beside one that does not**, where `depth`
containers are open in the stream of the first. -/
structure Mirrors (limit depth : Nat) (b shallow : Builder) : Prop where
  frames : shallow.frames = b.frames
  folded : shallow.folded = 0
  kept : b.frames.length = min depth limit + 1
  lost : b.folded = depth - limit

variable {limit unlimited depth : Nat} {b shallow : Builder} {events : List Event}

theorem Mirrors.start (limit : Nat) : Mirrors limit 0 {} {} :=
  ⟨rfl, rfl, by simp, (Nat.zero_sub limit).symm⟩

/-- The two builders are given the same content. -/
theorem Mirrors.onTop (h : Mirrors limit depth b shallow) (change : Frame → Frame) :
    Mirrors limit depth (b.onTop change) (shallow.onTop change) := by
  obtain ⟨hframes, hfolded, hkept, hlost⟩ := h
  refine ⟨?_, by rw [folded_onTop, hfolded], by rw [length_frames_onTop, hkept],
    by rw [folded_onTop, hlost]⟩
  obtain ⟨frames, folded⟩ := b
  obtain ⟨frames', folded'⟩ := shallow
  obtain rfl : frames' = frames := hframes
  cases frames' <;> rfl

/-- Both open a container up to the limit. -/
theorem Mirrors.enter (h : Mirrors limit depth b shallow) (hle : limit ≤ unlimited)
    (hdepth : depth < limit) (tag : Tag) :
    Mirrors limit (depth + 1) (b.enter limit tag) (shallow.enter unlimited tag) := by
  obtain ⟨hframes, hfolded, hkept, hlost⟩ := h
  unfold Builder.enter
  rw [hframes, if_neg (by omega), if_neg (by omega)]
  refine ⟨rfl, hfolded, ?_, ?_⟩
  · dsimp only
    rw [List.length_cons]
    omega
  · dsimp only
    omega

/-- Past the limit one folds, and the other has nothing to open. -/
theorem Mirrors.fold (h : Mirrors limit depth b shallow) (hdepth : limit ≤ depth) (tag : Tag) :
    Mirrors limit (depth + 1) (b.enter limit tag) shallow := by
  obtain ⟨hframes, hfolded, hkept, hlost⟩ := h
  unfold Builder.enter
  rw [if_pos (by omega)]
  exact ⟨hframes, hfolded, by dsimp only; omega, by dsimp only; omega⟩

/-- Both close a container that is kept, and neither closes the document. -/
theorem Mirrors.leave (h : Mirrors limit depth b shallow) (hdepth : depth ≤ limit) :
    Mirrors limit (depth - 1) b.leave shallow.leave := by
  obtain ⟨hframes, hfolded, hkept, hlost⟩ := h
  unfold Builder.leave
  rw [if_neg (by omega), if_neg (by omega), hframes]
  obtain ⟨frames, folded⟩ := b
  have hlost : folded = depth - limit := hlost
  match frames with
  | [] => exact absurd hkept.symm (Nat.succ_ne_zero _)
  | [last] =>
    have hdocument : 1 = min depth limit + 1 := hkept
    exact ⟨hframes, hfolded, show 1 = min (depth - 1) limit + 1 by omega,
      show folded = depth - 1 - limit by omega⟩
  | top :: next :: rest =>
    have hopen : rest.length + 2 = min depth limit + 1 := hkept
    exact ⟨rfl, hfolded, show rest.length + 1 = min (depth - 1) limit + 1 by omega,
      show folded = depth - 1 - limit by omega⟩

/-- The end of a container that was folded. -/
theorem Mirrors.unfold (h : Mirrors limit depth b shallow) (hdepth : limit < depth) :
    Mirrors limit (depth - 1) b.leave shallow := by
  obtain ⟨hframes, hfolded, hkept, hlost⟩ := h
  unfold Builder.leave
  rw [if_pos (by omega)]
  exact ⟨hframes, hfolded, by dsimp only; omega, by dsimp only; omega⟩

/-- **Folding is having less to open**: along a stream and along the one
without what is too deep, two builders come to the same frames. -/
theorem Mirrors.run (h : Mirrors limit depth b shallow) (hle : limit ≤ unlimited) :
    (shallow.run unlimited (stripDeep limit depth events)).frames =
      (b.run limit events).frames := by
  induction events generalizing depth b shallow with
  | nil => exact h.frames
  | cons event events ih =>
    cases event with
    | start tag =>
      rw [stripDeep]
      split
      · rename_i hdepth
        exact ih (h.enter hle hdepth tag)
      · rename_i hdepth
        exact ih (h.fold (Nat.not_lt.mp hdepth) tag)
    | stop =>
      rw [stripDeep]
      split
      · rename_i hdepth
        exact ih (h.unfold hdepth)
      · rename_i hdepth
        exact ih (h.leave (Nat.not_lt.mp hdepth))
    | _ =>
      rw [stripDeep_cons_of_isContent rfl, run_cons, run_cons, step_of_isContent rfl,
        step_of_isContent rfl]
      exact ih (h.onTop _)

/-! ## Where the content goes -/

/-- **What stands in a folded container goes to the innermost frame**, in
its order. -/
theorem run_of_full (h : BalancedEvents events) (hfull : limit < b.frames.length) :
    b.run limit events =
      b.onTop fun top => (events.filter Event.isContent).foldl Frame.take top := by
  induction h generalizing b with
  | nil => exact b.onTop_id.symm
  | content event h =>
    rw [List.filter_cons_of_pos h]
    exact step_of_isContent h
  | append h hrest ih ihrest =>
    rw [run_append, ih hfull, ihrest (by rwa [length_frames_onTop]), onTop_onTop,
      List.filter_append]
    simp only [List.foldl_append]
  | @enclosed inner tag _ h ih =>
    have henter : b.enter limit tag = { b with folded := b.folded + 1 } := if_pos hfull
    have hcontent : (Event.start tag :: (inner ++ [.stop])).filter Event.isContent =
        inner.filter Event.isContent := by simp [Event.isContent]
    have hinner := ih (b := { b with folded := b.folded + 1 }) hfull
    rw [run_cons, run_append, hcontent, step, henter, hinner]
    obtain ⟨frames, folded⟩ := b
    cases frames <;> rfl

end Builder

/-- Text behind text is the same as both in one. -/
theorem Frame.take_text_take_text (frame : Frame) (first second : String) :
    (frame.take (.text first)).take (.text second) = frame.take (.text (first ++ second)) := by
  by_cases h : frame.collectsLiteral
  · have htake : ∀ content, frame.take (.text content) = frame.pushLiteral content :=
      fun _ => if_pos h
    have hsecond : (frame.pushLiteral first).take (.text second) =
        (frame.pushLiteral first).pushLiteral second := if_pos h
    rw [htake, htake, hsecond]
    unfold pushLiteral
    rw [String.append_assoc]
  · have htake : ∀ content, frame.take (.text content) = frame.push (.text content) :=
      fun _ => if_neg h
    have hpush : ¬ (frame.push (.text first)).collectsLiteral := by
      rwa [collectsLiteral_eq (frame.pending_push _)]
    have hsecond : (frame.push (.text first)).take (.text second) =
        (frame.push (.text first)).push (.text second) := if_neg hpush
    rw [htake, htake, hsecond]
    -- the text before, if there is any, is continued twice
    obtain ⟨pending, children, literal⟩ := frame
    rcases children with _ | ⟨last, rest⟩
    · rfl
    · cases last with
      | text previous => simp only [push, String.append_assoc]
      | _ => rfl

/-! ## Trees -/

/-- **The limit takes away the containers beyond it and nothing else.** The
tree of a stream is that of the stream without them under any limit that
is no lower, and so under one that no container reaches. A container is
taken away with both its ends and all those inside it, and its content
stays where it was: the innermost container kept takes it in its order,
and text behind text as one. -/
theorem ofEvents_eq_stripDeep (limit : Nat) (events : List Event) :
    (∀ unlimited, limit ≤ unlimited →
      Node.ofEvents events limit = Node.ofEvents (stripDeep limit 0 events) unlimited) ∧
    (events.length ≤ limit → stripDeep limit 0 events = events) ∧
    (∀ depth event rest, event.isContent →
      stripDeep limit depth (event :: rest) = event :: stripDeep limit depth rest) ∧
    (∀ depth tag inner rest, BalancedEvents inner →
      stripDeep limit depth (.start tag :: (inner ++ .stop :: rest)) =
        if depth < limit then
          .start tag :: (stripDeep limit (depth + 1) inner ++ .stop :: stripDeep limit depth rest)
        else inner.filter Event.isContent ++ stripDeep limit depth rest) ∧
    (∀ b : Builder, ∀ inner, BalancedEvents inner → limit < b.frames.length →
      b.run limit inner =
        b.onTop fun top => (inner.filter Event.isContent).foldl Frame.take top) ∧
    ∀ (frame : Frame) first second,
      (frame.take (.text first)).take (.text second) = frame.take (.text (first ++ second)) := by
  refine ⟨fun unlimited hle => ?_, fun hlength => stripDeep_eq_self (by omega),
    fun depth event rest h => stripDeep_cons_of_isContent h limit depth rest,
    fun depth tag inner rest h => ?_, fun b inner => Builder.run_of_full,
    Frame.take_text_take_text⟩
  · unfold Node.ofEvents Builder.finish
    rw [(Builder.Mirrors.start limit).run hle]
  · rw [stripDeep_enclosed h]
    split
    · rfl
    · rename_i hdepth
      rw [stripDeep_of_le h (Nat.le_succ_of_le (Nat.not_lt.mp hdepth))]

/-- Two quotes in a third, under a limit of one: their text goes to the
quote around them. -/
theorem nested_quotes_folded :
    let inner := [Event.start .blockQuote, .text "a", .stop]
    let events := [Event.start .blockQuote] ++ inner ++ [.softBreak] ++ inner ++ [.stop]
    stripDeep 1 0 events = [.start .blockQuote, .text "a", .softBreak, .text "a", .stop] ∧
    Node.ofEvents events 1 = Node.ofEvents (stripDeep 1 0 events) 512 ∧
    ∀ b : Builder, 1 < b.frames.length →
      b.run 1 inner = b.onTop fun top => top.take (.text "a") := by
  intro inner events
  obtain ⟨htree, -, -, -, hcontent, -⟩ := ofEvents_eq_stripDeep 1 events
  have hinner : BalancedEvents inner := .enclosed .blockQuote (fun _ _ => trivial) (.content _ rfl)
  exact ⟨rfl, htree 512 (by decide), fun b hfull => hcontent b inner hinner hfull⟩

end StyledMarkdown
