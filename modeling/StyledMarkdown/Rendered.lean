import StyledMarkdown.Span
import StyledMarkdown.Text.Bytes
/-!
# Rendered documents

Plain text with the annotations that style it, and questions about them.
Every answer that quotes the text goes through `slice?`, which refuses a
range that would cut a character.
-/

namespace StyledMarkdown

/-- A text and its annotations, in the order they were set. -/
structure Rendered where
  text : String
  annotations : List Annotation

namespace Rendered

variable (r : Rendered)

/-- The text from one offset to another. -/
def slice? (start stop : Nat) : Option String :=
  (Text.slice? r.text.toList start stop).map String.ofList

/-- The text under an annotation. -/
def textAt? (a : Annotation) : Option String := r.slice? a.start a.stop

/-- The spans with their ranges, in the order they were set. -/
def spans : List (GroupSpan × Nat × Nat) :=
  r.annotations.filterMap fun a => a.span?.map fun span => (span, a.start, a.stop)

/-- The texts under the spans of a kind. -/
def spanTexts? (kind : String) : Option (List String) :=
  (r.spans.filter fun (span, _) => span.kind.name == kind).mapM fun (_, start, stop) =>
    r.slice? start stop

/-- The directives of layout set over exactly this range. -/
def layoutsIn (start stop : Nat) : List Directive :=
  (r.annotations.filter fun a => a.start == start && a.stop == stop).filterMap Annotation.layout?

/-- Whether one span is inside another or, over as much text, comes first
by priority. -/
def tighter : GroupSpan × Nat × Nat → GroupSpan × Nat × Nat → Bool
  | (s, start, stop), (t, start', stop') =>
    stop - start < stop' - start' ||
      (stop - start == stop' - start' && s.priority.rank < t.priority.rank)

/-- The first of the tightest spans. -/
def tightest? : List (GroupSpan × Nat × Nat) → Option (GroupSpan × Nat × Nat)
  | [] => none
  | s :: ss => some (ss.foldl (fun best t => if tighter t best then t else best) s)

/-- **The unit of markdown at an offset**: a node for the innermost span
that covers it. -/
def nodeAt? (offset : Nat) : Option Node := do
  let covering := r.spans.filter fun (_, start, stop) => start ≤ offset && offset < stop
  let (span, start, stop) ← tightest? covering
  let literal ← r.slice? start stop
  return span.toNode literal

/-- The links among the directives of the spans, each with its span and range. -/
def links : List (GroupSpan × LinkAction × Nat × Nat) :=
  r.spans.flatMap fun (span, start, stop) =>
    span.directives.filterMap fun
      | .link action => some (span, action, start, stop)
      | _ => none

end Rendered

end StyledMarkdown
