import Mathlib.Data.Option.Basic
import StyledMarkdown.Markup.Document
import StyledMarkdown.Proofs.Builder.Content
import StyledMarkdown.Proofs.Builder.Items
import StyledMarkdown.Proofs.Builder.Shape
/-!
# Items of markup

The events of a text of markdown are regular: items are opened by lists
and by nothing else, a block of code or of markup holds text only, and no
block opens inside a link, an image or emphasis. So the tree of a text has
its items in lists, its content is what the events carry, and its height
and its shape are those of the tree of such a stream, whatever the nesting
limit. What a paragraph or a heading is made of opens no block at all,
however its emphasis and its links pair up.
-/

namespace StyledMarkdown

/-- **What a container of markup may hold.** -/
def Tag.Holds (tag : Tag) (event : Event) : Prop := tag.Admits event ∧ tag.KeepsInline event

/-- A block that does not keep its text may hold anything. -/
theorem Tag.holds_of_isBlock {tag : Tag} (h : tag.isBlock) (hraw : tag.isRaw = false)
    (event : Event) : tag.Holds event :=
  ⟨tag.admits_of_not_isRaw (Bool.eq_false_iff.mp hraw) event, keepsInline_of_isBlock h event⟩

/-- A block that keeps its text holds text. -/
theorem Tag.holds_of_isRaw {tag : Tag} {event : Event} (h : tag.isBlock) (hevent : event.isRaw) :
    tag.Holds event := ⟨fun _ => hevent, keepsInline_of_isBlock h event⟩

/-- **Events that open no block**, which may stand in a paragraph. -/
structure Flat (events : List Event) : Prop where
  regular : Regular Tag.Holds false events
  inline : ∀ event ∈ events, ¬ event.opensBlock

namespace Flat

variable {events rest : List Event}

theorem nil : Flat [] := ⟨.nil false, List.forall_mem_nil _⟩

theorem content (event : Event) (h : event.isContent) : Flat [event] := by
  refine ⟨.content event h, List.forall_mem_singleton.mpr ?_⟩
  cases event with
  | start | stop => cases h
  | _ => exact Bool.false_ne_true

theorem append (h : Flat events) (hrest : Flat rest) : Flat (events ++ rest) :=
  ⟨h.regular.append hrest.regular, List.forall_mem_append.mpr ⟨h.inline, hrest.inline⟩⟩

theorem enclosed {tag : Tag} (htag : tag.isInline) (h : Flat events) :
    Flat (.start tag :: events ++ [.stop]) := by
  have htags : ¬ tag.isBlock ∧ ¬ tag.isItem ∧ ¬ tag.isList ∧ ¬ tag.isRaw ∧
      ¬ tag.isUnsupported := by
    cases tag with
    | emphasis | strong | link | image => exact ⟨nofun, nofun, nofun, nofun, nofun⟩
    | _ => cases htag
  obtain ⟨hblock, hitem, hlist, hraw, hsupported⟩ := htags
  refine ⟨.enclosed tag (Bool.eq_false_iff.mpr hitem) hsupported (fun event hevent =>
    ⟨tag.admits_of_not_isRaw hraw event, fun _ => h.inline event hevent⟩) ?_, ?_⟩
  · rw [Bool.eq_false_iff.mpr hlist]
    exact h.regular
  · exact List.forall_mem_cons.mpr
      ⟨hblock, List.forall_mem_append.mpr ⟨h.inline, List.forall_mem_singleton.mpr nofun⟩⟩

theorem flatMap {α : Type} {f : α → List Event} (items : List α)
    (h : ∀ item ∈ items, Flat (f item)) : Flat (items.flatMap f) := by
  induction items with
  | nil => exact nil
  | cons item items ih =>
    obtain ⟨hitem, hitems⟩ := List.forall_mem_cons.mp h
    exact hitem.append (ih hitems)

end Flat

namespace Markup

/-! ## Emphasis -/

section Emphasis

variable {pieces stack inside : List Piece}

/-- Pieces whose events are flat, whatever of them still pairs up. -/
def AllFlat (pieces : List Piece) : Prop := ∀ piece ∈ pieces, Flat piece.events

theorem flat_literalRun (sign : Char) (count : Nat) : Flat (literalRun sign count) := by
  unfold literalRun
  split
  · exact .nil
  · exact .content _ rfl

theorem flat_emphasize {events : List Event} (h : Flat events) (count : Nat) :
    Flat (emphasize events count) := by
  induction events, count using emphasize.induct with
  | case1 => exact h
  | case2 => exact .enclosed rfl h
  | case3 events count ih => exact ih (.enclosed rfl h)

theorem flat_run {sign : Char} {count length : Nat} {opens closes : Bool} :
    Flat (Piece.run sign count length opens closes).events := flat_literalRun sign count

theorem allFlat_cons {piece : Piece} :
    AllFlat (piece :: pieces) ↔ Flat piece.events ∧ AllFlat pieces := List.forall_mem_cons

theorem opener?_flat {sign : Char} {length : Nat} {both : Bool} {o : Opener}
    (hinside : AllFlat inside) (hstack : AllFlat stack)
    (h : opener? sign length both inside stack = some o) :
    AllFlat o.inside ∧ AllFlat o.outside := by
  induction stack generalizing inside with
  | nil => cases h
  | cons piece rest ih =>
    obtain ⟨hpiece, hrest⟩ := allFlat_cons.mp hstack
    have hnext := ih (allFlat_cons.mpr ⟨hpiece, hinside⟩) hrest
    unfold opener? at h
    split at h
    · split at h
      · obtain rfl := Option.some.inj h
        exact ⟨hinside, hrest⟩
      · exact hnext h
    · exact hnext h

theorem closeRun_flat {sign : Char} {length : Nat} {opens closes : Bool} (fuel count : Nat)
    (hstack : AllFlat stack) : AllFlat (closeRun sign length opens closes fuel count stack) := by
  induction fuel generalizing count stack with
  | zero => exact allFlat_cons.mpr ⟨flat_run, hstack⟩
  | succ fuel ih =>
    unfold closeRun
    split
    · exact hstack
    · split
      · rename_i o ho
        split at ho
        · -- a pair is made: what stood between its runs becomes one piece
          obtain ⟨hinside, houtside⟩ :=
            opener?_flat (fun _ hp => absurd hp List.not_mem_nil) hstack ho
          have hevents := flat_emphasize (Flat.flatMap o.inside hinside) (min count o.count)
          refine ih _ (allFlat_cons.mpr ⟨hevents, ?_⟩)
          split
          · exact allFlat_cons.mpr ⟨flat_run, houtside⟩
          · exact houtside
        · cases ho
      · split
        · exact allFlat_cons.mpr ⟨flat_run, hstack⟩
        · exact allFlat_cons.mpr ⟨flat_literalRun sign count, hstack⟩

theorem pairRuns_flat (hstack : AllFlat stack) (hpieces : AllFlat pieces) :
    AllFlat (pairRuns stack pieces) := by
  induction pieces generalizing stack with
  | nil => exact hstack
  | cons piece rest ih =>
    obtain ⟨hpiece, hrest⟩ := allFlat_cons.mp hpieces
    cases piece with
    | run => exact ih (closeRun_flat _ _ hstack) hrest
    | _ => exact ih (allFlat_cons.mpr ⟨hpiece, hstack⟩) hrest

theorem settleLastBreak_flat (h : AllFlat pieces) : AllFlat (settleLastBreak pieces) := by
  unfold settleLastBreak
  split
  · split
    · exact allFlat_cons.mpr ⟨.content _ rfl, (allFlat_cons.mp h).2⟩
    · exact h
  · exact h

theorem AllFlat.reverse (h : AllFlat pieces) : AllFlat pieces.reverse :=
  fun piece hp => h piece (List.mem_reverse.mp hp)

/-- **Settled pieces give flat events.** -/
theorem settle_flat (h : AllFlat pieces) : Flat (settle pieces) := by
  have hnil : AllFlat [] := fun _ hp => absurd hp List.not_mem_nil
  exact Flat.flatMap _ (pairRuns_flat hnil (settleLastBreak_flat h).reverse).reverse

end Emphasis

/-! ## The scan -/

section Scan

variable {definitions : Definitions} {s : Scan} {rest : List Glyph}

theorem text_flat (h : AllFlat s.pieces) (cs : List Char) : AllFlat (s.text cs).pieces := by
  unfold Scan.text
  split
  · exact h
  · exact allFlat_cons.mpr ⟨.content _ rfl, h⟩

theorem pushDone_flat (h : AllFlat s.pieces) {events : List Event} (hevents : Flat events)
    (previous : Char) : AllFlat (s.push (.done events) previous).pieces :=
  allFlat_cons.mpr ⟨hevents, h⟩

theorem lastBracket?_flat {inside pieces : List Piece} {link : List Piece × Bool × Bool ×
      List Glyph × List Piece} (hinside : AllFlat inside) (hpieces : AllFlat pieces)
    (h : lastBracket? inside pieces = some link) :
    AllFlat link.1 ∧ AllFlat link.2.2.2.2 := by
  induction pieces generalizing inside with
  | nil => cases h
  | cons piece before ih =>
    obtain ⟨hpiece, hbefore⟩ := allFlat_cons.mp hpieces
    cases piece with
    | bracket =>
      obtain rfl := Option.some.inj h
      exact ⟨hinside.reverse, hbefore⟩
    | _ => exact ih (allFlat_cons.mpr ⟨hpiece, hinside⟩) hbefore h

theorem deactivate_flat {pieces : List Piece} (h : AllFlat pieces) :
    AllFlat (deactivate pieces) := by
  induction pieces with
  | nil => exact h
  | cons piece rest ih =>
    obtain ⟨hpiece, hrest⟩ := allFlat_cons.mp h
    cases piece with
    | bracket image active text =>
      cases image with
      | false => exact allFlat_cons.mpr ⟨.content _ rfl, ih hrest⟩
      | true => exact allFlat_cons.mpr ⟨hpiece, ih hrest⟩
    | _ => exact allFlat_cons.mpr ⟨hpiece, ih hrest⟩

theorem linkEvents_flat {image : Bool} {target : Target} {inside : List Event}
    (h : Flat inside) : Flat (linkEvents image target inside) := by
  cases image with
  | false => exact .enclosed rfl h
  | true => exact .enclosed rfl h

theorem closeBracket_flat (h : AllFlat s.pieces) :
    AllFlat (closeBracket definitions s rest).1.pieces := by
  unfold closeBracket
  split
  · exact text_flat h _
  · rename_i inside image active text before hlink
    obtain ⟨hinside, hbefore⟩ := lastBracket?_flat (fun _ hp => absurd hp List.not_mem_nil) h hlink
    dsimp only
    split
    · refine pushDone_flat ?_ (linkEvents_flat (settle_flat hinside)) ')'
      dsimp only
      split
      · exact hbefore
      · exact deactivate_flat hbefore
    · refine text_flat ?_ _
      refine List.forall_mem_append.mpr ⟨hinside, allFlat_cons.mpr ⟨.content _ rfl, hbefore⟩⟩

theorem overMargin_pieces (margin : List Glyph) : (s.overMargin margin).pieces = s.pieces := by
  unfold Scan.overMargin
  split <;> rfl

theorem lineBreak_flat (h : AllFlat s.pieces) (blanks : Nat) (next : List Glyph) :
    AllFlat (lineBreak s blanks next).1.pieces := by
  unfold lineBreak
  dsimp only
  rw [overMargin_pieces]
  refine pushDone_flat h ?_ _
  split
  · exact .content _ rfl
  · exact .content _ rfl

/-- The events of an automatic link. -/
theorem autolink_flat (address : String) :
    Flat [.start (.link address ""), .text address, .stop] :=
  Flat.enclosed rfl (.content (.text address) rfl)

/-- **One step of the scan adds flat events only.** -/
theorem scanStep_flat (h : AllFlat s.pieces) (keepBlanks : Bool) (g : Glyph) :
    AllFlat (scanStep definitions keepBlanks s g rest).1.pieces := by
  -- the cases are those of the character read, in the order in which it is looked at
  unfold scanStep
  dsimp only
  split
  · -- an escape: of a line end, of a code sign, of another sign, or of nothing
    split
    · exact text_flat h _
    · split
      · rw [overMargin_pieces]
        exact allFlat_cons.mpr ⟨.content _ rfl, h⟩
      · split
        · split
          · exact pushDone_flat (text_flat h _) (.content _ rfl) _
          · exact text_flat h _
        · split
          · exact text_flat h _
          · exact text_flat h _
  · -- code, if its end is found
    split
    · exact pushDone_flat h (.content _ rfl) _
    · exact text_flat h _
  -- runs of either sign stay open until they are paired
  · split
    · exact allFlat_cons.mpr ⟨flat_run, h⟩
    · exact text_flat h _
  · split
    · exact allFlat_cons.mpr ⟨flat_run, h⟩
    · exact text_flat h _
  -- brackets stay open until the one that closes them
  · split
    · exact allFlat_cons.mpr ⟨.content _ rfl, h⟩
    · exact text_flat h _
  · exact allFlat_cons.mpr ⟨.content _ rfl, h⟩
  · exact closeBracket_flat h
  · -- an address in angle brackets, or markup
    split
    · exact pushDone_flat h (autolink_flat _) '>'
    · split
      · exact pushDone_flat h (.content _ rfl) '>'
      · exact text_flat h _
  · split
    · exact pushDone_flat h (.content _ rfl) _
    · exact text_flat h _
  · split
    · split
      · exact lineBreak_flat h _ _
      · split
        · exact h
        · exact text_flat h _
    · exact text_flat h _

theorem scan_flat (h : AllFlat s.pieces) (keepBlanks : Bool) (fuel : Nat) (gs : List Glyph) :
    AllFlat (scan definitions keepBlanks fuel s gs).pieces := by
  -- with no fuel left the scan stops where it is, so the pieces are flat at every step
  induction fuel generalizing s gs with
  | zero => exact h
  | succ fuel ih =>
    cases gs with
    | nil => exact h
    | cons g rest => exact ih (scanStep_flat h keepBlanks g) _

end Scan

/-! ## Blocks -/

theorem allFlat_start : AllFlat ({} : Scan).pieces := fun _ hp => absurd hp List.not_mem_nil

theorem inlineEvents_flat (definitions : Definitions) (content : List Glyph) :
    Flat (inlineEvents definitions content) := by
  unfold inlineEvents
  dsimp only
  have hstart : AllFlat (({} : Scan).overMargin (before content (skipMargin content))).pieces := by
    rw [overMargin_pieces]
    exact allFlat_start
  exact settle_flat (scan_flat hstart _ _ _)

theorem headingEvents_flat (definitions : Definitions) (content : List Glyph) (closed : Bool) :
    Flat (headingEvents definitions content closed) := by
  have hscan : AllFlat (scan definitions true (content.length + 1) {} content).pieces :=
    scan_flat allFlat_start _ _ _
  unfold headingEvents
  dsimp only
  refine settle_flat ?_
  split
  · exact allFlat_cons.mpr ⟨.content _ rfl, hscan⟩
  · exact hscan

theorem RawLine.events_flat (line : RawLine) : Flat line.events := by
  have hspaces : Flat (if line.spaces = 0 then []
      else [.text (String.ofList (List.replicate line.spaces ' '))]) := by
    split
    · exact .nil
    · exact .content _ rfl
  have hlast : Flat (if line.last.isEmpty then [] else [.html (String.ofList line.last)]) := by
    split
    · exact .nil
    · exact .content _ rfl
  exact hspaces.append (Flat.append (.content (.html (String.ofList line.text)) rfl) hlast)

theorem RawLine.isRaw_events (line : RawLine) : ∀ event ∈ line.events, event.isRaw := by
  have hspaces : ∀ event ∈ if line.spaces = 0 then []
      else [Event.text (String.ofList (List.replicate line.spaces ' '))], event.isRaw := by
    split
    · exact List.forall_mem_nil _
    · exact List.forall_mem_singleton.mpr rfl
  have hlast : ∀ event ∈ if line.last.isEmpty then []
      else [Event.html (String.ofList line.last)], event.isRaw := by
    split
    · exact List.forall_mem_nil _
    · exact List.forall_mem_singleton.mpr rfl
  exact List.forall_mem_append.mpr ⟨hspaces, List.forall_mem_cons.mpr ⟨rfl, hlast⟩⟩

mutual

/-- **The events of a block are regular.** Right inside a tight item those of
a paragraph are flat. -/
theorem Block.events_regular (definitions : Definitions) (tight : Bool) :
    (block : Block) → Regular Tag.Holds false (block.events definitions tight)
  | .paragraph content => by
    have hinside := inlineEvents_flat definitions content
    rw [Block.events]
    split
    · exact hinside.regular
    · exact .enclosed .paragraph rfl nofun (fun event _ => Tag.holds_of_isBlock rfl rfl event)
        hinside.regular
  | .heading level content true =>
    .enclosed (.heading level) rfl nofun (fun event _ => Tag.holds_of_isBlock rfl rfl event)
      (headingEvents_flat definitions content true).regular
  | .heading level content false =>
    .enclosed (.heading level) rfl nofun (fun event _ => Tag.holds_of_isBlock rfl rfl event)
      (inlineEvents_flat definitions content).regular
  | .rule => .content _ rfl
  | .fencedCode fence literal => by
    rw [Block.events]
    split
    · exact .enclosed (.fencedCode fence) rfl nofun (List.forall_mem_nil _) (.nil false)
    · exact .enclosed (.fencedCode fence) rfl nofun
        (List.forall_mem_singleton.mpr (Tag.holds_of_isRaw rfl rfl)) (.content _ rfl)
  | .indentedCode literal =>
    .enclosed .indentedCode rfl nofun
      (List.forall_mem_singleton.mpr (Tag.holds_of_isRaw rfl rfl)) (.content _ rfl)
  | .html lines => by
    refine .enclosed .htmlBlock rfl nofun (fun event hevent => ?_)
      (Flat.flatMap lines fun line _ => line.events_flat).regular
    obtain ⟨line, -, hline⟩ := List.mem_flatMap.mp hevent
    exact Tag.holds_of_isRaw rfl (line.isRaw_events event hline)
  | .quote content =>
    .enclosed .blockQuote rfl nofun (fun event _ => Tag.holds_of_isBlock rfl rfl event)
      (contentEvents_regular definitions false content)
  | .list marker tight items => by
    -- either tag of a list holds items
    have htag : marker.tag.isItem = false ∧ ¬ marker.tag.isUnsupported ∧ marker.tag.isBlock ∧
        marker.tag.isRaw = false ∧ marker.tag.isList = true := by
      cases marker <;> exact ⟨rfl, nofun, rfl, rfl, rfl⟩
    obtain ⟨hitem, hsupported, hblock, hraw, hlist⟩ := htag
    rw [Block.events]
    refine .enclosed marker.tag hitem hsupported
      (fun event _ => Tag.holds_of_isBlock hblock hraw event) ?_
    rw [hlist]
    exact itemEvents_regular definitions tight items

theorem contentEvents_regular (definitions : Definitions) (tight : Bool) :
    (blocks : List Block) → Regular Tag.Holds false (contentEvents definitions tight blocks)
  | [] => .nil false
  | block :: blocks => (block.events_regular definitions tight).append
      (contentEvents_regular definitions tight blocks)

theorem itemEvents_regular (definitions : Definitions) (tight : Bool) :
    (items : List (List Block)) → Regular Tag.Holds true (itemEvents definitions tight items)
  | [] => .nil true
  | item :: items => (Regular.enclosed .listItem rfl nofun
      (fun event _ => Tag.holds_of_isBlock rfl rfl event)
      (contentEvents_regular definitions tight item)).append
      (itemEvents_regular definitions tight items)

end

/-- **The events of a text of markdown are regular.** -/
theorem events_regular (text : String) : Regular Tag.Holds false (events text) := by
  unfold events
  exact contentEvents_regular _ _ _

end Markup

/-- **Every item of a text of markdown stands in a list**, whatever the
text and the nesting limit. -/
theorem ofMarkdown_itemsInLists (text : String) (limit : Nat) :
    (Node.ofMarkdown text limit).itemsInLists := by
  unfold Node.ofMarkdown
  exact ofEvents_itemsInLists (Markup.events_regular text).listed limit

/-- **The content of a text of markdown does not depend on the nesting
limit**: the leaves of its tree hold what its events carry. -/
theorem ofMarkdown_atoms (text : String) (limit : Nat) :
    (Node.ofMarkdown text limit).atoms = (Markup.events text).flatMap Event.atoms := by
  have hnested : WellNested Tag.Admits (Markup.events text) :=
    (Markup.events_regular text).wellNested.imp fun _ _ h => h.1
  unfold Node.ofMarkdown
  exact hnested.atoms_ofEvents limit

/-- **The tree of a text of markdown** is three levels higher than the
nesting limit at most. -/
theorem ofMarkdown_height_le (text : String) (limit : Nat) :
    (Node.ofMarkdown text limit).height ≤ limit + 3 := by
  have hnested : WellNested Tag.KeepsInline (Markup.events text) :=
    (Markup.events_regular text).wellNested.imp fun _ _ h => h.2
  unfold Node.ofMarkdown
  exact hnested.height_ofEvents_le limit

/-- **The tree of a text of markdown is in shape**: its root is the only
document in it, and all its nodes are as they are below one. -/
theorem ofMarkdown_shape (text : String) (limit : Nat) :
    ∀ above node, (above, node) ∈ (Node.ofMarkdown text limit).inOrder .entering [] →
      (node.isDocument ↔ above = []) ∧
        node.Shape (Builder.FoldsNothing limit {} (Markup.events text))
          (above.head?.any Node.isList) := by
  unfold Node.ofMarkdown
  exact fun _ _ => (Markup.events_regular text).shape_ofEvents

end StyledMarkdown
