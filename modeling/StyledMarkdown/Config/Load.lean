import StyledMarkdown.Config
import StyledMarkdown.File
import StyledMarkdown.Toml.Document
/-!
# Reading a configuration

A configuration is a TOML document with a table for each of its parts.
Everything in it is optional: what it leaves out keeps its default, and
what it adds is ignored. Of several wrong values the first in the order
of the names is the one complained about.
-/

namespace StyledMarkdown

open Toml (Value)

/-! ## Single values -/

def readPoints : Value → Except ConfigFault Points
  | .integer n => if (Saturating.clamp n : Points).val = n then .ok (.clamp n) else .error .mismatch
  | _ => .error .mismatch

/-- A float in single precision. An integer of up to 64 bits is one too. -/
def readFloat : Value → Except ConfigFault Binary
  | .integer n =>
    if -(capacity 63 : Int) ≤ n && n < capacity 64 then .ok (.ofInt .single n)
    else .error .mismatch
  | .float x => .ok (x.round .single)
  | _ => .error .mismatch

def readCount : Value → Except ConfigFault Nat
  | .integer n => if 0 ≤ n && n < capacity 64 then .ok n.toNat else .error .mismatch
  | _ => .error .mismatch

def readBool : Value → Except ConfigFault Bool
  | .boolean b => .ok b
  | _ => .error .mismatch

def readString : Value → Except ConfigFault String
  | .string text => .ok text
  | _ => .error .mismatch

def readColor (v : Value) : Except ConfigFault Color := do
  let text ← readString v
  match Color.parse? text with
  | some color => return color
  | none => throw (.color text)

/-- The first six items of an array. Further ones do not count. -/
def readMultipliers : Value → Except ConfigFault (Vector Binary 6)
  | .array items => do
    let xs ← (items.take 6).mapM readFloat
    if h : xs.toArray.size = 6 then return ⟨xs.toArray, h⟩ else throw .mismatch
  | _ => .error .mismatch

mutual

/-- Whether every number in a value has a width that holds it. -/
def inRange : Value → Bool
  | .outOfRange => false
  | .array items => allInRange items
  | .table entries => allEntriesInRange entries
  | _ => true

def allInRange : List Value → Bool
  | [] => true
  | v :: rest => inRange v && allInRange rest

def allEntriesInRange : List (String × Value) → Bool
  | [] => true
  | (_, v) :: rest => inRange v && allEntriesInRange rest

end

/-! ## Records -/

/-- The fields of a record in their order: the name of each, and how its
value changes the record. -/
abbrev Fields (σ : Type) := List (String × (σ → Value → Except ConfigFault σ))

/-- A field whose value has a reader of its own. -/
def field {σ α : Type} (name : String) (read : Value → Except ConfigFault α)
    (set : σ → α → σ) : String × (σ → Value → Except ConfigFault σ) :=
  (name, fun record v => set record <$> read v)

/-- **Reads a record over its defaults.** A table names the fields, and an
array lists them in their order. A date names a field that no record has. -/
def readRecord {σ : Type} (fields : Fields σ) (defaults : σ) : Value → Except ConfigFault σ
  | .table entries =>
    (entries.mergeSort fun a b => a.1 ≤ b.1).foldlM (fun record (name, v) =>
      match fields.lookup name with
      | some set => set record v
      | none => if inRange v then .ok record else .error .mismatch) defaults
  | .array items => (fields.zip items).foldlM (fun record ((_, set), v) => set record v) defaults
  | .datetime => .ok defaults
  | _ => .error .mismatch

def FontConfig.fields : Fields FontConfig := [
  field "size" readPoints fun c size => { c with size },
  field "color" readColor fun c color => { c with color }]

def ParagraphConfig.fields : Fields ParagraphConfig := [
  field "spacing_before" readPoints fun c spacingBefore => { c with spacingBefore },
  field "spacing_after" readPoints fun c spacingAfter => { c with spacingAfter }]

def HeadingConfig.fields : Fields HeadingConfig := [
  field "multipliers" readMultipliers fun _ multipliers => { multipliers }]

def QuoteConfig.fields : Fields QuoteConfig := [
  field "color" readColor fun c color => { c with color },
  field "stripe_color" readColor fun c stripeColor => { c with stripeColor },
  field "stripe_width" readPoints fun c stripeWidth => { c with stripeWidth },
  field "gap_width" readPoints fun c gapWidth => { c with gapWidth },
  field "spacing_before" readPoints fun c spacingBefore => { c with spacingBefore },
  field "spacing_after" readPoints fun c spacingAfter => { c with spacingAfter }]

def ListConfig.fields : Fields ListConfig := [
  field "prefix_color" readColor fun c prefixColor => { c with prefixColor },
  field "prefix_gap_width" readPoints fun c prefixGapWidth => { c with prefixGapWidth },
  field "item_spacing_before" readPoints fun c itemSpacingBefore => { c with itemSpacingBefore },
  field "item_spacing_after" readPoints fun c itemSpacingAfter => { c with itemSpacingAfter },
  field "digit_width" readFloat fun c digitWidth => { c with digitWidth }]

def CodeConfig.fields : Fields CodeConfig := [
  field "color" readColor fun c color => { c with color },
  field "block_indentation" readPoints fun c blockIndentation => { c with blockIndentation }]

def LinksConfig.fields : Fields LinksConfig := [
  field "color" readColor fun c color => { c with color },
  field "custom_scheme" readString fun c scheme => { c with customScheme := some scheme }]

def RenderOptions.fields : Fields RenderOptions := [
  field "soft_breaks_as_hard_breaks" readBool fun c softBreaksAsHardBreaks =>
    { c with softBreaksAsHardBreaks },
  field "flatten_nested_quotes" readBool fun c flattenNestedQuotes =>
    { c with flattenNestedQuotes },
  field "max_depth" readCount fun c maxDepth => { c with maxDepth }]

namespace Config

def fields : Fields Config := [
  field "density" readFloat fun c density => { c with density },
  field "font" (readRecord FontConfig.fields {}) fun c font => { c with font },
  field "paragraph" (readRecord ParagraphConfig.fields {}) fun c paragraph => { c with paragraph },
  field "heading" (readRecord HeadingConfig.fields {}) fun c heading => { c with heading },
  field "quote" (readRecord QuoteConfig.fields {}) fun c quote => { c with quote },
  field "list" (readRecord ListConfig.fields {}) fun c list => { c with list },
  field "code" (readRecord CodeConfig.fields {}) fun c code => { c with code },
  field "links" (readRecord LinksConfig.fields {}) fun c links => { c with links },
  field "render" (readRecord RenderOptions.fields {}) fun c render => { c with render }]

/-! ## Documents -/

/-- **The configuration in a text.** -/
def ofToml (text : String) : Except ConfigError Config :=
  match Toml.parse? text with
  | none => .error (.invalid .malformed)
  | some entries => (readRecord fields {} (.table entries)).mapError .invalid

/-- The configuration in a file. Without a file it is the default. -/
def load (path : String) : FileResult → Except ConfigError Config
  | .missing => .ok {}
  | .unreadable _ => .error (.unreadable path)
  | .content text => ofToml text

/-- The style sheet that comes with the program, line by line. -/
def bundledLines : List String := [
  "# Default style sheet. Point values are scaled by the density.",
  "density = 1.0",
  "",
  "[font]",
  "size = 17",
  "color = \"#000000\"",
  "",
  "[paragraph]",
  "spacing_before = 6",
  "spacing_after = 6",
  "",
  "[heading]",
  "multipliers = [1.7, 1.5, 1.25, 1.25, 1.25, 1.25]",
  "",
  "[quote]",
  "color = \"#888888\"",
  "stripe_color = \"#888888\"",
  "stripe_width = 2",
  "gap_width = 16",
  "spacing_before = 16",
  "spacing_after = 16",
  "",
  "[list]",
  "prefix_color = \"#888888\"",
  "prefix_gap_width = 8",
  "item_spacing_before = 4",
  "item_spacing_after = 4",
  "digit_width = 10.0",
  "",
  "[code]",
  "color = \"#888888\"",
  "block_indentation = 0",
  "",
  "[links]",
  "color = \"#0000ff\"",
  "# custom_scheme = \"wire://\"",
  "",
  "[render]",
  "soft_breaks_as_hard_breaks = true",
  "flatten_nested_quotes = true",
  "max_depth = 256"]

/-- The configuration that comes with the program, or the default one if
that is not in order. -/
def bundled : Config :=
  match ofToml (String.intercalate "\n" bundledLines) with
  | .ok config => config
  | .error _ => {}

end Config

end StyledMarkdown
