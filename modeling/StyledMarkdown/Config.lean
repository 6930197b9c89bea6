import StyledMarkdown.Color
import StyledMarkdown.Number.Binary
import StyledMarkdown.Text.Quoted
/-!
# Configuration

The measurements and colors of a style sheet, and the policies of a
rendering. Every field has a default, and a configuration read from a
file starts from the defaults.
-/

namespace StyledMarkdown

/-- The single precision number nearest to `digits * 10 ^ exponent`. -/
def singleOfDecimal (digits : Nat) (exponent : Int) : Binary :=
  .ofDecimal .single false digits exponent

structure FontConfig where
  size : Points := 17
  color : Color := .black
deriving BEq

structure ParagraphConfig where
  spacingBefore : Points := 6
  spacingAfter : Points := 6
deriving BEq

structure HeadingConfig where
  /-- Sizes relative to the font, for the levels from one to six. -/
  multipliers : Vector Binary 6 :=
    #v[singleOfDecimal 17 (-1), singleOfDecimal 15 (-1), singleOfDecimal 125 (-2),
      singleOfDecimal 125 (-2), singleOfDecimal 125 (-2), singleOfDecimal 125 (-2)]
deriving BEq

/-- The relative size at a level, none outside one to six. -/
def HeadingConfig.multiplier? (heading : HeadingConfig) (level : Nat) : Option Binary :=
  if level = 0 then none else heading.multipliers[level - 1]?

structure QuoteConfig where
  color : Color := .gray
  stripeColor : Color := .gray
  stripeWidth : Points := 2
  /-- Between the stripe and the quoted text. -/
  gapWidth : Points := 16
  spacingBefore : Points := 16
  spacingAfter : Points := 16
deriving BEq

structure ListConfig where
  prefixColor : Color := .gray
  /-- Between the column of the prefixes and the text of the items. -/
  prefixGapWidth : Points := 8
  itemSpacingBefore : Points := 4
  itemSpacingAfter : Points := 4
  /-- The width of the widest digit of the font. -/
  digitWidth : Binary := singleOfDecimal 10 0
deriving BEq

structure CodeConfig where
  color : Color := .gray
  blockIndentation : Points := 0
deriving BEq

structure LinksConfig where
  color : Color := .blue
  /-- Destinations that begin with this open as they are written. -/
  customScheme : Option String := none
deriving BEq

/-- The policies of a rendering. -/
structure RenderOptions where
  /-- A soft break ends the line, and is not a space. -/
  softBreaksAsHardBreaks : Bool := true
  /-- Of quotes nested in each other only the outermost has a span. -/
  flattenNestedQuotes : Bool := true
  maxDepth : Nat := 256
deriving DecidableEq

/-- Everything a style sheet is made from. Lengths in points are
multiplied by `density` before they are used. -/
structure Config where
  density : Binary := singleOfDecimal 1 0
  font : FontConfig := {}
  paragraph : ParagraphConfig := {}
  heading : HeadingConfig := {}
  quote : QuoteConfig := {}
  list : ListConfig := {}
  code : CodeConfig := {}
  links : LinksConfig := {}
  render : RenderOptions := {}
deriving BEq

/-! ## What can go wrong with one -/

/-- Why a text is no configuration. -/
inductive ConfigFault where
  /-- The text is not a document of the format. -/
  | malformed
  /-- A value has a type or a range that its field does not take. -/
  | mismatch
  | color (text : String)
deriving DecidableEq

/-- Why there is no configuration. -/
inductive ConfigError where
  | unreadable (path : String)
  | invalid (fault : ConfigFault)
  | invalidColor (text : String)
deriving DecidableEq

/-- The complaint about a text that is no color. -/
def invalidColorMessage (text : String) : String :=
  "invalid color " ++ Text.quoted text ++ ", expected #RRGGBB or #AARRGGBB"

/-- The message of an error; the detail of a malformed document is left out. -/
def ConfigError.message : ConfigError → String
  | unreadable path => "failed to read config " ++ path
  | invalid (.color text) => "invalid config: " ++ invalidColorMessage text
  | invalid _ => "invalid config"
  | invalidColor text => invalidColorMessage text

/-- Reads a color, or says which text is none. -/
def Color.parse (s : String) : Except ConfigError Color :=
  match Color.parse? s with
  | some color => .ok color
  | none => .error (.invalidColor s)

end StyledMarkdown
