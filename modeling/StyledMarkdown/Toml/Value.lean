import StyledMarkdown.Number.Binary
/-!
# Values of a TOML document

A document is a table, and a table maps keys to values. Dates and times
are recognised and not kept, because nothing here asks for one.
-/

namespace StyledMarkdown.Toml

inductive Value where
  | string (text : String)
  | integer (n : Int)
  | float (x : Binary)
  /-- A number that no width holds. -/
  | outOfRange
  | boolean (b : Bool)
  | datetime
  | array (items : List Value)
  | table (entries : List (String × Value))

end StyledMarkdown.Toml
