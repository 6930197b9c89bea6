import StyledMarkdown.Text.Quoted
/-!
# Links

What a rendered link opens. Two actions are the same when they name the
same destination under the same custom scheme.
-/

namespace StyledMarkdown

/-- A link that can be followed. -/
structure LinkAction where
  /-- The destination as written in the document. -/
  url : String
  /-- Destinations that begin with this open as they are written. -/
  customScheme : Option String := none
deriving DecidableEq

/-- The action as a record on one line, open at its end. -/
def LinkAction.describe (action : LinkAction) : String :=
  let scheme := match action.customScheme with
    | some scheme => "Some(" ++ Text.quoted scheme ++ ")"
    | none => "None"
  "LinkAction \x7b url: " ++ Text.quoted action.url ++ ", custom_scheme: " ++ scheme ++ ", .. \x7d"

end StyledMarkdown
