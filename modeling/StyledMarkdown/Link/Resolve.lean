import StyledMarkdown.Link
import StyledMarkdown.Text.Blank
import StyledMarkdown.Url.Parse
/-!
# Where a link leads

A destination is rarely a whole URL. One that is none by itself is tried
once more as an address on the web, and is left alone when that fails as
well.
-/

namespace StyledMarkdown

/-- The URL that a destination most likely means. -/
def guessUrl (raw : String) : String :=
  let trimmed := Text.trim raw.toList
  match Url.parse? trimmed with
  | some url => String.ofList url.toText
  | none =>
    match Url.parse? ("http://".toList ++ trimmed) with
    | some url => String.ofList url.toText
    | none => raw

/-- **What a link opens.** A destination under the custom scheme opens as
it is written. -/
def LinkAction.resolvedUrl (action : LinkAction) : String :=
  match action.customScheme with
  | some scheme => if action.url.startsWith scheme then action.url else guessUrl action.url
  | none => guessUrl action.url

end StyledMarkdown
