/-!
# Files

What can come of reading a file as text, as a value: whoever reads files
hands over one of these, and everything after that is pure.
-/

namespace StyledMarkdown

inductive FileResult where
  | missing
  /-- The file is there, and its text is not to be had. -/
  | unreadable (reason : String)
  | content (text : String)

/-- Why there is no text. -/
def FileResult.reason? : FileResult → Option String
  | missing => some "No such file or directory (os error 2)"
  | unreadable reason => some reason
  | content _ => none

end StyledMarkdown
