import StyledMarkdown.Config.Load
import StyledMarkdown.Dump
import StyledMarkdown.Markup.Document
import StyledMarkdown.Renderer
/-!
# The command

A run of the command as a function: from its arguments and a way to read
files to what it prints and the code it exits with. The file of markdown
is read before the style sheet, and what is printed stays printed when a
later step fails.
-/

namespace StyledMarkdown.Cli

/-! ## Arguments -/

structure Arguments where
  /-- The file of markdown. -/
  input : Option String := none
  /-- The file of the style sheet. -/
  config : Option String := none
  softBreaksAsSpaces : Bool := false
  /-- Prints the tree of the document before the rendering. -/
  tree : Bool := false

namespace Arguments

/-- Takes the input, which is given once. -/
def setInput (a : Arguments) (path : String) : Option Arguments :=
  if a.input.isNone then some { a with input := some path } else none

/-- Takes the style sheet, which is given at most once. -/
def setConfig (a : Arguments) (path : String) : Option Arguments :=
  if a.config.isNone && !path.isEmpty then some { a with config := some path } else none

/-- Takes an argument that stands for itself. -/
def takeSingle (a : Arguments) (argument : String) : Option Arguments :=
  match argument.toList with
  | '-' :: 'c' :: '=' :: path => a.setConfig (String.ofList path)
  | '-' :: 'c' :: path => a.setConfig (String.ofList path)
  | '-' :: '-' :: 'c' :: 'o' :: 'n' :: 'f' :: 'i' :: 'g' :: '=' :: path =>
    a.setConfig (String.ofList path)
  | '-' :: _ :: _ =>
    if argument == "--soft-breaks-as-spaces" && !a.softBreaksAsSpaces then
      some { a with softBreaksAsSpaces := true }
    else if argument == "--tree" && !a.tree then some { a with tree := true }
    else none
  | _ => a.setInput argument

/-- Takes all arguments. Two dashes alone end the options. -/
def takeAll (a : Arguments) : List String → Option Arguments
  | [] => some a
  | "--" :: rest => rest.foldlM setInput a
  | "--config" :: path :: rest | "-c" :: path :: rest =>
    if path.startsWith "-" && path != "-" then none
    else (a.setConfig path).bind (takeAll · rest)
  | argument :: rest => (a.takeSingle argument).bind (takeAll · rest)

end Arguments

/-! ## Output -/

/-- A column of at least `width` characters. -/
def column (width : Nat) (text : String) : String :=
  text ++ String.ofList (List.replicate (width - text.length) ' ')

/-- The line of an annotation. -/
def annotationLine (a : Annotation) : String :=
  let range := toString a.start ++ ".." ++ toString a.stop
  let (priority, kind, directives) := match a.mark with
    | .span span => (span.priority.name, span.kind.name, span.directives.map Directive.toText)
    | .layout directive => ("-", "layout", [directive.toText])
  column 12 range ++ column 8 priority ++ column 20 kind ++
    String.intercalate ", " directives ++ "\n"

/-- The text of a rendering and its annotations. -/
def report (r : Rendered) : String :=
  r.text ++ "\n\n" ++ String.join (r.annotations.map annotationLine)

/-- The complaint that a run ends with, and what it was caused by. -/
def complaint (message : String) (cause : Option String := none) : String :=
  "Error: " ++ message ++ match cause with
    | some cause => "\n\nCaused by:\n    " ++ cause ++ "\n"
    | none => "\n"

/-! ## A run -/

/-- How a run ends: its exit code, what it printed and what it complained about. -/
structure Outcome where
  code : Nat
  output : String
  complaint : String

/-- A run that fails after printing something. -/
def failed (output message : String) (cause : Option String := none) : Outcome :=
  ⟨1, output, complaint message cause⟩

/-- Renders a text and reports it. -/
def display (a : Arguments) (config : Config) (markdown : String) : Outcome :=
  let options := { config.render with
    softBreaksAsHardBreaks := config.render.softBreaksAsHardBreaks && !a.softBreaksAsSpaces }
  let document := Node.ofMarkdown markdown
  let tree := if a.tree then document.dump ++ "\n" else ""
  match render ⟨config⟩ options document with
  | .ok r => ⟨0, tree ++ report r, ""⟩
  | .error e => failed tree "rendering document" e.message

/-- **A run of the command**, none if its arguments make no sense. -/
def run? (read : String → FileResult) (arguments : List String) : Option Outcome := do
  let a ← Arguments.takeAll {} arguments
  let input ← a.input
  return match read input with
    | .content markdown =>
      match a.config with
      | none => display a .bundled markdown
      | some path =>
        let file := read path
        match Config.load path file with
        | .ok config => display a config markdown
        | .error e => failed "" e.message file.reason?
    | file => failed "" ("reading " ++ input) file.reason?

end StyledMarkdown.Cli
