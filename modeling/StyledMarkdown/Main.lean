import StyledMarkdown.Cli
/-!
# The program

Reads the files that the arguments name, runs the command on them, and
prints what it came to.
-/

namespace StyledMarkdown.Cli

def usage : String := "Usage: styled-markdown [OPTIONS] <INPUT>"

/-- What comes of reading a file. -/
def readFile (path : String) : IO FileResult := do
  try
    match String.fromUTF8? (← IO.FS.readBinFile path) with
    | some text => return .content text
    | none => return .unreadable "stream did not contain valid UTF-8"
  catch
    | .noFileOrDirectory .. => return .missing
    | .permissionDenied .. => return .unreadable "Permission denied (os error 13)"
    | .inappropriateType .. => return .unreadable "Is a directory (os error 21)"
    | e => return .unreadable (toString e)

/-- Runs the command and returns its exit code. -/
def execute (arguments : List String) : IO UInt32 := do
  let paths := match Arguments.takeAll {} arguments with
    | some a => a.input.toList ++ a.config.toList
    | none => []
  let files ← paths.mapM fun path => return (path, ← readFile path)
  match run? (fun path => (files.lookup path).getD .missing) arguments with
  | some outcome =>
    IO.print outcome.output
    IO.eprint outcome.complaint
    return outcome.code.toUInt32
  | none =>
    IO.eprintln usage
    return 2

end StyledMarkdown.Cli

def main (arguments : List String) : IO UInt32 := StyledMarkdown.Cli.execute arguments
