import Sift.Cli.Local

/-!
# Command line

`sift compile FILE` and `sift aggs FILE` (see `Sift.Cli.run`). The file is read as bytes and
must be UTF-8 text; what the run prints goes to standard output and standard error, and its exit
code is returned. Any other use prints the usage and exits with 2.
-/

open Sift.Cli

/-- What reading a file gave: its text, or why it could not be read. -/
def readText (path : String) : IO (Except ReadFailure String) := do
  try
    let bytes ← IO.FS.readBinFile path
    match String.fromUTF8? bytes with
    | some text => return .ok text
    | none => return .error .notText
  catch e =>
    return .error (match e with
      | .noFileOrDirectory .. => .missing
      | .permissionDenied .. => .denied
      | .inappropriateType .. => .directory
      | e => .other (toString e))

/-- How the program is used. -/
def usage : String :=
  "Usage: sift <COMMAND> <FILE>\n\nCommands:\n  compile  Compile a filter tree to query DSL\n" ++
  "  aggs     Compile an aggregation tree to an aggs body\n"

def main (args : List String) : IO UInt32 := do
  match args with
  | [name, path] =>
    match Command.ofName? name with
    | some command =>
      let outcome := run command path (← readText path)
      IO.print outcome.stdout
      IO.eprint outcome.stderr
      return outcome.exit.toUInt32
    | none =>
      IO.eprint usage
      return 2
  | _ =>
    IO.eprint usage
    return 2
