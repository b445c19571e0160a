import Sift.Filter.Compile
import Sift.Filter.Sort
import Sift.Aggregation.Compile

/-!
# Compiling files from the command line

Two commands compile a file without contacting any server and print the result as indented
JSON:

* `compile FILE` reads a filter file (a list of groups, or a record of `groups` and `sort`, both
  optional) and prints `{"query": ..., "sort": ...}`, the sort only when there is one;
* `aggs FILE` reads a list of aggregation specs and prints `{"aggs": ...}`.

Each run ends with an `Outcome`: an exit code and the text for standard output and standard
error. A failure prints `Error: <message>` on standard error and exits with 1: the file could
not be read, its text is not a document of the expected form, or the aggregations do not
compile.

The aggregation list is decoded as its text is read (`Decode.fromText`), so a complaint about
its content may come before a syntax error further on, and carries a line and column. A filter
file may take two forms, so the whole text is read first and then each form is tried; when
neither fits, the message says so without a position.
-/

namespace Sift.Cli

open Json

/-- A command that works on a file. -/
inductive Command where
  | compile
  | aggs
  deriving DecidableEq, Repr

/-- The command a name stands for. -/
def Command.ofName? : String → Option Command
  | "compile" => some .compile
  | "aggs" => some .aggs
  | _ => none

/-- Why a file could not be read. -/
inductive ReadFailure where
  | missing
  | denied
  | directory
  /-- The bytes are not UTF-8 text. -/
  | notText
  | other (message : String)
  deriving DecidableEq, Repr

/-- The wording of a read failure, as the operating system words it. -/
def ReadFailure.message : ReadFailure → String
  | .missing => "No such file or directory (os error 2)"
  | .denied => "Permission denied (os error 13)"
  | .directory => "Is a directory (os error 21)"
  | .notText => "stream did not contain valid UTF-8"
  | .other m => m

/-- How a run ends: exit code, standard output and standard error. -/
structure Outcome where
  exit : Nat
  stdout : String
  stderr : String
  deriving DecidableEq, Repr

/-- A run that prints a document. -/
def Outcome.printing (j : Json) : Outcome := ⟨0, j.normalize.pretty ++ "\n", ""⟩

/-- A run that fails with a message. -/
def Outcome.failure (message : String) : Outcome := ⟨1, "", "Error: " ++ message ++ "\n"⟩

/-- The contents of a filter file: groups and sort keys. -/
structure FilterFile where
  groups : List Group := []
  sort : List SortSpec := []
  deriving Inhabited, Repr

namespace FilterFile

/-- The record form of a filter file; both fields have defaults. -/
def shape : Shape := { name := "Full", fields := [["groups"], ["sort"]] }

/-- The message when a document is neither form of a filter file. -/
def mismatch : String := "data did not match any variant of untagged enum FilterFile"

/-- Reads a filter file: a list of groups, or else the record form. -/
def decode : Decoder FilterFile := fun j =>
  match Decode.list Group.decode j with
  | .ok groups => .ok { groups }
  | .error _ =>
    let record := shape.read [] ({} : FilterFile) (fun f i v =>
      match i with
      | 0 => return { f with groups := ← Decode.list Group.decode v }
      | _ => return { f with sort := ← Decode.list SortSpec.decode v }) j
    record.mapError fun _ => { cause := .custom mismatch }

/-- Reads a filter file from text. The text is read in full first; a document followed by more
than blanks is tried before the trailing text is refused. -/
def ofText (text : String) : Except String FilterFile :=
  match readDocument text with
  | .ok (j, _) => (decode j).mapError (·.message)
  | .error b =>
    if b.error.kind = .trailingCharacters then
      match decode b.value with
      | .ok _ => .error (b.error.message text)
      | .error e => .error e.message
    else .error (b.error.message text)

/-- The search body of a filter file: its query, and its sort when there is one. -/
def body (f : FilterFile) : Json :=
  let query := [("query", compileQuery f.groups)]
  Json.object (match compileSort f.sort with
    | some keys => query ++ [("sort", .arr keys)]
    | none => query)

end FilterFile

/-- Runs a command on the file at `path`, given what reading it gave. -/
def run (command : Command) (path : String) (contents : Except ReadFailure String) : Outcome :=
  match contents with
  | .error f => .failure ("cannot read " ++ path ++ ": " ++ f.message)
  | .ok text =>
    let invalid (m : String) := Outcome.failure ("invalid JSON in " ++ path ++ ": " ++ m)
    match command with
    | .compile =>
      match FilterFile.ofText text with
      | .ok f => .printing f.body
      | .error m => invalid m
    | .aggs =>
      match Decode.fromText (Decode.list AggregationSpec.decode) text with
      | .error m => invalid m
      | .ok specs =>
        match compileAggregations specs with
        | .ok aggs => .printing (Json.object [("aggs", aggs)])
        | .error e => .failure e.message

end Sift.Cli
