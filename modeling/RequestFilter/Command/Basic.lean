import RequestFilter.Command.Arguments
import RequestFilter.Query.Json
import RequestFilter.Query.Matcher
import RequestFilter.Suggest

/-!
The commands of the command line: showing how a query is read, filtering a dump, and suggesting
completions.

A command is run on a way of reading files. It writes lines as it goes, and what it has written
stays if it fails later on.
-/

set_option autoImplicit false

namespace RequestFilter

inductive Command
  | parse (query : String) (pretty : Bool)
  | filter (input query : String) (prefs : Option String) (urlsOnly : Bool)
  | suggest (text : String) (input : Option String)
  | help
  deriving DecidableEq

/-! ### Reading the command line -/

namespace Command

open Arguments (Opt)

def commonOptions : List Opt := [⟨"verbose", some 'v', false⟩, ⟨"help", some 'h', false⟩]

def parseOptions : List Opt := ⟨"pretty", none, false⟩ :: commonOptions

def filterOptions : List Opt :=
  [⟨"input", some 'i', true⟩, ⟨"query", some 'q', true⟩, ⟨"prefs", some 'p', true⟩,
    ⟨"urls-only", none, false⟩] ++ commonOptions

def suggestOptions : List Opt := ⟨"input", some 'i', true⟩ :: commonOptions

/-- An optional path, which must not be empty if it is given. -/
def path? : List String → Option (Option String)
  | [] => some none
  | p :: _ => if p.isEmpty then none else some (some p)

/-- A command of the given options, made from the items of the command line. -/
def ofItems? (opts : List Opt) (args : List String)
    (make? : List Arguments.Item → Option Command) : Option Command := do
  let (items, _) ← Arguments.read? opts false .nothing args
  if !(Arguments.valuesOf "help" items).isEmpty then some .help
  else if Arguments.noneRepeated opts items then make? items
  else none

def parseOfItems? (items : List Arguments.Item) : Option Command :=
  match Arguments.positionals items with
  | [query] => some (.parse query !(Arguments.valuesOf "pretty" items).isEmpty)
  | _ => none

def filterOfItems? (items : List Arguments.Item) : Option Command := do
  if !(Arguments.positionals items).isEmpty then none
  let input ← (← path? (Arguments.valuesOf "input" items))
  let prefs ← path? (Arguments.valuesOf "prefs" items)
  let query := (Arguments.valuesOf "query" items).head?.getD ""
  return .filter input query prefs !(Arguments.valuesOf "urls-only" items).isEmpty

def suggestOfItems? (items : List Arguments.Item) : Option Command :=
  match Arguments.positionals items with
  | [text] => (path? (Arguments.valuesOf "input" items)).map (.suggest text)
  | _ => none

def ofName? (name : String) (args : List String) : Option Command :=
  match name with
  | "parse" => ofItems? parseOptions args parseOfItems?
  | "filter" => ofItems? filterOptions args filterOfItems?
  | "suggest" => ofItems? suggestOptions args suggestOfItems?
  | "help" => some .help
  | _ => none

/-- The command of a command line, unless its usage is wrong. After two dashes there is no command.
-/
def ofArgs? (args : List String) : Option Command := do
  let (items, left) ← Arguments.read? commonOptions true .nothing args
  if !(Arguments.valuesOf "help" items).isEmpty then some .help
  else if !Arguments.noneRepeated commonOptions items then none
  else
    match items.getLast? with
    | some (.positional name false) => ofName? name left
    | _ => none

end Command

/-! ### Running -/

inductive ReadError
  | notFound
  | isDirectory
  | notUtf8
  | other (message : String)
  deriving DecidableEq

def ReadError.message : ReadError → String
  | .notFound => "No such file or directory (os error 2)"
  | .isDirectory => "Is a directory (os error 21)"
  | .notUtf8 => "stream did not contain valid UTF-8"
  | .other message => message

inductive CommandError
  | unreadable (path : String) (error : ReadError)
  | badDump (path : String) (error : LoadError)
  | badPrefs (path : String) (error : LoadError)
  deriving DecidableEq

def CommandError.message : CommandError → String
  | .unreadable path error => s!"Failed to read '{path}': {error.message}"
  | .badDump path error => s!"Failed to load requests from '{path}': {error.message}"
  | .badPrefs path error => s!"Invalid prefs '{path}': {error.message}"

structure Summary where
  matched : Nat
  total : Nat
  categories : List String
  deriving DecidableEq

def Summary.message (s : Summary) (time : String) : String :=
  let categories := ",".intercalate s.categories
  s!"Matched {s.matched} of {s.total} requests in {time}ms (types: {categories})"

/-- What a command has written so far: the lines of its output, and its summaries. -/
structure Report where
  lines : Array String := #[]
  summaries : Array Summary := #[]
  deriving DecidableEq

def Report.text (r : Report) : String := String.join (r.lines.toList.map (· ++ "\n"))

/-- A run of a command. It may fail, and its report is what it has written until then. -/
abbrev Run := ExceptT CommandError (StateM Report)

namespace Run

def writeLine (line : String) : Run Unit := modify fun r => { r with lines := r.lines.push line }

def writeSummary (s : Summary) : Run Unit :=
  modify fun r => { r with summaries := r.summaries.push s }

/-- The result of a run that goes on from a report, and the report that it leaves. -/
def continued {α : Type} (run : Run α) (before : Report) : Except CommandError α × Report :=
  (run.run.run before).run

/-- The result of a run from its start, and its report. -/
def outcome (run : Run Unit) : Except CommandError Unit × Report := run.continued {}

end Run

abbrev Files := String → Except ReadError String

namespace Files

def requests (files : Files) (path : String) : Except CommandError (List Request) :=
  match files path with
  | .error e => .error (.unreadable path e)
  | .ok text => (Request.load text).mapError (.badDump path)

def categories (files : Files) : Option String → Except CommandError CategorySet
  | none => .ok .full
  | some path =>
    match files path with
    | .error e => .error (.unreadable path e)
    | .ok text => (CategorySet.ofJson text).mapError (.badPrefs path)

end Files

def Request.outputLine (urlsOnly : Bool) (r : Request) : String :=
  if urlsOnly then r.url else r.toLine

def Suggestion.outputLine (s : Suggestion) : String := s.display ++ "\t" ++ s.text

namespace Command

def usage : List String :=
  ["Usage: request-filter parse QUERY [--pretty]",
    "       request-filter filter --input FILE [--query QUERY] [--prefs FILE] [--urls-only]",
    "       request-filter suggest FILTER [--input FILE]"]

def run (files : Files) : Command → Run Unit
  | .parse query pretty => do
    let json := (Query.parse query).toJson
    Run.writeLine (if pretty then json.toIndentedText else json.toText)
  | .filter input query prefs urlsOnly => do
    let requests ← files.requests input
    let categories ← files.categories prefs
    let matcher := (Matcher.ofQuery (Query.parse query)).withCategories categories
    let kept := matcher.filter requests
    kept.forM fun r => Run.writeLine (r.outputLine urlsOnly)
    Run.writeSummary ⟨kept.length, requests.length, categories.names⟩
  | .suggest text input => do
    let requests ← match input with
      | some path => files.requests path
      | none => pure []
    (Suggestion.ofText text requests).forM fun s => Run.writeLine s.outputLine
  | .help => usage.forM Run.writeLine

end Command

/-! ### What a run shows -/

/-- What a run of the program shows: its exit status, the text on the standard output, and the
messages on the standard error. -/
structure Transcript where
  status : UInt32
  output : String
  messages : List String
  deriving DecidableEq

def Transcript.ofOutcome (time : String) : Except CommandError Unit × Report → Transcript
  | (.ok _, report) => ⟨0, report.text, report.summaries.toList.map fun s => s.message time⟩
  | (.error e, report) =>
    ⟨1, report.text,
      (report.summaries.toList.map fun s => s.message time) ++ ["Error: " ++ e.message]⟩

end RequestFilter
