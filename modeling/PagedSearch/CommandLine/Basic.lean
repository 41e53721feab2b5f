import PagedSearch.CommandLine.Scan
import PagedSearch.Number.Reading
import PagedSearch.Request.Defaults

/-! # Commands -/

namespace PagedSearch

inductive Rendering where
  | xml
  | json
deriving DecidableEq

inductive LogLevel where
  | error
  | warn
  | info
  | debug
  | trace
deriving DecidableEq

structure SearchCommand where
  location : String
  query : String
  fields : List String
  start : Option Nat
  size : Option Nat
  snippets : Option Nat
  lengthLimit : Option Nat
  before : Option String
  after : Option String
  sort : Option String
  name : Option String
deriving DecidableEq

def SearchCommand.request (command : SearchCommand) (defaults : SearchDefaults) : Request :=
  let configured := defaults.request command.query command.location
  { configured with
    fields := if command.fields.isEmpty then configured.fields else command.fields
    start := command.start.getD configured.start
    size := command.size.getD configured.size
    snippets := command.snippets.getD configured.snippets
    lengthLimit := command.lengthLimit.getD configured.lengthLimit
    tags :=
      ⟨command.before.getD configured.tags.before, command.after.getD configured.tags.after⟩
    sort := command.sort.getD configured.sort
    name := command.name }

inductive Command where
  | search (command : SearchCommand)
  | fields (location : String)
deriving DecidableEq

structure CommandLine where
  verbosity : Nat
  defaults : Option String
  format : Rendering
  pretty : Bool
  command : Command
deriving DecidableEq

namespace CommandLine

def logLevel (line : CommandLine) : LogLevel :=
  match line.verbosity with
  | 0 => .error
  | 1 => .warn
  | 2 => .info
  | 3 => .debug
  | _ => .trace

def readFormat? : String → Option Rendering
  | "xml" => some .xml
  | "json" => some .json
  | _ => none

def readCount? (text : String) : Option Nat := readNatural? 64 text.toList

def checkFormat (text : String) : Option UsageFault :=
  if (readFormat? text).isSome then none else some .valueOutsideChoices

def checkCount (text : String) : Option UsageFault :=
  if (readCount? text).isSome then none else some .valueMalformed

def checkPath (text : String) : Option UsageFault :=
  if text.isEmpty then some .valueMissing else none

def plainOption (long : String) (short : Option Char) (role : OptionRole) : OptionRule :=
  ⟨long, short, role, fun _ => none⟩

def textOption (long : String) (role : OptionRole) : OptionRule := ⟨long, none, role, fun _ => none⟩

def countOption (long : String) : OptionRule := ⟨long, none, .single, checkCount⟩

def helpOption : OptionRule := plainOption "help" (some 'h') .help

def mainRule : CommandRule where
  options :=
    [plainOption "verbose" (some 'v') .counter,
      plainOption "quiet" (some 'q') .flag,
      ⟨"config", some 'c', .single, checkPath⟩,
      ⟨"format", some 'f', .single, checkFormat⟩,
      plainOption "pretty" none .flag,
      helpOption,
      plainOption "version" (some 'V') .version]
  positionals := 0
  commands := ["search", "fields", "help"]

def searchRule : CommandRule where
  options :=
    [textOption "field" .list,
      countOption "start",
      countOption "max",
      countOption "snippets",
      countOption "field-max-length",
      textOption "snippet-begin" .single,
      textOption "snippet-end" .single,
      textOption "sort" .single,
      textOption "index-name" .single,
      helpOption]
  positionals := 2
  commands := []

def fieldsRule : CommandRule where
  options := [helpOption]
  positionals := 1
  commands := []

def scanCommand (rule : CommandRule) (arguments : List String) :
    Except UsageFault ArgumentScan := do
  let (scan, _) ← ArgumentScan.start.run rule arguments
  let scan ← scan.settle
  if scan.positionals.length < rule.positionals then throw .positionalMissing
  return scan

def parseSearch (arguments : List String) : Except UsageFault Command := do
  let scan ← scanCommand searchRule arguments
  match scan.positionals with
  | [location, query] =>
    return .search {
      location
      query
      fields := scan.values "field"
      start := (scan.value? "start").bind readCount?
      size := (scan.value? "max").bind readCount?
      snippets := (scan.value? "snippets").bind readCount?
      lengthLimit := (scan.value? "field-max-length").bind readCount?
      before := scan.value? "snippet-begin"
      after := scan.value? "snippet-end"
      sort := scan.value? "sort"
      name := scan.value? "index-name" }
  | _ => throw .positionalMissing

def parseFields (arguments : List String) : Except UsageFault Command := do
  let scan ← scanCommand fieldsRule arguments
  match scan.positionals with
  | [location] => return .fields location
  | _ => throw .positionalMissing

def helpFault : List String → UsageFault
  | [] => .helpRequested
  | [command] => if command ∈ mainRule.commands then .helpRequested else .unknownCommand
  | _ => .unknownCommand

def parseCommand (name : String) (arguments : List String) : Except UsageFault Command :=
  match name with
  | "search" => parseSearch arguments
  | "fields" => parseFields arguments
  | _ => .error (helpFault arguments)

/-- The verbosity that is asked for. A counter stays at its largest value, and quiet comes before
verbose. -/
def verbosityOf (scan : ArgumentScan) : Nat :=
  if 0 < scan.count "quiet" then 0 else max 1 (min 255 (scan.count "verbose"))

/-- The command line that arguments spell. What is wrong with the command's own arguments is
reported before an option in front of it is settled. -/
def parse (arguments : List String) : Except UsageFault CommandLine := do
  let (scan, command) ← ArgumentScan.start.run mainRule arguments
  let command ← command.mapM fun (name, rest) => parseCommand name rest
  let scan ← scan.settle
  match command with
  | some command =>
    return {
      verbosity := verbosityOf scan
      defaults := scan.value? "config"
      format := ((scan.value? "format").bind readFormat?).getD .xml
      pretty := 0 < scan.count "pretty"
      command }
  | none => throw (if scan.given.isEmpty then .noArguments else .noCommand)

end CommandLine

end PagedSearch
