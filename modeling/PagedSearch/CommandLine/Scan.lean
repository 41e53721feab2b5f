import PagedSearch.CommandLine.Usage

/-!
# Scanning arguments

The arguments of a command are options, with or without a value, and positional ones. A value
stands after its option or is attached to it. It is checked when the next argument that is
understood begins, so an argument that is not understood is reported first.
-/

namespace PagedSearch

inductive OptionRole where
  | flag
  | counter
  | single
  | list
  | help
  | version
deriving DecidableEq

namespace OptionRole

def takesValue : OptionRole → Bool
  | single | list => true
  | _ => false

def isRepeatable : OptionRole → Bool
  | counter | list => true
  | _ => false

end OptionRole

structure OptionRule where
  long : String
  short : Option Char
  role : OptionRole
  check : String → Option UsageFault

/-- What a command understands: its options, how many positional arguments it needs, and the names
of the commands below it. -/
structure CommandRule where
  options : List OptionRule
  positionals : Nat
  commands : List String

namespace CommandRule

def longOption? (rule : CommandRule) (name : String) : Option OptionRule :=
  rule.options.find? (·.long = name)

def shortOption? (rule : CommandRule) (name : Char) : Option OptionRule :=
  rule.options.find? (·.short = some name)

end CommandRule

inductive ArgumentForm where
  | escape
  | long (name : String) (value : Option String)
  | shorts (names : List Char)
  | plain
deriving DecidableEq

def ArgumentForm.of (argument : String) : ArgumentForm :=
  match argument.toList with
  | ['-', '-'] => .escape
  | '-' :: '-' :: rest =>
    let name := rest.takeWhile (· ≠ '=')
    .long (.ofList name)
      (if name.length = rest.length then none else some (.ofList (rest.drop (name.length + 1))))
  | '-' :: c :: rest => .shorts (c :: rest)
  | _ => .plain

/-- What has been understood so far: the options given, with the values of those that take one, the
positional arguments, the last option while its value is unchecked, and whether only positional
arguments may follow. -/
structure ArgumentScan where
  given : List (String × Option String)
  positionals : List String
  pending : Option (OptionRule × Option String)
  onlyPositionals : Bool

namespace ArgumentScan

def start : ArgumentScan := ⟨[], [], none, false⟩

def count (scan : ArgumentScan) (name : String) : Nat := scan.given.countP (·.1 = name)

def values (scan : ArgumentScan) (name : String) : List String :=
  (scan.given.filter (·.1 = name)).filterMap (·.2)

def value? (scan : ArgumentScan) (name : String) : Option String := (scan.values name).head?

def isWaiting (scan : ArgumentScan) : Bool :=
  match scan.pending with
  | some (_, none) => true
  | _ => false

def accept (scan : ArgumentScan) (option : OptionRule) (value : Option String) :
    Except UsageFault ArgumentScan :=
  if option.role = .help then .error .helpRequested
  else if option.role = .version then .error .versionRequested
  else if !option.role.isRepeatable && 0 < scan.count option.long then .error .repeated
  else
    match value.bind option.check with
    | some fault => .error fault
    | none => .ok { scan with given := scan.given ++ [(option.long, value)] }

def settle (scan : ArgumentScan) : Except UsageFault ArgumentScan :=
  match scan.pending with
  | none => .ok scan
  | some (_, none) => .error .valueMissing
  | some (option, some value) => { scan with pending := none }.accept option (some value)

def begin (scan : ArgumentScan) (option : OptionRule) (attached : Option String) :
    Except UsageFault ArgumentScan := do
  let scan ← scan.settle
  if option.role.takesValue && attached.isNone then
    return { scan with pending := some (option, none) }
  else
    scan.accept option attached

def addLong (rule : CommandRule) (scan : ArgumentScan) (name : String) (value : Option String) :
    Except UsageFault ArgumentScan :=
  match rule.longOption? name with
  | none => .error .unknownArgument
  | some option =>
    if !option.role.takesValue && value.isSome then .error .valueNotAllowed
    else scan.begin option value

def attachedValue : List Char → Option String
  | [] => none
  | '=' :: rest => some (.ofList rest)
  | rest => some (.ofList rest)

/-- Options given by their short names. What follows the name of one that takes a value is its
value. -/
def addShorts (rule : CommandRule) (scan : ArgumentScan) :
    List Char → Except UsageFault ArgumentScan
  | [] => .ok scan
  | name :: rest =>
    match rule.shortOption? name with
    | none => .error .unknownArgument
    | some option => do
      if option.role.takesValue then
        scan.begin option (attachedValue rest)
      else
        addShorts rule (← scan.begin option none) rest

def addPositional (rule : CommandRule) (scan : ArgumentScan) (argument : String) :
    Except UsageFault ArgumentScan :=
  if scan.positionals.length < rule.positionals then do
    let scan ← scan.settle
    return { scan with positionals := scan.positionals ++ [argument] }
  else if rule.commands.isEmpty || (scan.onlyPositionals && argument ∈ rule.commands) then
    .error .unknownArgument
  else
    .error .unknownCommand

def addPlain (rule : CommandRule) (scan : ArgumentScan) (argument : String) :
    Except UsageFault ArgumentScan :=
  match scan.pending with
  | some (option, none) => .ok { scan with pending := some (option, some argument) }
  | _ => scan.addPositional rule argument

def add (rule : CommandRule) (scan : ArgumentScan) (argument : String) :
    Except UsageFault ArgumentScan :=
  if scan.onlyPositionals then scan.addPositional rule argument
  else
    match ArgumentForm.of argument with
    | .escape => .ok { scan with onlyPositionals := true }
    | .long name value => scan.addLong rule name value
    | .shorts names => scan.addShorts rule names
    | .plain => scan.addPlain rule argument

def run (rule : CommandRule) (scan : ArgumentScan) :
    List String → Except UsageFault (ArgumentScan × Option (String × List String))
  | [] => .ok (scan, none)
  | argument :: rest =>
    if !scan.onlyPositionals && !scan.isWaiting && argument ∈ rule.commands then
      .ok (scan, some (argument, rest))
    else do
      run rule (← scan.add rule argument) rest

end ArgumentScan

end PagedSearch
