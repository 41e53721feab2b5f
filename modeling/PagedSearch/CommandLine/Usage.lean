/-! # Usage -/

namespace PagedSearch

inductive UsageFault where
  | helpRequested
  | versionRequested
  | noArguments
  | noCommand
  | unknownCommand
  | unknownArgument
  | positionalMissing
  | valueMissing
  | valueNotAllowed
  | valueOutsideChoices
  | valueMalformed
  | repeated
deriving DecidableEq

def usageText : String :=
  "Usage: hitpage [OPTIONS] search [SEARCH OPTIONS] <INDEX> <QUERY>\n" ++
  "       hitpage [OPTIONS] fields <INDEX>\n" ++
  "\n" ++
  "Options:\n" ++
  "  -v, --verbose            more log output, may be repeated\n" ++
  "  -q, --quiet              no log output but errors\n" ++
  "  -c, --config <FILE>      search defaults\n" ++
  "  -f, --format <FORMAT>    xml or json\n" ++
  "      --pretty             indented output\n" ++
  "  -h, --help               this text\n" ++
  "  -V, --version            the version\n" ++
  "\n" ++
  "Search options:\n" ++
  "      --field <FIELD>             default field, may be repeated\n" ++
  "      --start <RANK>              rank of the first hit\n" ++
  "      --max <COUNT>               number of hits\n" ++
  "      --snippets <COUNT>          snippets in a field\n" ++
  "      --field-max-length <COUNT>  length of a field\n" ++
  "      --snippet-begin <TEXT>      text before a match\n" ++
  "      --snippet-end <TEXT>        text after a match\n" ++
  "      --sort <SPECIFICATION>      sort specification\n" ++
  "      --index-name <NAME>         name shown for the index\n"

namespace UsageFault

def isRequested : UsageFault → Bool
  | helpRequested | versionRequested => true
  | _ => false

def exitStatus (fault : UsageFault) : Nat := if fault.isRequested then 0 else 2

def message : UsageFault → String
  | helpRequested | noArguments => usageText
  | versionRequested => "hitpage 0.1.0\n"
  | noCommand => "error: a command is required\n\n" ++ usageText
  | unknownCommand => "error: unknown command\n\n" ++ usageText
  | unknownArgument => "error: unexpected argument\n\n" ++ usageText
  | positionalMissing => "error: an argument is missing\n\n" ++ usageText
  | valueMissing => "error: an option lacks its value\n\n" ++ usageText
  | valueNotAllowed => "error: an option takes no value\n\n" ++ usageText
  | valueOutsideChoices | valueMalformed =>
    "error: the value of an option is invalid\n\n" ++ usageText
  | repeated => "error: an option may be given only once\n\n" ++ usageText

end UsageFault

end PagedSearch
