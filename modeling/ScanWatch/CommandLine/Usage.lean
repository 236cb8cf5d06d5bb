import ScanWatch.CommandLine.Basic

namespace ScanWatch

def OptionError.message : OptionError → String
  | unknownArgument => "there is no such option, or more than one location"
  | invalidValue => "an option lacks its value"
  | notANumber => "a page size is a number of matches"
  | superfluousValue => "an option takes no value"
  | conflict => "an option is given twice, or two options exclude each other"
  | helpRequested => "help was asked for"

def CommandLine.usage : List String :=
  ["Follow scan jobs and their matches from the terminal",
    "",
    "Usage: scanwatch [OPTIONS] [LOCATION]",
    "",
    "LOCATION is / to compose, or /query/HASH to follow a job.",
    "",
    "  --base-url URL     root of the service, e.g. http://localhost/api",
    "  --config FILE      configuration file",
    "  --compile FILE     compile the query in FILE and print the plan",
    "  --submit FILE      submit the query in FILE and follow the new job",
    "  --taint TAINT      restrict the query to datasets that carry this taint",
    "  --backend          show what the backend's workers do",
    "  --page-size COUNT  matches asked for at a time",
    "  --log-file FILE    also write logs to FILE",
    "  -v, --verbose      repeat for more log output",
    "  -h, --help         print this help"]

end ScanWatch
