import TokenForest.Command.Arguments

/-!
# Usage

The texts that explain the command: the usage, the help, and the report of faulty arguments.
-/

namespace TokenForest.Command

/-- Lines of text, each ended. -/
def lines (texts : List String) : String := String.join (texts.map (· ++ "\n"))

/-- How the command is called. -/
def usage : String :=
  lines [
    "usage: nestlex [-h] [-o OUTPUT] [--config FILE] [-p TYPE=REGEX]",
    "               [--pair OPEN CLOSE] [--strict] [--flat] [-v]",
    "               input"]

/-- The whole help. -/
def help : String :=
  usage ++ lines [
    "",
    "Tokenize a file and print its delimiter-grouped token tree",
    "",
    "positional arguments:",
    "  input                 Input file",
    "",
    "options:",
    "  -h, --help            show this help message and exit",
    "  -o OUTPUT, --output OUTPUT",
    "                        Output file (default: stdout)",
    "  --config FILE         Config file (default: auto-discover nestlex.toml)",
    "  -p TYPE=REGEX, --pattern TYPE=REGEX",
    "                        Append a pattern rule (repeatable, tried in order)",
    "  --pair OPEN CLOSE     Add a literal delimiter pair (repeatable)",
    "  --strict              Fail on characters no rule recognizes",
    "  --flat                Print flat tokens instead of the tree",
    "  -v, --verbose         Debug logging to stderr"]

/-- The report of faulty arguments. -/
def ArgumentError.report (error : ArgumentError) : String :=
  usage ++ "nestlex: error: " ++ error.message ++ "\n"

end TokenForest.Command
