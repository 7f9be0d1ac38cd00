/-!
# Help of the command

The usage and the help of the command, line by line.
-/

namespace ExprLex

namespace CommandLine

/-- The usage, which also precedes error messages about the arguments. -/
def usage : List String :=
  ["usage: mathlex [-h] [--file PATH] [--pattern REGEX] [--functions NAMES]",
    "               [--functions-file PATH] [--no-default-functions] [--lexemes]",
    "               [--strict] [--tests] [--benchmark] [--verbose]",
    "               [expression]"]

/-- The help. -/
def help : List String :=
  usage ++
  ["",
    "mathlex: split and tokenize mathematical expressions",
    "",
    "positional arguments:",
    "  expression            Expression to tokenize",
    "",
    "options:",
    "  -h, --help            show this help message and exit",
    "  --file PATH           Tokenize every non-blank, non-comment line of PATH",
    "  --pattern REGEX       Delimiter pattern for the splitter (delimiters in a",
    "                        capturing group)",
    "  --functions NAMES     Comma-separated extra function names",
    "  --functions-file PATH",
    "                        File with extra function names, one per line",
    "  --no-default-functions",
    "                        Do not preload the builtin function names",
    "  --lexemes             Also print the raw lexemes with their offsets",
    "  --strict              Show advisory diagnostics and exit with error on any",
    "                        diagnostic",
    "  --tests               Run test suite",
    "  --benchmark           Print timing summary (with --tests or --file)",
    "  --verbose             Enable debug logging"]

end CommandLine

end ExprLex
