import Verdict.Command.Request

/-!
# Texts about the program
-/

namespace Verdict.Command

def programName : String := "rulekit"

def versionText : String := programName ++ " 0.1.0\n"

/-- What a command does, in a sentence. -/
def Topic.summary : Topic → String
  | parse => "Parse an expression and print its tree as JSON"
  | eval => "Evaluate an expression or a stored tree"
  | check => "Report which rules in a rule file pass"
  | help => "Print this message or the help of the given subcommand(s)"

/-- The commands, one a line. -/
def commandLines : String :=
  "Commands:\n" ++ String.join (Topic.all.map fun t =>
    "  " ++ t.name ++ String.ofList (List.replicate (7 - t.name.length) ' ') ++ t.summary ++ "\n")

/-- Where a file of variables comes from when no option names it. -/
def varsNote (settings : Settings) : String :=
  "[env: " ++ varsSetting ++ "=" ++ (settings.lookup varsSetting).getD "" ++ "]"

def usage (rest : String) : String := "Usage: " ++ programName ++ " " ++ rest ++ "\n\n"

/-- What is said about a command when help is asked for. -/
def Topic.helpText (settings : Settings) : Topic → String
  | parse =>
    parse.summary ++ "\n\n" ++ usage "parse [OPTIONS] --expr <EXPR>" ++ "Options:\n" ++
      "  -e, --expr <EXPR>  The expression to parse\n" ++
      "      --pretty       Pretty-print the tree\n" ++
      "  -h, --help         Print help\n"
  | eval =>
    eval.summary ++ "\n\n" ++ usage "eval [OPTIONS] <--expr <EXPR>|--tree <TREE>>" ++ "Options:\n" ++
      "  -e, --expr <EXPR>  The expression to evaluate\n" ++
      "  -t, --tree <TREE>  Path to a JSON expression tree\n" ++
      "      --vars <VARS>  JSON or YAML file of variables " ++ varsNote settings ++ "\n" ++
      "      --var <VAR>    Single variable as name=value; the value is read as JSON, else as a string\n" ++
      "      --json         Print the result as a tagged JSON value\n" ++
      "  -h, --help         Print help\n"
  | check =>
    check.summary ++ "\n\n" ++ usage "check [OPTIONS] --rules <RULES>" ++ "Options:\n" ++
      "  -r, --rules <RULES>  Path to the YAML rule file\n" ++
      "      --vars <VARS>    JSON or YAML file of variables " ++ varsNote settings ++ "\n" ++
      "      --var <VAR>      Single variable as name=value; the value is read as JSON, else as a string\n" ++
      "  -h, --help           Print help\n"
  | help =>
    help.summary ++ "\n\n" ++ usage "help [COMMAND]..." ++ "Arguments:\n" ++
      "  [COMMAND]...  Print help for the subcommand(s)\n"

/-- What is said about the program as a whole. -/
def helpText : String :=
  "Embeddable rule expression language: lexer, parser and typed evaluator\n\n" ++ usage "<COMMAND>" ++
    commandLines ++ "\nOptions:\n  -h, --help     Print help\n  -V, --version  Print version\n"

end Verdict.Command
