import Verdict.Command.Help
import Verdict.Expr.Tagged
import Verdict.Json.Writer

/-!
# Running a request

What the program prints, and with which code it ends: 0 when it could do what was asked, 1 when it could not, 2 when
it was not asked properly.
-/

namespace Verdict.Command

/-- How the program ends: its exit code, what it prints, and why it failed. -/
structure Outcome where
  code : Nat
  output : String
  error : Option String

namespace Outcome

def success (output : String) : Outcome := ⟨0, output, none⟩

def failure (message : String) : Outcome := ⟨1, "", some message⟩

def misuse : Outcome := ⟨2, "", none⟩

/-- The first line that a failure shows. -/
def errorLine? (o : Outcome) : Option String :=
  o.error.map fun message => "Error: " ++ String.ofList (message.toList.takeWhile (· != '\n'))

/-- The failure, or else what follows. -/
def ofExcept : Except String Outcome → Outcome
  | .ok o => o
  | .error message => failure message

end Outcome

/-- The contents of files that can be read. -/
abbrev Files := String → Option String

/-- The entry of a rule in the report of a check. Only a rule that gives true passes. -/
def reportLine (name : String) : Except EvalError Value → String
  | .ok (.bool true) => "PASS  " ++ name
  | .ok (.bool false) => "FAIL  " ++ name
  | .ok other => "FAIL  " ++ name ++ " (not a bool: " ++ other.type.name ++ ")"
  | .error e => "ERROR " ++ name ++ " (" ++ e.message ++ ")"

/-- The report of a check, one entry for each rule. Names and messages stand in it as they are, line breaks and all. -/
def report (rules : RuleSet) (env : Environment) : String :=
  String.join ((rules.evaluateAll env).map fun (name, result) => reportLine name result ++ "\n")

/-- The environment that a request asks for. -/
def Sources.environment (files : Files) (sources : Sources) : Except String Environment :=
  match sources.file with
  | none => .ok (Command.environment .empty sources.assignments)
  | some file =>
    match Environment.load file (files file) with
    | .ok loaded => .ok (Command.environment loaded sources.assignments)
    | .error _ => .error ("Failed to load variables from " ++ file)

/-- The expression that is to be evaluated. -/
def Subject.expr (files : Files) : Subject → Except String Expr
  | .text source => (Expr.parse source).mapError ParseError.message
  | .tree file => do
    let content ← orElse ("Failed to read " ++ file) (files file)
    orElse ("Invalid expression tree in " ++ file) (Expr.ofJsonText? content)

namespace Request

def run (files : Files) : Request → Except String Outcome
  | .parse source isPretty => do
    let tree := (← (Expr.parse source).mapError ParseError.message).toTagged
    return .success ((if isPretty then tree.pretty else tree.compact) ++ "\n")
  | .eval subject sources isJson => do
    let expr ← subject.expr files
    let env ← sources.environment files
    let v ← (expr.evaluate env).mapError EvalError.message
    return .success ((if isJson then v.toTagged.compact else v.display) ++ "\n")
  | .check file sources => do
    let rules ← (RuleSet.load (files file)).mapError fun _ => "Failed to load rules from " ++ file
    return .success (report rules (← sources.environment files))

end Request

/-- What comes of an invocation. -/
def Invocation.run (settings : Settings) (files : Files) : Invocation → Outcome
  | .request r => .ofExcept (r.run files)
  | .help none => .success helpText
  | .help (some topic) => .success (topic.helpText settings)
  | .version => .success versionText
  | .misuse => .misuse

/-- The name of the file of settings. -/
def settingsFile : String := ".env"

/-- What the program does with its arguments, among some settings and files. -/
def run (settings : Settings) (files : Files) (args : List String) : Outcome :=
  let settings := settings.withFile (files settingsFile)
  (Invocation.ofArguments settings args).run settings files

end Verdict.Command
