import Verdict.Command.Option
import Verdict.Command.Settings

/-!
# Requests

What the arguments of the program ask for: to show the tree of an expression, to evaluate one, to check the rules
of a file, or only for a text about the program.
-/

namespace Verdict.Command

/-- Where variables come from. -/
structure Sources where
  file : Option String
  assignments : List Assignment

/-- What is evaluated: a text, or the tree that a file holds. -/
inductive Subject where
  | text (source : String)
  | tree (file : String)

inductive Request where
  | parse (source : String) (pretty : Bool)
  | eval (subject : Subject) (sources : Sources) (json : Bool)
  | check (file : String) (sources : Sources)

/-- The commands that the program has. -/
inductive Topic where
  | parse
  | eval
  | check
  | help
deriving DecidableEq

namespace Topic

def name : Topic → String
  | parse => "parse"
  | eval => "eval"
  | check => "check"
  | help => "help"

def all : List Topic := [parse, eval, check, help]

def ofName? (name : String) : Option Topic := all.find? fun t => t.name = name

/-- The options of a command. -/
def options : Topic → List Opt
  | parse => [.expr, .pretty, .help]
  | eval => [.expr, .tree, .vars, .var, .json, .help]
  | check => [.rules, .vars, .var, .help]
  | help => []

end Topic

/-- What the program is started for. -/
inductive Invocation where
  | request (request : Request)
  | help (topic : Option Topic)
  | version
  | misuse

/-- The environment variable that names a file of variables when no option does. -/
def varsSetting : String := "RULEKIT_VARS"

/-- Where variables come from. A file that a setting names has to have a name, too. -/
def sources? (settings : Settings) (options : Options) : Option Sources :=
  let assignments := (options.getAll .var).filterMap Assignment.ofText?
  match options.get? .vars <|> settings.lookup varsSetting with
  | some file => if file.isEmpty then none else some ⟨some file, assignments⟩
  | none => some ⟨none, assignments⟩

/-- The request that the options of a command come to. What has to be given is given; an expression and a tree are
not given together. -/
def request? (settings : Settings) (options : Options) : Topic → Option Request
  | .parse => do some (.parse (← options.get? .expr) (options.has .pretty))
  | .eval => do
    let sources ← sources? settings options
    let subject ← match options.get? .expr, options.get? .tree with
      | some source, none => some (Subject.text source)
      | none, some file => some (Subject.tree file)
      | _, _ => none
    some (.eval subject sources (options.has .json))
  | .check => do some (.check (← options.get? .rules) (← sources? settings options))
  | .help => none

/-- Reads the arguments of the program. -/
def Invocation.ofArguments (settings : Settings) : List String → Invocation
  | [] => .misuse
  | arg :: args =>
    match Topic.ofName? arg with
    | some .help =>
      match args with
      | [] => .help none
      | [name] => ((Topic.ofName? name).map fun t => .help (some t)).getD .misuse
      | _ => .misuse
    | some topic =>
      match readOptions topic.options [] args with
      | .ok options => ((request? settings options topic).map .request).getD .misuse
      | .error .help => .help (some topic)
      | .error _ => .misuse
    | none =>
      match written? [.help, .version] arg.toList with
      | some ⟨.help, _⟩ => .help none
      | some ⟨.version, _⟩ => .version
      | _ => .misuse

/-- The files that a request reads. -/
def Request.files : Request → List String
  | .parse _ _ => []
  | .eval (.text _) sources _ => sources.file.toList
  | .eval (.tree file) sources _ => file :: sources.file.toList
  | .check file sources => file :: sources.file.toList

/-- The files that have to be read for an invocation. -/
def Invocation.files : Invocation → List String
  | .request r => r.files
  | _ => []

end Verdict.Command
