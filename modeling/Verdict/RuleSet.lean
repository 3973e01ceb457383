import Verdict.Condition

/-!
# Rule sets

Rules are conditions with names. A file of rules is compiled as a whole or refused for the first definition in
it that repeats a name or whose text is no expression.
-/

namespace Verdict

/-- A rule as a file defines it. -/
structure RuleDefinition where
  name : String
  description : String := ""
  source : String
  attributes : List String := []
deriving DecidableEq, Repr

/-- A rule whose condition has been read. -/
structure Rule where
  name : String
  description : String
  condition : Condition

/-- The rules of a file, in its order. -/
structure RuleSet where
  rules : List Rule

/-- Why the rules of a file are refused. -/
inductive RuleError where
  | duplicateName (name : String)
  | invalidRule (name : String) (error : ParseError)
deriving DecidableEq, Repr

namespace RuleError

/-- A fault of the configuration as a whole. -/
def configuration (message : String) : String := "Configuration error: " ++ message

def message : RuleError → String
  | .duplicateName name => configuration ("duplicate rule name '" ++ name ++ "'")
  | .invalidRule name error => "Invalid rule '" ++ name ++ "': " ++ error.message

end RuleError

namespace RuleSet

/-- Compiles definitions, none of which may have one of the names that are given. -/
def compileFrom (seen : List String) : List RuleDefinition → Except RuleError (List Rule)
  | [] => .ok []
  | d :: ds =>
    if seen.contains d.name then .error (.duplicateName d.name)
    else
      match Condition.parse d.source with
      | .error e => .error (.invalidRule d.name e)
      | .ok c => do
        let rules ← compileFrom (d.name :: seen) ds
        return ⟨d.name, d.description, c.withAttributes d.attributes⟩ :: rules

/-- The rules of some definitions. -/
def compile (definitions : List RuleDefinition) : Except RuleError RuleSet :=
  (compileFrom [] definitions).map RuleSet.mk

def size (s : RuleSet) : Nat := s.rules.length

def get? (s : RuleSet) (name : String) : Option Rule := s.rules.find? fun r => r.name = name

/-- The names of the rules that pass. -/
def passing (s : RuleSet) (env : Environment) : List String :=
  (s.rules.filter fun r => r.condition.isPass env).map Rule.name

/-- The result of every rule. -/
def evaluateAll (s : RuleSet) (env : Environment) : List (String × Except EvalError Value) :=
  s.rules.map fun r => (r.name, r.condition.evaluate env)

end RuleSet

end Verdict
