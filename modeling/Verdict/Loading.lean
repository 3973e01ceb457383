import Verdict.RuleFile.Yaml
import Verdict.Json.Reader
import Verdict.Environment

/-!
# Loading files

Variables come from a file of JSON or of YAML, as its name says, and rules from a file of YAML. What a file holds
is given as its text, or not at all when the file cannot be read.
-/

namespace Verdict

/-- Why a file is not loaded. -/
inductive LoadError where
  | unreadable
  | malformedJson
  | malformedYaml
  | notVariables (reason : String)
  | notRules (error : RuleError)

/-- What follows the last point in the name of a file, unless nothing stands before that point. -/
def extension? (file : String) : Option String :=
  let name := (file.toList.reverse.takeWhile (· != '/'))
  match name.dropWhile (· != '.') with
  | _ :: _ :: _ => some (String.ofList (name.takeWhile (· != '.')).reverse)
  | _ => none

/-- Whether a file is named as one of YAML. -/
def isYamlFile (file : String) : Bool := extension? file == some "yaml" || extension? file == some "yml"

def orElse {α ε : Type} (error : ε) : Option α → Except ε α
  | some a => .ok a
  | none => .error error

/-- Plain data in JSON. -/
def Plain.parseJson? (source : String) : Option Plain := do ofJson? Json.maxNesting (← Json.parse? source)

/-- The variables that a file of that name and content holds. -/
def Environment.load (file : String) (content : Option String) : Except LoadError Environment := do
  let source ← orElse .unreadable content
  let data ←
    if isYamlFile file then orElse .malformedYaml (Yaml.parse? source)
    else orElse .malformedJson (Plain.parseJson? source)
  (ofPlain data).mapError .notVariables

/-- The rules of a text in YAML. -/
def RuleSet.parse (source : String) : Except LoadError RuleSet := do
  let definitions ← orElse .malformedYaml (RuleFile.ofYaml? source)
  (compile definitions).mapError .notRules

/-- The rules that a file of that content holds. -/
def RuleSet.load (content : Option String) : Except LoadError RuleSet := do
  parse (← orElse .unreadable content)

end Verdict
