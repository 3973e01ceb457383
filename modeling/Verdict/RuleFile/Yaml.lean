import Verdict.RuleFile
import Verdict.Yaml.Data

/-!
# Files of rules in YAML

Every scalar is a text here, so a name or a condition needs no quotes even where it looks like a number. A list
that is left empty has no members, and so has the file.
-/

namespace Verdict.RuleFile

open Yaml (Node Following text? items? fields?)

/-- The one field of that name. A field that comes twice is refused. -/
def field? (name : String) (fields : List (String × Node)) : Following (Option Node) :=
  match fields.filter (·.1 = name) with
  | [] => return none
  | [(_, node)] => return some node
  | _ => failure

/-- A field that has to be there. -/
def required (name : String) (fields : List (String × Node)) : Following Node := do
  match ← field? name fields with
  | some node => return node
  | none => failure

/-- What is read from a field, or the default when it is left out. -/
def readField {α : Type} (name : String) (default : α) (reader : Node → Following α)
    (fields : List (String × Node)) : Following α := do
  match ← field? name fields with
  | some node => reader node
  | none => return default

def definitionOfNode? (nodes : List (Nat × Node)) (node : Node) : Following RuleDefinition := do
  let fields ← fields? nodes node
  let name ← text? nodes (← required nameKey fields)
  let description ← readField descriptionKey "" (text? nodes) fields
  let source ← text? nodes (← required conditionKey fields)
  let attributes ←
    readField attributesKey [] (fun node => do (← items? nodes node).mapM (text? nodes)) fields
  return ⟨name, description, source, attributes⟩

/-- The definitions of a file whose node is given. -/
def ofNode? (nodes : List (Nat × Node)) (node : Node) : Following (List RuleDefinition) := do
  let fields ← fields? nodes node
  readField rulesKey [] (fun node => do (← items? nodes node).mapM (definitionOfNode? nodes)) fields

/-- The definitions of a file in YAML. -/
def ofYaml? (source : String) : Option (List RuleDefinition) := do
  (← Yaml.Document.ofText? source.toList).read [] ofNode?

end Verdict.RuleFile
