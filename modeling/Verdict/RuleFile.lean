import Verdict.RuleSet
import Verdict.Plain

/-!
# Files of rules

The definitions that a file of rules holds: an object with a list `rules`, each a name, a condition under `when`,
and perhaps a description and attributes. A list in place of an object holds its members in that order.
-/

namespace Verdict.RuleFile

def rulesKey : String := "rules"

def nameKey : String := "name"

def descriptionKey : String := "description"

def conditionKey : String := "when"

def attributesKey : String := "attributes"

def plainString? : Plain → Option String
  | .string s => some s
  | _ => none

def plainStrings? : Plain → Option (List String)
  | .array items => items.mapM plainString?
  | _ => none

/-- A member that may be left out. -/
def optional {α : Type} (default : α) (read : Plain → Option α) : Option Plain → Option α
  | none => some default
  | some p => read p

/-- A definition in plain data. -/
def definitionOfPlain? : Plain → Option RuleDefinition
  | .object ms => do
    let name ← (Fields.get? nameKey ms).bind plainString?
    let description ← optional "" plainString? (Fields.get? descriptionKey ms)
    let source ← (Fields.get? conditionKey ms).bind plainString?
    let attributes ← optional [] plainStrings? (Fields.get? attributesKey ms)
    return ⟨name, description, source, attributes⟩
  | .array [name, description, source] => do
    return ⟨← plainString? name, ← plainString? description, ← plainString? source, []⟩
  | .array [name, description, source, attributes] => do
    return ⟨← plainString? name, ← plainString? description, ← plainString? source, ← plainStrings? attributes⟩
  | _ => none

def definitionsOfPlain? : Plain → Option (List RuleDefinition)
  | .array items => items.mapM definitionOfPlain?
  | _ => none

/-- The definitions of a file in plain data. -/
def ofPlain? : Plain → Option (List RuleDefinition)
  | .object ms => optional [] definitionsOfPlain? (Fields.get? rulesKey ms)
  | .array [] => some []
  | .array [rules] => definitionsOfPlain? rules
  | _ => none

end Verdict.RuleFile
