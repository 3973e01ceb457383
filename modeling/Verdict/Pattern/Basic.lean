import Verdict.Pattern.Fault
import Verdict.Pattern.Reader
import Verdict.Pattern.Meaning
import Verdict.Pattern.Weight

/-!
# Patterns

A pattern is read, given a meaning, and weighed; after that it can be looked for in any text.
-/

namespace Verdict

/-- A pattern that makes sense. -/
structure Pattern where
  shape : Pattern.Shape Text.CodeSet Pattern.Look

namespace Pattern

/-- The shape that a text describes, if it is one of a pattern. -/
def shapeOf? (source : String) : Option (Shape Text.CodeSet Look) := do
  let term ← Term.ofText? source.toList
  let (shape, _) ← term.shape? {}
  return shape

/-- Reads a pattern. -/
def compile (source : String) : Except PatternFault Pattern :=
  match shapeOf? source with
  | none => .error .malformed
  | some shape => if shape.isTooLarge then .error .tooLarge else .ok ⟨shape⟩

/-- Whether a part of the text has the shape. -/
def isMatch (p : Pattern) (text : String) : Bool := p.shape.isFound text.toList

end Pattern

end Verdict
