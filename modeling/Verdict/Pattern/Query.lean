import Verdict.Pattern.Term
import Verdict.Text.Age
import Verdict.Text.ScriptExtensions
import Verdict.Text.Segment

/-!
# Unicode classes by name

Names are compared loosely: case, blanks, `-`, `_`, an `is` in front and all beyond ASCII do not count. A name on
its own is looked up as a binary property, then as a general category, then as a script; three short names that are
both a property and a category mean the category.
-/

namespace Verdict.Pattern

open Text

/-- The form of a name that is looked up. -/
def looseName (name : List Char) : String :=
  let (body, cut) := match name with
    | a :: b :: rest => if a.toLower = 'i' ∧ b.toLower = 's' then (rest, true) else (name, false)
    | _ => (name, false)
  let loose := (body.filter fun c => c.toNat < 128 && c != ' ' && c != '_' && c != '-').map Char.toLower
  -- The short name of ISO comments begins with the letters that are left out of other names.
  if cut ∧ loose = ['c'] then "isc" else String.ofList loose

/-- A general category, or one of the three sets that go with them. -/
def category? (name : String) : Option CodeSet :=
  if name = "any" then some .all
  else if name = "assigned" then some Category.unassigned.complement
  else if name = "ascii" then some ⟨#[(0, 0x7f)]⟩
  else (Category.named.find? fun row => row.1.contains name).map (·.2)

/-- The class of a name on its own. -/
def named? (name : String) : Option CodeSet :=
  let property :=
    if ["cf", "sc", "lc"].contains name then none else Property.named? name
  property <|> category? name <|> Script.named? name

/-- The class that a query asks for. -/
def Query.set? : Query → Option CodeSet
  | .named name => named? (looseName name)
  | .valued property value =>
    let value := looseName value
    match looseName property with
    | "gc" | "generalcategory" => category? value
    | "sc" | "script" => Script.named? value
    | "scx" | "scriptextensions" => ScriptExtensions.named? value
    | "age" => Age.named? value
    | "gcb" | "graphemeclusterbreak" => Segment.find? Segment.Grapheme.named value
    | "wb" | "wordbreak" => Segment.find? Segment.Word.named value
    | "sb" | "sentencebreak" => Segment.find? Segment.Sentence.named value
    | _ => none

end Verdict.Pattern
