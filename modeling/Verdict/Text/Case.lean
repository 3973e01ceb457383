import Verdict.Text.CaseTable
import Verdict.Text.Property

/-!
# Lower and upper case

The case maps of the Unicode standard on whole texts. A character may become several, as `ß` becomes `SS`. Only
one character depends on its neighbours: a capital sigma at the end of a word becomes the final small sigma.
-/

namespace Verdict.Text

/-- The image of a character under a case map. -/
def mapCase (long : List (Nat × List Nat)) (rows : CaseTable.Rows) (c : Char) : List Char :=
  match long.lookup c.toNat with
  | some image => image.map Char.ofNat
  | none => [Char.ofNat (rows.apply c.toNat)]

/-- A capital sigma ends a word when, across what case ignores, a cased character stands before it and none
after it. The characters before are given from the nearest on. -/
def isFinalSigma (before after : List Char) : Bool :=
  let nextCased (cs : List Char) : Bool :=
    match cs.dropWhile Property.caseIgnorable.contains with
    | [] => false
    | c :: _ => Property.cased.contains c
  nextCased before && !nextCased after

/-- Lower case of a text of which `before` has been passed, nearest character first. -/
def lowerFrom (before : List Char) : List Char → List Char
  | [] => []
  | c :: rest =>
    let image :=
      if c = 'Σ' then [if isFinalSigma before rest then 'ς' else 'σ']
      else if c.toNat < 128 then [c.toLower]
      else mapCase CaseTable.lowerLong CaseTable.lower c
    image ++ lowerFrom (c :: before) rest

def toLower (s : String) : String := String.ofList (lowerFrom [] s.toList)

def toUpper (s : String) : String :=
  String.ofList (s.toList.flatMap fun c =>
    if c.toNat < 128 then [c.toUpper] else mapCase CaseTable.upperLong CaseTable.upper c)

end Verdict.Text
