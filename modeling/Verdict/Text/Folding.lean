import Verdict.Text.CaseTable

/-!
# Case folding of sets

Characters that fold to the same one are the same but for their case. A set is folded by adding to it whatever is
the same as one of its members.
-/

namespace Verdict.Text

namespace CaseTable

/-- All code points that folding changes, with what they fold to. -/
def foldPairs : List (Nat × Nat) := fold.pairs

end CaseTable

namespace CodeSet

def ofCodes (codes : List Nat) : CodeSet := ofRuns (codes.map fun n => (n, n))

/-- A set with all that differs from a member in case only. -/
def foldCase (s : CodeSet) : CodeSet :=
  let images := CaseTable.foldPairs.filterMap fun (n, image) => if s.member n then some image else none
  let folded := s.union (ofCodes images)
  folded.union (ofCodes (CaseTable.foldPairs.filterMap fun (n, image) =>
    if folded.member image then some n else none))

/-- As `foldCase`, among the letters of ASCII only. -/
def foldAscii (s : CodeSet) : CodeSet :=
  s.union (ofCodes ((List.range 128).filter fun n =>
    let c := Char.ofNat n
    c.isAlpha && (s.contains c.toLower || s.contains c.toUpper)))

end CodeSet

end Verdict.Text
