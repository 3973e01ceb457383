/-!
# Sets of code points

A set of characters is kept as its runs: pairs of a first and a last code point, in rising order and with a
gap between neighbours. Membership is a binary search. The set operations work on code points as a whole and
so never count the gap of the surrogates apart: no character lies in it.
-/

namespace Verdict.Text

/-- A set of code points, as its maximal runs in rising order. -/
structure CodeSet where
  runs : Array (Nat × Nat)
deriving BEq, Inhabited

namespace CodeSet

/-- The last code point there is. -/
def lastCode : Nat := 0x10ffff

def empty : CodeSet := ⟨#[]⟩

def all : CodeSet := ⟨#[(0, lastCode)]⟩

def isEmpty (s : CodeSet) : Bool := s.runs.isEmpty

/-- Whether `n` lies in one of the runs numbered from `lo` up to `hi`; every step halves what is left. -/
def search (runs : Array (Nat × Nat)) (n : Nat) : Nat → Nat → Nat → Bool
  | 0, _, _ => false
  | fuel + 1, lo, hi =>
    if lo < hi then
      let mid := (lo + hi) / 2
      match runs[mid]? with
      | none => false
      | some (first, last) =>
        if n < first then search runs n fuel lo mid
        else if last < n then search runs n fuel (mid + 1) hi
        else true
    else false

/-- Whether the code point `n` is in the set. -/
def member (s : CodeSet) (n : Nat) : Bool :=
  search s.runs n (s.runs.size + 1) 0 s.runs.size

def contains (s : CodeSet) (c : Char) : Bool := s.member c.toNat

/-- Joins runs that overlap or touch, in a list that rises by first code point. -/
def joinRuns : List (Nat × Nat) → List (Nat × Nat)
  | [] => []
  | run :: rest => go run rest
where
  go (run : Nat × Nat) : List (Nat × Nat) → List (Nat × Nat)
    | [] => [run]
    | next :: rest =>
      if next.1 ≤ run.2 + 1 then go (run.1, max run.2 next.2) rest
      else run :: go next rest

/-- The set of all code points of some runs, given in any order. -/
def ofRuns (runs : List (Nat × Nat)) : CodeSet :=
  let proper := runs.filter fun run => run.1 ≤ run.2
  ⟨(joinRuns (proper.mergeSort fun a b => a.1 ≤ b.1)).toArray⟩

def singleton (n : Nat) : CodeSet := ⟨#[(n, n)]⟩

def union (s t : CodeSet) : CodeSet := ofRuns (s.runs.toList ++ t.runs.toList)

/-- The runs between the given ones, from `start` on. -/
def gaps (start : Nat) : List (Nat × Nat) → List (Nat × Nat)
  | [] => if start ≤ lastCode then [(start, lastCode)] else []
  | (first, last) :: rest =>
    if start < first then (start, first - 1) :: gaps (last + 1) rest else gaps (last + 1) rest

def complement (s : CodeSet) : CodeSet := ⟨(gaps 0 s.runs.toList).toArray⟩

def inter (s t : CodeSet) : CodeSet := (s.complement.union t.complement).complement

def diff (s t : CodeSet) : CodeSet := s.inter t.complement

def symmDiff (s t : CodeSet) : CodeSet := (s.diff t).union (t.diff s)

def unions (sets : List CodeSet) : CodeSet :=
  ofRuns (sets.flatMap fun s => s.runs.toList)

/-! ## Written sets -/

/-- The value of a hexadecimal digit. -/
def hexDigit? (c : Char) : Option Nat :=
  if '0' ≤ c ∧ c ≤ '9' then some (c.toNat - 48)
  else if 'a' ≤ c ∧ c ≤ 'f' then some (c.toNat - 87)
  else if 'A' ≤ c ∧ c ≤ 'F' then some (c.toNat - 55)
  else none

/-- Where a reader of written runs stands: the runs read, and the run it is in. -/
structure Reading where
  runs : Array (Nat × Nat) := #[]
  first : Option Nat := none
  number : Option Nat := none

/-- Takes the number that was read as the end of a run. -/
def Reading.close (r : Reading) : Reading :=
  match r.first, r.number with
  | some first, some last => ⟨r.runs.push (first, last), none, none⟩
  | none, some n => ⟨r.runs.push (n, n), none, none⟩
  | _, none => ⟨r.runs, none, none⟩

def Reading.step (r : Reading) (c : Char) : Reading :=
  match hexDigit? c with
  | some d => { r with number := some (r.number.getD 0 * 16 + d) }
  | none => if c = '-' then { r with first := r.number, number := none } else r.close

/-- Reads a set written as hexadecimal numbers and `first-last` pairs with blanks between them. -/
def ofText (text : String) : CodeSet :=
  ⟨(text.toList.foldl Reading.step {}).close.runs⟩

end CodeSet

end Verdict.Text
