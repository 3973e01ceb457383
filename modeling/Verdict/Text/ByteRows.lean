import Verdict.Text.CodeSet

/-!
# Code points as rows of bytes

The encoding of a run of code points, as rows of byte ranges: a row stands for all texts that have a byte of each of
its ranges in turn. Rows come in rising order and do not overlap.
-/

namespace Verdict.Text

/-- The first and the last byte of a range. -/
abbrev ByteRange := Nat × Nat

/-- A row of byte ranges, one for each byte of an encoding. -/
abbrev ByteRow := List ByteRange

namespace ByteRow

/-- The rows of the numbers from `first` to `last`, written as a byte that counts from `lead` and so many bytes of
six bits. Runs of whole blocks below one leading byte become one row. -/
def ofNumbers (lead : Nat) : Nat → Nat → Nat → List ByteRow
  | 0, first, last => [[(lead + first, lead + last)]]
  | n + 1, first, last =>
    let block := Nat.pow 64 (n + 1)
    let a := first / block
    let b := last / block
    let below := fun x lo hi => (ofNumbers 0x80 n lo hi).map ((lead + x, lead + x) :: ·)
    if a = b then below a (first % block) (last % block)
    else
      let fromStart := first % block = 0
      let toEnd := last % block = block - 1
      let lo := if fromStart then a else a + 1
      let hi := if toEnd then b else b - 1
      (if fromStart then [] else below a (first % block) (block - 1)) ++
        (if lo ≤ hi then (ofNumbers 0x80 n 0 (block - 1)).map ((lead + lo, lead + hi) :: ·) else []) ++
        (if toEnd then [] else below b 0 (last % block))

/-- Where encodings have the same number of bytes: the code points, how many bytes follow the first, and what the
first counts from. Surrogates have no encoding. -/
def spans : List ((Nat × Nat) × Nat × Nat) :=
  [((0, 0x7f), 0, 0), ((0x80, 0x7ff), 1, 0xc0), ((0x800, 0xd7ff), 2, 0xe0), ((0xe000, 0xffff), 2, 0xe0),
    ((0x10000, 0x10ffff), 3, 0xf0)]

def ofRun (run : Nat × Nat) : List ByteRow :=
  spans.flatMap fun ((lo, hi), more, lead) =>
    let first := max run.1 lo
    let last := min run.2 hi
    if first ≤ last then ofNumbers lead more first last else []

def ofSet (s : CodeSet) : List ByteRow := s.runs.toList.flatMap ofRun

/-- Rows by their first range, with what follows it. -/
def groups (rows : List ByteRow) : List (ByteRange × List ByteRow) :=
  rows.foldr (fun row done =>
    match row, done with
    | [], _ => done
    | range :: rest, (other, rests) :: more =>
      if range = other then (other, rest :: rests) :: more else (range, [rest]) :: done
    | range :: rest, [] => [(range, [rest])]) []

end ByteRow

end Verdict.Text
