import Std.Data.HashMap
import Verdict.Pattern.Fault
import Verdict.Pattern.Shape
import Verdict.Text.ByteRows

/-!
# How large a pattern is

A pattern may not take more than ten mebibytes as a machine that reads bytes, forward or backward. A state of the
machine counts 32 bytes, and more by the number of ways out of it. Nothing of the machine is built here but the part
for one class; repetitions multiply.
-/

namespace Verdict.Pattern

open Text (CodeSet ByteRange ByteRow)

/-- What a state counts on its own. -/
def stateBytes : Nat := 32

/-! ## Classes -/

/-- States told apart by their ways out, and what they count in all. -/
structure Pool where
  numbers : Std.HashMap (List (ByteRange × Nat)) Nat
  bytes : Nat

/-- The number of the state with these ways out; states that agree in them are one. -/
def Pool.intern (pool : Pool) (ways : List (ByteRange × Nat)) : Nat × Pool :=
  match pool.numbers[ways]? with
  | some n => (n, pool)
  | none =>
    let n := pool.numbers.size + 1
    (n, ⟨pool.numbers.insert ways n, pool.bytes + stateBytes + 8 * ways.length⟩)

/-- The state that reads some rows of at most so many bytes. State 0 is where they end. -/
def Pool.add : Nat → List ByteRow → Pool → Nat × Pool
  | 0, _, pool => (0, pool)
  | n + 1, rows, pool =>
    match ByteRow.groups rows with
    | [] => (0, pool)
    | groups =>
      let (ways, pool) := groups.foldl (fun (ways, pool) (range, rests) =>
        let (next, pool) := add n rests pool
        ((range, next) :: ways, pool)) (([] : List (ByteRange × Nat)), pool)
      pool.intern ways.reverse

/-- How many states tell the beginnings of rows apart. -/
def countBeginnings : Nat → List ByteRow → Nat
  | 0, _ => 0
  | n + 1, rows => (ByteRow.groups rows).foldl (fun sum (_, rests) => sum + 1 + countBeginnings n rests) 0

/-- What a class counts. One character is a state for each byte; a class of ASCII is two states. Else a machine that
reads forward shares what rows end with, and one that reads backward shares what they begin with. -/
def classBytes (forward : Bool) (s : CodeSet) : Nat :=
  let last := (s.runs.back?.getD (0, 0)).2
  match s.runs.toList with
  | [(a, b)] => if a = b then stateBytes * (ByteRow.ofRun (a, b)).flatten.length else wide last
  | _ => wide last
where
  wide (last : Nat) : Nat :=
    if last < 128 then 2 * stateBytes + 8 * s.runs.size
    else
      let rows := ByteRow.ofSet s
      if forward then stateBytes + ((Pool.add 4 rows ⟨∅, 0⟩).2).bytes
      else 2 * stateBytes + stateBytes * countBeginnings 4 rows + 4 * rows.length

/-! ## Shapes -/

namespace Shape

/-- Whether each match takes a character. -/
def takes : Shape CodeSet Look → Bool
  | empty | look _ => false
  | one set => !set.isEmpty
  | capture body => body.takes
  | cat first second => first.takes || second.takes
  | alt left right => left.takes && right.takes
  | times body least _ => least > 0 && body.takes

/-- Whether no match takes a character. -/
def isThin : Shape CodeSet Look → Bool
  | empty | look _ => true
  | one _ => false
  | capture body => body.isThin
  | cat first second => first.isThin && second.isThin
  | alt left right => left.isThin && right.isThin
  | times body _ most => body.isThin || most == some 0

/-- What a repetition counts, of a body that counts `w`. -/
def repeatBytes (w : Nat) (takes : Bool) : Nat → Option Nat → Nat
  | 0, some 0 => stateBytes
  | 0, some 1 => w + 2 * stateBytes + 8
  | 0, none => if takes then w + stateBytes + 4 else w + 3 * stateBytes + 16
  | least, none => least * w + stateBytes + 4
  | least, some most =>
    if least = most then least * w
    else (if least = 0 then stateBytes else 0) + least * w + stateBytes + (most - least) * (w + stateBytes + 8)

/-- What a shape counts in one direction. What takes no character is repeated once at most. -/
def bytes (forward : Bool) : Shape CodeSet Look → Nat
  | empty => stateBytes
  | look _ => stateBytes
  | one set => classBytes forward set
  | capture body => body.bytes forward + if forward then 2 * stateBytes else 0
  | cat first second => first.bytes forward + second.bytes forward
  | alt left right =>
    left.bytes forward + right.bytes forward +
      match right with
      | alt _ _ => 4
      | _ => 2 * stateBytes + 8
  | times body least most =>
    let w := body.bytes forward
    if body.isThin then repeatBytes w false (min least 1) (some (min (most.getD 1) 1))
    else repeatBytes w body.takes least most

/-- What the states around a shape count: those that skip what stands before a match, and those that end it. -/
def frameBytes : Nat := 200

/-- Whether a shape is larger than patterns may be, in either direction. -/
def isTooLarge (s : Shape CodeSet Look) : Bool :=
  s.bytes true + frameBytes > maxBytes || s.bytes false + frameBytes > maxBytes

end Shape

end Verdict.Pattern
