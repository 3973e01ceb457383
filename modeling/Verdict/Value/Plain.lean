import Verdict.Value.Basic
import Verdict.Plain

/-!
# Values and plain data

Plain data becomes a value with the widths that it has room for: an integer is an `int64`, or a `uint64` where it
needs to be, and any other number a `float64`. The way back forgets widths, and what tells sets from arrays and
structs from maps.
-/

namespace Verdict.Value

/-- The value of a plain integer. -/
def ofWideInt (n : Json.WideInt) : Value :=
  if h : n.val ≤ IntKind.int64.max then .int ⟨.int64, n.val, n.min_le, h⟩
  else
    have := n.lt_max
    .int ⟨.uint64, n.val, by simp [IntKind.min, IntKind.max, IntKind.signed, IntKind.width] at *; omega,
      by simp [IntKind.max, IntKind.signed, IntKind.width] at *; omega⟩

mutual

/-- The value of plain data. -/
def ofPlain : Plain → Value
  | .null => .null
  | .bool b => .bool b
  | .int n => ofWideInt n
  | .float x => .float64 x
  | .string s => .string s
  | .array items => .array (itemsOfPlain items)
  | .object members => .map (membersOfPlain members)
termination_by structural p => p

def itemsOfPlain : List Plain → List Value
  | [] => []
  | p :: ps => ofPlain p :: itemsOfPlain ps
termination_by structural ps => ps

def membersOfPlain {bound : Option String} : Fields Plain bound → Fields Value bound
  | .nil => .nil
  | .cons key above p ps => .cons key above (ofPlain p) (membersOfPlain ps)
termination_by structural ps => ps

end

/-- Every integer of the eight kinds is one of plain data. -/
theorem wide_of_integer (n : Integer) :
    -9223372036854775808 ≤ n.val ∧ n.val < 18446744073709551616 := by
  obtain ⟨kind, val, lo, hi⟩ := n
  cases kind <;> simp [IntKind.min, IntKind.max, IntKind.signed, IntKind.width] at lo hi ⊢ <;> omega

/-- Plain data of a number, which is null if it is not finite. -/
def plainFloat (x : Float) : Plain := if x.isFinite then .float x else .null

mutual

/-- The plain data of a value. -/
def toPlain : Value → Plain
  | .null => .null
  | .bool b => .bool b
  | .int n => .int ⟨n.val, (wide_of_integer n).1, (wide_of_integer n).2⟩
  | .float32 x => plainFloat (Binary.widen x)
  | .float64 x => plainFloat x
  | .string s => .string s
  | .array items | .set items => .array (itemsToPlain items)
  | .map fields | .struct fields => .object (fieldsToPlain fields)
termination_by structural v => v

def itemsToPlain : List Value → List Plain
  | [] => []
  | v :: vs => toPlain v :: itemsToPlain vs
termination_by structural vs => vs

def fieldsToPlain {bound : Option String} : Fields Value bound → Fields Plain bound
  | .nil => .nil
  | .cons key above v vs => .cons key above (toPlain v) (fieldsToPlain vs)
termination_by structural vs => vs

end

end Verdict.Value
