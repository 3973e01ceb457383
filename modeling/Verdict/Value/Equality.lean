import Verdict.Value.Basic

/-!
# Structural equality

Two values are equal when they have the same structure. Numbers count by value and not by width: two integers
are compared exactly, a pair with a floating-point number as doubles, so that a `NaN` equals nothing. Two sets are
equal when each member of either has an equal in the other, and two maps when they have one size and each field of
the first has an equal value in the second. A map is never equal to a struct.
-/

namespace Verdict.Value

/-- Equality of two values neither of which holds others. -/
def scalarEq : Value → Value → Bool
  | .null, .null => true
  | .bool a, .bool b => a == b
  | .string a, .string b => a == b
  | .int a, .int b => a.val == b.val
  | a, b =>
    match a.float?, b.float? with
    | some x, some y => x == y
    | _, _ => false

mutual

/-- Whether two values are equal. -/
def equal : Value → Value → Bool
  | .array xs, .array ys => itemsEqual xs ys
  | .set xs, .set ys => eachIn xs ys && ys.all (isIn xs)
  | .map xs, .map ys => xs.toList.length == ys.toList.length && fieldsIn xs ys
  | .struct xs, .struct ys => xs.toList.length == ys.toList.length && fieldsIn xs ys
  | a, b => scalarEq a b
termination_by structural v => v

/-- Whether two lists are equal item by item. -/
def itemsEqual : List Value → List Value → Bool
  | [], [] => true
  | x :: xs, y :: ys => equal x y && itemsEqual xs ys
  | _, _ => false
termination_by structural xs => xs

/-- Whether each of the first values has an equal among the second ones. -/
def eachIn : List Value → List Value → Bool
  | [], _ => true
  | x :: xs, ys => ys.any (equal x) && eachIn xs ys
termination_by structural xs => xs

/-- Whether one of the values is equal to `y`. -/
def isIn : List Value → Value → Bool
  | [], _ => false
  | x :: xs, y => equal x y || isIn xs y
termination_by structural xs => xs

/-- Whether each of the first fields has a field of its name with an equal value among the second ones. -/
def fieldsIn {bound : Option String} : Fields Value bound → Fields Value → Bool
  | .nil, _ => true
  | .cons name _ x xs, ys => (ys.get? name).any (equal x) && fieldsIn xs ys
termination_by structural xs => xs

end

/-- Appends the items that are equal to none before them. -/
def appendNew (kept : List Value) : List Value → List Value
  | [] => kept
  | x :: xs => appendNew (if kept.any fun y => equal y x then kept else kept ++ [x]) xs

/-- The items without those that are equal to an earlier one that is kept. -/
def distinct (xs : List Value) : List Value := appendNew [] xs

/-- The set of some items: the first of those that are equal stays. -/
def ofItems (xs : List Value) : Value := .set (distinct xs)

end Verdict.Value
