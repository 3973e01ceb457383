import Verdict.Eval.Error
import Verdict.Value.Equality
import Verdict.Value.Display
import Verdict.Pattern.Basic

/-!
# What operators do

The meaning of the operators on values. It depends only on the operator and the two values, and every way to
fail is a cause of its own. Two integers of one kind are worked on in that kind; all other pairs of numbers are
worked on as doubles.
-/

namespace Verdict

namespace Operation

abbrev Outcome := Except EvalError Value

def mismatch (op : BinaryOp) (left right : Value) : Outcome := .error (.typeMismatch op left.type right.type)

/-! ## Logic -/

/-- The boolean that an operand of a logical operator has to be. -/
def boolean (operand : LogicalOperand) (v : Value) : Except EvalError Bool :=
  match v.bool? with
  | some b => .ok b
  | none => .error (.nonBoolean operand v.type)

/-- Both operands are looked at, the left one first. -/
def logical (op : BinaryOp) (combine : Bool → Bool → Bool) (left right : Value) : Outcome := do
  let a ← boolean (.left op) left
  let b ← boolean (.right op) right
  return .bool (combine a b)

def negate (v : Value) : Outcome := do
  let b ← boolean .negated v
  return .bool !b

/-! ## Order -/

/-- How two doubles compare; `NaN` compares with nothing. -/
def orderFloats (x y : Float) : Option Ordering := x.toModel.compare y.toModel

/-- How two values compare. There is an answer for two strings, by their code points, and for two numbers; two
integers are compared exactly. -/
def order? : Value → Value → Option (Option Ordering)
  | .string a, .string b => some (some (compare a b))
  | .int a, .int b => some (some (compare a.val b.val))
  | a, b =>
    match a.float?, b.float? with
    | some x, some y => some (orderFloats x y)
    | _, _ => none

/-- A comparison that holds for the accepted orderings. -/
def comparison (op : BinaryOp) (accept : Ordering → Bool) (left right : Value) : Outcome :=
  match order? left right with
  | some ordering => .ok (.bool (ordering.any accept))
  | none => mismatch op left right

/-! ## Arithmetic -/

/-- A result that has to fit. -/
def fitting (op : BinaryOp) (n : Option Integer) : Outcome :=
  match n with
  | some n => .ok (.int n)
  | none => .error (.overflow op)

/-- An operator on two integers of kind `k`. -/
def onIntegers (op : BinaryOp) (k : IntKind) (a b : Int) : Outcome :=
  match op with
  | .add => fitting op (Integer.add? k a b)
  | .sub => fitting op (Integer.sub? k a b)
  | .mul => fitting op (Integer.mul? k a b)
  | .div => if b = 0 then .error .divisionByZero else fitting op (Integer.div? k a b)
  | .mod => if b = 0 then .error .moduloByZero else fitting op (Integer.mod? k a b)
  | .pow => fitting op (Integer.pow? k a b)
  | .bitAnd => .ok (.int (Integer.bitAnd k a b))
  | .bitOr => .ok (.int (Integer.bitOr k a b))
  | .bitXor => .ok (.int (Integer.bitXor k a b))
  | .shl => fitting op (Integer.shl? k a b)
  | .shr => fitting op (Integer.shr? k a b)
  | _ => .error (.typeMismatch op (.int k) (.int k))

/-- An operator on two doubles. -/
def onFloats (op : BinaryOp) (x y : Float) : Outcome :=
  match op with
  | .add => .ok (.float64 (x + y))
  | .sub => .ok (.float64 (x - y))
  | .mul => .ok (.float64 (x * y))
  | .div => if y == 0 then .error .divisionByZero else .ok (.float64 (x / y))
  | .mod => if y == 0 then .error .moduloByZero else .ok (.float64 (Binary.rem x y))
  | .pow => .ok (.float64 (Float.pow x y))
  | _ => .error (.typeMismatch op .float64 .float64)

/-- Two integers of one kind. -/
def sameKind? : Value → Value → Option (IntKind × Int × Int)
  | .int a, .int b => if a.kind = b.kind then some (a.kind, a.val, b.val) else none
  | _, _ => none

/-- A power whose exponent is a negative integer, which no integer is the result of. -/
def isInversePower (op : BinaryOp) (right : Value) : Bool :=
  op = .pow && right.int?.any (· < 0)

/-- Operators on numbers, as doubles where there is no integer of one kind to be the result. -/
def numeric (op : BinaryOp) (left right : Value) : Outcome :=
  match if isInversePower op right then none else sameKind? left right with
  | some (k, a, b) => onIntegers op k a b
  | none =>
    match left.float?, right.float? with
    | some x, some y => onFloats op x y
    | _, _ => mismatch op left right

def isString (v : Value) : Bool := v.string?.isSome

/-- A sum, or the text of both operands where one of them is a string. -/
def sum (left right : Value) : Outcome :=
  if isString left || isString right then .ok (.string (String.ofList (left.text ++ right.text)))
  else numeric .add left right

/-- Operators on the words of two integers of one kind. -/
def bitwise (op : BinaryOp) (left right : Value) : Outcome :=
  match sameKind? left right with
  | some (k, a, b) => onIntegers op k a b
  | none => mismatch op left right

/-! ## Members and texts -/

/-- Whether one text stands in another. -/
def isInfix (part : List Char) : List Char → Bool
  | [] => part.isEmpty
  | c :: cs => part.isPrefixOf (c :: cs) || isInfix part cs

/-- Whether a needle is in a haystack: a member of an array or a set, the name of a field, or a part of a
text. -/
def membership (needle haystack : Value) : Outcome :=
  match haystack with
  | .array items | .set items => .ok (.bool (items.any fun item => item.equal needle))
  | .map fields | .struct fields => .ok (.bool (needle.string?.any fun name => Fields.contains name fields))
  | .string text => .ok (.bool (needle.string?.any fun part => isInfix part.toList text.toList))
  | _ => mismatch .within needle haystack

def containment (left right : Value) : Outcome :=
  match left, right with
  | .array items, _ | .set items, _ => .ok (.bool (items.any fun item => item.equal right))
  | .string text, .string part => .ok (.bool (isInfix part.toList text.toList))
  | _, _ => mismatch .contains left right

/-- A test of two strings. -/
def stringTest (op : BinaryOp) (test : List Char → List Char → Bool) (left right : Value) : Outcome :=
  match left, right with
  | .string text, .string part => .ok (.bool (test text.toList part.toList))
  | _, _ => mismatch op left right

/-- Whether a pattern is found anywhere in a text. -/
def patternTest (left right : Value) : Outcome :=
  match left, right with
  | .string text, .string source =>
    match Pattern.compile source with
    | .ok pattern => .ok (.bool (pattern.isMatch text))
    | .error fault => .error (.invalidPattern source fault)
  | _, _ => mismatch .matching left right

end Operation

open Operation in
/-- Applies an operator to two values. -/
def BinaryOp.apply (op : BinaryOp) (left right : Value) : Except EvalError Value :=
  match op with
  | .eq => .ok (.bool (left.equal right))
  | .ne => .ok (.bool !(left.equal right))
  | .lt => comparison op Ordering.isLT left right
  | .le => comparison op Ordering.isLE left right
  | .gt => comparison op Ordering.isGT left right
  | .ge => comparison op Ordering.isGE left right
  | .and => logical op (· && ·) left right
  | .or => logical op (· || ·) left right
  | .xor => logical op (· != ·) left right
  | .add => sum left right
  | .sub | .mul | .div | .mod | .pow => numeric op left right
  | .bitAnd | .bitOr | .bitXor | .shl | .shr => bitwise op left right
  | .within => membership left right
  | .contains => containment left right
  | .startsWith => stringTest op (fun text part => part.isPrefixOf text) left right
  | .endsWith => stringTest op (fun text part => part.isSuffixOf text) left right
  | .matching => patternTest left right

end Verdict
