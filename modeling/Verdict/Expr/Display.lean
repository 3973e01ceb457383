import Verdict.Expr.Basic
import Verdict.Value.Display

/-!
# Expressions as text

The text of an expression in its own language, with parentheses around every operator, so that reading it gives
the same tree. A number with a fraction always shows one, and a string escapes what would end it.
-/

namespace Verdict.Expr

/-- One character of a string literal. -/
def literalChar (c : Char) : List Char :=
  match c with
  | '"' => ['\\', '"']
  | '\\' => ['\\', '\\']
  | '\n' => ['\\', 'n']
  | '\t' => ['\\', 't']
  | '\r' => ['\\', 'r']
  | _ => [c]

/-- A floating-point number shows a fraction, unless it is infinite or not a number. -/
def withFraction (cs : List Char) : List Char :=
  if cs.contains '.' || !(cs.getLast?.any Decimal.isDigit) then cs else cs ++ ['.', '0']

mutual

/-- The text of a literal. Arrays and sets are written like list expressions. -/
def literalText : Value → List Char
  | .string s => '"' :: s.toList.flatMap literalChar ++ ['"']
  | .float32 x => withFraction (Decimal.displayFloat32 x)
  | .float64 x => withFraction (Decimal.displayFloat x)
  | .array [] | .set [] => ['[', ']']
  | .array (x :: xs) | .set (x :: xs) => '[' :: literalText x ++ literalsText xs ++ [']']
  | v => v.text
termination_by structural v => v

/-- The literals after the first. -/
def literalsText : List Value → List Char
  | [] => []
  | x :: xs => ',' :: ' ' :: literalText x ++ literalsText xs
termination_by structural xs => xs

end

/-- The fields of a path. -/
def pathText (path : List String) : List Char := path.flatMap fun field => '.' :: field.toList

mutual

/-- The text of an expression. -/
def text : Expr → List Char
  | .literal v => literalText v
  | .variable name path => '$' :: name.toList ++ pathText path
  | .not operand => notSymbol.toList ++ text operand
  | .binary op left right => '(' :: text left ++ ' ' :: op.symbol.toList ++ ' ' :: text right ++ [')']
  | .list [] => ['[', ']']
  | .list (e :: es) => '[' :: text e ++ textOfRest es ++ [']']
  | .call function [] => function.toList ++ ['(', ')']
  | .call function (e :: es) => function.toList ++ '(' :: text e ++ textOfRest es ++ [')']
termination_by structural e => e

/-- The expressions of a list after the first. -/
def textOfRest : List Expr → List Char
  | [] => []
  | e :: es => ',' :: ' ' :: text e ++ textOfRest es
termination_by structural es => es

end

/-- How an expression is displayed. -/
def display (e : Expr) : String := String.ofList e.text

end Verdict.Expr
