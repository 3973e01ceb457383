import Verdict.Expr.Parser

/-!
# The parser without a counter

The same parser for plain trees and with nothing done around an operand. The limit on the depth is then the depth that is
left in `operand`, and a tree is measured where a node is made.
-/

namespace Verdict

/-- Takes something from the front of the tokens, without counting. -/
abbrev Parser (α : Type) := ParserOf (Except ParseError) α

namespace Parser

/-- Refuses a tree that is too tall. -/
def bounded (e : Expr) : Except ParseError Expr :=
  if e.height ≤ maxDepth then .ok e else .error (.tooDeep maxDepth)

@[default_instance]
instance plain : Reading (Except ParseError) Expr where
  advance := Stream.advance
  refuse := .error
  inside := id
  literal := .literal
  reference := .variable
  node b := bounded b.expr

theorem plain_refuse {α : Type} (e : ParseError) : (Reading.refuse e : Except ParseError α) = .error e := rfl

theorem operand_succ (depth : Nat) (s : Stream) : operand (depth + 1) s = operandWith (operand depth) s := rfl

/-- An expression of the whole grammar. -/
def expression : Parser Expr := expressionOf (operand maxDepth)

/-- An expression that takes all tokens. -/
def whole (s : Stream) : Except ParseError Expr := wholeOf expression s

end Parser

end Verdict
