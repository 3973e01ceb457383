/-!
# Operators

The twenty-five operators between two operands. Each has one symbol, by which it is written, stored and named in
messages; equality may also be written `==`.
-/

namespace Verdict

inductive BinaryOp where
  | eq | ne | lt | le | gt | ge
  | and | or | xor
  | add | sub | mul | div | mod | pow
  | bitAnd | bitOr | bitXor | shl | shr
  | within | contains | startsWith | endsWith | matching
deriving DecidableEq, Repr, Inhabited

namespace BinaryOp

def all : List BinaryOp :=
  [eq, ne, lt, le, gt, ge, and, or, xor, add, sub, mul, div, mod, pow, bitAnd, bitOr, bitXor, shl, shr,
    within, contains, startsWith, endsWith, matching]

def symbol : BinaryOp → String
  | eq => "="
  | ne => "!="
  | lt => "<"
  | le => "<="
  | gt => ">"
  | ge => ">="
  | and => "&&"
  | or => "||"
  | xor => "xor"
  | add => "+"
  | sub => "-"
  | mul => "*"
  | div => "/"
  | mod => "%"
  | pow => "**"
  | bitAnd => "&"
  | bitOr => "|"
  | bitXor => "^"
  | shl => "<<"
  | shr => ">>"
  | within => "in"
  | contains => "contains"
  | startsWith => "startsWith"
  | endsWith => "endsWith"
  | matching => "matches"

/-- The operator with that very symbol. -/
def named? (symbol : String) : Option BinaryOp := all.find? fun op => op.symbol = symbol

/-- The operator that is written so. -/
def ofSymbol? (symbol : String) : Option BinaryOp := if symbol = "==" then some eq else named? symbol

/-- The operators that a comparison is written with. -/
def isComparison : BinaryOp → Bool
  | eq | ne | lt | le | gt | ge | within | contains | startsWith | endsWith | matching => true
  | _ => false

end BinaryOp

/-- The symbol of negation. -/
def notSymbol : String := "!"

end Verdict
