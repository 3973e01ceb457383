import Verdict.Token.Basic

/-!
# What a text is refused for

The ways in which a text can fail to be an expression, with the place of the token at fault.
-/

namespace Verdict

inductive ParseError where
  /-- A token is none of the language; the message says why. -/
  | lexical (message : String) (position : Position)
  /-- Another token stands where something was expected. -/
  | unexpectedToken (expected found : String) (position : Position)
  /-- The text ends where something was expected. -/
  | unexpectedEnd (expected : String)
  /-- An expression is complete and the text goes on. -/
  | trailingInput (found : String) (position : Position)
  /-- A number token has no value. -/
  | invalidNumber (text : String) (position : Position)
  /-- The expression nests deeper than it may. -/
  | tooDeep (limit : Nat)
deriving DecidableEq, Repr

namespace ParseError

/-- A place as messages name it. -/
def place (p : Position) : String := s!" at line {p.line}, column {p.column}"

def message : ParseError → String
  | .lexical m p => m ++ place p
  | .unexpectedToken expected found p => "Expected " ++ expected ++ " but found '" ++ found ++ "'" ++ place p
  | .unexpectedEnd expected => "Unexpected end of expression, expected " ++ expected
  | .trailingInput found p => "Unexpected token at end of expression: '" ++ found ++ "'" ++ place p
  | .invalidNumber text p => "Invalid number '" ++ text ++ "'" ++ place p
  | .tooDeep limit => "Expression nested deeper than " ++ toString limit ++ " levels"

end ParseError

end Verdict
