import Verdict.Text.Quoted

/-!
# Tokens

The words of the expression language. What is not a word of it becomes an error token, whose text is the message;
so a text always has tokens, and it is for the parser to refuse them.
-/

namespace Verdict

/-- A place in a text, counted from one; a column counts characters. -/
structure Position where
  line : Nat
  column : Nat
deriving DecidableEq, Repr, Inhabited

namespace Position

def start : Position := ⟨1, 1⟩

/-- The place after a character. -/
def next (p : Position) (c : Char) : Position :=
  if c = '\n' then ⟨p.line + 1, 1⟩ else ⟨p.line, p.column + 1⟩

/-- The place after a text. -/
def advance (p : Position) (cs : List Char) : Position := cs.foldl next p

end Position

inductive TokenKind where
  | endOfInput
  | identifier
  | number
  | string
  | operator
  | keyword
  | leftParen
  | rightParen
  | leftBrace
  | rightBrace
  | leftBracket
  | rightBracket
  | comma
  | dot
  | semicolon
  | error
deriving DecidableEq, Repr, Inhabited

/-- A word of a text: its kind, what it says, and where it begins. A string says what stands between its quotes,
and an error what is wrong. -/
structure Token where
  kind : TokenKind
  text : String
  position : Position
deriving DecidableEq, Repr, Inhabited

namespace Token

/-- Identifiers that are operators where an operator is expected. -/
def operatorWords : List String := ["xor", "contains", "startsWith", "endsWith", "matches"]

/-- Identifiers that are never names of variables. -/
def keywords : List String := ["true", "false", "in"]

/-- Whether a word of that kind and text ends an operand, so that a minus after it is an operator. -/
def endsOperand (kind : TokenKind) (text : String) : Bool :=
  match kind with
  | .identifier => !operatorWords.contains text
  | .number | .string | .rightParen | .rightBracket | .rightBrace => true
  | .keyword => text != "in"
  | _ => false

/-- A token as messages name it. -/
def display (t : Token) : String :=
  match t.kind with
  | .endOfInput => "end of input"
  | .string => String.ofList (Text.quote t.text.toList)
  | _ => t.text

/-- Whether a token is that very word. -/
def is (t : Token) (kind : TokenKind) (text : String) : Bool := t.kind == kind && t.text == text

end Token

end Verdict
