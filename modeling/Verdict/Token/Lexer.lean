import Verdict.Token.Basic
import Verdict.Text.Blank
import Verdict.Number.Decimal

/-!
# Cutting a text into tokens

A text is white space and tokens in turn. Each token takes the longest span that it can; only a minus looks back,
for it begins a number unless an operand stands before it. Nothing of the text is lost: a token and what is left
make up what there was.
-/

namespace Verdict

/-- One token cut off a text: its span and the rest are the text. -/
structure Lexeme where
  kind : TokenKind
  text : List Char
  span : List Char
  rest : List Char

namespace Lexeme

/-- A token that says what it spans. -/
def plain (kind : TokenKind) (span rest : List Char) : Lexeme := ⟨kind, span, span, rest⟩

def operator (span rest : List Char) : Lexeme := plain .operator span rest

/-- A character that no token begins with. -/
def illegal (c : Char) (rest : List Char) : Lexeme :=
  ⟨.error, "illegal character '".toList ++ [c, '\''], [c], rest⟩

/-- An operator of one character, or of two if the second one follows. -/
def oneOrTwo (c second : Char) (cs : List Char) : Lexeme :=
  match cs with
  | d :: rest => if d = second then operator [c, second] rest else operator [c] cs
  | [] => operator [c] []

/-- An operator that is a character twice. -/
def twice (c : Char) (cs : List Char) : Lexeme :=
  match cs with
  | d :: rest => if d = c then operator [c, c] rest else illegal c cs
  | [] => illegal c []

def startsWord (c : Char) : Bool := c.isAlpha || c = '$'

def continuesWord (c : Char) : Bool := c.isAlphanum || c = '_' || c = '$'

/-- A name or a keyword that begins with `c`. -/
def word (c : Char) (cs : List Char) : Lexeme :=
  let span := c :: cs.takeWhile continuesWord
  let kind := if Token.keywords.contains (String.ofList span) then .keyword else .identifier
  plain kind span (cs.dropWhile continuesWord)

/-- A number that begins with `first`, a digit or a minus. A point has to have a digit after it. -/
def number (first : Char) (cs : List Char) : Lexeme :=
  let whole := first :: cs.takeWhile Decimal.isDigit
  match cs.dropWhile Decimal.isDigit with
  | '.' :: rest =>
    let fraction := rest.takeWhile Decimal.isDigit
    let span := whole ++ '.' :: fraction
    if fraction.isEmpty then
      ⟨.error, "invalid number literal '".toList ++ span ++ ['\''], span, rest⟩
    else plain .number span (rest.dropWhile Decimal.isDigit)
  | rest => plain .number whole rest

/-- The character that an escaped one stands for. -/
def unescape : Char → Char
  | 'n' => '\n'
  | 't' => '\t'
  | 'r' => '\r'
  | c => c

/-- The contents of a string up to its quote. -/
structure Contents where
  text : List Char
  span : List Char
  rest : List Char
  closed : Bool

/-- Puts a character with its span in front. -/
def Contents.push (x : Contents) (c : Char) (span : List Char) : Contents :=
  ⟨c :: x.text, span ++ x.span, x.rest, x.closed⟩

/-- Reads up to the quote that closes a string. A backslash takes the character after it along. -/
def contents (quote : Char) : List Char → Contents
  | [] => ⟨[], [], [], false⟩
  | c :: cs =>
    if c = quote then ⟨[], [c], cs, true⟩
    else if c = '\\' then
      match cs with
      | [] => ⟨[], [c], [], false⟩
      | e :: cs => (contents quote cs).push (unescape e) [c, e]
    else (contents quote cs).push c [c]

/-- A string whose opening quote has been passed. -/
def string (quote : Char) (cs : List Char) : Lexeme :=
  let x := contents quote cs
  if x.closed then ⟨.string, x.text, quote :: x.span, x.rest⟩
  else ⟨.error, "unterminated string literal".toList, quote :: x.span, x.rest⟩

/-- Whether a digit comes next. -/
def beforeDigit (cs : List Char) : Bool := cs.head?.any Decimal.isDigit

/-- The token that begins with `c`. -/
def first (afterOperand : Bool) (c : Char) (cs : List Char) : Lexeme :=
  match c with
  | '=' | '!' | '<' | '>' => oneOrTwo c '=' cs
  | '&' | '|' => twice c cs
  | '*' => oneOrTwo c '*' cs
  | '-' => if !afterOperand && beforeDigit cs then number c cs else operator [c] cs
  | '+' | '/' | '%' => operator [c] cs
  | '(' => plain .leftParen [c] cs
  | ')' => plain .rightParen [c] cs
  | '{' => plain .leftBrace [c] cs
  | '}' => plain .rightBrace [c] cs
  | '[' => plain .leftBracket [c] cs
  | ']' => plain .rightBracket [c] cs
  | ',' => plain .comma [c] cs
  | '.' => plain .dot [c] cs
  | ';' => plain .semicolon [c] cs
  | '"' | '\'' => string c cs
  | _ =>
    if Decimal.isDigit c then number c cs
    else if startsWord c then word c cs
    else illegal c cs

end Lexeme

/-- What is left of a text, where that begins, and whether an operand ended there. -/
structure Lexer where
  rest : List Char
  position : Position
  afterOperand : Bool

namespace Lexer

def ofText (text : String) : Lexer := ⟨text.toList, .start, false⟩

/-- The next token. At the end of the text that is the end of input, however often it is asked for. -/
def next (l : Lexer) : Token × Lexer :=
  let blanks := l.rest.takeWhile Text.isBlank
  let position := l.position.advance blanks
  match l.rest.dropWhile Text.isBlank with
  | [] => (⟨.endOfInput, "", position⟩, { l with rest := [], position })
  | c :: cs =>
    let x := Lexeme.first l.afterOperand c cs
    let text := String.ofList x.text
    (⟨x.kind, text, position⟩,
      { rest := x.rest, position := position.advance x.span, afterOperand := Token.endsOperand x.kind text })

/-- The tokens up to the end of input, and the lexer after them. -/
def run : Nat → Lexer → List Token × Lexer
  | 0, l => ([], l)
  | fuel + 1, l =>
    let (token, l) := l.next
    if token.kind = .endOfInput then ([token], l)
    else
      let (tokens, l) := run fuel l
      (token :: tokens, l)

/-- All tokens of what is left. Each takes a character at least, and the end of input comes after them. -/
def tokens (l : Lexer) : List Token × Lexer := l.run (l.rest.length + 1)

end Lexer

/-- The tokens of a text, the last of which is the end of input. -/
def tokenize (text : String) : List Token := (Lexer.ofText text).tokens.1

end Verdict
