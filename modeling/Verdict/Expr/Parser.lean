import Verdict.Expr.Parsed
import Verdict.Token.Lexer

/-!
# Reading expressions

The grammar has six levels, from the loosest binding to the tightest: `||` and `xor`, `&&`, one comparison, `+` and
`-`, `*` `/` `%` and `**`, and operands. Operators of one level group to the left. Each level is a function of the
one below it, and operands are those of the whole grammar again, one level of nesting deeper.

A parser is written for any monad that can go on to the next token and refuse. The one that runs counts the operands
that it is inside of, and its trees come with their heights; both are limited.
-/

namespace Verdict

/-- The tokens that are left: the current one, and those after it. The last one is the end of input. -/
structure Stream where
  current : Token
  rest : List Token

namespace Stream

/-- The tokens of a text from the first one on. -/
def ofText (text : String) : Stream :=
  match tokenize text with
  | t :: ts => ⟨t, ts⟩
  | [] => ⟨⟨.endOfInput, "", .start⟩, []⟩

/-- Goes on to the next token, which has to be one of the language. -/
def advance (s : Stream) : Except ParseError Stream :=
  match s.rest with
  | [] => .ok s
  | t :: ts => if t.kind = .error then .error (.lexical t.text t.position) else .ok ⟨t, ts⟩

/-- The error that something else was expected here. -/
def unexpected (s : Stream) (expected : String) : ParseError :=
  if s.current.kind = .endOfInput then .unexpectedEnd expected
  else .unexpectedToken expected s.current.display s.current.position

end Stream

/-- What it takes to read expressions as trees: a way to go on and one to refuse, what is done around an operand, and
how trees are made. -/
class Reading (m : Type → Type) (τ : outParam Type) extends Monad m where
  advance : Stream → m Stream
  refuse {α : Type} : ParseError → m α
  inside {α : Type} : m α → m α
  literal : Value → τ
  reference : String → List String → τ
  node : Branch τ → m τ

/-- Takes something from the front of the tokens. -/
abbrev ParserOf (m : Type → Type) (α : Type) := Stream → m (α × Stream)

namespace Parser

open Reading (advance refuse inside node)

variable {m : Type → Type} {τ : Type} [Reading m τ]

/-- Passes over a token of that kind. -/
def expect (kind : TokenKind) (expected : String) : ParserOf m Token := fun s =>
  if s.current.kind = kind then do
    let next ← advance s
    return (s.current, next)
  else refuse (s.unexpected expected)

/-! ## Operators -/

/-- Takes operators and operands after the operand on the left, as long as an operator of the level comes. -/
def chainFrom (op? : Token → Option BinaryOp) (operand : ParserOf m τ) : Nat → τ → ParserOf m τ
  | 0, left, s => pure (left, s)
  | fuel + 1, left, s =>
    match op? s.current with
    | none => pure (left, s)
    | some op => do
      let s ← advance s
      let (right, s) ← operand s
      let e ← node (.binary op left right)
      chainFrom op? operand fuel e s

/-- Operands with operators of one level between them, grouped to the left. -/
def chain (op? : Token → Option BinaryOp) (operand : ParserOf m τ) : ParserOf m τ := fun s => do
  let (left, s) ← operand s
  chainFrom op? operand s.rest.length left s

/-- An operand, and perhaps one operator of the level and a second operand. -/
def single (op? : Token → Option BinaryOp) (operand : ParserOf m τ) : ParserOf m τ := fun s => do
  let (left, s) ← operand s
  match op? s.current with
  | none => return (left, s)
  | some op =>
    let s ← advance s
    let (right, s) ← operand s
    let e ← node (.binary op left right)
    return (e, s)

def orOp? (t : Token) : Option BinaryOp :=
  if t.is .operator "||" then some .or
  else if t.is .identifier "xor" then some .xor
  else none

def andOp? (t : Token) : Option BinaryOp :=
  if t.is .operator "&&" then some .and else none

/-- A comparison may be written by an operator, by the keyword `in` or by one of the words. -/
def comparisonOp? (t : Token) : Option BinaryOp :=
  match t.kind with
  | .operator | .keyword | .identifier => (BinaryOp.ofSymbol? t.text).filter BinaryOp.isComparison
  | _ => none

def sumOp? (t : Token) : Option BinaryOp :=
  if t.is .operator "+" then some .add
  else if t.is .operator "-" then some .sub
  else none

def productOp? (t : Token) : Option BinaryOp :=
  if t.is .operator "*" then some .mul
  else if t.is .operator "/" then some .div
  else if t.is .operator "%" then some .mod
  else if t.is .operator "**" then some .pow
  else none

/-- An expression, given how an operand is read. -/
def expressionOf (operand : ParserOf m τ) : ParserOf m τ :=
  chain orOp? (chain andOp? (single comparisonOp? (chain sumOp? (chain productOp? operand))))

/-! ## Lists -/

/-- Items with commas between them up to the closing token. A comma may stand before it. -/
def itemsUpTo (close : TokenKind) (closeName : String) (item : ParserOf m τ) : Nat → ParserOf m (List τ)
  | 0, s => refuse (s.unexpected closeName)
  | fuel + 1, s =>
    if s.current.kind = close then do
      let s ← advance s
      return ([], s)
    else do
      let (e, s) ← item s
      if s.current.kind = .comma then
        let s ← advance s
        let (es, s) ← itemsUpTo close closeName item fuel s
        return (e :: es, s)
      else if s.current.kind = close then
        let s ← advance s
        return ([e], s)
      else refuse (s.unexpected ("',' or " ++ closeName))

def items (close : TokenKind) (closeName : String) (item : ParserOf m τ) : ParserOf m (List τ) := fun s =>
  itemsUpTo close closeName item (s.rest.length + 1) s

/-! ## Operands -/

/-- The value of a number: an `int64` if it has no fraction and fits, the nearest `float64` otherwise. -/
def numberValue? (text : List Char) : Option Value :=
  let (negative, digits) :=
    match text with
    | '-' :: ds => (true, ds)
    | ds => (false, ds)
  let whole := digits.takeWhile Decimal.isDigit
  if whole.isEmpty then none
  else
    match digits.dropWhile Decimal.isDigit with
    | [] =>
      let n := Decimal.natOf whole
      match Integer.ofInt? .int64 (if negative then -n else n) with
      | some i => some (.int i)
      | none => some (.float64 (Binary.ofDecimal negative n 0))
    | '.' :: fraction =>
      if fraction.isEmpty || !fraction.all Decimal.isDigit then none
      else some (.float64 (Binary.ofDecimal negative (Decimal.natOf (whole ++ fraction)) (-fraction.length)))
    | _ => none

def number : ParserOf m τ := fun s => do
  let t := s.current
  let s ← advance s
  match numberValue? t.text.toList with
  | some v => return (Reading.literal m v, s)
  | none => refuse (.invalidNumber t.text t.position)

/-- A literal that the current token is. -/
def literal (v : Value) : ParserOf m τ := fun s => do
  let s ← advance s
  return (Reading.literal m v, s)

/-- The fields after a name, each after a point. -/
def path : Nat → ParserOf m (List String)
  | 0, s => pure ([], s)
  | fuel + 1, s =>
    if s.current.kind = .dot then do
      let s ← advance s
      let (field, s) ← expect .identifier "field name" s
      let (fields, s) ← path fuel s
      return (field.text :: fields, s)
    else pure ([], s)

/-- A name without the signs in front of it. -/
def bareName (text : String) : String := String.ofList (text.toList.dropWhile (· = '$'))

/-- A variable, or a call if the name has no sign and a parenthesis follows. -/
def named (expression : ParserOf m τ) : ParserOf m τ := fun s => do
  let t := s.current
  let s ← advance s
  let name := bareName t.text
  if name = "" then refuse (.unexpectedToken "variable name" t.text t.position)
  else if name = t.text ∧ s.current.kind = .leftParen then
    let s ← advance s
    let (args, s) ← items .rightParen "')'" expression s
    let e ← node (.call name args)
    return (e, s)
  else
    let (fields, s) ← path s.rest.length s
    return (Reading.reference m name fields, s)

/-- A group, which is the expression in it, or a list: nothing in the parentheses, or a comma after the first
expression. -/
def parenthesized (expression : ParserOf m τ) : ParserOf m τ := fun s => do
  let s ← advance s
  if s.current.kind = .rightParen then
    let s ← advance s
    let e ← node (.list [])
    return (e, s)
  else
    let (first, s) ← expression s
    if s.current.kind = .comma then
      let s ← advance s
      let (others, s) ← items .rightParen "')'" expression s
      let e ← node (.list (first :: others))
      return (e, s)
    else
      let (_, s) ← expect .rightParen "')'" s
      return (first, s)

def bracketed (expression : ParserOf m τ) : ParserOf m τ := fun s => do
  let s ← advance s
  let (es, s) ← items .rightBracket "']'" expression s
  let e ← node (.list es)
  return (e, s)

/-- An operand without a negation, given how the expressions in it are read. -/
def primary (expression : ParserOf m τ) : ParserOf m τ := fun s =>
  match s.current.kind with
  | .leftParen => parenthesized expression s
  | .leftBracket => bracketed expression s
  | .string => literal (.string s.current.text) s
  | .number => number s
  | .identifier => named expression s
  | .keyword =>
    if s.current.text = "true" then literal (.bool true) s
    else if s.current.text = "false" then literal (.bool false) s
    else refuse (s.unexpected "expression")
  | _ => refuse (s.unexpected "expression")

/-- An operand, given how the operands in it are read. -/
def operandWith (inner : ParserOf m τ) : ParserOf m τ := fun s =>
  if s.current.is .operator notSymbol then do
    let s ← advance s
    let (e, s) ← inner s
    let e ← node (.not e)
    return (e, s)
  else primary (expressionOf inner) s

/-- An operand in which operands lie in each other to no more than that depth. -/
def operand : Nat → ParserOf m τ
  | 0, _ => refuse (.tooDeep maxDepth)
  | depth + 1, s => inside (operandWith (operand depth) s)

/-- An expression that takes all tokens. -/
def wholeOf (expression : ParserOf m τ) (s : Stream) : m τ := do
  if s.current.kind = .error then refuse (.lexical s.current.text s.current.position)
  else
    let (e, s) ← expression s
    if s.current.kind = .endOfInput then return e
    else refuse (.trailingInput s.current.display s.current.position)

/-! ## The parser that runs -/

/-- What the parser does with the number of operands that it is inside of. -/
abbrev Run := StateT Nat (Except ParseError)

/-- Counts an operand while it is read, and refuses it at once if there are too many around it. -/
def counted {α : Type} (x : Run α) : Run α := do
  modify (· + 1)
  if maxDepth < (← get) then throw (.tooDeep maxDepth)
  let a ← x
  modify (· - 1)
  return a

instance : Reading Run Parsed where
  advance s := s.advance
  refuse e := throw e
  inside := counted
  literal v := .leaf (.literal v) rfl
  reference name path := .leaf (.variable name path) rfl
  node b := Parsed.node b

/-- An expression of the whole grammar. The counter refuses operands before the depth of the recursion is used up, and
more of it makes no difference. -/
def expressionRun : ParserOf Run Parsed := expressionOf (operand (maxDepth + 1))

end Parser

/-- Reads a text as an expression. -/
def Expr.parse (text : String) : Except ParseError Expr :=
  ((Parser.wholeOf Parser.expressionRun (Stream.ofText text)).run' 0).map Parsed.expr

end Verdict
