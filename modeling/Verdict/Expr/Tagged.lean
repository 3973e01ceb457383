import Verdict.Expr.Basic
import Verdict.Value.Tagged
import Verdict.Json.Reader

/-!
# Expressions in JSON

The stored form of an expression: an object with the kind of its node and the parts of it. Reading takes the
members in any order and passes over others; a path and arguments that are not given are empty. A list of the kind
and the parts in their order, `["variable","x"]`, is read as well. A tree is kept as a whole before its nodes are read:
of the text itself is only the kind of its root.
-/

namespace Verdict.Expr

def kindKey : String := "kind"

/-- An object of a node's kind and its parts. -/
def node (kind : String) (parts : List (String × Json)) : Json :=
  .object ((kindKey, .string kind) :: parts)

def strings (names : List String) : Json := .array (names.map Json.string)

mutual

/-- The stored form of an expression. -/
def toTagged : Expr → Json
  | .literal v => node "literal" [("value", v.toTagged)]
  | .variable name [] => node "variable" [("name", .string name)]
  | .variable name path => node "variable" [("name", .string name), ("path", strings path)]
  | .not operand => node "unary" [("operator", .string notSymbol), ("operand", toTagged operand)]
  | .binary op left right =>
    node "binary" [("operator", .string op.symbol), ("left", toTagged left), ("right", toTagged right)]
  | .list items => node "list" [("items", .array (allToTagged items))]
  | .call function args =>
    node "call" [("function", .string function), ("args", .array (allToTagged args))]
termination_by structural e => e

def allToTagged : List Expr → List Json
  | [] => []
  | e :: es => toTagged e :: allToTagged es
termination_by structural es => es

end

/-! ## Reading -/

def string? : Json → Option String
  | .string s => some s
  | _ => none

def strings? : Json → Option (List String)
  | .array items => items.mapM string?
  | _ => none

/-- A part that has to be there. -/
def part? {α : Type} (key : String) (members : List (String × Json)) (read : Json → Option α) : Option α :=
  match Json.member key members with
  | .present j => read j
  | _ => none

/-- A list that is empty where it is not there. -/
def listPart? {α : Type} (key : String) (members : List (String × Json)) (read : Json → Option (List α)) :
    Option (List α) :=
  match Json.member key members with
  | .missing => some []
  | .present j => read j
  | .repeated => none

/-- A list of expressions, given how one is read. -/
def all? (read : Json → Option Expr) : Json → Option (List Expr)
  | .array items => items.mapM read
  | _ => none

/-- The kinds of nodes. -/
def kinds : List String := ["literal", "variable", "unary", "binary", "list", "call"]

/-- The parts of a node, in the order in which a list holds them. -/
def keysOf : String → List String
  | "literal" => ["value"]
  | "variable" => ["name", "path"]
  | "unary" => ["operator", "operand"]
  | "binary" => ["operator", "left", "right"]
  | "list" => ["items"]
  | "call" => ["function", "args"]
  | _ => []

/-- The kind of a node and its parts by their names. -/
def parts? (medium : Value.Medium) : Json → Option (String × List (String × Json))
  | .object members => (part? kindKey members (Value.label? medium kinds)).map (·, members)
  | .array (tag :: parts) => do
    let kind ← Value.label? medium kinds tag
    if parts.length ≤ (keysOf kind).length then some (kind, (keysOf kind).zip parts) else none
  | _ => none

/-- A node from its kind and its parts, given how the expressions in it are read. -/
def nodeOf? (depth : Nat) (read : Json → Option Expr) (kind : String) (members : List (String × Json)) :
    Option Expr := do
  let choice? := Value.choice? .kept depth
  match kind with
  | "literal" => return .literal (← part? "value" members (Value.ofStored? depth .kept))
  | "variable" =>
    let name ← part? "name" members string?
    return .variable name (← listPart? "path" members strings?)
  | "unary" =>
    let operator ← part? "operator" members choice?
    let operand ← part? "operand" members read
    if operator = notSymbol then return .not operand else none
  | "binary" =>
    let op ← (← part? "operator" members choice?) |> BinaryOp.named?
    let left ← part? "left" members read
    let right ← part? "right" members read
    return .binary op left right
  | "list" => return .list (← part? "items" members (all? read))
  | "call" =>
    let function ← part? "function" members string?
    return .call function (← listPart? "args" members (all? read))
  | _ => none

/-- The expression of a tree that has been found readable to that depth. -/
def ofReadable? : Nat → Value.Medium → Json → Option Expr
  | depth + 1, medium, j => (parts? medium j).bind fun (kind, members) =>
    nodeOf? depth (ofReadable? depth .kept) kind members
  | 0, _, _ => none

/-- The expression of a stored form in a text that may nest `depth` levels. All of it has to be readable, also what
is passed over. -/
def ofTagged? (depth : Nat) (j : Json) : Option Expr :=
  if j.isReadable depth then ofReadable? depth .text j else none

/-- The expression of a text in its stored form. -/
def ofJsonText? (text : String) : Option Expr := (Json.parse? text).bind (ofTagged? Json.maxNesting)

end Verdict.Expr
