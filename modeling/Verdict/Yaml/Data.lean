import Verdict.Yaml.Document
import Verdict.Plain
import Verdict.Number.Reading

/-!
# Data in YAML

What a node holds. A plain scalar is what it looks like: nothing, a truth value, a number, or else a text. Aliases
are followed; so that this comes to an end in reasonable time, collections nest no deeper than 128 and only so many
aliases are followed.
-/

namespace Verdict.Yaml

/-! ## Plain scalars -/

def isNull (cs : List Char) : Bool := ["~", "null", "Null", "NULL"].contains (String.ofList cs)

def truth? (cs : List Char) : Option Bool :=
  match String.ofList cs with
  | "true" | "True" | "TRUE" => some true
  | "false" | "False" | "FALSE" => some false
  | _ => none

/-- Digits that begin with a zero but are more than it, as in `007`, are no number. -/
def isPadded (cs : List Char) : Bool :=
  let digits := match cs with
    | '-' :: rest | '+' :: rest => rest
    | _ => cs
  digits.length > 1 && digits.head? == some '0' && digits.all Decimal.isDigit

/-- The value of a row of digits of a base. -/
def natOf? (base : Nat) (cs : List Char) : Option Nat :=
  if cs.isEmpty then none
  else cs.foldlM (fun n c => (Text.CodeSet.hexDigit? c).bind fun d => if d < base then some (n * base + d) else none) 0

/-- The value of a number without its sign, which may be written in base 2, 8 or 16. -/
def magnitude? (cs : List Char) : Option Nat :=
  match cs with
  | '0' :: 'x' :: digits => natOf? 16 digits
  | '0' :: 'o' :: digits => natOf? 8 digits
  | '0' :: 'b' :: digits => natOf? 2 digits
  | _ => if isPadded cs then none else natOf? 10 cs

def integer? : List Char → Option Int
  | '-' :: cs => (magnitude? cs).map fun n => -(n : Int)
  | '+' :: cs => (magnitude? cs).map Int.ofNat
  | cs => (magnitude? cs).map Int.ofNat

/-- A floating-point number; only the words with a point in front are infinite or no number. -/
def float? (cs : List Char) : Option Float :=
  match String.ofList cs with
  | ".inf" | ".Inf" | ".INF" | "+.inf" | "+.Inf" | "+.INF" => some (Binary.infinity false)
  | "-.inf" | "-.Inf" | "-.INF" => some (Binary.infinity true)
  | ".nan" | ".NaN" | ".NAN" => some Binary.nan
  | _ =>
    let signed := match cs with
      | '+' :: '-' :: _ => none
      | '+' :: '+' :: _ => none
      | _ => Decimal.Written.ofText? cs
    (signed.map Decimal.Written.toFloat).filter Float.isFinite

/-- Plain data of a number; what is not finite is null. -/
def ofFloat (x : Float) : Plain := if x.isFinite then .float x else .null

/-- Plain data of an integer. One that needs more than 64 bits is refused; past 128 bits it is none. -/
def ofInteger? (n : Int) : Option (Option Plain) :=
  match Json.WideInt.ofInt? n with
  | some n => some (some (.int n))
  | none => if -(Nat.pow 2 127 : Int) ≤ n ∧ n < Nat.pow 2 128 then none else some none

def text (cs : List Char) : Plain := .string (String.ofList cs)

/-- What a plain scalar looks like. -/
def guess? (cs : List Char) : Option Plain := do
  if cs.isEmpty || isNull cs then return .null
  else if let some b := truth? cs then return .bool b
  else
    match ← ((integer? cs).bindM ofInteger?) with
    | some p => return p
    | none =>
      if isPadded cs then return text cs
      else return ((float? cs).map ofFloat).getD (text cs)

/-! ## Tags -/

/-- The tags that say what a scalar is. -/
inductive ScalarTag where
  | null
  | bool
  | int
  | float

def scalarTag? (tag : List Char) : Option ScalarTag :=
  match String.ofList tag with
  | "tag:yaml.org,2002:null" => some .null
  | "tag:yaml.org,2002:bool" => some .bool
  | "tag:yaml.org,2002:int" => some .int
  | "tag:yaml.org,2002:float" => some .float
  | _ => none

/-- Whether a tag is one that a document makes up for itself. Data with such a tag is refused. -/
def isLocal (tag : Option (List Char)) : Bool := tag.any (·.head? == some '!')

/-- What a scalar holds. One with a tag has to be what the tag says; all but a few tags say that it is a text. -/
def scalar? (tag : Option (List Char)) (cs : List Char) (isPlain : Bool) : Option Plain :=
  if isLocal tag then none
  else
    match tag, tag.bind scalarTag? with
    | none, _ => if isPlain then guess? cs else some (text cs)
    | some _, none => some (text cs)
    | some _, some .null => if isNull cs then some .null else none
    | some _, some .bool => (truth? cs).map .bool
    | some _, some .int => ((integer? cs).bind ofInteger?).bind id
    | some _, some .float => (float? cs).map ofFloat

/-! ## Aliases -/

/-- Reading that may follow so many more aliases. -/
abbrev Following := StateT Nat Option

/-- The node itself, or the one that an alias refers to. -/
def follow (nodes : List (Nat × Node)) : Node → Following Node
  | .alias n => do
    match ← get, nodes.lookup n with
    | left + 1, some node =>
      set left
      return node
    | _, _ => failure
  | node => return node

/-- The text of a scalar, whatever it looks like. -/
def text? (nodes : List (Nat × Node)) (node : Node) : Following String := do
  match ← follow nodes node with
  | .scalar _ cs _ => return String.ofList cs
  | _ => failure

/-- The nodes of a sequence, which an empty scalar is too. -/
def items? (nodes : List (Nat × Node)) (node : Node) : Following (List Node) := do
  match ← follow nodes node with
  | .sequence _ items => return items
  | .scalar _ [] true => return []
  | _ => failure

/-- The fields of a mapping, which an empty scalar is too. -/
def fields? (nodes : List (Nat × Node)) (node : Node) : Following (List (String × Node)) := do
  match ← follow nodes node with
  | .mapping _ entries => entries.mapM fun (key, value) => return (← text? nodes key, value)
  | .scalar _ [] true => return []
  | _ => failure

/-- Plain data of a node of which at most `depth` collections nest. Of two entries with one key the later counts. -/
def data? (nodes : List (Nat × Node)) : Nat → Node → Following Plain
  | depth, node => do
    match ← follow nodes node with
    | .scalar tag cs isPlain => StateT.lift (scalar? tag cs isPlain)
    | .sequence tag items =>
      match depth with
      | 0 => failure
      | depth + 1 =>
        if isLocal tag then failure
        return .array (← items.mapM (data? nodes depth))
    | .mapping tag entries =>
      match depth with
      | 0 => failure
      | depth + 1 =>
        if isLocal tag then failure
        let members ← entries.mapM fun (key, value) => return (← text? nodes key, ← data? nodes depth value)
        return .object (Fields.ofList members)
    | .alias _ => failure

/-- How deep collections may nest. -/
def maxDepth : Nat := 128

namespace Document

/-- Reads the node of a document, or takes what stands for an empty one. A hundred aliases may be followed for each
scalar, alias and end of a collection. -/
def read {α : Type} (d : Document) (empty : α) (reader : List (Nat × Node) → Node → Following α) : Option α :=
  match d.root with
  | none => some empty
  | some root => ((reader d.nodes root).run (100 * d.size)).map (·.1)

/-- The plain data of a document; an empty one is null. -/
def toPlain? (d : Document) : Option Plain := d.read .null fun nodes => data? nodes maxDepth

end Document

/-- The plain data of a YAML text. -/
def parse? (source : String) : Option Plain := do (← Document.ofText? source.toList).toPlain?

end Verdict.Yaml
