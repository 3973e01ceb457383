import Verdict.Yaml.Layout

/-!
# Nodes of YAML

A document is one node. Tokens are put together into nodes by descending: each kind of collection says which tokens
may stand between its members, and a member that is left out is an empty scalar. An alias refers to the node of an
anchor by a number; nothing is copied.
-/

namespace Verdict.Yaml

/-- A node, with its tag written in full. -/
inductive Node where
  | scalar (tag : Option (List Char)) (text : List Char) (isPlain : Bool)
  | sequence (tag : Option (List Char)) (items : List Node)
  | mapping (tag : Option (List Char)) (entries : List (Node × Node))
  | alias (number : Nat)
deriving Inhabited

namespace Node

def empty : Node := .scalar none [] true

end Node

/-- What is kept while tokens are put together: the tokens that are left, what each tag handle stands for, the
number of each anchor, the nodes of the numbers, and how many scalars, aliases and ends of collections there are. -/
structure Assembly where
  tokens : List Token
  handles : List (List Char × List Char)
  anchors : List (List Char × Nat)
  nodes : List (Nat × Node)
  size : Nat

/-- A step that takes tokens and may refuse them. -/
abbrev Assembler := StateT Assembly Option

namespace Assembler

def peek : Assembler (Option Token) := do return (← get).tokens.head?

def drop : Assembler Unit := modify fun s => { s with tokens := s.tokens.drop 1 }

def count (n : Nat) : Assembler Unit := modify fun s => { s with size := s.size + n }

/-- Whether the next token is one of the given; the end of the text is not. -/
def nextIs (tokens : List Token) : Assembler Bool := do return (← peek).any tokens.contains

/-- Takes a token that has to be there. -/
def expect (token : Token) : Assembler Unit := do
  if ← nextIs [token] then drop else failure

/-- An empty scalar. -/
def nothing : Assembler Node := do
  count 1
  return .empty

/-- Numbers an anchor by how many names there are. A name that comes again has a new number. -/
def number (name : List Char) : Assembler Nat := do
  let s ← get
  let n := s.anchors.length
  set { s with anchors := (name, n) :: s.anchors.filter (·.1 != name) }
  return n

def numberOf (name : List Char) : Assembler Nat := do
  match (← get).anchors.lookup name with
  | some n => return n
  | none => failure

/-- Gives a number its node. -/
def name (number : Option Nat) (node : Node) : Assembler Node := do
  match number with
  | some n => modify fun s => { s with nodes := (n, node) :: s.nodes }
  | none => pure ()
  return node

/-- A tag in full. -/
def resolve (handle suffix : List Char) : Assembler (List Char) := do
  if handle.isEmpty then return suffix
  else
    match (← get).handles.lookup handle with
    | some start => return start ++ suffix
    | none => failure

def anchor? : Assembler (Option (List Char)) := do
  match ← peek with
  | some (.anchor name) =>
    drop
    return some name
  | _ => return none

def tag? : Assembler (Option (List Char)) := do
  match ← peek with
  | some (.tag handle suffix) =>
    drop
    return some (← resolve handle suffix)
  | _ => return none

/-- The anchor and the tag in front of a node, in either order. -/
def properties : Assembler (Option (List Char) × Option (List Char)) := do
  let anchor ← anchor?
  let tag ← tag?
  match anchor with
  | some name => return (some name, tag)
  | none => return (← anchor?, tag)

/-- No node, which is an empty scalar if an anchor or a tag stands there. -/
def absent (number : Option Nat) (anchor tag : Option (List Char)) : Assembler Node := do
  if anchor.isNone && tag.isNone then failure
  count 1
  name number (.scalar tag [] true)

mutual

/-- A node. One in a flow collection is no block; one in a block mapping may be a sequence whose entries are not
indented further. -/
def node (inBlock inMapping : Bool) : Nat → Assembler Node
  | 0 => failure
  | fuel + 1 => do
    match ← peek with
    | some (.alias name) =>
      drop
      count 1
      return .alias (← numberOf name)
    | _ =>
      let (anchor, tag) ← properties
      let number ← anchor.mapM number
      match ← peek with
      | some (.scalar text isPlain) =>
        drop
        count 1
        -- The tag of one mark takes a scalar for what it looks like, even between quotes.
        if tag = some ['!'] then name number (.scalar none text isPlain)
        else name number (.scalar tag text isPlain)
      | some .flowSequence =>
        drop
        count 2
        name number (.sequence tag (← flowItems true fuel))
      | some .flowMapping =>
        drop
        count 2
        name number (.mapping tag (← flowEntries true fuel))
      | some .blockSequence =>
        if !inBlock then failure
        drop
        count 2
        name number (.sequence tag (← blockItems fuel))
      | some .blockMapping =>
        if !inBlock then failure
        drop
        count 2
        name number (.mapping tag (← blockEntries fuel))
      | some .blockEntry =>
        if inMapping then
          count 2
          name number (.sequence tag (← looseItems fuel))
        else absent number anchor tag
      | _ => absent number anchor tag

/-- The items of a block sequence. -/
def blockItems : Nat → Assembler (List Node)
  | 0 => failure
  | fuel + 1 => do
    match ← peek with
    | some .blockEntry =>
      drop
      let item ← if ← nextIs [.blockEntry, .blockEnd] then nothing else node true false fuel
      return item :: (← blockItems fuel)
    | some .blockEnd =>
      drop
      return []
    | _ => failure

/-- The items of a sequence in a mapping whose entries are not indented further. -/
def looseItems : Nat → Assembler (List Node)
  | 0 => failure
  | fuel + 1 => do
    match ← peek with
    | some .blockEntry =>
      drop
      let item ← if ← nextIs [.blockEntry, .key, .value, .blockEnd] then nothing else node true false fuel
      return item :: (← looseItems fuel)
    | _ => return []

/-- The entries of a block mapping. Every key has its sign. -/
def blockEntries : Nat → Assembler (List (Node × Node))
  | 0 => failure
  | fuel + 1 => do
    match ← peek with
    | some .key =>
      drop
      let key ← if ← nextIs [.key, .value, .blockEnd] then nothing else node true true fuel
      let value ←
        if ← nextIs [.value] then do
          drop
          if ← nextIs [.key, .value, .blockEnd] then nothing else node true true fuel
        else nothing
      return (key, value) :: (← blockEntries fuel)
    | some .blockEnd =>
      drop
      return []
    | _ => failure

/-- The items of a flow sequence. An item with a key is a mapping of one entry. -/
def flowItems (isFirst : Bool) : Nat → Assembler (List Node)
  | 0 => failure
  | fuel + 1 => do
    if ← nextIs [.flowSequenceEnd] then
      drop
      return []
    else
      if !isFirst then expect .flowEntry
      match ← peek with
      | some .flowSequenceEnd =>
        drop
        return []
      | some .key =>
        drop
        count 2
        let key ←
          if ← nextIs [.value, .flowEntry, .flowSequenceEnd] then do
            drop
            nothing
          else node false false fuel
        let value ←
          if ← nextIs [.value] then do
            drop
            if ← nextIs [.flowEntry, .flowSequenceEnd] then nothing else node false false fuel
          else nothing
        return .mapping none [(key, value)] :: (← flowItems false fuel)
      | _ =>
        let item ← node false false fuel
        return item :: (← flowItems false fuel)

/-- The entries of a flow mapping. A node without a sign in front of it is a key that has no value. -/
def flowEntries (isFirst : Bool) : Nat → Assembler (List (Node × Node))
  | 0 => failure
  | fuel + 1 => do
    if ← nextIs [.flowMappingEnd] then
      drop
      return []
    else
      if !isFirst then expect .flowEntry
      match ← peek with
      | some .flowMappingEnd =>
        drop
        return []
      | some .key =>
        drop
        let key ← if ← nextIs [.value, .flowEntry, .flowMappingEnd] then nothing else node false false fuel
        let value ←
          if ← nextIs [.value] then do
            drop
            if ← nextIs [.flowEntry, .flowMappingEnd] then nothing else node false false fuel
          else nothing
        return (key, value) :: (← flowEntries false fuel)
      | _ =>
        let key ← node false false fuel
        let value ← nothing
        return (key, value) :: (← flowEntries false fuel)

end

end Assembler

end Verdict.Yaml
