/-!
# Terms of a pattern

A pattern as it is written, before its flags are applied. Items side by side and branches are kept in pairs; the
depth of a term counts a row of them once, however long it is.
-/

namespace Verdict.Pattern

/-- The letters that change how the rest of a group is read. -/
inductive Flag where
  | ignoreCase
  | multiLine
  | dotAll
  | swapGreed
  | unicode
  | returns
  | verbose
deriving DecidableEq

/-- A flag that is set or taken back. -/
structure FlagChange where
  flag : Flag
  on : Bool

/-- A character as it is written. The form of two hexadecimal digits is a byte where Unicode is off. -/
structure Letter where
  char : Char
  isByte : Bool

/-- The classes of one letter after a backslash. -/
inductive Shorthand where
  | digit
  | space
  | word
deriving DecidableEq

/-- What is asked of a position, as it is written: `^` and `$` and the looks after a backslash. -/
inductive Anchor where
  | lineStart
  | lineEnd
  | textStart
  | textEnd
  | boundary
  | inside
  | wordStart
  | wordFinish
  | wordStartHalf
  | wordFinishHalf
deriving DecidableEq

/-- A Unicode class by name: alone, or as a value of a named property. -/
inductive Query where
  | named (name : List Char)
  | valued (property value : List Char)

/-- What one character or one escape can be. -/
inductive Atom where
  | letter (letter : Letter)
  | dot
  | anchor (anchor : Anchor)
  | shorthand (kind : Shorthand) (negated : Bool)
  | property (query : Query) (negated : Bool)

/-- Operations of a class on what stands on its two sides. -/
inductive SetOperator where
  | inter
  | diff
  | symmDiff
deriving DecidableEq

/-- What stands between brackets. -/
inductive ClassTerm where
  | empty
  | letter (letter : Letter)
  | range (first last : Letter)
  | ascii (runs : List (Char × Char)) (negated : Bool)
  | shorthand (kind : Shorthand) (negated : Bool)
  | property (query : Query) (negated : Bool)
  | bracket (negated : Bool) (body : ClassTerm)
  | union (items : ClassTerm) (item : ClassTerm)
  | operation (operator : SetOperator) (left right : ClassTerm)

/-- What a pair of parentheses is for. -/
inductive GroupKind where
  | capture (name : Option (List Char))
  | scope (changes : List FlagChange)

/-- A pattern as it is written. -/
inductive Term where
  | empty
  | flags (changes : List FlagChange)
  | atom (atom : Atom)
  | bracket (negated : Bool) (body : ClassTerm)
  | times (body : Term) (least : Nat) (most : Option Nat)
  | group (kind : GroupKind) (body : Term)
  | cat (first second : Term)
  | alt (left right : Term)

/-! ## Depth -/

/-- The depth of a class, where the items of one union lie side by side. -/
def ClassTerm.depth (inUnion : Bool) : ClassTerm → Nat
  | union items item => (if inUnion then 0 else 1) + max (items.depth true) (item.depth false)
  | bracket _ body => 1 + body.depth false
  | operation _ left right => 1 + max (left.depth false) (right.depth false)
  | _ => 0

/-- A row that a term may be an item of. -/
inductive Row where
  | none
  | items
  | branches
deriving DecidableEq

/-- How deep groups, repetitions, classes and rows lie in each other. -/
def Term.depth (row : Row) : Term → Nat
  | empty => 0
  | flags _ => 0
  | atom _ => 0
  | bracket _ body => 1 + body.depth false
  | times body _ _ => 1 + body.depth .none
  | group _ body => 1 + body.depth .none
  | cat first second => (if row = .items then 0 else 1) + max (first.depth .none) (second.depth .items)
  | alt left right => (if row = .branches then 0 else 1) + max (left.depth .none) (right.depth .branches)

/-- The most that a pattern may have of depth. -/
def maxDepth : Nat := 250

/-- The names of the groups, from left to right. -/
def Term.names : Term → List (List Char)
  | times body _ _ => body.names
  | group (.capture (some name)) body => name :: body.names
  | group _ body => body.names
  | cat first second => first.names ++ second.names
  | alt left right => left.names ++ right.names
  | _ => []

/-- Items side by side as one term. -/
def Term.ofItems : List Term → Term
  | [] => .empty
  | [item] => item
  | item :: items => .cat item (ofItems items)

/-- Branches as one term. -/
def Term.ofBranches : List Term → Term
  | [] => .empty
  | [branch] => branch
  | branch :: branches => .alt branch (ofBranches branches)

end Verdict.Pattern
