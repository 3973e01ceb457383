import Verdict.Pattern.Escape

/-!
# Classes in brackets

A class is read from its opening bracket to its closing one. Brackets inside it open classes of their own, which
wait in a row until theirs is closed.
-/

namespace Verdict.Pattern

/-- The classes of ASCII characters that go by a name between colons. -/
def asciiRuns? (name : List Char) : Option (List (Char × Char)) :=
  match String.ofList name with
  | "alnum" => some [('0', '9'), ('A', 'Z'), ('a', 'z')]
  | "alpha" => some [('A', 'Z'), ('a', 'z')]
  | "ascii" => some [('\x00', '\x7f')]
  | "blank" => some [('\t', '\t'), (' ', ' ')]
  | "cntrl" => some [('\x00', '\x1f'), ('\x7f', '\x7f')]
  | "digit" => some [('0', '9')]
  | "graph" => some [('!', '~')]
  | "lower" => some [('a', 'z')]
  | "print" => some [(' ', '~')]
  | "punct" => some [('!', '/'), (':', '@'), ('[', '\x60'), ('\x7b', '~')]
  | "space" => some [('\t', '\r'), (' ', ' ')]
  | "upper" => some [('A', 'Z')]
  | "word" => some [('0', '9'), ('A', 'Z'), ('_', '_'), ('a', 'z')]
  | "xdigit" => some [('0', '9'), ('A', 'F'), ('a', 'f')]
  | _ => none

/-- Reads `:name:]` or `:^name:]`. All else is no such class. -/
def asciiClass? : List Char → Option (ClassTerm × List Char)
  | ':' :: cs =>
    let (negated, cs) := match cs with
      | '^' :: rest => (true, rest)
      | _ => (false, cs)
    match cs.dropWhile (· != ':') with
    | ':' :: ']' :: rest => (asciiRuns? (cs.takeWhile (· != ':'))).map fun runs => (.ascii runs negated, rest)
    | _ => none
  | _ => none

/-- A class of which the closing bracket has not been read: whether it is negated, the operation that waits for
its right side, the items read since, and whether nothing but dashes has been read yet. -/
structure OpenClass where
  negated : Bool
  left : Option (SetOperator × ClassTerm)
  items : ClassTerm
  fresh : Bool

namespace OpenClass

/-- A class whose opening bracket has been read, and what is left. -/
def start (verbose : Bool) (cs : List Char) : OpenClass × List Char :=
  match settle verbose cs with
  | '^' :: rest => (⟨true, none, .empty, true⟩, rest)
  | rest => (⟨false, none, .empty, true⟩, rest)

def hasItems (c : OpenClass) : Bool :=
  match c.items with
  | .empty => false
  | _ => true

def join (c : OpenClass) (item : ClassTerm) : OpenClass :=
  { c with items := if c.hasItems then .union c.items item else item }

def add (c : OpenClass) (item : ClassTerm) : OpenClass :=
  { c.join item with fresh := false }

/-- What the class holds. Operations take their left side from all that stands before them. -/
def body (c : OpenClass) : ClassTerm :=
  match c.left with
  | none => c.items
  | some (operator, left) => .operation operator left c.items

def operate (c : OpenClass) (operator : SetOperator) : OpenClass :=
  ⟨c.negated, some (operator, c.body), .empty, false⟩

end OpenClass

/-- One end of a range, or an item on its own. -/
def classAtom? (verbose : Bool) : List Char → Option (Atom × List Char)
  | [] => none
  | '\\' :: cs => escape? verbose cs
  | c :: cs => some (.letter ⟨c, false⟩, cs)

def ClassTerm.ofAtom? : Atom → Option ClassTerm
  | .letter c => some (.letter c)
  | .shorthand kind negated => some (.shorthand kind negated)
  | .property query negated => some (.property query negated)
  | .dot | .anchor _ => none

/-- Whether what follows a dash makes it no range: the end of the class or another dash. In a verbose pattern white
space is looked across, and the sign of a comment but not the comment. -/
def leavesDash (verbose : Bool) (cs : List Char) : Bool :=
  let cs :=
    if verbose then
      match cs.dropWhile Text.isBlank with
      | '#' :: rest => rest.dropWhile Text.isBlank
      | rest => rest
    else cs
  cs.head? == some ']' || cs.head? == some '-'

/-- Reads an item or a range. -/
def classItem? (verbose : Bool) (cs : List Char) : Option (ClassTerm × List Char) := do
  let (first, rest) ← classAtom? verbose cs
  match settle verbose rest with
  | '-' :: after =>
    if leavesDash verbose after then
      some (← ClassTerm.ofAtom? first, '-' :: after)
    else
      let (last, rest) ← classAtom? verbose (settle verbose after)
      match first, last with
      | .letter a, .letter b => if a.char ≤ b.char then some (.range a b, rest) else none
      | _, _ => none
  | rest => some (← ClassTerm.ofAtom? first, rest)

/-- Reads what is left of a class, given the classes that it stands in. -/
def readClass (verbose : Bool) :
    Nat → OpenClass → List OpenClass → List Char → Option (Bool × ClassTerm × List Char)
  | 0, _, _, _ => none
  | fuel + 1, top, outer, cs =>
    let cs := settle verbose cs
    if top.fresh && (cs.head? == some '-' || (cs.head? == some ']' && !top.hasItems)) then
      match cs with
      | '-' :: rest => readClass verbose fuel (top.join (.letter ⟨'-', false⟩)) outer rest
      | c :: rest => readClass verbose fuel (top.add (.letter ⟨c, false⟩)) outer rest
      | [] => none
    else
      match cs with
      | [] => none
      | '[' :: rest =>
        match asciiClass? rest with
        | some (item, rest) => readClass verbose fuel (top.add item) outer rest
        | none =>
          let (inner, rest) := OpenClass.start verbose rest
          readClass verbose fuel inner (top :: outer) rest
      | ']' :: rest =>
        match outer with
        | [] => some (top.negated, top.body, rest)
        | parent :: outer => readClass verbose fuel (parent.add (.bracket top.negated top.body)) outer rest
      | '&' :: '&' :: rest => readClass verbose fuel (top.operate .inter) outer rest
      | '-' :: '-' :: rest => readClass verbose fuel (top.operate .diff) outer rest
      | '~' :: '~' :: rest => readClass verbose fuel (top.operate .symmDiff) outer rest
      | cs => do
        let (item, rest) ← classItem? verbose cs
        readClass verbose fuel (top.add item) outer rest

/-- Reads a class whose opening bracket has been read. Every step takes a character. -/
def bracket? (verbose : Bool) (cs : List Char) : Option (Term × List Char) := do
  let (top, rest) := OpenClass.start verbose cs
  let (negated, body, rest) ← readClass verbose (cs.length + 1) top [] rest
  some (.bracket negated body, rest)

end Verdict.Pattern
