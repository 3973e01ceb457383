import Verdict.Pattern.Bracket
import Verdict.Text.Property

/-!
# Reading a pattern

A pattern is branches of items, in groups. Groups that are not closed yet wait in a row, each with what has been
read of it. A pattern is refused when a part of it makes no sense, when it lies too deep, and when two of its groups
have one name.
-/

namespace Verdict.Pattern

def Flag.ofLetter? : Char → Option Flag
  | 'i' => some .ignoreCase
  | 'm' => some .multiLine
  | 's' => some .dotAll
  | 'U' => some .swapGreed
  | 'u' => some .unicode
  | 'R' => some .returns
  | 'x' => some .verbose
  | _ => none

/-- Reads flags up to a colon or a closing parenthesis. A minus takes back those that follow it; there is one at
most and flags do follow it, and no flag comes twice. -/
def readFlags (on : Bool) (done : List FlagChange) : List Char → Option (List FlagChange × List Char)
  | [] => none
  | '-' :: cs =>
    if !on || cs.head? == some ':' || cs.head? == some ')' then none else readFlags false done cs
  | c :: cs =>
    if c = ':' || c = ')' then some (done.reverse, c :: cs)
    else
      match Flag.ofLetter? c with
      | none => none
      | some flag => if done.any (·.flag = flag) then none else readFlags on (⟨flag, on⟩ :: done) cs

/-- Whether white space is left out once the changes are made. -/
def verboseAfter (changes : List FlagChange) (verbose : Bool) : Bool :=
  match changes.find? (·.flag = .verbose) with
  | some change => change.on
  | none => verbose

def startsName (c : Char) : Bool := c = '_' || Text.Property.alphabetic.contains c

def continuesName (c : Char) : Bool :=
  c = '_' || c = '.' || c = '[' || c = ']' || Text.Property.alphabetic.contains c ||
    Text.Category.number.contains c

/-- Reads the name of a group up to its closing angle. -/
def groupName? (cs : List Char) : Option (List Char × List Char) :=
  match cs.takeWhile (· != '>'), cs.dropWhile (· != '>') with
  | first :: more, _ :: rest =>
    if startsName first && more.all continuesName then some (first :: more, rest) else none
  | _, _ => none

/-- What an opening parenthesis begins. -/
inductive Opening where
  | group (kind : GroupKind)
  | flags (changes : List FlagChange)

/-- Reads what follows an opening parenthesis up to the first item of the group. -/
def opening? (verbose : Bool) (cs : List Char) : Option (Opening × List Char) :=
  match settle verbose cs with
  | '?' :: 'P' :: '<' :: rest => (groupName? rest).map fun (name, rest) => (.group (.capture (some name)), rest)
  | '?' :: '<' :: rest => (groupName? rest).map fun (name, rest) => (.group (.capture (some name)), rest)
  | '?' :: rest =>
    match readFlags true [] rest with
    | some (changes, ':' :: rest) => some (.group (.scope changes), rest)
    | some (change :: changes, ')' :: rest) => some (.flags (change :: changes), rest)
    | _ => none
  | rest => some (.group (.capture none), rest)

/-- What has been read of a group: the branches before and the items of the last one, each last first. -/
structure Level where
  branches : List Term
  items : List Term
  verbose : Bool

namespace Level

def start (verbose : Bool) : Level := ⟨[], [], verbose⟩

def push (level : Level) (item : Term) : Level := { level with items := item :: level.items }

/-- Ends a branch. -/
def branch (level : Level) : Level :=
  ⟨Term.ofItems level.items.reverse :: level.branches, [], level.verbose⟩

def term (level : Level) : Term := Term.ofBranches level.branch.branches.reverse

/-- Repeats the last item, if there is one and it is more than flags. -/
def times? (level : Level) (least : Nat) (most : Option Nat) : Option Level :=
  match level.items with
  | [] => none
  | .flags _ :: _ => none
  | item :: items => some { level with items := .times item least most :: items }

end Level

/-- Drops the mark of a repetition that takes as little as it can. -/
def dropLazy : List Char → List Char
  | '?' :: rest => rest
  | cs => cs

/-- Reads what is left of a pattern, given the level it is at and the groups that it stands in. -/
def readTerm : Nat → Level → List (GroupKind × Level) → List Char → Option Term
  | 0, _, _, _ => none
  | fuel + 1, level, outer, cs =>
    match settle level.verbose cs with
    | [] => if outer.isEmpty then some level.term else none
    | '(' :: rest => do
      match ← opening? level.verbose rest with
      | (.flags changes, rest) =>
        let level := level.push (.flags changes)
        readTerm fuel { level with verbose := verboseAfter changes level.verbose } outer rest
      | (.group kind, rest) =>
        let changes := match kind with
          | .capture _ => []
          | .scope changes => changes
        readTerm fuel (.start (verboseAfter changes level.verbose)) ((kind, level) :: outer) rest
    | ')' :: rest =>
      match outer with
      | [] => none
      | (kind, parent) :: outer => readTerm fuel (parent.push (.group kind level.term)) outer rest
    | '|' :: rest => readTerm fuel level.branch outer rest
    | '[' :: rest => do
      let (item, rest) ← bracket? level.verbose rest
      readTerm fuel (level.push item) outer rest
    | '?' :: rest => do readTerm fuel (← level.times? 0 (some 1)) outer (dropLazy rest)
    | '*' :: rest => do readTerm fuel (← level.times? 0 none) outer (dropLazy rest)
    | '+' :: rest => do readTerm fuel (← level.times? 1 none) outer (dropLazy rest)
    | '{' :: rest => do
      let (text, rest) ← braced level.verbose false rest
      let (least, most) ← bounds? text
      readTerm fuel (← level.times? least most) outer (dropLazy (settle level.verbose rest))
    | '\\' :: rest => do
      let (atom, rest) ← escape? level.verbose rest
      readTerm fuel (level.push (.atom atom)) outer rest
    | '.' :: rest => readTerm fuel (level.push (.atom .dot)) outer rest
    | '^' :: rest => readTerm fuel (level.push (.atom (.anchor .lineStart))) outer rest
    | '$' :: rest => readTerm fuel (level.push (.atom (.anchor .lineEnd))) outer rest
    | c :: rest => readTerm fuel (level.push (.atom (.letter ⟨c, false⟩))) outer rest

/-- Reads a pattern. Every step takes a character. -/
def Term.ofText? (cs : List Char) : Option Term := do
  let term ← readTerm (cs.length + 1) (.start false) [] cs
  if term.depth .none ≤ maxDepth ∧ term.names.Nodup then some term else none

end Verdict.Pattern
