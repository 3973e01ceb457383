import Verdict.Pattern.Term
import Verdict.Pattern.Query
import Verdict.Pattern.Shape
import Verdict.Text.Folding

/-!
# What a pattern means

The shape that a term describes. Flags hold from where they are set to the end of the group, also in the branches
after it. Where Unicode is off, classes hold ASCII only, so a class that is negated there means nothing, and
neither does the dot or a name of a Unicode class.
-/

namespace Verdict.Pattern

open Text (CodeSet)

/-- The flags that decide what a term means. -/
structure Flags where
  ignoreCase : Bool := false
  multiLine : Bool := false
  dotAll : Bool := false
  unicode : Bool := true
  returns : Bool := false

namespace Flags

def change (flags : Flags) (change : FlagChange) : Flags :=
  match change.flag with
  | .ignoreCase => { flags with ignoreCase := change.on }
  | .multiLine => { flags with multiLine := change.on }
  | .dotAll => { flags with dotAll := change.on }
  | .unicode => { flags with unicode := change.on }
  | .returns => { flags with returns := change.on }
  | .swapGreed | .verbose => flags

def changes (flags : Flags) (changes : List FlagChange) : Flags := changes.foldl change flags

/-- A set with both cases of its members, where case does not count. -/
def fold (flags : Flags) (set : CodeSet) : CodeSet :=
  if !flags.ignoreCase then set else if flags.unicode then set.foldCase else set.foldAscii

def negate? (flags : Flags) (negated : Bool) (set : CodeSet) : Option CodeSet :=
  if !negated then some set else if flags.unicode then some set.complement else none

def shorthand? (flags : Flags) (kind : Shorthand) (negated : Bool) : Option CodeSet :=
  flags.negate? negated <|
    match kind, flags.unicode with
    | .digit, true => Text.Category.decimalNumber
    | .space, true => Text.Property.whiteSpace
    | .word, true => Text.Property.word
    | .digit, false => ⟨#[(0x30, 0x39)]⟩
    | .space, false => ⟨#[(0x09, 0x0d), (0x20, 0x20)]⟩
    | .word, false => ⟨#[(0x30, 0x39), (0x41, 0x5a), (0x5f, 0x5f), (0x61, 0x7a)]⟩

def property? (flags : Flags) (query : Query) (negated : Bool) : Option CodeSet :=
  if flags.unicode then query.set?.bind fun set => flags.negate? negated (flags.fold set) else none

/-- The characters that the dot stands for. -/
def dot? (flags : Flags) : Option CodeSet :=
  if !flags.unicode then none
  else if flags.dotAll then some .all
  else if flags.returns then some (CodeSet.complement ⟨#[(0x0a, 0x0a), (0x0d, 0x0d)]⟩)
  else some (CodeSet.singleton 0x0a).complement

/-- The code point of a letter in a class. -/
def classCode? (flags : Flags) (letter : Letter) : Option Nat :=
  if flags.unicode || letter.char.toNat < 128 then some letter.char.toNat else none

/-- A letter on its own. A byte past ASCII is no character. -/
def letter? (flags : Flags) (letter : Letter) : Option CodeSet :=
  if !flags.unicode && letter.isByte && letter.char.toNat ≥ 128 then none
  else some (flags.fold (.singleton letter.char.toNat))

def look (flags : Flags) : Anchor → Look
  | .lineStart => if flags.multiLine then .lineStart flags.returns else .textStart
  | .lineEnd => if flags.multiLine then .lineEnd flags.returns else .textEnd
  | .textStart => .textStart
  | .textEnd => .textEnd
  | .boundary => .word .boundary flags.unicode
  | .inside => .word .inside flags.unicode
  | .wordStart => .word .start flags.unicode
  | .wordFinish => .word .finish flags.unicode
  | .wordStartHalf => .word .startHalf flags.unicode
  | .wordFinishHalf => .word .finishHalf flags.unicode

end Flags

def SetOperator.apply : SetOperator → CodeSet → CodeSet → CodeSet
  | .inter => .inter
  | .diff => .diff
  | .symmDiff => .symmDiff

/-- The characters of what stands in a class. Case is folded before a set is negated, and before an operation. -/
def ClassTerm.set? (flags : Flags) : ClassTerm → Option CodeSet
  | empty => some .empty
  | letter c => (flags.classCode? c).map .singleton
  | range first last => do some (.ofRuns [(← flags.classCode? first, ← flags.classCode? last)])
  | ascii runs negated =>
    flags.negate? negated (flags.fold (.ofRuns (runs.map fun run => (run.1.toNat, run.2.toNat))))
  | shorthand kind negated => flags.shorthand? kind negated
  | property query negated => flags.property? query negated
  | bracket negated body => do flags.negate? negated (flags.fold (← body.set? flags))
  | union items item => do some ((← items.set? flags).union (← item.set? flags))
  | operation operator left right => do
    some (operator.apply (flags.fold (← left.set? flags)) (flags.fold (← right.set? flags)))

def Atom.shape? (flags : Flags) : Atom → Option (Shape CodeSet Look)
  | letter c => (flags.letter? c).map .one
  | dot => flags.dot?.map .one
  | anchor a => some (.look (flags.look a))
  | shorthand kind negated => (flags.shorthand? kind negated).map .one
  | property query negated => (flags.property? query negated).map .one

/-- The shape of a term under the flags that hold before it, with those that hold after it. -/
def Term.shape? : Term → Flags → Option (Shape CodeSet Look × Flags)
  | empty, now => some (.empty, now)
  | flags changes, now => some (.empty, now.changes changes)
  | atom a, now => do some (← a.shape? now, now)
  | bracket negated body, now => do
    some (.one (← now.negate? negated (now.fold (← body.set? now))), now)
  | times body least most, now => do
    let (shape, after) ← body.shape? now
    some (.times shape least most, after)
  | group (.capture _) body, now => do
    let (shape, _) ← body.shape? now
    some (.capture shape, now)
  | group (.scope changes) body, now => do
    let (shape, _) ← body.shape? (now.changes changes)
    some (shape, now)
  | cat first second, now => do
    let (first, now) ← first.shape? now
    let (second, now) ← second.shape? now
    some (.cat first second, now)
  | alt left right, now => do
    let (left, now) ← left.shape? now
    let (right, now) ← right.shape? now
    some (.alt left right, now)

end Verdict.Pattern
