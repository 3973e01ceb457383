import Verdict.Pattern.Look

/-!
# Shapes of text

The shape that a pattern describes, and how it is found in a text. A set of positions of the text is a number
whose bits are the positions in it. A shape leads from the positions where a match may begin to those where it may
end, each part from what the part before it reached; no choice has to be taken back, so the time grows with the
text and the shape and not with the number of ways to match.
-/

namespace Verdict.Pattern

/-- A shape, whose characters are told by an `α` and whose looks by a `β`. -/
inductive Shape (α β : Type) where
  | empty
  | one (set : α)
  | look (test : β)
  | capture (body : Shape α β)
  | cat (first second : Shape α β)
  | alt (left right : Shape α β)
  | times (body : Shape α β) (least : Nat) (most : Option Nat)

namespace Shape

variable {α β γ δ : Type}

def map (f : α → γ) (g : β → δ) : Shape α β → Shape γ δ
  | empty => empty
  | one set => one (f set)
  | look test => look (g test)
  | capture body => capture (body.map f g)
  | cat first second => cat (first.map f g) (second.map f g)
  | alt left right => alt (left.map f g) (right.map f g)
  | times body least most => times (body.map f g) least most

/-- What `n` moves in a row reach. A move that changes nothing ends it. -/
def iterate (move : Nat → Nat) : Nat → Nat → Nat
  | 0, ps => ps
  | n + 1, ps => if move ps = ps then ps else iterate move n (move ps)

/-- What at most `n` moves reach in all, of which `fresh` is what the last one added. -/
def spread (move : Nat → Nat) : Nat → Nat → Nat → Nat
  | 0, _, all => all
  | n + 1, fresh, all =>
    let next := (move fresh ||| all) ^^^ all
    if next = 0 then all else spread move n next (all ||| next)

/-- The positions that the shape leads to from `ps`, in a text of `length` characters. Bit `i` of a set tells
whether the character after position `i` is in it, and of a look whether it holds there. -/
def reach (length : Nat) : Shape Nat Nat → Nat → Nat
  | empty, ps => ps
  | one set, ps => (ps &&& set) <<< 1
  | look test, ps => ps &&& test
  | capture body, ps => body.reach length ps
  | cat first second, ps => second.reach length (first.reach length ps)
  | alt left right, ps => left.reach length ps ||| right.reach length ps
  | times body least most, ps =>
    let move := fun qs => body.reach length qs
    let start := iterate move least ps
    spread move ((most.map (· - least)).getD (length + 1)) start start

/-- The number whose bits are the given ones, the lowest first. -/
def ofBits : List Bool → Nat
  | [] => 0
  | b :: bs => b.toNat + 2 * ofBits bs

/-- Where a look holds in a text that `before` stands in front of. -/
def lookBits (test : Look) (before : Option Char) : List Char → List Bool
  | [] => [test.holds before none]
  | c :: cs => test.holds before (some c) :: lookBits test (some c) cs

/-- Whether the shape is found anywhere in a text. -/
def isFound (shape : Shape Text.CodeSet Look) (cs : List Char) : Bool :=
  let located := shape.map (fun set => ofBits (cs.map set.contains)) (fun test => ofBits (lookBits test none cs))
  located.reach cs.length (1 <<< (cs.length + 1) - 1) != 0

end Shape

end Verdict.Pattern
