import Verdict.Text.Property

/-!
# Looks of a pattern

A look takes no character. It holds at a position of a text or does not, which the characters on the two sides
of the position decide.
-/

namespace Verdict.Pattern

/-- How a position stands to a word. A half asks about one side only. -/
inductive WordSide where
  | boundary
  | inside
  | start
  | finish
  | startHalf
  | finishHalf
deriving DecidableEq

/-- What a pattern may ask of a position. A line ends at a line feed or, where carriage returns count too, at
either of the two or at both as one. -/
inductive Look where
  | textStart
  | textEnd
  | lineStart (returns : Bool)
  | lineEnd (returns : Bool)
  | word (side : WordSide) (unicode : Bool)
deriving DecidableEq

/-- A decimal digit, a letter of ASCII or the low line. -/
def isAsciiWord (c : Char) : Bool := c.isAlphanum || c = '_'

def isWord (unicode : Bool) (c : Char) : Bool :=
  isAsciiWord c || (unicode && c.toNat ≥ 128 && Text.Property.word.contains c)

/-- The answer to each side by whether a word character stands before the position and after it. -/
def WordSide.holds (before after : Bool) : WordSide → Bool
  | .boundary => before != after
  | .inside => before == after
  | .start => !before && after
  | .finish => before && !after
  | .startHalf => !before
  | .finishHalf => !after

/-- Whether a look holds between two characters, of which either may be missing at an end of the text. -/
def Look.holds (before after : Option Char) : Look → Bool
  | .textStart => before.isNone
  | .textEnd => after.isNone
  | .lineStart false => before.isNone || before == some '\n'
  | .lineStart true => before.isNone || before == some '\n' || (before == some '\r' && after != some '\n')
  | .lineEnd false => after.isNone || after == some '\n'
  | .lineEnd true => after.isNone || after == some '\r' || (after == some '\n' && before != some '\r')
  | .word side unicode => side.holds (before.any (isWord unicode)) (after.any (isWord unicode))

end Verdict.Pattern
