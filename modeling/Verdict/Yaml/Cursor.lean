/-!
# Places in a YAML text

A cursor is what is left of a text, with the line and the column that have been reached. Lines end at a line feed,
a carriage return, both as one, or one of the three line ends beyond ASCII.
-/

namespace Verdict.Yaml

/-- Whether a character may stand in a YAML text at all. -/
def isPrintable (c : Char) : Bool :=
  let n := c.toNat
  n == 0x09 || n == 0x0a || n == 0x0d || (0x20 ≤ n && n ≤ 0x7e) || n == 0x85 || (0xa0 ≤ n && n ≤ 0xfffd) ||
    0x10000 ≤ n

def isSpace (c : Char) : Bool := c = ' ' || c = '\t'

def isBreak (c : Char) : Bool :=
  c = '\r' || c = '\n' || c = '\x85' || c = '\u2028' || c = '\u2029'

def isGap (c : Char) : Bool := isSpace c || isBreak c

/-- What the names of anchors, directives and tag handles are made of. -/
def isNameChar (c : Char) : Bool := c.isAlphanum || c = '_' || c = '-'

/-- A place in a text. -/
structure Cursor where
  rest : List Char
  line : Nat
  column : Nat
  index : Nat

namespace Cursor

def start (cs : List Char) : Cursor := ⟨cs, 0, 0, 0⟩

def head? (here : Cursor) : Option Char := here.rest.head?

/-- Passes `n` characters of a line. -/
def skip (n : Nat) (here : Cursor) : Cursor :=
  ⟨here.rest.drop n, here.line, here.column + n, here.index + n⟩

/-- Passes the characters of a line that `p` holds of. -/
def skipWhile (p : Char → Bool) (here : Cursor) : Cursor := here.skip (here.rest.takeWhile p).length

/-- The characters that `p` holds of, and the place after them. -/
def takeWhile (p : Char → Bool) (here : Cursor) : List Char × Cursor := (here.rest.takeWhile p, here.skipWhile p)

/-- The place at the start of the next line, `n` characters on. -/
def nextLine (n : Nat) (here : Cursor) : Cursor := ⟨here.rest.drop n, here.line + 1, 0, here.index + n⟩

/-- A line end, as it is kept in a scalar, and the place after it. -/
def lineEnd? (here : Cursor) : Option (Char × Cursor) :=
  match here.rest with
  | '\r' :: '\n' :: _ => some ('\n', here.nextLine 2)
  | c :: _ =>
    if c = '\u2028' || c = '\u2029' then some (c, here.nextLine 1)
    else if isBreak c then some ('\n', here.nextLine 1)
    else none
  | [] => none

/-- Whether the text ends after `n` more characters, or has a gap there. -/
def endsWord (n : Nat) (here : Cursor) : Bool :=
  match here.rest.drop n with
  | [] => true
  | c :: _ => isGap c

/-- Whether the line ends here. -/
def atLineEnd (here : Cursor) : Bool :=
  match here.rest with
  | [] => true
  | c :: _ => isBreak c

/-- Whether a line begins here with three of one character and a gap. -/
def hasMark (c : Char) (here : Cursor) : Bool :=
  here.column == 0 && here.rest.take 3 == [c, c, c] && here.endsWord 3

/-- Whether a mark between documents stands here. -/
def atMark (here : Cursor) : Bool := here.hasMark '-' || here.hasMark '.'

/-- Passes a comment. -/
def skipComment (here : Cursor) : Cursor :=
  if here.head? == some '#' then here.skipWhile (!isBreak ·) else here

/-- Passes what may stand at the end of a line, and the line end. There is none if more stands there. -/
def endLine? (here : Cursor) : Option Cursor :=
  let here := (here.skipWhile isSpace).skipComment
  if here.atLineEnd then some (((here.lineEnd?).map (·.2)).getD here) else none

/-! ## Gaps -/

/-- Spaces and line ends in a row: the spaces before the first line end, and the line ends, both last first. -/
structure Gap where
  spaces : List Char
  breaks : List Char
  next : Cursor

/-- Reads a gap. A tab may not stand left of the column `margin` once a line has ended. -/
def readGap (margin : Nat) : Nat → Gap → Option Gap
  | 0, _ => none
  | fuel + 1, gap =>
    match gap.next.lineEnd? with
    | some (c, next) => readGap margin fuel { gap with breaks := c :: gap.breaks, next }
    | none =>
      match gap.next.rest with
      | [] => some gap
      | c :: _ =>
        if !isSpace c then some gap
        else if gap.breaks.isEmpty then
          readGap margin fuel { gap with spaces := c :: gap.spaces, next := gap.next.skip 1 }
        else if c = '\t' && gap.next.column < margin then none
        else readGap margin fuel { gap with next := gap.next.skip 1 }

def gap? (margin : Nat) (here : Cursor) : Option Gap :=
  readGap margin (here.rest.length + 1) ⟨[], [], here⟩

/-- What a gap between two words comes to: its spaces, or, when lines end in it, a blank for one line end and one
line end less for several. -/
def Gap.text (gap : Gap) : List Char :=
  match gap.breaks.reverse with
  | [] => gap.spaces.reverse
  | '\n' :: [] => [' ']
  | '\n' :: more => more
  | breaks => breaks

end Cursor

end Verdict.Yaml
