import Verdict.Pattern.Term
import Verdict.Number.Decimal
import Verdict.Text.Blank
import Verdict.Text.CodeSet

/-!
# Single items of a pattern

What a backslash begins, the contents of braces, and the white space that does not count. Each reader takes the
characters that are left and gives back what it read and what is left then.
-/

namespace Verdict.Pattern

open Text (isBlank)

/-- Drops white space, and comments from `#` to the end of their line. -/
def dropRemarks (inComment : Bool) : List Char → List Char
  | [] => []
  | c :: cs =>
    if inComment then dropRemarks (c != '\n') cs
    else if isBlank c then dropRemarks false cs
    else if c = '#' then dropRemarks true cs
    else c :: cs

/-- Drops what does not count: nothing, but in a verbose pattern white space and comments. -/
def settle (verbose : Bool) (cs : List Char) : List Char :=
  if verbose then dropRemarks false cs else cs

/-- The contents of braces whose opening one has been read. In a verbose pattern what does not count is left out,
and a closing brace in a comment is part of the comment. -/
def braced (verbose inComment : Bool) : List Char → Option (List Char × List Char)
  | [] => none
  | c :: cs =>
    if inComment then braced verbose (c != '\n') cs
    else if verbose && isBlank c then braced verbose false cs
    else if verbose && c = '#' then braced verbose true cs
    else if c = '}' then some ([], cs)
    else (braced verbose false cs).map fun (name, rest) => (c :: name, rest)

/-! ## Characters by number -/

/-- Reads a number of so many hexadecimal digits. -/
def hexDigits (verbose : Bool) : Nat → Nat → List Char → Option (Nat × List Char)
  | 0, n, cs => some (n, cs)
  | _ + 1, _, [] => none
  | count + 1, n, c :: cs => do
    let d ← Text.CodeSet.hexDigit? c
    hexDigits verbose count (n * 16 + d) (settle verbose cs)

/-- The character of a number; surrogates and numbers past the last character have none. -/
def charOf? (n : Nat) : Option Char :=
  if n.isValidChar then some (.ofNat n) else none

/-- Reads a character by its number, in braces or as so many digits. -/
def letterByNumber? (verbose : Bool) (count : Nat) (cs : List Char) : Option (Letter × List Char) :=
  match settle verbose cs with
  | '{' :: rest => do
    let (digits, rest) ← braced verbose false rest
    if digits.isEmpty then none
    let n ← digits.foldlM (fun n c => (n * 16 + ·) <$> Text.CodeSet.hexDigit? c) 0
    some (⟨← charOf? n, false⟩, settle verbose rest)
  | cs => do
    let (n, rest) ← hexDigits verbose count 0 cs
    some (⟨← charOf? n, count == 2⟩, rest)

/-! ## Classes by name -/

/-- The two parts of a text around the first place where `mark` stands in it. -/
def splitAt? (mark : List Char) : List Char → Option (List Char × List Char)
  | [] => none
  | c :: cs =>
    if mark.isPrefixOf (c :: cs) then some ([], (c :: cs).drop mark.length)
    else (splitAt? mark cs).map fun (before, after) => (c :: before, after)

/-- The query of a name in braces. Whichever sign joins a property and its value, they mean the same. -/
def Query.ofText (text : List Char) : Query :=
  match splitAt? ['!', '='] text <|> splitAt? [':'] text <|> splitAt? ['='] text with
  | some (property, value) => .valued property value
  | none => .named text

/-- Reads the name of a Unicode class: one character, or any in braces. -/
def query? (verbose : Bool) (cs : List Char) : Option (Query × List Char) :=
  match settle verbose cs with
  | [] => none
  | '{' :: rest => (braced verbose false rest).map fun (text, rest) => (.ofText text, rest)
  | c :: rest => if c = '\\' then none else some (.named [c], settle verbose rest)

/-! ## Escapes -/

/-- The looks at a word that are named in braces after `\b`. -/
def wordAnchor? (name : List Char) : Option Anchor :=
  match String.ofList name with
  | "start" => some .wordStart
  | "end" => some .wordFinish
  | "start-half" => some .wordStartHalf
  | "end-half" => some .wordFinishHalf
  | _ => none

/-- Reads what may follow `\b`. Braces that do not begin with a letter or a `-` are a repetition and are left. -/
def boundary? (verbose : Bool) (cs : List Char) : Option (Atom × List Char) :=
  match cs with
  | '{' :: rest =>
    match braced verbose false rest with
    | none => none
    | some (name, after) =>
      if name.head?.any fun c => c.isAlpha || c = '-' then
        (wordAnchor? name).map fun anchor => (.anchor anchor, after)
      else some (.anchor .boundary, cs)
  | _ => some (.anchor .boundary, cs)

/-- The control characters that have a letter. -/
def control? : Char → Option Char
  | 'a' => some '\x07'
  | 'f' => some '\x0c'
  | 't' => some '\t'
  | 'n' => some '\n'
  | 'r' => some '\r'
  | 'v' => some '\x0b'
  | _ => none

/-- Whether a character stands for itself after a backslash: all of ASCII but letters, digits and angles. -/
def isPlainEscape (c : Char) : Bool :=
  c.toNat < 128 && !c.isAlphanum && c != '<' && c != '>'

/-- Reads what follows a backslash. -/
def escape? (verbose : Bool) : List Char → Option (Atom × List Char)
  | [] => none
  | c :: cs =>
    match c with
    | 'x' => (letterByNumber? verbose 2 cs).map fun (letter, rest) => (.letter letter, rest)
    | 'u' => (letterByNumber? verbose 4 cs).map fun (letter, rest) => (.letter letter, rest)
    | 'U' => (letterByNumber? verbose 8 cs).map fun (letter, rest) => (.letter letter, rest)
    | 'p' => (query? verbose cs).map fun (query, rest) => (.property query false, rest)
    | 'P' => (query? verbose cs).map fun (query, rest) => (.property query true, rest)
    | 'd' => some (.shorthand .digit false, cs)
    | 'D' => some (.shorthand .digit true, cs)
    | 's' => some (.shorthand .space false, cs)
    | 'S' => some (.shorthand .space true, cs)
    | 'w' => some (.shorthand .word false, cs)
    | 'W' => some (.shorthand .word true, cs)
    | 'A' => some (.anchor .textStart, cs)
    | 'z' => some (.anchor .textEnd, cs)
    | 'b' => boundary? verbose cs
    | 'B' => some (.anchor .inside, cs)
    | '<' => some (.anchor .wordStart, cs)
    | '>' => some (.anchor .wordFinish, cs)
    | c =>
      match control? c with
      | some d => some (.letter ⟨d, false⟩, cs)
      | none => if isPlainEscape c then some (.letter ⟨c, false⟩, cs) else none

/-! ## Repetitions -/

/-- The greatest number of times that can be written. -/
def maxCount : Nat := 4294967295

/-- A number of times, with white space around it. -/
def count? (cs : List Char) : Option Nat :=
  let digits := Text.trimBlanks cs
  let n := Decimal.natOf digits
  if digits.isEmpty || !digits.all Decimal.isDigit || n > maxCount then none else some n

/-- The least and the greatest number of times that braces ask for. -/
def bounds? (text : List Char) : Option (Nat × Option Nat) :=
  match splitAt? [','] text with
  | none => (count? text).map fun n => (n, some n)
  | some (least, most) => do
    let least ← count? least
    if most.isEmpty then some (least, none)
    else
      let most ← count? most
      if least ≤ most then some (least, some most) else none

end Verdict.Pattern
