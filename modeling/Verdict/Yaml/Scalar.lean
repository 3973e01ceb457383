import Verdict.Yaml.Cursor
import Verdict.Text.CodeSet

/-!
# Scalars of YAML

The text of a scalar: plain, between quotes, or as a block of lines. Lines of a scalar are folded: one line end is
a blank, and of several the first is dropped.
-/

namespace Verdict.Yaml

open Cursor (Gap)

/-! ## Between quotes -/

/-- The characters that an escape of one letter stands for. -/
def escaped? : Char → Option Char
  | '0' => some '\x00'
  | 'a' => some '\x07'
  | 'b' => some '\x08'
  | 't' | '\t' => some '\t'
  | 'n' => some '\n'
  | 'v' => some '\x0b'
  | 'f' => some '\x0c'
  | 'r' => some '\r'
  | 'e' => some '\x1b'
  | ' ' => some ' '
  | '"' => some '"'
  | '/' => some '/'
  | '\\' => some '\\'
  | 'N' => some '\x85'
  | '_' => some '\xa0'
  | 'L' => some '\u2028'
  | 'P' => some '\u2029'
  | _ => none

/-- How many hexadecimal digits an escape by number has. -/
def escapeDigits? : Char → Option Nat
  | 'x' => some 2
  | 'u' => some 4
  | 'U' => some 8
  | _ => none

/-- Reads an escape whose backslash is at the cursor. -/
def escape? (here : Cursor) : Option (Char × Cursor) :=
  match here.rest with
  | _ :: c :: rest =>
    match escapeDigits? c with
    | none => (escaped? c).map fun d => (d, here.skip 2)
    | some count => do
      let digits := rest.take count
      let n ← digits.foldlM (fun n d => (n * 16 + ·) <$> Text.CodeSet.hexDigit? d) 0
      if digits.length = count ∧ n.isValidChar then some (.ofNat n, here.skip (2 + count)) else none
  | _ => none

/-- Reads a scalar between quotes from after its first quote; `done` is its text so far, last first. A quote
between single quotes is written twice. -/
def quoted (quote : Char) : Nat → List Char → Cursor → Option (List Char × Cursor)
  | 0, _, _ => none
  | fuel + 1, done, here =>
    if here.atMark then none
    else
      match here.rest with
      | [] => none
      | c :: rest =>
        if isGap c then do
          let gap ← here.gap? 0
          quoted quote fuel (gap.text.reverse ++ done) gap.next
        else if c = quote then
          if quote = '\'' && rest.head? == some '\'' then quoted quote fuel ('\'' :: done) (here.skip 2)
          else some (done.reverse, here.skip 1)
        else if quote = '"' && c = '\\' then
          match (here.skip 1).lineEnd? with
          | some (_, next) => do
            let gap ← next.gap? 0
            quoted quote fuel (gap.breaks ++ done) gap.next
          | none => do
            let (d, next) ← escape? here
            quoted quote fuel (d :: done) next
        else quoted quote fuel (c :: done) (here.skip 1)

def quoted? (here : Cursor) : Option (List Char × Cursor) :=
  match here.rest with
  | quote :: rest => quoted quote (rest.length + 1) [] (here.skip 1)
  | [] => none

/-! ## Plain -/

/-- The signs of flow collections. -/
def isFlowSign (c : Char) : Bool := c = ',' || c = '[' || c = ']' || c = '{' || c = '}'

/-- The word that a text begins with. A colon before a gap ends it, and in a flow collection so do the signs of
one; there a colon before such a sign is refused. -/
def word? (inFlow : Bool) : List Char → Option (List Char)
  | [] => some []
  | c :: cs =>
    if isGap c then some []
    else if c = ':' && inFlow && cs.head?.any fun d => isFlowSign d || d = '?' then none
    else if c = ':' && cs.head?.all isGap then some []
    else if inFlow && isFlowSign c then some []
    else (word? inFlow cs).map (c :: ·)

/-- A plain scalar: its text, whether a line ended after it, and where it ends. -/
structure PlainScalar where
  text : List Char
  endsLine : Bool
  next : Cursor

/-- Reads a plain scalar; `done` is its text so far, last first, and `gap` the gap that was read last. It ends at a
comment, at a mark between documents, and in a block at a line that begins left of `margin`. -/
def plain (inFlow : Bool) (margin : Nat) : Nat → List Char → Gap → Option PlainScalar
  | 0, _, _ => none
  | fuel + 1, done, gap =>
    let here := gap.next
    if here.atMark || here.head? == some '#' then some ⟨done.reverse, !gap.breaks.isEmpty, here⟩
    else do
      let word ← word? inFlow here.rest
      let next := here.skip word.length
      let done := if word.isEmpty then done else word.reverse ++ gap.text.reverse ++ done
      let endsLine := word.isEmpty && !gap.breaks.isEmpty
      if !(next.head?.any isGap) then some ⟨done.reverse, endsLine, next⟩
      else
        let gap ← next.gap? margin
        if !inFlow && gap.next.column < margin then some ⟨done.reverse, !gap.breaks.isEmpty, gap.next⟩
        else plain inFlow margin fuel done gap

def plain? (inFlow : Bool) (margin : Nat) (here : Cursor) : Option PlainScalar :=
  plain inFlow margin (here.rest.length + 1) [] ⟨[], [], here⟩

/-! ## Blocks of lines -/

/-- What becomes of the line ends at the end of a block. -/
inductive Chomping where
  | strip
  | clip
  | keep

/-- The signs after `|` and `>`: what becomes of the last line ends, and by how much the block is indented. -/
structure BlockHeader where
  chomping : Chomping
  increment : Option Nat
  next : Cursor

def chomping? : Option Char → Option Chomping
  | some '+' => some .keep
  | some '-' => some .strip
  | _ => none

/-- An indentation of one digit. -/
def increment? : Option Char → Option Nat
  | some c => if c.isDigit then some (c.toNat - 48) else none
  | none => none

/-- Reads the rest of the first line of a block, after its sign. No block is indented by zero. -/
def blockHeader? (here : Cursor) : Option BlockHeader := do
  let (chomping, increment, here) :=
    match chomping? here.head? with
    | some chomping =>
      let here := here.skip 1
      match increment? here.head? with
      | some n => (chomping, some n, here.skip 1)
      | none => (chomping, none, here)
    | none =>
      match increment? here.head? with
      | some n =>
        let here := here.skip 1
        match chomping? here.head? with
        | some chomping => (chomping, some n, here.skip 1)
        | none => (.clip, some n, here)
      | none => (.clip, none, here)
  if increment = some 0 then none else some ⟨chomping, increment, ← here.endLine?⟩

/-- Empty lines of a block: their line ends, last first, the widest indentation in front of one and of the line
after them, and where that line is. -/
structure EmptyLines where
  breaks : List Char
  widest : Nat
  next : Cursor

/-- Reads empty lines and the indentation after them, which is `indent` columns or, if there is none yet, all that
there are. No tab may stand in it. -/
def emptyLines (indent : Option Nat) : Nat → EmptyLines → Option EmptyLines
  | 0, _ => none
  | fuel + 1, lines =>
    let blanks := (lines.next.rest.takeWhile (· = ' ')).length
    let wanted := match indent with
      | some n => min blanks (n - lines.next.column)
      | none => blanks
    let next := lines.next.skip wanted
    let widest := max lines.widest next.column
    if next.head? == some '\t' && indent.all (next.column < ·) then none
    else
      match next.lineEnd? with
      | some (c, next) => emptyLines indent fuel ⟨c :: lines.breaks, widest, next⟩
      | none => some ⟨lines.breaks, widest, next⟩

def emptyLines? (indent : Option Nat) (here : Cursor) : Option EmptyLines :=
  emptyLines indent (here.rest.length + 1) ⟨[], 0, here⟩

/-- What has been read of a block: its text, the line end of the last line and the empty lines after it, all last
first, and whether the last line begins with a space. -/
structure BlockText where
  done : List Char
  lineEnd : List Char
  empty : List Char
  isIndented : Bool

/-- Joins the next line to what has been read. Two lines that begin with no space are folded. -/
def BlockText.join (block : BlockText) (folds startsWithSpace : Bool) : List Char :=
  if folds && block.lineEnd == ['\n'] && !block.isIndented && !startsWithSpace then
    block.empty ++ (if block.empty.isEmpty then [' '] else []) ++ block.done
  else block.empty ++ block.lineEnd ++ block.done

/-- Reads the lines of a block that are indented by `indent`. -/
def blockLines (folds : Bool) (indent : Nat) : Nat → BlockText → Cursor → Option (BlockText × Cursor)
  | 0, _, _ => none
  | fuel + 1, block, here =>
    if here.column != indent || here.rest.isEmpty then some (block, here)
    else do
      let startsWithSpace := here.head?.any isSpace
      let (line, next) := here.takeWhile (!isBreak ·)
      let (lineEnd, next) := match next.lineEnd? with
        | some (c, next) => ([c], next)
        | none => ([], next)
      let lines ← emptyLines? (some indent) next
      blockLines folds indent fuel
        ⟨line.reverse ++ block.join folds startsWithSpace, lineEnd, lines.breaks, startsWithSpace⟩ lines.next

/-- Reads a block from after its sign, in a block of which the lines begin at `margin` or right of it. -/
def block? (folds : Bool) (margin : Nat) (here : Cursor) : Option (List Char × Cursor) := do
  let header ← blockHeader? here
  let given := header.increment.map (margin - 1 + ·)
  let lines ← emptyLines? given header.next
  let indent := given.getD (max lines.widest (max margin 1))
  let (block, next) ← blockLines folds indent (lines.next.rest.length + 1) ⟨[], [], lines.breaks, false⟩ lines.next
  let tail := match header.chomping with
    | .strip => []
    | .clip => block.lineEnd
    | .keep => block.empty ++ block.lineEnd
  some ((tail ++ block.done).reverse, next)

end Verdict.Yaml
