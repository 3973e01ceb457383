import Verdict.Yaml.Property
import Verdict.Yaml.Scalar

/-!
# From lines to tokens

Cuts a YAML text into tokens. Blocks begin and end with the indentation of lines, so the columns of the open ones
are kept. A key is known as one only when its colon comes, so where one may have begun is kept too, and the tokens
that say so are put in front of it later. All that can be wrong with a text before its tokens are put together is
found here.
-/

namespace Verdict.Yaml

/-- Where a key may have begun: the number of its first token and its place. It is due when it stands where lines
of the block begin, for nothing else may stand there. -/
structure KeyStart where
  token : Nat
  isDue : Bool
  place : Cursor

/-- A key stands on one line and has at most 1024 characters. -/
def KeyStart.isOver (key : KeyStart) (here : Cursor) : Bool :=
  key.place.line < here.line || key.place.index + 1024 < here.index

/-- How far a text has been cut: the tokens, the columns of the open blocks from the innermost on, the key that may
have begun in the innermost flow collection and in each outside of it, and whether one may begin now. -/
structure Layout where
  here : Cursor
  tokens : Array Token
  columns : List Nat
  key : Option KeyStart
  outerKeys : List (Option KeyStart)
  keyAllowed : Bool

namespace Layout

def start (cs : List Char) : Layout := ⟨.start cs, #[], [], none, [], true⟩

def inFlow (s : Layout) : Bool := !s.outerKeys.isEmpty

/-- The first column that belongs to the innermost block. -/
def margin (s : Layout) : Nat :=
  match s.columns with
  | [] => 0
  | column :: _ => column + 1

def push (s : Layout) (token : Token) : Layout := { s with tokens := s.tokens.push token }

def moveTo (s : Layout) (here : Cursor) : Layout := { s with here }

/-- Takes a token of `n` characters. -/
def take (s : Layout) (n : Nat) (token : Token) : Layout := (s.push token).moveTo (s.here.skip n)

def allowKey (s : Layout) (keyAllowed : Bool) : Layout := { s with keyAllowed }

/-! ## Blocks -/

/-- Ends the blocks that begin right of a column. -/
def closeBlocks (column : Nat) : List Nat → Layout → Layout
  | [], s => { s with columns := [] }
  | top :: columns, s =>
    if column < top then closeBlocks column columns (s.push .blockEnd) else { s with columns := top :: columns }

/-- Ends the blocks that the current column is left of. Indentation means nothing in a flow collection. -/
def unindent (s : Layout) : Layout :=
  if s.inFlow then s else closeBlocks s.here.column s.columns s

/-- Ends all blocks. -/
def closeAll (s : Layout) : Layout :=
  if s.inFlow then s
  else { s with columns := [], tokens := s.tokens ++ Array.replicate s.columns.length Token.blockEnd }

/-- Begins a block at a column right of the innermost one, with its token before the one numbered `place`. -/
def indent (s : Layout) (column place : Nat) (token : Token) : Layout :=
  if s.inFlow || column < s.margin then s
  else { s with columns := column :: s.columns, tokens := s.tokens.insertIdxIfInBounds place token }

/-! ## Keys -/

/-- Gives up the key that may have begun, which may not be due. -/
def dropKey? (s : Layout) : Option Layout :=
  if s.key.any (·.isDue) then none else some { s with key := none }

/-- Notes that a key may begin here. -/
def noteKey? (s : Layout) : Option Layout :=
  if !s.keyAllowed then some s
  else do
    let isDue := !s.inFlow && s.margin == s.here.column + 1
    let s ← s.dropKey?
    some { s with key := some ⟨s.tokens.size, isDue, s.here⟩ }

/-- A key that is over is given up, and may not be due. -/
def keepKey? (here : Cursor) : Option KeyStart → Option (Option KeyStart)
  | none => some none
  | some key => if !key.isOver here then some (some key) else if key.isDue then none else some none

def dropOver? (s : Layout) : Option Layout := do
  some { s with key := ← keepKey? s.here s.key, outerKeys := ← s.outerKeys.mapM (keepKey? s.here) }

/-! ## Tokens -/

/-- Passes white space, comments and line ends. In a block, a line may begin with a key, and there no tab may stand
where one may begin. -/
def skipGap : Nat → Layout → Layout
  | 0, s => s
  | fuel + 1, s =>
    let here := if s.here.index == 0 && s.here.head? == some '\ufeff' then s.here.skip 1 else s.here
    let here := (here.skipWhile fun c => c = ' ' || ((s.inFlow || !s.keyAllowed) && c = '\t')).skipComment
    match here.lineEnd? with
    | some (_, here) => skipGap fuel { s with here, keyAllowed := s.keyAllowed || !s.inFlow }
    | none => s.moveTo here

/-- A token that begins and ends a document, or a directive; nothing goes on across it. -/
def divide? (s : Layout) : Option Layout := do
  let s ← s.closeAll.dropKey?
  some (s.allowKey false)

def openFlow? (s : Layout) (token : Token) : Option Layout := do
  let s ← s.noteKey?
  some ({ s with key := none, outerKeys := s.key :: s.outerKeys, keyAllowed := true }.take 1 token)

def closeFlow? (s : Layout) (token : Token) : Option Layout := do
  let s ← s.dropKey?
  let s := match s.outerKeys with
    | [] => s
    | key :: outerKeys => { s with key, outerKeys }
  some ((s.allowKey false).take 1 token)

def flowEntry? (s : Layout) : Option Layout := do
  let s ← s.dropKey?
  some ((s.allowKey true).take 1 .flowEntry)

def blockEntry? (s : Layout) : Option Layout := do
  if !s.inFlow && !s.keyAllowed then none
  else
    let s ← (s.indent s.here.column s.tokens.size .blockSequence).dropKey?
    some ((s.allowKey true).take 1 .blockEntry)

/-- A key that its sign stands in front of. -/
def key? (s : Layout) : Option Layout := do
  if !s.inFlow && !s.keyAllowed then none
  else
    let s ← (s.indent s.here.column s.tokens.size .blockMapping).dropKey?
    some ((s.allowKey !s.inFlow).take 1 .key)

/-- A colon makes a key of what may have begun as one. Without that the key before it had its sign, or is empty. -/
def value? (s : Layout) : Option Layout :=
  match s.key with
  | some key =>
    let s := { s with tokens := s.tokens.insertIdxIfInBounds key.token .key, key := none }
    let s := s.indent key.place.column key.token .blockMapping
    some ((s.allowKey false).take 1 .value)
  | none =>
    if !s.inFlow && !s.keyAllowed then none
    else
      let s := s.indent s.here.column s.tokens.size .blockMapping
      some ((s.allowKey !s.inFlow).take 1 .value)

/-- A token that may be the first of a key. -/
def ofNode? (s : Layout) (read : Cursor → Option (Token × Cursor)) : Option Layout := do
  let s ← s.noteKey?
  let (token, here) ← read s.here
  some (((s.allowKey false).push token).moveTo here)

def plainScalar? (s : Layout) : Option Layout := do
  let s ← s.noteKey?
  let scalar ← plain? s.inFlow s.margin s.here
  some (((s.allowKey scalar.endsLine).push (.scalar scalar.text true)).moveTo scalar.next)

def blockScalar? (s : Layout) (folds : Bool) : Option Layout := do
  let s ← s.dropKey?
  let (text, here) ← block? folds s.margin (s.here.skip 1)
  some (((s.allowKey true).push (.scalar text false)).moveTo here)

/-- Signs that no plain scalar begins with. -/
def isSign (c : Char) : Bool :=
  ['-', '?', ':', ',', '[', ']', '{', '}', '#', '&', '*', '!', '|', '>', '\'', '"', '%', '@', '\x60'].contains c

/-- Whether a plain scalar begins with `c`, of which `next` is the character after it. -/
def startsPlain (s : Layout) (c : Char) (next : Option Char) : Bool :=
  !(isGap c || isSign c) || (c = '-' && !next.any isSpace) ||
    (!s.inFlow && (c = '?' || c = ':') && !next.all isGap)

/-- Takes the token that begins with `c`. -/
def token? (s : Layout) (c : Char) : Option Layout :=
  let alone := s.here.endsWord 1
  if s.here.column = 0 && c = '%' then do
    let s ← s.divide?
    let (token, here) ← directive? s.here
    some ((s.push token).moveTo here)
  else if s.here.hasMark '-' then do some ((← s.divide?).take 3 .documentStart)
  else if s.here.hasMark '.' then do some ((← s.divide?).take 3 .documentEnd)
  else if c = '[' then s.openFlow? .flowSequence
  else if c = '{' then s.openFlow? .flowMapping
  else if c = ']' then s.closeFlow? .flowSequenceEnd
  else if c = '}' then s.closeFlow? .flowMappingEnd
  else if c = ',' then s.flowEntry?
  else if c = '-' && alone then s.blockEntry?
  else if c = '?' && (s.inFlow || alone) then s.key?
  else if c = ':' && (s.inFlow || alone) then s.value?
  else if c = '*' then s.ofNode? fun here => (anchorName? (here.skip 1)).map fun (name, next) => (.alias name, next)
  else if c = '&' then s.ofNode? fun here => (anchorName? (here.skip 1)).map fun (name, next) => (.anchor name, next)
  else if c = '!' then s.ofNode? (tag? s.inFlow)
  else if c = '|' && !s.inFlow then s.blockScalar? false
  else if c = '>' && !s.inFlow then s.blockScalar? true
  else if c = '\'' || c = '"' then
    s.ofNode? fun here => (quoted? here).map fun (text, next) => (.scalar text false, next)
  else if s.startsPlain c (s.here.rest.drop 1).head? then s.plainScalar?
  else none

/-- Cuts the rest of a text. Every token takes a character. -/
def run : Nat → Layout → Option Layout
  | 0, _ => none
  | fuel + 1, s => do
    let s ← (s.skipGap (s.here.rest.length + 1)).dropOver?
    let s := s.unindent
    match s.here.rest with
    | [] => s.closeAll.dropKey?
    | c :: _ => run fuel (← s.token? c)

end Layout

/-- The tokens of a YAML text. -/
def tokens? (cs : List Char) : Option (List Token) := do
  if !cs.all isPrintable then none
  else
    let s ← Layout.run (cs.length + 1) (.start cs)
    some s.tokens.toList

end Verdict.Yaml
