import Verdict.Yaml.Token
import Verdict.Text.CodeSet
import Verdict.Number.Decimal

/-!
# Anchors, tags and directives of YAML

The tokens that say something about a node or a document: names, the two parts of a tag, and the lines that begin
with a percent sign.
-/

namespace Verdict.Yaml

/-! ## Anchors -/

/-- What may follow the name of an anchor or an alias. -/
def endsAnchor (here : Cursor) : Bool :=
  here.endsWord 0 || here.head?.any ['?', ':', ',', ']', '}', '%', '@', '\x60'].contains

/-- Reads the name after `&` or `*`. -/
def anchorName? (here : Cursor) : Option (List Char × Cursor) :=
  let (name, next) := here.takeWhile isNameChar
  if name.isEmpty || !endsAnchor next then none else some (name, next)

/-! ## Tags -/

/-- What a tag is made of besides the characters of names. Between angles, signs of flow sequences are too. -/
def isTagChar (inAngles : Bool) (c : Char) : Bool :=
  isNameChar c ||
    [';', '/', '?', ':', '@', '&', '=', '+', '$', '.', '%', '!', '~', '*', '\'', '(', ')'].contains c ||
    (inAngles && [',', '[', ']'].contains c)

/-- Reads a byte that is written as a percent sign and two hexadecimal digits. -/
def escapedByte? : List Char → Option (UInt8 × List Char)
  | '%' :: a :: b :: rest => do
    some (.ofNat ((← Text.CodeSet.hexDigit? a) * 16 + (← Text.CodeSet.hexDigit? b)), rest)
  | _ => none

/-- How many bytes a character takes that begins with this one. -/
def encodedLength? (first : UInt8) : Option Nat :=
  if first < 0x80 then some 1
  else if first &&& 0xe0 = 0xc0 then some 2
  else if first &&& 0xf0 = 0xe0 then some 3
  else if first &&& 0xf8 = 0xf0 then some 4
  else none

/-- Reads so many escaped bytes. -/
def escapedBytes? : Nat → List Char → Option (List UInt8 × List Char)
  | 0, cs => some ([], cs)
  | n + 1, cs => do
    let (byte, cs) ← escapedByte? cs
    let (bytes, cs) ← escapedBytes? n cs
    some (byte :: bytes, cs)

/-- Reads a character that is written as the bytes of its encoding. -/
def escapedChar? (cs : List Char) : Option (Char × List Char) := do
  let (first, _) ← escapedByte? cs
  let (bytes, rest) ← escapedBytes? (← encodedLength? first) cs
  let text ← String.fromUTF8? ⟨bytes.toArray⟩
  match text.toList with
  | [c] => some (c, rest)
  | _ => none

/-- Reads the characters of a tag, and undoes the escapes in it. -/
def tagText (inAngles : Bool) : Nat → List Char → Cursor → Option (List Char × Cursor)
  | 0, _, _ => none
  | fuel + 1, done, here =>
    match here.rest with
    | [] => some (done.reverse, here)
    | c :: _ =>
      if c = '%' then do
        let (d, rest) ← escapedChar? here.rest
        tagText inAngles fuel (d :: done) (here.skip (here.rest.length - rest.length))
      else if isTagChar inAngles c then tagText inAngles fuel (c :: done) (here.skip 1)
      else some (done.reverse, here)

/-- Reads the rest of a tag of which `begun` has been read. All of it may not be empty. -/
def tagRest? (inAngles : Bool) (begun : List Char) (here : Cursor) : Option (List Char × Cursor) := do
  let (text, next) ← tagText inAngles (here.rest.length + 1) [] here
  if begun.isEmpty && text.isEmpty then none else some (begun.drop 1 ++ text, next)

/-- Reads a handle: an exclamation mark, a name, and a second mark if there is one. -/
def handle? (here : Cursor) : Option (List Char × Cursor) :=
  match here.rest with
  | '!' :: _ =>
    let (name, next) := (here.skip 1).takeWhile isNameChar
    if next.head? == some '!' then some ('!' :: name ++ ['!'], next.skip 1) else some ('!' :: name, next)
  | _ => none

/-- Whether a handle ends with a mark of its own. -/
def isWholeHandle (handle : List Char) : Bool := handle.length > 1 && handle.getLast? == some '!'

/-- Reads a tag. One without a whole handle has the handle `!`; the mark alone is a tag without a handle. -/
def tag? (inFlow : Bool) (here : Cursor) : Option (Token × Cursor) := do
  let (token, next) ←
    if (here.rest.drop 1).head? == some '<' then do
      let (text, next) ← tagRest? true [] (here.skip 2)
      if next.head? == some '>' then some (Token.tag [] text, next.skip 1) else none
    else do
      let (handle, next) ← handle? here
      if isWholeHandle handle then
        let (text, next) ← tagRest? false [] next
        some (Token.tag handle text, next)
      else
        let (text, next) ← tagRest? false handle next
        some (if text.isEmpty then Token.tag [] ['!'] else Token.tag ['!'] text, next)
  if next.endsWord 0 || (inFlow && next.head? == some ',') then some (token, next) else none

/-! ## Directives -/

/-- Reads a number of a version, which has nine digits at most. -/
def versionNumber? (here : Cursor) : Option (Nat × Cursor) :=
  let (digits, next) := here.takeWhile Decimal.isDigit
  if digits.isEmpty || digits.length > 9 then none else some (Decimal.natOf digits, next)

def version? (here : Cursor) : Option (Token × Cursor) := do
  let (major, next) ← versionNumber? (here.skipWhile isSpace)
  if next.head? == some '.' then
    let (minor, next) ← versionNumber? (next.skip 1)
    some (.version major minor, next)
  else none

def tagHandle? (here : Cursor) : Option (Token × Cursor) := do
  let (handle, next) ← handle? (here.skipWhile isSpace)
  if handle != ['!'] && !isWholeHandle handle then none
  else if !(next.head?.any isSpace) then none
  else
    let (start, next) ← tagRest? true [] (next.skipWhile isSpace)
    if next.endsWord 0 then some (.tagHandle handle start, next) else none

/-- Reads a line that begins with a percent sign. -/
def directive? (here : Cursor) : Option (Token × Cursor) := do
  let (name, next) := (here.skip 1).takeWhile isNameChar
  if !next.endsWord 0 then none
  else
    let (token, next) ← match String.ofList name with
      | "YAML" => version? next
      | "TAG" => tagHandle? next
      | _ => none
    some (token, ← next.endLine?)

end Verdict.Yaml
