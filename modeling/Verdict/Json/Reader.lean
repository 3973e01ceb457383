import Verdict.Json.Basic

/-!
# Reading JSON

A strict reader: no comments, no commas at the end, no blanks but the four of the standard, no controls inside
strings. It gives the tree as it is written, of any depth; `Json.isReadable` says whether it may be used.
-/

namespace Verdict.Json

/-- The four characters that may stand between the tokens of a text. -/
def isSpace (c : Char) : Bool := c = ' ' || c = '\n' || c = '\t' || c = '\r'

def skipSpaces (cs : List Char) : List Char := cs.dropWhile isSpace

/-- The value of a hexadecimal digit. -/
def hexValue? (c : Char) : Option Nat :=
  if '0' ≤ c ∧ c ≤ '9' then some (c.toNat - 48)
  else if 'a' ≤ c ∧ c ≤ 'f' then some (c.toNat - 87)
  else if 'A' ≤ c ∧ c ≤ 'F' then some (c.toNat - 55)
  else none

/-- The number of four hexadecimal digits. -/
def unit? (a b c d : Char) : Option Nat := do
  let a ← hexValue? a
  let b ← hexValue? b
  let c ← hexValue? c
  let d ← hexValue? d
  return ((a * 16 + b) * 16 + c) * 16 + d

def isHighSurrogate (n : Nat) : Bool := 0xd800 ≤ n && n ≤ 0xdbff

def isLowSurrogate (n : Nat) : Bool := 0xdc00 ≤ n && n ≤ 0xdfff

/-- The characters of a string as far as they are read, last one first; nothing once half of a surrogate pair
was met. -/
abbrev Gathered := Option (List Char)

def Gathered.push (g : Gathered) (c : Char) : Gathered := g.map (c :: ·)

/-- The text of the gathered characters. -/
def Gathered.text? (g : Gathered) : Option String := g.map fun cs => String.ofList cs.reverse

/-- The string of the gathered characters. -/
def Gathered.string (g : Gathered) : Json := (g.text?.map Json.string).getD .unpaired

/-- The character of an escape of one letter. -/
def simpleEscape? : Char → Option Char
  | '"' => some '"'
  | '\\' => some '\\'
  | '/' => some '/'
  | 'b' => some '\x08'
  | 'f' => some '\x0c'
  | 'n' => some '\n'
  | 'r' => some '\r'
  | 't' => some '\t'
  | _ => none

/-- Reads a string up to its closing quote. -/
def readString (g : Gathered) : List Char → Option (Gathered × List Char)
  | '"' :: rest => some (g, rest)
  | '\\' :: 'u' :: a :: b :: c :: d :: '\\' :: 'u' :: a' :: b' :: c' :: d' :: rest =>
    match unit? a b c d, unit? a' b' c' d' with
    | some n, some m =>
      if isHighSurrogate n then
        if isLowSurrogate m then
          readString (g.push (Char.ofNat (0x10000 + (n - 0xd800) * 0x400 + (m - 0xdc00)))) rest
        else readString none rest
      else
        let g := if isLowSurrogate n then none else g.push (Char.ofNat n)
        readString g ('\\' :: 'u' :: a' :: b' :: c' :: d' :: rest)
    | some n, none =>
      if isHighSurrogate n || isLowSurrogate n then none
      else readString (g.push (Char.ofNat n)) ('\\' :: 'u' :: a' :: b' :: c' :: d' :: rest)
    | none, _ => none
  | '\\' :: 'u' :: a :: b :: c :: d :: rest =>
    match unit? a b c d with
    | some n =>
      if isHighSurrogate n || isLowSurrogate n then readString none rest
      else readString (g.push (Char.ofNat n)) rest
    | none => none
  | '\\' :: c :: rest =>
    match simpleEscape? c with
    | some c => readString (g.push c) rest
    | none => none
  | c :: rest => if c.toNat < 32 || c = '\\' then none else readString (g.push c) rest
  | [] => none

/-- Takes a word from the front of a text. -/
def takeWord (word : List Char) (value : Json) (cs : List Char) : Option (Json × List Char) :=
  if word.isPrefixOf cs then some (value, cs.drop word.length) else none

/-- Reads a key and the colon after it. -/
def readKey (cs : List Char) : Option (Gathered × List Char) :=
  match skipSpaces cs with
  | '"' :: rest =>
    match readString (some []) rest with
    | some (key, rest) =>
      match skipSpaces rest with
      | ':' :: rest => some (key, rest)
      | _ => none
    | none => none
  | _ => none

/-- The object of some members, if each key has a text. -/
def objectOf (members : List (Gathered × Json)) : Json :=
  match members.mapM fun (key, j) => key.text?.map fun key => (key, j) with
  | some members => .object members
  | none => .unpaired

mutual

/-- Reads a tree from the front of a text. The fuel bounds the nesting and the number of items. -/
def readTree : Nat → List Char → Option (Json × List Char)
  | 0, _ => none
  | fuel + 1, cs =>
    match skipSpaces cs with
    | '"' :: rest => (readString (some []) rest).map fun (g, rest) => (g.string, rest)
    | '[' :: rest =>
      match skipSpaces rest with
      | ']' :: rest => some (.array [], rest)
      | _ => (readItems fuel rest).map fun (items, rest) => (.array items, rest)
    | '{' :: rest =>
      match skipSpaces rest with
      | '}' :: rest => some (.object [], rest)
      | _ => (readMembers fuel rest).map fun (members, rest) => (objectOf members, rest)
    | 't' :: rest => takeWord "rue".toList (.bool true) rest
    | 'f' :: rest => takeWord "alse".toList (.bool false) rest
    | 'n' :: rest => takeWord "ull".toList .null rest
    | rest => (Numeral.read rest).map fun (n, rest) => (.number n, rest)

/-- Reads the items of an array up to its bracket. -/
def readItems : Nat → List Char → Option (List Json × List Char)
  | 0, _ => none
  | fuel + 1, cs => do
    let (item, rest) ← readTree fuel cs
    match skipSpaces rest with
    | ',' :: rest =>
      let (items, rest) ← readItems fuel rest
      return (item :: items, rest)
    | ']' :: rest => return ([item], rest)
    | _ => none

/-- Reads the members of an object up to its brace. -/
def readMembers : Nat → List Char → Option (List (Gathered × Json) × List Char)
  | 0, _ => none
  | fuel + 1, cs => do
    let (key, rest) ← readKey cs
    let (value, rest) ← readTree fuel rest
    match skipSpaces rest with
    | ',' :: rest =>
      let (members, rest) ← readMembers fuel rest
      return ((key, value) :: members, rest)
    | '}' :: rest => return ([(key, value)], rest)
    | _ => none

end

/-- Reads a text that holds one tree and blanks around it. -/
def read? (cs : List Char) : Option Json :=
  match readTree (cs.length + 1) cs with
  | some (j, rest) => if (skipSpaces rest).isEmpty then some j else none
  | none => none

/-- Reads a tree from a text. -/
def parse? (text : String) : Option Json := read? text.toList

end Verdict.Json
