import Verdict.Text.Property
import Verdict.Text.Blank

/-!
# Settings

The environment variables that a file of settings adds to those that are set. A line is `NAME=value`, perhaps with
`export` in front and a comment behind. Values may be quoted, and outside of single quotes `$NAME` stands for what
is set so far. Reading stops at the first line that is malformed; what stands before it counts.
-/

namespace Verdict.Command

/-- A part of a value: a character, or the value of a variable. -/
inductive Piece where
  | char (c : Char)
  | variable (name : List Char)

/-- How the next character of a value is taken. -/
inductive ValueMode where
  | text
  | escaped
  | strong
  | ended
  | name (done : List Char)
  | bracedName (done : List Char)

/-- What has been read of a value: its pieces, last first, and whether double quotes are open. -/
structure ValueReading where
  pieces : List Piece
  mode : ValueMode
  isQuoted : Bool

namespace ValueReading

def start : ValueReading := ⟨[], .text, false⟩

def push (v : ValueReading) (c : Char) : ValueReading := ⟨.char c :: v.pieces, .text, v.isQuoted⟩

def turn (v : ValueReading) (mode : ValueMode) : ValueReading := { v with mode }

/-- Ends the name of a variable, whose letters are given last first. -/
def reference (v : ValueReading) (name : List Char) : ValueReading :=
  ⟨.variable name.reverse :: v.pieces, .text, v.isQuoted⟩

def isNameChar (c : Char) : Bool :=
  Text.Property.alphabetic.contains c || Text.Category.number.contains c

/-- Takes a character outside of names, escapes and single quotes. -/
def plainStep (v : ValueReading) (c : Char) : ValueReading :=
  if c = '$' then v.turn (.name [])
  else if c = '\\' then v.turn .escaped
  else if c = '"' then { v with isQuoted := !v.isQuoted }
  else if v.isQuoted then v.push c
  else if c = '\'' then v.turn .strong
  else if c = ' ' || c = '\t' then v.turn .ended
  else v.push c

/-- Takes the characters of a value to its end. -/
def run (v : ValueReading) : List Char → Option ValueReading
  | [] => some v
  | c :: cs =>
    match v.mode with
    | .ended => if c = ' ' || c = '\t' then run v cs else if c = '#' then some v else none
    | .escaped =>
      if ['\\', '\'', '"', '$', ' '].contains c then run (v.push c) cs
      else if c = 'n' then run (v.push '\n') cs
      else none
    | .strong =>
      if c = '\'' then run (v.turn .text) cs else run ((v.push c).turn .strong) cs
    | .name done =>
      if isNameChar c then run (v.turn (.name (c :: done))) cs
      else if c = '{' && done.isEmpty then run (v.turn (.bracedName [])) cs
      else
        let v := v.reference done
        run (if c = '$' then v.turn (.name []) else v.push c) cs
    | .bracedName done =>
      if c = '}' then run (v.reference done) cs else run (v.turn (.bracedName (c :: done))) cs
    | .text => run (v.plainStep c) cs

/-- The pieces of a value that is complete: no quotes and no braces are open. -/
def finish? (v : ValueReading) : Option (List Piece) :=
  if v.isQuoted then none
  else
    match v.mode with
    | .strong | .bracedName _ => none
    | .name done => some (v.reference done).pieces.reverse
    | _ => some v.pieces.reverse

end ValueReading

/-- Reads the name of a setting. -/
def settingName? (cs : List Char) : Option (List Char × List Char) :=
  let continues := fun (c : Char) => c.isAlphanum || c = '_' || c = '.'
  match cs with
  | c :: _ => if c.isAlpha || c = '_' then some (cs.takeWhile continues, cs.dropWhile continues) else none
  | [] => none

/-- Reads an equals sign. -/
def equalsSign? : List Char → Option (List Char)
  | '=' :: cs => some cs
  | _ => none

/-- Reads a name and the equals sign after it. A name `export` without a sign stands in front of another. -/
def settingStart? (cs : List Char) : Option (List Char × List Char) := do
  let (name, rest) ← settingName? cs
  let rest := rest.dropWhile Text.isBlank
  match equalsSign? rest with
  | some rest => some (name, rest)
  | none =>
    if name = "export".toList then
      let (name, rest) ← settingName? rest
      some (name, ← equalsSign? (rest.dropWhile Text.isBlank))
    else none

/-- A line of a file of settings: nothing, a setting, or malformed. -/
def setting? (line : List Char) : Option (Option (String × List Piece)) :=
  match Text.trimBlanks line with
  | [] => some none
  | '#' :: _ => some none
  | cs => do
    let (name, rest) ← settingStart? cs
    let pieces ← match rest.dropWhile Text.isBlank with
      | [] => some []
      | '#' :: _ => some []
      | value => do (← ValueReading.start.run value).finish?
    some (some (String.ofList name, pieces))

/-- The lines of a text, without their ends. -/
def linesOf (cs : List Char) : List (List Char) :=
  let (line, lines) := cs.foldr (fun c (line, lines) =>
    if c = '\n' then ([], line :: lines) else (c :: line, lines)) ([], [])
  line :: lines

/-- The settings of some lines, up to the first that is malformed. -/
def settingsOf : List (List Char) → List (String × List Piece)
  | [] => []
  | line :: lines =>
    match setting? line with
    | none => []
    | some none => settingsOf lines
    | some (some setting) => setting :: settingsOf lines

/-- Environment variables by name. -/
abbrev Settings := List (String × String)

namespace Settings

/-- The value of pieces, where a variable that is not set is empty. -/
def expand (settings : Settings) (pieces : List Piece) : String :=
  String.join (pieces.map fun
    | .char c => c.toString
    | .variable name => (settings.lookup (String.ofList name)).getD "")

/-- Adds settings in their order. What is set already stays. -/
def addAll (settings : Settings) : List (String × List Piece) → Settings
  | [] => settings
  | (name, pieces) :: rest =>
    addAll (if (settings.lookup name).isSome then settings else (name, settings.expand pieces) :: settings) rest

/-- The settings with those of a file added, if there is one. -/
def withFile (settings : Settings) (content : Option String) : Settings :=
  match content with
  | none => settings
  | some source => settings.addAll (settingsOf (linesOf source.toList))

/-- The variables that a file of settings asks for or may set. -/
def mentioned (source : String) : List String :=
  (settingsOf (linesOf source.toList)).flatMap fun (name, pieces) =>
    name :: pieces.filterMap fun
      | .char _ => none
      | .variable name => some (String.ofList name)

end Settings

end Verdict.Command
