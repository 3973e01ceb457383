import Verdict.Loading
import Verdict.Text.Blank

/-!
# Variables on the command line

A variable is given as `name=value`. What is given this way counts over what a file of variables says, and of two
assignments to one name the later counts.
-/

namespace Verdict.Command

/-- A variable and its value. -/
structure Assignment where
  name : String
  value : Value

/-- The two parts of a text around its first equals sign. -/
def splitAtEquals? (cs : List Char) : Option (List Char × List Char) :=
  match cs.dropWhile (· != '=') with
  | _ :: value => some (cs.takeWhile (· != '='), value)
  | [] => none

/-- A name without white space around it and then without `$` in front. -/
def bareName (cs : List Char) : List Char := (Text.trimBlanks cs).dropWhile (· = '$')

/-- The value of a text: what it says in JSON, or else the text itself. -/
def valueOfText (source : String) : Value :=
  match Plain.parseJson? source with
  | some data => .ofPlain data
  | none => .string source

namespace Assignment

/-- Reads an assignment, which has to have an equals sign and a name. -/
def ofText? (source : String) : Option Assignment := do
  let (name, value) ← splitAtEquals? source.toList
  let name := bareName name
  if name.isEmpty then none
  else some ⟨String.ofList name, valueOfText (String.ofList value)⟩

end Assignment

/-- The environment of a command: the functions that every command has, the variables of a file, and those given
one by one, in that order. -/
def environment (loaded : Environment) (assignments : List Assignment) : Environment :=
  assignments.foldl (fun env a => env.set a.name a.value) (Environment.empty.withBuiltins.merge loaded)

end Verdict.Command
