import Verdict.Command.Assignment

/-!
# Options

The options of each command and how they are written. An option is two minus signs and its name, and perhaps one
minus sign and a letter. A value stands behind an equals sign, behind the letter, or as the next argument, which
then may not look like an option.
-/

namespace Verdict.Command

inductive Opt where
  | expr
  | tree
  | rules
  | vars
  | var
  | pretty
  | json
  | help
  | version
deriving DecidableEq

namespace Opt

def name : Opt → String
  | expr => "expr"
  | tree => "tree"
  | rules => "rules"
  | vars => "vars"
  | var => "var"
  | pretty => "pretty"
  | json => "json"
  | help => "help"
  | version => "version"

def letter? : Opt → Option Char
  | expr => some 'e'
  | tree => some 't'
  | rules => some 'r'
  | help => some 'h'
  | version => some 'V'
  | vars | var | pretty | json => none

def takesValue : Opt → Bool
  | expr | tree | rules | vars | var => true
  | pretty | json | help | version => false

/-- Whether an option may be given more than once. -/
def repeats (o : Opt) : Bool := o = var

/-- Whether a value may be given for an option. A file has a name, and a variable is an assignment. -/
def accepts (value : String) : Opt → Bool
  | tree | rules | vars => !value.isEmpty
  | var => (Assignment.ofText? value).isSome
  | _ => true

end Opt

/-- Why reading options ends early. -/
inductive Stop where
  | misuse
  | help
  | version
deriving DecidableEq

/-- Options that have been read, with their values, last first. A flag has an empty value. -/
abbrev Options := List (Opt × String)

namespace Options

def has (options : Options) (o : Opt) : Bool := options.any (·.1 = o)

def get? (options : Options) (o : Opt) : Option String := options.lookup o

/-- The values of an option, in their order. -/
def getAll (options : Options) (o : Opt) : List String :=
  (options.reverse.filter (·.1 = o)).map (·.2)

/-- Adds an option. Asking for help or the version ends the reading. -/
def add (options : Options) (o : Opt) (value : String) : Except Stop Options :=
  if o = .help then .error .help
  else if o = .version then .error .version
  else if (options.has o && !o.repeats) || !o.accepts value then .error .misuse
  else .ok ((o, value) :: options)

end Options

/-- Whether an argument is taken for an option, and so not for a value: it begins with a minus sign and is more
than that. -/
def looksLikeOption (arg : List Char) : Bool := arg.head? == some '-' && arg.length > 1

/-- An argument taken apart: the option, and its value if that stands in the same argument. -/
structure Written where
  option : Opt
  value : Option (List Char)

/-- Takes an argument apart that begins with two minus signs. -/
def longOption? (known : List Opt) (cs : List Char) : Option Written := do
  let name := cs.takeWhile (· != '=')
  let o ← known.find? fun o => o.name.toList = name
  match cs.dropWhile (· != '=') with
  | [] => some ⟨o, none⟩
  | _ :: value => if o.takesValue then some ⟨o, some value⟩ else none

/-- Takes an argument apart that begins with one minus sign. Behind the letter of a flag nothing else counts, for
each of them ends the reading. -/
def shortOption? (known : List Opt) : List Char → Option Written
  | [] => none
  | c :: cs => do
    let o ← known.find? fun o => o.letter? = some c
    if !o.takesValue then some ⟨o, none⟩
    else
      match cs with
      | [] => some ⟨o, none⟩
      | '=' :: value => some ⟨o, some value⟩
      | value => some ⟨o, some value⟩

def written? (known : List Opt) (arg : List Char) : Option Written :=
  match arg with
  | '-' :: '-' :: cs => longOption? known cs
  | '-' :: cs => shortOption? known cs
  | _ => none

/-- Reads arguments, all of which have to be options. Two minus signs alone may end them. -/
def readOptions (known : List Opt) (options : Options) : List String → Except Stop Options
  | [] => .ok options
  | arg :: args =>
    if arg = "--" then if args.isEmpty then .ok options else .error .misuse
    else
      match written? known arg.toList with
      | none => .error .misuse
      | some ⟨o, some value⟩ => do readOptions known (← options.add o (String.ofList value)) args
      | some ⟨o, none⟩ =>
        if !o.takesValue then do readOptions known (← options.add o "") args
        else
          match args with
          | [] => .error .misuse
          | value :: args =>
            if looksLikeOption value.toList then .error .misuse
            else do readOptions known (← options.add o value) args

end Verdict.Command
