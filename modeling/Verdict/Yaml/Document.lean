import Verdict.Yaml.Node

/-!
# Documents of YAML

A text holds one document at most. It may begin with directives and a mark, and end with a mark.
-/

namespace Verdict.Yaml

/-- A document: its node, the nodes of the anchors, and how many scalars, aliases and ends of collections it has.
An empty text is a document without a node. -/
structure Document where
  root : Option Node
  nodes : List (Nat × Node)
  size : Nat

/-- What tag handles stand for when no directive says otherwise. -/
def commonHandles : List (List Char × List Char) :=
  [(['!'], ['!']), (['!', '!'], "tag:yaml.org,2002:".toList)]

/-- The directives in front of a document: whether there was one for the version, and the handles. -/
structure Directives where
  hasVersion : Bool
  handles : List (List Char × List Char)

/-- Reads directives. Neither the version nor a handle may come twice, and the version has to be 1.1 or 1.2. -/
def Directives.read (done : Directives) : List Token → Option (Directives × List Token)
  | .version major minor :: tokens =>
    if done.hasVersion || major != 1 || !(minor = 1 || minor = 2) then none
    else read { done with hasVersion := true } tokens
  | .tagHandle handle start :: tokens =>
    if done.handles.any (·.1 = handle) then none
    else read { done with handles := (handle, start) :: done.handles } tokens
  | tokens => some (done, tokens)

/-- Whether a document that begins with a mark has no node of its own before what comes next. -/
def endsEmpty : List Token → Bool
  | [] => true
  | token :: _ =>
    match token with
    | .version _ _ | .tagHandle _ _ | .documentStart | .documentEnd => true
    | _ => false

namespace Document

def ofAssembly (root : Node) (s : Assembly) : Document := ⟨some root, s.nodes, s.size⟩

/-- Puts tokens together into the one document that they are. -/
def ofTokens? (tokens : List Token) : Option Document := do
  let (directives, rest) ← Directives.read ⟨false, []⟩ tokens
  let begin := fun rest => Assembly.mk rest (directives.handles ++ commonHandles) [] [] 0
  let fuel := 2 * tokens.length + 2
  let (root, s) ←
    match rest with
    | .documentStart :: rest =>
      if endsEmpty rest then Assembler.nothing.run (begin rest)
      else (Assembler.node true false fuel).run (begin rest)
    | [] => if tokens.isEmpty then return ⟨none, [], 0⟩ else none
    | rest => if rest.length < tokens.length then none else (Assembler.node true false fuel).run (begin rest)
  match s.tokens.dropWhile (· = .documentEnd) with
  | [] => some (ofAssembly root s)
  | _ => none

def ofText? (cs : List Char) : Option Document := do ofTokens? (← tokens? cs)

end Document

end Verdict.Yaml
