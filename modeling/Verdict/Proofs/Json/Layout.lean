import Verdict.Proofs.Json.Numerals
import Verdict.Proofs.Json.Strings

/-!
# Trees and their texts

A text of a tree may have blanks between its tokens in many ways. A layout fixes one of them; the texts with and
without lines are two layouts (`write_eq`, `writePretty_eq`). A tree is read from its text in any layout
(`Legible.reads`), provided that its numbers are such as reading gives and its strings have texts.
-/

namespace Verdict.Json

/-- The blanks of a text: those in front of the items of a level and of its closing bracket, and those after a
colon. -/
structure Layout where
  gap : Nat → List Char
  space : List Char
  gap_blank : ∀ level, ∀ c ∈ gap level, isSpace c = true
  space_blank : ∀ c ∈ space, isSpace c = true

namespace Layout

def tight : Layout where
  gap _ := []
  space := []
  gap_blank _ _ h := nomatch h
  space_blank _ h := nomatch h

theorem isSpace_newline (level : Nat) : ∀ c ∈ newline level, isSpace c = true := by
  intro c hc
  rcases List.mem_cons.mp hc with rfl | h
  · decide
  · rw [List.eq_of_mem_replicate h]
    decide

def lines : Layout where
  gap := newline
  space := [' ']
  gap_blank := isSpace_newline
  space_blank := List.all_eq_true.mp rfl

mutual

def text (l : Layout) (level : Nat) : Json → List Char
  | .null => "null".toList
  | .bool b => boolText b
  | .number n => n.text
  | .string s => stringText s
  | .unpaired => unpairedText
  | .array [] => ['[', ']']
  | .array (j :: js) => '[' :: (l.gap (level + 1) ++ (l.text (level + 1) j ++ l.items level js))
  | .object [] => ['{', '}']
  | .object ((key, j) :: js) =>
    '{' :: (l.gap (level + 1) ++ (stringText key ++ ':' :: (l.space ++ (l.text (level + 1) j ++ l.members level js))))
termination_by structural j => j

/-- The items after the first, with the bracket at the end. -/
def items (l : Layout) (level : Nat) : List Json → List Char
  | [] => l.gap level ++ [']']
  | j :: js => ',' :: (l.gap (level + 1) ++ (l.text (level + 1) j ++ l.items level js))
termination_by structural js => js

/-- The members after the first, with the brace at the end. -/
def members (l : Layout) (level : Nat) : List (String × Json) → List Char
  | [] => l.gap level ++ ['}']
  | (key, j) :: js =>
    ',' :: (l.gap (level + 1) ++ (stringText key ++ ':' :: (l.space ++ (l.text (level + 1) j ++ l.members level js))))
termination_by structural js => js

end

mutual

theorem write_eq (level : Nat) : ∀ j : Json, write j = tight.text level j
  | .null | .bool _ | .number _ | .string _ | .unpaired | .array [] | .object [] => rfl
  | .array (j :: js) => by
    rw [write, text, write_eq (level + 1) j, writeItems_eq level js]
    rfl
  | .object ((key, j) :: js) => by
    rw [write, text, write_eq (level + 1) j, writeMembers_eq level js]
    simp [tight]
termination_by structural j => j

theorem writeItems_eq (level : Nat) : ∀ js : List Json, writeItems js = tight.items level js
  | [] => rfl
  | j :: js => by
    rw [writeItems, items, write_eq (level + 1) j, writeItems_eq level js]
    rfl
termination_by structural js => js

theorem writeMembers_eq (level : Nat) : ∀ js : List (String × Json), writeMembers js = tight.members level js
  | [] => rfl
  | (key, j) :: js => by
    rw [writeMembers, members, write_eq (level + 1) j, writeMembers_eq level js]
    simp [tight]
termination_by structural js => js

end

mutual

theorem writePretty_eq (level : Nat) : ∀ j : Json, writePretty level j = lines.text level j
  | .null | .bool _ | .number _ | .string _ | .unpaired | .array [] | .object [] => rfl
  | .array (j :: js) => by
    rw [writePretty, text, writePretty_eq (level + 1) j, prettyItems_eq level js]
    simp [lines]
  | .object ((key, j) :: js) => by
    rw [writePretty, text, writePretty_eq (level + 1) j, prettyMembers_eq level js]
    simp [lines]
termination_by structural j => j

theorem prettyItems_eq (level : Nat) : ∀ js : List Json, prettyItems level js = lines.items level js
  | [] => rfl
  | j :: js => by
    rw [prettyItems, items, writePretty_eq (level + 1) j, prettyItems_eq level js]
    simp [lines]
termination_by structural js => js

theorem prettyMembers_eq (level : Nat) : ∀ js : List (String × Json), prettyMembers level js = lines.members level js
  | [] => rfl
  | (key, j) :: js => by
    rw [prettyMembers, members, writePretty_eq (level + 1) j, prettyMembers_eq level js]
    simp [lines]
termination_by structural js => js

end

end Layout

end Verdict.Json
