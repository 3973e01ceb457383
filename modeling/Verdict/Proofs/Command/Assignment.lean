import Verdict.Command.Assignment
import Verdict.Proofs.Token.Spacing

/-!
# What an assignment says

An assignment is a name, an equals sign, and all that follows as the text of a value. Around the name there may be white
space, and then signs in front of it. Every argument with an equals sign has these parts in one way only
(`ofText?_eq_some_iff`), and it is refused where the name is empty (`ofText?_eq_none_iff`).
-/

namespace Verdict.Command

/-- The parts of an assignment, around its first equals sign. -/
structure Parts where
  left : List Char
  signs : List Char
  name : List Char
  right : List Char
  value : List Char

namespace Parts

/-- The name with the signs in front of it. -/
def core (p : Parts) : List Char := p.signs ++ p.name

/-- What stands in front of the equals sign. -/
def front (p : Parts) : List Char := p.left ++ (p.core ++ p.right)

def text (p : Parts) : List Char := p.front ++ '=' :: p.value

/-- All white space on either side is parted from the name, and all signs in front of it. -/
structure IsProper (p : Parts) : Prop where
  left : ∀ c ∈ p.left, Text.isBlank c = true
  right : ∀ c ∈ p.right, Text.isBlank c = true
  first : p.core.head?.any Text.isBlank = false
  last : p.core.getLast?.any Text.isBlank = false
  signs : ∀ c ∈ p.signs, c = '$'
  name : p.name.head? ≠ some '$'
  equals : '=' ∉ p.front

end Parts

/-- An argument gives a variable of that name a value that is written so. -/
def Gives (argument name value : String) : Prop :=
  ∃ p : Parts, p.IsProper ∧ argument.toList = p.text ∧ p.name = name.toList ∧ p.value = value.toList

/-- The value of a text: what it says in JSON, and the text itself where it is none. -/
inductive Denotes (text : String) : Value → Prop
  | data {data : Plain} (h : Plain.parseJson? text = some data) : Denotes text (.ofPlain data)
  | text (h : Plain.parseJson? text = none) : Denotes text (.string text)

variable {argument name value : String} {cs : List Char} {p : Parts} {v : Value} {a : Assignment}

theorem denotes_iff : Denotes value v ↔ v = valueOfText value := by
  rw [valueOfText]
  cases h : Plain.parseJson? value with
  | some data =>
    refine ⟨fun hd => ?_, fun hv => hv ▸ .data h⟩
    cases hd with
    | data h' => cases h.symm.trans h'; rfl
    | text h' => cases h.symm.trans h'
  | none =>
    refine ⟨fun hd => ?_, fun hv => hv ▸ .text h⟩
    cases hd with
    | data h' => cases h.symm.trans h'
    | text => rfl

/-! ## From the parts to the assignment -/

theorem trimBlanks_around {left core right : List Char} (hleft : ∀ c ∈ left, Text.isBlank c = true)
    (hright : ∀ c ∈ right, Text.isBlank c = true) (hfirst : core.head?.any Text.isBlank = false)
    (hlast : core.getLast?.any Text.isBlank = false) : Text.trimBlanks (left ++ (core ++ right)) = core := by
  have hcore : (left ++ (core ++ right)).dropWhile Text.isBlank = (core ++ right).dropWhile Text.isBlank :=
    List.dropWhile_append_of_pos hleft
  rw [Text.trimBlanks, hcore]
  cases core with
  | nil => rw [List.nil_append, List.dropWhile_eq_nil_iff.mpr hright]; rfl
  | cons c core =>
    have hstop : (c :: core ++ right).dropWhile Text.isBlank = c :: core ++ right :=
      List.dropWhile_cons_of_neg (Bool.not_eq_true _ ▸ hfirst)
    have hright' : ∀ d ∈ right.reverse, Text.isBlank d = true := fun d hd => hright d (List.mem_reverse.mp hd)
    rw [hstop, List.reverse_append, dropWhile_run hright' (by rwa [List.head?_reverse]), List.reverse_reverse]

theorem Parts.IsProper.bareName (h : p.IsProper) : bareName p.front = p.name := by
  rw [Command.bareName, Parts.front, trimBlanks_around h.left h.right h.first h.last, Parts.core]
  refine dropWhile_run (fun c hc => decide_eq_true (h.signs c hc)) ?_
  cases hhead : p.name.head? with
  | none => rfl
  | some c => exact decide_eq_false fun heq => h.name (by rw [hhead, heq])

theorem Parts.IsProper.splitAtEquals? (h : p.IsProper) : splitAtEquals? p.text = some (p.front, p.value) := by
  have hrun : ∀ c ∈ p.front, (c != '=') = true := fun c hc => bne_iff_ne.mpr fun heq => h.equals (heq ▸ hc)
  have hrest : ('=' :: p.value).head?.any (· != '=') = false := rfl
  rw [Command.splitAtEquals?, Parts.text, dropWhile_run hrun hrest, takeWhile_run hrun hrest]

/-! ## From a text to its parts -/

theorem exists_run (p : Char → Bool) (cs : List Char) :
    ∃ run rest, cs = run ++ rest ∧ (∀ c ∈ run, p c = true) ∧ rest.head?.any p = false :=
  ⟨cs.takeWhile p, cs.dropWhile p, List.takeWhile_append_dropWhile.symm, fun _ => List.mem_takeWhile_imp,
    Lexeme.any_dropWhile p cs⟩

theorem exists_parts (h : '=' ∈ cs) : ∃ p : Parts, p.IsProper ∧ cs = p.text := by
  obtain ⟨front, value, rfl, hfront⟩ := List.eq_append_cons_of_mem h
  obtain ⟨left, rest, rfl, hleft, hrest⟩ := exists_run Text.isBlank front
  obtain ⟨right, core, hreverse, hright, hcore⟩ := exists_run Text.isBlank rest.reverse
  obtain rfl : rest = core.reverse ++ right.reverse := by
    rw [← List.reverse_append, ← hreverse, List.reverse_reverse]
  obtain ⟨signs, name, hsplit, hsigns, hname⟩ := exists_run (· = '$') core.reverse
  refine ⟨⟨left, signs, name, right.reverse, value⟩, ⟨hleft, fun c hc => hright c (List.mem_reverse.mp hc), ?_, ?_,
    fun c hc => of_decide_eq_true (hsigns c hc), ?_, ?_⟩, ?_⟩
  all_goals simp only [Parts.text, Parts.front, Parts.core, ← hsplit]
  · -- The end of the text is not reached before the name, or there is nothing but white space.
    cases hhead : core.reverse with
    | nil => rfl
    | cons c cs => rwa [hhead] at hrest
  · rwa [List.getLast?_reverse]
  · intro hhead
    rw [hhead] at hname
    exact absurd hname (by decide)
  · exact hfront

/-! ## Reading -/

theorem splitAtEquals?_eq_none (h : '=' ∉ cs) : splitAtEquals? cs = none := by
  have hall : ∀ c ∈ cs, (c != '=') = true := fun c hc => bne_iff_ne.mpr fun heq => h (heq ▸ hc)
  rw [splitAtEquals?, List.dropWhile_eq_nil_iff.mpr hall]

theorem gives_iff : Gives argument name value ↔
    ∃ front, splitAtEquals? argument.toList = some (front, value.toList) ∧ bareName front = name.toList := by
  constructor
  · rintro ⟨p, hp, htext, hname, hvalue⟩
    exact ⟨p.front, by rw [htext, hp.splitAtEquals?, hvalue], by rw [hp.bareName, hname]⟩
  · rintro ⟨front, hsplit, hname⟩
    have hmem : '=' ∈ argument.toList := by
      by_contra hnot
      cases (splitAtEquals?_eq_none hnot).symm.trans hsplit
    obtain ⟨p, hp, htext⟩ := exists_parts hmem
    rw [htext, hp.splitAtEquals?, Option.some.injEq, Prod.mk.injEq] at hsplit
    obtain ⟨rfl, hvalue⟩ := hsplit
    exact ⟨p, hp, htext, by rw [← hname, hp.bareName], hvalue⟩

theorem exists_gives (h : '=' ∈ argument.toList) : ∃ name value, Gives argument name value := by
  obtain ⟨p, hp, htext⟩ := exists_parts h
  exact ⟨String.ofList p.name, String.ofList p.value, p, hp, htext, String.toList_ofList.symm, String.toList_ofList.symm⟩

theorem ofText?_eq (h : Gives argument name value) :
    Assignment.ofText? argument = if name = "" then none else some ⟨name, valueOfText value⟩ := by
  obtain ⟨front, hsplit, hname⟩ := gives_iff.mp h
  rw [Assignment.ofText?, hsplit]
  simp [hname]

theorem Gives.unique {name' value' : String} (h : Gives argument name value) (h' : Gives argument name' value') :
    name = name' ∧ value = value' := by
  obtain ⟨front, hsplit, hname⟩ := gives_iff.mp h
  obtain ⟨front', hsplit', hname'⟩ := gives_iff.mp h'
  rw [hsplit, Option.some.injEq, Prod.mk.injEq] at hsplit'
  obtain ⟨rfl, hvalue⟩ := hsplit'
  exact ⟨String.toList_injective (hname.symm.trans hname'), String.toList_injective hvalue⟩

theorem mem_of_gives (h : Gives argument name value) : '=' ∈ argument.toList := by
  obtain ⟨p, -, htext, -⟩ := h
  rw [htext, Parts.text]
  exact List.mem_append_right _ List.mem_cons_self

theorem ofText?_eq_none_of_not_mem (h : '=' ∉ argument.toList) : Assignment.ofText? argument = none := by
  rw [Assignment.ofText?, splitAtEquals?_eq_none h]
  rfl

theorem ofText?_eq_some_iff : Assignment.ofText? argument = some a ↔
    ∃ value, Gives argument a.name value ∧ a.name ≠ "" ∧ Denotes value a.value := by
  by_cases hmem : '=' ∈ argument.toList
  · obtain ⟨name, value, hgives⟩ := exists_gives hmem
    rw [ofText?_eq hgives]
    constructor
    · intro h
      obtain ⟨hne, rfl⟩ : name ≠ "" ∧ (⟨name, valueOfText value⟩ : Assignment) = a := by
        split at h
        · cases h
        · next hne => exact ⟨hne, Option.some.inj h⟩
      exact ⟨value, hgives, hne, denotes_iff.mpr rfl⟩
    · rintro ⟨value', hgives', hne, hdenotes⟩
      obtain ⟨rfl, rfl⟩ := hgives.unique hgives'
      rw [if_neg hne, ← denotes_iff.mp hdenotes]
  · rw [ofText?_eq_none_of_not_mem hmem]
    exact ⟨nofun, fun ⟨_, hgives, _⟩ => absurd (mem_of_gives hgives) hmem⟩

theorem ofText?_eq_none_iff : Assignment.ofText? argument = none ↔
    '=' ∉ argument.toList ∨ ∃ value, Gives argument "" value := by
  by_cases hmem : '=' ∈ argument.toList
  · obtain ⟨name, value, hgives⟩ := exists_gives hmem
    rw [ofText?_eq hgives, or_iff_right (not_not.mpr hmem)]
    constructor
    · intro h
      by_cases hne : name = ""
      · exact ⟨value, hne ▸ hgives⟩
      · rw [if_neg hne] at h
        cases h
    · rintro ⟨value', hgives'⟩
      rw [if_pos (hgives.unique hgives').1]
  · exact iff_of_true (ofText?_eq_none_of_not_mem hmem) (.inl hmem)

end Verdict.Command
