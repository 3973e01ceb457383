import Verdict.Proofs.Json.Layout

/-!
# Reading trees from their texts

A tree is read from its text in any layout, with whatever ends a number behind it (`Legible.reads`). What is asked of
the tree is that its numbers are such as reading gives and that its strings have texts.
-/

namespace Verdict.Json

open Numeral

/-- A tree that reading can give and that can be taken in whole if it does not nest too deeply. -/
inductive Legible : Json → Prop
  | null : Legible .null
  | bool (b : Bool) : Legible (.bool b)
  | number {n : Numeral} (hn : n.IsProper) (hv : n.value?.isSome = true) : Legible (.number n)
  | string (s : String) : Legible (.string s)
  | array {items : List Json} (h : ∀ j ∈ items, Legible j) : Legible (.array items)
  | object {members : List (String × Json)} (h : ∀ m ∈ members, Legible m.2) : Legible (.object members)

variable {blanks cs rest : List Char} {c : Char} {fuel : Nat}

/-! ## Blanks -/

theorem skipSpaces_append (hb : ∀ c ∈ blanks, isSpace c = true) : skipSpaces (blanks ++ cs) = skipSpaces cs :=
  List.dropWhile_append_of_pos hb

theorem skipSpaces_cons (hc : isSpace c = false) : skipSpaces (c :: cs) = c :: cs := by
  rw [skipSpaces, List.dropWhile_cons_of_neg (by simp [hc])]

theorem readTree_blanks (hb : ∀ c ∈ blanks, isSpace c = true) : readTree fuel (blanks ++ cs) = readTree fuel cs := by
  cases fuel with
  | zero => rfl
  | succ fuel => rw [readTree, readTree, skipSpaces_append hb]

theorem readItems_blanks (hb : ∀ c ∈ blanks, isSpace c = true) : readItems fuel (blanks ++ cs) = readItems fuel cs := by
  cases fuel with
  | zero => rfl
  | succ fuel => rw [readItems, readItems, readTree_blanks hb]

theorem readKey_blanks (hb : ∀ c ∈ blanks, isSpace c = true) : readKey (blanks ++ cs) = readKey cs := by
  rw [readKey, readKey, skipSpaces_append hb]

theorem readMembers_blanks (hb : ∀ c ∈ blanks, isSpace c = true) :
    readMembers fuel (blanks ++ cs) = readMembers fuel cs := by
  cases fuel with
  | zero => rfl
  | succ fuel => rw [readMembers, readMembers, readKey_blanks hb]

theorem endsNumber_of_isSpace (h : isSpace c = true) : endsNumber c = true := by
  simp only [isSpace, Bool.or_eq_true, decide_eq_true_eq] at h
  rcases h with ((rfl | rfl) | rfl) | rfl <;> decide

theorem Numeral.Ends.after_blanks (hb : ∀ c ∈ blanks, isSpace c = true) (hc : endsNumber c = true) :
    Ends (blanks ++ c :: rest) := by
  cases blanks with
  | nil => exact .cons hc
  | cons d ds => exact .cons (endsNumber_of_isSpace (hb d (List.mem_cons_self ..)))

/-! ## First characters -/

/-- A character that the text of a tree may begin with. -/
def opensTree (c : Char) : Bool := !isSpace c && c != ']'

theorem Numeral.IsProper.text_head {n : Numeral} (hn : n.IsProper) :
    ∃ c cs, n.text = c :: cs ∧ (c = '-' ∨ Decimal.isDigit c = true) := by
  rw [text_eq]
  cases n.negative with
  | true => exact ⟨'-', _, rfl, .inl rfl⟩
  | false =>
    obtain ⟨d, ds, hds, hd, -⟩ := hn.whole.isDigits.eq_cons
    rw [hds]
    exact ⟨d, _, rfl, .inr hd⟩

theorem opensTree_of_number (h : c = '-' ∨ Decimal.isDigit c = true) : opensTree c = true := by
  rcases h with rfl | h
  · decide
  · simp only [opensTree, isSpace, Bool.and_eq_true, Bool.not_eq_true', Bool.or_eq_false_iff, decide_eq_false_iff_not,
      bne_iff_ne]
    refine ⟨⟨⟨⟨?_, ?_⟩, ?_⟩, ?_⟩, ?_⟩ <;> rintro rfl <;> exact absurd h (by decide)

theorem Legible.text_head {j : Json} (h : Legible j) (l : Layout) (level : Nat) :
    ∃ c cs, l.text level j = c :: cs ∧ opensTree c = true := by
  cases h with
  | null => exact ⟨'n', _, rfl, by decide⟩
  | bool b =>
    cases b with
    | false => exact ⟨'f', _, rfl, by decide⟩
    | true => exact ⟨'t', _, rfl, by decide⟩
  | number hn =>
    obtain ⟨c, cs, htext, hc⟩ := hn.text_head
    exact ⟨c, cs, htext, opensTree_of_number hc⟩
  | string s => exact ⟨'"', _, rfl, by decide⟩
  | @array items =>
    cases items with
    | nil => exact ⟨'[', _, rfl, by decide⟩
    | cons j js => exact ⟨'[', _, rfl, by decide⟩
  | @object members =>
    cases members with
    | nil => exact ⟨'\x7b', _, rfl, by decide⟩
    | cons m ms => exact ⟨'\x7b', _, rfl, by decide⟩

/-! ## Reading -/

/-- A tree is read from its texts. -/
def Reads (l : Layout) (j : Json) : Prop :=
  ∀ level rest fuel, Ends rest → (l.text level j).length ≤ fuel →
    readTree (fuel + 1) (l.text level j ++ rest) = some (j, rest)

/-- A key as it is gathered from its text. -/
def gathered (key : String) : Gathered := some key.toList.reverse

theorem text?_gathered (key : String) : (gathered key).text? = some key := by
  simp [gathered, Gathered.text?]

theorem objectOf_gathered (members : List (String × Json)) :
    objectOf (members.map fun m => (gathered m.1, m.2)) = .object members := by
  have hkeys : (members.map fun m => (gathered m.1, m.2)).mapM (fun m => m.1.text?.map fun key => (key, m.2)) =
      some members := by
    induction members with
    | nil => rfl
    | cons m ms ih => simp [ih, text?_gathered]
  rw [objectOf, hkeys]

theorem readKey_text (key : String) (cs : List Char) :
    readKey (stringText key ++ ':' :: cs) = some (gathered key, cs) := by
  obtain ⟨ds, htext, hread⟩ := readString_text key (':' :: cs)
  rw [htext, readKey, skipSpaces_cons (by decide)]
  simp only [hread]
  rw [skipSpaces_cons (by decide)]
  rfl

variable {l : Layout} {level : Nat}

theorem ends_items (js : List Json) (rest : List Char) : Ends (l.items level js ++ rest) := by
  cases js with
  | nil =>
    rw [Layout.items, List.append_assoc]
    exact .after_blanks (l.gap_blank level) (by decide)
  | cons j js => exact .cons (by decide)

theorem ends_members (js : List (String × Json)) (rest : List Char) : Ends (l.members level js ++ rest) := by
  cases js with
  | nil =>
    rw [Layout.members, List.append_assoc]
    exact .after_blanks (l.gap_blank level) (by decide)
  | cons j js => exact .cons (by decide)

theorem readItems_text {j : Json} {js : List Json} (h : ∀ k ∈ j :: js, Reads l k)
    (hfuel : (l.text (level + 1) j).length + (l.items level js).length ≤ fuel) :
    readItems (fuel + 1) (l.text (level + 1) j ++ (l.items level js ++ rest)) = some (j :: js, rest) := by
  induction js generalizing j fuel with
  | nil =>
    have hlen : (l.items level []).length = (l.gap level).length + 1 := by
      rw [Layout.items, List.length_append, List.length_singleton]
    obtain ⟨fuel, rfl⟩ : ∃ f, fuel = f + 1 := ⟨fuel - 1, by omega⟩
    have hj := h j (List.mem_cons_self ..) (level + 1) (l.items level [] ++ rest) fuel (ends_items _ _) (by omega)
    rw [readItems, hj, Layout.items, List.append_assoc]
    simp only [Option.bind_eq_bind, Option.bind_some]
    rw [skipSpaces_append (l.gap_blank level), List.singleton_append, skipSpaces_cons (by decide)]
    rfl
  | cons k js ih =>
    rw [List.forall_mem_cons] at h
    have hlen : (l.text (level + 1) k).length + (l.items level js).length < (l.items level (k :: js)).length := by
      rw [Layout.items]
      simp only [List.length_cons, List.length_append]
      omega
    obtain ⟨fuel, rfl⟩ : ∃ f, fuel = f + 1 := ⟨fuel - 1, by omega⟩
    have hj := h.1 (level + 1) (l.items level (k :: js) ++ rest) fuel (ends_items _ _) (by omega)
    have hjs : readItems (fuel + 1) _ = some (k :: js, rest) := ih h.2 (by omega)
    rw [readItems, hj, Layout.items, List.cons_append]
    simp only [Option.bind_eq_bind, Option.bind_some]
    rw [skipSpaces_cons (by decide), List.append_assoc, List.append_assoc]
    simp only
    rw [readItems_blanks (l.gap_blank _), hjs]
    rfl

theorem readMembers_text {key : String} {j : Json} {js : List (String × Json)} (h : ∀ m ∈ (key, j) :: js, Reads l m.2)
    (hfuel : (l.text (level + 1) j).length + (l.members level js).length ≤ fuel) :
    readMembers (fuel + 1)
        (stringText key ++ ':' :: (l.space ++ (l.text (level + 1) j ++ (l.members level js ++ rest)))) =
      some (((key, j) :: js).map fun m => (gathered m.1, m.2), rest) := by
  induction js generalizing key j fuel with
  | nil =>
    have hlen : (l.members level []).length = (l.gap level).length + 1 := by
      rw [Layout.members, List.length_append, List.length_singleton]
    obtain ⟨fuel, rfl⟩ : ∃ f, fuel = f + 1 := ⟨fuel - 1, by omega⟩
    have hreads : Reads l j := h _ (List.mem_cons_self ..)
    have hj := hreads (level + 1) (l.members level [] ++ rest) fuel (ends_members _ _) (by omega)
    rw [readMembers, readKey_text]
    simp only [Option.bind_eq_bind, Option.bind_some]
    rw [readTree_blanks l.space_blank, hj, Layout.members, List.append_assoc]
    simp only [Option.bind_some]
    rw [skipSpaces_append (l.gap_blank level), List.singleton_append, skipSpaces_cons (by decide)]
    rfl
  | cons m js ih =>
    obtain ⟨key', k⟩ := m
    rw [List.forall_mem_cons] at h
    have hlen : (l.text (level + 1) k).length + (l.members level js).length < (l.members level ((key', k) :: js)).length := by
      rw [Layout.members]
      simp only [List.length_cons, List.length_append]
      omega
    obtain ⟨fuel, rfl⟩ : ∃ f, fuel = f + 1 := ⟨fuel - 1, by omega⟩
    have hreads : Reads l j := h.1
    have hj := hreads (level + 1) (l.members level ((key', k) :: js) ++ rest) fuel (ends_members _ _) (by omega)
    have hjs : readMembers (fuel + 1) _ = some (_, rest) := ih h.2 (by omega)
    rw [readMembers, readKey_text]
    simp only [Option.bind_eq_bind, Option.bind_some]
    rw [readTree_blanks l.space_blank, hj, Layout.members, List.cons_append]
    simp only [Option.bind_some]
    rw [skipSpaces_cons (by decide)]
    simp only [List.append_assoc, List.cons_append]
    rw [readMembers_blanks (l.gap_blank _), hjs]
    rfl

theorem readTree_number (h : c = '-' ∨ Decimal.isDigit c = true) :
    readTree (fuel + 1) (c :: cs) = (Numeral.read (c :: cs)).map fun (n, rest) => (.number n, rest) := by
  have hspace : isSpace c = false := by
    have hopens := opensTree_of_number h
    simp only [opensTree, Bool.and_eq_true, Bool.not_eq_true'] at hopens
    exact hopens.1
  rw [readTree, skipSpaces_cons hspace]
  split
  case h_7 => rfl
  all_goals
    next heq =>
      cases heq
      exact absurd h (by decide)

/-- **A tree is read from its text** in any layout. -/
theorem Legible.reads (l : Layout) {j : Json} (h : Legible j) : Reads l j := by
  induction h with
  | null => exact fun _ _ _ _ _ => rfl
  | bool b => cases b <;> exact fun _ _ _ _ _ => rfl
  | number hn _ =>
    intro level rest fuel hrest _
    obtain ⟨c, cs, htext, hc⟩ := hn.text_head
    have hread := hn.read_text hrest
    rw [htext, List.cons_append] at hread
    rw [Layout.text, htext, List.cons_append, readTree_number hc, hread]
    rfl
  | string s =>
    intro level rest fuel _ _
    obtain ⟨cs, htext, hread⟩ := readString_text s rest
    rw [Layout.text, htext, readTree, skipSpaces_cons (by decide)]
    simp [hread, Gathered.string, Gathered.text?]
  | @array items h ih =>
    intro level rest fuel _ hfuel
    cases items with
    | nil => rfl
    | cons j js =>
      obtain ⟨c, cs, htext, hc⟩ := (h j (List.mem_cons_self ..)).text_head l (level + 1)
      simp only [opensTree, Bool.and_eq_true, Bool.not_eq_true', bne_iff_ne] at hc
      rw [Layout.text] at hfuel
      simp only [List.length_cons, List.length_append] at hfuel
      obtain ⟨fuel, rfl⟩ : ∃ f, fuel = f + 1 := ⟨fuel - 1, by omega⟩
      have hlen : (l.text (level + 1) j).length + (l.items level js).length ≤ fuel := by omega
      have hitems : readItems (fuel + 1) _ = some (j :: js, rest) := readItems_text ih hlen
      rw [Layout.text, readTree, List.cons_append, skipSpaces_cons (by decide)]
      simp only [List.append_assoc]
      rw [skipSpaces_append (l.gap_blank _), readItems_blanks (l.gap_blank _), hitems, htext, List.cons_append,
        skipSpaces_cons hc.1]
      -- the text of the first item is not taken for the end of the list
      split
      · next heq => exact absurd (List.cons.inj heq).1 hc.2
      · rfl
  | @object members h ih =>
    intro level rest fuel _ hfuel
    cases members with
    | nil => rfl
    | cons m js =>
      obtain ⟨key, j⟩ := m
      rw [Layout.text] at hfuel
      simp only [List.length_cons, List.length_append] at hfuel
      obtain ⟨fuel, rfl⟩ : ∃ f, fuel = f + 1 := ⟨fuel - 1, by omega⟩
      have hlen : (l.text (level + 1) j).length + (l.members level js).length ≤ fuel := by omega
      have hmembers : readMembers (fuel + 1) _ = some (_, rest) := readMembers_text ih hlen
      rw [Layout.text, readTree, List.cons_append, skipSpaces_cons (by decide)]
      simp only [List.append_assoc, List.cons_append]
      rw [skipSpaces_append (l.gap_blank _), readMembers_blanks (l.gap_blank _), hmembers, stringText, List.cons_append,
        List.cons_append, skipSpaces_cons (by decide)]
      rw [Option.map_some, objectOf_gathered]
      rfl

theorem Legible.parse?_text (l : Layout) {j : Json} (h : Legible j) : parse? (String.ofList (l.text 0 j)) = some j := by
  have hread := h.reads l 0 [] (l.text 0 j).length .nil (le_refl _)
  rw [List.append_nil] at hread
  rw [parse?, read?, String.toList_ofList, hread]
  rfl

/-- The texts that a tree is written as: without blanks, and on lines. -/
def texts (j : Json) : List String := [j.compact, j.pretty]

theorem Legible.parse?_texts {j : Json} (h : Legible j) : ∀ text ∈ j.texts, parse? text = some j := by
  have hcompact := h.parse?_text .tight
  have hpretty := h.parse?_text .lines
  rw [← Layout.write_eq] at hcompact
  rw [← Layout.writePretty_eq] at hpretty
  exact List.forall_mem_cons.mpr ⟨hcompact, List.forall_mem_singleton.mpr hpretty⟩

end Verdict.Json
