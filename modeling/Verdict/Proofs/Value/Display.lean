import Verdict.Proofs.Number.Digits
import Verdict.Proofs.Text.Quoted
import Verdict.Proofs.Value.Equality
import Verdict.Value.Display

/-!
# What the text of an array or a set says

The text of a value without numbers of floating point, maps and structs can be cut back into its parts in one way only
(`cut_of_isListing`): an item ends before the comma or the bracket behind it, and a string at its quote. So two arrays
or sets that are displayed alike have the same brackets and strings, and they are equal (`display_unambiguous`).
-/

namespace Verdict.Value

/-- A null, a boolean, an integer or a string, or an array or a set of such values, at any depth. -/
inductive IsListing : Value → Prop
  | null : IsListing .null
  | bool (b : Bool) : IsListing (.bool b)
  | int (n : Integer) : IsListing (.int n)
  | string (s : String) : IsListing (.string s)
  | array {items : List Value} (h : ∀ v ∈ items, IsListing v) : IsListing (.array items)
  | set {items : List Value} (h : ∀ v ∈ items, IsListing v) : IsListing (.set items)

/-- The brackets and the strings of a value, and the texts of its other parts. -/
inductive Outline where
  | word (text : List Char)
  | string (s : String)
  | array (items : List Outline)
  | set (items : List Outline)

mutual

def outline : Value → Outline
  | .string s => .string s
  | .array items => .array (outlines items)
  | .set items => .set (outlines items)
  | v => .word v.nestedText
termination_by structural v => v

def outlines : List Value → List Outline
  | [] => []
  | v :: vs => outline v :: outlines vs
termination_by structural vs => vs

end

variable {a b v : Value} {xs ys : List Value} {rest rest' : List Char} {c close : Char}

/-! ## First characters -/

/-- What can stand at a place in a text. -/
inductive Part where
  | word | string | array | set
deriving DecidableEq

/-- What a character begins, unless it can only stand behind an item. -/
def partOf? (c : Char) : Option Part :=
  match c with
  | '"' => some .string
  | '[' => some .array
  | '{' => some .set
  | ',' | ']' | '}' => none
  | _ => some .word

def part : Value → Part
  | .string _ => .string
  | .array _ => .array
  | .set _ => .set
  | _ => .word

/-- What follows does not go on with a word in front of it. -/
def Ends (rest : List Char) : Prop := rest.head?.any (fun c => partOf? c = some .word) = false

theorem partOf?_digit (h : Decimal.isDigit c = true) : partOf? c = some .word := by
  unfold partOf?
  split
  all_goals first | rfl | exact absurd h (by decide)

theorem partOf?_displayInt {n : Int} (h : c ∈ Decimal.displayInt n) : partOf? c = some .word := by
  rcases Decimal.mem_displayInt h with rfl | hd
  · rfl
  · exact partOf?_digit hd

theorem partOf?_word (h : v.IsListing) (hv : v.part = .word) : ∀ c ∈ v.nestedText, partOf? c = some .word := by
  cases h with
  | null => exact List.forall_iff_forall_mem.mp ⟨rfl, rfl, rfl, rfl⟩
  | bool b =>
    cases b with
    | false => exact List.forall_iff_forall_mem.mp ⟨rfl, rfl, rfl, rfl, rfl⟩
    | true => exact List.forall_iff_forall_mem.mp ⟨rfl, rfl, rfl, rfl⟩
  | int n => exact fun c hc => partOf?_displayInt hc
  | string _ | array _ | set _ => cases hv

theorem nestedText_eq_cons (h : v.IsListing) : ∃ c cs, v.nestedText = c :: cs ∧ partOf? c = some v.part := by
  cases h with
  | null => exact ⟨_, _, rfl, rfl⟩
  | bool b => cases b <;> exact ⟨_, _, rfl, rfl⟩
  | int n =>
    obtain ⟨c, cs, htext⟩ := List.exists_cons_of_ne_nil (Decimal.displayInt_ne_nil n.val)
    exact ⟨c, cs, htext, partOf?_displayInt (htext ▸ List.mem_cons_self)⟩
  | string s => exact ⟨_, _, rfl, rfl⟩
  | @array items _ | @set items _ => cases items <;> exact ⟨_, _, rfl, rfl⟩

theorem part_eq (ha : a.IsListing) (hb : b.IsListing) (h : a.nestedText ++ rest = b.nestedText ++ rest') :
    a.part = b.part := by
  obtain ⟨c, cs, hca, hc⟩ := nestedText_eq_cons ha
  obtain ⟨d, ds, hdb, hd⟩ := nestedText_eq_cons hb
  rw [hca, hdb, List.cons_append, List.cons_append] at h
  obtain rfl := (List.cons.inj h).1
  exact Option.some.inj (hc.symm.trans hd)

/-! ## Cutting -/

/-- Where the text of the value is followed by something, both can be told from the whole. -/
def Cut (a : Value) : Prop := ∀ (b : Value) (rest rest' : List Char), b.IsListing → Ends rest → Ends rest' →
  a.nestedText ++ rest = b.nestedText ++ rest' → a.outline = b.outline ∧ rest = rest'

theorem outline_word (h : v.part = .word) : v.outline = .word v.nestedText := by
  cases v with
  | string _ | array _ | set _ => cases h
  | _ => rfl

theorem cut_word (ha : a.IsListing) (hword : a.part = .word) : Cut a := by
  intro b rest rest' hb hrest hrest' h
  have hword' : b.part = .word := (part_eq ha hb h).symm.trans hword
  -- both words reach up to the first character that no word has
  have hchars : ∀ c ∈ a.nestedText, decide (partOf? c = some .word) = true := by simpa using partOf?_word ha hword
  have hchars' : ∀ c ∈ b.nestedText, decide (partOf? c = some .word) = true := by simpa using partOf?_word hb hword'
  have htext := congrArg (List.takeWhile fun c => partOf? c = some .word) h
  have hbehind := congrArg (List.dropWhile fun c => partOf? c = some .word) h
  rw [takeWhile_run hchars hrest, takeWhile_run hchars' hrest'] at htext
  rw [dropWhile_run hchars hrest, dropWhile_run hchars' hrest'] at hbehind
  rw [outline_word hword, outline_word hword', htext]
  exact ⟨rfl, hbehind⟩

/-- The items of an array or a set, as they stand between the brackets. -/
def inside : List Value → List Char
  | [] => []
  | x :: xs => x.nestedText ++ itemsText xs

theorem nestedText_array (xs : List Value) : nestedText (.array xs) = '[' :: (inside xs ++ [']']) := by
  cases xs <;> rfl

theorem nestedText_set (xs : List Value) : nestedText (.set xs) = '{' :: (inside xs ++ ['}']) := by
  cases xs <;> rfl

theorem ends_itemsText (hclose : partOf? close = none) (xs : List Value) : Ends (itemsText xs ++ close :: rest) := by
  cases xs with
  | nil => simp [Ends, itemsText, hclose]
  | cons x xs => rfl

theorem itemsText_append_inj (hclose : partOf? close = none) (hcomma : close ≠ ',') (hxs : ∀ x ∈ xs, Cut x)
    (hys : ∀ y ∈ ys, y.IsListing) (h : itemsText xs ++ close :: rest = itemsText ys ++ close :: rest') :
    outlines xs = outlines ys ∧ rest = rest' := by
  induction xs generalizing ys with
  | nil =>
    cases ys with
    | nil => exact ⟨rfl, (List.cons.inj h).2⟩
    | cons y ys => exact absurd (List.cons.inj h).1 hcomma
  | cons x xs ih =>
    cases ys with
    | nil => exact absurd (List.cons.inj h).1.symm hcomma
    | cons y ys =>
      rw [List.forall_mem_cons] at hxs hys
      have hitem : x.nestedText ++ (itemsText xs ++ close :: rest) = y.nestedText ++ (itemsText ys ++ close :: rest') := by
        simpa [itemsText] using h
      obtain ⟨hfirst, hothers⟩ := hxs.1 y _ _ hys.1 (ends_itemsText hclose xs) (ends_itemsText hclose ys) hitem
      obtain ⟨hitems, hrest⟩ := ih hxs.2 hys.2 hothers
      exact ⟨by rw [outlines, outlines, hfirst, hitems], hrest⟩

/-- No value begins with the character behind the last one. -/
theorem nestedText_append_ne (hclose : partOf? close = none) (hv : v.IsListing) : v.nestedText ++ rest ≠ close :: rest' := by
  obtain ⟨c, cs, htext, hc⟩ := nestedText_eq_cons hv
  rw [htext, List.cons_append]
  intro h
  obtain rfl := (List.cons.inj h).1
  exact absurd (hclose.symm.trans hc) nofun

theorem inside_append_inj (hclose : partOf? close = none) (hcomma : close ≠ ',') (hxs : ∀ x ∈ xs, x.IsListing)
    (hys : ∀ y ∈ ys, y.IsListing) (hcut : ∀ x ∈ xs, Cut x)
    (h : inside xs ++ [close] ++ rest = inside ys ++ [close] ++ rest') : outlines xs = outlines ys ∧ rest = rest' := by
  rw [List.append_assoc, List.append_assoc] at h
  cases xs with
  | nil =>
    cases ys with
    | nil => exact ⟨rfl, (List.cons.inj h).2⟩
    | cons y ys =>
      rw [inside, inside, List.append_assoc] at h
      exact absurd h.symm (nestedText_append_ne hclose (List.forall_mem_cons.mp hys).1)
  | cons x xs =>
    cases ys with
    | nil =>
      rw [inside, inside, List.append_assoc] at h
      exact absurd h (nestedText_append_ne hclose (List.forall_mem_cons.mp hxs).1)
    | cons y ys =>
      rw [List.forall_mem_cons] at hcut hys
      rw [inside, inside, List.append_assoc, List.append_assoc] at h
      obtain ⟨hfirst, hothers⟩ := hcut.1 y _ _ hys.1 (ends_itemsText hclose xs) (ends_itemsText hclose ys) h
      obtain ⟨hitems, hrest⟩ := itemsText_append_inj hclose hcomma hcut.2 hys.2 hothers
      exact ⟨by rw [outlines, outlines, hfirst, hitems], hrest⟩

/-- The text of a value can be cut off the front of a longer text in one way only. -/
theorem cut_of_isListing (ha : a.IsListing) : Cut a := by
  induction ha with
  | null => exact cut_word .null rfl
  | bool x => exact cut_word (.bool x) rfl
  | int n => exact cut_word (.int n) rfl
  | string s =>
    intro b rest rest' hb _ _ h
    have hpart := part_eq (.string s) hb h
    cases hb with
    | string t =>
      obtain ⟨htext, hrest⟩ := Text.quote_append_inj h
      rw [String.toList_inj.mp htext]
      exact ⟨rfl, hrest⟩
    | _ => cases hpart
  | @array xs hxs ih =>
    intro b rest rest' hb _ _ h
    have hpart := part_eq (.array hxs) hb h
    cases hb with
    | @array ys hys =>
      rw [nestedText_array, nestedText_array] at h
      obtain ⟨hitems, hrest⟩ := inside_append_inj rfl (by decide) hxs hys ih (List.cons.inj h).2
      exact ⟨congrArg Outline.array hitems, hrest⟩
    | _ => cases hpart
  | @set xs hxs ih =>
    intro b rest rest' hb _ _ h
    have hpart := part_eq (.set hxs) hb h
    cases hb with
    | @set ys hys =>
      rw [nestedText_set, nestedText_set] at h
      obtain ⟨hitems, hrest⟩ := inside_append_inj rfl (by decide) hxs hys ih (List.cons.inj h).2
      exact ⟨congrArg Outline.set hitems, hrest⟩
    | _ => cases hpart

/-! ## Values with one outline -/

theorem displayInt_ne {cs : List Char} (n : Int) (hsign : c ≠ '-') (hdigit : Decimal.isDigit c = false) :
    Decimal.displayInt n ≠ c :: cs := by
  intro h
  rcases Decimal.mem_displayInt (h ▸ List.mem_cons_self) with hc | hc
  · exact hsign hc
  · exact absurd (hdigit.symm.trans hc) nofun

theorem agree_of_outline_eq (ha : a.IsListing) (hb : b.IsListing) (hscalar : a.IsScalar) (h : a.outline = b.outline) :
    Agree a b := by
  cases ha with
  | null =>
    cases hb with
    | null => exact .null
    | bool y => cases y <;> exact absurd (Outline.word.inj h) (by decide)
    | int n => exact absurd (Outline.word.inj h).symm (displayInt_ne n.val (by decide) rfl)
    | _ => cases h
  | bool x =>
    cases hb with
    | null => cases x <;> exact absurd (Outline.word.inj h) (by decide)
    | bool y =>
      obtain rfl : x = y := by
        cases x <;> cases y
        · rfl
        · exact absurd (Outline.word.inj h) (by decide)
        · exact absurd (Outline.word.inj h) (by decide)
        · rfl
      exact .bool x
    | int n => cases x <;> exact absurd (Outline.word.inj h).symm (displayInt_ne n.val (by decide) rfl)
    | _ => cases h
  | int m =>
    cases hb with
    | null => exact absurd (Outline.word.inj h) (displayInt_ne m.val (by decide) rfl)
    | bool y => cases y <;> exact absurd (Outline.word.inj h) (displayInt_ne m.val (by decide) rfl)
    | int n => exact .int (Decimal.displayInt_injective (Outline.word.inj h))
    | _ => cases h
  | string s =>
    cases hb with
    | string t =>
      obtain rfl := Outline.string.inj h
      exact .string s
    | _ => cases h
  | array _ | set _ => exact hscalar.elim

theorem forall₂_equal_of_outlines_eq (hys : ∀ y ∈ ys, y.IsListing)
    (hitem : ∀ x ∈ xs, ∀ y, y.IsListing → x.outline = y.outline → Equal x y) (h : outlines xs = outlines ys) :
    List.Forall₂ Equal xs ys := by
  induction xs generalizing ys with
  | nil =>
    cases ys with
    | nil => exact .nil
    | cons y ys => cases h
  | cons x xs ih =>
    cases ys with
    | nil => cases h
    | cons y ys =>
      rw [List.forall_mem_cons] at hys hitem
      obtain ⟨hfirst, hothers⟩ := List.cons.inj h
      exact .cons (hitem.1 y hys.1 hfirst) (ih hys.2 hitem.2 hothers)

theorem equal_of_outline_eq (ha : a.IsListing) (hb : b.IsListing) (h : a.outline = b.outline) : Equal a b := by
  induction ha generalizing b with
  | null => exact (agree_of_outline_eq .null hb trivial h).equal
  | bool x => exact (agree_of_outline_eq (.bool x) hb trivial h).equal
  | int n => exact (agree_of_outline_eq (.int n) hb trivial h).equal
  | string s => exact (agree_of_outline_eq (.string s) hb trivial h).equal
  | array hxs ih =>
    cases hb with
    | @array ys hys =>
      have hitems := forall₂_equal_of_outlines_eq hys (fun x hx _ => ih x hx) (Outline.array.inj h)
      exact equal_array_iff.mpr ⟨ys, rfl, hitems⟩
    | _ => cases h
  | set hxs ih =>
    cases hb with
    | @set ys hys =>
      have hitems := forall₂_equal_of_outlines_eq hys (fun x hx _ => ih x hx) (Outline.set.inj h)
      refine equal_set_iff.mpr ⟨ys, rfl, fun x hx => exists_of_forall₂ hitems hx, fun y hy => ?_⟩
      exact exists_of_forall₂ hitems.flip hy
    | _ => cases h

/-! ## Arrays and sets -/

theorem text_eq (h : v.type = .array ∨ v.type = .set) : v.text = v.nestedText := by
  cases v with
  | string s => rcases h with h | h <;> cases h
  | _ => rfl

/-- **Arrays and sets that are displayed alike are equal**, with the same brackets and the same strings at each place,
if no numbers of floating point, maps or structs stand in them. -/
theorem display_unambiguous (ha : a.IsListing) (hb : b.IsListing) (htype : a.type = .array ∨ a.type = .set)
    (htype' : b.type = .array ∨ b.type = .set) (h : a.display = b.display) :
    a.outline = b.outline ∧ a.equal b = true := by
  have htext : a.nestedText ++ [] = b.nestedText ++ [] := by
    rw [List.append_nil, List.append_nil, ← text_eq htype, ← text_eq htype']
    exact String.ofList_inj.mp h
  have houtline := (cut_of_isListing ha b [] [] hb rfl rfl htext).1
  exact ⟨houtline, equal_of_outline_eq ha hb houtline⟩

/-- One number in two widths, behind a string that holds quotes and a comma. -/
theorem display_unambiguous_widths :
    let a : Value := .array [.string "a\", \"b", .set [.int ⟨.int8, 1, by decide, by decide⟩]]
    let b : Value := .array [.string "a\", \"b", .set [.int ⟨.uint64, 1, by decide, by decide⟩]]
    a.display = b.display ∧ a.outline = b.outline ∧ a.equal b = true := by
  intro a b
  have ha : a.IsListing := .array (by simp [IsListing.string, IsListing.set, IsListing.int])
  have hb : b.IsListing := .array (by simp [IsListing.string, IsListing.set, IsListing.int])
  have h : a.display = b.display := rfl
  exact ⟨h, display_unambiguous ha hb (.inl rfl) (.inl rfl) h⟩

end Verdict.Value
