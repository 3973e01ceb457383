import Mathlib.Data.List.Perm.Subperm
import Verdict.Fields

/-!
# Fields in order

The names of a map rise, so a name that is looked up is found once, a map is told by what is found in it
(`Fields.eq_of_get?_eq`), and setting its fields again makes the same map.
-/

namespace Verdict.Fields

variable {α : Type} {bound b : Option String} {name key : String} {value : α}

/-! ## Order -/

theorem above_of_mem {fields : Fields α bound} {f : String × α} (h : f ∈ fields.toList) : ∀ b ∈ bound, b < f.1 := by
  induction fields with
  | nil => cases h
  | cons key above value rest ih =>
    rcases List.mem_cons.mp h with rfl | h
    · exact above
    · exact fun b hb => String.lt_trans (above b hb) (ih h key rfl)

theorem rising (fields : Fields α bound) : fields.toList.Pairwise fun f g => f.1 < g.1 := by
  induction fields with
  | nil => exact .nil
  | cons key above value rest ih => exact .cons (fun f hf => above_of_mem hf key rfl) ih

theorem names_nodup (fields : Fields α bound) : (fields.toList.map Prod.fst).Nodup := by
  refine List.pairwise_map.mpr (fields.rising.imp ?_)
  rintro f g hlt heq
  exact String.lt_irrefl _ (heq ▸ hlt)

theorem toList_injective {fields more : Fields α bound} (h : fields.toList = more.toList) : fields = more := by
  induction fields with
  | nil =>
    cases more with
    | nil => rfl
    | cons => cases h
  | cons key above value rest ih =>
    cases more with
    | nil => cases h
    | cons key' above' value' rest' =>
      obtain ⟨hhead, htail⟩ := List.cons.inj h
      obtain ⟨rfl, rfl⟩ := Prod.mk.inj hhead
      rw [ih htail]

theorem toList_inj {fields more : Fields α bound} : fields.toList = more.toList ↔ fields = more :=
  ⟨toList_injective, congrArg toList⟩

/-! ## Looking up -/

theorem mem_of_get? {fields : Fields α bound} (h : get? name fields = some value) : (name, value) ∈ fields.toList := by
  induction fields with
  | nil => cases h
  | cons key above old rest ih =>
    rw [get?] at h
    split at h
    · next hname =>
      subst hname
      cases h
      exact List.mem_cons_self
    · exact List.mem_cons_of_mem _ (ih h)

theorem get?_of_mem {fields : Fields α bound} (h : (name, value) ∈ fields.toList) : get? name fields = some value := by
  induction fields with
  | nil => cases h
  | cons key above old rest ih =>
    rw [get?]
    rcases List.mem_cons.mp h with heq | h
    · obtain ⟨rfl, rfl⟩ := Prod.mk.inj heq
      exact if_pos rfl
    · have hlt : key < name := above_of_mem h key rfl
      rw [if_neg fun heq => String.lt_irrefl _ (heq ▸ hlt), ih h]

theorem get?_eq_some_iff {fields : Fields α bound} :
    get? name fields = some value ↔ (name, value) ∈ fields.toList := ⟨mem_of_get?, get?_of_mem⟩

theorem get?_eq_none_iff {fields : Fields α bound} : get? name fields = none ↔ name ∉ fields.toList.map Prod.fst := by
  constructor
  · rintro hnone hmem
    obtain ⟨⟨_, value⟩, hf, rfl⟩ := List.mem_map.mp hmem
    cases hnone.symm.trans (get?_of_mem hf)
  · intro hnot
    cases h : get? name fields with
    | none => rfl
    | some value => exact absurd (List.mem_map_of_mem (mem_of_get? h)) hnot

theorem contains_iff {fields : Fields α} : contains name fields = true ↔ name ∈ fields.names := by
  rw [contains, Option.isSome_iff_ne_none, Ne, get?_eq_none_iff, not_not, names, map]

/-- A map is told by what is found in it. -/
theorem eq_of_get?_eq {fields more : Fields α bound} (h : ∀ name, get? name fields = get? name more) : fields = more := by
  have hmem (f : String × α) : f ∈ fields.toList ↔ f ∈ more.toList := by
    rw [← get?_eq_some_iff, ← get?_eq_some_iff, h]
  have hnodup (fields : Fields α bound) : fields.toList.Nodup :=
    (List.pairwise_map.mp fields.names_nodup).imp (mt (congrArg _))
  -- Both list the same pairs once each, and in the same order.
  have hperm := (List.perm_ext_iff_of_nodup (hnodup fields) (hnodup more)).mpr hmem
  refine toList_injective (hperm.eq_of_pairwise ?_ fields.rising more.rising)
  exact fun f g _ _ hfg hgf => absurd hfg (String.lt_asymm hgf)

/-- Two maps of one size have the same names if all those of the first are among those of the second. -/
theorem names_eq {fields more : Fields α bound} (hlength : fields.toList.length = more.toList.length)
    (h : ∀ f ∈ fields.toList, f.1 ∈ more.toList.map Prod.fst) :
    fields.toList.map Prod.fst = more.toList.map Prod.fst := by
  have hsubset : fields.toList.map Prod.fst ⊆ more.toList.map Prod.fst := by
    intro name hname
    obtain ⟨f, hmem, rfl⟩ := List.mem_map.mp hname
    exact h f hmem
  have hle : (more.toList.map Prod.fst).length ≤ (fields.toList.map Prod.fst).length := by
    rw [List.length_map, List.length_map]
    exact Nat.le_of_eq hlength.symm
  have hperm := (List.subperm_of_subset fields.names_nodup hsubset).perm_of_length_le hle
  refine hperm.eq_of_pairwise ?_ (List.pairwise_map.mpr fields.rising) (List.pairwise_map.mpr more.rising)
  exact fun a b _ _ hab hba => absurd hab (String.lt_asymm hba)

/-! ## Setting fields -/

theorem get?_insertAbove (key : String) {above : ∀ b ∈ bound, b < name} (fields : Fields α bound) :
    get? key (insertAbove name value above fields) = if key = name then some value else get? key fields := by
  induction fields with
  | nil => rfl
  | cons other hother old rest ih =>
    rw [insertAbove]
    split
    · next heq =>
      subst heq
      simp only [get?]
      split <;> rfl
    · next hne =>
      split
      · rfl
      · rw [get?, get?, ih]
        split
        · next heq => rw [if_neg (heq ▸ Ne.symm hne)]
        · rfl

theorem get?_insert (key name : String) (value : α) (fields : Fields α) :
    get? key (insert name value fields) = if key = name then some value else get? key fields :=
  get?_insertAbove key fields

/-- Of the pairs that are set, the last one with a name counts. -/
theorem get?_insertAll (key : String) (fields : Fields α) (pairs : List (String × α)) :
    get? key (insertAll fields pairs) = ((pairs.reverse.find? (·.1 = key)).map Prod.snd).or (get? key fields) := by
  induction pairs generalizing fields with
  | nil => rfl
  | cons f pairs ih =>
    obtain ⟨name, old⟩ := f
    show get? key (insertAll (insert name old fields) pairs) = _
    rw [ih, get?_insert, List.reverse_cons, List.find?_append]
    cases pairs.reverse.find? (·.1 = key) with
    | some g => rfl
    | none =>
      by_cases heq : key = name
      · simp [heq]
      · simp [heq, Ne.symm heq]

theorem mem_of_mem_ofList {pairs : List (String × α)} {f : String × α} (h : f ∈ (ofList pairs).toList) :
    f ∈ pairs := by
  have hget : get? f.1 (ofList pairs) = some f.2 := get?_of_mem h
  rw [ofList, get?_insertAll, get?, Option.or_none] at hget
  obtain ⟨g, hg, hvalue⟩ := Option.map_eq_some_iff.mp hget
  have hname : g.1 = f.1 := by simpa using List.find?_some hg
  exact Prod.ext hname hvalue ▸ List.mem_reverse.mp (List.mem_of_find?_eq_some hg)

theorem find?_toList (key : String) (fields : Fields α bound) :
    (fields.toList.reverse.find? (·.1 = key)).map Prod.snd = get? key fields := by
  induction fields with
  | nil => rfl
  | cons name above value rest ih =>
    rw [toList, List.reverse_cons, List.find?_append, get?]
    split
    · next heq =>
      subst heq
      have hnone : rest.toList.reverse.find? (·.1 = key) = none := by
        refine List.find?_eq_none.mpr fun f hf hkey => ?_
        have hlt := above_of_mem (List.mem_reverse.mp hf) key rfl
        exact String.lt_irrefl key ((of_decide_eq_true hkey) ▸ hlt)
      rw [hnone]
      simp
    · next hne =>
      rw [← ih]
      simp [Ne.symm hne]

theorem get?_merge (key : String) (fields more : Fields α) :
    get? key (merge fields more) = (get? key more).or (get? key fields) := by
  rw [merge, get?_insertAll, find?_toList]

theorem ofList_toList (fields : Fields α) : ofList fields.toList = fields :=
  eq_of_get?_eq fun name => by rw [ofList, get?_insertAll, find?_toList, get?, Option.or_none]

theorem merge_assoc (fields more most : Fields α) : merge (merge fields more) most = merge fields (merge more most) :=
  eq_of_get?_eq fun name => by rw [get?_merge, get?_merge, get?_merge, get?_merge, Option.or_assoc]

end Verdict.Fields
