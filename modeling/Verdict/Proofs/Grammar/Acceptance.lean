import Verdict.Proofs.Grammar.Operands
import Verdict.Proofs.Grammar.Counting

/-!
# What texts are expressions

The parser accepts the texts whose words are an expression of the grammar, within its two limits, and gives the tree
that the grammar says (`parse_eq_ok_iff`).
-/

namespace Verdict

open Verdict.Stream

/-! ## The whole text -/

/-- The only way to the end of a text is over all of its words, and an error bars it. -/
theorem Stream.passes_end_iff {us : List Token} {e : Token} (hus : ∀ u ∈ us, u.kind ≠ .endOfInput)
    (he : e.kind = .endOfInput) {t : Token} {ts : List Token} (hts : t :: ts = us ++ [e]) {ws : List Word} {s' : Stream} :
    Passes ⟨t, ts⟩ ws s' ∧ s'.current.kind = .endOfInput ↔
      ws = us.map Token.word ∧ s' = ⟨e, []⟩ ∧ ∀ u ∈ ts, u.kind ≠ .error := by
  induction us generalizing t ts ws with
  | nil =>
    cases hts
    constructor
    · rintro ⟨h, -⟩
      cases h
      simp
    · rintro ⟨rfl, rfl, -⟩
      exact ⟨.refl _, he⟩
  | cons u us ih =>
    rw [List.cons_append, List.cons.injEq] at hts
    obtain ⟨rfl, rfl⟩ := hts
    have hu := hus t (List.mem_cons_self ..)
    have ih := @ih fun w hw => hus w (List.mem_cons_of_mem _ hw)
    obtain ⟨v, vs, hvs⟩ : ∃ v vs, us ++ [e] = v :: vs := List.exists_cons_of_ne_nil (by simp)
    rw [hvs]
    constructor
    · rintro ⟨h, hend⟩
      cases h with
      | refl => exact absurd hend hu
      | step _ hv h =>
        obtain ⟨rfl, rfl, herror⟩ := (ih hvs.symm).mp ⟨h, hend⟩
        exact ⟨rfl, rfl, List.forall_mem_cons.mpr ⟨hv, herror⟩⟩
    · rintro ⟨rfl, rfl, herror⟩
      rw [List.forall_mem_cons] at herror
      obtain ⟨h, hend⟩ := (ih hvs.symm).mpr ⟨rfl, rfl, herror.2⟩
      exact ⟨.step hu herror.1 h, hend⟩

theorem tokenize_eq (text : String) : ∃ us e, tokenize text = us ++ [e] ∧ words text = us.map Token.word ∧
    (∀ u ∈ us, u.word.Genuine ∧ u.kind ≠ .endOfInput) ∧ e.word = ⟨.endOfInput, ""⟩ := by
  obtain ⟨us, es, h, hus, hes⟩ := List.map_eq_append_iff.mp (tokenize_words text)
  obtain ⟨e, rfl, he⟩ := List.map_eq_singleton_iff.mp hes
  refine ⟨us, e, h, hus.symm, fun u hu => ?_, he⟩
  exact Lexer.scan_spec _ _ u.word (hus ▸ List.mem_map_of_mem hu)

theorem no_error_iff (text : String) :
    (∀ t ∈ tokenize text, t.kind ≠ .error) ↔ ∀ w ∈ words text, w.kind ≠ .error := by
  obtain ⟨us, e, h, hw, -, he⟩ := tokenize_eq text
  have hend : e.kind ≠ .error := by
    rw [show e.kind = .endOfInput from congrArg Word.kind he]
    decide
  rw [h, hw, List.forall_mem_append, List.forall_mem_singleton, List.forall_mem_map]
  exact ⟨fun herror => herror.1, fun herror => ⟨herror, hend⟩⟩

theorem Stream.ofText_passes (text : String) : (ofText text).Proper ∧
    tokenize text = (ofText text).current :: (ofText text).rest ∧
    ∃ e : Token, e.kind = .endOfInput ∧ ∀ {ws s'}, Passes (ofText text) ws s' ∧ s'.current.kind = .endOfInput ↔
      ws = words text ∧ s' = ⟨e, []⟩ ∧ ∀ u ∈ (ofText text).rest, u.kind ≠ .error := by
  obtain ⟨us, en, h, hw, hus, hen⟩ := tokenize_eq text
  have hend : en.kind = .endOfInput := congrArg Word.kind hen
  obtain ⟨t, ts, hts⟩ : ∃ t ts, us ++ [en] = t :: ts := List.exists_cons_of_ne_nil (by simp)
  have hs : ofText text = ⟨t, ts⟩ := by rw [ofText, h, hts]
  rw [hs, h, hw]
  refine ⟨⟨?_, us, en, hts.symm, hend⟩, hts, en, hend, ?_⟩
  · rw [← hts, List.forall_mem_append, List.forall_mem_singleton, hen]
    exact ⟨fun u hu => (hus u hu).1, trivial⟩
  · exact passes_end_iff (fun u hu => (hus u hu).2) hend hts.symm

theorem Stream.passes_words {text : String} (h : ∀ w ∈ words text, w.kind ≠ .error) :
    ∃ s', Passes (ofText text) (words text) s' ∧ s'.current.kind = .endOfInput ∧
      (ofText text).current.kind ≠ .error := by
  obtain ⟨-, htokens, e, -, hto⟩ := ofText_passes text
  have herror := (no_error_iff text).mpr h
  rw [htokens, List.forall_mem_cons] at herror
  obtain ⟨hpasses, hend⟩ := hto.mpr ⟨rfl, rfl, herror.2⟩
  exact ⟨_, hpasses, hend, herror.1⟩

theorem whole_eq_ok {s : Stream} {e : Expr} : Parser.whole s = .ok e ↔
    s.current.kind ≠ .error ∧ ∃ s', Parser.expression s = .ok (e, s') ∧ s'.current.kind = .endOfInput := by
  unfold Parser.whole Parser.wholeOf
  split
  · next h => simp [h]
  · next h =>
    rw [bind_eq_ok]
    simp only [Prod.exists, h, ne_eq, not_false_eq_true, true_and]
    constructor
    · rintro ⟨e', s', hp, h⟩
      split at h
      · next hend =>
        cases h
        exact ⟨s', hp, hend⟩
      · cases h
    · rintro ⟨s', hp, hend⟩
      exact ⟨e, s', hp, if_pos hend⟩

/-- What the parser accepts, by the words of the text. -/
theorem parse_words_iff (text : String) (e : Expr) : Expr.parse text = .ok e ↔
    (∀ t ∈ tokenize text, t.kind ≠ .error) ∧ Grammar.Expression Parser.maxDepth (words text) e ∧
      e.height ≤ Parser.maxDepth := by
  obtain ⟨hproper, htokens, en, hend, hto⟩ := Stream.ofText_passes text
  rw [Expr.parse_eq, whole_eq_ok, htokens, List.forall_mem_cons]
  constructor
  · rintro ⟨ht, s', hp, hs'⟩
    obtain ⟨ws, hws, hP, hh⟩ := Parser.expression_reads.sound hproper hp
    obtain ⟨rfl, -, herror⟩ := hto.mp ⟨hws, hs'⟩
    exact ⟨⟨ht, herror⟩, hP, hh⟩
  · rintro ⟨⟨ht, herror⟩, hP, hh⟩
    obtain ⟨hws, hs'⟩ := hto.mpr ⟨rfl, rfl, herror⟩
    exact ⟨ht, _, Parser.expression_reads.complete hproper hws hP hh (.inr hs'), hs'⟩

theorem no_error_of_parse {text : String} {t : Expr} (h : Expr.parse text = .ok t) : ∀ w ∈ words text, w.kind ≠ .error :=
  (no_error_iff text).mp ((parse_words_iff text t).mp h).1

/-- What stands in a text before its end. -/
def sentence (text : String) : List Word :=
  ((tokenize text).takeWhile fun t => t.kind ≠ .endOfInput).map Token.word

theorem sentence_eq (text : String) : sentence text = words text := by
  obtain ⟨us, e, h, hw, hus, he⟩ := tokenize_eq text
  have hke : e.kind = .endOfInput := congrArg Word.kind he
  rw [sentence, h, hw, List.takeWhile_append_of_pos fun u hu => by simp [(hus u hu).2]]
  simp [hke]

/-- **What the parser accepts.** A text is read as a tree if and only if it has no error token, its tokens up to the
end are an expression of the grammar with that tree, with no more than `maxDepth` operands in each other, and the tree
is not taller than `maxDepth`. -/
theorem parse_eq_ok_iff (text : String) (e : Expr) : Expr.parse text = .ok e ↔
    (∀ t ∈ tokenize text, t.kind ≠ .error) ∧ Grammar.Expression Parser.maxDepth (sentence text) e ∧
      e.height ≤ Parser.maxDepth := by
  rw [sentence_eq]
  exact parse_words_iff text e

end Verdict
