import Verdict.Proofs.Grammar.Basic
import Verdict.Proofs.Grammar.Plain

/-!
# Going over words

A parser goes from one place of a token stream to a later one. `Stream.Passes` says over which words, and that none
of them is an error; that is all that soundness and completeness of a parser have to say of streams.
-/

namespace Verdict

/-! ## Results -/

theorem bind_eq_ok {ε α β : Type} {x : Except ε α} {f : α → Except ε β} {b : β} :
    (x >>= f) = .ok b ↔ ∃ a, x = .ok a ∧ f a = .ok b := by
  cases x with
  | ok a => exact ⟨fun h => ⟨a, rfl, h⟩, fun ⟨_, h, h'⟩ => by cases h; exact h'⟩
  | error e => exact ⟨fun h => (by cases h), fun ⟨_, h, _⟩ => by cases h⟩

theorem map_eq_ok {ε α β : Type} {x : Except ε α} {f : α → β} {b : β} :
    x.map f = .ok b ↔ ∃ a, x = .ok a ∧ f a = b := by
  cases x <;> simp [Except.map]

namespace Stream

/-- Every token says what words of its kind say, and the text ends with the last one. -/
structure Proper (s : Stream) : Prop where
  genuine : ∀ t ∈ s.current :: s.rest, t.word.Genuine
  ended : ∃ ts e, s.current :: s.rest = ts ++ [e] ∧ e.kind = .endOfInput

theorem Proper.current_genuine {s : Stream} (h : s.Proper) : s.current.word.Genuine :=
  h.genuine _ (List.mem_cons_self ..)

theorem Proper.tail {t u : Token} {ts : List Token} (h : Proper ⟨t, u :: ts⟩) : Proper ⟨u, ts⟩ := by
  obtain ⟨hg, us, e, he, hk⟩ := h
  refine ⟨fun v hv => hg v (List.mem_cons_of_mem _ hv), ?_⟩
  cases us with
  | nil => simp at he
  | cons v us =>
    rw [List.cons_append, List.cons.injEq] at he
    exact ⟨us, e, he.2, hk⟩

/-- From one place the words lead to another. None of the tokens gone to on the way is an error. -/
inductive Passes : Stream → List Word → Stream → Prop
  | refl (s : Stream) : Passes s [] s
  | step {t u ts ws s'} : t.kind ≠ .endOfInput → u.kind ≠ .error → Passes ⟨u, ts⟩ ws s' →
      Passes ⟨t, u :: ts⟩ (t.word :: ws) s'

namespace Passes

variable {s m s' : Stream} {w : Word} {ws vs : List Word}

theorem proper (h : Passes s ws s') (hs : s.Proper) : s'.Proper := by
  induction h with
  | refl => exact hs
  | step _ _ _ ih => exact ih hs.tail

theorem trans (h : Passes s ws m) (h' : Passes m vs s') : Passes s (ws ++ vs) s' := by
  induction h with
  | refl => exact h'
  | step ht hu _ ih => exact .step ht hu (ih h')

theorem split (h : Passes s (ws ++ vs) s') : ∃ m, Passes s ws m ∧ Passes m vs s' := by
  induction ws generalizing s with
  | nil => exact ⟨s, .refl s, h⟩
  | cons w ws ih =>
    cases h with
    | step ht hu h =>
      obtain ⟨m, hm, hm'⟩ := ih h
      exact ⟨m, .step ht hu hm, hm'⟩

theorem length (h : Passes s ws s') : s.rest.length = ws.length + s'.rest.length := by
  induction h with
  | refl => simp
  | step _ _ _ ih => simp only [List.length_cons] at ih ⊢; omega

theorem current (h : Passes s (w :: ws) s') : s.current.word = w := by
  cases h with
  | step => rfl

theorem kind (h : Passes s (w :: ws) s') : s.current.kind = w.kind := congrArg Word.kind h.current

theorem text (h : Passes s (w :: ws) s') : s.current.text = w.text := congrArg Word.text h.current

theorem advance (h : Passes s (w :: ws) s') :
    ∃ m, Reading.advance s = .ok m ∧ Passes s [w] m ∧ Passes m ws s' := by
  cases h with
  | step ht hu h => exact ⟨_, if_neg hu, .step ht hu (.refl _), h⟩

end Passes

theorem passes_of_advance {s s' : Stream} (hs : s.Proper) (hk : s.current.kind ≠ .endOfInput)
    (h : s.advance = .ok s') : Passes s [s.current.word] s' := by
  obtain ⟨t, ts⟩ := s
  cases ts with
  | nil =>
    obtain ⟨us, e, he, hke⟩ := hs.ended
    cases us with
    | nil =>
      rw [List.nil_append, List.cons.injEq] at he
      exact absurd (he.1 ▸ hke) hk
    | cons v us => simp at he
  | cons u ts =>
    unfold advance at h
    dsimp only at h
    split at h
    · cases h
    · next hu =>
      cases h
      exact .step hk hu (.refl _)

theorem expect_eq_ok {s s' : Stream} {kind : TokenKind} {expected : String} {t : Token} :
    Parser.expect kind expected s = .ok (t, s') ↔ s.current.kind = kind ∧ s.current = t ∧ s.advance = .ok s' := by
  unfold Parser.expect
  split
  · next h =>
    rw [bind_eq_ok]
    constructor
    · rintro ⟨m, hm, heq⟩
      cases heq
      exact ⟨h, rfl, hm⟩
    · rintro ⟨-, rfl, hm⟩
      exact ⟨s', hm, rfl⟩
  · next h => simp [h, Reading.refuse]

end Stream

end Verdict
