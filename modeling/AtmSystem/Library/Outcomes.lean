import AtmSystem.Library.Program

/-!
What a program may come to. `MayEnd` is the other side of `Always`: some answers
within the specification lead the program to this end. A program always ends in
`post` just if all its ends are in `post`, and it has an end as soon as every
operation has an answer.
-/

namespace AtmSystem.Library

namespace Program

universe u

variable {Op : Type → Type u} {α β σ : Type} {spec : Spec Op σ}

/-- Some answers within `spec` lead the program to return `a'` in `s'`. -/
def MayEnd (spec : Spec Op σ) : Program Op α → σ → α → σ → Prop
  | .done a, s, a', s' => a' = a ∧ s' = s
  | .perform op rest, s, a', s' =>
      ∃ answer next, spec _ op s answer next ∧ MayEnd spec (rest answer) next a' s'

theorem always_iff_mayEnd {p : Program Op α} {s : σ} {post : α → σ → Prop} :
    Always spec p s post ↔ ∀ a s', MayEnd spec p s a s' → post a s' := by
  induction p generalizing s with
  | done a =>
      constructor
      · rintro h _ _ ⟨rfl, rfl⟩
        exact h
      · exact fun h => h a s ⟨rfl, rfl⟩
  | perform op rest ih =>
      constructor
      · rintro h a s' ⟨answer, next, hanswer, hends⟩
        exact (ih answer).mp (h answer next hanswer) a s' hends
      · intro h answer next hanswer
        exact (ih answer).mpr fun a s' hends => h a s' ⟨answer, next, hanswer, hends⟩

theorem Always.at_end {p : Program Op α} {s s' : σ} {a : α} {post : α → σ → Prop}
    (h : Always spec p s post) (hends : MayEnd spec p s a s') : post a s' :=
  always_iff_mayEnd.mp h a s' hends

/-- If every operation has an answer, the program has an end. -/
theorem exists_mayEnd (hanswers : ∀ (β : Type) (op : Op β) s, ∃ answer next, spec β op s answer next)
    (p : Program Op α) (s : σ) : ∃ a s', MayEnd spec p s a s' := by
  induction p generalizing s with
  | done a => exact ⟨a, s, rfl, rfl⟩
  | perform op rest ih =>
      obtain ⟨answer, next, hanswer⟩ := hanswers _ op s
      obtain ⟨a, s', hends⟩ := ih answer next
      exact ⟨a, s', answer, next, hanswer, hends⟩

end Program

end AtmSystem.Library
