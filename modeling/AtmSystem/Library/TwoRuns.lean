import AtmSystem.Library.Program

/-!
Two runs side by side. Two programs are related if runs of them from related
states give related answers and leave related states. With one program on both
sides and equality of answers this is noninterference: what the relation on
states leaves out has no influence. The relation is closed under sequencing, so
it is shown operation by operation.
-/

namespace AtmSystem.Library.Program

universe u

variable {Op : Type → Type u} {σ τ α β γ δ : Type}

@[simp] theorem run_bind (handler : Handler Op σ) (p : Program Op α) (next : α → Program Op β)
    (s : σ) :
    (p >>= next).run handler s = (next (p.run handler s).1).run handler (p.run handler s).2 := by
  change (p.bind next).run handler s = _
  induction p generalizing s with
  | done a => rfl
  | perform op rest ih => exact ih _ _

/-- From states related by `R` the programs end with answers related by `Q`, in
states related by `R`. -/
structure Relates (handler : Handler Op σ) (handler' : Handler Op τ) (R : σ → τ → Prop)
    (Q : α → γ → Prop) (p : Program Op α) (q : Program Op γ) : Prop where
  runs : ∀ s t, R s t →
    Q (p.run handler s).1 (q.run handler' t).1 ∧ R (p.run handler s).2 (q.run handler' t).2

namespace Relates

variable {handler : Handler Op σ} {handler' : Handler Op τ} {R : σ → τ → Prop} {Q : α → γ → Prop}
  {Q' : β → δ → Prop}

theorem pure {a : α} {c : γ} (h : Q a c) :
    Relates handler handler' R Q (pure a) (Pure.pure c) := ⟨fun _ _ hR => ⟨h, hR⟩⟩

theorem call {op : Op α} {op' : Op γ}
    (h : ∀ s t, R s t → Q (handler α op s).1 (handler' γ op' t).1 ∧
      R (handler α op s).2 (handler' γ op' t).2) :
    Relates handler handler' R Q (call op) (call op') := ⟨h⟩

theorem bind {p : Program Op α} {q : Program Op γ} {next : α → Program Op β}
    {next' : γ → Program Op δ} (hp : Relates handler handler' R Q p q)
    (hnext : ∀ a c, Q a c → Relates handler handler' R Q' (next a) (next' c)) :
    Relates handler handler' R Q' (p >>= next) (q >>= next') := by
  refine ⟨fun s t hR => ?_⟩
  obtain ⟨hanswers, hstates⟩ := hp.runs s t hR
  rw [run_bind, run_bind]
  exact (hnext _ _ hanswers).runs _ _ hstates

theorem mono {p : Program Op α} {q : Program Op γ} {P : α → γ → Prop}
    (hp : Relates handler handler' R Q p q) (himp : ∀ a c, Q a c → P a c) :
    Relates handler handler' R P p q :=
  ⟨fun s t hR => (hp.runs s t hR).imp_left (himp _ _)⟩

end Relates

end AtmSystem.Library.Program
