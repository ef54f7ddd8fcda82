import AtmSystem.Library.Program

/-!
Programs that perform an operation only where it is allowed. `Guarded` is
`Always` with a precondition on every operation, and its runs perform no
operation in a state that forbids it.
-/

namespace AtmSystem.Library

namespace Program

universe u v

variable {Op : Type → Type u} {α β σ τ : Type}

/-- Whatever the operations answer within `spec`, each one is performed in a
state that allows it, and the program ends in `post`. -/
def Guarded (spec : Spec Op σ) (allowed : (β : Type) → Op β → σ → Prop) :
    Program Op α → σ → (α → σ → Prop) → Prop
  | .done a, s, post => post a s
  | .perform op rest, s, post =>
      allowed _ op s ∧
        ∀ answer s', spec _ op s answer s' → Guarded spec allowed (rest answer) s' post

section rules

variable {spec : Spec Op σ} {allowed : (β : Type) → Op β → σ → Prop} {post : α → σ → Prop}

@[simp] theorem guarded_pure (a : α) (s : σ) :
    Guarded spec allowed (pure a : Program Op α) s post ↔ post a s := Iff.rfl

@[simp] theorem guarded_call (op : Op α) (s : σ) :
    Guarded spec allowed (call op) s post ↔
      allowed α op s ∧ ∀ answer s', spec α op s answer s' → post answer s' := Iff.rfl

@[simp] theorem guarded_bind (p : Program Op α) (next : α → Program Op β) (s : σ)
    (post : β → σ → Prop) :
    Guarded spec allowed (p >>= next) s post ↔
      Guarded spec allowed p s fun a s' => Guarded spec allowed (next a) s' post := by
  change Guarded spec allowed (p.bind next) s post ↔ _
  induction p generalizing s with
  | done a => exact Iff.rfl
  | perform op rest ih =>
      apply and_congr_right
      intro _
      exact forall_congr' fun answer => forall_congr' fun s' =>
        imp_congr_right fun _ => ih answer s'

@[simp] theorem guarded_ite {c : Prop} {_ : Decidable c} (p p' : Program Op α) (s : σ) :
    Guarded spec allowed (if c then p else p') s post ↔
      (c → Guarded spec allowed p s post) ∧ (¬ c → Guarded spec allowed p' s post) := by
  by_cases hc : c <;> simp [hc]

/-- Whichever branch is taken. -/
theorem Guarded.ite {c : Prop} {_ : Decidable c} {p p' : Program Op α} {s : σ}
    (h : Guarded spec allowed p s post) (h' : Guarded spec allowed p' s post) :
    Guarded spec allowed (if c then p else p') s post := by
  split
  · exact h
  · exact h'

theorem Guarded.mono {p : Program Op α} {s : σ} {post' : α → σ → Prop}
    (h : Guarded spec allowed p s post) (himp : ∀ a s', post a s' → post' a s') :
    Guarded spec allowed p s post' := by
  induction p generalizing s with
  | done a => exact himp a s h
  | perform op rest ih =>
      refine ⟨h.1, ?_⟩
      intro answer s' hspec
      exact ih answer (h.2 answer s' hspec)

/-- What every operation preserves holds whenever one is performed, and at the
end. -/
theorem guarded_of_steps (inv : σ → Prop)
    (hstep : ∀ (β : Type) (op : Op β) s answer s', spec β op s answer s' → inv s → inv s')
    (p : Program Op α) {s : σ} (h : inv s) :
    Guarded spec (fun _ _ s' => inv s') p s fun _ s' => inv s' := by
  induction p generalizing s with
  | done a => exact h
  | perform op rest ih =>
      refine ⟨h, ?_⟩
      intro answer s' hspec
      exact ih answer (hstep _ op s answer s' hspec h)

/-- What is promised of the end alone. -/
theorem Guarded.always {p : Program Op α} {s : σ} (h : Guarded spec allowed p s post) :
    Always spec p s post := by
  induction p generalizing s with
  | done a => exact h
  | perform op rest ih =>
      intro answer s' hspec
      exact ih answer (h.2 answer s' hspec)

/-- More may be allowed. -/
theorem Guarded.allow {allowed' : (β : Type) → Op β → σ → Prop} {p : Program Op α} {s : σ}
    (h : Guarded spec allowed p s post)
    (himp : ∀ (β : Type) (op : Op β) s, allowed β op s → allowed' β op s) :
    Guarded spec allowed' p s post := by
  induction p generalizing s with
  | done a => exact h
  | perform op rest ih =>
      refine ⟨himp _ op s h.1, ?_⟩
      intro answer s' hspec
      exact ih answer (h.2 answer s' hspec)

/-- What the allowed operations preserve is there at each of them. -/
theorem Guarded.along (inv : σ → Prop)
    (hstep : ∀ (β : Type) (op : Op β) s answer s', allowed β op s → spec β op s answer s' →
      inv s → inv s') {p : Program Op α} {s : σ} (h : Guarded spec allowed p s post)
    (hinv : inv s) :
    Guarded spec (fun β op s' => allowed β op s' ∧ inv s') p s fun a s' => post a s' ∧ inv s' := by
  induction p generalizing s with
  | done a => exact ⟨h, hinv⟩
  | perform op rest ih =>
      refine ⟨⟨h.1, hinv⟩, ?_⟩
      intro answer s' hspec
      exact ih answer (h.2 answer s' hspec) (hstep _ op s answer s' h.1 hspec hinv)

/-- Fewer answers are possible. -/
theorem Guarded.narrow {spec' : Spec Op σ} {p : Program Op α} {s : σ}
    (h : Guarded spec allowed p s post)
    (himp : ∀ (β : Type) (op : Op β) s answer s', spec' β op s answer s' → spec β op s answer s') :
    Guarded spec' allowed p s post := by
  induction p generalizing s with
  | done a => exact h
  | perform op rest ih =>
      refine ⟨h.1, ?_⟩
      intro answer s' hspec
      exact ih answer (h.2 answer s' (himp _ op s answer s' hspec))

/-- What holds wherever an operation is allowed, and at the end, holds now. -/
theorem Guarded.now {p : Program Op α} {s : σ} (h : Guarded spec allowed p s post) {inv : σ → Prop}
    (hallowed : ∀ (β : Type) (op : Op β), allowed β op s → inv s) (hpost : ∀ a, post a s → inv s) :
    inv s := by
  cases p with
  | done a => exact hpost a h
  | perform op rest => exact hallowed _ op h.1

/-- A program whose operations are carried out one level below. `R` relates the
states of the levels; an operation that is allowed above is carried out within
what is allowed below, and comes to an answer of the specification above. -/
theorem Guarded.expand {Below : Type → Type v} {impl : (β : Type) → Op β → Program Below β}
    {below : Spec Below τ} {allowed' : (β : Type) → Below β → τ → Prop} (R : σ → τ → Prop)
    (himpl : ∀ (β : Type) (op : Op β) s t, allowed β op s → R s t →
      Guarded below allowed' (impl β op) t fun answer t' =>
        ∃ s', spec β op s answer s' ∧ R s' t')
    {p : Program Op α} {s : σ} {t : τ} (h : Guarded spec allowed p s post) (hR : R s t) :
    Guarded below allowed' (p.expand impl) t fun a t' => ∃ s', post a s' ∧ R s' t' := by
  induction p generalizing s t with
  | done a => exact ⟨s, h, hR⟩
  | perform op rest ih =>
      rw [Program.expand, guarded_bind]
      apply (himpl _ op s t h.1 hR).mono
      rintro answer t' ⟨s', hspec, hR'⟩
      exact ih answer (h.2 answer s' hspec) hR'

end rules

/-- The operations a run performs, each with the state it finds. -/
def performed (handler : Handler Op σ) : Program Op α → σ → List ((β : Type) × Op β × σ)
  | .done _, _ => []
  | .perform op rest, s =>
      match handler _ op s with
      | (answer, s') => ⟨_, op, s⟩ :: (rest answer).performed handler s'

/-- A run under a handler that obeys the specification performs what is
allowed, and ends as promised. -/
theorem performed_of_guarded {spec : Spec Op σ} {allowed : (β : Type) → Op β → σ → Prop}
    (handler : Handler Op τ) (view : τ → σ)
    (hstep : ∀ (β : Type) (op : Op β) w,
      spec β op (view w) (handler β op w).1 (view (handler β op w).2))
    {p : Program Op α} {w : τ} {post : α → σ → Prop} (h : Guarded spec allowed p (view w) post) :
    (∀ made ∈ p.performed handler w, allowed made.1 made.2.1 (view made.2.2)) ∧
      post (p.run handler w).1 (view (p.run handler w).2) := by
  induction p generalizing w with
  | done a => exact ⟨nofun, h⟩
  | perform op rest ih =>
      obtain ⟨hallowed, hrest⟩ := h
      obtain ⟨hlater, hended⟩ := ih _ (hrest _ _ (hstep _ op w))
      exact ⟨List.forall_mem_cons.mpr ⟨hallowed, hlater⟩, hended⟩

end Program

end AtmSystem.Library
