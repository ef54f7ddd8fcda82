import AtmSystem.Library.Guarded

/-!
Loops that run until their body leaves them. A loop is run on fuel; an
invariant says what holds whenever the body starts, and a measure that each
turn takes something off says how much fuel is enough.
-/

namespace AtmSystem.Library

namespace Program

universe u

variable {Op : Type → Type u} {α σ : Type}

/-- A loop whose body says nothing to go on, or what the loop comes to. It says
nothing itself when the fuel is used up. -/
def loop (body : Program Op (Option α)) : Nat → Program Op (Option α)
  | 0 => pure none
  | fuel + 1 => do
      match ← body with
      | none => loop body fuel
      | some a => return some a

variable {spec : Spec Op σ} {allowed : (β : Type) → Op β → σ → Prop} {post : α → σ → Prop}
  {body : Program Op (Option α)}

/-- What the end of a body owes to the loop around it. -/
def Restored (inv : σ → Prop) (post : α → σ → Prop) (outcome : Option α) (s : σ) : Prop :=
  (outcome = none → inv s) ∧ ∀ a, outcome = some a → post a s

theorem Restored.goesOn {inv : σ → Prop} {s : σ} (h : inv s) : Restored inv post none s := by
  refine ⟨fun _ => h, ?_⟩
  intro a hnone
  cases hnone

theorem Restored.leaves {inv : σ → Prop} {a : α} {s : σ} (h : post a s) :
    Restored inv post (some a) s := by
  constructor
  · intro hnone
    cases hnone
  · rintro _ ⟨⟩
    exact h

/-- A body that keeps an invariant up, or leaves with what is promised. -/
theorem guarded_loop (inv : σ → Prop)
    (hbody : ∀ s, inv s → Guarded spec allowed body s (Restored inv post)) (fuel : Nat) {s : σ}
    (h : inv s) : Guarded spec allowed (loop body fuel) s (Restored inv post) := by
  induction fuel generalizing s with
  | zero => exact .goesOn h
  | succ fuel ih =>
      rw [loop, guarded_bind]
      apply (hbody s h).mono
      intro outcome s' hend
      cases outcome with
      | none => exact ih (hend.1 rfl)
      | some a => exact .leaves (hend.2 a rfl)

/-- If every turn takes something off a measure, fuel for what there is of it
is enough. -/
theorem always_loop_ends (inv : σ → Prop) (measure : σ → Nat)
    (hbody : ∀ s, inv s → Always spec body s
      (Restored (fun s' => inv s' ∧ measure s' < measure s) post))
    {fuel : Nat} {s : σ} (h : inv s) (hfuel : measure s < fuel) :
    Always spec (loop body fuel) s fun outcome s' => ∃ a, outcome = some a ∧ post a s' := by
  induction fuel generalizing s with
  | zero => omega
  | succ fuel ih =>
      rw [loop, always_bind]
      apply (hbody s h).mono
      intro outcome s' hend
      cases outcome with
      | none =>
          obtain ⟨hinv, hless⟩ := hend.1 rfl
          exact ih hinv (by omega)
      | some a => exact ⟨a, rfl, hend.2 a rfl⟩

end Program

end AtmSystem.Library
