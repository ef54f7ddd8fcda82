import AtmSystem.Library.Program

/-!
Programs that die in the middle. What is left of a run that is cut off at some
call is what is left of a run that goes on to its end and has every later call
fail, if a call that fails leaves it alone. So whatever is known of all runs in
which calls may fail is known of runs that are cut off.
-/

namespace AtmSystem.Library

namespace Program

universe u

variable {Op : Type → Type u} {α σ τ F : Type}

/-- A handler whose failures are planned in the state. Its next call looks at
the head of the plan: there is one with which it does what it would do anyway,
and one with which it fails and leaves `view` as it is. -/
structure FailsAsPlanned (handler : Handler Op σ) (withPlan : List F → σ → σ) (view : σ → τ) :
    Prop where
  view_withPlan : ∀ plan s, view (withPlan plan s) = view s
  follows : ∀ (β : Type) (op : Op β) s, ∃ head, ∀ plan,
    handler β op (withPlan (head ++ plan) s) =
      ((handler β op s).1, withPlan plan (handler β op s).2)
  fails : ∀ (β : Type) (op : Op β) s, ∃ head answer s', view s' = view s ∧ ∀ plan,
    handler β op (withPlan (head ++ plan) s) = (answer, withPlan plan s')

namespace FailsAsPlanned

variable {handler : Handler Op σ} {withPlan : List F → σ → σ} {view : σ → τ}

/-- There is a plan on which everything fails. -/
theorem exists_doomed (h : FailsAsPlanned handler withPlan view) (p : Program Op α) (s : σ) :
    ∃ plan, view (p.run handler (withPlan plan s)).2 = view s := by
  induction p generalizing s with
  | done a => exact ⟨[], h.view_withPlan [] s⟩
  | perform op rest ih =>
      obtain ⟨head, answer, s', hview, hfails⟩ := h.fails _ op s
      obtain ⟨plan, hplan⟩ := ih answer s'
      refine ⟨head ++ plan, ?_⟩
      rw [run, hfails plan]
      exact hplan.trans hview

/-- A run that is cut off leaves what a run leaves that fails from there on. -/
theorem exists_plan (h : FailsAsPlanned handler withPlan view) (p : Program Op α) (n : Nat)
    (s : σ) : ∃ plan, view (p.run handler (withPlan plan s)).2 = view (p.cut handler n s) := by
  induction p generalizing n s with
  | done a =>
      refine ⟨[], ?_⟩
      cases n <;> exact h.view_withPlan [] s
  | perform op rest ih =>
      cases n with
      | zero => exact h.exists_doomed (.perform op rest) s
      | succ n =>
          obtain ⟨head, hfollows⟩ := h.follows _ op s
          obtain ⟨plan, hplan⟩ := ih (handler _ op s).1 n (handler _ op s).2
          refine ⟨head ++ plan, ?_⟩
          rw [run, hfollows plan]
          exact hplan

end FailsAsPlanned

end Program

end AtmSystem.Library
