import Mathlib.Tactic

/-!
Machines that answer one input after another. A machine is its step function;
a run of it is the list of its exchanges and the state it ends in. What steps
preserve is preserved by runs, also when it speaks of a monitor that has
watched the exchanges so far; every exchange of a run starts where some shorter
run ends; and what the exchanges add to a measure of the states adds up.
-/

namespace AtmSystem.Library

/-- One step as it was taken. -/
structure Exchange (σ ε ω : Type) where
  before : σ
  input : ε
  output : ω
  after : σ

namespace Machine

variable {σ ε ω μ : Type} (step : σ → ε → ω × σ)

def exchange (s : σ) (input : ε) : Exchange σ ε ω :=
  ⟨s, input, (step s input).1, (step s input).2⟩

def history : σ → List ε → List (Exchange σ ε ω)
  | _, [] => []
  | s, input :: rest => exchange step s input :: history (step s input).2 rest

def final : σ → List ε → σ
  | s, [] => s
  | s, input :: rest => final (step s input).2 rest

variable {step}

@[simp] theorem history_nil (s : σ) : history step s [] = [] := rfl

@[simp] theorem history_cons (s : σ) (input : ε) (rest : List ε) :
    history step s (input :: rest) =
      exchange step s input :: history step (step s input).2 rest := rfl

@[simp] theorem final_nil (s : σ) : final step s [] = s := rfl

@[simp] theorem final_cons (s : σ) (input : ε) (rest : List ε) :
    final step s (input :: rest) = final step (step s input).2 rest := rfl

theorem final_append (s : σ) (first second : List ε) :
    final step s (first ++ second) = final step (final step s first) second := by
  induction first generalizing s with
  | nil => rfl
  | cons input rest ih => exact ih _

theorem history_append (s : σ) (first second : List ε) :
    history step s (first ++ second) =
      history step s first ++ history step (final step s first) second := by
  induction first generalizing s with
  | nil => rfl
  | cons input rest ih => simp [ih]

/-- A monitor looks at every exchange. What each step on an allowed input
preserves of the pair of machine and monitor holds of the pair at the end of a
run on such inputs. -/
theorem monitored (inv : μ → σ → Prop) (allowed : ε → Prop) (watch : μ → Exchange σ ε ω → μ)
    (hstep : ∀ m s input, allowed input → inv m s →
      inv (watch m (exchange step s input)) (step s input).2)
    {inputs : List ε} (hallowed : ∀ input ∈ inputs, allowed input) {m : μ} {s : σ}
    (h : inv m s) : inv ((history step s inputs).foldl watch m) (final step s inputs) := by
  induction inputs generalizing m s with
  | nil => exact h
  | cons input rest ih =>
      simp only [List.forall_mem_cons] at hallowed
      exact ih hallowed.2 (hstep m s input hallowed.1 h)

/-- The case of `monitored` without a monitor. -/
theorem invariant (inv : σ → Prop) (allowed : ε → Prop)
    (hstep : ∀ s input, allowed input → inv s → inv (step s input).2)
    {inputs : List ε} (hallowed : ∀ input ∈ inputs, allowed input) {s : σ} (h : inv s) :
    inv (final step s inputs) :=
  monitored (fun (_ : Unit) s => inv s) allowed (fun _ _ => ())
    (fun _ s input => hstep s input) hallowed (m := ()) h

/-- What every step preserves that is good in some way, a run of such steps
preserves. -/
theorem along (inv : σ → Prop) (good : Exchange σ ε ω → Prop)
    (hstep : ∀ s input, good (exchange step s input) → inv s → inv (step s input).2)
    {inputs : List ε} {s : σ} (hgood : ∀ x ∈ history step s inputs, good x) (h : inv s) :
    inv (final step s inputs) := by
  induction inputs generalizing s with
  | nil => exact h
  | cons input rest ih =>
      rw [history_cons, List.forall_mem_cons] at hgood
      exact ih hgood.2 (hstep s input hgood.1 h)

/-- Every exchange of a run is the step from a state the run has reached. -/
theorem exists_prefix {inputs : List ε} {s : σ} {x : Exchange σ ε ω}
    (hx : x ∈ history step s inputs) :
    ∃ first rest, inputs = first ++ x.input :: rest ∧
      x = exchange step (final step s first) x.input := by
  induction inputs generalizing s with
  | nil => simp at hx
  | cons input rest ih =>
      rw [history_cons, List.mem_cons] at hx
      rcases hx with hhead | htail
      · exact ⟨[], rest, by simp [hhead, exchange], by simp [hhead, exchange]⟩
      · obtain ⟨first, rest', hinputs, hexchange⟩ := ih htail
        exact ⟨input :: first, rest', by simp [← hinputs], hexchange⟩

/-- What every exchange adds to a measure of the states, the run adds up. -/
theorem telescope {M : Type} [AddMonoid M] (measure : σ → M) (change : Exchange σ ε ω → M)
    {inputs : List ε} {s : σ}
    (h : ∀ x ∈ history step s inputs, measure x.after = measure x.before + change x) :
    measure (final step s inputs) =
      measure s + ((history step s inputs).map change).sum := by
  induction inputs generalizing s with
  | nil => simp
  | cons input rest ih =>
      rw [history_cons, List.forall_mem_cons] at h
      obtain ⟨hhead, htail⟩ := h
      have hfinal := ih htail
      have hnext : measure (step s input).2 = measure s + change (exchange step s input) := hhead
      simp only [final_cons, history_cons, List.map_cons, List.sum_cons]
      rw [hfinal, hnext, add_assoc]

end Machine

end AtmSystem.Library
