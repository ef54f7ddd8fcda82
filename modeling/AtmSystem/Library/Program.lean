import Mathlib.Tactic

/-!
Programs over an abstract interface of operations. A program is a tree whose
nodes issue one operation and continue with its answer, so the same text can
be run by a handler, run under failures, or interleaved step by step. Two
readings are given here: `run` interprets every operation by a state-passing
handler, and `Always` is the weakest precondition of a program when each
operation may answer anything its specification allows.
-/

namespace AtmSystem.Library

universe u v

/-- `perform op k` issues `op` and goes on with `k` applied to its answer. -/
inductive Program (Op : Type → Type u) (α : Type) : Type (max 1 u) where
  | done : α → Program Op α
  | perform {β : Type} : Op β → (β → Program Op α) → Program Op α

namespace Program

variable {Op : Type → Type u} {α β γ σ τ : Type}

protected def bind : Program Op α → (α → Program Op β) → Program Op β
  | .done a, next => next a
  | .perform op rest, next => .perform op (fun answer => (rest answer).bind next)

instance : Monad (Program Op) where
  pure := .done
  bind := Program.bind

/-- The program that issues one operation and returns its answer. -/
def call (op : Op α) : Program Op α := .perform op .done

/-- How a machine with states `σ` answers each operation. -/
abbrev Handler (Op : Type → Type u) (σ : Type) := (β : Type) → Op β → σ → β × σ

def run (handler : Handler Op σ) : Program Op α → σ → α × σ
  | .done a, s => (a, s)
  | .perform op rest, s =>
      match handler _ op s with
      | (answer, s') => (rest answer).run handler s'

/-- The state in which a run is cut off that has made so many calls, or its end. -/
def cut (handler : Handler Op σ) : Nat → Program Op α → σ → σ
  | 0, _, s => s
  | _ + 1, .done _, s => s
  | n + 1, .perform op rest, s =>
      match handler _ op s with
      | (answer, s') => cut handler n (rest answer) s'

/-- The states a run passes through, the first and the last included. -/
def visits (handler : Handler Op σ) : Program Op α → σ → List σ
  | .done _, s => [s]
  | .perform op rest, s =>
      match handler _ op s with
      | (answer, s') => s :: (rest answer).visits handler s'

/-- What every operation preserves holds all along a run. -/
theorem visits_invariant {handler : Handler Op σ} (inv : σ → Prop)
    (hstep : ∀ (β : Type) (op : Op β) s, inv s → inv (handler β op s).2) (p : Program Op α)
    {s : σ} (h : inv s) : ∀ s' ∈ p.visits handler s, inv s' := by
  induction p generalizing s with
  | done a =>
      intro s' hs'
      rw [List.mem_singleton.mp hs']
      exact h
  | perform op rest ih =>
      intro s' hs'
      rcases List.mem_cons.mp hs' with hfirst | hlater
      · rw [hfirst]
        exact h
      · exact ih _ (hstep _ op s h) s' hlater

@[simp] theorem run_pure (handler : Handler Op σ) (a : α) (s : σ) :
    (pure a : Program Op α).run handler s = (a, s) := rfl

@[simp] theorem run_call (handler : Handler Op σ) (op : Op α) (s : σ) :
    (call op).run handler s = handler α op s := rfl

/-- Every operation is carried out by a program over the interface below. -/
def expand {Below : Type → Type v} (impl : (β : Type) → Op β → Program Below β) :
    Program Op α → Program Below α
  | .done a => pure a
  | .perform op rest => do
      let answer ← impl _ op
      (rest answer).expand impl

/-- What an operation may answer and what it may do to the state. -/
abbrev Spec (Op : Type → Type u) (σ : Type) := (β : Type) → Op β → σ → β → σ → Prop

/-- Whatever the operations answer within `spec`, the program ends in `post`.
Every node quantifies over all answers, so a proof of `Always` covers every
choice of failing operations at once. -/
def Always (spec : Spec Op σ) : Program Op α → σ → (α → σ → Prop) → Prop
  | .done a, s, post => post a s
  | .perform op rest, s, post =>
      ∀ answer s', spec _ op s answer s' → Always spec (rest answer) s' post

section Always

variable {spec : Spec Op σ} {post : α → σ → Prop}

@[simp] theorem always_pure (a : α) (s : σ) :
    Always spec (pure a : Program Op α) s post ↔ post a s := Iff.rfl

@[simp] theorem always_call (op : Op α) (s : σ) :
    Always spec (call op) s post ↔
      ∀ answer s', spec α op s answer s' → post answer s' := Iff.rfl

@[simp] theorem always_bind (p : Program Op α) (next : α → Program Op β)
    (s : σ) (post : β → σ → Prop) :
    Always spec (p >>= next) s post ↔
      Always spec p s (fun a s' => Always spec (next a) s' post) := by
  change Always spec (p.bind next) s post ↔ _
  induction p generalizing s with
  | done a => exact Iff.rfl
  | perform op rest ih =>
      exact forall_congr' fun answer => forall_congr' fun s' =>
        imp_congr_right fun _ => ih answer s'

/-- Whichever branch is taken. -/
theorem always_ite {c : Prop} [Decidable c] (p p' : Program Op α) (s : σ) :
    Always spec (if c then p else p') s post ↔
      (c → Always spec p s post) ∧ (¬ c → Always spec p' s post) := by
  by_cases hc : c <;> simp [hc]

theorem Always.mono {p : Program Op α} {s : σ} {post' : α → σ → Prop}
    (h : Always spec p s post) (himp : ∀ a s', post a s' → post' a s') :
    Always spec p s post' := by
  induction p generalizing s with
  | done a => exact himp a s h
  | perform op rest ih =>
      intro answer s' hspec
      exact ih answer (h answer s' hspec)

theorem Always.and {p : Program Op α} {s : σ} {post' : α → σ → Prop} (h : Always spec p s post)
    (h' : Always spec p s post') : Always spec p s fun a s' => post a s' ∧ post' a s' := by
  induction p generalizing s with
  | done a => exact ⟨h, h'⟩
  | perform op rest ih =>
      intro answer s' hspec
      exact ih answer (h answer s' hspec) (h' answer s' hspec)

theorem always_of_forall {p : Program Op α} {s : σ} (h : ∀ a s', post a s') :
    Always spec p s post := by
  induction p generalizing s with
  | done a => exact h a s
  | perform op rest ih =>
      intro answer s' _
      exact ih answer

/-- A program in a trap, a set of states that some answer to each call stays
in, ends in the trap on some run. -/
theorem not_always_of_trap (trap : σ → Prop)
    (hstep : ∀ (β : Type) (op : Op β) s, trap s → ∃ answer s', spec β op s answer s' ∧ trap s')
    (hpost : ∀ a s, trap s → ¬ post a s) {p : Program Op α} {s : σ} (hs : trap s) :
    ¬ Always spec p s post := by
  induction p generalizing s with
  | done a => exact hpost a s hs
  | perform op rest ih =>
      intro h
      obtain ⟨answer, s', hanswer, hs'⟩ := hstep _ op s hs
      exact ih answer hs' (h answer s' hanswer)

end Always

/-- The specification with a record beside the state, in which every operation
puts down what `note` makes of it. -/
def Recorded {μ : Type} (spec : Spec Op σ) (note : (β : Type) → Op β → List μ) :
    Spec Op (σ × List μ) :=
  fun β op s answer s' => spec β op s.1 answer s'.1 ∧ s'.2 = s.2 ++ note β op

/-- A record does not change how a program ends. -/
theorem Always.recorded {μ : Type} {spec : Spec Op σ} {note : (β : Type) → Op β → List μ}
    {p : Program Op α} {s : σ} {post : α → σ → Prop} (h : Always spec p s post) (record : List μ) :
    Always (Recorded spec note) p (s, record) fun a s' => post a s'.1 := by
  induction p generalizing s record with
  | done a => exact h
  | perform op rest ih =>
      rintro answer ⟨s', record'⟩ ⟨hspec, -⟩
      exact ih answer (h answer s' hspec) record'

/-- Run a program for each item in turn and collect the answers. -/
def each (f : γ → Program Op α) : List γ → Program Op (List α)
  | [] => pure []
  | item :: rest => do
      let a ← f item
      let as ← each f rest
      return a :: as

def repeated (p : Program Op α) : Nat → Program Op (List α)
  | 0 => pure []
  | n + 1 => do
      let a ← p
      let as ← repeated p n
      return a :: as

theorem each_const (p : Program Op α) (items : List γ) :
    each (fun _ => p) items = repeated p items.length := by
  induction items with
  | nil => rfl
  | cons item rest ih => simp only [each, ih, List.length_cons, repeated]

/-- One turn more, behind the others. -/
theorem always_repeated_snoc {spec : Spec Op σ} {p : Program Op α} {n : Nat} {s : σ}
    {post : List α → σ → Prop}
    (h : Always spec (repeated p n) s fun as s' => Always spec p s' fun a => post (as ++ [a])) :
    Always spec (repeated p (n + 1)) s post := by
  induction n generalizing s post with
  | zero =>
      simp only [repeated, always_bind, always_pure] at h ⊢
      exact h
  | succ n ih =>
      rw [repeated, always_bind] at h ⊢
      apply h.mono
      intro a s' hrest
      rw [always_bind] at hrest ⊢
      apply ih
      exact hrest

/-- What each turn keeps up for the items that are left, and the answer each
turn gives. -/
theorem always_each {spec : Spec Op σ} {f : γ → Program Op α} (inv : List γ → σ → Prop)
    (answer : γ → α)
    (hturn : ∀ item rest s, inv (item :: rest) s →
      Always spec (f item) s fun a s' => a = answer item ∧ inv rest s')
    {items : List γ} {s : σ} (h : inv items s) :
    Always spec (each f items) s fun as s' => as = items.map answer ∧ inv [] s' := by
  induction items generalizing s with
  | nil => exact ⟨rfl, h⟩
  | cons item rest ih =>
      simp only [each, always_bind, always_pure]
      apply (hturn item rest s h).mono
      rintro a s' ⟨rfl, hrest⟩
      apply (ih hrest).mono
      rintro as s'' ⟨rfl, hdone⟩
      exact ⟨rfl, hdone⟩

/-- Running under a handler whose steps obey the specification, seen through
the abstraction `view`, stays inside what `Always` describes. The invariant
`inv` carries what the handler itself needs to obey it. -/
theorem run_of_always {spec : Spec Op σ} (handler : Handler Op τ) (view : τ → σ)
    (inv : τ → Prop)
    (hstep : ∀ (β : Type) (op : Op β) w, inv w →
      spec β op (view w) (handler β op w).1 (view (handler β op w).2) ∧
        inv (handler β op w).2)
    {p : Program Op α} {w : τ} {post : α → σ → Prop} (hinv : inv w)
    (h : Always spec p (view w) post) :
    post (p.run handler w).1 (view (p.run handler w).2) := by
  induction p generalizing w with
  | done a => exact h
  | perform op rest ih =>
      obtain ⟨hspec, hnext⟩ := hstep _ op w hinv
      exact ih _ hnext (h _ _ hspec)

end Program

end AtmSystem.Library
