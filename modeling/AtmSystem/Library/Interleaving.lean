import AtmSystem.Library.Program
import Mathlib.Logic.Relation

/-!
Processes that run programs on one shared state. A call that another process
could notice is one step; the quiet calls behind it, up to the next such call
or the end of the program, belong to the same step. Steps of different
processes follow each other in any order. An invariant of all interleavings is
stated as one property of the shared state and one of each process: the
process that takes a step restores both and leaves the others theirs.
-/

namespace AtmSystem.Library

open Program

universe u

/-- A call and the answer to it. -/
structure Call (Op : Type → Type u) where
  {β : Type}
  op : Op β
  answer : β

/-- A job under way: the calls answered so far that were not quiet, and what
is left of its program. -/
structure Task (Op : Type → Type u) (Job Answer : Type) where
  job : Job
  heard : List (Call Op)
  rest : Program Op Answer

/-- The shared state, what each process is at, and the jobs that have ended in
the order they did. -/
structure System (Op : Type → Type u) (σ Job Answer : Type) where
  shared : σ
  tasks : ℕ → Option (Task Op Job Answer)
  finished : List (Job × Answer)

/-- What the processes run, which calls are quiet, and how the calls of each
process are answered. -/
structure Processes (Op : Type → Type u) (σ Job Answer : Type) where
  program : Job → Program Op Answer
  quiet : (β : Type) → Op β → Bool
  answers : ℕ → Spec Op σ

variable {Op : Type → Type u} {σ τ α Job Answer : Type}

/-- A program is run up to its next call that is not quiet. The quiet calls
leave the shared state `s` alone. -/
inductive Proceeds (quiet : (β : Type) → Op β → Bool) (spec : Spec Op σ) (s : σ) :
    Program Op α → Program Op α → Prop where
  | done (a : α) : Proceeds quiet spec s (.done a) (.done a)
  | waits {β : Type} {op : Op β} {k : β → Program Op α} (hnoticed : quiet β op = false) :
      Proceeds quiet spec s (.perform op k) (.perform op k)
  | call {β : Type} {op : Op β} {k : β → Program Op α} {answer : β} {p : Program Op α}
      (hquiet : quiet β op = true) (hanswer : spec β op s answer s)
      (hrest : Proceeds quiet spec s (k answer) p) : Proceeds quiet spec s (.perform op k) p

namespace Proceeds

variable {quiet : (β : Type) → Op β → Bool} {spec : Spec Op σ} {s : σ} {p p' : Program Op α}

/-- What is left waits for a call that is not quiet. -/
theorem noticed (h : Proceeds quiet spec s p p') {β : Type} {op : Op β} {k : β → Program Op α}
    (hp : p' = .perform op k) : quiet β op = false := by
  induction h with
  | done a => cases hp
  | waits hnoticed =>
      cases hp
      exact hnoticed
  | call hquiet hanswer hrest ih => exact ih hp

/-- Quiet calls use up none of what is known of a program. -/
theorem always {spec' : Spec Op τ} {x : τ} {post : α → τ → Prop}
    (hquiet : ∀ (β : Type) (op : Op β) answer, quiet β op = true → spec β op s answer s →
      spec' β op x answer x)
    (h : Proceeds quiet spec s p p') (hp : Always spec' p x post) : Always spec' p' x post := by
  induction h with
  | done a => exact hp
  | waits hnoticed => exact hp
  | call hq hanswer hrest ih => exact ih (hp _ _ (hquiet _ _ _ hq hanswer))

end Proceeds

/-- The task as the process keeps it: none once its program is done. -/
def Task.left (task : Task Op Job Answer) : Option (Task Op Job Answer) :=
  match task.rest with
  | .done _ => none
  | .perform _ _ => some task

theorem Task.left_eq_some {task kept : Task Op Job Answer} (h : task.left = some kept) :
    kept = task ∧ ∀ answer, task.rest ≠ .done answer := by
  obtain ⟨job, heard, rest⟩ := task
  cases rest with
  | done answer => cases h
  | perform op k =>
      refine ⟨(Option.some.inj h).symm, ?_⟩
      intro answer hdone
      cases hdone

/-- What ends with the task. -/
def Task.ended (task : Task Op Job Answer) : List (Job × Answer) :=
  match task.rest with
  | .done answer => [(task.job, answer)]
  | .perform _ _ => []

/-- Process `p` has come as far as `task`, and the shared state is `shared`. -/
def System.moved (s : System Op σ Job Answer) (p : ℕ) (shared : σ) (task : Task Op Job Answer) :
    System Op σ Job Answer where
  shared := shared
  tasks := Function.update s.tasks p task.left
  finished := s.finished ++ task.ended

/-- Nothing has been asked for yet. -/
def System.idle (shared : σ) : System Op σ Job Answer where
  shared := shared
  tasks := fun _ => none
  finished := []

section Step

variable (procs : Processes Op σ Job Answer) (admits : Job → Prop)
  (allowed : System Op σ Job Answer → ℕ → Call Op → Prop)

/-- One process takes a step: it starts a job, or its next call is answered.
The steps considered are those that start a job out of `admits` or make a call
that is `allowed`. -/
inductive Step (s : System Op σ Job Answer) (p : ℕ) : System Op σ Job Answer → Prop where
  | start {job : Job} {rest : Program Op Answer} (hidle : s.tasks p = none) (hadmits : admits job)
      (hrest : Proceeds procs.quiet (procs.answers p) s.shared (procs.program job) rest) :
      Step s p (s.moved p s.shared ⟨job, [], rest⟩)
  | call {task : Task Op Job Answer} {β : Type} {op : Op β} {k : β → Program Op Answer}
      {answer : β} {shared : σ} {rest : Program Op Answer} (htask : s.tasks p = some task)
      (hop : task.rest = .perform op k) (hnoticed : procs.quiet β op = false)
      (hanswer : procs.answers p β op s.shared answer shared) (hallowed : allowed s p ⟨op, answer⟩)
      (hrest : Proceeds procs.quiet (procs.answers p) shared (k answer) rest) :
      Step s p (s.moved p shared ⟨task.job, task.heard ++ [⟨op, answer⟩], rest⟩)

/-- The states that any interleaving leads to. -/
def Reached : System Op σ Job Answer → System Op σ Job Answer → Prop :=
  Relation.ReflTransGen fun s s' => ∃ p, Step procs admits allowed s p s'

end Step

section invariants

variable (Global : σ → List (Job × Answer) → Prop)
  (Local : ℕ → σ → Option (Task Op Job Answer) → Prop)

/-- The global invariant and that of every process. -/
structure Holds (s : System Op σ Job Answer) : Prop where
  global : Global s.shared s.finished
  each : ∀ p, Local p s.shared (s.tasks p)

/-- What the step of a process `p` that leads to `shared` and `task` owes. -/
structure Restores (s : System Op σ Job Answer) (p : ℕ) (shared : σ)
    (task : Task Op Job Answer) : Prop where
  global : Global shared (s.finished ++ task.ended)
  own : Local p shared task.left
  others : ∀ q, q ≠ p → ∀ kept, Local q s.shared kept → Local q shared kept

variable {Global Local}

/-- A step that pays what it owes. -/
theorem Restores.holds {s : System Op σ Job Answer} {p : ℕ} {shared : σ}
    {task : Task Op Job Answer} (h : Restores Global Local s p shared task)
    (hs : Holds Global Local s) : Holds Global Local (s.moved p shared task) := by
  refine ⟨h.global, ?_⟩
  intro q
  simp only [System.moved, Function.update_apply]
  split
  · rename_i hq
    rw [hq]
    exact h.own
  · rename_i hq
    exact h.others q hq _ (hs.each q)

variable {procs : Processes Op σ Job Answer} {admits : Job → Prop}
  {allowed : System Op σ Job Answer → ℕ → Call Op → Prop} {s₀ : System Op σ Job Answer}

/-- An invariant that holds at the beginning and that every step restores
holds in every interleaving. -/
theorem Reached.holds
    (hstart : ∀ s p job rest, Holds Global Local s → s.tasks p = none → admits job →
      Proceeds procs.quiet (procs.answers p) s.shared (procs.program job) rest →
      Restores Global Local s p s.shared ⟨job, [], rest⟩)
    (hcall : ∀ s p (task : Task Op Job Answer) (β : Type) (op : Op β) k answer shared rest,
      Holds Global Local s → s.tasks p = some task → task.rest = .perform op k →
      procs.quiet β op = false → procs.answers p β op s.shared answer shared → allowed s p ⟨op, answer⟩ →
      Proceeds procs.quiet (procs.answers p) shared (k answer) rest →
      Restores Global Local s p shared ⟨task.job, task.heard ++ [⟨op, answer⟩], rest⟩)
    (hinitial : Holds Global Local s₀) {s : System Op σ Job Answer}
    (h : Reached procs admits allowed s₀ s) : Holds Global Local s := by
  induction h with
  | refl => exact hinitial
  | tail hbefore hstep ih =>
      obtain ⟨p, hstep⟩ := hstep
      cases hstep with
      | start hidle hadmits hrest => exact (hstart _ _ _ _ ih hidle hadmits hrest).holds ih
      | call htask hop hnoticed hanswer hallowed hrest =>
          exact (hcall _ _ _ _ _ _ _ _ _ ih htask hop hnoticed hanswer hallowed hrest).holds ih

/-- Only jobs that were admitted end. -/
theorem Reached.admitted {shared : σ} {s : System Op σ Job Answer}
    (h : Reached procs admits allowed (.idle shared) s) :
    ∀ outcome ∈ s.finished, admits outcome.1 := by
  have hmoved (s : System Op σ Job Answer) (task : Task Op Job Answer) (hadmits : admits task.job)
      (hglobal : ∀ outcome ∈ s.finished, admits outcome.1) :
      (∀ outcome ∈ s.finished ++ task.ended, admits outcome.1) ∧
        ∀ kept ∈ task.left, admits kept.job := by
    obtain ⟨job, heard, rest⟩ := task
    cases rest with
    | done answer =>
        refine ⟨?_, fun kept hkept => by cases hkept⟩
        intro outcome hmem
        rcases List.mem_append.mp hmem with hold | hnew
        · exact hglobal outcome hold
        · rw [List.mem_singleton.mp hnew]
          exact hadmits
    | perform op k =>
        refine ⟨?_, ?_⟩
        · rw [Task.ended, List.append_nil]
          exact hglobal
        · intro kept hkept
          rw [← Option.some.inj hkept]
          exact hadmits
  have hinitial : Holds (fun _ finished => ∀ outcome ∈ finished, admits outcome.1)
      (fun _ _ kept => ∀ task ∈ kept, admits task.job)
      (.idle shared : System Op σ Job Answer) := by
    refine ⟨fun outcome hmem => ?_, fun p task hmem => ?_⟩
    · cases hmem
    · cases hmem
  refine (h.holds ?_ ?_ hinitial).global
  · intro s p job rest hs _ hadmits _
    obtain ⟨hglobal, hown⟩ := hmoved s ⟨job, [], rest⟩ hadmits hs.global
    exact ⟨hglobal, hown, fun _ _ _ hkept => hkept⟩
  · intro s p task β op k answer shared rest hs htask _ _ _ _ _
    have hadmits := hs.each p task htask
    obtain ⟨hglobal, hown⟩ := hmoved s ⟨task.job, task.heard ++ [⟨op, answer⟩], rest⟩ hadmits
      hs.global
    exact ⟨hglobal, hown, fun _ _ _ hkept => hkept⟩

end invariants

end AtmSystem.Library
