import Mathlib.Tactic
import Mathlib.Algebra.BigOperators.Group.Finset.Piecewise
import Mathlib.Algebra.BigOperators.Group.List.Basic

/-!
Lists that carry their own running total. Each entry changes a total by some
amount and shows the total it led to; `RunningTotal` says that every entry
shows the sum of the changes up to and including its own. Such a list stays
one under appending an entry that continues the total and under any rewriting
that keeps what the entries change and show. A total may also be taken part by
part, the entries sorted by a key.
-/

namespace AtmSystem.Library

variable {α β M : Type} [AddMonoid M]

def RunningTotal (change : α → M) (shows : α → M → Prop) (entries : List α) : Prop :=
  ∀ before entry rest, entries = before ++ entry :: rest →
    shows entry ((before ++ [entry]).map change).sum

namespace RunningTotal

variable {change : α → M} {shows : α → M → Prop} {entries : List α} {entry : α}

theorem nil : RunningTotal change shows [] := by
  intro before entry rest h
  simp at h

theorem append_singleton_iff :
    RunningTotal change shows (entries ++ [entry]) ↔
      RunningTotal change shows entries ∧ shows entry ((entries.map change).sum + change entry) := by
  constructor
  · intro h
    refine ⟨fun before e rest heq => ?_, ?_⟩
    · exact h before e (rest ++ [entry]) (by simp [heq])
    · simpa using h entries entry [] rfl
  · rintro ⟨h, hlast⟩ before e rest heq
    rcases List.eq_nil_or_concat rest with rfl | ⟨init, last, rfl⟩
    · obtain ⟨rfl, rfl⟩ : entries = before ∧ entry = e := by simpa using heq
      simpa using hlast
    · have hcut : entries ++ [entry] = (before ++ e :: init) ++ [last] := by simpa using heq
      exact h before e init (List.append_inj' hcut rfl).1

theorem append_singleton (h : RunningTotal change shows entries)
    (hlast : shows entry ((entries.map change).sum + change entry)) :
    RunningTotal change shows (entries ++ [entry]) := append_singleton_iff.mpr ⟨h, hlast⟩

/-- Rewriting entries keeps a running total if it keeps changes and totals. -/
theorem map {change' : β → M} {shows' : β → M → Prop} {f : α → β}
    (h : RunningTotal change shows entries) (hchange : ∀ a, change' (f a) = change a)
    (hshows : ∀ a total, shows a total → shows' (f a) total) :
    RunningTotal change' shows' (entries.map f) := by
  intro before entry rest heq
  obtain ⟨before', tail, rfl, rfl, htail⟩ := List.map_eq_append_iff.mp heq
  obtain ⟨entry', rest', rfl, rfl, rfl⟩ := List.map_eq_cons_iff.mp htail
  have htotal := hshows entry' _ (h before' entry' rest' rfl)
  simpa [Function.comp_def, hchange] using htotal

end RunningTotal

/-- Each entry counts for one key, so the sums for all keys are the sum. -/
theorem sum_by_key {α κ M : Type} [DecidableEq κ] [AddCommMonoid M] (key : α → κ) (g : α → M)
    {keys : List κ} (hkeys : keys.Nodup) {entries : List α} (hcovers : ∀ a ∈ entries, key a ∈ keys) :
    (keys.map fun k => ((entries.filter fun a => key a = k).map g).sum).sum =
      (entries.map g).sum := by
  induction entries with
  | nil => simp
  | cons a rest ih =>
      have hsplit (k : κ) : (((a :: rest).filter fun a => key a = k).map g).sum =
          (if key a = k then g a else 0) + ((rest.filter fun a => key a = k).map g).sum := by
        by_cases h : key a = k <;> simp [h]
      have hone : (keys.map fun k => if key a = k then g a else 0).sum = g a := by
        rw [← List.sum_toFinset _ hkeys, Finset.sum_ite_eq, if_pos]
        exact List.mem_toFinset.mpr (hcovers a List.mem_cons_self)
      simp only [hsplit, List.sum_map_add, hone, List.map_cons, List.sum_cons]
      rw [ih fun b hb => hcovers b (List.mem_cons_of_mem a hb)]

end AtmSystem.Library
