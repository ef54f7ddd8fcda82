import Mathlib.Tactic
import Mathlib.Algebra.BigOperators.Group.List.Basic

/-!
Tables with a primary key. The key column is part of the type, and no two
rows of a table ever share a key, so a lookup has at most one answer. The
operations are those of a relational table addressed by key: insert a row
whose key is new, rewrite the row of a key without touching its key, and
erase a key. Each has one lemma for lookups and one for column sums; rows that
are inserted in a row have lemmas of their own.
-/

namespace AtmSystem.Library

structure KeyedTable {α κ : Type} (key : α → κ) where
  rows : List α
  unique : (rows.map key).Nodup

namespace KeyedTable

variable {α κ M : Type} {key : α → κ}

@[ext] theorem ext {s t : KeyedTable key} (h : s.rows = t.rows) : s = t := by
  cases s
  cases t
  simp_all

def empty : KeyedTable key := ⟨[], List.nodup_nil⟩

/-- A keyed row splits its table into rows that all have other keys. -/
private theorem split_at_row (t : KeyedTable key) {r : α} (hr : r ∈ t.rows) :
    ∃ before after, t.rows = before ++ r :: after ∧
      (∀ x ∈ before, key x ≠ key r) ∧ ∀ x ∈ after, key x ≠ key r := by
  obtain ⟨before, after, hrows⟩ := List.append_of_mem hr
  have hn := t.unique
  rw [hrows, List.map_append, List.map_cons, List.nodup_append, List.nodup_cons] at hn
  obtain ⟨_, ⟨hafter, _⟩, hbefore⟩ := hn
  refine ⟨before, after, hrows, ?_, ?_⟩
  · intro x hx
    exact hbefore _ (List.mem_map.mpr ⟨x, hx, rfl⟩) _ (by simp)
  · intro x hx heq
    exact hafter (List.mem_map.mpr ⟨x, hx, heq⟩)

variable [DecidableEq κ]

def lookup (t : KeyedTable key) (k : κ) : Option α :=
  t.rows.find? (fun r => key r = k)

/-- Add a row unless its key is taken. -/
def insertNew (t : KeyedTable key) (r : α) : KeyedTable key :=
  if h : key r ∈ t.rows.map key then t
  else ⟨t.rows ++ [r], by
    rw [List.map_append, List.nodup_append]
    refine ⟨t.unique, by simp, ?_⟩
    intro a ha b hb
    simp only [List.map_cons, List.map_nil, List.mem_singleton] at hb
    subst hb
    rintro rfl
    exact h ha⟩

/-- Rewrite the row of one key by a function that keeps keys. -/
def modify (t : KeyedTable key) (k : κ) (f : α → α)
    (hf : ∀ r, key (f r) = key r) : KeyedTable key :=
  ⟨t.rows.map (fun r => if key r = k then f r else r), by
    have hkeys : (t.rows.map (fun r => if key r = k then f r else r)).map key =
        t.rows.map key := by
      rw [List.map_map]
      apply List.map_congr_left
      intro r _
      by_cases hr : key r = k <;> simp [hr, hf]
    rw [hkeys]
    exact t.unique⟩

def erase (t : KeyedTable key) (k : κ) : KeyedTable key :=
  ⟨t.rows.filter (fun r => key r ≠ k),
    t.unique.sublist (List.filter_sublist.map key)⟩

/-- The sum of one column. -/
def total [AddCommMonoid M] (t : KeyedTable key) (g : α → M) : M :=
  (t.rows.map g).sum

theorem lookup_eq_some_iff {t : KeyedTable key} {k : κ} {r : α} :
    t.lookup k = some r ↔ r ∈ t.rows ∧ key r = k := by
  constructor
  · intro h
    exact ⟨List.mem_of_find?_eq_some h, by simpa using List.find?_some h⟩
  · rintro ⟨hmem, rfl⟩
    obtain ⟨other, hother⟩ : ∃ other, t.lookup (key r) = some other := by
      rw [← Option.isSome_iff_exists, lookup, List.find?_isSome]
      exact ⟨r, hmem, by simp⟩
    have hkey : key other = key r := by simpa using List.find?_some hother
    have hsame : other = r :=
      List.inj_on_of_nodup_map t.unique (List.mem_of_find?_eq_some hother) hmem hkey
    rw [hother, hsame]

theorem lookup_eq_none_iff {t : KeyedTable key} {k : κ} :
    t.lookup k = none ↔ ∀ r ∈ t.rows, key r ≠ k := by
  simp [lookup, List.find?_eq_none]

theorem lookup_mem {t : KeyedTable key} {k : κ} {r : α} (h : t.lookup k = some r) :
    r ∈ t.rows := (lookup_eq_some_iff.mp h).1

theorem lookup_of_mem {t : KeyedTable key} {r : α} (h : r ∈ t.rows) :
    t.lookup (key r) = some r := lookup_eq_some_iff.mpr ⟨h, rfl⟩

@[simp] theorem lookup_empty (k : κ) : (empty : KeyedTable key).lookup k = none := rfl

theorem insertNew_rows {t : KeyedTable key} {r : α} (h : t.lookup (key r) = none) :
    (t.insertNew r).rows = t.rows ++ [r] := by
  have hnew : key r ∉ t.rows.map key := by
    intro hmem
    obtain ⟨x, hx, hkey⟩ := List.mem_map.mp hmem
    exact lookup_eq_none_iff.mp h x hx hkey
  simp [insertNew, hnew]

theorem lookup_insertNew {t : KeyedTable key} {r : α} (h : t.lookup (key r) = none)
    (k : κ) : (t.insertNew r).lookup k = if k = key r then some r else t.lookup k := by
  rw [lookup, insertNew_rows h, List.find?_append]
  by_cases hk : k = key r
  · subst hk
    have hnone : t.rows.find? (fun x => decide (key x = key r)) = none := h
    simp [hnone]
  · simp [hk, Ne.symm hk, lookup]

theorem lookup_modify (t : KeyedTable key) (k : κ) (f : α → α)
    (hf : ∀ r, key (f r) = key r) (j : κ) :
    (t.modify k f hf).lookup j = if j = k then (t.lookup k).map f else t.lookup j := by
  by_cases hj : j = k
  · subst hj
    rw [if_pos rfl]
    cases hfound : t.lookup j with
    | none =>
        rw [Option.map_none, lookup_eq_none_iff]
        intro r hr
        obtain ⟨x, hx, rfl⟩ := List.mem_map.mp hr
        have hne := lookup_eq_none_iff.mp hfound x hx
        simp [hne]
    | some x =>
        obtain ⟨hx, hkey⟩ := lookup_eq_some_iff.mp hfound
        rw [Option.map_some, lookup_eq_some_iff]
        refine ⟨List.mem_map.mpr ⟨x, hx, by simp [hkey]⟩, by rw [hf, hkey]⟩
  · rw [if_neg hj]
    cases hfound : t.lookup j with
    | none =>
        rw [lookup_eq_none_iff]
        intro r hr
        obtain ⟨x, hx, rfl⟩ := List.mem_map.mp hr
        have hne := lookup_eq_none_iff.mp hfound x hx
        by_cases hk : key x = k <;> simp [hk, hf, hne, Ne.symm hj]
    | some x =>
        obtain ⟨hx, rfl⟩ := lookup_eq_some_iff.mp hfound
        rw [lookup_eq_some_iff]
        exact ⟨List.mem_map.mpr ⟨x, hx, by simp [hj]⟩, rfl⟩

theorem modify_of_lookup_none {t : KeyedTable key} {k : κ} (h : t.lookup k = none)
    (f : α → α) (hf : ∀ r, key (f r) = key r) : t.modify k f hf = t := by
  ext1
  simp only [modify]
  rw [List.map_congr_left (g := id), List.map_id]
  intro r hr
  simp [lookup_eq_none_iff.mp h r hr]

theorem lookup_erase (t : KeyedTable key) (k j : κ) :
    (t.erase k).lookup j = if j = k then none else t.lookup j := by
  by_cases hj : j = k
  · subst hj
    rw [if_pos rfl, lookup_eq_none_iff]
    intro r hr
    simpa using (List.mem_filter.mp hr).2
  · rw [if_neg hj]
    cases hfound : t.lookup j with
    | none =>
        rw [lookup_eq_none_iff]
        intro r hr
        exact lookup_eq_none_iff.mp hfound r (List.mem_filter.mp hr).1
    | some x =>
        obtain ⟨hx, rfl⟩ := lookup_eq_some_iff.mp hfound
        rw [lookup_eq_some_iff]
        exact ⟨List.mem_filter.mpr ⟨hx, by simpa using hj⟩, rfl⟩

/-- Insert rows one after the other; of those with one key the first is kept. -/
def insertAll (t : KeyedTable key) (rows : List α) : KeyedTable key := rows.foldl insertNew t

@[simp] theorem insertAll_nil (t : KeyedTable key) : t.insertAll [] = t := rfl

@[simp] theorem insertAll_cons (t : KeyedTable key) (r : α) (rows : List α) :
    t.insertAll (r :: rows) = (t.insertNew r).insertAll rows := rfl

theorem insertNew_of_lookup {t : KeyedTable key} {r other : α} (h : t.lookup (key r) = some other) :
    t.insertNew r = t := by
  obtain ⟨hmem, hkey⟩ := lookup_eq_some_iff.mp h
  rw [insertNew, dif_pos]
  exact List.mem_map.mpr ⟨other, hmem, hkey⟩

theorem lookup_insertAll (t : KeyedTable key) (rows : List α) (k : κ) :
    (t.insertAll rows).lookup k = (t.lookup k).or (rows.find? fun r => key r = k) := by
  induction rows generalizing t with
  | nil => simp
  | cons r rest ih =>
      rw [insertAll_cons, ih, List.find?_cons]
      cases hfound : t.lookup (key r) with
      | some other =>
          rw [insertNew_of_lookup hfound]
          by_cases hk : key r = k
          · subst hk
            simp [hfound]
          · simp [hk]
      | none =>
          rw [lookup_insertNew hfound]
          by_cases hk : key r = k
          · subst hk
            simp [hfound]
          · simp [hk, Ne.symm hk]

/-- Rows with new keys that all differ are all added. -/
theorem insertAll_rows {t : KeyedTable key} {rows : List α}
    (h : ((t.rows ++ rows).map key).Nodup) : (t.insertAll rows).rows = t.rows ++ rows := by
  induction rows generalizing t with
  | nil => simp
  | cons r rest ih =>
      have hnew : t.lookup (key r) = none := by
        rw [lookup_eq_none_iff]
        intro x hx heq
        rw [List.map_append, List.nodup_append] at h
        exact h.2.2 _ (List.mem_map_of_mem hx) _ (List.mem_map_of_mem List.mem_cons_self) heq
      have hrows := insertNew_rows hnew
      rw [insertAll_cons, ih, hrows, List.append_assoc, List.singleton_append]
      rwa [hrows, List.append_assoc, List.singleton_append]

/-- Rows are only added. -/
theorem rows_prefix_insertAll (t : KeyedTable key) (rows : List α) :
    t.rows <+: (t.insertAll rows).rows := by
  induction rows generalizing t with
  | nil => exact List.prefix_refl _
  | cons r rest ih =>
      refine List.IsPrefix.trans ?_ (ih (t.insertNew r))
      cases hfound : t.lookup (key r) with
      | some other =>
          rw [insertNew_of_lookup hfound]
      | none =>
          rw [insertNew_rows hfound]
          exact List.prefix_append _ _

/-- Rows whose keys are taken change nothing. -/
theorem insertAll_of_known {t : KeyedTable key} {rows : List α}
    (h : ∀ r ∈ rows, (t.lookup (key r)).isSome) : t.insertAll rows = t := by
  induction rows with
  | nil => rfl
  | cons r rest ih =>
      rw [List.forall_mem_cons] at h
      obtain ⟨other, hother⟩ := Option.isSome_iff_exists.mp h.1
      rw [insertAll_cons, insertNew_of_lookup hother]
      exact ih h.2

section total

variable [AddCommMonoid M] (g : α → M)

theorem total_insertNew {t : KeyedTable key} {r : α} (h : t.lookup (key r) = none) :
    (t.insertNew r).total g = t.total g + g r := by
  simp [total, insertNew_rows h]

/-- Rewriting a row changes a column sum by that row's difference only. -/
theorem total_modify {t : KeyedTable key} {k : κ} {r : α} (h : t.lookup k = some r)
    (f : α → α) (hf : ∀ r, key (f r) = key r) :
    (t.modify k f hf).total g + g r = t.total g + g (f r) := by
  obtain ⟨hmem, rfl⟩ := lookup_eq_some_iff.mp h
  obtain ⟨before, after, hrows, hbefore, hafter⟩ := t.split_at_row hmem
  have hkeep (rest : List α) (hrest : ∀ x ∈ rest, key x ≠ key r) :
      rest.map (fun x => if key x = key r then f x else x) = rest := by
    rw [List.map_congr_left (g := id) (fun x hx => by simp [hrest x hx]), List.map_id]
  simp only [total, modify, hrows, List.map_append, List.map_cons, if_pos,
    hkeep before hbefore, hkeep after hafter, List.sum_append, List.sum_cons]
  abel

theorem total_erase {t : KeyedTable key} {k : κ} {r : α} (h : t.lookup k = some r) :
    (t.erase k).total g + g r = t.total g := by
  obtain ⟨hmem, rfl⟩ := lookup_eq_some_iff.mp h
  obtain ⟨before, after, hrows, hbefore, hafter⟩ := t.split_at_row hmem
  have hkeep (rest : List α) (hrest : ∀ x ∈ rest, key x ≠ key r) :
      rest.filter (fun x => key x ≠ key r) = rest := by
    rw [List.filter_eq_self]
    exact fun x hx => by simpa using hrest x hx
  simp only [total, erase, hrows, List.filter_append, hkeep before hbefore]
  rw [List.filter_cons_of_neg (by simp), hkeep after hafter]
  simp only [List.map_append, List.sum_append, List.map_cons, List.sum_cons]
  abel

end total

end KeyedTable

end AtmSystem.Library
