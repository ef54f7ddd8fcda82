import Mathlib.Tactic

/-!
Tables whose rows are numbered as they are inserted. A new row takes one more
than the largest number ever given out, so a number is never reused, and the
rows of the table stand in increasing order. Rows may be rewritten as long as
they keep their number, and any set of rows may be deleted.
-/

namespace AtmSystem.Library

structure SerialTable {α : Type} (id : α → Nat) where
  rows : List α
  last : Nat
  increasing : rows.Pairwise (fun a b => id a < id b)
  bounded : ∀ r ∈ rows, id r ≤ last

namespace SerialTable

variable {α : Type} {id : α → Nat}

@[ext] theorem ext {s t : SerialTable id} (h : s.rows = t.rows) (hlast : s.last = t.last) :
    s = t := by
  cases s
  cases t
  simp_all

def empty : SerialTable id := ⟨[], 0, List.Pairwise.nil, by simp⟩

/-- Insert the row `mk n`, where `n` is the next number. -/
def append (t : SerialTable id) (mk : Nat → α) (hmk : ∀ n, id (mk n) = n) :
    SerialTable id :=
  ⟨t.rows ++ [mk (t.last + 1)], t.last + 1, by
    rw [List.pairwise_append]
    refine ⟨t.increasing, List.pairwise_singleton _ _, ?_⟩
    intro a ha b hb
    rw [List.mem_singleton.mp hb, hmk]
    exact Nat.lt_succ_of_le (t.bounded a ha), by
    intro r hr
    rcases List.mem_append.mp hr with hold | hnew
    · exact Nat.le_succ_of_le (t.bounded r hold)
    · rw [List.mem_singleton.mp hnew, hmk]⟩

/-- Rewrite every row by a function that keeps numbers. -/
def map (t : SerialTable id) (f : α → α) (hf : ∀ r, id (f r) = id r) : SerialTable id :=
  ⟨t.rows.map f, t.last, by
    rw [List.pairwise_map]
    exact t.increasing.imp (fun h => by rwa [hf, hf]), by
    intro r hr
    obtain ⟨x, hx, rfl⟩ := List.mem_map.mp hr
    rw [hf]
    exact t.bounded x hx⟩

def filter (t : SerialTable id) (p : α → Bool) : SerialTable id :=
  ⟨t.rows.filter p, t.last, t.increasing.sublist List.filter_sublist,
    fun r hr => t.bounded r (List.mem_filter.mp hr).1⟩

/-- A number belongs to one row. -/
theorem eq_of_id (t : SerialTable id) {a b : α} (ha : a ∈ t.rows) (hb : b ∈ t.rows)
    (h : id a = id b) : a = b := by
  have hinj : (t.rows.map id).Nodup := by
    rw [List.Nodup, List.pairwise_map]
    exact t.increasing.imp Nat.ne_of_lt
  exact List.inj_on_of_nodup_map hinj ha hb h

@[simp] theorem append_rows (t : SerialTable id) (mk : Nat → α) (hmk : ∀ n, id (mk n) = n) :
    (t.append mk hmk).rows = t.rows ++ [mk (t.last + 1)] := rfl

@[simp] theorem append_last (t : SerialTable id) (mk : Nat → α) (hmk : ∀ n, id (mk n) = n) :
    (t.append mk hmk).last = t.last + 1 := rfl

@[simp] theorem map_rows (t : SerialTable id) (f : α → α) (hf : ∀ r, id (f r) = id r) :
    (t.map f hf).rows = t.rows.map f := rfl

@[simp] theorem map_last (t : SerialTable id) (f : α → α) (hf : ∀ r, id (f r) = id r) :
    (t.map f hf).last = t.last := rfl

@[simp] theorem filter_rows (t : SerialTable id) (p : α → Bool) :
    (t.filter p).rows = t.rows.filter p := rfl

@[simp] theorem filter_last (t : SerialTable id) (p : α → Bool) :
    (t.filter p).last = t.last := rfl

theorem filter_append (t : SerialTable id) {mk : Nat → α} (hmk : ∀ n, id (mk n) = n)
    {p : α → Bool} (hp : ∀ n, p (mk n) = true) :
    (t.append mk hmk).filter p = (t.filter p).append mk hmk := by
  apply ext
  · simp [hp]
  · rfl

theorem filter_map (t : SerialTable id) {f : α → α} (hf : ∀ r, id (f r) = id r) {p : α → Bool}
    (hp : ∀ r, p (f r) = p r) : (t.map f hf).filter p = (t.filter p).map f hf := by
  apply ext
  · have hcomp : p ∘ f = p := funext hp
    rw [filter_rows, map_rows, map_rows, filter_rows, List.filter_map, hcomp]
  · rfl

theorem filter_comm (t : SerialTable id) (p q : α → Bool) :
    (t.filter q).filter p = (t.filter p).filter q := by
  apply ext
  · simp only [filter_rows, List.filter_filter, Bool.and_comm]
  · rfl

@[simp] theorem empty_rows : (empty : SerialTable id).rows = [] := rfl

/-! ### Later tables -/

/-- A later table: each of its rows has a number that was not given out before,
or is the row of that number, with the same fact in it. -/
structure Continues {β : Type} (fact : α → β) (t t' : SerialTable id) : Prop where
  last : t.last ≤ t'.last
  rows : ∀ r' ∈ t'.rows, t.last < id r' ∨ ∃ r ∈ t.rows, id r = id r' ∧ fact r = fact r'

namespace Continues

variable {β : Type} {fact : α → β} {t t' t'' : SerialTable id}

theorem refl (t : SerialTable id) : Continues fact t t :=
  ⟨Nat.le_refl _, fun r hr => .inr ⟨r, hr, rfl, rfl⟩⟩

theorem trans (h : Continues fact t t') (h' : Continues fact t' t'') : Continues fact t t'' := by
  refine ⟨h.last.trans h'.last, ?_⟩
  intro r'' hr''
  rcases h'.rows r'' hr'' with hnew | ⟨r', hr', hid', hfact'⟩
  · exact .inl (h.last.trans_lt hnew)
  · rcases h.rows r' hr' with hnew | ⟨r, hr, hid, hfact⟩
    · exact .inl (hid' ▸ hnew)
    · exact .inr ⟨r, hr, hid.trans hid', hfact.trans hfact'⟩

theorem append (t : SerialTable id) (mk : Nat → α) (hmk : ∀ n, id (mk n) = n) :
    Continues fact t (t.append mk hmk) := by
  refine ⟨Nat.le_succ _, ?_⟩
  intro r' hr'
  rcases List.mem_append.mp hr' with hold | hnew
  · exact .inr ⟨r', hold, rfl, rfl⟩
  · rw [List.mem_singleton.mp hnew, hmk]
    exact .inl (Nat.lt_succ_self _)

theorem map (t : SerialTable id) {f : α → α} (hf : ∀ r, id (f r) = id r)
    (hfact : ∀ r, fact (f r) = fact r) : Continues fact t (t.map f hf) := by
  refine ⟨Nat.le_refl _, ?_⟩
  intro r' hr'
  obtain ⟨r, hr, rfl⟩ := List.mem_map.mp hr'
  exact .inr ⟨r, hr, (hf r).symm, (hfact r).symm⟩

theorem filter (t : SerialTable id) (p : α → Bool) : Continues fact t (t.filter p) :=
  ⟨Nat.le_refl _, fun r hr => .inr ⟨r, (List.mem_filter.mp hr).1, rfl, rfl⟩⟩

/-- A number never comes to stand for another row. -/
theorem fact_eq (h : Continues fact t t') {r r' : α} (hr : r ∈ t.rows) (hr' : r' ∈ t'.rows)
    (hid : id r' = id r) : fact r' = fact r := by
  rcases h.rows r' hr' with hnew | ⟨old, hold, hsame, hfact⟩
  · have hbound := t.bounded r hr
    omega
  · obtain rfl := t.eq_of_id hold hr (hsame.trans hid)
    exact hfact.symm

/-- The number of a row that is new is behind all numbers before it. -/
theorem old_or_newer (h : Continues fact t t') {r' : α} (hr' : r' ∈ t'.rows) :
    (∃ r ∈ t.rows, id r = id r') ∨ ∀ r ∈ t.rows, id r < id r' := by
  rcases h.rows r' hr' with hnew | ⟨r, hr, hid, -⟩
  · right
    intro r hr
    exact (t.bounded r hr).trans_lt hnew
  · exact .inl ⟨r, hr, hid⟩

end Continues

end SerialTable

end AtmSystem.Library
