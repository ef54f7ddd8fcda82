import Mathlib.Tactic
import Mathlib.Data.List.Sort

/-!
Rows with a time and a serial number, listed with the newest first. The time
decides and the number breaks ties, so the listing of rows with different
numbers does not depend on the order they come in. A new row goes in front of
the rows that are no newer; where times follow the numbers, the listing is the
reverse of the order in which the rows were numbered.
-/

namespace AtmSystem.Library

section Chronology

variable {α κ : Type} [LinearOrder κ] (time : α → κ) (id : α → Nat)

/-- `a` comes before `b` in a listing with the newest first. -/
def Newer (a b : α) : Prop := time b < time a ∨ (time a = time b ∧ id b ≤ id a)

instance : DecidableRel (Newer time id) := fun a b =>
  inferInstanceAs (Decidable (time b < time a ∨ (time a = time b ∧ id b ≤ id a)))

/-- The rows with the newest first. -/
def listed (rows : List α) : List α := rows.insertionSort (Newer time id)

variable {time id} {a b c : α} {rows : List α}

namespace Newer

theorem total (a b : α) : Newer time id a b ∨ Newer time id b a := by
  rcases lt_trichotomy (time a) (time b) with hlt | heq | hgt
  · exact .inr (.inl hlt)
  · rcases Nat.le_total (id a) (id b) with hle | hle
    · exact .inr (.inr ⟨heq.symm, hle⟩)
    · exact .inl (.inr ⟨heq, hle⟩)
  · exact .inl (.inl hgt)

theorem trans (hab : Newer time id a b) (hbc : Newer time id b c) : Newer time id a c := by
  rcases hab with hab | ⟨hab, hid⟩
  · rcases hbc with hbc | ⟨hbc, -⟩
    · exact .inl (hbc.trans hab)
    · exact .inl (hbc ▸ hab)
  · rcases hbc with hbc | ⟨hbc, hid'⟩
    · exact .inl (hab ▸ hbc)
    · exact .inr ⟨hab.trans hbc, hid'.trans hid⟩

theorem time_le (h : Newer time id a b) : time b ≤ time a := by
  rcases h with hlt | ⟨heq, -⟩
  · exact hlt.le
  · exact heq.ge

/-- Rows that come before each other have one number. -/
theorem same_id (hab : Newer time id a b) (hba : Newer time id b a) : id a = id b := by
  rcases hab with hlt | ⟨heq, hle⟩
  · exact absurd hba.time_le hlt.not_ge
  · rcases hba with hlt | ⟨-, hle'⟩
    · exact absurd heq hlt.ne
    · exact Nat.le_antisymm hle' hle

end Newer

instance : Std.Total (Newer time id) := ⟨Newer.total⟩

instance : IsTrans α (Newer time id) := ⟨fun _ _ _ => Newer.trans⟩

theorem listed_perm (rows : List α) : (listed time id rows).Perm rows :=
  List.perm_insertionSort _ rows

theorem listed_pairwise (rows : List α) : (listed time id rows).Pairwise (Newer time id) :=
  List.pairwise_insertionSort _ rows

/-- A list in the right order is the listing of its rows. -/
theorem eq_listed (hrows : (rows.map id).Nodup) {rows' : List α} (hperm : rows'.Perm rows)
    (hsorted : rows'.Pairwise (Newer time id)) : rows' = listed time id rows := by
  refine List.Perm.eq_of_pairwise ?_ hsorted (listed_pairwise rows)
    (hperm.trans (listed_perm rows).symm)
  intro a b ha hb hab hba
  exact List.inj_on_of_nodup_map hrows (hperm.subset ha) ((listed_perm rows).subset hb)
    (hab.same_id hba)

/-- Picking rows and listing them go in either order. -/
theorem listed_filter (hrows : (rows.map id).Nodup) (p : α → Bool) :
    listed time id (rows.filter p) = (listed time id rows).filter p := by
  symm
  apply eq_listed
  · exact hrows.sublist (List.filter_sublist.map id)
  · exact (listed_perm rows).filter p
  · exact (listed_pairwise rows).sublist List.filter_sublist

/-- A row with a number above all others stands behind the newer ones. -/
theorem listed_concat (hrows : (rows.map id).Nodup) {new : α} (hnew : ∀ r ∈ rows, id r < id new) :
    listed time id (rows ++ [new]) =
      (listed time id rows).takeWhile (fun r => time new < time r) ++
        new :: (listed time id rows).dropWhile fun r => time new < time r := by
  symm
  have hsplit := List.takeWhile_append_dropWhile (p := fun r => decide (time new < time r))
    (l := listed time id rows)
  have hsorted : (listed time id rows).Pairwise (Newer time id) := listed_pairwise rows
  apply eq_listed
  · rw [List.map_append, List.map_singleton, List.nodup_append]
    refine ⟨hrows, List.nodup_singleton _, ?_⟩
    intro n hn m hm
    obtain ⟨r, hr, rfl⟩ := List.mem_map.mp hn
    rw [List.mem_singleton.mp hm]
    exact (hnew r hr).ne
  · refine List.perm_middle.trans ?_
    rw [hsplit]
    exact ((listed_perm rows).cons new).trans (List.perm_append_singleton new rows).symm
  · rw [← hsplit, List.pairwise_append] at hsorted
    obtain ⟨hnewer, holder, hacross⟩ := hsorted
    rw [List.pairwise_append, List.pairwise_cons]
    refine ⟨hnewer, ⟨?_, holder⟩, ?_⟩
    · -- the rows behind the new one are no newer than their first
      intro r hr
      have hmem : r ∈ rows := (listed_perm rows).subset ((List.dropWhile_suffix _).subset hr)
      have hle : time r ≤ time new := by
        cases hrest : (listed time id rows).dropWhile (fun r => decide (time new < time r)) with
        | nil =>
            rw [hrest] at hr
            cases hr
        | cons first rest =>
            have hfirst : time first ≤ time new := by
              have hhead := List.head_dropWhile_not (fun r => decide (time new < time r))
                (l := listed time id rows) (by rw [hrest]; exact List.cons_ne_nil _ _)
              simpa [hrest] using hhead
            rw [hrest] at hr holder
            rcases List.mem_cons.mp hr with rfl | hlater
            · exact hfirst
            · exact ((List.pairwise_cons.mp holder).1 r hlater).time_le.trans hfirst
      rcases hle.lt_or_eq with hlt | heq
      · exact .inl hlt
      · exact .inr ⟨heq.symm, (hnew r hmem).le⟩
    · intro r hr r' hr'
      have hlater : time new < time r := by
        simpa using List.all_eq_true.mp List.all_takeWhile r hr
      rcases List.mem_cons.mp hr' with rfl | hrest
      · exact .inl hlater
      · exact hacross r hr r' hrest

/-- None of the last `n` rows is older than a row in front of it. -/
def LatestLast (time : α → κ) (n : Nat) (rows : List α) : Prop :=
  ∀ before r rest, rows = before ++ r :: rest → rest.length < n → ∀ r' ∈ before, time r' ≤ time r

/-- No row of `recent` is older than a row in front of it. -/
def NoneOlder (time : α → κ) (old recent : List α) : Prop :=
  ∀ before r rest, recent = before ++ r :: rest → ∀ r' ∈ old ++ before, time r' ≤ time r

theorem latestLast_iff (n : Nat) : LatestLast time n rows ↔
    NoneOlder time (rows.take (rows.length - n)) (rows.drop (rows.length - n)) := by
  constructor
  · intro hlatest before r rest hcut
    apply hlatest _ r rest
    · rw [List.append_assoc, ← hcut, List.take_append_drop]
    · have hlength := congrArg List.length hcut
      rw [List.length_drop, List.length_append, List.length_cons] at hlength
      omega
  · intro hrecent before r rest hcut hrest
    have hbefore : rows.length - n ≤ before.length := by
      rw [hcut, List.length_append, List.length_cons]
      omega
    have hdrop : rows.drop (rows.length - n) = before.drop (rows.length - n) ++ r :: rest := by
      rw [← List.drop_append_of_le_length hbefore, ← hcut]
    have htake : rows.take (rows.length - n) = before.take (rows.length - n) := by
      rw [← List.take_append_of_le_length hbefore, ← hcut]
    have holder := hrecent _ r rest hdrop
    rw [htake, List.take_append_drop] at holder
    exact holder

theorem pairwise_of_split {R : α → α → Prop}
    (h : ∀ before r rest, rows = before ++ r :: rest → ∀ r' ∈ before, R r' r) : rows.Pairwise R := by
  induction rows using List.reverseRecOn with
  | nil => exact List.Pairwise.nil
  | append_singleton rows last ih =>
      rw [List.pairwise_append]
      refine ⟨ih ?_, List.pairwise_singleton _ _, ?_⟩
      · intro before r rest hrows
        exact h before r (rest ++ [last]) (by rw [hrows, List.append_assoc]; rfl)
      · intro r' hr' r hr
        rw [List.mem_singleton.mp hr]
        exact h rows last [] rfl r' hr'

section recent

variable {old recent : List α}

/-- Rows that are not older than those in front of them are listed in front. -/
theorem listed_of_noneOlder (hrows : (old ++ recent).Pairwise fun a b => id a < id b)
    (h : NoneOlder time old recent) :
    listed time id (old ++ recent) = recent.reverse ++ listed time id old := by
  have hids : ((old ++ recent).map id).Nodup := by
    rw [List.Nodup, List.pairwise_map]
    exact hrows.imp Nat.ne_of_lt
  have hnewest (r r' : α) (hle : time r' ≤ time r) (hid : id r' < id r) : Newer time id r r' := by
    rcases hle.lt_or_eq with hlt | heq
    · exact .inl hlt
    · exact .inr ⟨heq.symm, hid.le⟩
  obtain ⟨-, hascending, habove⟩ := List.pairwise_append.mp hrows
  symm
  apply eq_listed hids
  · exact ((List.reverse_perm recent).append (listed_perm old)).trans List.perm_append_comm
  · rw [List.pairwise_append, List.pairwise_reverse]
    refine ⟨?_, listed_pairwise old, ?_⟩
    · have htimes : recent.Pairwise fun a b => time a ≤ time b :=
        pairwise_of_split fun before r rest hcut r' hr' =>
          h before r rest hcut r' (List.mem_append_right _ hr')
      exact (htimes.and hascending).imp fun h => hnewest _ _ h.1 h.2
    · intro r hr r' hr'
      rw [List.mem_reverse] at hr
      rw [(listed_perm old).mem_iff] at hr'
      obtain ⟨before, rest, hcut⟩ := List.append_of_mem hr
      exact hnewest r r' (h before r rest hcut r' (List.mem_append_left _ hr')) (habove r' hr' r hr)

theorem noneOlder_of_listed {behind : List α}
    (h : listed time id (old ++ recent) = recent.reverse ++ behind) :
    NoneOlder time old recent := by
  -- behind the recent rows there are the old ones
  have hperm : behind.Perm old := by
    apply (List.perm_append_left_iff recent.reverse).mp
    rw [← h]
    exact (listed_perm _).trans
      (List.perm_append_comm.trans ((List.reverse_perm recent).symm.append_right old))
  have hsorted : (listed time id (old ++ recent)).Pairwise (Newer time id) := listed_pairwise _
  rw [h, List.pairwise_append, List.pairwise_reverse] at hsorted
  obtain ⟨hamong, -, hacross⟩ := hsorted
  intro before r rest hcut r' hr'
  rcases List.mem_append.mp hr' with holder | hbetween
  · have hr : r ∈ recent := by
      rw [hcut]
      exact List.mem_append_right _ List.mem_cons_self
    exact (hacross r (List.mem_reverse.mpr hr) r' (hperm.mem_iff.mpr holder)).time_le
  · rw [hcut, List.pairwise_append] at hamong
    exact (hamong.2.2 r' hbetween r List.mem_cons_self).time_le

end recent

/-- The listing begins with the last rows, the last one first, exactly if none
of them is older than a row in front of it. -/
theorem take_listed_iff (hrows : rows.Pairwise fun a b => id a < id b) (n : Nat) :
    (listed time id rows).take n = rows.reverse.take n ↔ LatestLast time n rows := by
  have hsplit := List.take_append_drop (rows.length - n) rows
  rw [latestLast_iff, List.take_reverse]
  constructor
  · intro hfront
    apply @noneOlder_of_listed _ _ _ time id _ _ ((listed time id rows).drop n)
    rw [hsplit, ← hfront, List.take_append_drop]
  · intro hlatest
    rw [← hsplit] at hrows
    have hlisted := listed_of_noneOlder hrows hlatest
    rw [hsplit] at hlisted
    rw [hlisted]
    rcases Nat.le_total n rows.length with hle | hge
    · apply List.take_left'
      rw [List.length_reverse, List.length_drop]
      omega
    · rw [Nat.sub_eq_zero_of_le hge, List.take_zero, List.drop_zero]
      change (rows.reverse ++ []).take n = _
      rw [List.append_nil, List.take_of_length_le (by rw [List.length_reverse]; exact hge)]

end Chronology

/-- The first row of a sorted list comes before every row, if the rows can be
compared. -/
theorem first_of_insertionSort {α : Type} {r : α → α → Prop} [DecidableRel r] {rows : List α}
    (htotal : ∀ a ∈ rows, ∀ b ∈ rows, r a b ∨ r b a)
    (htrans : ∀ a ∈ rows, ∀ b ∈ rows, ∀ c ∈ rows, r a b → r b c → r a c) {first : α}
    (hfirst : (rows.insertionSort r).head? = some first) : ∀ b ∈ rows, r first b := by
  induction rows generalizing first with
  | nil => cases hfirst
  | cons a rest ih =>
      have hmem {b : α} (hb : b ∈ rest) : b ∈ a :: rest := List.mem_cons_of_mem a hb
      have ha : a ∈ a :: rest := List.mem_cons_self
      have hself : r a a := (htotal a ha a ha).elim id id
      have hrest := @ih (fun b hb c hc => htotal b (hmem hb) c (hmem hc))
        (fun b hb c hc d hd => htrans b (hmem hb) c (hmem hc) d (hmem hd))
      have hperm := List.perm_insertionSort r rest
      rw [List.insertionSort_cons] at hfirst
      cases hsorted : rest.insertionSort r with
      | nil =>
          rw [hsorted] at hfirst hperm
          obtain rfl : a = first := Option.some.inj hfirst
          rw [hperm.nil_eq.symm]
          exact List.forall_mem_singleton.mpr hself
      | cons head others =>
          have hhead : head ∈ rest := hperm.subset (hsorted ▸ List.mem_cons_self)
          have hbefore := hrest (by rw [hsorted]; rfl)
          rw [hsorted, List.orderedInsert] at hfirst
          rw [List.forall_mem_cons]
          by_cases hle : r a head
          · rw [if_pos hle] at hfirst
            obtain rfl : a = first := Option.some.inj hfirst
            exact ⟨hself, fun b hb => htrans _ ha _ (hmem hhead) _ (hmem hb) hle (hbefore b hb)⟩
          · rw [if_neg hle] at hfirst
            obtain rfl : head = first := Option.some.inj hfirst
            exact ⟨(htotal a ha _ (hmem hhead)).resolve_left hle, hbefore⟩

end AtmSystem.Library
