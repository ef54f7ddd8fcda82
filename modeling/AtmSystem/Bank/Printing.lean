import AtmSystem.Semantics.Reports

/-!
What a report prints. The loops of the reports put a header and one line for
each row together; a text that fits the buffer is printed as it is, and a
listing that does not fit is refused.
-/

namespace AtmSystem.Bank

open Library Model Program

/-- A text that fits is printed as it is, or not at all if a call fails. -/
structure Prints (faulty : Prop) (text : Bytes) (answer : Option Bytes) : Prop where
  correct : text.length < maxMessageSize → ∀ printed, answer = some printed → printed = text
  answered : text.length < maxMessageSize → ¬ faulty → answer = some text

theorem prints_text (faulty : Prop) (text : Bytes) : Prints faulty text (some text) :=
  ⟨fun _ _ h => (Option.some.inj h).symm, fun _ _ => rfl⟩

theorem prints_refused {faulty : Prop} {text : Bytes}
    (h : faulty ∨ ¬ text.length < maxMessageSize) : Prints faulty text none := by
  refine ⟨fun _ printed hprinted => ?_, fun hfits hquiet => ?_⟩
  · cases hprinted
  · exact absurd hfits (h.resolve_left hquiet)

section report

variable {Row : Type} {fp : Rounding} {faulty : Prop} {s : Store}

/-- The loop over the rows writes one line for each, and refuses if they are
too long together. -/
theorem appendRows_prints (line : Row → Bytes) (exceeded : Bytes) (rows : List Row) {text : Bytes}
    (htext : text.length < maxMessageSize) :
    Always (SqlAnswers fp faulty) (appendRows line exceeded rows (.holding text)) s
      fun answer _ => Prints faulty (text ++ rows.flatMap line) answer ∧
        (maxMessageSize ≤ (text ++ rows.flatMap line).length → answer = none) := by
  induction rows generalizing text with
  | nil =>
      rw [List.flatMap_nil, List.append_nil]
      exact ⟨prints_text faulty text, fun hlong => by omega⟩
  | cons row rest ih =>
      rw [appendRows, List.flatMap_cons, ← List.append_assoc]
      by_cases hfits : (text ++ line row).length < maxMessageSize
      · rw [appendFormatted_fits hfits]
        simp only [always_bind]
        rintro more s' ⟨rfl | ⟨hfaulty, rfl⟩, rfl⟩
        · exact ih hfits
        · change Always _ (do setErrmsg; return none) _ _
          simp only [always_bind, always_setErrmsg, always_pure]
          exact ⟨prints_refused (.inl hfaulty), fun _ => trivial⟩
      · rw [appendFormatted_exceeds htext (not_lt.mp hfits)]
        simp only [always_bind, always_setError, always_pure]
        refine ⟨prints_refused (.inr fun hshort => hfits ?_), fun _ => trivial⟩
        rw [List.length_append] at hshort
        omega

/-- A report of the rows of a query. -/
theorem listingReport_prints (header : Bytes) {query : Statement (List Row)} {t : Tables}
    {saved : Option Tables} {rows : List Row} (hrows : query.exec fp t = .ok (rows, t))
    (line : Row → Bytes) (noRows exceeded : Bytes) :
    Always (SqlAnswers fp faulty) (listingReport header query line noRows exceeded) ⟨t, saved⟩
      fun answer _ =>
        Prints faulty (header ++ if rows = [] then noRows else rows.flatMap line) answer ∧
          (rows ≠ [] → maxMessageSize ≤ (header ++ rows.flatMap line).length → answer = none) := by
  have hempty : ([] : Bytes).length < maxMessageSize := by decide
  rw [listingReport]
  by_cases hheader : header.length < maxMessageSize
  · have hfits : appendFormatted maxMessageSize ⟨[], 0⟩ header = (true, .holding header) :=
      appendFormatted_fits hheader
    rw [hfits]
    simp only [always_bind, always_executeOrReport, hrows]
    refine ⟨fun hf => ⟨prints_refused (.inl hf), fun _ _ => rfl⟩, ?_⟩
    cases rows with
    | nil =>
        simp only [if_true, always_pure]
        refine ⟨⟨?_, ?_⟩, fun hrow => absurd rfl hrow⟩
        · intro hfits printed hprinted
          rw [appendFormatted_fits hfits] at hprinted
          cases hprinted
          rfl
        · intro hfits _
          rw [appendFormatted_fits hfits]
          rfl
    | cons first rest =>
        rw [if_neg (List.cons_ne_nil first rest)]
        apply (appendRows_prints line exceeded (first :: rest) hheader).mono
        rintro answer s' ⟨hprints, hrefused⟩
        exact ⟨hprints, fun _ => hrefused⟩
  · have hexceeds := appendFormatted_exceeds hempty (not_lt.mp hheader)
    rw [TextBuffer.holding] at hexceeds
    simp only [List.length_nil] at hexceeds
    rw [hexceeds]
    simp only [always_bind, always_setError, always_pure]
    refine ⟨prints_refused (.inr fun hshort => hheader ?_), fun _ _ => trivial⟩
    rw [List.length_append] at hshort
    omega

end report

end AtmSystem.Bank
