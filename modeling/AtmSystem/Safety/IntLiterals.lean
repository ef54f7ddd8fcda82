import AtmSystem.Semantics.Numbers
import Mathlib.Data.Nat.Digits.Lemmas

/-!
`parse_int` against the grammar of the int literals. `strtol` saturates and
`errno` is not looked at, so a literal beyond `long` comes back as the end of
that range; the test against the range of an int, which is narrower, refuses
it all the same.
-/

namespace AtmSystem.Model

/-- The number that a run of decimal digits stands for. -/
def digitsValue (digits : Bytes) : Nat := Nat.ofDigits 10 (digits.reverse.map digitValue)

/-- Blanks, an optional sign, decimal digits and blanks, with the value of the
signed digits. -/
inductive IntLiteral : Bytes → Int → Prop where
  | nonneg {lead sign digits trail : Bytes} (hlead : ∀ b ∈ lead, isspace b = true)
      (hsign : sign = [] ∨ sign = ascii "+") (hsome : digits ≠ [])
      (hdigits : ∀ b ∈ digits, isdigit b = true) (htrail : ∀ b ∈ trail, isspace b = true) :
      IntLiteral (lead ++ (sign ++ (digits ++ trail))) (digitsValue digits)
  | negative {lead digits trail : Bytes} (hlead : ∀ b ∈ lead, isspace b = true)
      (hsome : digits ≠ []) (hdigits : ∀ b ∈ digits, isdigit b = true)
      (htrail : ∀ b ∈ trail, isspace b = true) :
      IntLiteral (lead ++ (ascii "-" ++ (digits ++ trail))) (-digitsValue digits)

theorem decimalValue_eq (digits : Bytes) : decimalValue digits = digitsValue digits := by
  induction digits using List.reverseRecOn with
  | nil => rfl
  | append_singleton digits b ih =>
      rw [decimalValue_concat, ih, digitsValue, digitsValue, List.reverse_append,
        List.reverse_singleton, List.singleton_append, List.map_cons, Nat.ofDigits_cons]
      omega

/-! ### What `strtol` reads -/

/-- The value of signed digits, as far as a `long` goes. -/
def saturated (negative : Bool) (digits : Bytes) : Int :=
  max longMin (min longMax (if negative then -digitsValue digits else digitsValue digits))

theorem space_not_digit {b : UInt8} (h : isspace b = true) : isdigit b = false := by
  by_contra hdigit
  rw [(digit_not_space (Bool.not_eq_false _ ▸ hdigit)).1] at h
  cases h

theorem takeWhile_blanks {trail : Bytes} (h : ∀ b ∈ trail, isspace b = true) :
    trail.takeWhile isdigit = [] := by
  cases trail with
  | nil => rfl
  | cons b rest =>
      rw [List.takeWhile_cons_of_neg]
      simp [space_not_digit (h b List.mem_cons_self)]

/-- Behind the blanks and the sign `strtol` finds the digits. -/
theorem strtol_digits {lead signed digits trail : Bytes} {negative : Bool}
    (hlead : ∀ b ∈ lead, isspace b = true) (hstart : signed.dropWhile isspace = signed)
    (hsign : readSign signed = (negative, digits ++ trail)) (hsome : digits ≠ [])
    (hdigits : ∀ b ∈ digits, isdigit b = true) (htrail : ∀ b ∈ trail, isspace b = true) :
    strtol (lead ++ signed) = some (saturated negative digits, trail) := by
  have hblanks : (lead ++ signed).dropWhile isspace = signed := by
    rw [List.dropWhile_append_of_pos hlead, hstart]
  have htake := takeWhile_digits hdigits (takeWhile_blanks htrail)
  have hdrop := dropWhile_digits hdigits (takeWhile_blanks htrail)
  simp only [strtol, hblanks, hsign, htake, hdrop, hsome, if_false, decimalValue_eq, saturated]

/-- A literal is read to its trailing blanks. -/
theorem IntLiteral.strtol {text : Bytes} {n : Int} (h : IntLiteral text n) :
    ∃ trail, strtol text = some (max longMin (min longMax n), trail) ∧
      ∀ b ∈ trail, isspace b = true := by
  have hfirst {digits : Bytes} (hsome : digits ≠ []) (hdigits : ∀ b ∈ digits, isdigit b = true)
      (trail : Bytes) : ∃ b rest, digits ++ trail = b :: rest ∧ isdigit b = true := by
    obtain ⟨b, more, rfl⟩ := List.exists_cons_of_ne_nil hsome
    exact ⟨b, more ++ trail, rfl, hdigits b List.mem_cons_self⟩
  cases h with
  | @nonneg lead sign digits trail hlead hsign hsome hdigits htrail =>
      refine ⟨trail, ?_, htrail⟩
      rcases hsign with rfl | rfl
      · obtain ⟨hstart, hread⟩ := read_unsigned (hfirst hsome hdigits trail)
        exact strtol_digits hlead hstart hread hsome hdigits htrail
      · have hread : readSign (ascii "+" ++ (digits ++ trail)) = (false, digits ++ trail) := rfl
        exact strtol_digits hlead rfl hread hsome hdigits htrail
  | @negative lead digits trail hlead hsome hdigits htrail =>
      have hread : readSign (ascii "-" ++ (digits ++ trail)) = (true, digits ++ trail) := rfl
      exact ⟨trail, strtol_digits hlead rfl hread hsome hdigits htrail, htrail⟩

/-- What `readSign` makes of a text. -/
theorem readSign_cases (text : Bytes) :
    readSign text = (false, text) ∨
      (∃ rest, text = ascii "+" ++ rest ∧ readSign text = (false, rest)) ∨
      ∃ rest, text = ascii "-" ++ rest ∧ readSign text = (true, rest) := by
  cases text with
  | nil => exact .inl rfl
  | cons b rest =>
      rw [readSign]
      split
      · rename_i hminus
        subst hminus
        exact .inr (.inr ⟨rest, rfl, rfl⟩)
      · split
        · rename_i hplus
          subst hplus
          exact .inr (.inl ⟨rest, rfl, rfl⟩)
        · exact .inl rfl

/-- What `strtol` reads in front of blanks is a literal. -/
theorem literal_of_strtol {text trail : Bytes} {parsed : Int}
    (h : strtol text = some (parsed, trail)) (htrail : ∀ b ∈ trail, isspace b = true) :
    ∃ n, IntLiteral text n ∧ parsed = max longMin (min longMax n) := by
  have hlead : ∀ b ∈ text.takeWhile isspace, isspace b = true := fun b hb =>
    List.mem_takeWhile_imp hb
  have hsplit : text.takeWhile isspace ++ text.dropWhile isspace = text :=
    List.takeWhile_append_dropWhile
  rw [← hsplit]
  generalize text.takeWhile isspace = lead at hlead
  have hread (unsigned : Bytes) (negative : Bool)
      (hsign : readSign (text.dropWhile isspace) = (negative, unsigned)) :
      ∃ digits, digits ≠ [] ∧ (∀ b ∈ digits, isdigit b = true) ∧
        parsed = saturated negative digits ∧ unsigned = digits ++ trail := by
    simp only [strtol, hsign] at h
    split at h
    · cases h
    · rename_i hsome
      cases h
      refine ⟨unsigned.takeWhile isdigit, hsome, fun b hb => List.mem_takeWhile_imp hb, ?_,
        List.takeWhile_append_dropWhile.symm⟩
      rw [decimalValue_eq, saturated]
  rcases readSign_cases (text.dropWhile isspace) with hsign | ⟨rest, hrest, hsign⟩ |
    ⟨rest, hrest, hsign⟩
  · obtain ⟨digits, hsome, hdigits, hparsed, hall⟩ := hread _ _ hsign
    rw [hall]
    exact ⟨_, .nonneg hlead (.inl rfl) hsome hdigits htrail, hparsed⟩
  · obtain ⟨digits, hsome, hdigits, hparsed, rfl⟩ := hread _ _ hsign
    rw [hrest]
    exact ⟨_, .nonneg hlead (.inr rfl) hsome hdigits htrail, hparsed⟩
  · obtain ⟨digits, hsome, hdigits, hparsed, rfl⟩ := hread _ _ hsign
    rw [hrest]
    exact ⟨_, .negative hlead hsome hdigits htrail, hparsed⟩

/-! ### What `parse_int` accepts -/

/-- Saturation moves no value into the range of an int. -/
theorem saturated_range (n : Int) :
    (max longMin (min longMax n) < intMin ∨ intMax < max longMin (min longMax n) ↔
      n < intMin ∨ intMax < n) ∧
      (intMin ≤ n → n ≤ intMax → max longMin (min longMax n) = n) := by
  simp only [longMin, longMax, intMin, intMax]
  omega

theorem parseInt_literal {text : Bytes} {n : Int} (h : IntLiteral text n) :
    parseInt text = if n < intMin ∨ intMax < n then none else some n := by
  obtain ⟨trail, hread, htrail⟩ := h.strtol
  have hblank : trail.dropWhile isspace = [] := List.dropWhile_eq_nil_iff.mpr htrail
  obtain ⟨hrange, hsame⟩ := saturated_range n
  simp only [parseInt, hread, hblank, ne_eq, not_true_eq_false, false_or, hrange]
  by_cases hbeyond : n < intMin ∨ intMax < n
  · simp only [hbeyond, if_true]
  · rw [not_or, not_lt, not_lt] at hbeyond
    rw [hsame hbeyond.1 hbeyond.2]

theorem literal_of_parseInt {text : Bytes} {n : Int} (h : parseInt text = some n) :
    ∃ m, IntLiteral text m := by
  unfold parseInt at h
  split at h
  · cases h
  · rename_i parsed rest hread
    split at h
    · cases h
    · rename_i haccepted
      rw [not_or, not_not] at haccepted
      obtain ⟨m, hliteral, -⟩ :=
        literal_of_strtol hread (List.dropWhile_eq_nil_iff.mp haccepted.1)
      exact ⟨m, hliteral⟩

/-- `parse_int` accepts the literals whose value is an int, with that value,
and nothing else; a literal with any other value, however long, is refused. -/
theorem parseInt_accepts_exactly (text : Bytes) :
    (∀ n, parseInt text = some n ↔ IntLiteral text n ∧ intMin ≤ n ∧ n ≤ intMax) ∧
      (parseInt text = none ↔ ¬ ∃ n, IntLiteral text n ∧ intMin ≤ n ∧ n ≤ intMax) ∧
      ∀ n, IntLiteral text n → n < intMin ∨ intMax < n → parseInt text = none := by
  have haccepts (n : Int) : parseInt text = some n ↔
      IntLiteral text n ∧ intMin ≤ n ∧ n ≤ intMax := by
    constructor
    · intro h
      obtain ⟨m, hliteral⟩ := literal_of_parseInt h
      rw [parseInt_literal hliteral] at h
      split at h
      · cases h
      · cases h
        exact ⟨hliteral, by omega⟩
    · rintro ⟨hliteral, hrange⟩
      rw [parseInt_literal hliteral, if_neg (by omega)]
  refine ⟨haccepts, ?_, ?_⟩
  · simp only [← haccepts, ← Option.isSome_iff_exists, Bool.not_eq_true, Option.isSome_eq_false_iff,
      Option.isNone_iff_eq_none]
  · intro n hliteral hbeyond
    rw [parseInt_literal hliteral, if_pos hbeyond]

end AtmSystem.Model
