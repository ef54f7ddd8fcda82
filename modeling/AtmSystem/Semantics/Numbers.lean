import AtmSystem.Library.HalfEven
import AtmSystem.Model.Double
import Mathlib.Data.List.TakeWhile

/-!
Numbers printed and read back. What `%d` prints, `strtol` reads as the same
number, and what `%.2f` prints of a balance, `strtod` reads as the balance
rounded to cents.
-/

namespace AtmSystem.Model

open Library

/-! ### Digits -/

theorem isdigit_ofNat {d : Nat} (hd : d < 10) : isdigit (UInt8.ofNat (48 + d)) = true := by
  interval_cases d <;> rfl

theorem digitValue_ofNat {d : Nat} (hd : d < 10) : digitValue (UInt8.ofNat (48 + d)) = d := by
  interval_cases d <;> rfl

/-- One digit more. -/
theorem decimalValue_concat (digits : Bytes) (b : UInt8) :
    decimalValue (digits ++ [b]) = 10 * decimalValue digits + digitValue b := by
  simp [decimalValue]

/-- The digits of a number, the last one apart. -/
theorem formatNat_step {n : Nat} (hn : 10 ≤ n) :
    formatNat n = formatNat (n / 10) ++ [UInt8.ofNat (48 + n % 10)] := by
  have hpositive : 0 < n := by omega
  have hshorter : n / 10 ≠ 0 := by omega
  simp only [formatNat, Nat.ne_of_gt hpositive, hshorter, if_false]
  rw [Nat.digits_def' (by omega) hpositive]
  simp

theorem formatNat_digit {n : Nat} (hn : n < 10) : formatNat n = [UInt8.ofNat (48 + n)] := by
  interval_cases n <;> rfl

/-- What holds of the printed digits, if it holds of one digit and goes on
holding with one digit more. -/
theorem formatNat_induction {motive : Nat → Bytes → Prop}
    (hdigit : ∀ n < 10, motive n [UInt8.ofNat (48 + n)])
    (hstep : ∀ n d digits, d < 10 → motive n digits →
      motive (10 * n + d) (digits ++ [UInt8.ofNat (48 + d)])) (n : Nat) :
    motive n (formatNat n) := by
  induction n using Nat.strong_induction_on with
  | _ n ih =>
      by_cases hn : n < 10
      · rw [formatNat_digit hn]
        exact hdigit n hn
      · rw [formatNat_step (by omega)]
        have hlonger := hstep (n / 10) (n % 10) _ (Nat.mod_lt _ (by omega)) (ih (n / 10) (by omega))
        rwa [Nat.div_add_mod] at hlonger

theorem decimalValue_formatNat (n : Nat) : decimalValue (formatNat n) = n := by
  apply formatNat_induction (motive := fun n digits => decimalValue digits = n)
  · intro n hn
    exact (Nat.zero_add _).trans (digitValue_ofNat hn)
  · rintro n d digits hd rfl
    rw [decimalValue_concat, digitValue_ofNat hd]

theorem isdigit_of_formatNat (n : Nat) : ∀ b ∈ formatNat n, isdigit b = true := by
  apply formatNat_induction (motive := fun _ digits => ∀ b ∈ digits, isdigit b = true)
  · intro n hn
    simpa using isdigit_ofNat hn
  · intro n d digits hd hdigits b hb
    rcases List.mem_append.mp hb with hold | hlast
    · exact hdigits b hold
    · rw [List.mem_singleton.mp hlast]
      exact isdigit_ofNat hd

theorem formatNat_ne_nil (n : Nat) : formatNat n ≠ [] := by
  apply formatNat_induction (motive := fun _ digits => digits ≠ [])
  · exact fun _ _ => List.cons_ne_nil _ _
  · simp

theorem formatNat_length {n k : Nat} (hn : n < 10 ^ (k + 1)) : (formatNat n).length ≤ k + 1 := by
  induction k generalizing n with
  | zero => rw [formatNat_digit (by omega)]; simp
  | succ k ih =>
      by_cases hsmall : n < 10
      · rw [formatNat_digit hsmall]
        simp
      · have hshorter := ih (n := n / 10) (by rw [Nat.pow_succ] at hn; omega)
        rw [formatNat_step (by omega), List.length_append, List.length_singleton]
        omega

/-- A run of digits and what cannot continue it. -/
theorem takeWhile_digits {digits rest : Bytes} (hdigits : ∀ b ∈ digits, isdigit b = true)
    (hrest : rest.takeWhile isdigit = []) : (digits ++ rest).takeWhile isdigit = digits := by
  rw [List.takeWhile_append_of_pos hdigits, hrest, List.append_nil]

theorem dropWhile_digits {digits rest : Bytes} (hdigits : ∀ b ∈ digits, isdigit b = true)
    (hrest : rest.takeWhile isdigit = []) : (digits ++ rest).dropWhile isdigit = rest := by
  rw [List.dropWhile_append_of_pos hdigits]
  have hsplit := List.takeWhile_append_dropWhile (p := isdigit) (l := rest)
  rwa [hrest, List.nil_append] at hsplit

/-- A digit is neither a space nor a sign. -/
theorem digit_not_space {b : UInt8} (h : isdigit b = true) :
    isspace b = false ∧ b ≠ 45 ∧ b ≠ 43 := by
  simp only [isdigit, Bool.and_eq_true, decide_eq_true_eq, UInt8.le_iff_toNat_le] at h
  obtain ⟨hlow, -⟩ := h
  have hne (c : UInt8) (hc : c.toNat < 48) : b ≠ c := by
    rintro rfl
    exact absurd hlow (not_le.mpr hc)
  refine ⟨?_, hne 45 (by decide), hne 43 (by decide)⟩
  simp only [isspace, Bool.or_eq_false_iff, beq_eq_false_iff_ne, Bool.and_eq_false_iff,
    decide_eq_false_iff_not, UInt8.le_iff_toNat_le]
  exact ⟨hne 32 (by decide), .inr (not_le.mpr (lt_of_lt_of_le (by decide) hlow))⟩

/-- A number that starts with a digit is read from there. -/
theorem read_unsigned {text : Bytes} (hfirst : ∃ b rest, text = b :: rest ∧ isdigit b = true) :
    text.dropWhile isspace = text ∧ readSign text = (false, text) := by
  obtain ⟨b, rest, rfl, hb⟩ := hfirst
  obtain ⟨hspace, hminus, hplus⟩ := digit_not_space hb
  refine ⟨List.dropWhile_cons_of_neg (by simp [hspace]), ?_⟩
  simp [readSign, hminus, hplus]

theorem formatNat_first (n : Nat) (rest : Bytes) :
    ∃ b more, formatNat n ++ rest = b :: more ∧ isdigit b = true := by
  obtain ⟨b, more, hnat⟩ := List.exists_cons_of_ne_nil (formatNat_ne_nil n)
  refine ⟨b, more ++ rest, by rw [hnat, List.cons_append], ?_⟩
  exact isdigit_of_formatNat n b (by rw [hnat]; exact List.mem_cons_self)

/-! ### Integers -/

/-- `strtol` reads what `%d` prints, in front of anything but more digits. -/
theorem strtol_formatInt {n : Int} (hlow : longMin ≤ n) (hhigh : n ≤ longMax) {rest : Bytes}
    (hrest : rest.takeWhile isdigit = []) : strtol (formatInt n ++ rest) = some (n, rest) := by
  obtain ⟨hspace, hsign⟩ := read_unsigned (formatNat_first n.natAbs rest)
  have htake := takeWhile_digits (isdigit_of_formatNat n.natAbs) hrest
  have hdrop := dropWhile_digits (isdigit_of_formatNat n.natAbs) hrest
  by_cases hn : n < 0
  · have hminus : (45 :: (formatNat n.natAbs ++ rest)).dropWhile isspace =
        45 :: (formatNat n.natAbs ++ rest) := rfl
    simp only [strtol, formatInt, hn, if_true, List.cons_append, hminus, readSign, htake, hdrop,
      formatNat_ne_nil, if_false, decimalValue_formatNat]
    congr 2
    omega
  · simp only [strtol, formatInt, hn, if_false, hspace, hsign, htake, hdrop, formatNat_ne_nil,
      decimalValue_formatNat, Bool.false_eq_true]
    congr 2
    omega

theorem parseInt_formatInt {n : Int} (hlow : intMin ≤ n) (hhigh : n ≤ intMax) :
    parseInt (formatInt n) = some n := by
  have hread : strtol (formatInt n ++ []) = some (n, []) :=
    strtol_formatInt (le_trans (by decide) hlow) (hhigh.trans (by decide)) rfl
  rw [List.append_nil] at hread
  have hsmall : ¬ (n < intMin ∨ intMax < n) := by omega
  simp [parseInt, hread, hsmall]

/-- What `%d` prints of an `int`: digits, behind a minus if it is negative. -/
theorem formatInt_bytes (n : Int) : ∀ b ∈ formatInt n, isdigit b = true ∨ b = 45 := by
  intro b hb
  unfold formatInt at hb
  split at hb
  · rcases List.mem_cons.mp hb with hminus | hdigits
    · exact .inr hminus
    · exact .inl (isdigit_of_formatNat _ b hdigits)
  · exact .inl (isdigit_of_formatNat _ b hb)

theorem formatInt_length {n : Int} (hlow : intMin ≤ n) (hhigh : n ≤ intMax) :
    (formatInt n).length ≤ 11 := by
  have hdigits : (formatNat n.natAbs).length ≤ 9 + 1 := by
    apply formatNat_length
    simp only [intMin, intMax] at hlow hhigh
    omega
  unfold formatInt
  split
  · rw [List.length_cons]
    omega
  · omega

/-! ### Amounts -/

theorem lower_of_digit {b : UInt8} (h : isdigit b = true) : lower b = b := by
  simp only [isdigit, Bool.and_eq_true, decide_eq_true_eq, UInt8.le_iff_toNat_le] at h
  have hsmall : ¬ 65 ≤ b.toNat := not_le.mpr (lt_of_le_of_lt h.2 (by decide))
  simp only [lower, Bool.and_eq_true, decide_eq_true_eq, UInt8.le_iff_toNat_le]
  rw [if_neg]
  exact fun hletter => hsmall hletter.1

/-- A text that starts with a digit does not start with a word. -/
theorem stripWord_digit {word text : Bytes} {c : UInt8} (hword : word.head? = some c)
    (hc : isdigit c = false) (htext : ∃ b rest, text = b :: rest ∧ isdigit b = true) :
    stripWord word text = none := by
  obtain ⟨w, rfl⟩ := List.head?_eq_some_iff.mp hword
  obtain ⟨b, rest, rfl, hb⟩ := htext
  rw [stripWord, if_neg]
  rintro heq
  simp only [List.length_cons, List.take_succ_cons, List.map_cons, List.cons.injEq,
    lower_of_digit hb] at heq
  rw [heq.1, hc] at hb
  cases hb

/-- The text of an amount: the whole part, a point and two digits. -/
def amountText (cents : Nat) : Bytes :=
  formatNat (cents / 100) ++
    [46, UInt8.ofNat (48 + cents / 10 % 10), UInt8.ofNat (48 + cents % 10)]

theorem amountText_first (cents : Nat) :
    ∃ b more, amountText cents = b :: more ∧ isdigit b = true :=
  formatNat_first (cents / 100) _

theorem formatAmount_nonneg {q : ℚ} (hq : 0 ≤ q) :
    formatAmount (.fin q) = amountText (roundHalfEven (q * 100)) := by
  simp only [formatAmount, abs_of_nonneg hq, not_lt.mpr hq, if_false, List.nil_append, amountText]

/-- The second byte of an amount is a digit or the point, so it is no
hexadecimal number. -/
theorem readHex_amountText (cents : Nat) : readHex (amountText cents) = none := by
  have hsecond : ∃ b c rest, amountText cents = b :: c :: rest ∧ lower c ≠ 120 := by
    obtain ⟨b, more, hnat⟩ := List.exists_cons_of_ne_nil (formatNat_ne_nil (cents / 100))
    rw [amountText, hnat]
    cases more with
    | nil => exact ⟨b, 46, _, rfl, by decide⟩
    | cons c rest =>
        refine ⟨b, c, _, rfl, ?_⟩
        have hc := isdigit_of_formatNat (cents / 100) c (by simp [hnat])
        rw [lower_of_digit hc]
        rintro rfl
        cases hc
  obtain ⟨b, c, rest, htext, hc⟩ := hsecond
  have hword : ascii "0x" = [48, 120] := by decide
  rw [htext, readHex, hword, stripWord, if_neg]
  · rfl
  · simp [hc]

/-- The digits of an amount spell its cents. -/
theorem decimalValue_amount (cents : Nat) :
    decimalValue (formatNat (cents / 100) ++
      [UInt8.ofNat (48 + cents / 10 % 10), UInt8.ofNat (48 + cents % 10)]) = cents := by
  have hfirst : cents / 10 % 10 < 10 := Nat.mod_lt _ (by omega)
  have hsecond : cents % 10 < 10 := Nat.mod_lt _ (by omega)
  rw [← List.singleton_append, ← List.append_assoc, decimalValue_concat, decimalValue_concat,
    decimalValue_formatNat, digitValue_ofNat hfirst, digitValue_ofNat hsecond]
  omega

theorem readDecimal_amountText (cents : Nat) :
    readDecimal (amountText cents) = some (.fin (cents / 100), []) := by
  have hfirst : isdigit (UInt8.ofNat (48 + cents / 10 % 10)) = true :=
    isdigit_ofNat (Nat.mod_lt _ (by omega))
  have hsecond : isdigit (UInt8.ofNat (48 + cents % 10)) = true :=
    isdigit_ofNat (Nat.mod_lt _ (by omega))
  have hpoint : ([46, UInt8.ofNat (48 + cents / 10 % 10),
      UInt8.ofNat (48 + cents % 10)] : Bytes).takeWhile isdigit = [] := rfl
  have hmantissa : readMantissa 10 isdigit digitValue (amountText cents) = some (cents, 2, []) := by
    have hvalue := decimalValue_amount cents
    rw [decimalValue] at hvalue
    simp only [readMantissa, amountText,
      takeWhile_digits (isdigit_of_formatNat (cents / 100)) hpoint,
      dropWhile_digits (isdigit_of_formatNat (cents / 100)) hpoint, List.takeWhile_cons,
      List.dropWhile_cons, hfirst, hsecond, if_true, List.takeWhile_nil, List.dropWhile_nil,
      formatNat_ne_nil, false_and, if_false, hvalue]
    rfl
  have hscaled : scaled cents 10 (0 - (2 : Nat)) = cents / 100 := by
    rw [show (0 - (2 : Nat) : Int) = .negSucc 1 from rfl, scaled, Rat.mkRat_eq_div]
    norm_num
  simp only [readDecimal, hmantissa, Option.bind_eq_bind, Option.bind_some, readExponent, hscaled]
  rfl

/-- `parse_double` reads an amount back as it was printed, with its sign. -/
theorem parseDouble_signed (negative : Bool) (cents : Nat) :
    parseDouble .exact ((if negative then [45] else []) ++ amountText cents) =
      some (.fin (if negative then -(cents / 100) else cents / 100)) := by
  have hfirst := amountText_first cents
  have hinfinity : readInfinity (amountText cents) = none := by
    rw [readInfinity, stripWord_digit (c := 105) rfl rfl hfirst,
      stripWord_digit (c := 105) rfl rfl hfirst]
    rfl
  have hnan : readNaN (amountText cents) = none := by
    rw [readNaN, stripWord_digit (c := 110) rfl rfl hfirst]
    rfl
  have hsign : readSign (((if negative then [45] else []) ++ amountText cents).dropWhile isspace) =
      (negative, amountText cents) := by
    cases negative with
    | true => rfl
    | false =>
        obtain ⟨hspace, hunsigned⟩ := read_unsigned hfirst
        simp only [Bool.false_eq_true, if_false, List.nil_append, hspace, hunsigned]
  have hread : strtod .exact ((if negative then [45] else []) ++ amountText cents) =
      some (.fin (if negative then -(cents / 100) else cents / 100), []) := by
    simp only [strtod, hsign, hinfinity, hnan, readHex_amountText, readDecimal_amountText]
    rfl
  simp [parseDouble, hread]

theorem parseDouble_amountText (cents : Nat) :
    parseDouble .exact (amountText cents) = some (.fin (cents / 100)) :=
  parseDouble_signed false cents

/-- What is shown of a balance is the balance rounded to cents. -/
theorem parseDouble_formatAmount {q : ℚ} (hq : 0 ≤ q) :
    parseDouble .exact (formatAmount (.fin q)) = some (.fin (roundHalfEven (q * 100) / 100)) := by
  rw [formatAmount_nonneg hq, parseDouble_amountText]

theorem roundHalfEven_rounds {q : ℚ} (hq : 0 ≤ q) : RoundsHalfEven q (roundHalfEven q) := by
  have hwhole : ((q.floor.toNat : ℕ) : ℚ) = q.floor := by
    exact_mod_cast Int.toNat_of_nonneg (Int.floor_nonneg.mpr hq)
  have hlow : ((q.floor.toNat : ℕ) : ℚ) ≤ q := hwhole ▸ Int.floor_le q
  have hhigh : q < (q.floor.toNat : ℕ) + 1 := hwhole ▸ Int.lt_floor_add_one q
  unfold roundHalfEven
  generalize q.floor.toNat = whole at hlow hhigh ⊢
  dsimp only
  split
  · rename_i hbelow
    have hdistance : |q - ((whole : ℤ) : ℚ)| < 1 / 2 := by
      rw [Int.cast_natCast, abs_of_nonneg (by linarith)]
      exact hbelow
    exact ⟨hdistance.le, fun htie => absurd htie hdistance.ne⟩
  split
  · rename_i habove
    have hdistance : |q - (((whole + 1 : ℕ) : ℤ) : ℚ)| < 1 / 2 := by
      rw [Int.cast_natCast, Nat.cast_succ, abs_of_nonpos (by linarith)]
      linarith
    exact ⟨hdistance.le, fun htie => absurd htie hdistance.ne⟩
  -- a tie
  have htie : q - whole = 1 / 2 := by linarith
  split
  · rename_i heven
    refine ⟨?_, fun _ => ?_⟩
    · rw [Int.cast_natCast, htie, abs_of_nonneg (by norm_num)]
    · exact (Int.even_coe_nat whole).mpr (Nat.even_iff.mpr heven)
  · rename_i hodd
    refine ⟨?_, fun _ => ?_⟩
    · rw [Int.cast_natCast, Nat.cast_succ, abs_of_nonpos (by linarith)]
      linarith
    · exact (Int.even_coe_nat (whole + 1)).mpr (Nat.even_iff.mpr (by omega))

theorem roundHalfEven_natCast (n : Nat) : roundHalfEven n = n := by
  have hsame := (roundHalfEven_rounds (Nat.cast_nonneg n)).unique
    (RoundsHalfEven.intCast (K := ℚ) n)
  exact_mod_cast hsame

/-- A whole number of cents is shown as it is. -/
theorem parseDouble_formatCents (cents : Nat) :
    parseDouble .exact (formatAmount (.fin (cents / 100))) = some (.fin (cents / 100)) := by
  have hcents : (cents / 100 * 100 : ℚ) = cents := by ring
  rw [parseDouble_formatAmount (by positivity), hcents, roundHalfEven_natCast]

/-- An amount is written in digits and a point. -/
theorem amountText_bytes (cents : Nat) : ∀ b ∈ amountText cents, isdigit b = true ∨ b = 46 := by
  intro b hb
  rw [amountText, List.mem_append] at hb
  rcases hb with hwhole | hfraction
  · exact .inl (isdigit_of_formatNat _ b hwhole)
  · rcases List.mem_cons.mp hfraction with hpoint | hcents
    · exact .inr hpoint
    · refine .inl ?_
      rcases List.mem_pair.mp hcents with rfl | rfl
      · exact isdigit_ofNat (Nat.mod_lt _ (by omega))
      · exact isdigit_ofNat (Nat.mod_lt _ (by omega))

theorem formatCents (cents : Nat) : formatAmount (.fin (cents / 100)) = amountText cents := by
  have hcents : (cents / 100 * 100 : ℚ) = cents := by ring
  rw [formatAmount_nonneg (by positivity), hcents, roundHalfEven_natCast]

theorem roundHalfEven_le {q : ℚ} (hq : 0 ≤ q) : (roundHalfEven q : ℚ) ≤ q + 1 := by
  obtain ⟨hlow, -⟩ := abs_le.mp (roundHalfEven_rounds hq).near
  rw [Int.cast_natCast] at hlow
  linarith

/-- A sign, the digits of the whole part, a point and two digits. -/
theorem formatAmount_length {q : ℚ} (bound k : ℕ) (hq : |q| < bound)
    (hbound : bound * 100 + 1 ≤ 100 * 10 ^ (k + 1)) : (formatAmount (.fin q)).length ≤ k + 5 := by
  have hcents : roundHalfEven (|q| * 100) / 100 < 10 ^ (k + 1) := by
    apply Nat.div_lt_of_lt_mul
    have hle := roundHalfEven_le (q := |q| * 100) (by positivity)
    have hless : (roundHalfEven (|q| * 100) : ℚ) < ((bound * 100 + 1 : ℕ) : ℚ) := by
      push_cast
      linarith
    exact (Nat.cast_lt.mp hless).trans_le hbound
  have hwhole := formatNat_length hcents
  simp only [formatAmount, List.length_append, List.length_cons, List.length_nil]
  split
  · rw [List.length_singleton]
    omega
  · rw [List.length_nil]
    omega

/-- A number in the range of a double has at most 309 digits in front of the
point. -/
theorem formatAmount_length_of_range {q : ℚ} (hq : |q| < 2 ^ 1024) :
    (formatAmount (.fin q)).length ≤ 313 := by
  have hpower : 2 ^ 1024 * 100 + 1 ≤ 100 * 10 ^ (308 + 1) := by decide +kernel
  refine formatAmount_length (2 ^ 1024) 308 ?_ hpower
  rwa [Nat.cast_pow]

/-- `y` is the whole number of cents next to `x`, the even one of two that are
equally near; what is not finite stays what it is. -/
def NearestCents : Double → Double → Prop
  | .fin q, y => ∃ cents : ℤ, y = .fin (cents / 100) ∧ RoundsHalfEven (q * 100) cents
  | x, y => y = x

/-- What `%.2f` prints of a number is read as the nearest whole cents. -/
theorem parseDouble_formatAmount_nearest (x : Double) :
    ∃ y, parseDouble .exact (formatAmount x) = some y ∧ NearestCents x y := by
  cases x with
  | nan => exact ⟨.nan, by decide +kernel, rfl⟩
  | negInf => exact ⟨.negInf, by decide +kernel, rfl⟩
  | posInf => exact ⟨.posInf, by decide +kernel, rfl⟩
  | fin q =>
      have hrounds := roundHalfEven_rounds (q := |q| * 100) (by positivity)
      by_cases hq : q < 0
      · have htext : formatAmount (.fin q) =
            (if true then [45] else []) ++ amountText (roundHalfEven (|q| * 100)) := by
          simp only [formatAmount, hq, if_true, amountText, List.append_assoc]
        rw [htext, parseDouble_signed]
        refine ⟨_, rfl, -(roundHalfEven (|q| * 100) : ℤ), ?_, ?_⟩
        · push_cast
          rw [neg_div]
          rfl
        · have hneg := hrounds.neg
          have hsame : -(|q| * 100) = q * 100 := by
            rw [abs_of_neg hq]
            ring
          rwa [hsame] at hneg
      · rw [not_lt] at hq
        rw [parseDouble_formatAmount hq]
        refine ⟨_, rfl, (roundHalfEven (q * 100) : ℤ), by push_cast; rfl, ?_⟩
        rwa [abs_of_nonneg hq] at hrounds

/-- A whole number of cents is its own nearest. -/
theorem NearestCents.eq_of_whole {cents : ℤ} {y : Double}
    (h : NearestCents (.fin (cents / 100)) y) : y = .fin (cents / 100) := by
  obtain ⟨nearest, rfl, hrounds⟩ := h
  have hcents : (cents / 100 * 100 : ℚ) = cents := by ring
  rw [hcents] at hrounds
  rw [hrounds.unique (.intCast cents)]

/-- `%.2f` prints digits, a sign and a point, or a word. -/
theorem formatAmount_bytes (x : Double) :
    ∀ b ∈ formatAmount x, isdigit b = true ∨ b ∈ ascii "-.nanif" := by
  have hword {word : Bytes} (h : (word.all fun b => b ∈ ascii "-.nanif") = true) :
      ∀ b ∈ word, isdigit b = true ∨ b ∈ ascii "-.nanif" := by
    intro b hb
    exact .inr (of_decide_eq_true (List.all_eq_true.mp h b hb))
  cases x with
  | nan => exact hword rfl
  | negInf => exact hword rfl
  | posInf => exact hword rfl
  | fin q =>
      intro b hb
      simp only [formatAmount, List.append_assoc] at hb
      rcases List.mem_append.mp hb with hsign | hnumber
      · split at hsign
        · rw [List.mem_singleton.mp hsign]
          decide
        · cases hsign
      · rcases amountText_bytes _ b hnumber with hdigit | rfl
        · exact .inl hdigit
        · decide

theorem formatAmount_noNul (x : Double) : 0 ∉ formatAmount x := by
  intro hmem
  rcases formatAmount_bytes x 0 hmem with hdigit | hmark
  · cases hdigit
  · revert hmark
    decide

theorem formatInt_noNul (n : Int) : 0 ∉ formatInt n := by
  intro hmem
  rcases formatInt_bytes n 0 hmem with hdigit | hsign
  · cases hdigit
  · cases hsign

end AtmSystem.Model
