import AtmSystem.Model.Text
import Mathlib.Data.Rat.Floor

/-!
C doubles as extended values: finite numbers, the two infinities and NaN,
with the IEEE comparisons. Arithmetic on finite values is exact arithmetic
followed by a rounding, which is a parameter; `Rounding.exact` rounds nothing.
The two zeros of IEEE arithmetic are one value here: no comparison of the
program tells them apart. `strtod` and `%.2f` follow the C standard in the "C"
locale, with the exact value of the text rounded once.
-/

namespace AtmSystem.Model

inductive Double where
  | nan
  | negInf
  | fin (q : ℚ)
  | posInf
  deriving DecidableEq

namespace Double

instance : Zero Double := ⟨.fin 0⟩

def isNaN : Double → Bool
  | .nan => true
  | _ => false

def isFinite : Double → Bool
  | .fin _ => true
  | _ => false

/-- The `<=` of C: false as soon as one side is NaN. -/
protected def le : Double → Double → Prop
  | .nan, _ | _, .nan => False
  | .negInf, _ | _, .posInf => True
  | .fin a, .fin b => a ≤ b
  | .fin _, .negInf | .posInf, .negInf | .posInf, .fin _ => False

/-- The `<` of C: false as soon as one side is NaN. -/
protected def lt : Double → Double → Prop
  | .nan, _ | _, .nan => False
  | .fin a, .fin b => a < b
  | .negInf, .fin _ | .negInf, .posInf | .fin _, .posInf => True
  | .negInf, .negInf | .posInf, .posInf => False
  | .fin _, .negInf | .posInf, .negInf | .posInf, .fin _ => False

instance : LE Double := ⟨Double.le⟩
instance : LT Double := ⟨Double.lt⟩

instance : DecidableLE Double := fun x y =>
  match x, y with
  | .nan, _ => .isFalse (by cases y <;> exact id)
  | .negInf, .nan | .fin _, .nan | .posInf, .nan => .isFalse id
  | .negInf, .negInf | .negInf, .fin _ | .negInf, .posInf => .isTrue trivial
  | .fin _, .posInf | .posInf, .posInf => .isTrue trivial
  | .fin a, .fin b => inferInstanceAs (Decidable (a ≤ b))
  | .fin _, .negInf | .posInf, .negInf | .posInf, .fin _ => .isFalse id

instance : DecidableLT Double := fun x y =>
  match x, y with
  | .nan, _ => .isFalse (by cases y <;> exact id)
  | .negInf, .nan | .fin _, .nan | .posInf, .nan => .isFalse id
  | .fin a, .fin b => inferInstanceAs (Decidable (a < b))
  | .negInf, .fin _ | .negInf, .posInf | .fin _, .posInf => .isTrue trivial
  | .negInf, .negInf | .posInf, .posInf => .isFalse id
  | .fin _, .negInf | .posInf, .negInf | .posInf, .fin _ => .isFalse id

/-- The finite value, and 0 for the values that have none. -/
def value : Double → ℚ
  | .fin q => q
  | _ => 0

@[simp] theorem fin_le_fin {a b : ℚ} : Double.fin a ≤ .fin b ↔ a ≤ b := Iff.rfl

@[simp] theorem fin_lt_fin {a b : ℚ} : Double.fin a < .fin b ↔ a < b := Iff.rfl

@[simp] theorem not_nan_le (x : Double) : ¬ (.nan ≤ x) := by cases x <;> exact id

@[simp] theorem not_le_nan (x : Double) : ¬ (x ≤ .nan) := by cases x <;> exact id

@[simp] theorem not_nan_lt (x : Double) : ¬ (.nan < x) := by cases x <;> exact id

@[simp] theorem not_lt_nan (x : Double) : ¬ (x < .nan) := by cases x <;> exact id

@[simp] theorem not_fin_le_negInf (a : ℚ) : ¬ (Double.fin a ≤ .negInf) := id

@[simp] theorem negInf_le_fin (a : ℚ) : Double.negInf ≤ .fin a := trivial

@[simp] theorem fin_le_posInf (a : ℚ) : Double.fin a ≤ .posInf := trivial

@[simp] theorem not_posInf_le_fin (a : ℚ) : ¬ (Double.posInf ≤ .fin a) := id

@[simp] theorem fin_lt_posInf (a : ℚ) : Double.fin a < .posInf := trivial

@[simp] theorem not_posInf_lt (x : Double) : ¬ (Double.posInf < x) := by cases x <;> exact id

@[simp] theorem not_lt_negInf (x : Double) : ¬ (x < Double.negInf) := by cases x <;> exact id

@[simp] theorem negInf_lt_fin (a : ℚ) : Double.negInf < .fin a := trivial

@[simp] theorem negInf_lt_posInf : Double.negInf < Double.posInf := trivial

theorem le_refl_of_not_nan {x : Double} (h : x ≠ .nan) : x ≤ x := by
  cases x with
  | nan => exact absurd rfl h
  | fin a => exact le_refl a
  | negInf => trivial
  | posInf => trivial

theorem ieee_lt_of_le_of_lt {x y z : Double} (hxy : x ≤ y) (hyz : y < z) : x < z := by
  cases x <;> cases y <;> cases z <;> first
    | trivial
    | exact hxy.elim
    | exact hyz.elim
    | exact fin_lt_fin.mpr ((fin_le_fin.mp hxy).trans_lt (fin_lt_fin.mp hyz))

theorem ieee_le_of_lt {x y : Double} (h : x < y) : x ≤ y := by
  cases x <;> cases y <;> first
    | trivial
    | exact h.elim
    | exact fin_le_fin.mpr (fin_lt_fin.mp h).le

theorem ieee_lt_irrefl (x : Double) : ¬ x < x := by
  cases x with
  | fin q => exact lt_irrefl q
  | _ => exact id

@[simp] theorem zero_ne_nan : (0 : Double) ≠ .nan := nofun

theorem not_lt_of_le {x y : Double} (h : x ≤ y) : ¬ y < x := by
  cases x <;> cases y <;> first
    | exact h.elim
    | exact id
    | exact not_lt.mpr (fin_le_fin.mp h)

/-- Without NaN the comparisons are those of a linear order. -/
theorem not_le_iff_lt {x y : Double} (hx : x ≠ .nan) (hy : y ≠ .nan) : ¬ x ≤ y ↔ y < x := by
  cases x <;> cases y <;> first
    | exact absurd rfl hx
    | exact absurd rfl hy
    | rw [fin_le_fin, fin_lt_fin, not_le]
    | exact ⟨fun h => absurd trivial h, fun h => h.elim⟩
    | exact ⟨fun _ => trivial, fun _ => id⟩

theorem not_lt_iff_le {x y : Double} (hx : x ≠ .nan) (hy : y ≠ .nan) : ¬ x < y ↔ y ≤ x := by
  rw [← not_le_iff_lt hy hx, not_not]

end Double

/-- A rounding of exact results to doubles: monotone, without NaN, and
leaving 0 alone. Overflow to an infinity is allowed. -/
structure Rounding where
  round : ℚ → Double
  round_ne_nan : ∀ q, round q ≠ .nan
  round_mono : ∀ p q, p ≤ q → round p ≤ round q
  round_zero : round 0 = 0

/-- The results of a rounding are doubles, which it leaves alone. -/
def Rounding.Stable (fp : Rounding) : Prop := ∀ q x, fp.round q = .fin x → fp.round x = .fin x

/-- Unrounded arithmetic. -/
def Rounding.exact : Rounding where
  round := .fin
  round_ne_nan := by simp
  round_mono := fun _ _ h => h
  round_zero := rfl

theorem Rounding.exact_stable : Rounding.exact.Stable := fun _ _ _ => rfl

variable (fp : Rounding)

def Double.add : Double → Double → Double
  | .nan, _ | _, .nan => .nan
  | .posInf, .negInf | .negInf, .posInf => .nan
  | .posInf, _ | _, .posInf => .posInf
  | .negInf, _ | _, .negInf => .negInf
  | .fin a, .fin b => fp.round (a + b)

def Double.sub : Double → Double → Double
  | .nan, _ | _, .nan => .nan
  | .posInf, .posInf | .negInf, .negInf => .nan
  | .posInf, _ | _, .negInf => .posInf
  | .negInf, _ | _, .posInf => .negInf
  | .fin a, .fin b => fp.round (a - b)

/-- NaN comes out of every operation it goes into. -/
theorem Double.add_ne_nan {x y : Double} (h : x.add fp y ≠ .nan) : x ≠ .nan ∧ y ≠ .nan := by
  constructor
  · rintro rfl
    exact h rfl
  · rintro rfl
    cases x <;> exact h rfl

theorem Double.sub_ne_nan {x y : Double} (h : x.sub fp y ≠ .nan) : x ≠ .nan ∧ y ≠ .nan := by
  constructor
  · rintro rfl
    exact h rfl
  · rintro rfl
    cases x <;> exact h rfl

/-- A value that the rounding leaves alone, as it does what a double holds. -/
def Double.Represented : Double → Prop
  | .fin q => fp.round q = .fin q
  | _ => True

/-! ### Reading a number: `strtod` -/

def lower (b : UInt8) : UInt8 := if 65 ≤ b && b ≤ 90 then b + 32 else b

/-- The text behind `word`, which is given in lower case, if it stands there
in either case. -/
def stripWord (word text : Bytes) : Option Bytes :=
  if (text.take word.length).map lower = word then some (text.drop word.length) else none

def isxdigit (b : UInt8) : Bool := isdigit b || (97 ≤ lower b && lower b ≤ 102)

def hexDigitValue (b : UInt8) : Nat :=
  if isdigit b then b.toNat - 48 else (lower b).toNat - 87

/-- Digits with an optional point among them, at least one digit in all: the
number they spell without the point, how many stand behind it, and the rest. -/
def readMantissa (base : Nat) (isDigit : UInt8 → Bool) (digit : UInt8 → Nat)
    (text : Bytes) : Option (Nat × Nat × Bytes) :=
  let whole := text.takeWhile isDigit
  let rest := text.dropWhile isDigit
  let (fraction, rest) := match rest with
    | 46 :: more => (more.takeWhile isDigit, more.dropWhile isDigit)
    | _ => ([], rest)
  if whole = [] ∧ fraction = [] then none
  else
    some ((whole ++ fraction).foldl (fun value b => base * value + digit b) 0,
      fraction.length, rest)

/-- The optional exponent behind `letter`; without digits it is no exponent. -/
def readExponent (letter : UInt8) : Bytes → Int × Bytes
  | [] => (0, [])
  | b :: rest =>
      let (negative, unsigned) := readSign rest
      let digits := unsigned.takeWhile isdigit
      if lower b ≠ letter ∨ digits = [] then (0, b :: rest)
      else
        let value : Int := decimalValue digits
        (if negative then -value else value, unsigned.dropWhile isdigit)

def scaled (mantissa base : Nat) : Int → ℚ
  | .ofNat e => mkRat (mantissa * base ^ e) 1
  | .negSucc e => mkRat mantissa (base ^ (e + 1))

def readInfinity (text : Bytes) : Option (Double × Bytes) :=
  (stripWord (ascii "infinity") text <|> stripWord (ascii "inf") text).map (.posInf, ·)

def isNanChar (b : UInt8) : Bool :=
  isdigit b || (97 ≤ lower b && lower b ≤ 122) || b == 95

def readNaN (text : Bytes) : Option (Double × Bytes) :=
  (stripWord (ascii "nan") text).map fun rest =>
    match rest with
    | 40 :: more =>
        match more.dropWhile isNanChar with
        | 41 :: after => (.nan, after)
        | _ => (.nan, rest)
    | _ => (.nan, rest)

def readHex (text : Bytes) : Option (Double × Bytes) := do
  let body ← stripWord (ascii "0x") text
  let (mantissa, places, rest) ← readMantissa 16 isxdigit hexDigitValue body
  let (exponent, rest) := readExponent 112 rest
  return (.fin (scaled mantissa 2 (exponent - 4 * places)), rest)

def readDecimal (text : Bytes) : Option (Double × Bytes) := do
  let (mantissa, places, rest) ← readMantissa 10 isdigit digitValue text
  let (exponent, rest) := readExponent 101 rest
  return (.fin (scaled mantissa 10 (exponent - places)), rest)

/-- Put the sign in front of an unsigned value and round it. -/
def Double.signed (negative : Bool) : Double → Double
  | .fin q => fp.round (if negative then -q else q)
  | .posInf => if negative then .negInf else .posInf
  | x => x

/-- `strtod(text, &end)`: the value and the text from `end` on. `none` is the
case `end == text`. -/
def strtod (text : Bytes) : Option (Double × Bytes) :=
  let (negative, body) := readSign (text.dropWhile isspace)
  (readInfinity body <|> readNaN body <|> readHex body <|> readDecimal body).map
    fun (magnitude, rest) => (magnitude.signed fp negative, rest)

def parseDouble (text : Bytes) : Option Double :=
  match strtod fp text with
  | none => none
  | some (parsed, rest) => if rest.dropWhile isspace ≠ [] then none else some parsed

/-! ### Printing a number: `%.2f` -/

/-- The nearest natural number, and the even one of two that are equally near. -/
def roundHalfEven (q : ℚ) : Nat :=
  let whole := q.floor.toNat
  let rest := q - whole
  if rest < 1 / 2 then whole
  else if 1 / 2 < rest then whole + 1
  else if whole % 2 = 0 then whole else whole + 1

/-- What `%.2f` prints. -/
def formatAmount : Double → Bytes
  | .nan => ascii "nan"
  | .negInf => ascii "-inf"
  | .posInf => ascii "inf"
  | .fin q =>
      let cents := roundHalfEven (|q| * 100)
      (if q < 0 then [45] else []) ++ formatNat (cents / 100) ++
        [46, UInt8.ofNat (48 + cents / 10 % 10), UInt8.ofNat (48 + cents % 10)]

example : (parseDouble .exact (ascii " 12.505e1 ")).map formatAmount = some (ascii "125.05") := by
  decide +kernel

end AtmSystem.Model
