import Mathlib.Tactic
import Mathlib.Data.List.TakeWhile
import Mathlib.Data.Nat.Digits.Defs

/-!
C strings and the text helpers of `utils.c`. A string is the list of its bytes
before the terminating NUL; an output parameter that is written only on
success is an `Option`. The library calls `strtol`, `isspace`, `snprintf` and
`fgets` are modelled here as the C standard gives them in the "C" locale, which the
program never leaves.
-/

namespace AtmSystem.Model

abbrev Bytes := List UInt8

/-- The bytes of a string literal of the source. -/
def ascii (text : String) : Bytes := text.toList.map fun c => c.toUInt8

def isspace (b : UInt8) : Bool := b == 32 || (9 ≤ b && b ≤ 13)

def isdigit (b : UInt8) : Bool := 48 ≤ b && b ≤ 57

def newline : UInt8 := 10

/-- What `snprintf(buffer, size, "%s", text)` leaves in the buffer. -/
def snprintf (size : Nat) (text : Bytes) : Bytes := text.take (size - 1)

def trimWhitespace (text : Bytes) : Bytes :=
  ((text.dropWhile isspace).reverse.dropWhile isspace).reverse

/-- `fgets(buffer, size, file)`: the bytes up to and with the newline, as far
as they fit, and the rest of the file. -/
def fgets (size : Nat) (file : Bytes) : Option (Bytes × Bytes) :=
  if file = [] then none
  else
    let body := (file.take (size - 1)).takeWhile (· ≠ newline)
    let length := if body.length < size - 1 then body.length + 1 else body.length
    some (file.take length, file.drop length)

/-- What stands in front of a byte that does not occur is the whole text. -/
theorem takeWhile_of_not_mem {b : UInt8} {text : Bytes} (h : b ∉ text) :
    text.takeWhile (· ≠ b) = text := by
  rw [List.takeWhile_eq_self_iff]
  intro c hc
  rw [decide_eq_true_eq]
  rintro rfl
  exact h hc

def digitValue (b : UInt8) : Nat := b.toNat - 48

/-- The number a run of decimal digits spells. -/
def decimalValue (digits : Bytes) : Nat :=
  digits.foldl (fun value b => 10 * value + digitValue b) 0

/-- The optional sign in front of a number; `true` stands for a minus. -/
def readSign : Bytes → Bool × Bytes
  | [] => (false, [])
  | b :: rest =>
      if b = 45 then (true, rest) else if b = 43 then (false, rest) else (false, b :: rest)

def longMin : Int := -2 ^ 63
def longMax : Int := 2 ^ 63 - 1
def intMin : Int := -2 ^ 31
def intMax : Int := 2 ^ 31 - 1

/-- The low 32 bits of a number as an `int`. -/
def toInt32 (n : Int) : Int := (BitVec.ofInt 32 n).toInt

/-- `strtol(text, &end, 10)` with a 64-bit `long`: the value, saturated, and
the text from `end` on. `none` is the case `end == text`. -/
def strtol (text : Bytes) : Option (Int × Bytes) :=
  let (negative, unsigned) := readSign (text.dropWhile isspace)
  let digits := unsigned.takeWhile isdigit
  if digits = [] then none
  else
    let value : Int := decimalValue digits
    let signed := if negative then -value else value
    some (max longMin (min longMax signed), unsigned.dropWhile isdigit)

def parseInt (text : Bytes) : Option Int :=
  match strtol text with
  | none => none
  | some (parsed, rest) =>
      if rest.dropWhile isspace ≠ [] ∨ parsed < intMin ∨ intMax < parsed then none
      else some parsed

/-- What `%d` prints for a natural number. -/
def formatNat (n : Nat) : Bytes :=
  if n = 0 then [48] else (Nat.digits 10 n).reverse.map fun d => UInt8.ofNat (48 + d)

/-- What `%d` prints. -/
def formatInt (n : Int) : Bytes :=
  if n < 0 then 45 :: formatNat n.natAbs else formatNat n.natAbs

/-- What `%-<width>s` prints: the width is a minimum. -/
def padRight (width : Nat) (text : Bytes) : Bytes :=
  text ++ List.replicate (width - text.length) 32

example : parseInt (ascii " -42 ") = some (-42) := by decide

end AtmSystem.Model
