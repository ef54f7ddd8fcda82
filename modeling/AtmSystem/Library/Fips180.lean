import Mathlib.Tactic
import Mathlib.Data.Nat.NthRoot.Defs
import Mathlib.Data.Nat.Prime.Basic
import Mathlib.Order.Bounds.Basic

/-!
SHA-256 as FIPS 180-4 defines it, on messages that are lists of bits. The
message is padded to whole blocks of 512 bits, and a compression function
folds the blocks into eight words. The constants of the standard are given by
what they are: the first 32 bits of the fractional parts of roots of primes.
-/

namespace AtmSystem.Library.Fips180

abbrev Word := BitVec 32

/-! ### Functions and constants -/

def ch (x y z : Word) : Word := (x &&& y) ^^^ (~~~x &&& z)
def maj (x y z : Word) : Word := (x &&& y) ^^^ (x &&& z) ^^^ (y &&& z)
def bigSigma0 (x : Word) : Word := x.rotateRight 2 ^^^ x.rotateRight 13 ^^^ x.rotateRight 22
def bigSigma1 (x : Word) : Word := x.rotateRight 6 ^^^ x.rotateRight 11 ^^^ x.rotateRight 25
def smallSigma0 (x : Word) : Word := x.rotateRight 7 ^^^ x.rotateRight 18 ^^^ x >>> 3
def smallSigma1 (x : Word) : Word := x.rotateRight 17 ^^^ x.rotateRight 19 ^^^ x >>> 10

/-- The first 32 bits of the fractional part of a root of `n`: the root of
`n * 2 ^ (32 * degree)` without what stands above them. -/
def fractionalBits (degree n : Nat) : Word :=
  BitVec.ofNat 32 (Nat.nthRoot degree (n * 2 ^ (32 * degree)))

/-- The first 64 primes; the last of them is 311. -/
def primes : List Nat := (List.range 312).filter fun n => n.Prime

/-- The constant `K` of round `t`, from the cube root of a prime. -/
def roundConstant (t : Nat) : Word := fractionalBits 3 (primes.getD t 0)

/-- The hash value, and the working variables of the compression. -/
structure State where
  a : Word
  b : Word
  c : Word
  d : Word
  e : Word
  f : Word
  g : Word
  h : Word

namespace State

def words (s : State) : List Word := [s.a, s.b, s.c, s.d, s.e, s.f, s.g, s.h]

/-- Word by word, modulo `2 ^ 32`. -/
def add (s v : State) : State :=
  ⟨s.a + v.a, s.b + v.b, s.c + v.c, s.d + v.d, s.e + v.e, s.f + v.f, s.g + v.g, s.h + v.h⟩

end State

/-- From the square roots of the first eight primes. -/
def initialState : State where
  a := fractionalBits 2 2
  b := fractionalBits 2 3
  c := fractionalBits 2 5
  d := fractionalBits 2 7
  e := fractionalBits 2 11
  f := fractionalBits 2 13
  g := fractionalBits 2 17
  h := fractionalBits 2 19

/-! ### Bits and words -/

/-- The bits of a word, the most significant first. -/
def bitsOf {w : Nat} (x : BitVec w) : List Bool := (List.range w).map x.getMsbD

/-- The word that 32 bits spell, the most significant first. -/
def wordOf (bits : List Bool) : Word :=
  BitVec.ofNat 32 (bits.foldl (fun value bit => 2 * value + bit.toNat) 0)

@[simp] theorem bitsOf_length {w : Nat} (x : BitVec w) : (bitsOf x).length = w := by
  simp [bitsOf]

/-- Reading bits behind a value shifts them in below. -/
theorem foldl_bits {w : Nat} (x : BitVec w) (value : Nat) :
    (bitsOf x).foldl (fun value bit => 2 * value + bit.toNat) value =
      value * 2 ^ w + x.toNat := by
  have hprefix (n : Nat) (hn : n ≤ w) :
      ((List.range n).map x.getMsbD).foldl (fun value bit => 2 * value + bit.toNat) value =
        value * 2 ^ n + x.toNat / 2 ^ (w - n) := by
    induction n with
    | zero => simp [Nat.div_eq_of_lt x.isLt]
    | succ n ih =>
        have hbit : (x.getMsbD n).toNat = x.toNat / 2 ^ (w - (n + 1)) % 2 := by
          have hn' : n < w := hn
          rw [BitVec.getMsbD, decide_eq_true hn', Bool.true_and, BitVec.getLsbD,
            Nat.testBit_eq_decide_div_mod_eq, show w - 1 - n = w - (n + 1) by omega]
          rcases Nat.mod_two_eq_zero_or_one (x.toNat / 2 ^ (w - (n + 1))) with h | h <;> simp [h]
        have hhalf : x.toNat / 2 ^ (w - n) = x.toNat / 2 ^ (w - (n + 1)) / 2 := by
          rw [Nat.div_div_eq_div_mul, ← Nat.pow_succ, show (w - (n + 1)).succ = w - n by omega]
        rw [List.range_succ, List.map_append, List.foldl_append, ih (by omega), List.map_singleton,
          List.foldl_cons, List.foldl_nil, hbit, hhalf, Nat.pow_succ]
        have hsplit := Nat.div_add_mod (x.toNat / 2 ^ (w - (n + 1))) 2
        linarith
  have hall := hprefix w (le_refl w)
  rwa [Nat.sub_self, Nat.pow_zero, Nat.div_one] at hall

theorem wordOf_bitsOf (x : Word) : wordOf (bitsOf x) = x := by
  rw [wordOf, foldl_bits, Nat.zero_mul, Nat.zero_add, BitVec.ofNat_toNat, BitVec.setWidth_eq]

/-! ### Padding and blocks -/

/-- The number of zero bits behind the 1 that marks the end. -/
def zeroBits (length : Nat) : Nat := (959 - length % 512) % 512

/-- It is the least that leaves 64 bits of the last block. -/
theorem zeroBits_least (length : Nat) :
    IsLeast {k | (length + 1 + k) % 512 = 448} (zeroBits length) := by
  constructor
  · change (length + 1 + zeroBits length) % 512 = 448
    unfold zeroBits
    omega
  · intro k hk
    change (length + 1 + k) % 512 = 448 at hk
    unfold zeroBits
    omega

/-- The message, the bit 1, the least number of zero bits, and the length of
the message in 64 bits. -/
def pad (message : List Bool) : List Bool :=
  message ++ true :: (List.replicate (zeroBits message.length) false ++
    bitsOf (BitVec.ofNat 64 message.length))

/-- The whole blocks of a list. -/
def blocks {α : Type} (size : Nat) (items : List α) : List (List α) :=
  (List.range (items.length / size)).map fun i => (items.drop (size * i)).take size

section blocks

variable {α : Type} {size : Nat} {items : List α}

theorem blocks_append (hsize : 0 < size) (halign : size ∣ items.length) (more : List α) :
    blocks size (items ++ more) = blocks size items ++ blocks size more := by
  obtain ⟨count, hcount⟩ := halign
  have hwhole : items.length / size = count := by rw [hcount, Nat.mul_div_cancel_left _ hsize]
  have hboth : (items ++ more).length / size = count + more.length / size := by
    rw [List.length_append, hcount, Nat.mul_add_div hsize]
  rw [blocks, blocks, blocks, hboth, hwhole, List.range_add, List.map_append, List.map_map]
  congr 1
  · apply List.map_congr_left
    intro i hi
    have hroom : size * i + size ≤ items.length := by
      rw [hcount, ← Nat.mul_succ]
      exact Nat.mul_le_mul_left _ (List.mem_range.mp hi)
    rw [List.drop_append_of_le_length (by omega), List.take_append_of_le_length]
    rw [List.length_drop]
    omega
  · apply List.map_congr_left
    intro i _
    rw [Function.comp_apply, Nat.mul_add, ← hcount, ← List.drop_drop, List.drop_left]

theorem blocks_self (hsize : 0 < size) (h : items.length = size) : blocks size items = [items] := by
  subst h
  simp [blocks, Nat.div_self hsize]

@[simp] theorem blocks_nil : blocks size ([] : List α) = [] := by simp [blocks]

end blocks

/-! ### The hash -/

/-- The message schedule: the word `W` of round `t`. -/
def schedule (block : List Bool) (t : Nat) : Word :=
  if h : t < 16 then wordOf ((block.drop (32 * t)).take 32)
  else
    smallSigma1 (schedule block (t - 2)) + schedule block (t - 7) +
      smallSigma0 (schedule block (t - 15)) + schedule block (t - 16)

def round (block : List Bool) (v : State) (t : Nat) : State :=
  let t1 := v.h + bigSigma1 v.e + ch v.e v.f v.g + roundConstant t + schedule block t
  let t2 := bigSigma0 v.a + maj v.a v.b v.c
  ⟨t1 + t2, v.a, v.b, v.c, v.d + t1, v.e, v.f, v.g⟩

def compress (s : State) (block : List Bool) : State :=
  ((List.range 64).foldl (round block) s).add s

def digest (message : List Bool) : List Bool :=
  ((blocks 512 (pad message)).foldl compress initialState).words.flatMap bitsOf

end AtmSystem.Library.Fips180
