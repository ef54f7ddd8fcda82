import AtmSystem.Model.Text
import Mathlib.Data.Nat.Digits.Lemmas

/-!
`sha256.c`: the streaming SHA-256 the server hashes PINs and passwords with.
The context is passed along as a value; the 64-byte buffer and the arrays `K`,
`W` and `state` are lists. `uint32_t` and `uint64_t` arithmetic wraps as in C.
-/

namespace AtmSystem.Model.Sha256

def rotr (x n : UInt32) : UInt32 := (x >>> n) ||| (x <<< (32 - n))
def ch (x y z : UInt32) : UInt32 := (x &&& y) ^^^ (~~~x &&& z)
def maj (x y z : UInt32) : UInt32 := (x &&& y) ^^^ (x &&& z) ^^^ (y &&& z)
def ep0 (x : UInt32) : UInt32 := rotr x 2 ^^^ rotr x 13 ^^^ rotr x 22
def ep1 (x : UInt32) : UInt32 := rotr x 6 ^^^ rotr x 11 ^^^ rotr x 25
def sig0 (x : UInt32) : UInt32 := rotr x 7 ^^^ rotr x 18 ^^^ (x >>> 3)
def sig1 (x : UInt32) : UInt32 := rotr x 17 ^^^ rotr x 19 ^^^ (x >>> 10)

/-- The table `K` of round constants. -/
def roundConstants : List UInt32 := [
  0x428a2f98, 0x71374491, 0xb5c0fbcf, 0xe9b5dba5,
  0x3956c25b, 0x59f111f1, 0x923f82a4, 0xab1c5ed5,
  0xd807aa98, 0x12835b01, 0x243185be, 0x550c7dc3,
  0x72be5d74, 0x80deb1fe, 0x9bdc06a7, 0xc19bf174,
  0xe49b69c1, 0xefbe4786, 0x0fc19dc6, 0x240ca1cc,
  0x2de92c6f, 0x4a7484aa, 0x5cb0a9dc, 0x76f988da,
  0x983e5152, 0xa831c66d, 0xb00327c8, 0xbf597fc7,
  0xc6e00bf3, 0xd5a79147, 0x06ca6351, 0x14292967,
  0x27b70a85, 0x2e1b2138, 0x4d2c6dfc, 0x53380d13,
  0x650a7354, 0x766a0abb, 0x81c2c92e, 0x92722c85,
  0xa2bfe8a1, 0xa81a664b, 0xc24b8b70, 0xc76c51a3,
  0xd192e819, 0xd6990624, 0xf40e3585, 0x106aa070,
  0x19a4c116, 0x1e376c08, 0x2748774c, 0x34b0bcb5,
  0x391c0cb3, 0x4ed8aa4a, 0x5b9cca4f, 0x682e6ff3,
  0x748f82ee, 0x78a5636f, 0x84c87814, 0x8cc70208,
  0x90befffa, 0xa4506ceb, 0xbef9a3f7, 0xc67178f2]

structure Context where
  data : Bytes
  datalen : UInt32
  bitlen : UInt64
  state : List UInt32

/-- The working variables `a` to `h` of one compression. -/
structure Working where
  a : UInt32
  b : UInt32
  c : UInt32
  d : UInt32
  e : UInt32
  f : UInt32
  g : UInt32
  h : UInt32

/-- The `i`-th big-endian word of a block. -/
def blockWord (data : Bytes) (i : Nat) : UInt32 :=
  ((data.getD (i * 4) 0).toUInt32 <<< 24) ||| ((data.getD (i * 4 + 1) 0).toUInt32 <<< 16) |||
    ((data.getD (i * 4 + 2) 0).toUInt32 <<< 8) ||| (data.getD (i * 4 + 3) 0).toUInt32

/-- The second loop over `W`: append `count` more words. -/
def extendSchedule : Nat → List UInt32 → List UInt32
  | 0, w => w
  | count + 1, w =>
      let i := w.length
      extendSchedule count
        (w ++ [sig1 (w.getD (i - 2) 0) + w.getD (i - 7) 0 +
          sig0 (w.getD (i - 15) 0) + w.getD (i - 16) 0])

def schedule (data : Bytes) : List UInt32 :=
  extendSchedule 48 ((List.range 16).map (blockWord data))

def round (v : Working) (kw : UInt32 × UInt32) : Working :=
  let t1 := v.h + ep1 v.e + ch v.e v.f v.g + kw.1 + kw.2
  let t2 := ep0 v.a + maj v.a v.b v.c
  { h := v.g, g := v.f, f := v.e, e := v.d + t1, d := v.c, c := v.b, b := v.a, a := t1 + t2 }

def transform (ctx : Context) (data : Bytes) : Context :=
  let start : Working :=
    { a := ctx.state.getD 0 0, b := ctx.state.getD 1 0, c := ctx.state.getD 2 0,
      d := ctx.state.getD 3 0, e := ctx.state.getD 4 0, f := ctx.state.getD 5 0,
      g := ctx.state.getD 6 0, h := ctx.state.getD 7 0 }
  let v := (roundConstants.zip (schedule data)).foldl round start
  { ctx with state := ctx.state.zipWith (· + ·) [v.a, v.b, v.c, v.d, v.e, v.f, v.g, v.h] }

/-- `sha256_init`; the buffer starts out as whatever `data` holds. -/
def init (data : Bytes) : Context where
  data := data
  datalen := 0
  bitlen := 0
  state := [0x6a09e667, 0xbb67ae85, 0x3c6ef372, 0xa54ff53a,
    0x510e527f, 0x9b05688c, 0x1f83d9ab, 0x5be0cd19]

/-- One turn of the loop of `sha256_update`. -/
def updateByte (ctx : Context) (b : UInt8) : Context :=
  let filled := { ctx with data := ctx.data.set ctx.datalen.toNat b, datalen := ctx.datalen + 1 }
  if filled.datalen = 64 then
    let turned := transform filled filled.data
    { turned with bitlen := turned.bitlen + 512, datalen := 0 }
  else filled

def update (ctx : Context) (data : Bytes) : Context := data.foldl updateByte ctx

/-- `memset(data + start, 0, count)`. -/
def clearBytes (data : Bytes) (start count : Nat) : Bytes :=
  data.take start ++ List.replicate count 0 ++ data.drop (start + count)

def bigEndian32 (w : UInt32) : Bytes :=
  [(w >>> 24).toUInt8, (w >>> 16).toUInt8, (w >>> 8).toUInt8, w.toUInt8]

def bigEndian64 (w : UInt64) : Bytes :=
  [(w >>> 56).toUInt8, (w >>> 48).toUInt8, (w >>> 40).toUInt8, (w >>> 32).toUInt8,
    (w >>> 24).toUInt8, (w >>> 16).toUInt8, (w >>> 8).toUInt8, w.toUInt8]

def final (ctx : Context) : Bytes :=
  let i := ctx.datalen.toNat
  let marked := ctx.data.set i 0x80
  let padded :=
    if ctx.datalen < 56 then { ctx with data := clearBytes marked (i + 1) (56 - (i + 1)) }
    else
      let full := clearBytes marked (i + 1) (64 - (i + 1))
      let turned := transform { ctx with data := full } full
      { turned with data := clearBytes turned.data 0 56 }
  let bitlen := padded.bitlen + (padded.datalen * 8).toUInt64
  let last := padded.data.take 56 ++ bigEndian64 bitlen
  (transform { padded with data := last, bitlen := bitlen } last).state.flatMap bigEndian32

/-! The state always has eight words. -/

theorem transform_state_length (ctx : Context) (data : Bytes) (h : ctx.state.length = 8) :
    (transform ctx data).state.length = 8 := by
  simp [transform, h]

theorem updateByte_state_length (ctx : Context) (b : UInt8) (h : ctx.state.length = 8) :
    (updateByte ctx b).state.length = 8 := by
  unfold updateByte
  dsimp only
  split
  · exact transform_state_length _ _ h
  · exact h

theorem update_state_length (ctx : Context) (data : Bytes) (h : ctx.state.length = 8) :
    (update ctx data).state.length = 8 := by
  unfold update
  induction data generalizing ctx with
  | nil => exact h
  | cons b rest ih => exact ih _ (updateByte_state_length ctx b h)

theorem final_length (ctx : Context) (h : ctx.state.length = 8) : (final ctx).length = 32 := by
  have hwords (state : List UInt32) : (state.flatMap bigEndian32).length = state.length * 4 := by
    induction state with
    | nil => rfl
    | cons w rest ih =>
        rw [List.flatMap_cons, List.length_append, ih, List.length_cons, Nat.succ_mul, Nat.add_comm]
        rfl
  unfold final
  rw [hwords, transform_state_length]
  dsimp only
  split
  · exact h
  · exact transform_state_length _ _ h

end Sha256

/-- `sha256(data, len, out)`. The buffer of the context is uninitialised in
the source; every byte of it is written before it is read. -/
def sha256 (data : Bytes) : Bytes :=
  Sha256.final (Sha256.update (Sha256.init (List.replicate 64 0)) data)

example : (sha256 (ascii "abc")).take 4 = [0xba, 0x78, 0x16, 0xbf] := by decide +kernel

/-- `memcpy` of an `unsigned long long` to bytes, on a little-endian machine. -/
def wordBytes (w : UInt64) : Bytes :=
  [w.toUInt8, (w >>> 8).toUInt8, (w >>> 16).toUInt8, (w >>> 24).toUInt8,
    (w >>> 32).toUInt8, (w >>> 40).toUInt8, (w >>> 48).toUInt8, (w >>> 56).toUInt8]

@[simp] theorem length_wordBytes (w : UInt64) : (wordBytes w).length = 8 := rfl

/-- `memcpy` of the first eight digest bytes into an `unsigned long long`. -/
def wordOfBytes (bytes : Bytes) : UInt64 :=
  ((bytes.take 8).reverse).foldl (fun w b => (w <<< 8) ||| b.toUInt64) 0

/-- `SHA256_DIGEST_SIZE` bytes come out. -/
theorem sha256_length (data : Bytes) : (sha256 data).length = 32 :=
  Sha256.final_length _ (Sha256.update_state_length _ _ rfl)

/-- Shifting a byte in below. -/
theorem toNat_pushByte {w : UInt64} (hw : w.toNat < 2 ^ 56) (b : UInt8) :
    ((w <<< 8) ||| b.toUInt64).toNat = b.toNat + 256 * w.toNat := by
  have hshift : (w <<< 8).toNat = w.toNat <<< 8 := by
    rw [UInt64.toNat_shiftLeft]
    have hlt : w.toNat <<< 8 < 2 ^ 64 := by
      rw [Nat.shiftLeft_eq]
      omega
    exact Nat.mod_eq_of_lt hlt
  rw [UInt64.toNat_or, hshift, UInt8.toNat_toUInt64, ← Nat.shiftLeft_add_eq_or_of_lt b.toNat_lt,
    Nat.shiftLeft_eq]
  omega

theorem byte_lt (bytes : Bytes) : ∀ digit ∈ bytes.map UInt8.toNat, digit < 256 := by
  intro digit hdigit
  obtain ⟨b, _, rfl⟩ := List.mem_map.mp hdigit
  exact b.toNat_lt

/-- A word is read with the first byte last: the bytes are its digits. -/
theorem toNat_wordOfBytes (bytes : Bytes) :
    (wordOfBytes bytes).toNat = Nat.ofDigits 256 ((bytes.take 8).map UInt8.toNat) := by
  have hfold (rest : Bytes) (hrest : rest.length ≤ 8) :
      (rest.reverse.foldl (fun (w : UInt64) (b : UInt8) => (w <<< 8) ||| b.toUInt64) 0).toNat =
        Nat.ofDigits 256 (rest.map UInt8.toNat) := by
    induction rest with
    | nil => rfl
    | cons b rest ih =>
        have hshort : rest.length ≤ 7 := Nat.le_of_succ_le_succ hrest
        have hvalue := ih (by omega)
        have hlt : Nat.ofDigits 256 (rest.map UInt8.toNat) < 2 ^ 56 :=
          calc Nat.ofDigits 256 (rest.map UInt8.toNat)
            _ < 256 ^ (rest.map UInt8.toNat).length :=
              Nat.ofDigits_lt_base_pow_length (by decide) (byte_lt rest)
            _ ≤ 256 ^ 7 := Nat.pow_le_pow_right (by decide) (by rwa [List.length_map])
        rw [List.reverse_cons, List.foldl_append, List.foldl_cons, List.foldl_nil,
          toNat_pushByte (hvalue ▸ hlt), hvalue, List.map_cons, Nat.ofDigits_cons]
  exact hfold (bytes.take 8) (List.length_take_le 8 bytes)

/-- Eight digest bytes and the word made of them determine each other. -/
theorem wordOfBytes_sha256_eq_iff (x y : Bytes) :
    wordOfBytes (sha256 x) = wordOfBytes (sha256 y) ↔ (sha256 x).take 8 = (sha256 y).take 8 := by
  constructor
  · intro h
    have hdigits := congrArg UInt64.toNat h
    rw [toNat_wordOfBytes, toNat_wordOfBytes] at hdigits
    have hsame := Nat.ofDigits_inj_of_len_eq (by decide)
      (by simp only [List.length_map, List.length_take, sha256_length]) (byte_lt _) (byte_lt _)
      hdigits
    exact List.map_injective_iff.mpr (fun _ _ heq => UInt8.toNat_inj.mp heq) hsame
  · intro h
    rw [wordOfBytes, wordOfBytes, h]

end AtmSystem.Model
