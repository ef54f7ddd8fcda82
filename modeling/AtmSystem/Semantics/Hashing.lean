import AtmSystem.Library.Fips180
import AtmSystem.Model.Sha256

/-!
The hash of `sha256.c` is SHA-256. The streaming implementation fills a buffer
of 64 bytes and compresses whenever it is full; `Absorbs` says what it holds
after any number of bytes, whatever was in the buffer before. `final` pads
what is left in place, with one block or two, and the blocks compressed in all
are those of the padded message.
-/

namespace AtmSystem.Model

open Library Fips180

/-! ### Words -/

namespace Sha256

theorem toBitVec_ch (x y z : UInt32) :
    (ch x y z).toBitVec = Fips180.ch x.toBitVec y.toBitVec z.toBitVec := rfl

theorem toBitVec_maj (x y z : UInt32) :
    (maj x y z).toBitVec = Fips180.maj x.toBitVec y.toBitVec z.toBitVec := rfl

theorem toBitVec_rotr (x n : UInt32) (hpos : 0 < n.toNat) (hlt : n.toNat < 32) :
    (rotr x n).toBitVec = x.toBitVec.rotateRight n.toNat := by
  have hmod : (n.toBitVec % 32).toNat = n.toNat := Nat.mod_eq_of_lt hlt
  have hsub : (32 - n : UInt32).toNat = 32 - n.toNat := UInt32.toNat_sub_of_le _ _ (UInt32.le_iff_toNat_le.mpr hlt.le)
  have hmod' : ((32 - n).toBitVec % 32).toNat = 32 - n.toNat := by
    change (32 - n : UInt32).toNat % 32 = _
    rw [hsub]
    omega
  rw [rotr, UInt32.toBitVec_or, UInt32.toBitVec_shiftRight, UInt32.toBitVec_shiftLeft,
    BitVec.rotateRight_def, Nat.mod_eq_of_lt hlt, BitVec.ushiftRight_eq', BitVec.shiftLeft_eq', hmod, hmod']

theorem toBitVec_ep0 (x : UInt32) : (ep0 x).toBitVec = bigSigma0 x.toBitVec := by
  simp only [ep0, bigSigma0, UInt32.toBitVec_xor]
  rw [toBitVec_rotr, toBitVec_rotr, toBitVec_rotr] <;> first | rfl | decide

theorem toBitVec_ep1 (x : UInt32) : (ep1 x).toBitVec = bigSigma1 x.toBitVec := by
  simp only [ep1, bigSigma1, UInt32.toBitVec_xor]
  rw [toBitVec_rotr, toBitVec_rotr, toBitVec_rotr] <;> first | rfl | decide

theorem toBitVec_sig0 (x : UInt32) : (sig0 x).toBitVec = smallSigma0 x.toBitVec := by
  simp only [sig0, smallSigma0, UInt32.toBitVec_xor]
  rw [toBitVec_rotr, toBitVec_rotr] <;> first | rfl | decide

theorem toBitVec_sig1 (x : UInt32) : (sig1 x).toBitVec = smallSigma1 x.toBitVec := by
  simp only [sig1, smallSigma1, UInt32.toBitVec_xor]
  rw [toBitVec_rotr, toBitVec_rotr] <;> first | rfl | decide

end Sha256

/-! ### Bytes and bits -/

/-- The bits of a byte string, the most significant of each byte first. -/
def bits (data : Bytes) : List Bool := data.flatMap fun b => bitsOf b.toBitVec

@[simp] theorem bits_nil : bits [] = [] := rfl

theorem bits_cons (b : UInt8) (rest : Bytes) : bits (b :: rest) = bitsOf b.toBitVec ++ bits rest := rfl

@[simp] theorem bits_append (x y : Bytes) : bits (x ++ y) = bits x ++ bits y := List.flatMap_append

@[simp] theorem bits_length (data : Bytes) : (bits data).length = 8 * data.length := by
  induction data with
  | nil => rfl
  | cons b rest ih =>
      rw [bits_cons, List.length_append, bitsOf_length, ih, List.length_cons, Nat.mul_succ,
        Nat.add_comm]

theorem bits_drop (data : Bytes) (n : Nat) : (bits data).drop (8 * n) = bits (data.drop n) := by
  induction data generalizing n with
  | nil => simp
  | cons b rest ih =>
      cases n with
      | zero => rfl
      | succ n =>
          have hskip : 8 * (n + 1) = (bitsOf b.toBitVec).length + 8 * n := by
            rw [bitsOf_length]
            omega
          rw [bits_cons, hskip, List.drop_length_add_append, ih, List.drop_succ_cons]

theorem bits_take (data : Bytes) (n : Nat) : (bits data).take (8 * n) = bits (data.take n) := by
  induction data generalizing n with
  | nil => simp
  | cons b rest ih =>
      cases n with
      | zero => rfl
      | succ n =>
          have hskip : 8 * (n + 1) = (bitsOf b.toBitVec).length + 8 * n := by
            rw [bitsOf_length]
            omega
          rw [bits_cons, hskip, List.take_length_add_append, ih, List.take_succ_cons, bits_cons]

theorem bits_zeros (n : Nat) : bits (List.replicate n 0) = List.replicate (8 * n) false := by
  induction n with
  | zero => rfl
  | succ n ih =>
      have hbyte : bitsOf (0 : UInt8).toBitVec = List.replicate 8 false := rfl
      rw [List.replicate_succ, bits_cons, ih, hbyte, ← List.replicate_add, Nat.mul_succ,
        Nat.add_comm]

theorem bits_bigEndian32 (w : UInt32) : bits (Sha256.bigEndian32 w) = bitsOf w.toBitVec := by
  simp only [bits, Sha256.bigEndian32, List.flatMap_cons, List.flatMap_nil, bitsOf]
  simp [List.range, List.range.loop, BitVec.getMsbD]

theorem bits_bigEndian64 (w : UInt64) : bits (Sha256.bigEndian64 w) = bitsOf w.toBitVec := by
  simp only [bits, Sha256.bigEndian64, List.flatMap_cons, List.flatMap_nil, bitsOf]
  simp [List.range, List.range.loop, BitVec.getMsbD]

/-- A block of bits is a block of bytes. -/
theorem blocks_bits (data : Bytes) : blocks 512 (bits data) = (blocks 64 data).map bits := by
  have hcount : (bits data).length / 512 = data.length / 64 := by
    rw [bits_length]
    omega
  rw [blocks, blocks, hcount, List.map_map]
  apply List.map_congr_left
  intro i _
  have hstart : 512 * i = 8 * (64 * i) := by omega
  rw [Function.comp_apply, hstart, bits_drop]
  exact bits_take _ 64

/-! ### One block -/

namespace Sha256

theorem bigEndian32_pushed (b₀ b₁ b₂ b₃ : UInt8) :
    bigEndian32 ((b₀.toUInt32 <<< 24) ||| (b₁.toUInt32 <<< 16) ||| (b₂.toUInt32 <<< 8) |||
      b₃.toUInt32) = [b₀, b₁, b₂, b₃] := by
  simp only [bigEndian32, List.cons.injEq, and_true, ← UInt8.toBitVec_inj]
  refine ⟨?_, ?_, ?_, ?_⟩ <;>
    · ext i hi
      interval_cases i <;> simp

theorem bigEndian32_blockWord {data : Bytes} {i : Nat} (h : 4 * i + 4 ≤ data.length) :
    bigEndian32 (blockWord data i) = (data.drop (4 * i)).take 4 := by
  have hbytes : (data.drop (4 * i)).take 4 = [data.getD (i * 4) 0, data.getD (i * 4 + 1) 0,
      data.getD (i * 4 + 2) 0, data.getD (i * 4 + 3) 0] := by
    apply List.ext_getElem
    · rw [List.length_take, List.length_drop]
      simp only [List.length_cons, List.length_nil]
      omega
    · intro j hj hj'
      simp only [List.length_cons, List.length_nil] at hj'
      rw [List.getElem_take, List.getElem_drop]
      interval_cases j <;> simp [List.getD_eq_getElem?_getD, Nat.mul_comm i 4] <;>
        rw [List.getElem?_eq_getElem] <;> rfl
  rw [hbytes, blockWord, bigEndian32_pushed]

/-- A word of a block is the word its bits spell. -/
theorem toBitVec_blockWord {data : Bytes} {i : Nat} (h : 4 * i + 4 ≤ data.length) :
    (blockWord data i).toBitVec = wordOf (((bits data).drop (32 * i)).take 32) := by
  have hstart : 32 * i = 8 * (4 * i) := by omega
  have hword : ((bits data).drop (32 * i)).take 32 = bitsOf (blockWord data i).toBitVec := by
    rw [hstart, bits_drop, bits_take _ 4, ← bigEndian32_blockWord h, bits_bigEndian32]
  rw [hword, wordOf_bitsOf]

/-- The words of `W` computed so far are those of the standard. -/
def Schedules (block : List Bool) (w : List UInt32) : Prop :=
  ∀ t < w.length, (w.getD t 0).toBitVec = Fips180.schedule block t

theorem extendSchedule_schedules {block : List Bool} (count : Nat) {w : List UInt32}
    (hlength : 16 ≤ w.length) (h : Schedules block w) :
    (extendSchedule count w).length = w.length + count ∧
      Schedules block (extendSchedule count w) := by
  induction count generalizing w with
  | zero => exact ⟨rfl, h⟩
  | succ count ih =>
      generalize hnext : sig1 (w.getD (w.length - 2) 0) + w.getD (w.length - 7) 0 +
        sig0 (w.getD (w.length - 15) 0) + w.getD (w.length - 16) 0 = next
      have hword : next.toBitVec = Fips180.schedule block w.length := by
        rw [Fips180.schedule, dif_neg (by omega), ← hnext]
        simp only [UInt32.toBitVec_add, toBitVec_sig0, toBitVec_sig1]
        rw [h _ (by omega), h _ (by omega), h _ (by omega), h _ (by omega)]
      have hlonger : Schedules block (w ++ [next]) := by
        intro t ht
        rw [List.length_append, List.length_singleton] at ht
        rcases Nat.lt_succ_iff_lt_or_eq.mp ht with hold | hlast
        · rw [List.getD_eq_getElem?_getD, List.getElem?_append_left hold,
            ← List.getD_eq_getElem?_getD]
          exact h t hold
        · rw [hlast, List.getD_eq_getElem?_getD, List.getElem?_concat_length]
          exact hword
      have hrest := ih (w := w ++ [next]) (by rw [List.length_append]; omega) hlonger
      simp only [extendSchedule, hnext]
      rw [List.length_append, List.length_singleton] at hrest
      exact ⟨by omega, hrest.2⟩

theorem schedule_schedules {data : Bytes} (h : data.length = 64) :
    (schedule data).length = 64 ∧ Schedules (bits data) (schedule data) := by
  have hstart : Schedules (bits data) ((List.range 16).map (blockWord data)) := by
    intro t ht
    rw [List.length_map, List.length_range] at ht
    rw [Fips180.schedule, dif_pos ht, ← toBitVec_blockWord (by omega)]
    simp [List.getD_eq_getElem?_getD, ht]
  exact extendSchedule_schedules 48 (by simp) hstart

/-- The working variables as the standard has them. -/
def Working.asState (v : Working) : State :=
  ⟨v.a.toBitVec, v.b.toBitVec, v.c.toBitVec, v.d.toBitVec, v.e.toBitVec, v.f.toBitVec,
    v.g.toBitVec, v.h.toBitVec⟩

theorem toBitVec_roundConstants (t : Nat) (ht : t < 64) :
    (roundConstants.getD t 0).toBitVec = roundConstant t := by
  have htable : (List.range 64).map roundConstant = roundConstants.map UInt32.toBitVec := by
    decide +kernel
  have hentry := congrArg (fun table => table.getD t 0) htable
  have hlength : t < roundConstants.length := ht
  simpa [List.getD_eq_getElem?_getD, ht, List.getElem?_eq_getElem hlength] using hentry.symm

theorem round_asState {block : List Bool} {v : Working} {k w : UInt32} {t : Nat}
    (hk : k.toBitVec = roundConstant t) (hw : w.toBitVec = Fips180.schedule block t) :
    (round v (k, w)).asState = Fips180.round block v.asState t := by
  simp only [round, Working.asState, Fips180.round, UInt32.toBitVec_add, toBitVec_ep0,
    toBitVec_ep1, toBitVec_ch, toBitVec_maj, hk, hw]

/-- The words of `ctx->state` are the hash value `s`. -/
def Holds (words : List UInt32) (s : State) : Prop := words.map UInt32.toBitVec = s.words

/-- `sha256_transform` compresses one block. -/
theorem transform_compress {ctx : Context} {s : State} {data : Bytes} (hstate : Holds ctx.state s)
    (hdata : data.length = 64) :
    Holds (transform ctx data).state (compress s (bits data)) := by
  obtain ⟨hlength, hschedule⟩ := schedule_schedules hdata
  have hzip : roundConstants.zip (schedule data) =
      (List.range 64).map fun t => (roundConstants.getD t 0, (schedule data).getD t 0) := by
    apply List.ext_getElem
    · rw [List.length_zip, hlength, List.length_map, List.length_range]
      rfl
    · intro t ht ht'
      rw [List.length_map, List.length_range] at ht'
      have hconstant : t < roundConstants.length := ht'
      have hword : t < (schedule data).length := hlength ▸ ht'
      simp [List.getD_eq_getElem?_getD, List.getElem?_eq_getElem hconstant,
        List.getElem?_eq_getElem hword]
  have hrounds (v : Working) :
      ((roundConstants.zip (schedule data)).foldl round v).asState =
        (List.range 64).foldl (Fips180.round (bits data)) v.asState := by
    rw [hzip, List.foldl_map]
    apply List.foldl_rel (r := fun v s => Working.asState v = s) rfl
    rintro t ht v _ rfl
    have ht' := List.mem_range.mp ht
    exact round_asState (toBitVec_roundConstants t ht') (hschedule t (hlength ▸ ht'))
  obtain ⟨a, b, c, d, e, f, g, h, hwords⟩ : ∃ a b c d e f g h,
      ctx.state = [a, b, c, d, e, f, g, h] := by
    have height : ctx.state.length = 8 := by
      have := congrArg List.length hstate
      rwa [List.length_map] at this
    match hwords : ctx.state, height with
    | [a, b, c, d, e, f, g, h], _ => exact ⟨a, b, c, d, e, f, g, h, rfl⟩
  have hs : s = Working.asState ⟨a, b, c, d, e, f, g, h⟩ := by
    rw [Holds, hwords] at hstate
    simp only [State.words, List.map_cons, List.map_nil, List.cons.injEq, and_true] at hstate
    obtain ⟨ha, hb, hc, hd, he, hf, hg, hh⟩ := hstate
    simp only [Working.asState, ha, hb, hc, hd, he, hf, hg, hh]
  have hend := hrounds ⟨a, b, c, d, e, f, g, h⟩
  simp only [Holds, transform, hwords, List.getD_cons_zero, List.getD_cons_succ]
  rw [compress, hs, ← hend]
  simp only [State.words, State.add, Working.asState, List.zipWith_cons_cons, List.zipWith_nil_left,
    List.map_cons, List.map_nil, UInt32.toBitVec_add, List.cons.injEq, and_true]
  simp only [BitVec.add_comm, and_self]

/-! ### The stream -/

/-- The hash value behind whole blocks. -/
def compressed (whole : Bytes) : State :=
  (blocks 64 whole).foldl (fun s block => compress s (bits block)) initialState

theorem compressed_append {whole block : Bytes} (hwhole : 64 ∣ whole.length)
    (hblock : block.length = 64) :
    compressed (whole ++ block) = compress (compressed whole) (bits block) := by
  rw [compressed, blocks_append (by decide) hwhole, blocks_self (by decide) hblock,
    List.foldl_append]
  rfl

/-- The context behind the bytes `whole ++ held`, of which `whole` has been
compressed and `held` stands at the front of the buffer. -/
structure Absorbed (ctx : Context) (whole held : Bytes) : Prop where
  aligned : 64 ∣ whole.length
  short : held.length < 64
  buffer : ctx.data.length = 64
  front : ctx.data.take held.length = held
  datalen : ctx.datalen.toNat = held.length
  bitlen : ctx.bitlen = UInt64.ofNat (8 * whole.length)
  state : Holds ctx.state (compressed whole)

/-- Some of the bytes have been compressed, the rest is held. -/
def Absorbs (ctx : Context) (data : Bytes) : Prop :=
  ∃ whole held, data = whole ++ held ∧ Absorbed ctx whole held

theorem init_absorbs {buffer : Bytes} (hbuffer : buffer.length = 64) :
    Absorbs (init buffer) [] := by
  have hstart : Holds (init buffer).state initialState := by
    have hwords : (init []).state.map UInt32.toBitVec = initialState.words := by decide +kernel
    exact hwords
  refine ⟨[], [], rfl, ⟨⟨0, rfl⟩, by decide, hbuffer, rfl, rfl, rfl, ?_⟩⟩
  rw [compressed, blocks_nil, List.foldl_nil]
  exact hstart

/-- What the buffer holds in front when one more byte has been put behind. -/
theorem take_set {data held : Bytes} (b : UInt8) (hfront : data.take held.length = held)
    (hroom : held.length < data.length) :
    (data.set held.length b).take (held.length + 1) = held ++ [b] := by
  rw [List.take_set, List.take_succ_eq_append_getElem hroom, hfront,
    List.set_append_right _ _ (le_refl _), Nat.sub_self, List.set_cons_zero]

/-- One turn of the loop: the byte is held, or it makes a block full. -/
theorem updateByte_absorbs {ctx : Context} {data : Bytes} (h : Absorbs ctx data) (b : UInt8) :
    Absorbs (updateByte ctx b) (data ++ [b]) := by
  obtain ⟨whole, held, hdata, habsorbed⟩ := h
  obtain ⟨haligned, hshort, hbuffer, hfront, hdatalen, hbitlen, hstate⟩ := habsorbed
  have htake := take_set b hfront (by omega)
  have hlonger : (ctx.datalen + 1).toNat = held.length + 1 := by
    rw [UInt32.toNat_add, hdatalen]
    exact Nat.mod_eq_of_lt (by change held.length + 1 < 2 ^ 32; omega)
  simp only [updateByte, hdatalen]
  by_cases hfull : held.length + 1 = 64
  · have hword : ctx.datalen + 1 = 64 := by
      apply UInt32.toNat_inj.mp
      rw [hlonger, hfull]
      rfl
    have hblock : ctx.data.set held.length b = held ++ [b] := by
      rw [← htake, List.take_of_length_le]
      rw [List.length_set]
      omega
    have hlength : (held ++ [b]).length = 64 := by
      rw [List.length_append]
      exact hfull
    rw [if_pos hword]
    refine ⟨whole ++ (held ++ [b]), [], by rw [hdata, List.append_nil, List.append_assoc], ?_⟩
    constructor
    · rw [List.length_append, hlength]
      exact Nat.dvd_add haligned (dvd_refl 64)
    · decide
    · rw [transform, List.length_set]
      exact hbuffer
    · rfl
    · rfl
    · rw [transform, hbitlen, List.length_append, hlength, Nat.mul_add]
      exact (UInt64.ofNat_add _ _).symm
    · rw [compressed_append haligned hlength, hblock]
      exact transform_compress hstate hlength
  · have hword : ctx.datalen + 1 ≠ 64 := by
      intro heq
      rw [heq] at hlonger
      exact hfull hlonger.symm
    rw [if_neg hword]
    refine ⟨whole, held ++ [b], by rw [hdata, List.append_assoc], ?_⟩
    constructor
    · exact haligned
    · rw [List.length_append, List.length_singleton]
      omega
    · rw [List.length_set]
      exact hbuffer
    · rw [List.length_append, List.length_singleton]
      exact htake
    · rw [List.length_append, List.length_singleton]
      exact hlonger
    · exact hbitlen
    · exact hstate

theorem update_absorbs {ctx : Context} {data : Bytes} (h : Absorbs ctx data) (more : Bytes) :
    Absorbs (update ctx more) (data ++ more) := by
  induction more generalizing ctx data with
  | nil =>
      rw [List.append_nil]
      exact h
  | cons b rest ih =>
      rw [List.append_cons]
      exact ih (updateByte_absorbs h b)

/-! ### The end of the message -/

/-- The bytes of the padded message. -/
def padBytes (data : Bytes) : Bytes :=
  data ++ 0x80 :: (List.replicate ((119 - data.length % 64) % 64) 0 ++
    bigEndian64 (UInt64.ofNat (8 * data.length)))

theorem bits_padBytes (data : Bytes) : bits (padBytes data) = pad (bits data) := by
  have hmark : bitsOf (0x80 : UInt8).toBitVec = true :: List.replicate 7 false := rfl
  have hzeros : zeroBits (8 * data.length) = 7 + 8 * ((119 - data.length % 64) % 64) := by
    unfold zeroBits
    omega
  rw [padBytes, pad, bits_append, bits_cons, bits_append, bits_zeros, bits_bigEndian64, hmark,
    bits_length, hzeros, List.replicate_add, List.append_assoc]
  rfl

theorem digest_bits (data : Bytes) :
    digest (bits data) = (compressed (padBytes data)).words.flatMap bitsOf := by
  rw [digest, ← bits_padBytes, blocks_bits, List.foldl_map]
  rfl

theorem bits_words {words : List UInt32} {s : State} (h : Holds words s) :
    bits (words.flatMap bigEndian32) = s.words.flatMap bitsOf := by
  have hflat (words : List UInt32) :
      bits (words.flatMap bigEndian32) = (words.map UInt32.toBitVec).flatMap bitsOf := by
    induction words with
    | nil => rfl
    | cons w rest ih =>
        rw [List.flatMap_cons, bits_append, bits_bigEndian32, ih, List.map_cons, List.flatMap_cons]
  rw [hflat, h]

theorem take_clearBytes {data : Bytes} {start stop : Nat} (hle : start ≤ stop)
    (hlength : stop ≤ data.length) :
    (clearBytes data start (stop - start)).take stop =
      data.take start ++ List.replicate (stop - start) 0 := by
  rw [clearBytes, List.take_left']
  rw [List.length_append, List.length_take, List.length_replicate]
  omega

/-- The number of bits, counted for whole blocks as they are compressed and
for the rest at the end. -/
theorem bitlen_final {ctx : Context} {whole held : Bytes} (h : Absorbed ctx whole held) :
    ctx.bitlen + (ctx.datalen * 8).toUInt64 = UInt64.ofNat (8 * (whole ++ held).length) := by
  have hheld : (ctx.datalen * 8).toNat = 8 * held.length := by
    have hshort := h.short
    rw [UInt32.toNat_mul, h.datalen, Nat.mul_comm]
    exact Nat.mod_eq_of_lt (by change 8 * held.length < 2 ^ 32; omega)
  have hword : (ctx.datalen * 8).toUInt64 = UInt64.ofNat (8 * held.length) := by
    apply UInt64.toNat_inj.mp
    rw [UInt32.toNat_toUInt64, hheld, UInt64.toNat_ofNat']
    exact (Nat.mod_eq_of_lt (by have hshort := h.short; omega)).symm
  rw [h.bitlen, hword, List.length_append, Nat.mul_add, UInt64.ofNat_add]

/-- Padding in place makes the last one or two blocks of the padded message. -/
theorem bits_final {ctx : Context} {data : Bytes} (h : Absorbs ctx data) :
    bits (final ctx) = digest (bits data) := by
  obtain ⟨whole, held, rfl, habsorbed⟩ := h
  have hlast := bitlen_final habsorbed
  obtain ⟨haligned, hshort, hbuffer, hfront, hdatalen, -, hstate⟩ := habsorbed
  obtain ⟨count, hcount⟩ := haligned
  have hmod : (whole ++ held).length % 64 = held.length := by
    rw [List.length_append, hcount]
    omega
  have hmarked : (ctx.data.set held.length 0x80).take (held.length + 1) = held ++ [0x80] :=
    take_set 0x80 hfront (by omega)
  have hlength : (ctx.data.set held.length 0x80).length = 64 := by rw [List.length_set, hbuffer]
  rw [digest_bits]
  by_cases hroom : held.length < 56
  · -- one block takes the mark, the zeros and the length
    have hlow : ctx.datalen < 56 := by
      rw [UInt32.lt_iff_toNat_lt, hdatalen]
      exact hroom
    have hzeros : (119 - held.length) % 64 = 56 - (held.length + 1) := by omega
    have htake := @take_clearBytes (ctx.data.set held.length 0x80) (held.length + 1) 56 (by omega)
      (by omega)
    have hblock : (held ++ [0x80] ++ List.replicate (56 - (held.length + 1)) 0 ++
        bigEndian64 (UInt64.ofNat (8 * (whole ++ held).length))).length = 64 := by
      simp only [List.length_append, List.length_replicate, bigEndian64, List.length_cons,
        List.length_nil]
      omega
    have hpadded : padBytes (whole ++ held) = whole ++ (held ++ [0x80] ++
        List.replicate (56 - (held.length + 1)) 0 ++
        bigEndian64 (UInt64.ofNat (8 * (whole ++ held).length))) := by
      simp only [padBytes, hmod, hzeros, List.append_assoc, List.cons_append, List.nil_append]
    simp only [final, hdatalen, if_pos hlow, htake, hmarked, hlast]
    rw [hpadded, compressed_append ⟨count, hcount⟩ hblock]
    exact bits_words (transform_compress hstate hblock)
  · -- the mark and zeros fill one block, zeros and the length another
    have hhigh : ¬ ctx.datalen < 56 := by
      rw [UInt32.lt_iff_toNat_lt, hdatalen]
      exact hroom
    have hzeros : (119 - held.length) % 64 = 64 - (held.length + 1) + 56 := by omega
    have hfull : clearBytes (ctx.data.set held.length 0x80) (held.length + 1)
        (64 - (held.length + 1)) = held ++ [0x80] ++ List.replicate (64 - (held.length + 1)) 0 := by
      rw [clearBytes, hmarked, List.drop_of_length_le (by omega), List.append_nil]
    have hfirst : (held ++ [0x80] ++ List.replicate (64 - (held.length + 1)) 0).length = 64 := by
      simp only [List.length_append, List.length_singleton, List.length_replicate]
      omega
    have hsecond : (List.replicate 56 0 ++
        bigEndian64 (UInt64.ofNat (8 * (whole ++ held).length))).length = 64 := rfl
    have hpadded : padBytes (whole ++ held) = whole ++
        (held ++ [0x80] ++ List.replicate (64 - (held.length + 1)) 0) ++ (List.replicate 56 0 ++
        bigEndian64 (UInt64.ofNat (8 * (whole ++ held).length))) := by
      simp only [padBytes, hmod, hzeros, List.replicate_add, List.append_assoc, List.cons_append,
        List.nil_append]
    have hcleared (block : Bytes) (hblock : block.length = 64) :
        (clearBytes block 0 56).take 56 = List.replicate 56 0 :=
      @take_clearBytes block 0 56 (by omega) (by omega)
    have haligned' : 64 ∣ (whole ++ (held ++ [0x80] ++
        List.replicate (64 - (held.length + 1)) 0)).length := by
      rw [List.length_append, hfirst, hcount]
      exact ⟨count + 1, rfl⟩
    simp only [final, hdatalen, if_neg hhigh, hfull, transform, hcleared _ hfirst, hlast]
    rw [hpadded, compressed_append haligned' hsecond, compressed_append ⟨count, hcount⟩ hfirst]
    exact bits_words (transform_compress (transform_compress hstate hfirst) hsecond)

end Sha256

/-- `sha256` is SHA-256, whatever the buffer of the context holds before. The
standard covers messages below `2 ^ 64` bits; beyond, both wrap the length. -/
theorem sha256_standard (data : Bytes) :
    bits (sha256 data) = digest (bits data) ∧
      ∀ buffer : Bytes, buffer.length = 64 →
        bits (Sha256.final (Sha256.update (Sha256.init buffer) data)) = digest (bits data) := by
  have hstreamed (buffer : Bytes) (hbuffer : buffer.length = 64) :
      bits (Sha256.final (Sha256.update (Sha256.init buffer) data)) = digest (bits data) :=
    Sha256.bits_final (Sha256.update_absorbs (Sha256.init_absorbs hbuffer) data)
  exact ⟨hstreamed (List.replicate 64 0) rfl, hstreamed⟩

end AtmSystem.Model
