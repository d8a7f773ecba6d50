import NNRt.Cache.Crc16
import NNRt.Lib.OnesComplement
import NNRt.Lib.WhileLoop

/-!
# What the checksum of a cache file reads and detects

`getCrc16` takes its buffer apart like a list. `getCrc16Cursor` is the same function as the
source writes it, with a pointer and a length that the loops move.

- `getCrc16Cursor_ends`: it ends, without a read outside the buffer, for every buffer.
- `getCrc16_ne`: **below 2 MiB, a byte that changes changes the checksum**, although the sum
  may wrap around.
-/

namespace NNRt

/-! ## The loops over a pointer -/

/-- The locals of `GetCrc16`; the pointer is an offset into the buffer. -/
structure CrcCursor where
  sum : UInt32
  buffer : Nat
  length : Nat

/-- A byte of the buffer. -/
def readByteAt (data : Bytes) (buffer : Nat) : Except Fault UInt8 :=
  match data[buffer]? with
  | some byte => .ok byte
  | none => .error .outOfBounds

/-- The word at the pointer. -/
def readU16At (data : Bytes) (buffer : Nat) : Except Fault UInt32 := do
  let lo ← readByteAt data buffer
  let hi ← readByteAt data (buffer + 1)
  return readU16 lo hi

/-- One round of either loop: the word at the pointer, then `step` words on. -/
def addWord (data : Bytes) (step : Nat) (c : CrcCursor) : Except Fault CrcCursor := do
  let word ← readU16At data c.buffer
  return { sum := c.sum + word, buffer := c.buffer + step * 2, length := c.length - step * 2 }

/-- The two loops of `GetCrc16`. -/
def addWords (fuel : Nat) (data : Bytes) : Option (Except Fault CrcCursor) :=
  let start : CrcCursor := { sum := 0, buffer := 0, length := data.length }
  if data.length < maxCacheSize then
    WhileLoop.run (fun c => c.length > 1) (addWord data 1) fuel start
  else
    let step := data.length / maxCacheSize
    WhileLoop.run (fun c => c.length > 2 * step + 1) (addWord data step) fuel start

/-- The last byte, where one is left. -/
def addLast (data : Bytes) (c : CrcCursor) : Except Fault UInt32 :=
  if c.length > 0 then do
    let byte ← readByteAt data (c.buffer + (c.length - 1))
    return c.sum + byte.toUInt32
  else .ok c.sum

/-- The loop that folds the carries. -/
def addCarries (fuel : Nat) (sum : UInt32) : Option (Except Fault UInt32) :=
  WhileLoop.run (fun sum => sum / 65536 ≠ 0) (fun sum => .ok (sum / 65536 + sum % 65536)) fuel sum

/-- `NNCompiledCache::GetCrc16`, with the number of rounds its loops may take. -/
def getCrc16Cursor (fuel : Nat) : Option Bytes → Option (Except Fault UInt16)
  | none => some (.ok (complement16 0))
  | some data => do
    match ← addWords fuel data with
    | .error f => some (.error f)
    | .ok c =>
      match addLast data c with
      | .error f => some (.error f)
      | .ok sum => do
        let folded ← addCarries fuel sum
        return folded.map complement16

section Cursor

variable {data : Bytes} {c : CrcCursor}

theorem readByteAt_of_lt {buffer : Nat} (h : buffer < data.length) :
    readByteAt data buffer = .ok data[buffer] := by
  rw [readByteAt, List.getElem?_eq_getElem h]

/-- A round that finds two bytes. -/
theorem addWord_of_lt {step : Nat} (h : c.buffer + 1 < data.length) :
    addWord data step c = .ok
      { sum := c.sum + readU16 data[c.buffer] data[c.buffer + 1],
        buffer := c.buffer + step * 2, length := c.length - step * 2 } := by
  rw [addWord, readU16At, readByteAt_of_lt (Nat.lt_of_succ_lt h), ok_bind, readByteAt_of_lt h]
  rfl

/-- The pointer and the length together span the buffer. -/
def CrcCursor.Spans (data : Bytes) (c : CrcCursor) : Prop :=
  c.buffer + c.length = data.length

theorem CrcCursor.Spans.drop_length (h : c.Spans data) :
    (data.drop c.buffer).length = c.length := by
  unfold Spans at h
  rw [List.length_drop]
  omega

theorem sumWords_drop {sum : UInt32} {buffer : Nat} (h : buffer + 1 < data.length) :
    sumWords sum (data.drop buffer) =
      sumWords (sum + readU16 data[buffer] data[buffer + 1]) (data.drop (buffer + 1 * 2)) := by
  rw [List.drop_eq_getElem_cons (Nat.lt_of_succ_lt h), List.drop_eq_getElem_cons h, sumWords]

/-- The word loop, from any place on. -/
theorem wordLoop_ends (hspans : c.Spans data) :
    ∃ c', WhileLoop.Ends (fun c : CrcCursor => decide (c.length > 1)) (addWord data 1) c (.ok c') ∧
      addLast data c' = .ok (sumWords c.sum (data.drop c.buffer)) := by
  obtain ⟨c', hends, ⟨hspans', hsum⟩, hguard⟩ := @WhileLoop.ends_of_measure _ _
    (fun c : CrcCursor => decide (c.length > 1)) (addWord data 1)
    (fun c' => c'.Spans data ∧
      sumWords c'.sum (data.drop c'.buffer) = sumWords c.sum (data.drop c.buffer))
    CrcCursor.length
    (by
      rintro c' ⟨hspans', hsum⟩ hguard
      have hlong : 1 < c'.length := of_decide_eq_true hguard
      unfold CrcCursor.Spans at hspans'
      have hlt : c'.buffer + 1 < data.length := by omega
      refine ⟨_, addWord_of_lt hlt, ⟨?_, ?_⟩, ?_⟩
      · show c'.buffer + 1 * 2 + (c'.length - 1 * 2) = data.length
        omega
      · rw [← hsum, sumWords_drop hlt]
      · show c'.length - 1 * 2 < c'.length
        omega)
    c ⟨hspans, rfl⟩
  refine ⟨c', hends, ?_⟩
  have hshort : ¬ 1 < c'.length := of_decide_eq_false hguard
  have hlength := hspans'.drop_length
  rw [← hsum]
  unfold CrcCursor.Spans at hspans'
  unfold addLast
  by_cases hpos : 0 < c'.length
  · -- The byte behind the last whole word.
    have hone : c'.length = 1 := by omega
    have hlt : c'.buffer < data.length := by omega
    have hdrop : data.drop c'.buffer = [data[c'.buffer]] := by
      rw [List.drop_eq_getElem_cons hlt, List.drop_of_length_le (by omega)]
    rw [if_pos hpos, hone, Nat.sub_self, Nat.add_zero, readByteAt_of_lt hlt, hdrop]
    rfl
  · have hnil : data.drop c'.buffer = [] := by
      rw [← List.length_eq_zero_iff]
      omega
    rw [if_neg hpos, hnil]
    rfl

theorem sumSampled_drop {step : Nat} {hstep : 0 < step} {sum : UInt32} {buffer : Nat}
    (hlong : (data.drop buffer).length > 2 * step + 1) (h : buffer + 1 < data.length) :
    sumSampled step hstep sum (data.drop buffer) =
      sumSampled step hstep (sum + readU16 data[buffer] data[buffer + 1])
        (data.drop (buffer + step * 2)) := by
  rw [sumSampled, dif_pos hlong, List.drop_drop, List.getElem_drop, List.getElem_drop,
    Nat.mul_comm 2 step]
  rfl

theorem sumSampled_of_not {step : Nat} {hstep : 0 < step} {sum : UInt32} {buffer : Bytes}
    (hshort : ¬ buffer.length > 2 * step + 1) :
    sumSampled step hstep sum buffer =
      (buffer.getLast?.map fun b => sum + b.toUInt32).getD sum := by
  rw [sumSampled, dif_neg hshort]
  cases buffer.getLast? <;> rfl

/-- The sampling loop, from any place on. -/
theorem sampleLoop_ends {step : Nat} (hstep : 0 < step) (hspans : c.Spans data) :
    ∃ c', WhileLoop.Ends (fun c : CrcCursor => decide (c.length > 2 * step + 1))
        (addWord data step) c (.ok c') ∧
      addLast data c' = .ok (sumSampled step hstep c.sum (data.drop c.buffer)) := by
  obtain ⟨c', hends, ⟨hspans', hsum⟩, hguard⟩ := @WhileLoop.ends_of_measure _ _
    (fun c : CrcCursor => decide (c.length > 2 * step + 1)) (addWord data step)
    (fun c' => c'.Spans data ∧ sumSampled step hstep c'.sum (data.drop c'.buffer) =
      sumSampled step hstep c.sum (data.drop c.buffer))
    CrcCursor.length
    (by
      rintro c' ⟨hspans', hsum⟩ hguard
      have hlong : 2 * step + 1 < c'.length := of_decide_eq_true hguard
      have hlength := hspans'.drop_length
      unfold CrcCursor.Spans at hspans'
      have hlt : c'.buffer + 1 < data.length := by omega
      refine ⟨_, addWord_of_lt hlt, ⟨?_, ?_⟩, ?_⟩
      · show c'.buffer + step * 2 + (c'.length - step * 2) = data.length
        omega
      · rw [← hsum, sumSampled_drop (by omega) hlt]
      · show c'.length - step * 2 < c'.length
        omega)
    c ⟨hspans, rfl⟩
  refine ⟨c', hends, ?_⟩
  have hshort : ¬ 2 * step + 1 < c'.length := of_decide_eq_false hguard
  have hlength := hspans'.drop_length
  rw [← hsum, sumSampled_of_not (by omega), List.getLast?_eq_getElem?, hlength]
  unfold CrcCursor.Spans at hspans'
  unfold addLast
  by_cases hpos : 0 < c'.length
  · -- The last byte of all, however many lie before it.
    have hlt : c'.buffer + (c'.length - 1) < data.length := by omega
    rw [if_pos hpos, readByteAt_of_lt hlt, List.getElem?_drop, List.getElem?_eq_getElem hlt]
    rfl
  · have hnone : (data.drop c'.buffer)[c'.length - 1]? = none :=
      List.getElem?_eq_none (by omega)
    rw [if_neg hpos, hnone, Option.map_none, Option.getD_none]

/-- The loop over the carries. -/
theorem carryLoop_ends (sum : UInt32) :
    WhileLoop.Ends (fun sum : UInt32 => decide (sum / 65536 ≠ 0))
      (fun sum => (.ok (sum / 65536 + sum % 65536) : Except Fault UInt32)) sum
      (.ok (foldCarries sum)) := by
  induction sum using foldCarries.induct with
  | case1 sum h ih =>
    rw [foldCarries, dif_pos h]
    exact ih.round (decide_eq_true h) rfl
  | case2 sum h =>
    rw [foldCarries, dif_neg h]
    exact WhileLoop.ends_of_guard (decide_eq_false h)

/-- **The checksum ends, and reads inside its buffer only**, for every buffer. -/
theorem getCrc16Cursor_ends (data : Bytes) : ∃ rounds, ∀ fuel, rounds ≤ fuel →
    getCrc16Cursor fuel (some data) = some (.ok (getCrc16 data)) := by
  have hspans : CrcCursor.Spans data ⟨0, 0, data.length⟩ := Nat.zero_add _
  obtain ⟨c, sum, rounds, hwords, hlast, hsum⟩ : ∃ c sum rounds,
      (∀ fuel, rounds ≤ fuel → addWords fuel data = some (.ok c)) ∧ addLast data c = .ok sum ∧
        getCrc16 data = complement16 (foldCarries sum) := by
    unfold addWords getCrc16
    by_cases hsmall : data.length < maxCacheSize
    · obtain ⟨c, ⟨rounds, hrounds⟩, hlast⟩ := wordLoop_ends hspans
      refine ⟨c, _, rounds, fun fuel hfuel => ?_, hlast, ?_⟩
      · rw [if_pos hsmall, hrounds fuel hfuel]
      · rw [dif_pos hsmall, List.drop_zero]
    · have hstep : 0 < data.length / maxCacheSize :=
        Nat.div_pos (Nat.le_of_not_lt hsmall) (by decide)
      obtain ⟨c, ⟨rounds, hrounds⟩, hlast⟩ := sampleLoop_ends hstep hspans
      refine ⟨c, _, rounds, fun fuel hfuel => ?_, hlast, ?_⟩
      · rw [if_neg hsmall]
        exact hrounds fuel hfuel
      · rw [dif_neg hsmall, List.drop_zero]
  obtain ⟨carryRounds, hcarries⟩ := carryLoop_ends sum
  refine ⟨max rounds carryRounds, fun fuel hfuel => ?_⟩
  have hcarry := hcarries fuel (by omega)
  unfold getCrc16Cursor addCarries
  dsimp only
  rw [hwords fuel (by omega), hsum]
  dsimp only [Option.bind_eq_bind, Option.bind_some]
  rw [hlast]
  dsimp only
  rw [hcarry]
  rfl

end Cursor

/-! ## Changes of one byte -/

/-- The words as one number, as if there were no bound on the sum. -/
def wordTotal : Bytes → Nat
  | lo :: hi :: rest => lo.toNat + 256 * hi.toNat + wordTotal rest
  | [b] => b.toNat
  | [] => 0

/-- What a byte counts at its place in a word. -/
def byteWeight (i : Nat) : Nat :=
  if i % 2 = 0 then 1 else 256

/-- Buffers of one length with different bytes at exactly one place. -/
def DifferInOneByte (buffer buffer' : Bytes) : Prop :=
  buffer.length = buffer'.length ∧
    ∃ i : Nat, buffer[i]? ≠ buffer'[i]? ∧ ∀ j, j ≠ i → buffer[j]? = buffer'[j]?

theorem readU16_toNat (lo hi : UInt8) : (readU16 lo hi).toNat = lo.toNat + 256 * hi.toNat := by
  have hlo := lo.toNat_lt
  have hhi := hi.toNat_lt
  rw [readU16, UInt32.toNat_add, UInt32.toNat_mul, UInt8.toNat_toUInt32, UInt8.toNat_toUInt32]
  show (lo.toNat + hi.toNat * 256 % 2 ^ 32) % 2 ^ 32 = _
  omega

/-- **The sum** wraps around. -/
theorem sumWords_toNat (sum : UInt32) (buffer : Bytes) :
    (sumWords sum buffer).toNat = (sum.toNat + wordTotal buffer) % 2 ^ 32 := by
  induction sum, buffer using sumWords.induct with
  | case1 sum lo hi rest ih =>
    rw [sumWords, ih, UInt32.toNat_add, readU16_toNat, Nat.mod_add_mod, wordTotal]
    congr 1
    omega
  | case2 sum b => rw [sumWords, UInt32.toNat_add, UInt8.toNat_toUInt32, wordTotal]
  | case3 sum => rw [sumWords, wordTotal, Nat.add_zero, Nat.mod_eq_of_lt sum.toNat_lt]

theorem foldCarries_toNat (sum : UInt32) :
    (foldCarries sum).toNat = OnesComplement.fold 65536 (by decide) sum.toNat := by
  induction sum using foldCarries.induct with
  | case1 sum h ih =>
    have hbig : 65536 ≤ sum.toNat := by
      by_contra hsmall
      refine h (UInt32.toNat_inj.mp ?_)
      rw [UInt32.toNat_div]
      exact Nat.div_eq_of_lt (Nat.lt_of_not_le hsmall)
    have hsum := sum.toNat_lt
    have hcarry : (sum / 65536 + sum % 65536).toNat = sum.toNat / 65536 + sum.toNat % 65536 := by
      rw [UInt32.toNat_add, UInt32.toNat_div, UInt32.toNat_mod]
      show (sum.toNat / 65536 + sum.toNat % 65536) % 2 ^ 32 = _
      omega
    rw [foldCarries, dif_pos h, ih, OnesComplement.fold_of_le hbig, hcarry]
  | case2 sum h =>
    have hzero := congrArg UInt32.toNat (not_not.mp h)
    rw [UInt32.toNat_div] at hzero
    have hsmall : sum.toNat < 65536 :=
      (Nat.div_eq_zero_iff_lt (show 0 < 65536 by decide)).mp hzero
    rw [foldCarries, dif_neg h, OnesComplement.fold_of_lt hsmall]

/-- Different sums of 16 bits have different complements. -/
theorem complement16_inj {sum sum' : UInt32} (h : sum.toNat < 65536) (h' : sum'.toNat < 65536)
    (heq : complement16 sum = complement16 sum') : sum.toNat = sum'.toNat := by
  have hnat := congrArg UInt16.toNat heq
  rw [complement16, complement16, UInt32.toNat_toUInt16, UInt32.toNat_toUInt16, UInt32.toNat_not,
    UInt32.toNat_not] at hnat
  have hsize : UInt32.size = 4294967296 := rfl
  omega

/-- The byte at one place, and what the words then add up to. -/
theorem wordTotal_set (buffer : Bytes) (i : Nat) (h : i < buffer.length) (byte : UInt8) :
    wordTotal (buffer.set i byte) + byteWeight i * buffer[i].toNat =
      wordTotal buffer + byteWeight i * byte.toNat := by
  induction buffer using wordTotal.induct generalizing i with
  | case1 lo hi rest ih =>
    match i with
    | 0 =>
      show byte.toNat + 256 * hi.toNat + wordTotal rest + 1 * lo.toNat =
        lo.toNat + 256 * hi.toNat + wordTotal rest + 1 * byte.toNat
      omega
    | 1 =>
      show lo.toNat + 256 * byte.toNat + wordTotal rest + 256 * hi.toNat =
        lo.toNat + 256 * hi.toNat + wordTotal rest + 256 * byte.toNat
      omega
    | i + 2 =>
      -- A whole word further on, the byte has the same weight.
      have hi' : i < rest.length := by
        simp only [List.length_cons] at h
        omega
      have hrest := ih i hi'
      have hweight : byteWeight (i + 2) = byteWeight i := by
        rw [byteWeight, byteWeight, Nat.add_mod_right]
      show lo.toNat + 256 * hi.toNat + wordTotal (rest.set i byte) +
          byteWeight (i + 2) * rest[i].toNat =
        lo.toNat + 256 * hi.toNat + wordTotal rest + byteWeight (i + 2) * byte.toNat
      rw [hweight]
      omega
  | case2 b =>
    have hzero : i = 0 := Nat.lt_one_iff.mp h
    subst hzero
    show byte.toNat + 1 * b.toNat = b.toNat + 1 * byte.toNat
    omega
  | case3 => exact absurd h (Nat.not_lt_zero i)

theorem DifferInOneByte.exists_set {buffer buffer' : Bytes} (h : DifferInOneByte buffer buffer') :
    ∃ i, ∃ hi : i < buffer.length, ∃ byte, byte ≠ buffer[i] ∧ buffer' = buffer.set i byte := by
  obtain ⟨hlength, i, hne, hsame⟩ := h
  have hi : i < buffer.length := by
    by_contra hge
    have hle := Nat.le_of_not_lt hge
    exact hne (by rw [List.getElem?_eq_none hle, List.getElem?_eq_none (hlength ▸ hle)])
  have hi' : i < buffer'.length := hlength ▸ hi
  refine ⟨i, hi, buffer'[i], fun heq => ?_, List.ext_getElem? fun j => ?_⟩
  · refine hne ?_
    rw [List.getElem?_eq_getElem hi, List.getElem?_eq_getElem hi', heq]
  · by_cases hj : j = i
    · rw [hj, List.getElem?_set_self hi, List.getElem?_eq_getElem hi']
    · rw [List.getElem?_set_ne (Ne.symm hj), hsame j hj]

/-- Totals a small number apart have different folds. -/
theorem fold_total_ne {total d : Nat} (hd : 0 < d) (hsmall : d < 65535) :
    OnesComplement.fold 65536 (by decide) ((total + d) % 2 ^ 32) ≠
      OnesComplement.fold 65536 (by decide) (total % 2 ^ 32) := by
  rw [← Nat.mod_add_mod]
  exact OnesComplement.fold_add_ne (by decide) (Nat.mod_lt _ (by decide)) hd hsmall (by omega)

/-- Bytes at one place of a word count less apart than a fold can hide. -/
theorem exists_weighted_lt {x y : Nat} (i : Nat) (hless : x < y) (hy : y < 256) :
    ∃ d, 0 < d ∧ d < 65535 ∧ byteWeight i * y = byteWeight i * x + d := by
  unfold byteWeight
  split
  · exact ⟨y - x, by omega, by omega, by omega⟩
  · exact ⟨256 * (y - x), by omega, by omega, by omega⟩

theorem fold_wordTotal_set_ne {buffer : Bytes} {i : Nat} (hi : i < buffer.length) {byte : UInt8}
    (hne : byte ≠ buffer[i]) :
    OnesComplement.fold 65536 (by decide) (wordTotal (buffer.set i byte) % 2 ^ 32) ≠
      OnesComplement.fold 65536 (by decide) (wordTotal buffer % 2 ^ 32) := by
  have htotal := wordTotal_set buffer i hi byte
  have hbyte := byte.toNat_lt
  have hold := buffer[i].toNat_lt
  have hdiff : byte.toNat ≠ buffer[i].toNat := fun heq => hne (UInt8.toNat_inj.mp heq)
  -- The total grows or shrinks by the weight times the difference of the bytes.
  rcases Nat.lt_or_gt_of_ne hdiff with hless | hmore
  · obtain ⟨d, hd, hsmall, hweight⟩ := exists_weighted_lt i hless hold
    have hsum : wordTotal buffer = wordTotal (buffer.set i byte) + d := by omega
    rw [hsum]
    exact (fold_total_ne hd hsmall).symm
  · obtain ⟨d, hd, hsmall, hweight⟩ := exists_weighted_lt i hmore hbyte
    have hsum : wordTotal (buffer.set i byte) = wordTotal buffer + d := by omega
    rw [hsum]
    exact fold_total_ne hd hsmall

/-- The checksum of a small buffer is a fold of its words. -/
theorem getCrc16_of_small {buffer : Bytes} (h : buffer.length < maxCacheSize) :
    getCrc16 buffer = complement16 (foldCarries (sumWords 0 buffer)) ∧
      (foldCarries (sumWords 0 buffer)).toNat =
        OnesComplement.fold 65536 (by decide) (wordTotal buffer % 2 ^ 32) := by
  refine ⟨by rw [getCrc16, dif_pos h], ?_⟩
  rw [foldCarries_toNat, sumWords_toNat, show UInt32.toNat 0 = 0 from rfl, Nat.zero_add]

theorem getCrc16_ne {buffer buffer' : Bytes} (hsmall : buffer.length < maxCacheSize)
    (h : DifferInOneByte buffer buffer') : getCrc16 buffer' ≠ getCrc16 buffer := by
  have hsmall' : buffer'.length < maxCacheSize := h.1 ▸ hsmall
  obtain ⟨i, hi, byte, hne, rfl⟩ := h.exists_set
  obtain ⟨hcrc, hfold⟩ := getCrc16_of_small hsmall
  obtain ⟨hcrc', hfold'⟩ := getCrc16_of_small hsmall'
  have hlt := @OnesComplement.fold_lt 65536 (by decide) (wordTotal buffer % 2 ^ 32)
  have hlt' := @OnesComplement.fold_lt 65536 (by decide)
    (wordTotal (buffer.set i byte) % 2 ^ 32)
  rw [hcrc, hcrc']
  intro heq
  have hsum := complement16_inj (by rw [hfold']; exact hlt') (by rw [hfold]; exact hlt) heq
  rw [hfold, hfold'] at hsum
  exact fold_wordTotal_set_ne hi hne hsum

/-- **The checksum of a cache file** ends and reads inside the buffer whatever its length;
below 2 MiB it shows every change of one byte. -/
theorem getCrc16_detects (buffer : Bytes) :
    (∃ rounds, ∀ fuel, rounds ≤ fuel →
      getCrc16Cursor fuel (some buffer) = some (.ok (getCrc16 buffer))) ∧
    (buffer.length < maxCacheSize → ∀ buffer', DifferInOneByte buffer buffer' →
      getCrc16 buffer' ≠ getCrc16 buffer) :=
  ⟨getCrc16Cursor_ends buffer, fun hsmall _ h => getCrc16_ne hsmall h⟩

/-- The sum of these words wraps, and the byte that changes is the odd one at the end. -/
theorem getCrc16_detects_flip :
    getCrc16 ((List.replicate 200001 0xff).set 200000 0xfe) ≠
      getCrc16 (List.replicate 200001 0xff) := by
  have hsmall : (List.replicate 200001 (0xff : UInt8)).length < maxCacheSize := by
    rw [List.length_replicate]
    decide
  refine (getCrc16_detects _).2 hsmall _ ⟨List.length_set.symm, 200000, ?_, fun j hj => ?_⟩
  · rw [List.getElem?_set_self (by rw [List.length_replicate]; decide), List.getElem?_replicate]
    decide
  · rw [List.getElem?_set_ne hj.symm]

end NNRt
