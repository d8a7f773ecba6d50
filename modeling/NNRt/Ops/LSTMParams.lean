import Mathlib.Data.Nat.Prime.Basic
import NNRt.Ops.Readings

/-!
# Parameters of an LSTM

Ten setters, of which nine read what their tensors hold. `SetProjSize` asks for a 64-bit
integer and reads its low half as a `float`.

- `truncFloat_eq_self_iff`: which integers that reading leaves as they are.
- `decode_of_heldBy`: what each parameter says, for every value.
- `lstm_faithful_iff`: **a built LSTM has the values of its parameters, and the defaults,
  exactly if no projection size other than 0 is given.**
-/

namespace NNRt.Ops

/-! ## An integer read as a `float` -/

/-- An odd factor does not take part in the divisibility by a power of two. -/
theorem eq_zero_of_dvd_odd_mul {n f k : Nat} (hk : k % 2 = 1) (hf : f < 2 ^ n)
    (h : 2 ^ n ∣ f * k) : f = 0 := by
  have hcoprime : Nat.Coprime (2 ^ n) k :=
    Nat.Coprime.pow_left n (Nat.coprime_two_left.mpr (Nat.odd_iff.mpr hk))
  exact Nat.eq_zero_of_dvd_of_lt (hcoprime.dvd_of_dvd_mul_right h) hf

theorem odd_pow_sub_one {k : Nat} (hk : 0 < k) : (2 ^ k - 1) % 2 = 1 ∧ (2 ^ k + 1) % 2 = 1 := by
  obtain ⟨j, rfl⟩ : ∃ j, k = j + 1 := ⟨k - 1, by omega⟩
  have hpos : 0 < 2 ^ j := Nat.two_pow_pos j
  rw [Nat.pow_succ]
  omega

/-- What a power of two times a mantissa leaves of the low bits. -/
theorem mantissa_mod (f k : Nat) : (f + 2 ^ 23) * 2 ^ k % 2 ^ 23 = f * 2 ^ k % 2 ^ 23 := by
  rw [Nat.add_mul, Nat.add_mul_mod_self_left]

/-- A large float is no fixed point: positive. -/
theorem positive_ne {b k : Nat} (hb : b < 2 ^ 31) (hk : b / 2 ^ 23 % 2 ^ 8 = 150 + k)
    (hlt : k < 41) : (b % 2 ^ 23 + 2 ^ 23) * 2 ^ k % 2 ^ 32 ≠ b := by
  intro h
  obtain rfl | hpos := Nat.eq_zero_or_pos k
  · omega
  have hmod : b % 2 ^ 23 * 2 ^ k % 2 ^ 23 = b % 2 ^ 23 % 2 ^ 23 := by
    rw [← mantissa_mod, Nat.mod_mod, ← Nat.mod_mod_of_dvd _ (show 2 ^ 23 ∣ 2 ^ 32 by decide), h]
  have hdvd : 2 ^ 23 ∣ b % 2 ^ 23 * (2 ^ k - 1) := by
    rw [Nat.mul_sub_one]
    exact Nat.dvd_of_mod_eq_zero (Nat.sub_mod_eq_zero_of_mod_eq hmod)
  have hzero := eq_zero_of_dvd_odd_mul (odd_pow_sub_one hpos).1 (Nat.mod_lt b (by decide)) hdvd
  have hno : ∀ k < 41, 2 ^ k % 2 ^ 9 ≠ 150 + k := by decide
  refine hno k hlt ?_
  rw [hzero, Nat.zero_add, show 2 ^ 32 = 2 ^ 23 * 2 ^ 9 from rfl, Nat.mul_mod_mul_left] at h
  omega

/-- Negative. -/
theorem negative_ne {b k : Nat} (hb : b < 2 ^ 32) (hsign : 2 ^ 31 ≤ b)
    (hk : b / 2 ^ 23 % 2 ^ 8 = 150 + k) (hlt : k < 41) :
    ((b % 2 ^ 23 + 2 ^ 23) * 2 ^ k + b) % 2 ^ 32 ≠ 0 := by
  intro h
  obtain rfl | hpos := Nat.eq_zero_or_pos k
  · omega
  have hdvd : 2 ^ 23 ∣ b % 2 ^ 23 * (2 ^ k + 1) := by
    have hall : 2 ^ 23 ∣ (b % 2 ^ 23 + 2 ^ 23) * 2 ^ k + b :=
      Nat.dvd_trans (show 2 ^ 23 ∣ 2 ^ 32 by decide) (Nat.dvd_of_mod_eq_zero h)
    have hsplit : (b % 2 ^ 23 + 2 ^ 23) * 2 ^ k + b =
        b % 2 ^ 23 * (2 ^ k + 1) + 2 ^ 23 * (2 ^ k + b / 2 ^ 23) := by
      have hb := Nat.mod_add_div b (2 ^ 23)
      rw [Nat.add_mul, Nat.mul_add_one, Nat.mul_add]
      omega
    rw [hsplit] at hall
    exact (Nat.dvd_add_left (Nat.dvd_mul_right _ _)).mp hall
  have hzero := eq_zero_of_dvd_odd_mul (odd_pow_sub_one hpos).2 (Nat.mod_lt b (by decide)) hdvd
  have hno : ∀ k < 41, (2 ^ k + (406 + k)) % 2 ^ 9 ≠ 0 := by decide
  refine hno k hlt ?_
  have hb' : b = 2 ^ 23 * (406 + k) := by omega
  rw [hzero, Nat.zero_add, hb', ← Nat.mul_add, show 2 ^ 32 = 2 ^ 23 * 2 ^ 9 from rfl,
    Nat.mul_mod_mul_left] at h
  omega

/-- The magnitude of a `float` that is converted. -/
def magnitude (b : Nat) : Nat :=
  if b / 2 ^ 23 % 2 ^ 8 < 127 then 0
  else if b / 2 ^ 23 % 2 ^ 8 < 150 then
    (b % 2 ^ 23 + 2 ^ 23) / 2 ^ (150 - b / 2 ^ 23 % 2 ^ 8)
  else (b % 2 ^ 23 + 2 ^ 23) * 2 ^ (b / 2 ^ 23 % 2 ^ 8 - 150)

theorem magnitude_middle {b : Nat} (hlow : 127 ≤ b / 2 ^ 23 % 2 ^ 8)
    (hhigh : b / 2 ^ 23 % 2 ^ 8 < 150) : 0 < magnitude b ∧ magnitude b < 2 ^ 23 := by
  unfold magnitude
  rw [if_neg (by omega), if_pos hhigh]
  generalize hd : 150 - b / 2 ^ 23 % 2 ^ 8 = d
  have htwo : 2 ^ 1 ≤ 2 ^ d := Nat.pow_le_pow_right (by decide) (by omega)
  have hmax : 2 ^ d ≤ 2 ^ 23 := Nat.pow_le_pow_right (by decide) (by omega)
  constructor
  · exact Nat.div_pos (by omega) (by omega)
  · refine (Nat.div_lt_iff_lt_mul (by omega)).mpr ?_
    have hmul := Nat.mul_le_mul_left (2 ^ 23) htwo
    omega

/-- **The only float whose truncation has the bits of the float is zero.** -/
theorem low_bits_eq_zero {b : Nat} (hb : b < 2 ^ 32) (hlt : magnitude b ≤ 2 ^ 63)
    (hfixed : if b < 2 ^ 31 then magnitude b % 2 ^ 32 = b else (magnitude b + b) % 2 ^ 32 = 0) :
    magnitude b = 0 := by
  by_cases hsmall : b / 2 ^ 23 % 2 ^ 8 < 127
  · exact if_pos hsmall
  by_cases hmiddle : b / 2 ^ 23 % 2 ^ 8 < 150
  · -- The magnitude has no bits where the exponent is.
    obtain ⟨hpos, hless⟩ := magnitude_middle (Nat.not_lt.mp hsmall) hmiddle
    exfalso
    split at hfixed
    · omega
    · omega
  · have hmag : magnitude b = (b % 2 ^ 23 + 2 ^ 23) * 2 ^ (b / 2 ^ 23 % 2 ^ 8 - 150) := by
      unfold magnitude
      rw [if_neg hsmall, if_neg hmiddle]
    obtain ⟨k, hk⟩ : ∃ k, b / 2 ^ 23 % 2 ^ 8 = 150 + k := ⟨b / 2 ^ 23 % 2 ^ 8 - 150, by omega⟩
    rw [hk, Nat.add_sub_cancel_left] at hmag
    have hk' : k < 41 := by
      have hpow : 2 ^ 23 * 2 ^ k ≤ 2 ^ 63 := by
        refine Nat.le_trans ?_ (hmag ▸ hlt)
        exact Nat.mul_le_mul_right _ (by omega)
      rw [← Nat.pow_add] at hpow
      have hle := (Nat.pow_le_pow_iff_right (by decide)).mp hpow
      omega
    exfalso
    split at hfixed
    · rename_i hsign
      exact positive_ne hsign hk hk' (hmag ▸ hfixed)
    · rename_i hsign
      exact negative_ne hb (Nat.not_lt.mp hsign) hk hk' (hmag ▸ hfixed)

/-- What a `float` is cut to, where the integer type holds it. -/
def truncated (b : Nat) : Int :=
  if b < 2 ^ 31 then magnitude b else -magnitude b

theorem truncFloat_eq (bits : UInt32) : truncFloat bits =
    if bits.toNat / 2 ^ 23 % 2 ^ 8 < 255 ∧ -2 ^ 63 ≤ truncated bits.toNat ∧
        truncated bits.toNat < 2 ^ 63 then
      .ok (Int64.ofInt (truncated bits.toNat))
    else .error .badConversion := rfl

/-- **Which integers survive** being read as a `float`. -/
theorem truncFloat_eq_self_iff {bits : UInt32} {v : Int64}
    (hbits : bits.toNat = v.toBitVec.toNat % 2 ^ 32) : truncFloat bits = .ok v ↔ v = 0 := by
  constructor
  · intro h
    rw [truncFloat_eq] at h
    by_cases hrange : bits.toNat / 2 ^ 23 % 2 ^ 8 < 255 ∧ -2 ^ 63 ≤ truncated bits.toNat ∧
        truncated bits.toNat < 2 ^ 63
    · rw [if_pos hrange] at h
      obtain ⟨-, hlow, hhigh⟩ := hrange
      have hv : v.toInt = truncated bits.toNat := by
        rw [← Except.ok.inj h, Int64.toInt_ofInt_of_le hlow hhigh]
      have hint : v.toInt = if 2 * v.toBitVec.toNat < 2 ^ 64 then (v.toBitVec.toNat : Int)
          else (v.toBitVec.toNat : Int) - (2 ^ 64 : Nat) := BitVec.toInt_eq_toNat_cond v.toBitVec
      have hb := bits.toNat_lt
      -- The integer and the bits agree in their low half.
      have hmod : (truncated bits.toNat - bits.toNat) % 2 ^ 32 = 0 := by
        rw [← hv, hbits]
        split at hint <;> omega
      have hmag : magnitude bits.toNat = 0 := by
        unfold truncated at hmod hlow hhigh
        by_cases hsign : bits.toNat < 2 ^ 31
        · rw [if_pos hsign] at hmod hlow hhigh
          refine low_bits_eq_zero hb (by omega) ?_
          rw [if_pos hsign]
          omega
        · rw [if_neg hsign] at hmod hlow hhigh
          refine low_bits_eq_zero hb (by omega) ?_
          rw [if_neg hsign]
          omega
      rw [← Int64.toInt_inj, hv]
      unfold truncated
      rw [hmag]
      split <;> rfl
    · rw [if_neg hrange] at h
      cases h
  · rintro rfl
    have hzero : bits = 0 := UInt32.toNat_inj.mp hbits
    rw [hzero]
    rfl


/-! ## The parameters -/

namespace LSTM

/-- A parameter of the builder, with its value. -/
inductive Param
  | bidirectional (value : Bool)
  | hasBias (value : Bool)
  | inputSize (value : Int64)
  | hiddenSize (value : Int64)
  | numLayers (value : Int64)
  | numDirections (value : Int64)
  | dropout (value : UInt32)
  | zoneoutCell (value : UInt32)
  | zoneoutHidden (value : UInt32)
  | projSize (value : Int64)

namespace Param

def tensorType : Param → TensorType
  | bidirectional _ => .lstmBidirectional
  | hasBias _ => .lstmHasBias
  | inputSize _ => .lstmInputSize
  | hiddenSize _ => .lstmHiddenSize
  | numLayers _ => .lstmNumLayers
  | numDirections _ => .lstmNumDirections
  | dropout _ => .lstmDropout
  | zoneoutCell _ => .lstmZoneoutCell
  | zoneoutHidden _ => .lstmZoneoutHidden
  | projSize _ => .lstmProjSize

def dataType : Param → DataType
  | bidirectional _ | hasBias _ => .bool
  | dropout _ | zoneoutCell _ | zoneoutHidden _ => .float32
  | _ => .int64

/-- The bytes of a value. -/
def bytes : Param → Bytes
  | bidirectional value | hasBias value => [if value then 1 else 0]
  | dropout value | zoneoutCell value | zoneoutHidden value => LittleEndian.encode 4 value.toNat
  | inputSize value | hiddenSize value | numLayers value | numDirections value | projSize value =>
    LittleEndian.encode 8 value.toBitVec.toNat

/-- A tensor holds a parameter. -/
structure HeldBy (p : Param) (t : Tensor) : Prop where
  tensorType : t.tensorType = p.tensorType
  dataType : t.dataType = p.dataType
  elementCount : t.elementCount = 1
  buffer : t.buffer = some p.bytes

end Param

/-- The setters of the builder, as readings. -/
def readings : List (TensorType × Reading Param) :=
  [(.lstmBidirectional, .bool (scalarOf .bool) .bidirectional),
    (.lstmHasBias, .bool (scalarOf .bool) .hasBias),
    (.lstmInputSize, .int64 (scalarOf .int64) .inputSize),
    (.lstmHiddenSize, .int64 (scalarOf .int64) .hiddenSize),
    (.lstmNumLayers, .int64 (scalarOf .int64) .numLayers),
    (.lstmNumDirections, .int64 (scalarOf .int64) .numDirections),
    (.lstmDropout, .float (scalarOf .float32) .dropout),
    (.lstmZoneoutCell, .float (scalarOf .float32) .zoneoutCell),
    (.lstmZoneoutHidden, .float (scalarOf .float32) .zoneoutHidden),
    (.lstmProjSize, .value (scalarOf .int64) (fun t => do truncFloat (← t.float 0)) .projSize)]

/-- What a parameter says is stored. -/
def put (s : LSTM) : Param → LSTM
  | .bidirectional value => { s with bidirectional := value }
  | .hasBias value => { s with hasBias := value }
  | .inputSize value => { s with inputSize := value }
  | .hiddenSize value => { s with hiddenSize := value }
  | .numLayers value => { s with numLayers := value }
  | .numDirections value => { s with numDirections := value }
  | .dropout value => { s with dropout := value }
  | .zoneoutCell value => { s with zoneoutCell := value }
  | .zoneoutHidden value => { s with zoneoutHidden := value }
  | .projSize value => { s with projSize := value }

theorem goesBy_readings :
    lstmBuilder.GoesBy (fun _ => True) readings fun s p => .ok (put s p) := by
  -- All ten setters store what they read.
  iterate 10 refine .cons ⟨rfl, Reading.goes_value (fun _ => rfl) fun _ _ => rfl⟩ ?_
  exact .nil

/-- What a tensor says that holds a parameter: the setter of the projection size reads the
low half of its value, as a `float`. -/
def Param.asRead : Param → Except Stop Param
  | .projSize value =>
    match truncFloat (UInt32.ofNat (value.toBitVec.toNat % 2 ^ 32)) with
    | .error fault => .error (.fault fault)
    | .ok size => .ok (.projSize size)
  | p => .ok p

theorem passes_scalarOf {t : Tensor} {d : DataType} {bytes : Bytes} (htype : t.dataType = d)
    (hcount : t.elementCount = 1) (hbuffer : t.buffer = some bytes) :
    (Check.run (scalarOf d) t).1 = true := by
  rw [Check.run_fst_iff]
  intro check hcheck
  rcases List.mem_cons.mp hcheck with rfl | hcheck
  · exact decide_eq_true htype
  rcases List.mem_cons.mp hcheck with rfl | hcheck
  · exact decide_eq_true hcount
  · obtain rfl := List.mem_singleton.mp hcheck
    show t.buffer.isSome = true
    rw [hbuffer]
    rfl

/-- The low bytes of a number in a buffer. -/
theorem number_of_encode {t : Tensor} {w n x : Nat}
    (h : t.buffer = some (LittleEndian.encode (w + n) x)) : t.number w 0 = .ok (x % 256 ^ w) := by
  unfold Tensor.number
  rw [h]
  show (if w * 0 + w ≤ (LittleEndian.encode (w + n) x).length then
    Except.ok (LittleEndian.decode ((LittleEndian.encode (w + n) x).take w)) else _) = _
  rw [LittleEndian.length_encode, if_pos (by omega), LittleEndian.take_encode,
    LittleEndian.decode_encode_mod]

theorem bool_of_bytes {t : Tensor} {value : Bool} (h : t.buffer = some [if value then 1 else 0]) :
    t.bool = .ok value := by
  unfold Tensor.bool Tensor.number
  rw [h]
  cases value <;> rfl

theorem int64_of_bytes {t : Tensor} {value : Int64}
    (h : t.buffer = some (LittleEndian.encode 8 value.toBitVec.toNat)) :
    t.int64 0 = .ok value := by
  have hlt : value.toBitVec.toNat < 256 ^ 8 := value.toBitVec.isLt
  unfold Tensor.int64
  rw [number_of_encode (n := 0) h, Nat.mod_eq_of_lt hlt]
  show Except.ok (Int64.ofBitVec (BitVec.ofNat 64 value.toBitVec.toNat)) = _
  rw [BitVec.ofNat_toNat, BitVec.setWidth_eq, Int64.ofBitVec_toBitVec]

theorem float_of_bytes {t : Tensor} {value : UInt32}
    (h : t.buffer = some (LittleEndian.encode 4 value.toNat)) : t.float 0 = .ok value := by
  have hlt : value.toNat < 256 ^ 4 := value.toNat_lt
  unfold Tensor.float
  rw [number_of_encode (n := 0) h, Nat.mod_eq_of_lt hlt]
  show Except.ok (UInt32.ofNat value.toNat) = _
  rw [UInt32.ofNat_toNat]

/-- **What each parameter says**, for every value. -/
theorem decode_of_heldBy {p : Param} {t : Tensor} (h : p.HeldBy t) :
    decode readings t = p.asRead := by
  obtain ⟨htype, hdata, hcount, hbuffer⟩ := h
  have hpass := passes_scalarOf hdata hcount hbuffer
  unfold decode
  rw [htype]
  cases p with
  | bidirectional value => exact Reading.decode_value_ok hpass (bool_of_bytes hbuffer)
  | hasBias value => exact Reading.decode_value_ok hpass (bool_of_bytes hbuffer)
  | inputSize value => exact Reading.decode_value_ok hpass (int64_of_bytes hbuffer)
  | hiddenSize value => exact Reading.decode_value_ok hpass (int64_of_bytes hbuffer)
  | numLayers value => exact Reading.decode_value_ok hpass (int64_of_bytes hbuffer)
  | numDirections value => exact Reading.decode_value_ok hpass (int64_of_bytes hbuffer)
  | dropout value => exact Reading.decode_value_ok hpass (float_of_bytes hbuffer)
  | zoneoutCell value => exact Reading.decode_value_ok hpass (float_of_bytes hbuffer)
  | zoneoutHidden value => exact Reading.decode_value_ok hpass (float_of_bytes hbuffer)
  | projSize value =>
    -- The setter of another type of value: the low half, as a `float`.
    have hfloat : t.float 0 = .ok (UInt32.ofNat (value.toBitVec.toNat % 2 ^ 32)) := by
      have hnumber := number_of_encode (w := 4) (n := 4) hbuffer
      unfold Tensor.float
      rw [hnumber]
      rfl
    refine (Reading.decode_value_of hpass).trans ?_
    rw [hfloat]
    show answer ((truncFloat (UInt32.ofNat (value.toBitVec.toNat % 2 ^ 32))).map fun a =>
      some (Param.projSize a)) = (match truncFloat _ with
        | .error fault => .error (.fault fault)
        | .ok size => .ok (.projSize size))
    cases truncFloat (UInt32.ofNat (value.toBitVec.toNat % 2 ^ 32)) with
    | error fault => rfl
    | ok size => rfl

/-! ## The primitive -/

namespace Param

def bidirectional? : Param → Option Bool
  | bidirectional value => some value
  | _ => none

def hasBias? : Param → Option Bool
  | hasBias value => some value
  | _ => none

def inputSize? : Param → Option Int64
  | inputSize value => some value
  | _ => none

def hiddenSize? : Param → Option Int64
  | hiddenSize value => some value
  | _ => none

def numLayers? : Param → Option Int64
  | numLayers value => some value
  | _ => none

def numDirections? : Param → Option Int64
  | numDirections value => some value
  | _ => none

def dropout? : Param → Option UInt32
  | dropout value => some value
  | _ => none

def zoneoutCell? : Param → Option UInt32
  | zoneoutCell value => some value
  | _ => none

def zoneoutHidden? : Param → Option UInt32
  | zoneoutHidden value => some value
  | _ => none

def projSize? : Param → Option Int64
  | projSize value => some value
  | _ => none

end Param

/-- The value of a parameter that is given, or its default. -/
def given {α : Type} (value : Param → Option α) (default : α) (ps : List Param) : α :=
  (ps.filterMap value).getLastD default

/-- The primitive with the values of the given parameters, and the defaults of the others. -/
def carrying (ps : List Param) : Primitive :=
  .lstm (given Param.bidirectional? false ps) (given Param.hasBias? false ps)
    (given Param.inputSize? 0 ps) (given Param.hiddenSize? 0 ps) (given Param.numLayers? 0 ps)
    (given Param.numDirections? 0 ps) (given Param.dropout? 0 ps) (given Param.zoneoutCell? 0 ps)
    (given Param.zoneoutHidden? 0 ps) (given Param.projSize? 0 ps)

/-- The members hold what is given. -/
theorem primitive_foldl (ps : List Param) :
    lstmBuilder.primitive (ps.foldl put {}) = .ok (some (carrying ps)) := by
  have hfield : ∀ {β : Type} (get : LSTM → β) (value : Param → Option β),
      (∀ s p, get (put s p) = (value p).getD (get s)) →
      get (ps.foldl put {}) = given value (get {}) ps :=
    fun _ _ h => Writes.foldl_field h {} ps
  have h₁ := hfield LSTM.bidirectional Param.bidirectional? fun _ p => by cases p <;> rfl
  have h₂ := hfield LSTM.hasBias Param.hasBias? fun _ p => by cases p <;> rfl
  have h₃ := hfield LSTM.inputSize Param.inputSize? fun _ p => by cases p <;> rfl
  have h₄ := hfield LSTM.hiddenSize Param.hiddenSize? fun _ p => by cases p <;> rfl
  have h₅ := hfield LSTM.numLayers Param.numLayers? fun _ p => by cases p <;> rfl
  have h₆ := hfield LSTM.numDirections Param.numDirections? fun _ p => by cases p <;> rfl
  have h₇ := hfield LSTM.dropout Param.dropout? fun _ p => by cases p <;> rfl
  have h₈ := hfield LSTM.zoneoutCell Param.zoneoutCell? fun _ p => by cases p <;> rfl
  have h₉ := hfield LSTM.zoneoutHidden Param.zoneoutHidden? fun _ p => by cases p <;> rfl
  have h₁₀ := hfield LSTM.projSize Param.projSize? fun _ p => by cases p <;> rfl
  show Except.ok (some (Primitive.lstm _ _ _ _ _ _ _ _ _ _)) = _
  rw [h₁, h₂, h₃, h₄, h₅, h₆, h₇, h₈, h₉, h₁₀]
  rfl

/-! ## What is read for what is given -/

/-- A projection size is read, with some value, or its conversion is undefined. -/
theorem asRead_projSize (value : Int64) :
    (∃ size, truncFloat (UInt32.ofNat (value.toBitVec.toNat % 2 ^ 32)) = .ok size ∧
        Param.asRead (.projSize value) = .ok (.projSize size)) ∨
      ∃ fault, truncFloat (UInt32.ofNat (value.toBitVec.toNat % 2 ^ 32)) = .error fault ∧
        Param.asRead (.projSize value) = .error (.fault fault) := by
  unfold Param.asRead
  dsimp only
  cases truncFloat (UInt32.ofNat (value.toBitVec.toNat % 2 ^ 32)) with
  | error fault => exact Or.inr ⟨fault, rfl, rfl⟩
  | ok size => exact Or.inl ⟨size, rfl, rfl⟩

/-- Which parameters say what they hold. -/
theorem asRead_eq_self_iff (p : Param) :
    p.asRead = .ok p ↔ ∀ value, p = .projSize value → value = 0 := by
  cases p with
  | projSize value =>
    have hbits : (UInt32.ofNat (value.toBitVec.toNat % 2 ^ 32)).toNat =
        value.toBitVec.toNat % 2 ^ 32 := UInt32.toNat_ofNat_of_lt' (Nat.mod_lt _ (by decide))
    have hself := truncFloat_eq_self_iff hbits
    have hzero : (∀ value', Param.projSize value = .projSize value' → value' = 0) ↔ value = 0 := by
      constructor
      · exact fun h => h value rfl
      · rintro h _ heq
        cases heq
        exact h
    rw [hzero, ← hself]
    rcases asRead_projSize value with ⟨size, htrunc, hread⟩ | ⟨fault, htrunc, hread⟩
    · rw [htrunc, hread, Except.ok.injEq, Except.ok.injEq, Param.projSize.injEq]
    · rw [htrunc, hread]
      exact iff_of_false nofun nofun
  | _ => exact iff_of_true rfl nofun

/-- A parameter that is held is never refused. -/
theorem asRead_ne_ret (p : Param) (ret : ReturnCode) : p.asRead ≠ .error (.ret ret) := by
  cases p with
  | projSize value =>
    rcases asRead_projSize value with ⟨size, -, hread⟩ | ⟨fault, -, hread⟩
    · rw [hread]
      nofun
    · rw [hread]
      nofun
  | _ => nofun

/-- With distinct types there is one projection size at most. -/
theorem projSize_unique {ps : List Param} (h : (ps.map Param.tensorType).Nodup) {value : Int64}
    (hmem : .projSize value ∈ ps) : ps.filterMap Param.projSize? = [value] := by
  induction ps with
  | nil => exact absurd hmem List.not_mem_nil
  | cons p ps ih =>
    obtain ⟨hp, hps⟩ := List.nodup_cons.mp h
    rcases List.mem_cons.mp hmem with rfl | hrest
    · have hnone : ps.filterMap Param.projSize? = [] := by
        rw [List.filterMap_eq_nil_iff]
        intro q hq
        cases q with
        | projSize value' => exact absurd (List.mem_map_of_mem (f := Param.tensorType) hq) hp
        | _ => rfl
      show value :: ps.filterMap Param.projSize? = [value]
      rw [hnone]
    · have hskip : p.projSize? = none := by
        cases p with
        | projSize value' => exact absurd (List.mem_map_of_mem (f := Param.tensorType) hrest) hp
        | _ => rfl
      rw [List.filterMap_cons_none hskip]
      exact ih hps hrest

/-- The projection sizes, as they are read. -/
theorem projSizes_read {ps ps' : List Param}
    (h : List.Forall₂ (fun p p' => Param.asRead p = .ok p') ps ps') :
    List.Forall₂ (fun value size => Param.asRead (.projSize value) = .ok (.projSize size))
      (ps.filterMap Param.projSize?) (ps'.filterMap Param.projSize?) := by
  induction h with
  | nil => exact .nil
  | @cons p p' ps ps' hp _ ih =>
    cases p with
    | projSize value =>
      rcases asRead_projSize value with ⟨size, -, hread⟩ | ⟨fault, -, hread⟩
      · cases hread.symm.trans hp
        exact .cons hp ih
      · cases hread.symm.trans hp
    | _ =>
      cases hp
      exact ih

/-! ## The law -/

/-- `Build` ends, and what it builds has the values given and the defaults. -/
def Faithful (params inputs outputs : List Nat) (tensors : List Tensor) (ps : List Param) : Prop :=
  ∃ r tensors', lstmBuilder.build params inputs outputs tensors = .ok (r, tensors') ∧
    ∀ op, r = .ok op → op.primitive = .ok (some (carrying ps))

/-- Ten types, ten parameters. -/
theorem length_le_of_nodup {ps : List Param} (h : (ps.map Param.tensorType).Nodup) :
    ps.length ≤ 10 := by
  have hsub : ps.map Param.tensorType ⊆ readings.map Prod.fst := by
    intro type htype
    obtain ⟨p, -, rfl⟩ := List.mem_map.mp htype
    cases p <;> simp [readings, Param.tensorType]
  have hle := (List.subperm_of_subset h hsub).length_le
  rwa [List.length_map] at hle

/-- The tensors at the indices hold the parameters. -/
theorem heldBy_tensorsAt {params : List Nat} {tensors : List Tensor} {ps : List Param}
    (h : List.Forall₂ (fun i p => ∃ t, tensors[i]? = some t ∧ p.HeldBy t) params ps) :
    List.Forall₂ (fun t p => p.HeldBy t) (OpsBuilder.tensorsAt tensors params) ps := by
  induction h with
  | nil => exact .nil
  | @cons i p params ps hi _ ih =>
    obtain ⟨t, ht, hp⟩ := hi
    have hcons : OpsBuilder.tensorsAt tensors (i :: params) =
        t :: OpsBuilder.tensorsAt tensors params := List.filterMap_cons_some ht
    rw [hcons]
    exact .cons hp ih

/-- The call gets to its parameters. -/
theorem begins_of_heldBy {params inputs outputs : List Nat} {tensors : List Tensor}
    {ps : List Param} (hio : checkIOIndex 6 3 inputs outputs tensors = .success)
    (hparams : List.Forall₂ (fun i p => ∃ t, tensors[i]? = some t ∧ p.HeldBy t) params ps)
    (hdistinct : (ps.map Param.tensorType).Nodup) :
    lstmBuilder.begins params inputs outputs tensors = .ok (.ok {}) := by
  have hparam : checkParamIndex 10 params tensors = .success := by
    have hlength := length_le_of_nodup hdistinct
    rw [← hparams.length_eq] at hlength
    unfold checkParamIndex
    rw [if_neg (Nat.not_lt.mpr hlength), if_neg]
    rw [List.any_eq_true]
    rintro ⟨i, hi, hge⟩
    obtain ⟨p, -, t, ht, -⟩ := exists_mem_of_forall₂ hparams i hi
    exact absurd (List.getElem?_eq_some_iff.mp ht).1 (Nat.not_lt.mpr (of_decide_eq_true hge))
  show (if checkIOIndex 6 3 inputs outputs tensors ≠ .success then _ else
    if checkParamIndex 10 params tensors ≠ .success then _ else _ : Except Fault _) = _
  rw [hio, hparam]
  rfl

/-- What the loop comes to, given what the parameters say. -/
theorem run_iff {ts : List Tensor} {ps : List Param} {s' : LSTM}
    (h : List.Forall₂ (fun t p => p.HeldBy t) ts ps) :
    Writes.run (decode readings) (fun s p => .ok (put s p)) {} ts = .ok s' ↔
      ∃ ps', List.Forall₂ (fun p p' => Param.asRead p = .ok p') ps ps' ∧ s' = ps'.foldl put {} := by
  rw [Writes.run_total_iff]
  refine exists_congr fun ps' => and_congr_left' ?_
  induction h generalizing ps' with
  | nil => rw [List.forall₂_nil_left_iff, List.forall₂_nil_left_iff]
  | @cons t p ts ps hp _ ih =>
    rw [List.forall₂_cons_left_iff, List.forall₂_cons_left_iff]
    refine exists₂_congr fun p' rest => ?_
    rw [decode_of_heldBy hp, ih]

/-- A loop that does not get through has met an undefined conversion. -/
theorem run_ne_ret {ts : List Tensor} {ps : List Param}
    (h : List.Forall₂ (fun t p => p.HeldBy t) ts ps) (ret : ReturnCode) :
    Writes.run (decode readings) (fun s p => .ok (put s p)) ({} : LSTM) ts ≠
      .error (.ret ret) := by
  intro hrun
  obtain ⟨before, t, after, as, rfl, -, ht⟩ := Writes.run_total_error_iff.mp hrun
  have hmem : t ∈ before ++ t :: after := List.mem_append_right _ List.mem_cons_self
  obtain ⟨p, -, hp⟩ := exists_mem_of_forall₂ h t hmem
  rw [decode_of_heldBy hp] at ht
  exact asRead_ne_ret p ret ht

/-- A loop that gets through is followed by success. -/
theorem build_of_run {params inputs outputs : List Nat} {tensors : List Tensor} {s' : LSTM}
    (hbegins : lstmBuilder.begins params inputs outputs tensors = .ok (.ok {}))
    (hrun : Writes.run (decode readings) (fun s p => .ok (put s p)) {}
      (OpsBuilder.tensorsAt tensors params) = .ok s') :
    ∃ op tensors', lstmBuilder.build params inputs outputs tensors = .ok (.ok op, tensors') ∧
      op.primitive = lstmBuilder.primitive s' :=
  ⟨_, _, (OpsBuilder.build_ok_iff goesBy_readings (fun _ => Iff.rfl) fun _ _ => trivial).mpr
    ⟨{}, s', hbegins, hrun, rfl, rfl⟩, rfl⟩

/-- A `Build` that ends has got through the loop. -/
theorem run_of_build {params inputs outputs : List Nat} {tensors tensors' : List Tensor}
    {ps : List Param} {r : Except ReturnCode BuiltOp}
    (hbegins : lstmBuilder.begins params inputs outputs tensors = .ok (.ok {}))
    (hheld : List.Forall₂ (fun t p => p.HeldBy t) (OpsBuilder.tensorsAt tensors params) ps)
    (hbuild : lstmBuilder.build params inputs outputs tensors = .ok (r, tensors')) :
    ∃ s', Writes.run (decode readings) (fun s p => .ok (put s p)) {}
      (OpsBuilder.tensorsAt tensors params) = .ok s' := by
  cases hrun : Writes.run (decode readings) (fun s p => .ok (put s p)) ({} : LSTM)
      (OpsBuilder.tensorsAt tensors params) with
  | ok s' => exact ⟨s', rfl⟩
  | error stop =>
    cases stop with
    | ret ret => exact absurd hrun (run_ne_ret hheld ret)
    | fault fault =>
      have hresult : lstmBuilder.result params inputs outputs tensors = _ :=
        OpsBuilder.result_of_goesBy goesBy_readings (fun _ => Iff.rfl) fun _ _ => trivial
      rw [hbegins] at hresult
      dsimp only at hresult
      rw [hrun] at hresult
      unfold OpsBuilder.result at hresult
      rw [hbuild] at hresult
      cases hresult

/-- **When an LSTM is built as its parameters say.** -/
theorem lstm_faithful_iff {params inputs outputs : List Nat} {tensors : List Tensor}
    {ps : List Param}
    (hparams : List.Forall₂ (fun i p => ∃ t, tensors[i]? = some t ∧ p.HeldBy t) params ps)
    (hdistinct : (ps.map Param.tensorType).Nodup) :
    Faithful params inputs outputs tensors ps ↔
      checkIOIndex 6 3 inputs outputs tensors ≠ .success ∨
        ∀ value, .projSize value ∈ ps → value = 0 := by
  by_cases hio : checkIOIndex 6 3 inputs outputs tensors ≠ .success
  · refine iff_of_true ⟨.error (checkIOIndex 6 3 inputs outputs tensors), tensors, if_pos hio,
      fun op heq => ?_⟩ (Or.inl hio)
    cases heq
  rw [or_iff_right hio]
  have hbegins := begins_of_heldBy (not_not.mp hio) hparams hdistinct
  have hheld := heldBy_tensorsAt hparams
  constructor
  · rintro ⟨r, tensors', hbuild, hkept⟩ value hmem
    obtain ⟨s', hrun⟩ := run_of_build hbegins hheld hbuild
    obtain ⟨ps', hread, rfl⟩ := (run_iff hheld).mp hrun
    obtain ⟨op, tensors₁, hbuild', hop⟩ := build_of_run hbegins hrun
    obtain ⟨rfl, rfl⟩ := Prod.mk.inj (Except.ok.inj (hbuild.symm.trans hbuild'))
    -- The two primitives have the same projection size.
    have hsame : carrying ps' = carrying ps := by
      rw [hkept op rfl, primitive_foldl] at hop
      exact (Option.some.inj (Except.ok.inj hop)).symm
    have hsize : given Param.projSize? 0 ps' = given Param.projSize? 0 ps := by
      unfold carrying at hsame
      injection hsame
    have hsizes := projSizes_read hread
    unfold given at hsize
    rw [projSize_unique hdistinct hmem] at hsizes hsize
    obtain ⟨size, rest, hvalue, hrest, heq⟩ := List.forall₂_cons_left_iff.mp hsizes
    obtain rfl := List.forall₂_nil_left_iff.mp hrest
    rw [heq] at hsize
    obtain rfl : size = value := hsize
    exact (asRead_eq_self_iff _).mp hvalue size rfl
  · intro hzero
    have hread : List.Forall₂ (fun p p' => Param.asRead p = .ok p') ps ps := by
      refine List.forall₂_same.mpr fun p hp => (asRead_eq_self_iff p).mpr ?_
      rintro value rfl
      exact hzero value hp
    obtain ⟨op, tensors', hbuild, hop⟩ :=
      build_of_run hbegins ((run_iff hheld).mpr ⟨ps, hread, rfl⟩)
    refine ⟨.ok op, tensors', hbuild, ?_⟩
    rintro op' heq
    cases heq
    rw [hop, primitive_foldl]

/-- A tensor that holds a parameter. -/
def Param.tensor (p : Param) : Tensor :=
  { tensorType := p.tensorType, dataType := p.dataType, elementCount := 1, buffer := some p.bytes }

/-- Six inputs, three outputs, and two parameters. -/
def lstmTensors (hiddenSize projSize : Int64) : List Tensor :=
  List.replicate 9 ({} : Tensor) ++
    [(Param.projSize projSize).tensor, (Param.hiddenSize hiddenSize).tensor]

theorem lstm_faithful_iff_hidden :
    Faithful [9, 10] [0, 1, 2, 3, 4, 5] [6, 7, 8] (lstmTensors 128 0)
      [.projSize 0, .hiddenSize 128] := by
  refine (lstm_faithful_iff (.cons ⟨(Param.projSize 0).tensor, rfl, rfl, rfl, rfl, rfl⟩
    (.cons ⟨(Param.hiddenSize 128).tensor, rfl, rfl, rfl, rfl, rfl⟩ .nil)) (by decide)).mpr
    (Or.inr fun value hmem => ?_)
  rcases List.mem_pair.mp hmem with heq | heq
  · cases heq
    rfl
  · cases heq

/-- A projection size of 64 becomes 0. -/
theorem projSize_lost : ∃ op tensors',
    lstmBuilder.build [9, 10] [0, 1, 2, 3, 4, 5] [6, 7, 8] (lstmTensors 128 64) =
      .ok (.ok op, tensors') ∧
    op.primitive = .ok (some (.lstm false false 0 128 0 0 0 0 0 0)) ∧
    ¬ Faithful [9, 10] [0, 1, 2, 3, 4, 5] [6, 7, 8] (lstmTensors 128 64)
      [.projSize 64, .hiddenSize 128] := by
  obtain ⟨op, tensors', hbuild, hop⟩ : ∃ op tensors',
      lstmBuilder.build [9, 10] [0, 1, 2, 3, 4, 5] [6, 7, 8] (lstmTensors 128 64) =
        .ok (.ok op, tensors') ∧
      op.primitive = .ok (some (.lstm false false 0 128 0 0 0 0 0 0)) := by
    -- The low half of 64 is a `float` below one.
    have hrun : Writes.run (decode readings) (fun s p => .ok (put s p)) {}
        (OpsBuilder.tensorsAt (lstmTensors 128 64) [9, 10]) = .ok { hiddenSize := 128 } := by
      rfl
    exact build_of_run rfl hrun
  refine ⟨op, tensors', hbuild, hop, ?_⟩
  rintro ⟨r, tensors₁, hbuild', hkept⟩
  obtain ⟨rfl, rfl⟩ := Prod.mk.inj (Except.ok.inj (hbuild.symm.trans hbuild'))
  have hsame := hop.symm.trans (hkept op rfl)
  injection hsame with hsame
  injection hsame with hsame
  injection hsame
  contradiction

end LSTM

end NNRt.Ops
