import NNRt.Core.Types
import Mathlib.Data.List.Basic

/-!
# The two 16-bit checksums of the compiled-cache store

- `cacheInfoGetCrc16` (`CacheInfoGetCrc16`) sums the whole buffer; it protects
  the record in `cache_info`.
- `getCrc16` (`NNCompiledCache::GetCrc16`) does the same below 2 MiB and only
  samples the buffer from there on; it protects the cache files.

Both add little-endian 16-bit words in unsigned 32-bit arithmetic, then the
byte that is left, then fold the carries back into 16 bits and complement.
-/

namespace NNRt

/-- `*(reinterpret_cast<unsigned short*>(buffer))` on a little-endian machine. -/
def readU16 (lo hi : UInt8) : UInt32 :=
  lo.toUInt32 + hi.toUInt32 * 256

/-- The word loop over the whole buffer, with the odd byte that may be left. -/
def sumWords (sum : UInt32) : Bytes → UInt32
  | lo :: hi :: rest => sumWords (sum + readU16 lo hi) rest
  | [b] => sum + b.toUInt32
  | [] => sum

/-- The sampling loop: the word at `buffer`, then `2 * step` bytes on, while
more than `2 * step + 1` bytes are left; then the last byte of the buffer. -/
def sumSampled (step : Nat) (hstep : 0 < step) (sum : UInt32) (buffer : Bytes) : UInt32 :=
  if h : buffer.length > 2 * step + 1 then
    sumSampled step hstep (sum + readU16 buffer[0] buffer[1]) (buffer.drop (2 * step))
  else
    match buffer.getLast? with
    | some b => sum + b.toUInt32
    | none => sum
termination_by buffer.length
decreasing_by simp only [List.length_drop]; omega

/-- One round of the fold adds the high half to the low half; it is smaller
whenever the high half is not zero. -/
theorem foldCarries_decreases {sum : UInt32} (h : sum / 65536 ≠ 0) :
    (sum / 65536 + sum % 65536).toNat < sum.toNat := by
  have hlt := sum.toNat_lt
  have hhigh : sum.toNat / 65536 ≠ 0 := by
    intro h0
    apply h
    apply UInt32.toNat_inj.mp
    simpa using h0
  rw [UInt32.toNat_add, UInt32.toNat_div, UInt32.toNat_mod]
  simp only [UInt32.reduceToNat]
  rw [Nat.mod_eq_of_lt (by omega)]
  omega

/-- `while (sum >> HEX_UNIT) sum = (sum >> HEX_UNIT) + (sum & 0xffff)`. -/
def foldCarries (sum : UInt32) : UInt32 :=
  if h : sum / 65536 ≠ 0 then foldCarries (sum / 65536 + sum % 65536) else sum
termination_by sum.toNat
decreasing_by exact foldCarries_decreases h

/-- `static_cast<unsigned short>(~sum)`. -/
def complement16 (sum : UInt32) : UInt16 :=
  (~~~sum).toUInt16

/-- `CacheInfoGetCrc16`. -/
def cacheInfoGetCrc16 (buffer : Bytes) : UInt16 :=
  complement16 (foldCarries (sumWords 0 buffer))

/-- `MAX_CACHE_SIZE`. -/
def maxCacheSize : Nat := 2 * 1024 * 1024

/-- `NNCompiledCache::GetCrc16` on a buffer that is not null. -/
def getCrc16 (buffer : Bytes) : UInt16 :=
  if h : buffer.length < maxCacheSize then
    complement16 (foldCarries (sumWords 0 buffer))
  else
    have hstep : 0 < buffer.length / maxCacheSize :=
      Nat.div_pos (Nat.le_of_not_lt h) (by decide)
    complement16 (foldCarries (sumSampled (buffer.length / maxCacheSize) hstep 0 buffer))

/-- A sum without carries. -/
theorem getCrc16_of_noCarry {buffer : Bytes} (hlen : buffer.length < maxCacheSize)
    (hsum : sumWords 0 buffer / 65536 = 0) : getCrc16 buffer = complement16 (sumWords 0 buffer) := by
  rw [getCrc16, dif_pos hlen, foldCarries, dif_neg (not_not_intro hsum)]

end NNRt
