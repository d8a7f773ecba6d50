import Mathlib.Algebra.Order.Ring.Nat
import Mathlib.Data.List.Basic

/-!
# Little-endian numbers

A number below `256 ^ w` as `w` bytes, least significant first, and back. The
round trip holds for every width.
-/

namespace LittleEndian

/-- The `w` low bytes of a number. -/
def encode : Nat → Nat → List UInt8
  | 0, _ => []
  | w + 1, x => UInt8.ofNat x :: encode w (x / 256)

/-- The number of a byte sequence. -/
def decode : List UInt8 → Nat
  | [] => 0
  | b :: bs => b.toNat + 256 * decode bs

@[simp] theorem length_encode (w x : Nat) : (encode w x).length = w := by
  induction w generalizing x with
  | zero => rfl
  | succ w ih => simp [encode, ih]

/-- **Round trip** within the width. -/
theorem decode_encode {w x : Nat} (h : x < 256 ^ w) : decode (encode w x) = x := by
  induction w generalizing x with
  | zero =>
    have hx : x = 0 := by simpa using h
    rw [hx]
    rfl
  | succ w ih =>
    have hx : x / 256 < 256 ^ w := by
      rw [Nat.pow_succ] at h
      omega
    rw [encode, decode, ih hx, UInt8.toNat_ofNat']
    omega

/-- Beyond the width, the low bytes are left. -/
theorem decode_encode_mod (w x : Nat) : decode (encode w x) = x % 256 ^ w := by
  induction w generalizing x with
  | zero => exact (Nat.mod_one x).symm
  | succ w ih =>
    have hstep : x % (256 * 256 ^ w) = x % 256 + 256 * (x / 256 % 256 ^ w) := Nat.mod_mul
    have hpow : 256 ^ (w + 1) = 256 * 256 ^ w := Nat.pow_succ'
    rw [encode, decode, ih, UInt8.toNat_ofNat', hpow]
    exact hstep.symm

/-- The first bytes are the low ones. -/
theorem take_encode (v w x : Nat) : (encode (v + w) x).take v = encode v x := by
  induction v generalizing x with
  | zero => rfl
  | succ v ih => rw [Nat.succ_add, encode, List.take_succ_cons, ih, encode]

end LittleEndian
