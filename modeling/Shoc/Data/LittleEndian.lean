/-
# Little-endian numbers

A number is written with a given number of bytes, the lowest first, and read back. What
a little-endian host copies byte by byte from and to its 32-bit words is the case of
four bytes.
-/

import Mathlib.Algebra.Group.Nat.Defs
import Mathlib.Data.Nat.Init

namespace Shoc.Data.LittleEndian

variable {width n : ℕ} {bytes rest : List UInt8}

/-- The lowest bytes of a number. -/
def digits : ℕ → ℕ → List UInt8
  | 0, _ => []
  | width + 1, n => UInt8.ofNat n :: digits width (n / 256)

/-- The number with the given bytes. -/
def number : List UInt8 → ℕ
  | [] => 0
  | byte :: rest => byte.toNat + 256 * number rest

@[simp] theorem length_digits : (digits width n).length = width := by
  induction width generalizing n with
  | zero => rfl
  | succ width ih => rw [digits, List.length_cons, ih]

theorem number_digits : number (digits width n) = n % 256 ^ width := by
  induction width generalizing n with
  | zero => rw [digits, number, Nat.pow_zero, Nat.mod_one]
  | succ width ih =>
    have split : n % 256 ^ (width + 1) = n % 256 + 256 * (n / 256 % 256 ^ width) := by
      rw [Nat.pow_succ', Nat.mod_mul]
    rw [digits, number, ih, UInt8.toNat_ofNat', split]

theorem number_lt : number bytes < 256 ^ bytes.length := by
  induction bytes with
  | nil => exact Nat.one_pos
  | cons byte rest ih =>
    have small := byte.toNat_lt
    rw [number, List.length_cons, Nat.pow_succ]
    omega

theorem digits_number : digits bytes.length (number bytes) = bytes := by
  induction bytes with
  | nil => rfl
  | cons byte rest ih =>
    have small := byte.toNat_lt
    have above : (byte.toNat + 256 * number rest) / 256 = number rest := by omega
    have lowest : UInt8.ofNat (byte.toNat + 256 * number rest) = byte := by
      refine UInt8.toNat_inj.mp ?_
      rw [UInt8.toNat_ofNat']
      omega
    rw [number, List.length_cons, digits, above, ih, lowest]

/-- The four bytes of a word. -/
def bytes32 (value : UInt32) : List UInt8 := digits 4 value.toNat

/-- The word with the given bytes. -/
def word32 (bytes : List UInt8) : UInt32 := UInt32.ofNat (number bytes)

@[simp] theorem length_bytes32 {value : UInt32} : (bytes32 value).length = 4 := length_digits

@[simp] theorem word32_bytes32 {value : UInt32} : word32 (bytes32 value) = value := by
  have bound := value.toNat_lt
  refine UInt32.toNat_inj.mp ?_
  rw [word32, bytes32, number_digits, UInt32.toNat_ofNat', Nat.mod_mod_of_dvd _ (by decide)]
  exact Nat.mod_eq_of_lt bound

theorem bytes32_word32 (four : bytes.length = 4) : bytes32 (word32 bytes) = bytes := by
  have bound : number bytes < 256 ^ 4 := four ▸ number_lt
  rw [bytes32, word32, UInt32.toNat_ofNat', Nat.mod_eq_of_lt (by omega), ← four]
  exact digits_number

end Shoc.Data.LittleEndian
