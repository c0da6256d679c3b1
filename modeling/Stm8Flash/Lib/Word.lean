import Mathlib.Data.Nat.Bitwise

/-! # Unsigned 32-bit arithmetic and the bytes of a word

C's `unsigned int` is a `Nat` below `2 ^ 32`; the operations that can leave that
range are written with an explicit wrap (`u32`, `sub32`), and a value returned as
`int` goes through `toInt32`. The macros `LO`, `HI`, `EX`, `EH` take the four bytes
of a word; `be16` and `be32` put bytes together again, most significant first.
-/

namespace Word

/-- Reduce to an `unsigned int`. -/
def u32 (n : Nat) : Nat := n % 4294967296

/-- `a - b` on `unsigned int`. -/
def sub32 (a b : Nat) : Nat := (a + (4294967296 - b % 4294967296)) % 4294967296

/-- `~n` on an `unsigned int`. -/
def not32 (n : Nat) : Nat := 4294967295 - n % 4294967296

/-- An `unsigned int` converted to `int`. -/
def toInt32 (n : Nat) : Int :=
  if n % 4294967296 < 2147483648 then ↑(n % 4294967296) else ↑(n % 4294967296) - 4294967296

theorem u32_of_lt {n : Nat} (h : n < 4294967296) : u32 n = n := Nat.mod_eq_of_lt h

theorem sub32_of_le {a b : Nat} (hb : b ≤ a) (ha : a < 4294967296) : sub32 a b = a - b := by
  unfold sub32
  omega

theorem toInt32_of_lt {n : Nat} (h : n < 2147483648) : toInt32 n = n := by
  unfold toInt32
  rw [Nat.mod_eq_of_lt (by omega), if_pos h]

theorem toInt32_lt (n : Nat) : toInt32 n < 2147483648 := by
  unfold toInt32
  split <;> omega

/-- An `int` converted to `unsigned int`. -/
def ofInt32 (n : Int) : Nat := (n % (4294967296 : Int)).toNat

theorem ofInt32_natCast {n : Nat} (h : n < 4294967296) : ofInt32 (n : Int) = n := by
  unfold ofInt32
  omega

/-! ## Bytes of a word -/

/-- `((x) & 0xff)` -/
def LO (x : Nat) : Nat := x &&& 0xff

/-- `(((x) & 0xff00) >> 8)` -/
def HI (x : Nat) : Nat := (x &&& 0xff00) >>> 8

/-- `(((x) & 0xff0000) >> 16)` -/
def EX (x : Nat) : Nat := (x &&& 0xff0000) >>> 16

/-- `((unsigned)((x) & 0xff000000) >> 24)` -/
def EH (x : Nat) : Nat := (x &&& 0xff000000) >>> 24

theorem and_ff (x : Nat) : x &&& 0xff = x % 256 := Nat.and_two_pow_sub_one_eq_mod x 8

theorem LO_eq (x : Nat) : LO x = x % 256 := and_ff x

theorem HI_eq (x : Nat) : HI x = x / 256 % 256 := by
  rw [HI, Nat.shiftRight_and_distrib, Nat.shiftRight_eq_div_pow]
  exact and_ff (x / 2 ^ 8)

theorem EX_eq (x : Nat) : EX x = x / 65536 % 256 := by
  rw [EX, Nat.shiftRight_and_distrib, Nat.shiftRight_eq_div_pow]
  exact and_ff (x / 2 ^ 16)

theorem EH_eq (x : Nat) : EH x = x / 16777216 % 256 := by
  rw [EH, Nat.shiftRight_and_distrib, Nat.shiftRight_eq_div_pow]
  exact and_ff (x / 2 ^ 24)

theorem ofNat_toNat_of_lt {n : Nat} (h : n < 256) : (UInt8.ofNat n).toNat = n := by
  rw [UInt8.toNat_ofNat']
  exact Nat.mod_eq_of_lt h

theorem LO_lt (x : Nat) : LO x < 256 := by
  rw [LO_eq]
  omega

theorem HI_lt (x : Nat) : HI x < 256 := by
  rw [HI_eq]
  omega

theorem EX_lt (x : Nat) : EX x < 256 := by
  rw [EX_eq]
  omega

theorem EH_lt (x : Nat) : EH x < 256 := by
  rw [EH_eq]
  omega

/-- Two bytes as a number, most significant first. -/
def be16 (a b : Nat) : Nat := 256 * a + b

/-- Four bytes as a number, most significant first. -/
def be32 (a b c d : Nat) : Nat := 16777216 * a + 65536 * b + 256 * c + d

theorem be16_bytes {x : Nat} (h : x < 65536) : be16 (HI x) (LO x) = x := by
  rw [be16, HI_eq, LO_eq]
  omega

theorem be32_bytes {x : Nat} (h : x < 4294967296) : be32 (EH x) (EX x) (HI x) (LO x) = x := by
  rw [be32, EH_eq, EX_eq, HI_eq, LO_eq]
  omega

/-- Without the top byte a word of 24 bits is still complete. -/
theorem be32_bytes24 {x : Nat} (h : x < 16777216) : be32 0 (EX x) (HI x) (LO x) = x := by
  rw [be32, EX_eq, HI_eq, LO_eq]
  omega

/-- The lower two bytes alone are the word modulo 64 KiB. -/
theorem be32_bytes16 (x : Nat) : be32 0 0 (HI x) (LO x) = x % 65536 := by
  rw [be32, HI_eq, LO_eq]
  omega

end Word
