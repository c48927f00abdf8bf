import Mathlib.Algebra.Group.Nat.Defs
import TraceIdentity.IdSource.Scrambled
/-!
# Sources that never draw zeros

The octets of a number are all zeros exactly when the number vanishes in their
width. Scrambling a word is undone step by step, so only zero is scrambled to
zero, and stepping over it keeps every scrambled id different from zero.
-/
namespace TraceIdentity

private theorem all_bigEndian (n value : Nat) :
    (Octets.bigEndian n value).all (· == 0) = true ↔ value % 256 ^ n = 0 := by
  induction n generalizing value with
  | zero => simp [Octets.bigEndian, Nat.mod_one]
  | succ n ih =>
    have hlast : UInt8.ofNat value = 0 ↔ value % 256 = 0 := by
      rw [← UInt8.toNat_inj, UInt8.toNat_ofNat']
      rfl
    have hsplit : value % 256 ^ (n + 1) = value % 256 + 256 * (value / 256 % 256 ^ n) := by
      rw [Nat.pow_succ, Nat.mul_comm, Nat.mod_mul]
    simp only [Octets.bigEndian, List.all_append, Bool.and_eq_true, ih, List.all_cons,
      List.all_nil, Bool.and_true, beq_iff_eq, hlast]
    omega

theorem Octets.isZero_ofNat (n value : Nat) :
    (ofNat n value).isZero = true ↔ value % 256 ^ n = 0 :=
  all_bigEndian n value

namespace IdSource.Scrambled

private theorem xorShift_eq_zero {a k : UInt64} (hk : 0 < k.toNat % 64)
    (h : a ^^^ (a >>> k) = 0) : a = 0 := by
  have hs : a = a >>> k := UInt64.xor_eq_zero_iff.mp h
  have hn : a.toNat = a.toNat / 2 ^ (k.toNat % 64) := by
    have ht := congrArg UInt64.toNat hs
    rwa [UInt64.toNat_shiftRight, Nat.shiftRight_eq_div_pow] at ht
  apply UInt64.toNat_inj.mp
  rcases Nat.eq_zero_or_pos a.toNat with hz | hpos
  · exact hz
  · have hlt := Nat.div_lt_self hpos (Nat.one_lt_two_pow (Nat.pos_iff_ne_zero.mp hk))
    omega

private theorem mul_eq_zero {a factor : UInt64} (inverse : UInt64) (hi : factor * inverse = 1)
    (h : a * factor = 0) : a = 0 := by
  calc a = a * (factor * inverse) := by rw [hi, UInt64.mul_one]
    _ = a * factor * inverse := (UInt64.mul_assoc _ _ _).symm
    _ = 0 := by rw [h, UInt64.zero_mul]

/-- Only zero is mixed to zero. -/
theorem eq_zero_of_mix {w : UInt64} (h : mix w = 0) : w = 0 := by
  have hb := xorShift_eq_zero (by decide) h
  have ha := xorShift_eq_zero (by decide) (mul_eq_zero 0x319642B2D24D8EC3 (by decide) hb)
  exact xorShift_eq_zero (by decide) (mul_eq_zero 0x96DE1B173F119089 (by decide) ha)

theorem word_ne_zero (seed : UInt64) : (word seed).1 ≠ 0 := by
  by_cases h : mix (seed + step) = 0
  · have hword : (word seed).1 = mix (seed + step + step) := by rw [word, if_pos h]
    rw [hword, eq_zero_of_mix h]
    exact fun hz => absurd (eq_zero_of_mix hz) (by decide)
  · have hword : (word seed).1 = mix (seed + step) := by rw [word, if_neg h]
    rwa [hword]

end IdSource.Scrambled

open IdSource.Scrambled in
theorem IdSource.neverZero_scrambled : scrambled.NeverZero := by
  intro seed
  have hpos : ∀ w : UInt64, w ≠ 0 → 0 < w.toNat := by
    intro w hw
    rw [Nat.pos_iff_ne_zero]
    exact fun hz => hw (UInt64.toNat_inj.mp hz)
  have hhigh := hpos _ (word_ne_zero seed)
  constructor
  · rw [← Bool.not_eq_true]
    intro hz
    have hm := (Octets.isZero_ofNat 16 _).mp hz
    have hh := (word seed).1.toNat_lt
    have hl := (word (word seed).2).1.toNat_lt
    omega
  · rw [← Bool.not_eq_true]
    intro hz
    have hm := (Octets.isZero_ofNat 8 _).mp hz
    have hh := (word seed).1.toNat_lt
    omega

end TraceIdentity
