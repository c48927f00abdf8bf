import Mathlib.Data.List.Nodup
import TraceIdentity.IdSource.Counting
import TraceIdentity.Proofs.IdSource.NeverZero
/-!
# Counted ids differ

Numbers that fit into an octet string are told apart by it. So ids that are counted
up from one are neither zero nor equal, until the counter has used up its width.
-/
namespace TraceIdentity

namespace Octets

theorem mod_of_bigEndian {n a b : Nat} (h : bigEndian n a = bigEndian n b) :
    a % 256 ^ n = b % 256 ^ n := by
  induction n generalizing a b with
  | zero => simp [Nat.mod_one]
  | succ n ih =>
    obtain ⟨hinit, hlast⟩ := List.append_inj' h rfl
    have hlow : a % 256 = b % 256 := by
      have hbyte := congrArg UInt8.toNat (List.head_eq_of_cons_eq hlast)
      rwa [UInt8.toNat_ofNat', UInt8.toNat_ofNat'] at hbyte
    rw [Nat.pow_succ, Nat.mul_comm, Nat.mod_mul, Nat.mod_mul, hlow, ih hinit]

theorem ofNat_inj {n a b : Nat} (ha : a < 256 ^ n) (hb : b < 256 ^ n)
    (h : ofNat n a = ofNat n b) : a = b := by
  have hmod := mod_of_bigEndian (congrArg bytes h)
  rwa [Nat.mod_eq_of_lt ha, Nat.mod_eq_of_lt hb] at hmod

theorem isZero_ofNat_of_pos {n a : Nat} (hpos : 0 < a) (hlt : a < 256 ^ n) :
    (ofNat n a).isZero = false := by
  rw [← Bool.not_eq_true, isZero_ofNat, Nat.mod_eq_of_lt hlt]
  omega

theorem nodup_ofNat_range' {n start len : Nat} (h : start + len < 256 ^ n) :
    ((List.range' (start + 1) len).map (ofNat n)).Nodup := by
  refine List.Nodup.map_on ?_ (List.nodup_range' 1)
  intro a ha b hb hab
  rw [List.mem_range'_1] at ha hb
  exact ofNat_inj (by omega) (by omega) hab

theorem isZero_of_mem_range' {n start len : Nat} (h : start + len < 256 ^ n) {o : Octets n}
    (ho : o ∈ (List.range' (start + 1) len).map (ofNat n)) : o.isZero = false := by
  obtain ⟨a, ha, rfl⟩ := List.mem_map.mp ho
  rw [List.mem_range'_1] at ha
  exact isZero_ofNat_of_pos (by omega) (by omega)

end Octets

end TraceIdentity
