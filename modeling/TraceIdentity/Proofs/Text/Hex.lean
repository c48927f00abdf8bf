import TraceIdentity.Octets
/-!
# Text that is hexadecimal

Lowercase digits of even length are the written form of bytes, and of one octet
string only. It is all zeros exactly when its text is.
-/
namespace TraceIdentity
open Text

namespace Text.Hex

/-- Text of so many characters from `0` to `9` and from `a` to `f`. -/
def Digits (len : Nat) (cs : List Char) : Prop :=
  cs.length = len ∧ ∀ c ∈ cs, ('0' ≤ c ∧ c ≤ '9') ∨ ('a' ≤ c ∧ c ≤ 'f')

/-- Digits of which not all are zeros. -/
def NonZero (len : Nat) (cs : List Char) : Prop :=
  Digits len cs ∧ cs ≠ List.replicate len '0'

theorem isLower_iff {len : Nat} {cs : List Char} : isLower len cs = true ↔ Digits len cs := by
  simp [isLower, isLowerDigit, Digits]

theorem nonZero_iff {len : Nat} {cs : List Char} :
    NonZero len cs ↔ Digits len cs ∧ ∃ c ∈ cs, c ≠ '0' := by
  refine and_congr_right fun h => ?_
  rw [Ne, List.eq_replicate_iff]
  simp [h.1]

theorem encode_eq_flatMap (bs : List UInt8) :
    encode bs = bs.flatMap fun b => [digit (b.toNat / 16), digit (b.toNat % 16)] := by
  induction bs with
  | nil => rfl
  | cons b bs ih =>
    rw [encode, ih]
    rfl

private theorem exists_digit {c : Char} (hc : ('0' ≤ c ∧ c ≤ '9') ∨ ('a' ≤ c ∧ c ≤ 'f')) :
    ∃ n < 16, digit n = c := by
  simp only [Char.le_def, UInt32.le_iff_toNat_le] at hc
  rcases hc with ⟨hlow, hhigh⟩ | ⟨hlow, hhigh⟩
  · have hlow' : 48 ≤ c.toNat := hlow
    have hhigh' : c.toNat ≤ 57 := hhigh
    refine ⟨c.toNat - 48, by omega, ?_⟩
    rw [digit, if_pos (by omega), Nat.add_sub_cancel' hlow', Char.ofNat_toNat]
  · have hlow' : 97 ≤ c.toNat := hlow
    have hhigh' : c.toNat ≤ 102 := hhigh
    refine ⟨c.toNat - 87, by omega, ?_⟩
    rw [digit, if_neg (by omega), Nat.add_sub_cancel' (by omega), Char.ofNat_toNat]

private theorem exists_byte {hi lo : Char} (hhi : ('0' ≤ hi ∧ hi ≤ '9') ∨ ('a' ≤ hi ∧ hi ≤ 'f'))
    (hlo : ('0' ≤ lo ∧ lo ≤ '9') ∨ ('a' ≤ lo ∧ lo ≤ 'f')) : ∃ b, encode [b] = [hi, lo] := by
  obtain ⟨h, hh, rfl⟩ := exists_digit hhi
  obtain ⟨l, hl, rfl⟩ := exists_digit hlo
  refine ⟨UInt8.ofNat (16 * h + l), ?_⟩
  have hlt : 16 * h + l < 256 := by omega
  have hbyte : (UInt8.ofNat (16 * h + l)).toNat = 16 * h + l := UInt8.toNat_ofNat_of_lt' hlt
  have hhigh : (16 * h + l) / 16 = h := by omega
  have hlow : (16 * h + l) % 16 = l := by omega
  rw [encode, hbyte, hhigh, hlow, encode]

theorem exists_encode (n : Nat) {cs : List Char} (hcs : Digits (2 * n) cs) :
    ∃ bs, bs.length = n ∧ encode bs = cs := by
  induction n generalizing cs with
  | zero => exact ⟨[], rfl, (List.length_eq_zero_iff.mp hcs.1).symm⟩
  | succ n ih =>
    obtain ⟨hlength, hdigits⟩ := hcs
    match cs, hlength, hdigits with
    | hi :: lo :: rest, hlength, hdigits =>
      have hrest : Digits (2 * n) rest := by
        refine ⟨?_, fun c hc => hdigits c (by simp [hc])⟩
        simp only [List.length_cons] at hlength
        omega
      obtain ⟨bs, hbs, hencode⟩ := ih hrest
      obtain ⟨b, hb⟩ := exists_byte (hdigits hi (by simp)) (hdigits lo (by simp))
      refine ⟨b :: bs, by rw [List.length_cons, hbs], ?_⟩
      have hcons : encode (b :: bs) = encode [b] ++ encode bs := rfl
      rw [hcons, hb, hencode]
      rfl

end Text.Hex

namespace Octets

/-- Lowercase digits of the right length are the text of an octet string. -/
theorem exists_digits (n : Nat) {cs : List Char} (hcs : Hex.Digits (2 * n) cs) :
    ∃ o : Octets n, o.digits = cs := by
  obtain ⟨bs, hlength, hencode⟩ := Hex.exists_encode n hcs
  exact ⟨⟨bs, hlength⟩, hencode⟩

variable {n : Nat}

theorem digits_hex (o : Octets n) : Hex.Digits (2 * n) o.digits :=
  Hex.isLower_iff.mp o.isLower_digits

private theorem isZero_iff_eq_zero (o : Octets n) : o.isZero = true ↔ o = zero n := by
  constructor
  · intro hz
    apply ext
    simp only [isZero, List.all_eq_true, beq_iff_eq] at hz
    exact List.eq_replicate_iff.mpr ⟨o.length_eq, hz⟩
  · rintro rfl
    simp [isZero, zero]

private theorem digits_zero (n : Nat) : (zero n).digits = List.replicate (2 * n) '0' := by
  show Hex.encode (List.replicate n 0) = _
  induction n with
  | zero => rfl
  | succ n ih =>
    rw [List.replicate_succ, Hex.encode, ih]
    rfl

theorem isZero_iff_digits (o : Octets n) :
    o.isZero = true ↔ o.digits = List.replicate (2 * n) '0' := by
  rw [isZero_iff_eq_zero, ← digits_zero]
  exact ⟨congrArg digits, digits_inj⟩

theorem isZero_iff_forall_digits (o : Octets n) : o.isZero = true ↔ ∀ c ∈ o.digits, c = '0' := by
  rw [isZero_iff_digits, List.eq_replicate_iff]
  exact and_iff_right o.length_digits

theorem nonZero_digits_iff (o : Octets n) :
    Hex.NonZero (2 * n) o.digits ↔ o.isZero = false := by
  rw [Hex.NonZero, Ne, ← isZero_iff_digits, Bool.not_eq_true]
  exact and_iff_right o.digits_hex

end Octets

end TraceIdentity
