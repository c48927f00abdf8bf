import TraceIdentity.Proofs.Text.Hex
/-!
# Digits in UTF-8

A text is so many lowercase digits exactly if its UTF-8 form is as many bytes, each of
them the code of such a digit. No byte of a character beyond ASCII is one.
-/
namespace TraceIdentity.Text

section Utf8

variable {c : Char}

theorem utf8EncodeChar_of_ascii (hc : c.toNat < 128) :
    String.utf8EncodeChar c = [UInt8.ofNat c.toNat] := by
  have hval : c.val.toNat ≤ 127 := Nat.le_of_lt_succ hc
  simp only [String.utf8EncodeChar, if_pos hval]
  rfl

private theorem le_toNat_ofNat {n : Nat} (hlow : 128 ≤ n) (hhigh : n < 256) :
    128 ≤ (UInt8.ofNat n).toNat := by
  rw [UInt8.toNat_ofNat_of_lt' hhigh]
  exact hlow

/-- Every byte of a character beyond ASCII has its highest bit set. -/
theorem le_of_mem_utf8EncodeChar (hc : 128 ≤ c.toNat) {b : UInt8}
    (hb : b ∈ String.utf8EncodeChar c) : 128 ≤ b.toNat := by
  have hval : ¬ c.val.toNat ≤ 127 := Nat.not_le.mpr hc
  simp only [String.utf8EncodeChar, if_neg hval] at hb
  split at hb
  · simp only [List.mem_cons, List.not_mem_nil, or_false] at hb
    rcases hb with rfl | rfl <;> apply le_toNat_ofNat <;> omega
  · split at hb
    · simp only [List.mem_cons, List.not_mem_nil, or_false] at hb
      rcases hb with rfl | rfl | rfl <;> apply le_toNat_ofNat <;> omega
    · simp only [List.mem_cons, List.not_mem_nil, or_false] at hb
      rcases hb with rfl | rfl | rfl | rfl <;> apply le_toNat_ofNat <;> omega

theorem utf8EncodeChar_ne_nil (c : Char) : String.utf8EncodeChar c ≠ [] := by
  intro h
  have hlength := String.length_utf8EncodeChar c
  rw [h] at hlength
  exact Nat.ne_of_lt c.utf8Size_pos hlength

theorem toList_toUTF8 (s : String) :
    s.toUTF8.data.toList = s.toList.flatMap String.utf8EncodeChar := by
  rw [String.toUTF8_eq_toByteArray, ← String.utf8Encode_toList]
  exact List.toList_data_toByteArray

end Utf8

namespace Hex

/-- The code of a digit from `0` to `9` or of a letter from `a` to `f`. -/
def DigitCode (n : Nat) : Prop :=
  ('0'.toNat ≤ n ∧ n ≤ '9'.toNat) ∨ ('a'.toNat ≤ n ∧ n ≤ 'f'.toNat)

theorem DigitCode.lt {n : Nat} (h : DigitCode n) : n < 128 := by
  have hnine : '9'.toNat = 57 := rfl
  have hf : 'f'.toNat = 102 := rfl
  unfold DigitCode at h
  omega

section Digit

variable {c : Char}

theorem isLowerDigit_iff_code : isLowerDigit c = true ↔ DigitCode c.toNat := by
  simp only [isLowerDigit, Bool.or_eq_true, Bool.and_eq_true, decide_eq_true_eq, Char.le_def,
    UInt32.le_iff_toNat_le]
  rfl

theorem isLowerDigit_iff_bytes :
    isLowerDigit c = true ↔ ∀ b ∈ String.utf8EncodeChar c, DigitCode b.toNat := by
  rw [isLowerDigit_iff_code]
  by_cases hc : c.toNat < 128
  · have hbyte : (UInt8.ofNat c.toNat).toNat = c.toNat :=
      UInt8.toNat_ofNat_of_lt' (Nat.lt_trans hc (by decide))
    rw [utf8EncodeChar_of_ascii hc, List.forall_mem_singleton, hbyte]
  · constructor
    · intro h
      exact absurd h.lt hc
    · intro h
      obtain ⟨b, hb⟩ := List.exists_mem_of_ne_nil _ (utf8EncodeChar_ne_nil c)
      have hhigh := le_of_mem_utf8EncodeChar (Nat.not_lt.mp hc) hb
      exact absurd (h b hb).lt (Nat.not_lt.mpr hhigh)

end Digit

theorem length_flatMap_utf8 {cs : List Char} (h : ∀ c ∈ cs, isLowerDigit c = true) :
    (cs.flatMap String.utf8EncodeChar).length = cs.length := by
  induction cs with
  | nil => rfl
  | cons c cs ih =>
    have hc := (isLowerDigit_iff_code.mp (h c List.mem_cons_self)).lt
    have hcs := ih fun d hd => h d (List.mem_cons_of_mem c hd)
    rw [List.flatMap_cons, List.length_append, hcs, utf8EncodeChar_of_ascii hc,
      List.length_singleton, List.length_cons, Nat.add_comm]

theorem isLower_iff_utf8 {len : Nat} {s : String} : isLower len s.toList = true ↔
    s.utf8ByteSize = len ∧ ∀ b ∈ s.toUTF8.data, DigitCode b.toNat := by
  have hdigits : (∀ b ∈ s.toUTF8.data, DigitCode b.toNat) ↔
      ∀ c ∈ s.toList, isLowerDigit c = true := by
    simp only [← Array.mem_toList_iff, toList_toUTF8, List.mem_flatMap, isLowerDigit_iff_bytes]
    constructor
    · intro h c hc b hb
      exact h b ⟨c, hc, hb⟩
    · rintro h b ⟨c, hc, hb⟩
      exact h c hc b hb
  have hsize : s.utf8ByteSize = (s.toList.flatMap String.utf8EncodeChar).length := by
    rw [← toList_toUTF8]
    rfl
  rw [hdigits, isLower, Bool.and_eq_true, beq_iff_eq, List.all_eq_true]
  refine and_congr_left fun h => ?_
  rw [hsize, length_flatMap_utf8 h]

/-- Eight characters of two bytes each are not sixteen digits. -/
example : "éééééééé".utf8ByteSize = 16 ∧ isLower 16 "éééééééé".toList = false := by
  decide +kernel

end Hex

end TraceIdentity.Text
