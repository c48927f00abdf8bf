import TraceIdentity.Proofs.Ids
import TraceIdentity.Proofs.Text.Utf8
/-!
# Ids and their one text

A text is read as an id exactly if it has the form of one and is not all zeros, and it is then
the text of that id. Every id is written in this form, and no two of them alike, so that ids may
be compared by their texts. The form is one of bytes: no text beyond ASCII has it.
-/
namespace TraceIdentity
open Text

namespace Octets

/-- What ties ids of `n` bytes to their texts: `looksLike` is the check of a text and `ofHex` the
reader. -/
structure Canonical (n : Nat) (looksLike : String → Bool)
    (ofHex : String → Except Fault (Octets n)) (faults : Faults) : Prop where
  looksLike_iff : ∀ s, looksLike s = true ↔
    s.utf8ByteSize = 2 * n ∧ ∀ b ∈ s.toUTF8.data, Hex.DigitCode b.toNat
  accepted_iff : ∀ s, (∃ o, ofHex s = .ok o) ↔ looksLike s = true ∧ ∃ c ∈ s.toList, c ≠ '0'
  malformed : ∀ s, looksLike s = false → ofHex s = .error faults.malformed
  zeros : ∀ s, looksLike s = true → (∀ c ∈ s.toList, c = '0') → ofHex s = .error faults.zero
  decodes : ∀ s, looksLike s = true → ∃ o, ofDigits n s.toList = .ok o
  never_undecoded : ∀ s e, ofHex s ≠ .error (faults.undecoded e)
  toHex_of_read : ∀ s o, ofHex s = .ok o → o.toHex = s
  written : ∀ o : Octets n, o.toHex.toList =
    o.bytes.flatMap fun b => [Hex.digit (b.toNat / 16), Hex.digit (b.toNat % 16)]
  looksLike_toHex : ∀ o : Octets n, looksLike o.toHex = true
  read_toHex_iff : ∀ o : Octets n, ofHex o.toHex = .ok o ↔ ∃ b ∈ o.bytes, b ≠ 0
  toHex_eq_iff : ∀ a b : Octets n, a.toHex = b.toHex ↔ a = b

variable {n : Nat}

theorem toHex_inj {a b : Octets n} : a.toHex = b.toHex ↔ a = b := by
  rw [← String.toList_inj, toList_toHex, toList_toHex]
  exact ⟨digits_inj, congrArg digits⟩

theorem isZero_eq_false_iff {o : Octets n} : o.isZero = false ↔ ∃ b ∈ o.bytes, b ≠ 0 := by
  simp [isZero]

theorem canonical_of_ofChecked {looksLike : String → Bool}
    {ofHex : String → Except Fault (Octets n)} {faults : Faults}
    (hlook : ∀ s, looksLike s = Hex.isLower (2 * n) s.toList)
    (hread : ∀ s, ofHex s = ofChecked n faults s.toList) : Canonical n looksLike ofHex faults where
  looksLike_iff s := by
    rw [hlook, Hex.isLower_iff_utf8]
  accepted_iff s := by
    simp only [hread, hlook, exists_ofChecked_iff, Hex.nonZero_iff, Hex.isLower_iff]
  malformed s hs := by
    rw [hlook, Bool.eq_false_iff, Ne, Hex.isLower_iff] at hs
    rw [hread, ofChecked_of_not_digits hs]
  zeros s hs hzeros := by
    rw [hlook, Hex.isLower_iff] at hs
    rw [hread, ofChecked_of_zeros hs hzeros]
  decodes s hs := by
    rw [hlook, Hex.isLower_iff] at hs
    obtain ⟨o, ho⟩ := exists_digits n hs
    exact ⟨o, ho ▸ ofDigits_digits o⟩
  never_undecoded s e := by
    rw [hread]
    exact ofChecked_ne_undecoded e
  toHex_of_read s o ho := by
    rw [hread, ofChecked_eq_ok_iff] at ho
    rw [← String.toList_inj, toList_toHex]
    exact ho.2
  written o := by
    rw [toList_toHex]
    exact Hex.encode_eq_flatMap o.bytes
  looksLike_toHex o := by
    rw [hlook, toList_toHex]
    exact o.isLower_digits
  read_toHex_iff o := by
    rw [hread, toList_toHex, ofChecked_eq_ok_iff, isZero_eq_false_iff]
    exact and_iff_left rfl
  toHex_eq_iff a b := toHex_inj

end Octets

/-- Trace ids and span ids have one text each, and are read from no other. -/
theorem ids_canonical :
    Octets.Canonical 16 looksLikeTraceId TraceId.ofHex TraceId.faults ∧
      Octets.Canonical 8 looksLikeSpanId SpanId.ofHex SpanId.faults := by
  constructor
  · apply Octets.canonical_of_ofChecked
    · intro s
      rfl
    · intro s
      rw [TraceId.ofHex, TraceId.ofDigits_eq_ofChecked]
  · apply Octets.canonical_of_ofChecked
    · intro s
      rfl
    · intro s
      rw [SpanId.ofHex, SpanId.ofDigits_eq_ofChecked]

end TraceIdentity
