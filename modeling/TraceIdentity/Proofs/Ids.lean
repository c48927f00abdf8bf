import TraceIdentity.Ids
import TraceIdentity.Proofs.Text.Hex
/-!
# Reading written ids

The digits of an id are read back as that id unless it is all zeros, and no id
that was read is all zeros. No other text is read as an id. Digits never contain
a separator of a header.
-/
namespace TraceIdentity
open Text

theorem Octets.isLowerDigit_of_mem_digits {n : Nat} (o : Octets n) {c : Char}
    (hc : c ∈ o.digits) : Hex.isLowerDigit c = true := by
  have h := o.isLower_digits
  simp only [Hex.isLower, Bool.and_eq_true, List.all_eq_true] at h
  exact h.2 c hc

theorem Octets.not_mem_digits {n : Nat} (o : Octets n) {sep : Char}
    (hsep : Hex.isLowerDigit sep = false) : sep ∉ o.digits := by
  intro hm
  have h := o.isLowerDigit_of_mem_digits hm
  rw [hsep] at h
  exact Bool.noConfusion h

theorem Octets.digits_ne_nil {n : Nat} (o : Octets (n + 1)) : o.digits ≠ [] := by
  intro h
  have hlength := congrArg List.length h
  simp at hlength

theorem Octets.toHex_ne_empty {n : Nat} (o : Octets (n + 1)) : o.toHex ≠ "" := by
  intro h
  apply o.digits_ne_nil
  rw [← toList_toHex, h]
  rfl

namespace Octets

/-- The faults of reading an id. The decoder's own fault is told from the others. -/
structure Faults where
  malformed : Fault
  undecoded : Hex.Error → Fault
  zero : Fault
  apart : ∀ e, undecoded e ≠ malformed ∧ undecoded e ≠ zero

/-- Read `2 * n` lowercase digits that are not all zero. -/
def ofChecked (n : Nat) (faults : Faults) (cs : List Char) : Except Fault (Octets n) :=
  if Hex.isLower (2 * n) cs then
    match ofDigits n cs with
    | .error e => .error (faults.undecoded e)
    | .ok o => if o.isZero then .error faults.zero else .ok o
  else .error faults.malformed

section Checked

variable {n : Nat} {faults : Faults} {cs : List Char}

theorem ofChecked_of_not_digits (h : ¬ Hex.Digits (2 * n) cs) :
    ofChecked n faults cs = .error faults.malformed := by
  rw [ofChecked, if_neg (mt Hex.isLower_iff.mp h)]

theorem ofChecked_digits (o : Octets n) :
    ofChecked n faults o.digits = if o.isZero then .error faults.zero else .ok o := by
  rw [ofChecked, if_pos o.isLower_digits, ofDigits_digits]

/-- An id is read from the digits it is written with, and from no other text. -/
theorem ofChecked_eq_ok_iff {o : Octets n} :
    ofChecked n faults cs = .ok o ↔ o.isZero = false ∧ o.digits = cs := by
  constructor
  · intro h
    by_cases hcs : Hex.Digits (2 * n) cs
    · obtain ⟨u, rfl⟩ := exists_digits n hcs
      rw [ofChecked_digits] at h
      split at h
      · cases h
      · next hzero =>
        obtain rfl := Except.ok.inj h
        exact ⟨Bool.eq_false_iff.mpr hzero, rfl⟩
    · rw [ofChecked_of_not_digits hcs] at h
      cases h
  · rintro ⟨hzero, rfl⟩
    rw [ofChecked_digits, hzero, if_neg Bool.false_ne_true]

theorem ofChecked_of_nonZero (h : Hex.NonZero (2 * n) cs) :
    ∃ o, ofChecked n faults cs = .ok o ∧ o.digits = cs := by
  obtain ⟨o, rfl⟩ := exists_digits n h.1
  exact ⟨o, ofChecked_eq_ok_iff.mpr ⟨o.nonZero_digits_iff.mp h, rfl⟩, rfl⟩

theorem exists_ofChecked_iff : (∃ o, ofChecked n faults cs = .ok o) ↔ Hex.NonZero (2 * n) cs := by
  constructor
  · rintro ⟨o, hread⟩
    obtain ⟨hzero, rfl⟩ := ofChecked_eq_ok_iff.mp hread
    exact o.nonZero_digits_iff.mpr hzero
  · intro h
    obtain ⟨o, hread, -⟩ := ofChecked_of_nonZero h
    exact ⟨o, hread⟩

theorem ofChecked_of_zeros (h : Hex.Digits (2 * n) cs) (hzeros : ∀ c ∈ cs, c = '0') :
    ofChecked n faults cs = .error faults.zero := by
  obtain ⟨o, rfl⟩ := exists_digits n h
  rw [ofChecked_digits, if_pos (o.isZero_iff_forall_digits.mpr hzeros)]

theorem ofChecked_of_not_nonZero (h : ¬ Hex.NonZero (2 * n) cs) :
    ofChecked n faults cs = .error faults.malformed ∨
      ofChecked n faults cs = .error faults.zero := by
  by_cases hcs : Hex.Digits (2 * n) cs
  · obtain ⟨o, rfl⟩ := exists_digits n hcs
    rw [nonZero_digits_iff, Bool.not_eq_false] at h
    exact .inr (by rw [ofChecked_digits, if_pos h])
  · exact .inl (ofChecked_of_not_digits hcs)

/-- The decoder is given only what it decodes. -/
theorem ofChecked_ne_undecoded (e : Hex.Error) :
    ofChecked n faults cs ≠ .error (faults.undecoded e) := by
  intro h
  by_cases hcs : Hex.Digits (2 * n) cs
  · obtain ⟨o, rfl⟩ := exists_digits n hcs
    rw [ofChecked_digits] at h
    split at h
    · exact (faults.apart e).2 (Except.error.inj h).symm
    · cases h
  · rw [ofChecked_of_not_digits hcs] at h
    exact (faults.apart e).1 (Except.error.inj h).symm

end Checked

end Octets

namespace TraceId

def faults : Octets.Faults where
  malformed := .traceIdDigits
  undecoded := .undecoded .traceId
  zero := .traceIdZero
  apart _ := ⟨nofun, nofun⟩

theorem ofDigits_eq_ofChecked (cs : List Char) : ofDigits cs = Octets.ofChecked 16 faults cs := by
  rw [ofDigits, Octets.ofChecked]
  cases Octets.ofDigits 16 cs <;> rfl

theorem ofDigits_digits (t : TraceId) :
    ofDigits t.digits = if t.isZero then .error .traceIdZero else .ok t := by
  rw [ofDigits_eq_ofChecked, Octets.ofChecked_digits]
  rfl

theorem ofDigits_eq_ok_iff {cs : List Char} {t : TraceId} :
    ofDigits cs = .ok t ↔ t.isZero = false ∧ t.digits = cs := by
  rw [ofDigits_eq_ofChecked, Octets.ofChecked_eq_ok_iff]

theorem ofDigits_digits_of_ne_zero {t : TraceId} (ht : t.isZero = false) :
    ofDigits t.digits = .ok t :=
  ofDigits_eq_ok_iff.mpr ⟨ht, rfl⟩

theorem isZero_of_ofDigits {cs : List Char} {t : TraceId} (h : ofDigits cs = .ok t) :
    t.isZero = false :=
  (ofDigits_eq_ok_iff.mp h).1

theorem ofDigits_of_nonZero {cs : List Char} (h : Hex.NonZero 32 cs) :
    ∃ t, ofDigits cs = .ok t ∧ t.digits = cs := by
  rw [ofDigits_eq_ofChecked]
  exact Octets.ofChecked_of_nonZero h

theorem ofDigits_of_not_nonZero {cs : List Char} (h : ¬ Hex.NonZero 32 cs) :
    ∃ f, ofDigits cs = .error f ∧ f.kind = .traceId := by
  rw [ofDigits_eq_ofChecked]
  rcases Octets.ofChecked_of_not_nonZero (n := 16) h with hread | hread
  · exact ⟨_, hread, rfl⟩
  · exact ⟨_, hread, rfl⟩

end TraceId

namespace SpanId

def faults : Octets.Faults where
  malformed := .spanIdDigits
  undecoded := .undecoded .spanId
  zero := .spanIdZero
  apart _ := ⟨nofun, nofun⟩

theorem ofDigits_eq_ofChecked (cs : List Char) : ofDigits cs = Octets.ofChecked 8 faults cs := by
  rw [ofDigits, Octets.ofChecked]
  cases Octets.ofDigits 8 cs <;> rfl

theorem ofDigits_eq_ok_iff {cs : List Char} {s : SpanId} :
    ofDigits cs = .ok s ↔ s.isZero = false ∧ s.digits = cs := by
  rw [ofDigits_eq_ofChecked, Octets.ofChecked_eq_ok_iff]

theorem ofDigits_digits_of_ne_zero {s : SpanId} (hs : s.isZero = false) :
    ofDigits s.digits = .ok s :=
  ofDigits_eq_ok_iff.mpr ⟨hs, rfl⟩

theorem isZero_of_ofDigits {cs : List Char} {s : SpanId} (h : ofDigits cs = .ok s) :
    s.isZero = false :=
  (ofDigits_eq_ok_iff.mp h).1

theorem ofDigits_of_nonZero {cs : List Char} (h : Hex.NonZero 16 cs) :
    ∃ s, ofDigits cs = .ok s ∧ s.digits = cs := by
  rw [ofDigits_eq_ofChecked]
  exact Octets.ofChecked_of_nonZero h

theorem ofDigits_of_not_nonZero {cs : List Char} (h : ¬ Hex.NonZero 16 cs) :
    ∃ f, ofDigits cs = .error f ∧ f.kind = .spanId := by
  rw [ofDigits_eq_ofChecked]
  rcases Octets.ofChecked_of_not_nonZero (n := 8) h with hread | hread
  · exact ⟨_, hread, rfl⟩
  · exact ⟨_, hread, rfl⟩

end SpanId

namespace TraceFlags

/-- Flags are written as an octet string of length one. -/
theorem digits_eq (f : TraceFlags) : f.digits = (⟨[f.bits], rfl⟩ : Octets 1).digits := rfl

theorem not_mem_digits (f : TraceFlags) {sep : Char} (hsep : Hex.isLowerDigit sep = false) :
    sep ∉ f.digits := by
  rw [digits_eq]
  exact Octets.not_mem_digits _ hsep

theorem ofDigits_digits (f : TraceFlags) : ofDigits f.digits = .ok f := by
  have hl : Hex.isLower 2 f.digits = true := Octets.isLower_digits ⟨[f.bits], rfl⟩
  rw [digits_eq] at hl ⊢
  simp [ofDigits, hl]

theorem ofDigits_of_digits {cs : List Char} (h : Hex.Digits 2 cs) :
    ∃ f, ofDigits cs = .ok f ∧ f.digits = cs := by
  obtain ⟨bs, hlength, rfl⟩ := Hex.exists_encode 1 h
  obtain ⟨b, rfl⟩ := List.length_eq_one_iff.mp hlength
  exact ⟨⟨b⟩, ofDigits_digits ⟨b⟩, rfl⟩

theorem ofDigits_of_not_digits {cs : List Char} (h : ¬ Hex.Digits 2 cs) :
    ofDigits cs = .error .flagsDigits := by
  rw [ofDigits, if_neg (mt Hex.isLower_iff.mp h)]

end TraceFlags

end TraceIdentity
