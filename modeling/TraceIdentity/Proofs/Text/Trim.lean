import Mathlib.Data.List.DropRight
import TraceIdentity.Text.Blank
/-!
# Trimming around a character that is no blank

Trimming text in which some character is no blank trims what stands before that
character at its start and what stands after it at its end. Nothing is left of a
text exactly if it has blanks only.
-/
namespace TraceIdentity.Text

/-- Text of blanks only. -/
def Blank (cs : List Char) : Prop :=
  ∀ c ∈ cs, isBlank c = true

theorem mem_of_mem_trim {cs : List Char} {c : Char} (h : c ∈ trim cs) : c ∈ cs := by
  have hstart : ∀ {ds : List Char}, c ∈ trimStart ds → c ∈ ds := fun hm =>
    (List.dropWhile_sublist _).subset hm
  rw [trim, trimEnd, List.mem_reverse] at h
  exact hstart (List.mem_reverse.mp (hstart h))

theorem trimStart_eq_nil_iff {cs : List Char} : trimStart cs = [] ↔ Blank cs :=
  List.dropWhile_eq_nil_iff

theorem trimEnd_eq_nil_iff {cs : List Char} : trimEnd cs = [] ↔ Blank cs :=
  List.rdropWhile_eq_nil_iff

theorem trimEnd_trimEnd (cs : List Char) : trimEnd (trimEnd cs) = trimEnd cs :=
  List.rdropWhile_idempotent isBlank cs

section Around

variable {c : Char} (hc : isBlank c = false)
include hc

theorem trimStart_append_cons (as bs : List Char) :
    trimStart (as ++ c :: bs) = trimStart as ++ c :: bs := by
  rw [trimStart, List.dropWhile_append]
  split
  · next hempty =>
    have hnil : trimStart as = [] := List.isEmpty_iff.mp hempty
    rw [hnil, List.dropWhile_cons_of_neg (by simp [hc]), List.nil_append]
  · rfl

theorem trimEnd_append_cons (as bs : List Char) :
    trimEnd (as ++ c :: bs) = as ++ c :: trimEnd bs := by
  have hreverse : (as ++ c :: bs).reverse = bs.reverse ++ c :: as.reverse := by simp
  rw [trimEnd, hreverse, trimStart_append_cons hc, trimEnd]
  simp

theorem trim_append_cons (as bs : List Char) :
    trim (as ++ c :: bs) = trimStart as ++ c :: trimEnd bs := by
  rw [trim, trimStart_append_cons hc, trimEnd_append_cons hc]

end Around

theorem blank_or_exists (cs : List Char) :
    Blank cs ∨ ∃ as c bs, cs = as ++ c :: bs ∧ isBlank c = false := by
  by_cases hblank : Blank cs
  · exact .inl hblank
  · obtain ⟨c, hmem, hc⟩ : ∃ c ∈ cs, ¬ isBlank c = true := by simpa [Blank] using hblank
    obtain ⟨as, bs, rfl⟩ := List.append_of_mem hmem
    exact .inr ⟨as, c, bs, rfl, by simpa using hc⟩

theorem trim_of_blank {cs : List Char} (h : Blank cs) : trim cs = [] := by
  rw [trim, trimStart_eq_nil_iff.mpr h]
  rfl

theorem trim_eq_nil_iff {cs : List Char} : trim cs = [] ↔ Blank cs := by
  refine ⟨fun h => ?_, trim_of_blank⟩
  obtain hblank | ⟨as, c, bs, rfl, hc⟩ := blank_or_exists cs
  · exact hblank
  · rw [trim_append_cons hc] at h
    exact absurd h (by simp)

theorem trim_trimStart (cs : List Char) : trim (trimStart cs) = trim cs := by
  rw [trim, trimStart, trimStart, List.dropWhile_idempotent]
  rfl

theorem trim_trimEnd (cs : List Char) : trim (trimEnd cs) = trim cs := by
  obtain hblank | ⟨as, c, bs, rfl, hc⟩ := blank_or_exists cs
  · rw [trimEnd_eq_nil_iff.mpr hblank, trim_of_blank hblank]
    rfl
  · rw [trimEnd_append_cons hc, trim_append_cons hc, trim_append_cons hc, trimEnd_trimEnd]

end TraceIdentity.Text
