/-!
# Splitting at a separator

`splitOn` cuts text at every occurrence of one character and `cut` at the first
one only. Both lose nothing but the separators.
-/
namespace TraceIdentity.Text

/-- The pieces between the occurrences of `sep`; there is always at least one. -/
def splitOn (sep : Char) : List Char → List (List Char)
  | [] => [[]]
  | c :: cs => if c = sep then [] :: splitOn sep cs else (splitOn sep cs).modifyHead (c :: ·)

/-- What stands before and after the first `sep`, if there is one. -/
def cut (sep : Char) : List Char → Option (List Char × List Char)
  | [] => none
  | c :: cs => if c = sep then some ([], cs) else (cut sep cs).map fun p => (c :: p.1, p.2)

theorem splitOn_ne_nil (sep : Char) (cs : List Char) : splitOn sep cs ≠ [] := by
  induction cs with
  | nil => simp [splitOn]
  | cons c cs ih =>
    simp only [splitOn]
    split
    · simp
    · cases h : splitOn sep cs <;> simp_all

theorem length_splitOn (sep : Char) (cs : List Char) :
    (splitOn sep cs).length = cs.count sep + 1 := by
  induction cs with
  | nil => rfl
  | cons c cs ih =>
    by_cases hc : c = sep
    · simp [splitOn, hc, ih]
    · simp [splitOn, hc, ih, List.count_cons_of_ne hc]

theorem splitOn_of_not_mem (sep : Char) (cs : List Char) (h : sep ∉ cs) :
    splitOn sep cs = [cs] := by
  induction cs with
  | nil => rfl
  | cons c cs ih =>
    have hc : c ≠ sep := fun e => h (by simp [e])
    simp [splitOn, hc, ih fun e => h (List.mem_cons_of_mem _ e)]

/-- A separator cuts, whatever stands before and after it. -/
theorem splitOn_append (sep : Char) (cs ds : List Char) :
    splitOn sep (cs ++ sep :: ds) = splitOn sep cs ++ splitOn sep ds := by
  induction cs with
  | nil => simp [splitOn]
  | cons c cs ih =>
    simp only [List.cons_append, splitOn, ih]
    split
    · rfl
    · cases hs : splitOn sep cs with
      | nil => exact absurd hs (splitOn_ne_nil sep cs)
      | cons p ps => rfl

theorem splitOn_append_cons (sep : Char) (cs ds : List Char) (h : sep ∉ cs) :
    splitOn sep (cs ++ sep :: ds) = cs :: splitOn sep ds := by
  rw [splitOn_append, splitOn_of_not_mem sep cs h, List.singleton_append]

theorem not_mem_of_mem_splitOn (sep : Char) (cs p : List Char) (h : p ∈ splitOn sep cs) :
    sep ∉ p := by
  induction cs generalizing p with
  | nil => simp_all [splitOn]
  | cons c cs ih =>
    simp only [splitOn] at h
    split at h
    · rcases List.mem_cons.mp h with rfl | h
      · simp
      · exact ih p h
    · next hc =>
      cases hs : splitOn sep cs with
      | nil => exact absurd hs (splitOn_ne_nil sep cs)
      | cons q qs =>
        simp only [hs, List.modifyHead_cons, List.mem_cons] at h
        rcases h with rfl | h
        · have := ih q (by simp [hs])
          simp [this, Ne.symm hc]
        · exact ih p (by simp [hs, h])

theorem intercalate_splitOn (sep : Char) (cs : List Char) :
    [sep].intercalate (splitOn sep cs) = cs := by
  induction cs with
  | nil => rfl
  | cons c cs ih =>
    cases hs : splitOn sep cs with
    | nil => exact absurd hs (splitOn_ne_nil sep cs)
    | cons q qs =>
      rw [hs] at ih
      simp only [splitOn]
      split
      · next hc => simp [hs, List.intercalate_cons_cons, ih, hc]
      · cases qs with
        | nil => simpa [hs] using ih
        | cons r rs => simpa [hs, List.intercalate_cons_cons] using ih

theorem splitOn_intercalate (sep : Char) (ps : List (List Char)) (hne : ps ≠ [])
    (h : ∀ p ∈ ps, sep ∉ p) : splitOn sep ([sep].intercalate ps) = ps := by
  induction ps with
  | nil => exact absurd rfl hne
  | cons p ps ih =>
    cases ps with
    | nil => simpa using splitOn_of_not_mem sep p (h p (by simp))
    | cons q qs =>
      rw [List.intercalate_cons_cons, List.append_assoc, List.singleton_append,
        splitOn_append_cons _ _ _ (h p (by simp)),
        ih (by simp) fun r hr => h r (List.mem_cons_of_mem _ hr)]

theorem cut_eq_some_iff (sep : Char) (cs a b : List Char) :
    cut sep cs = some (a, b) ↔ cs = a ++ sep :: b ∧ sep ∉ a := by
  induction cs generalizing a with
  | nil => simp [cut]
  | cons c cs ih =>
    simp only [cut]
    split
    · next hc =>
      subst hc
      cases a <;> simp_all
    · next hc =>
      cases a with
      | nil => simp [hc]
      | cons d a =>
        simp only [Option.map_eq_some_iff, Prod.exists, Prod.mk.injEq, List.cons.injEq,
          List.cons_append, List.mem_cons, not_or]
        constructor
        · rintro ⟨x, y, hxy, ⟨rfl, rfl⟩, rfl⟩
          have := (ih x).mp hxy
          exact ⟨⟨rfl, this.1⟩, Ne.symm hc, this.2⟩
        · rintro ⟨⟨rfl, h⟩, -, hn⟩
          exact ⟨a, b, (ih a).mpr ⟨h, hn⟩, ⟨rfl, rfl⟩, rfl⟩

theorem cut_eq_none_iff (sep : Char) (cs : List Char) : cut sep cs = none ↔ sep ∉ cs := by
  induction cs with
  | nil => simp [cut]
  | cons c cs ih =>
    simp only [cut]
    split
    · next hc => simp [hc]
    · next hc => simp [ih, Ne.symm hc]

end TraceIdentity.Text
