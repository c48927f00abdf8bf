import TraceIdentity.Proofs.Headers.Lookup
/-!
# Taking out a header

A header is taken out in whatever case its name is written. After that it is not
found, and every header whose name differs in more than case is found as before.
-/
namespace TraceIdentity.Headers

theorem sameName_of_sameName {name a b : String} (hn : sameName name b = false)
    (hab : sameName a b = true) : sameName a name = false := by
  rw [← Bool.not_eq_true, sameName_iff] at hn ⊢
  rw [sameName_iff] at hab
  exact fun hfold => hn (hfold.symm.trans hab)

/-- Take out a header, in whatever case its name is written. -/
def erase (h : Headers) (name : String) : Headers :=
  ⟨h.entries.filter fun e => !sameName e.1 name,
    h.nodup.sublist (List.Sublist.map _ List.filter_sublist)⟩

theorem find?_erase_self (h : Headers) (name : String) : (h.erase name).find? name = none := by
  have hother : ∀ e ∈ (h.erase name).entries, sameName e.1 name = false := by
    intro e he
    obtain ⟨-, hkept⟩ : e ∈ h.entries ∧ (!sameName e.1 name) = true := List.mem_filter.mp he
    simpa using hkept
  have hexact : (h.erase name).get? name = none := by
    apply List.lookup_eq_none_iff.mpr
    intro e he
    have hne := ne_of_sameName (hother e he)
    simpa using hne
  have hfold : (h.erase name).entries.find? (fun e => sameName e.1 name) = none := by
    apply List.find?_eq_none.mpr
    intro e he
    simp [hother e he]
  rw [find?, hexact, hfold]
  rfl

private theorem lookup_filter {keep : String × String → Bool} {name : String}
    (es : List (String × String)) (hkeep : ∀ e, e.1 = name → keep e = true) :
    (es.filter keep).lookup name = es.lookup name := by
  induction es with
  | nil => rfl
  | cons e es ih =>
    by_cases he : name = e.1
    · rw [List.filter_cons_of_pos (hkeep e he.symm), Table.lookup_cons, Table.lookup_cons,
        if_pos he, if_pos he]
    · by_cases hk : keep e = true
      · rw [List.filter_cons_of_pos hk, Table.lookup_cons, Table.lookup_cons, if_neg he,
          if_neg he, ih]
      · rw [List.filter_cons_of_neg hk, Table.lookup_cons, if_neg he, ih]

theorem find?_erase_of_sameName {h : Headers} {name other : String}
    (hn : sameName name other = false) : (h.erase name).find? other = h.find? other := by
  have hexact : (h.erase name).get? other = h.get? other := by
    apply lookup_filter
    rintro e rfl
    simp [sameName_of_sameName hn (sameName_self e.1)]
  have hfold : ∀ e : String × String,
      (!sameName e.1 name) = true ∧ sameName e.1 other = true ↔ sameName e.1 other = true := by
    intro e
    constructor
    · exact And.right
    · intro ho
      exact ⟨by simp [sameName_of_sameName hn ho], ho⟩
  rw [find?, find?, hexact, erase, List.find?_filter]
  simp only [hfold, Bool.decide_eq_true]

end TraceIdentity.Headers
