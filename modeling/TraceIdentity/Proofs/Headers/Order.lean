import TraceIdentity.Proofs.Headers.Spelling
/-!
# Headers in any order

A map promises no order of its entries, and setting a header may change it. A look-up may
find what it finds in some order: of the spellings of a name that is not there exactly each
one may come first. For a settled name all orders agree.
-/
namespace TraceIdentity.Headers

/-- In some order of the entries this is found. -/
def MayFind (h : Headers) (name : String) (found : Option String) : Prop :=
  ∃ k : Headers, k.entries.Perm h.entries ∧ k.find? name = found

/-- In `k` one finds under `name` the value that was set or, if none was, what one finds in `h`. -/
structure Updated (h k : Headers) (name : String) (value : Option String) : Prop where
  exact : k.get? name = (value <|> h.get? name)
  mayFind_iff : ∀ found, k.MayFind name found ↔
    if value = none then h.MayFind name found else found = value
  settled : h.Settled name → k.find? name = (value <|> h.find? name)

variable {h k : Headers} {name value : String}

section Order

variable (hperm : h.entries.Perm k.entries)
include hperm

theorem mem_names_of_perm {a : String} : a ∈ h.names ↔ a ∈ k.names :=
  (hperm.map (·.1)).mem_iff

theorem get?_of_perm (name : String) : h.get? name = k.get? name := by
  apply Option.ext
  intro value
  rw [get?_eq_some_iff, get?_eq_some_iff]
  exact hperm.mem_iff

theorem offers_of_perm : h.Offers name value ↔ k.Offers name value := by
  unfold Offers
  simp only [hperm.mem_iff, mem_names_of_perm hperm]

theorem settled_of_perm : h.Settled name ↔ k.Settled name := by
  unfold Settled
  simp only [mem_spellings, mem_names_of_perm hperm]

theorem find?_of_perm (hs : h.Settled name) : h.find? name = k.find? name := by
  have hother := (settled_of_perm hperm).mp hs
  apply Option.ext
  intro value
  rw [hs.find?_eq_some_iff, hother.find?_eq_some_iff]
  exact offers_of_perm hperm

theorem contains_of_perm (name : String) : h.contains name = k.contains name := by
  rw [Bool.eq_iff_iff, contains_iff, contains_iff]
  simp only [mem_names_of_perm hperm]

end Order

section MayFind

variable {found : Option String}

theorem mayFind_find? (h : Headers) (name : String) : h.MayFind name (h.find? name) :=
  ⟨h, .refl _, rfl⟩

theorem Settled.mayFind_iff (hs : h.Settled name) :
    h.MayFind name found ↔ found = h.find? name := by
  constructor
  · rintro ⟨k, hperm, rfl⟩
    exact (find?_of_perm hperm.symm hs).symm
  · rintro rfl
    exact h.mayFind_find? name

theorem mayFind_of_get? (hget : h.get? name = some value) :
    h.MayFind name found ↔ found = some value := by
  have hs : h.Settled name := by
    intro _ _ _ _ _
    exact mem_names_of_mem (mem_of_get? hget)
  rw [hs.mayFind_iff, find?_of_get? hget]

theorem mayFind_none_iff : h.MayFind name none ↔ h.find? name = none := by
  constructor
  · rintro ⟨k, hperm, hnone⟩
    have hcontains := contains_of_perm hperm name
    cases hfind : h.find? name with
    | none => rfl
    | some v =>
      rw [contains, contains, hnone, hfind] at hcontains
      cases hcontains
  · intro hnone
    exact hnone ▸ h.mayFind_find? name

/-- An entry that is offered is found when it stands first. -/
theorem mayFind_some_iff : h.MayFind name (some value) ↔ h.Offers name value := by
  constructor
  · rintro ⟨k, hperm, hfind⟩
    exact (offers_of_perm hperm).mp (offers_of_find? hfind)
  · rintro (hmem | ⟨hnot, e, he, hsame, rfl⟩)
    · exact ⟨h, .refl _, find?_of_get? (get?_eq_some_iff.mpr hmem)⟩
    · have hperm : (e :: h.entries.erase e).Perm h.entries := (List.perm_cons_erase he).symm
      have hnodup : ((e :: h.entries.erase e).map (·.1)).Nodup :=
        (hperm.map (·.1)).nodup_iff.mpr h.nodup
      let k : Headers := ⟨e :: h.entries.erase e, hnodup⟩
      have hnone : k.get? name = none := by
        rw [get?_eq_none_iff, mem_names_of_perm hperm]
        exact hnot
      refine ⟨k, hperm, ?_⟩
      rw [find?, hnone]
      simp [k, hsame]

end MayFind

section Setting

variable {other : String}

theorem mem_entries_set {e : String × String} :
    e ∈ (h.set name value).entries ↔ if e.1 = name then e.2 = value else e ∈ h.entries := by
  have hget := get?_set h name e.1 value
  rw [← get?_eq_some_iff (h := h.set name value), hget, ← get?_eq_some_iff (h := h)]
  split
  · exact ⟨fun heq => (Option.some.inj heq).symm, fun heq => congrArg some heq.symm⟩
  · rfl

theorem offers_set_of_sameName {v : String} (hn : sameName name other = false) :
    (h.set name value).Offers other v ↔ h.Offers other v := by
  have hkept : ∀ e : String × String, sameName e.1 other = true →
      (e ∈ (h.set name value).entries ↔ e ∈ h.entries) := by
    intro e hsame
    have hne : e.1 ≠ name := by
      rintro rfl
      rw [hn] at hsame
      cases hsame
    rw [mem_entries_set, if_neg hne]
  have hnames : other ∈ (h.set name value).names ↔ other ∈ h.names := by
    rw [mem_names_set]
    exact or_iff_left (ne_of_sameName hn)
  unfold Offers
  rw [hkept (other, v) (sameName_self other), hnames]
  refine or_congr_right (and_congr_right fun _ => exists_congr fun e => ?_)
  constructor
  · rintro ⟨he, hsame, rfl⟩
    exact ⟨(hkept e hsame).mp he, hsame, rfl⟩
  · rintro ⟨he, hsame, rfl⟩
    exact ⟨(hkept e hsame).mpr he, hsame, rfl⟩

theorem mayFind_set_of_sameName {found : Option String} (hn : sameName name other = false) :
    (h.set name value).MayFind other found ↔ h.MayFind other found := by
  cases found with
  | none => rw [mayFind_none_iff, mayFind_none_iff, find?_set_of_sameName hn]
  | some v => rw [mayFind_some_iff, mayFind_some_iff, offers_set_of_sameName hn]

theorem Updated.refl (h : Headers) (name : String) : Updated h h name none where
  exact := rfl
  mayFind_iff _ := by rw [if_pos rfl]
  settled _ := rfl

theorem Updated.set?_self (hu : Updated h k name none) (value : Option String) :
    Updated h (k.set? name value) name value := by
  cases value with
  | none => exact hu
  | some v =>
    have hget : (k.set name v).get? name = some v := (get?_set k name name v).trans (if_pos rfl)
    constructor
    · exact hget
    · intro found
      rw [if_neg (Option.some_ne_none v)]
      exact mayFind_of_get? hget
    · intro _
      exact find?_of_get? hget

theorem Updated.set?_other {value : Option String} (hu : Updated h k name value)
    (hn : sameName other name = false) (w : Option String) :
    Updated h (k.set? other w) name value := by
  cases w with
  | none => exact hu
  | some v =>
    constructor
    · exact (get?_set_of_ne (ne_of_sameName hn)).trans hu.exact
    · intro found
      exact (mayFind_set_of_sameName hn).trans (hu.mayFind_iff found)
    · intro hs
      exact (find?_set_of_sameName hn).trans (hu.settled hs)

theorem Updated.find?_of_empty {value : Option String} (hu : Updated empty k name value) :
    k.find? name = value := by
  have hs : empty.Settled name := by
    intro a ha
    exact absurd ha List.not_mem_nil
  rw [hu.settled hs]
  cases value <;> rfl

end Setting

end TraceIdentity.Headers
