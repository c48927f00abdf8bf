import TraceIdentity.Proofs.Headers.Spelling
/-!
# Headers set over others

Headers are set one after another over those that were there. Each is found under its
exact name with its last value. In any other case it is found too, and once only, exactly
if it is spelled as what was there before: an old spelling stays beside the new one.
-/
namespace TraceIdentity.Headers

/-- Set these headers, one after another. -/
def setAll (h : Headers) (es : List (String × String)) : Headers :=
  es.foldl (fun h e => h.set e.1 e.2) h

/-- The value of the last of these entries whose name agrees with `name` up to case. -/
def last? (name : String) (es : List (String × String)) : Option String :=
  (es.reverse.find? fun e => sameName e.1 name).map (·.2)

/-- No two names differ in case alone, among those that are there and those that are set. -/
def SpelledAlike (h : Headers) (es : List (String × String)) : Prop :=
  ∀ a ∈ h.names ++ es.map (·.1), ∀ b ∈ h.names ++ es.map (·.1), sameName a b = true → a = b

/-- Setting `es` over `h` gives a map whose names have no case. -/
structure IgnoresCase (h : Headers) (es : List (String × String)) : Prop where
  oneSpelling : (h.setAll es).OneSpelling
  found : ∀ name, (h.setAll es).find? name = (last? name es).or (h.find? name)
  contains : ∀ name,
    (h.setAll es).contains name = true ↔ ∃ value, (h.setAll es).find? name = some value

/-- How `es` are found after they were set over `h`, in whatever spelling. -/
structure SetBySpelling (h : Headers) (es : List (String × String)) : Prop where
  exact : ∀ name, (h.setAll es).get? name = (es.reverse.lookup name).or (h.get? name)
  found : ∀ name value, (es.reverse.lookup name).or (h.get? name) = some value →
    (h.setAll es).find? name = some value
  contains : ∀ name,
    (h.setAll es).contains name = true ↔ ∃ a ∈ h.names ++ es.map (·.1), sameName a name = true
  ignoresCase_iff : h.IgnoresCase es ↔ h.SpelledAlike es

/-- The headers `k` are `h` with those of `w` set over them. A header of `w` is there once exactly
if `h` had no other spelling of it, and all other names are as they were. -/
structure Overlay (h w k : Headers) : Prop where
  fresh : ∀ name value, w.get? name = some value → k.get? name = some value
  once_iff : ∀ name ∈ w.names,
    k.spellings name = [name] ↔ ∀ a ∈ h.spellings name, a = name
  kept : ∀ name, w.spellings name = [] → (k.spellings name).Perm (h.spellings name)
  oneSpelling_iff : k.OneSpelling ↔
    h.OneSpelling ∧ ∀ name ∈ w.names, ∀ a ∈ h.spellings name, a = name

section SetAll

variable {h : Headers} {es : List (String × String)} {name : String}

@[simp] theorem setAll_nil (h : Headers) : h.setAll [] = h := rfl

@[simp] theorem setAll_cons (h : Headers) (e : String × String) (es : List (String × String)) :
    h.setAll (e :: es) = (h.set e.1 e.2).setAll es := rfl

theorem setAll_append (h : Headers) (es ds : List (String × String)) :
    h.setAll (es ++ ds) = (h.setAll es).setAll ds :=
  List.foldl_append

theorem mem_names_setAll {a : String} :
    a ∈ (h.setAll es).names ↔ a ∈ h.names ++ es.map (·.1) := by
  induction es generalizing h with
  | nil => simp
  | cons e es ih =>
    rw [setAll_cons, ih]
    simp [mem_names_set, or_assoc]

theorem get?_setAll (h : Headers) (es : List (String × String)) (name : String) :
    (h.setAll es).get? name = (es.reverse.lookup name).or (h.get? name) := by
  induction es generalizing h with
  | nil => simp
  | cons e es ih =>
    rw [setAll_cons, ih, get?_set, List.reverse_cons, List.lookup_append, Table.lookup_cons]
    by_cases hname : name = e.1
    · cases es.reverse.lookup name <;> simp [hname]
    · cases es.reverse.lookup name <;> simp [hname]

theorem contains_setAll :
    (h.setAll es).contains name = true ↔
      ∃ a ∈ h.names ++ es.map (·.1), sameName a name = true := by
  rw [contains_iff]
  simp only [mem_names_setAll]

theorem oneSpelling_setAll_iff : (h.setAll es).OneSpelling ↔ h.SpelledAlike es := by
  rw [oneSpelling_iff]
  simp only [mem_names_setAll, SpelledAlike]

theorem last?_cons (name : String) (e : String × String) (es : List (String × String)) :
    last? name (e :: es) =
      (last? name es).or (if sameName e.1 name = true then some e.2 else none) := by
  rw [last?, last?, List.reverse_cons, List.find?_append]
  cases es.reverse.find? fun e => sameName e.1 name with
  | some found => rfl
  | none => cases hsame : sameName e.1 name <;> simp [hsame]

theorem find?_set_of_oneSpelling {value other : String}
    (hone : (h.set name value).OneSpelling) :
    (h.set name value).find? other =
      if sameName name other = true then some value else h.find? other := by
  cases hsame : sameName name other with
  | true =>
    have hmem : (name, value) ∈ (h.set name value).entries :=
      mem_of_get? ((get?_set h name name value).trans (if_pos rfl))
    exact hone.find?_eq_some_iff.mpr ⟨(name, value), hmem, hsame, rfl⟩
  | false => exact find?_set_of_sameName hsame

/-- With one spelling for each name the last value counts, under whatever spelling it was set. -/
theorem find?_setAll (hone : (h.setAll es).OneSpelling) (name : String) :
    (h.setAll es).find? name = (last? name es).or (h.find? name) := by
  induction es generalizing h with
  | nil => simp [last?]
  | cons e es ih =>
    have hfirst : (h.set e.1 e.2).OneSpelling := by
      apply OneSpelling.mono hone
      intro a ha
      rw [setAll_cons, mem_names_setAll]
      exact List.mem_append_left _ ha
    rw [setAll_cons, ih hone, find?_set_of_oneSpelling hfirst, last?_cons]
    cases last? name es with
    | some found => rfl
    | none => split <;> rfl

theorem ignoresCase_iff : h.IgnoresCase es ↔ h.SpelledAlike es := by
  rw [← oneSpelling_setAll_iff]
  constructor
  · exact IgnoresCase.oneSpelling
  · intro hone
    constructor
    · exact hone
    · exact find?_setAll hone
    · intro name
      exact Option.isSome_iff_exists

theorem setBySpelling (h : Headers) (es : List (String × String)) : h.SetBySpelling es where
  exact := get?_setAll h es
  found name _ hlast := find?_of_get? ((get?_setAll h es name).trans hlast)
  contains _ := contains_setAll
  ignoresCase_iff := ignoresCase_iff

theorem spellings_setAll (hother : ∀ e ∈ es, sameName e.1 name = false) :
    (h.setAll es).spellings name = h.spellings name := by
  induction es generalizing h with
  | nil => rfl
  | cons e es ih =>
    have hrest := fun d hd => hother d (List.mem_cons_of_mem e hd)
    rw [setAll_cons, ih hrest, spellings_set_of_sameName (hother e List.mem_cons_self)]

end SetAll

section Overlay

variable {h w : Headers} {name : String}

private theorem put_of_not_mem {es : List (String × String)} {name : String}
    (hn : name ∉ es.map (·.1)) (value : String) : put name value es = es ++ [(name, value)] := by
  induction es with
  | nil => rfl
  | cons e es ih =>
    simp only [List.map_cons, List.mem_cons, not_or] at hn
    rw [put, if_neg (Ne.symm hn.1), ih hn.2, List.cons_append]

theorem setAll_set (hn : name ∉ w.names) (h : Headers) (value : String) :
    h.setAll (w.set name value).entries = (h.setAll w.entries).set name value := by
  have hentries : (w.set name value).entries = w.entries ++ [(name, value)] :=
    put_of_not_mem hn value
  rw [hentries, setAll_append]
  rfl

theorem setAll_set? (hn : name ∉ w.names) (h : Headers) (value : Option String) :
    h.setAll (w.set? name value).entries = (h.setAll w.entries).set? name value := by
  cases value with
  | none => rfl
  | some v => exact setAll_set hn h v

theorem lookup_reverse_of_get? {value : String} (hget : w.get? name = some value) :
    w.entries.reverse.lookup name = some value := by
  let back : Headers := ⟨w.entries.reverse, by simpa using w.nodup⟩
  have hmem : (name, value) ∈ back.entries := List.mem_reverse.mpr (mem_of_get? hget)
  exact get?_eq_some_iff.mpr hmem

theorem eq_of_mem_spellings_setAll (hw : w.OneSpelling) (hname : name ∈ w.names) {a : String}
    (ha : a ∈ (h.setAll w.entries).spellings name) : a ∈ h.spellings name ∨ a = name := by
  obtain ⟨hmem, hsame⟩ := mem_spellings.mp ha
  obtain hold | hnew := List.mem_append.mp (mem_names_setAll.mp hmem)
  · exact .inl (mem_spellings.mpr ⟨hold, hsame⟩)
  · exact .inr (oneSpelling_iff.mp hw a hnew name hname hsame)

theorem spellings_subset_setAll {es : List (String × String)} {a : String}
    (ha : a ∈ h.spellings name) : a ∈ (h.setAll es).spellings name := by
  obtain ⟨hmem, hsame⟩ := mem_spellings.mp ha
  exact mem_spellings.mpr ⟨mem_names_setAll.mpr (List.mem_append_left _ hmem), hsame⟩

theorem spellings_setAll_eq_singleton_iff (hw : w.OneSpelling) (hname : name ∈ w.names) :
    (h.setAll w.entries).spellings name = [name] ↔ ∀ a ∈ h.spellings name, a = name := by
  rw [spellings_eq_singleton_iff]
  constructor
  · rintro ⟨-, hall⟩ a ha
    exact hall a (spellings_subset_setAll ha)
  · intro hall
    refine ⟨mem_names_setAll.mpr (List.mem_append_right _ hname), ?_⟩
    intro a ha
    exact (eq_of_mem_spellings_setAll hw hname ha).elim (hall a) id

theorem oneSpelling_setAll_entries_iff (hw : w.OneSpelling) :
    (h.setAll w.entries).OneSpelling ↔
      h.OneSpelling ∧ ∀ name ∈ w.names, ∀ a ∈ h.spellings name, a = name := by
  rw [oneSpelling_setAll_iff]
  constructor
  · intro halike
    constructor
    · apply oneSpelling_iff.mpr
      intro a ha b hb
      exact halike a (List.mem_append_left _ ha) b (List.mem_append_left _ hb)
    · intro name hname a ha
      obtain ⟨hmem, hsame⟩ := mem_spellings.mp ha
      exact halike a (List.mem_append_left _ hmem) name (List.mem_append_right _ hname) hsame
  · rintro ⟨hone, hold⟩ a ha b hb hsame
    obtain ha | ha := List.mem_append.mp ha <;> obtain hb | hb := List.mem_append.mp hb
    · exact oneSpelling_iff.mp hone a ha b hb hsame
    · exact hold b hb a (mem_spellings.mpr ⟨ha, hsame⟩)
    · exact (hold a ha b (mem_spellings.mpr ⟨hb, sameName_symm hsame⟩)).symm
    · exact oneSpelling_iff.mp hw a ha b hb hsame

theorem overlay_setAll (hw : w.OneSpelling) (h : Headers) :
    Overlay h w (h.setAll w.entries) where
  fresh name value hget := by
    rw [get?_setAll, lookup_reverse_of_get? hget, Option.some_or]
  once_iff name hname := spellings_setAll_eq_singleton_iff hw hname
  kept name hnone := by
    rw [spellings_setAll]
    intro e he
    rw [← Bool.not_eq_true]
    intro hsame
    have hmem := mem_spellings.mpr ⟨mem_names_of_mem he, hsame⟩
    simp [hnone] at hmem
  oneSpelling_iff := oneSpelling_setAll_entries_iff hw

end Overlay

end TraceIdentity.Headers
