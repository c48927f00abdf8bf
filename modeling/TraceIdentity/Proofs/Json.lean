import TraceIdentity.Json
import TraceIdentity.Table.Lookup
/-!
# What an object states

A field that is null states as little as one that is absent, and a field given twice states
nothing that can be read. What an object states does not depend on the order of its fields,
and readers of single values depend on nothing else.
-/
namespace TraceIdentity.Json

def unlessNull : Option Json → Option Json
  | some null => none
  | given => given

/-- What a field states, if it is not given twice; null states nothing. -/
def stated? (fields : List (String × Json)) (name : String) : Option (Option Json) :=
  (field? fields name).map unlessNull

/-- An object with these values under their names, and none for those that have none. -/
def States (fields : List (String × Json)) (values : List (String × Option Json)) : Prop :=
  ∀ v ∈ values, stated? fields v.1 = some v.2

theorem states_cons {fields : List (String × Json)} {name : String} {given : Option Json}
    {values : List (String × Option Json)} : States fields ((name, given) :: values) ↔
      stated? fields name = some given ∧ States fields values :=
  List.forall_mem_cons

theorem states_nil (fields : List (String × Json)) : States fields [] :=
  nofun

/-- A reader that accepts what is written for a value and nothing else, and never null. -/
structure Inverts {α : Type} (read : Json → Option α) (write : α → Json) : Prop where
  read_iff : ∀ j a, read j = some a ↔ j = write a
  ne_null : ∀ a, write a ≠ null

theorem Inverts.map_ne_null {α : Type} {read : Json → Option α} {write : α → Json}
    (h : Inverts read write) (o : Option α) : some null ≠ o.map write := by
  cases o with
  | none => nofun
  | some a => exact fun hnull => h.ne_null a (Option.some.inj hnull).symm

section Values

theorem string?_inverts : Inverts string? string := by
  refine ⟨?_, fun _ => nofun⟩
  intro j s
  cases j <;> simp [string?]

theorem bool?_inverts : Inverts bool? bool := by
  refine ⟨?_, fun _ => nofun⟩
  intro j b
  cases j <;> simp [bool?]

theorem word?_word (w : UInt16) : word? (word w) = some w := by
  have hlt : w.toNat < 65536 := w.toNat_lt
  show (if w.toNat < 65536 then some (UInt16.ofNat w.toNat) else none) = some w
  rw [if_pos hlt, UInt16.ofNat_toNat]

theorem word?_inverts : Inverts word? word := by
  refine ⟨?_, fun _ => nofun⟩
  intro j w
  constructor
  · intro h
    unfold word? at h
    split at h
    · next n =>
      split at h
      · next hlt =>
        obtain rfl := Option.some.inj h
        rw [word, UInt16.toNat_ofNat_of_lt' hlt]
        rfl
      · cases h
    · cases h
  · rintro rfl
    exact word?_word w

end Values

section Fields

variable {fields fields' : List (String × Json)} {name other : String} {j : Json}

theorem field?_perm (h : fields.Perm fields') (name : String) :
    field? fields name = field? fields' name := by
  have hfilter := h.filter (fun f => f.1 == name)
  rw [field?, field?]
  generalize fields.filter (fun f => f.1 == name) = given at hfilter ⊢
  generalize fields'.filter (fun f => f.1 == name) = given' at hfilter ⊢
  match given, given', hfilter with
  | [], given', hfilter => rw [hfilter.nil_eq]
  | [f], given', hfilter => rw [List.singleton_perm.mp hfilter]
  | _ :: _ :: _, [], hfilter => cases hfilter.eq_nil
  | _ :: _ :: _, [g], hfilter => cases List.perm_singleton.mp hfilter
  | _ :: _ :: _, _ :: _ :: _, _ => rfl

theorem field?_cons_of_ne (h : other ≠ name) :
    field? ((other, j) :: fields) name = field? fields name := by
  rw [field?, List.filter_cons_of_neg (by simpa using h), field?]

theorem states_cons_field_iff {values : List (String × Option Json)}
    (h : ∀ v ∈ values, v.1 ≠ other) :
    States ((other, j) :: fields) values ↔ States fields values := by
  apply forall₂_congr
  intro v hv
  rw [stated?, field?_cons_of_ne (h v hv).symm, stated?]

theorem field?_of_absent (h : ∀ f ∈ fields, f.1 ≠ name) : field? fields name = some none := by
  have hnil : fields.filter (·.1 == name) = [] := List.filter_eq_nil_iff.mpr (by simpa using h)
  rw [field?, hnil]

theorem field?_cons_self (h : ∀ f ∈ fields, f.1 ≠ name) :
    field? ((name, j) :: fields) name = some (some j) := by
  have hnil : fields.filter (·.1 == name) = [] := List.filter_eq_nil_iff.mpr (by simpa using h)
  rw [field?, List.filter_cons_of_pos (by simp), hnil]

end Fields

section Present

variable {values : List (String × Option Json)} {name : String}

theorem mem_present {f : String × Json} : f ∈ present values ↔ (f.1, some f.2) ∈ values := by
  obtain ⟨name, j⟩ := f
  simp only [present, List.mem_filterMap, Option.map_eq_some_iff, Prod.mk.injEq]
  constructor
  · rintro ⟨⟨name', _⟩, hmem, j', rfl, rfl, rfl⟩
    exact hmem
  · intro hmem
    exact ⟨_, hmem, j, rfl, rfl, rfl⟩

theorem names_present_sublist (values : List (String × Option Json)) :
    ((present values).map Prod.fst).Sublist (values.map Prod.fst) := by
  induction values with
  | nil => exact .slnil
  | cons v rest ih =>
    obtain ⟨name, given⟩ := v
    cases given with
    | none => exact ih.cons name
    | some j => exact ih.cons_cons name

theorem field?_present (hnames : (values.map Prod.fst).Nodup) {given : Option Json}
    (hmem : (name, given) ∈ values) : field? (present values) name = some given := by
  induction values with
  | nil => cases hmem
  | cons v rest ih =>
    obtain ⟨name', given'⟩ := v
    obtain ⟨hfresh, hrest⟩ := List.nodup_cons.mp hnames
    have habsent : ∀ f ∈ present rest, f.1 ≠ name' := by
      rintro f hf rfl
      exact hfresh (List.mem_map.mpr ⟨_, mem_present.mp hf, rfl⟩)
    rcases List.mem_cons.mp hmem with hhead | htail
    · obtain ⟨rfl, rfl⟩ := Prod.mk.inj hhead
      cases given with
      | none => exact field?_of_absent habsent
      | some j => exact field?_cons_self habsent
    · have hne : name' ≠ name := fun h => hfresh (List.mem_map.mpr ⟨_, htail, h.symm⟩)
      cases given' with
      | none => exact ih hrest htail
      | some j => exact (field?_cons_of_ne hne).trans (ih hrest htail)

theorem unlessNull_of_ne {j : Json} (h : j ≠ null) : unlessNull (some j) = some j := by
  cases j with
  | null => exact absurd rfl h
  | _ => rfl

theorem states_present (hnames : (values.map Prod.fst).Nodup)
    (hnull : ∀ name, (name, some null) ∉ values) : States (present values) values := by
  rintro ⟨name, given⟩ hmem
  rw [stated?, field?_present hnames hmem, Option.map_some]
  cases given with
  | none => rfl
  | some j =>
    have hne : j ≠ null := by
      rintro rfl
      exact hnull name hmem
    rw [unlessNull_of_ne hne]

end Present

section Readers

variable {α : Type} {read : Json → Option α} {write : α → Json}
  {fields : List (String × Json)} {name : String}

theorem required_iff (h : Inverts read write) {a : α} :
    required read fields name = some a ↔ stated? fields name = some (some (write a)) := by
  unfold required stated?
  cases field? fields name with
  | none => simp
  | some given =>
    cases given with
    | none => simp [unlessNull]
    | some j =>
      by_cases hnull : j = null
      · have hwrite : null ≠ write a := (h.ne_null a).symm
        simp [hnull, unlessNull, h.read_iff, hwrite]
      · simp [unlessNull_of_ne hnull, h.read_iff]

theorem optional_of_ne_null {j : Json} (hfield : field? fields name = some (some j))
    (hnull : j ≠ null) : optional read fields name = (read j).map some := by
  unfold optional
  rw [hfield]
  cases j with
  | null => exact absurd rfl hnull
  | _ => rfl

theorem optional_iff (h : Inverts read write) {o : Option α} :
    optional read fields name = some o ↔ stated? fields name = some (o.map write) := by
  rw [stated?]
  cases hfield : field? fields name with
  | none => simp [optional, hfield]
  | some given =>
    cases given with
    | none => cases o <;> simp [optional, hfield, unlessNull]
    | some j =>
      by_cases hnull : j = null
      · cases o <;> simp [optional, hfield, hnull, unlessNull]
      · rw [optional_of_ne_null hfield hnull, Option.map_some, unlessNull_of_ne hnull]
        cases o with
        | none => simp
        | some a => simp [h.read_iff]

theorem required_cons_congr {j j' : Json} (h : read j = read j') :
    required read ((name, j) :: fields) name = required read ((name, j') :: fields) name := by
  unfold required field?
  rw [List.filter_cons_of_pos (by simp), List.filter_cons_of_pos (by simp)]
  cases fields.filter (·.1 == name) with
  | nil => exact h
  | cons f rest => rfl

theorem withDefault_cons_congr {default : α} {j j' : Json} (h : read j = read j') :
    withDefault read default ((name, j) :: fields) name =
      withDefault read default ((name, j') :: fields) name := by
  unfold withDefault field?
  rw [List.filter_cons_of_pos (by simp), List.filter_cons_of_pos (by simp)]
  cases fields.filter (·.1 == name) with
  | nil => exact h
  | cons f rest => rfl

end Readers

/-- Ways to give other fields of which those under `names` state the same. -/
inductive Restates (names optionalNames : List String) :
    List (String × Json) → List (String × Json) → Prop where
  | reordered {fields fields' : List (String × Json)} : fields.Perm fields' →
    Restates names optionalNames fields fields'
  | unknown {fields : List (String × Json)} (name : String) (j : Json) : name ∉ names →
    Restates names optionalNames fields ((name, j) :: fields)
  | absent {fields : List (String × Json)} (name : String) : name ∈ optionalNames →
    (∀ f ∈ fields, f.1 ≠ name) → Restates names optionalNames fields ((name, null) :: fields)

section Restates

variable {names optionalNames : List String} {fields fields' : List (String × Json)}

theorem Restates.field?_eq (h : Restates names optionalNames fields fields') {name : String}
    (hname : name ∈ names) (hrequired : name ∉ optionalNames) :
    field? fields name = field? fields' name := by
  cases h with
  | reordered hperm => exact field?_perm hperm name
  | unknown other j hother =>
    refine (field?_cons_of_ne ?_).symm
    rintro rfl
    exact hother hname
  | absent other hother _ =>
    refine (field?_cons_of_ne ?_).symm
    rintro rfl
    exact hrequired hother

theorem Restates.stated?_eq (h : Restates names optionalNames fields fields') {name : String}
    (hname : name ∈ names) : stated? fields name = stated? fields' name := by
  rw [stated?, stated?]
  cases h with
  | reordered hperm => rw [field?_perm hperm]
  | unknown other j hother =>
    have hne : other ≠ name := by
      rintro rfl
      exact hother hname
    rw [field?_cons_of_ne hne]
  | absent other hother habsent =>
    by_cases hsame : other = name
    · subst hsame
      rw [field?_of_absent habsent, field?_cons_self habsent]
      rfl
    · rw [field?_cons_of_ne hsame]

theorem Restates.states_iff (h : Restates names optionalNames fields fields')
    {values : List (String × Option Json)} (hvalues : ∀ v ∈ values, v.1 ∈ names) :
    States fields values ↔ States fields' values := by
  apply forall₂_congr
  intro v hv
  rw [h.stated?_eq (hvalues v hv)]

end Restates

section Tables

theorem mapM_strings_iff {fields : List (String × Json)} {entries : List (String × String)} :
    fields.mapM (fun f => f.2.string?.map (f.1, ·)) = some entries ↔
      fields = entries.map fun e => (e.1, string e.2) := by
  induction fields generalizing entries with
  | nil => cases entries <;> simp
  | cons f rest ih =>
    obtain ⟨name, j⟩ := f
    simp only [List.mapM_cons, bind, pure, Option.bind_eq_some_iff, Option.map_eq_some_iff,
      string?_inverts.read_iff, ih, Option.some.injEq]
    constructor
    · rintro ⟨_, ⟨text, rfl, rfl⟩, entries, rfl, rfl⟩
      rfl
    · intro hfields
      cases entries with
      | nil => cases hfields
      | cons e entries =>
        obtain ⟨hhead, hrest⟩ := List.cons.inj hfields
        obtain ⟨rfl, rfl⟩ := Prod.mk.inj hhead
        exact ⟨_, ⟨_, rfl, rfl⟩, entries, hrest, rfl⟩

/-- Readers of tables take an object of strings, of which the last under a key counts. -/
theorem table?_iff {j : Json} {t : Table String} : table? j = some t ↔
    ∃ entries : List (String × String),
      j = object (entries.map fun e => (e.1, string e.2)) ∧ t = .ofList entries := by
  cases j with
  | object fields =>
    simp only [table?, Option.map_eq_some_iff, mapM_strings_iff, object.injEq]
    constructor
    · rintro ⟨entries, rfl, rfl⟩
      exact ⟨entries, rfl, rfl⟩
    · rintro ⟨entries, rfl, rfl⟩
      exact ⟨entries, rfl, rfl⟩
  | _ => simp [table?]

theorem table?_ofTable (t : Table String) : table? (ofTable t) = some t :=
  table?_iff.mpr ⟨t.entries, rfl, t.ofList_entries.symm⟩

/-- A table has no order, unless a key is given twice. -/
theorem table?_perm {fields fields' : List (String × Json)} (hperm : fields.Perm fields')
    (hkeys : (fields.map Prod.fst).Nodup) {t : Table String}
    (h : table? (object fields) = some t) : table? (object fields') = some t := by
  obtain ⟨entries, hentries, rfl⟩ := table?_iff.mp h
  obtain rfl := object.inj hentries
  let text (f : String × Json) : String × String := (f.1, f.2.string?.getD "")
  have hback : (entries.map fun e => (e.1, string e.2)).map text = entries := by
    simp [text, string?, Function.comp_def]
  have hperm' : entries.Perm (fields'.map text) := hback ▸ hperm.map text
  have hfields' : fields' = (fields'.map text).map fun e => (e.1, string e.2) := by
    rw [List.map_map]
    refine (List.map_id fields').symm.trans (List.map_congr_left ?_)
    intro f hf
    obtain ⟨e, -, rfl⟩ := List.mem_map.mp (hperm.mem_iff.mpr hf)
    rfl
  refine table?_iff.mpr ⟨fields'.map text, congrArg object hfields', ?_⟩
  exact Table.ofList_perm hperm' (by simpa [Function.comp_def] using hkeys)

end Tables

end TraceIdentity.Json
