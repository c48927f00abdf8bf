import Mathlib.Data.List.Nodup
import TraceIdentity.Proofs.Headers.Lookup
/-!
# How the names of headers are spelled

Names that differ in case alone are spellings of one name. A look-up takes the exact
spelling before any other, so it is sure of what it finds if the name is there exactly,
or in one spelling at most. Setting a header adds its own spelling and no other one is
taken away.
-/
namespace TraceIdentity.Headers

def names (h : Headers) : List String :=
  h.entries.map (·.1)

/-- The names that agree with `name` up to case. -/
def spellings (h : Headers) (name : String) : List String :=
  h.names.filter (sameName · name)

/-- No two names differ in case alone. -/
def OneSpelling (h : Headers) : Prop :=
  (h.names.map fold).Nodup

instance (h : Headers) : Decidable h.OneSpelling :=
  inferInstanceAs (Decidable (List.Nodup _))

/-- A name that is there in several spellings is there exactly. -/
def Settled (h : Headers) (name : String) : Prop :=
  ∀ a ∈ h.spellings name, ∀ b ∈ h.spellings name, a ≠ b → name ∈ h.names

instance (h : Headers) (name : String) : Decidable (h.Settled name) :=
  inferInstanceAs (Decidable (∀ a ∈ _, ∀ b ∈ _, _))

/-- A look-up may find this value: it stands under the exact name or, if that is not there, under
another spelling. -/
def Offers (h : Headers) (name value : String) : Prop :=
  (name, value) ∈ h.entries ∨
    name ∉ h.names ∧ ∃ e ∈ h.entries, sameName e.1 name = true ∧ e.2 = value

variable {h k : Headers} {name value : String}

section Names

theorem sameName_trans {a b c : String} (hab : sameName a b = true) (hbc : sameName b c = true) :
    sameName a c = true := by
  rw [sameName_iff] at *
  exact hab.trans hbc

theorem sameName_symm {a b : String} (hab : sameName a b = true) : sameName b a = true := by
  rw [sameName_iff] at *
  exact hab.symm

theorem mem_names_of_mem {e : String × String} (he : e ∈ h.entries) : e.1 ∈ h.names :=
  List.mem_map_of_mem he

theorem mem_spellings {a : String} :
    a ∈ h.spellings name ↔ a ∈ h.names ∧ sameName a name = true :=
  List.mem_filter

theorem oneSpelling_iff :
    h.OneSpelling ↔ ∀ a ∈ h.names, ∀ b ∈ h.names, sameName a b = true → a = b := by
  simp only [sameName_iff]
  exact List.nodup_map_iff_inj_on h.nodup

theorem OneSpelling.mono (hone : k.OneSpelling) (hsub : ∀ a ∈ h.names, a ∈ k.names) :
    h.OneSpelling := by
  rw [oneSpelling_iff] at *
  intro a ha b hb
  exact hone a (hsub a ha) b (hsub b hb)

theorem OneSpelling.settled (hone : h.OneSpelling) (name : String) : h.Settled name := by
  intro a ha b hb hne
  obtain ⟨hanames, haname⟩ := mem_spellings.mp ha
  obtain ⟨hbnames, hbname⟩ := mem_spellings.mp hb
  have hsame : sameName a b = true := sameName_trans haname (sameName_symm hbname)
  exact absurd (oneSpelling_iff.mp hone a hanames b hbnames hsame) hne

theorem spellings_eq_singleton_iff :
    h.spellings name = [name] ↔ name ∈ h.names ∧ ∀ a ∈ h.spellings name, a = name := by
  constructor
  · intro honly
    have hmem : name ∈ h.spellings name := by simp [honly]
    exact ⟨(mem_spellings.mp hmem).1, by simp [honly]⟩
  · rintro ⟨hmem, hall⟩
    have hnodup : (h.spellings name).Nodup := h.nodup.filter _
    have hself : name ∈ h.spellings name := mem_spellings.mpr ⟨hmem, sameName_self name⟩
    have hrep := List.eq_replicate_of_mem hall
    rw [hrep, List.nodup_replicate] at hnodup
    have hpos : 0 < (h.spellings name).length := List.length_pos_of_mem hself
    have hlength : (h.spellings name).length = 1 := by omega
    rw [hrep, hlength]
    rfl

end Names

section Lookups

theorem eq_of_mem {d e : String × String} (hd : d ∈ h.entries) (he : e ∈ h.entries)
    (hname : d.1 = e.1) : d = e :=
  List.inj_on_of_nodup_map h.nodup hd he hname

theorem mem_of_get? (hget : h.get? name = some value) : (name, value) ∈ h.entries := by
  obtain ⟨before, after, hsplit, -⟩ := List.lookup_eq_some_iff.mp hget
  simp [hsplit]

theorem get?_eq_some_iff : h.get? name = some value ↔ (name, value) ∈ h.entries := by
  constructor
  · exact mem_of_get?
  · intro hmem
    have hsome : (h.get? name).isSome = true :=
      List.lookup_isSome_iff.mpr ⟨(name, value), hmem, by simp⟩
    obtain ⟨found, hfound⟩ := Option.isSome_iff_exists.mp hsome
    have hsame := eq_of_mem (mem_of_get? hfound) hmem rfl
    rw [hfound, (Prod.mk.inj hsame).2]

theorem get?_eq_none_iff : h.get? name = none ↔ name ∉ h.names := by
  simp only [get?, List.lookup_eq_none_iff, names, List.mem_map, not_exists, not_and, bne_iff_ne]
  constructor
  · intro hnone e he hname
    exact hnone e he hname.symm
  · intro hnone e he hname
    exact hnone e he hname.symm

theorem offers_of_find? (hfind : h.find? name = some value) : h.Offers name value := by
  unfold find? at hfind
  cases hget : h.get? name with
  | some found =>
    rw [hget] at hfind
    obtain rfl := Option.some.inj hfind
    exact .inl (mem_of_get? hget)
  | none =>
    rw [hget] at hfind
    obtain ⟨e, he, rfl⟩ := Option.map_eq_some_iff.mp hfind
    have hsame : sameName e.1 name = true := by simpa using List.find?_some he
    exact .inr ⟨get?_eq_none_iff.mp hget, e, List.mem_of_find?_eq_some he, hsame, rfl⟩

theorem contains_iff : h.contains name = true ↔ ∃ a ∈ h.names, sameName a name = true := by
  constructor
  · intro hcontains
    obtain ⟨found, hfound⟩ := Option.isSome_iff_exists.mp hcontains
    obtain hmem | ⟨-, e, he, hsame, -⟩ := offers_of_find? hfound
    · exact ⟨name, mem_names_of_mem hmem, sameName_self name⟩
    · exact ⟨e.1, mem_names_of_mem he, hsame⟩
  · rintro ⟨a, ha, hsame⟩
    obtain ⟨e, he, rfl⟩ := List.mem_map.mp ha
    unfold contains find?
    cases h.get? name with
    | some found => rfl
    | none =>
      rw [Option.isSome_map, List.find?_isSome]
      exact ⟨e, he, hsame⟩

/-- A look-up of a settled name depends on the entries only, in whatever order they are. -/
theorem Settled.find?_eq_some_iff (hs : h.Settled name) :
    h.find? name = some value ↔ h.Offers name value := by
  constructor
  · exact offers_of_find?
  · rintro (hmem | ⟨hnot, e, he, hsame, rfl⟩)
    · exact find?_of_get? (get?_eq_some_iff.mpr hmem)
    · have hcontains := contains_iff.mpr ⟨e.1, mem_names_of_mem he, hsame⟩
      obtain ⟨found, hfound⟩ := Option.isSome_iff_exists.mp hcontains
      obtain hmem | ⟨-, d, hd, hdsame, rfl⟩ := offers_of_find? hfound
      · exact absurd (mem_names_of_mem hmem) hnot
      · have hname : d.1 = e.1 := by
          by_contra hne
          exact hnot (hs d.1 (mem_spellings.mpr ⟨mem_names_of_mem hd, hdsame⟩) e.1
            (mem_spellings.mpr ⟨mem_names_of_mem he, hsame⟩) hne)
        rw [hfound, eq_of_mem hd he hname]

/-- With one spelling for each name a look-up finds the entry of the name in whatever case. -/
theorem OneSpelling.find?_eq_some_iff (hone : h.OneSpelling) :
    h.find? name = some value ↔
      ∃ e ∈ h.entries, sameName e.1 name = true ∧ e.2 = value := by
  rw [(hone.settled name).find?_eq_some_iff]
  constructor
  · rintro (hmem | ⟨-, hother⟩)
    · exact ⟨(name, value), hmem, sameName_self name, rfl⟩
    · exact hother
  · rintro ⟨e, he, hsame, rfl⟩
    by_cases hmem : name ∈ h.names
    · have hname := oneSpelling_iff.mp hone e.1 (mem_names_of_mem he) name hmem hsame
      exact .inl (hname ▸ he)
    · exact .inr ⟨hmem, e, he, hsame, rfl⟩

end Lookups

section Setting

theorem names_set :
    (h.set name value).names = if name ∈ h.names then h.names else h.names ++ [name] :=
  names_put name value h.entries

theorem mem_names_set {a : String} : a ∈ (h.set name value).names ↔ a ∈ h.names ∨ a = name := by
  rw [names_set]
  split
  · next hmem =>
    constructor
    · exact .inl
    · rintro (ha | rfl)
      · exact ha
      · exact hmem
  · simp

theorem mem_names_of_set? {value : Option String} {a : String}
    (ha : a ∈ (h.set? name value).names) : a ∈ h.names ∨ a = name := by
  cases value with
  | none => exact .inl ha
  | some v => exact mem_names_set.mp ha

theorem mem_names_set? {value : Option String} {a : String} (ha : a ∈ h.names) :
    a ∈ (h.set? name value).names := by
  cases value with
  | none => exact ha
  | some v => exact mem_names_set.mpr (.inl ha)

theorem not_mem_names_set? {value : Option String} {a : String} (hne : a ≠ name)
    (hn : a ∉ h.names) : a ∉ (h.set? name value).names :=
  fun ha => (mem_names_of_set? ha).elim hn hne

theorem not_mem_names_set {value : String} {a : String} (hne : a ≠ name) (hn : a ∉ h.names) :
    a ∉ (h.set name value).names :=
  fun ha => (mem_names_set.mp ha).elim hn hne

theorem spellings_set_of_sameName {other : String} (hn : sameName name other = false) :
    (h.set name value).spellings other = h.spellings other := by
  rw [spellings, spellings, names_set]
  split
  · rfl
  · simp [hn]

end Setting

end TraceIdentity.Headers
