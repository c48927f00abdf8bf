import TraceIdentity.Proofs.Text.Trim
import TraceIdentity.TraceState
/-!
# Clean trace states

An entry is clean if it survives being written and read again. Everything that
was read is clean, and a clean state that is written is read back up to the
limit of the reader.
-/
namespace TraceIdentity
open Text

namespace TraceState

/-- Every entry survives being written and read again. -/
def AllClean (s : TraceState) : Prop :=
  ∀ e ∈ s.entries, Clean e

instance (s : TraceState) : Decidable s.AllClean :=
  inferInstanceAs (Decidable (∀ e ∈ s.entries, Clean e))

theorem allClean_empty : AllClean {} := by
  intro e he
  exact absurd he List.not_mem_nil

theorem toList_showMember (e : String × String) :
    (showMember e).toList = e.1.toList ++ '=' :: e.2.toList := by
  simp [showMember]

theorem trimmed_showMember {e : String × String} (hc : Clean e) :
    Trimmed (showMember e).toList := by
  obtain ⟨hne, hkey, -, -, hvalue, -⟩ := hc
  rw [toList_showMember]
  constructor
  · intro c hc
    obtain ⟨d, ds, hd⟩ := List.exists_cons_of_ne_nil hne
    rw [hd, List.cons_append] at hc
    rw [hd] at hkey
    exact hkey.1 c hc
  · rw [List.getLast?_append, List.getLast?_cons]
    cases hv : e.2.toList.getLast? with
    | none => simpa using isBlank_equals
    | some c => simpa using hvalue.2 c hv

theorem member?_showMember {e : String × String} (hc : Clean e) :
    member? (showMember e).toList = some e := by
  have ht := trim_of_trimmed _ (trimmed_showMember hc)
  obtain ⟨hne, hkey, -, heq, hvalue, -⟩ := hc
  have hcut : cut '=' (showMember e).toList = some (e.1.toList, e.2.toList) :=
    (cut_eq_some_iff _ _ _ _).mpr ⟨toList_showMember e, heq⟩
  rw [member?, ht, hcut]
  simp only [trim_of_trimmed _ hkey, trim_of_trimmed _ hvalue, if_neg hne, String.ofList_toList]

theorem comma_not_mem_showMember {e : String × String} (hc : Clean e) :
    ',' ∉ (showMember e).toList := by
  obtain ⟨-, -, hkey, -, -, hvalue⟩ := hc
  simp [toList_showMember, hkey, hvalue]

theorem clean_of_member? {cs : List Char} {e : String × String} (hcomma : ',' ∉ cs)
    (h : member? cs = some e) : Clean e := by
  unfold member? at h
  split at h
  · cases h
  · next key value hcut =>
    obtain ⟨hsplit, heq⟩ := (cut_eq_some_iff _ _ _ _).mp hcut
    have hsub : ∀ c ∈ key ++ '=' :: value, c ∈ cs := by
      intro c hm
      rw [← hsplit] at hm
      exact mem_of_mem_trim hm
    split at h
    · cases h
    · next hne =>
      obtain rfl := Option.some.inj h
      simp only [Clean, String.toList_ofList]
      refine ⟨hne, trimmed_trim key, ?_, ?_, trimmed_trim value, ?_⟩
      · intro hm
        exact hcomma (hsub _ (List.mem_append_left _ (mem_of_mem_trim hm)))
      · intro hm
        exact heq (mem_of_mem_trim hm)
      · intro hm
        exact hcomma (hsub _ (List.mem_append_right _ (List.mem_cons_of_mem _ (mem_of_mem_trim hm))))

theorem allClean_parse (header : String) (limit : Nat) : (parse header limit).AllClean := by
  intro e he
  rw [entries_parse] at he
  obtain ⟨cs, hcs, hm⟩ := List.mem_filterMap.mp (List.mem_of_mem_take he)
  exact clean_of_member? (not_mem_of_mem_splitOn _ _ _ hcs) hm

theorem toList_toHeader (s : TraceState) :
    s.toHeader.toList = [','].intercalate (s.entries.map fun e => (showMember e).toList) := by
  simp [toHeader, String.toList_intercalate, Function.comp_def]

private theorem filterMap_member? {es : List (String × String)} (hc : ∀ e ∈ es, Clean e) :
    (es.map fun e => (showMember e).toList).filterMap member? = es := by
  induction es with
  | nil => rfl
  | cons e es ih =>
    rw [List.map_cons, List.filterMap_cons, member?_showMember (hc e (by simp))]
    exact congrArg (e :: ·) (ih fun d hd => hc d (List.mem_cons_of_mem _ hd))

/-- A clean state is read back, as far as the limit allows. -/
theorem parse_toHeader {s : TraceState} (hs : s.AllClean) (limit : Nat) :
    parse s.toHeader limit = ⟨s.entries.take limit⟩ := by
  have hread : (splitOn ',' s.toHeader.toList).filterMap member? = s.entries := by
    rw [toList_toHeader]
    by_cases hne : s.entries = []
    · rw [hne]
      rfl
    · rw [splitOn_intercalate]
      · exact filterMap_member? hs
      · simpa using hne
      · intro p hp
        obtain ⟨e, he, rfl⟩ := List.mem_map.mp hp
        exact comma_not_mem_showMember (hs e he)
  exact congrArg TraceState.mk ((entries_parse s.toHeader limit).trans (by rw [hread]))

theorem toHeader_ne_empty {s : TraceState} (hne : s.isEmpty = false) : s.toHeader ≠ "" := by
  intro h
  have hl := congrArg String.toList h
  rw [toList_toHeader] at hl
  obtain ⟨es⟩ := s
  cases es with
  | nil => cases hne
  | cons e es =>
    cases es <;> simp [toList_showMember, List.intercalate_cons_cons] at hl

theorem filter_header? (s : TraceState) : s.header?.filter (· ≠ "") = s.header? := by
  rw [header?]
  cases he : s.isEmpty with
  | true => rfl
  | false => simp [toHeader_ne_empty he]

theorem toHeader_eq_empty_iff (s : TraceState) : s.toHeader = "" ↔ s.entries = [] := by
  constructor
  · intro h
    cases he : s.isEmpty with
    | true => exact List.isEmpty_iff.mp he
    | false => exact absurd h (toHeader_ne_empty he)
  · intro h
    rw [toHeader, h]
    rfl

theorem parse_toHeader_eq_iff (s : TraceState) (limit : Nat) :
    parse s.toHeader limit = s ↔ s.size ≤ limit ∧ s.AllClean := by
  constructor
  · intro h
    rw [← h]
    exact ⟨size_parse_le _ _, allClean_parse _ _⟩
  · rintro ⟨hsize, hclean⟩
    rw [parse_toHeader hclean, List.take_of_length_le hsize]

/-- Writing and reading are inverse exactly on clean states within the limit, and whatever was read
is such a state. -/
theorem toHeader_inverts_exactly (limit : Nat) :
    (∀ s : TraceState, parse s.toHeader limit = s ↔ s.size ≤ limit ∧ s.AllClean) ∧
      (∀ header, (parse header limit).AllClean ∧
        parse (parse header limit).toHeader limit = parse header limit) ∧
          ∀ s : TraceState, s.toHeader = "" ↔ s.entries = [] := by
  refine ⟨fun s => parse_toHeader_eq_iff s limit, ?_, toHeader_eq_empty_iff⟩
  intro header
  have hclean := allClean_parse header limit
  exact ⟨hclean, (parse_toHeader_eq_iff _ limit).mpr ⟨size_parse_le header limit, hclean⟩⟩

/-- A key with a separator is cut at it, and blanks at the end are lost. -/
example : parse (mk [("a=b", "c "), ("k", "")]).toHeader 32 = mk [("a", "b=c"), ("k", "")] := by
  decide +kernel

end TraceState

end TraceIdentity
