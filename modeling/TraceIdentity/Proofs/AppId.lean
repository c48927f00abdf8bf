import TraceIdentity.AppId
/-!
# Reading written application ids

A value is read as an id exactly if it is the pair for that id, and the id is not
empty and has no separator. What one component writes, another one reads unless
either does not know its own id or both are the same.
-/
namespace TraceIdentity.AppId
open Text

theorem resolved_eq_some_iff {self : Option String} {id : String} :
    resolved self = some id ↔ self = some id ∧ id ≠ "" := by
  simp [resolved, Option.filter_eq_some_iff]

theorem resolved_resolved (self : Option String) : resolved (resolved self) = resolved self := by
  simp [resolved, Option.filter_filter]

theorem toList_pair (id : String) : (key ++ "=" ++ id).toList = key.toList ++ '=' :: id.toList := by
  simp

theorem separator_not_mem_key : '=' ∉ key.toList := by
  decide

/-- A value is read exactly if it is the pair that would be written for an id without separator. -/
theorem read_eq_ok_iff {value id : String} :
    read value = .ok id ↔ value = key ++ "=" ++ id ∧ id ≠ "" ∧ '=' ∉ id.toList := by
  constructor
  · intro h
    unfold read at h
    split at h
    · next k v hs =>
      have hjoin := intercalate_splitOn '=' value.toList
      have hsep : '=' ∉ v := not_mem_of_mem_splitOn '=' value.toList v (by simp [hs])
      split at h
      · cases h
      · next hkey =>
        split at h
        · cases h
        · next hv =>
          obtain rfl := Except.ok.inj h
          have hvalue : value.toList = k ++ '=' :: v := by
            rw [← hjoin, hs]
            simp [List.intercalate_cons_cons]
          refine ⟨?_, by simpa using hv, by simpa using hsep⟩
          rw [← String.toList_inj, hvalue, toList_pair, Classical.not_not.mp hkey,
            String.toList_ofList]
    · cases h
  · rintro ⟨rfl, hne, hsep⟩
    have hid : id.toList ≠ [] := by simpa using hne
    rw [read, toList_pair, splitOn_append_cons _ _ _ separator_not_mem_key,
      splitOn_of_not_mem _ _ hsep]
    simp [hid]

theorem other_eq_ok_iff {value : String} {self : Option String} {id : String} :
    other value self = .ok id ↔
      read value = .ok id ∧ ∃ own, resolved self = some own ∧ id ≠ own := by
  unfold other
  cases hread : read value with
  | error f => simp
  | ok found =>
    cases hself : resolved self with
    | none => simp
    | some own =>
      by_cases hsame : found = own
      · subst hsame
        simpa using Eq.symm
      · simp only [if_neg hsame, Except.ok.injEq, Option.some.injEq]
        constructor
        · rintro rfl
          exact ⟨rfl, own, rfl, hsame⟩
        · rintro ⟨rfl, -⟩
          rfl

theorem write_of_resolved {self : Option String} {id : String} (h : resolved self = some id) :
    write self = key ++ "=" ++ id := by
  rw [write, h]

theorem write_of_unresolved {self : Option String} (h : resolved self = none) : write self = "" := by
  rw [write, h]

theorem read_empty : read "" = .error (.pairCount 1) := rfl

theorem pair_inj {a b : String} (h : key ++ "=" ++ a = key ++ "=" ++ b) : a = b := by
  have hlist := congrArg String.toList h
  rw [toList_pair, toList_pair] at hlist
  exact String.toList_inj.mp (List.cons.inj (List.append_cancel_left hlist)).2

/-- What is written for `teller` is taken as the id of another component by `listener`. -/
theorem other_write_eq_ok_iff {teller listener : Option String} {id : String} :
    other (write teller) listener = .ok id ↔
      resolved teller = some id ∧ '=' ∉ id.toList ∧
        ∃ own, resolved listener = some own ∧ id ≠ own := by
  rw [other_eq_ok_iff, ← and_assoc]
  refine and_congr_left fun _ => ?_
  cases h : resolved teller with
  | none =>
    rw [write_of_unresolved h, read_empty]
    simp
  | some told =>
    rw [write_of_resolved h, read_eq_ok_iff]
    constructor
    · rintro ⟨hpair, -, hsep⟩
      exact ⟨congrArg some (pair_inj hpair), hsep⟩
    · rintro ⟨hsame, hsep⟩
      obtain rfl := Option.some.inj hsame
      exact ⟨rfl, (resolved_eq_some_iff.mp h).2, hsep⟩

theorem target_eq (value : String) (self : Option String) :
    target value self = (other value self).toOption.getD "" := by
  unfold target
  cases other value self <;> rfl

end TraceIdentity.AppId
