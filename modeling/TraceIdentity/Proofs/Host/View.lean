import TraceIdentity.Host.Slot
/-!
# Slots as lists of open scopes

What a slot does is known from the scopes that are open on it, each with the
context entered for it, and from its base value: what is current, what a release
reports and which scopes it leaves open. Two slots with the same view are equal.
-/
namespace TraceIdentity.Slot

theorem map_fst_contents (current : Option SpanContext) (scopes : List OpenScope) :
    (contents current scopes).map (·.1) = scopes.map (·.id) := by
  induction scopes generalizing current with
  | nil => rfl
  | cons scope older ih => simp [contents, ih]

theorem base_cons (current : Option SpanContext) (scope : OpenScope) (older : List OpenScope) :
    base { current, scopes := scope :: older } =
      base { current := scope.restore, scopes := older } := by
  simp only [base, List.getLast?_cons]
  cases older.getLast? <;> rfl

/-- The context of the newest open scope is current, or the base value if no scope is open. -/
theorem current_eq (s : Slot) :
    s.current = match s.opened with
      | [] => s.base
      | newest :: _ => newest.2 := by
  obtain ⟨current, scopes⟩ := s
  cases scopes <;> rfl

theorem depth_eq (s : Slot) : s.depth = s.opened.length := by
  have h := congrArg List.length (map_fst_contents s.current s.scopes)
  simpa [depth, opened] using h.symm

private theorem contents_inj {current current' : Option SpanContext}
    {scopes scopes' : List OpenScope}
    (ho : contents current scopes = contents current' scopes')
    (hb : base { current, scopes } = base { current := current', scopes := scopes' }) :
    current = current' ∧ scopes = scopes' := by
  induction scopes generalizing current current' scopes' with
  | nil =>
    cases scopes' with
    | nil => exact ⟨hb, rfl⟩
    | cons scope' older' => cases ho
  | cons scope older ih =>
    cases scopes' with
    | nil => cases ho
    | cons scope' older' =>
      obtain ⟨hhead, htail⟩ := List.cons.inj ho
      obtain ⟨hid, hcurrent⟩ := Prod.mk.inj hhead
      rw [base_cons, base_cons] at hb
      obtain ⟨hrestore, holder⟩ := ih htail hb
      obtain ⟨id, restore⟩ := scope
      obtain ⟨id', restore'⟩ := scope'
      subst hid hcurrent hrestore holder
      exact ⟨rfl, rfl⟩

theorem ext_opened {s t : Slot} (ho : s.opened = t.opened) (hb : s.base = t.base) : s = t := by
  obtain ⟨current, scopes⟩ := s
  obtain ⟨current', scopes'⟩ := t
  obtain ⟨rfl, rfl⟩ := contents_inj ho hb
  rfl

/-- What the release of a scope reports, from the ids of the open scopes, newest first. -/
def verdict (id : Nat) : List Nat → Except Fault Unit
  | [] => .error .notOpenHere
  | newest :: older =>
    if newest = id then .ok ()
    else
      match older.findIdx? (· = id) with
      | some newer => .error (.outOfOrder (newer + 1))
      | none => .error .notOpenHere

private theorem unlink_count (id : Nat) (newer : OpenScope) (older : List OpenScope) :
    (unlink id newer older).map (·.2) =
      ((older.map (·.id)).findIdx? (· = id)).map (· + 1) := by
  induction older generalizing newer with
  | nil => rfl
  | cons scope older ih =>
    rw [unlink, List.map_cons, List.findIdx?_cons]
    by_cases hid : scope.id = id
    · simp [hid]
    · simpa [hid, Option.map_map, Function.comp_def] using congrArg (Option.map (· + 1)) (ih scope)

theorem close_fst (s : Slot) (id : Nat) :
    (s.close id).1 = verdict id (s.opened.map (·.1)) := by
  obtain ⟨current, scopes⟩ := s
  rw [opened, map_fst_contents]
  cases scopes with
  | nil => rfl
  | cons newest older =>
    by_cases hid : newest.id = id
    · simp [close, verdict, hid]
    · have hcount := unlink_count id newest older
      simp only [close, verdict, List.map_cons, if_neg hid]
      cases hu : unlink id newest older with
      | none =>
        rw [hu] at hcount
        rw [Option.map_eq_none_iff.mp hcount.symm]
      | some p =>
        rw [hu] at hcount
        obtain ⟨n, hn, hp⟩ := Option.map_eq_some_iff.mp hcount.symm
        obtain ⟨scopes, m⟩ := p
        obtain rfl : n + 1 = m := hp
        rw [hn]

private theorem findIdx?_of_not_mem {id : Nat} {ids : List Nat} (h : id ∉ ids) :
    ids.findIdx? (· = id) = none := by
  rw [List.findIdx?_eq_none_iff]
  intro x hx
  have hne : x ≠ id := fun he => h (he ▸ hx)
  simpa using hne

theorem verdict_of_not_mem {id : Nat} {ids : List Nat} (h : id ∉ ids) :
    verdict id ids = .error .notOpenHere := by
  cases ids with
  | nil => rfl
  | cons newest older =>
    rw [List.mem_cons, not_or] at h
    rw [verdict, if_neg (Ne.symm h.1), findIdx?_of_not_mem h.2]

theorem verdict_eq_ok_iff {id : Nat} {ids : List Nat} :
    verdict id ids = .ok () ↔ ids.head? = some id := by
  cases ids with
  | nil => simp [verdict]
  | cons newest older =>
    rw [verdict, List.head?_cons]
    by_cases hid : newest = id
    · simp [hid]
    · rw [if_neg hid]
      split <;> simp [hid]

theorem verdict_append {id : Nat} {newer older : List Nat} (hne : newer ≠ [])
    (h : id ∉ newer) :
    verdict id (newer ++ id :: older) = .error (.outOfOrder newer.length) := by
  obtain ⟨newest, between, rfl⟩ := List.exists_cons_of_ne_nil hne
  rw [List.mem_cons, not_or] at h
  have hfind : (between ++ id :: older).findIdx? (· = id) = some between.length := by
    simp [List.findIdx?_append, findIdx?_of_not_mem h.2, List.findIdx?_cons]
  rw [List.cons_append, verdict, if_neg (Ne.symm h.1), hfind, List.length_cons]

theorem close_of_not_mem {s : Slot} {id : Nat} (h : id ∉ s.opened.map (·.1)) :
    s.close id = (.error .notOpenHere, s) := by
  have hsame : (s.close id).2 = s := by
    refine ext_opened ?_ (base_close s id)
    rw [opened_close, List.eraseP_of_forall_not]
    intro e he hid
    exact h (List.mem_map.mpr ⟨e, he, by simpa using hid⟩)
  have hfst : (s.close id).1 = .error .notOpenHere := by
    rw [close_fst, verdict_of_not_mem h]
  exact Prod.ext hfst hsame

end TraceIdentity.Slot
